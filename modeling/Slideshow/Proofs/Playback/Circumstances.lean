import Slideshow.Proofs.Playback.Abreast
import Slideshow.Proofs.Playback.Session

set_option autoImplicit false

namespace Slideshow

namespace Player

section Commands

variable {change : Player → Player}

theorem active_unnoticed (unnoticed : Unnoticed change) (player : Player) :
    (change player).active = player.active := by
  rw [active, active, unnoticed.project, current_aside unnoticed.toAside]

theorem dispatch_unnoticed (unnoticed : Unnoticed change) (project : Project) (triggers : List TriggerRef)
    (player : Player) :
    (change player).dispatch project triggers =
      (change (player.dispatch project triggers).1, (player.dispatch project triggers).2) := by
  simp only [dispatch, unnoticed.queue, unnoticed.take, drain_unnoticed unnoticed]

def changedAnswer (change : Player → Player) (answer : Except Failure Response) : Except Failure Response :=
  answer.map fun response => { response with player := change response.player }

theorem click_unnoticed (unnoticed : Unnoticed change) (id : String) (player : Player) :
    (change player).respond (.click id) = changedAnswer change (player.respond (.click id)) := by
  simp only [respond, click, active_unnoticed unnoticed]
  cases player.active with
  | error failure => rfl
  | ok place =>
      obtain ⟨project, index⟩ := place
      simp only [bind, Except.bind]
      cases project.clicked? index id with
      | none => rfl
      | some triggers =>
          simp only [dispatch_unnoticed unnoticed]
          rfl

theorem ready_unnoticed (unnoticed : Unnoticed change) (project : Project) (player : Player) :
    (change player).ready project = change (player.ready project) := by
  have current := congrArg (·.isNone) (current_aside unnoticed.toAside player)
  rw [ready, ready]
  by_cases idle : player.current.isNone = true
  · rw [if_pos idle, if_pos (current.trans idle)]
    exact unnoticed.unseen.assign _ player _ rfl
  · rw [if_neg idle, if_neg fun idleToo => idle (current.symm.trans idleToo)]

theorem enter_loaded (project : Project) (id : String) (player : Player)
    (loaded : player.project = some project) :
    player.respond (.enter id) =
      match project.slideIndex? id with
      | none => .error (.dangling .slide id)
      | some index => .ok (done ((player.ready project).enterAndDrain project index)) := by
  simp only [respond, enter, ready, loaded]
  cases project.slideIndex? id <;> rfl

theorem enter_unnoticed (unnoticed : Unnoticed change) (id : String) (player : Player) :
    (change player).respond (.enter id) = changedAnswer change (player.respond (.enter id)) := by
  cases loaded : player.project with
  | none =>
      have nothing := (unnoticed.project player).trans loaded
      simp only [respond, enter, loaded, nothing]
      rfl
  | some project =>
      rw [enter_loaded project id player loaded,
        enter_loaded project id _ ((unnoticed.project player).trans loaded), ready_unnoticed unnoticed]
      cases project.slideIndex? id with
      | none => rfl
      | some index =>
          simp only [enter_and_drain_unnoticed unnoticed]
          rfl

end Commands

section Amid

def amid (checks : Bool) (earlier : Array Fault) (player : Player) : Player :=
  { player with
    options := { player.options with validateOnLoad := checks }
    faults := earlier ++ player.faults }

variable (checks : Bool) (earlier : Array Fault)

theorem amid_unseen : Unseen fun player other => other = player.amid checks earlier where
  slide _ _ related := by rw [related]; rfl
  current _ _ related := by rw [related]; rfl
  store _ _ related := by rw [related]; rfl
  layers _ _ related := by rw [related]; rfl
  stand _ _ _ _ related := by rw [related]; rfl
  assign _ _ _ related := by rw [related]; rfl
  uncover _ _ _ related := by rw [related]; rfl
  report _ _ _ related := by rw [related]; simp [amid, report]

theorem amid_unnoticed : Unnoticed (amid checks earlier) where
  unseen := amid_unseen checks earlier
  phase _ := rfl
  queue _ := rfl
  turn _ _ := rfl
  take _ _ := rfl
  limit _ := rfl
  project _ := rfl

theorem load_unchecked_amid (project : Project) (player : Player) :
    ((player.amid checks earlier).loadUnchecked project).1 =
      (player.loadUnchecked project).1.amid checks earlier := by
  have fresh : fresh project { player.amid checks earlier with project := some project } =
      (fresh project { player with project := some project }).amid checks earlier := rfl
  rw [loadUnchecked, loadUnchecked, restart_loaded project _ rfl, restart_loaded project _ rfl, fresh,
    enter_and_drain_unnoticed (amid_unnoticed checks earlier)]
  cases project.slides.isEmpty <;> rfl

end Amid

end Player

end Slideshow
