import Slideshow.Proofs.Playback.Abreast
import Mathlib.Logic.Basic

set_option autoImplicit false

namespace Slideshow

def WorkItem.fired? : WorkItem → Option TriggerRef
  | .fire ref => some ref
  | .settle _ => none

namespace Player

def resting (player : Player) : Player :=
  { player with phase := .idle, queue := .empty }

def SameSession (left right : Player) : Prop :=
  left.resting = right.resting

def playAll (project : Project) : List TriggerRef → Player → Player × List Event
  | [], player => (player, [])
  | ref :: rest, player =>
      let (player, events) := player.fire project ref
      let (player, more) := playAll project rest player
      (player, events ++ more)

variable (project : Project)

theorem resting_unseen : Unseen SameSession where
  slide _ _ := told_alike resting currentSlideId? fun _ => rfl
  current _ _ := told_alike resting current fun _ => rfl
  store _ _ := told_alike resting store fun _ => rfl
  layers _ _ := told_alike resting layers fun _ => rfl
  stand index slide _ _ := changed_alike resting (·.standOn index slide) fun _ => rfl
  assign values _ _ := changed_alike resting (fun player => { player with store := values }) fun _ => rfl
  uncover shown _ _ := changed_alike resting (fun player => { player with layers := shown }) fun _ => rfl
  report fault _ _ := changed_alike resting (fun player => (player.report fault).1) fun _ => rfl

theorem fire_same (ref : TriggerRef) (left right : Player) (same : left.SameSession right) :
    (left.fire project ref).1.SameSession (right.fire project ref).1 ∧
      (left.fire project ref).2 = (right.fire project ref).2 :=
  fire_abreast (unseen_abreast resting_unseen project) ref same

theorem settle_same (index : Nat) (player : Player) : (player.settle project index).SameSession player := by
  rw [settle_frame]
  rfl

def firedIn (turns : List Turn) : List TriggerRef :=
  turns.filterMap (·.item.fired?)

-- However the queue mixes the work of several visits, it comes down to running one trigger after
-- another.
theorem work_straight (steps : Nat) (player other : Player) (same : player.SameSession other) :
    (player.work project steps).1.SameSession
        (other.playAll project (firedIn (player.work project steps).2)).1 ∧
      (player.work project steps).2.flatMap (·.events) =
        (other.playAll project (firedIn (player.work project steps).2)).2 := by
  induction steps generalizing player other with
  | zero => exact ⟨same, rfl⟩
  | succ steps ih =>
      simp only [work]
      cases player.queue.next? with
      | none => exact ⟨same, rfl⟩
      | some next =>
          obtain ⟨item, rest⟩ := next
          have taken : SameSession { player with queue := rest } other := same
          cases item with
          | fire ref =>
              have first := fire_same project ref _ other taken
              have later := ih _ _ first.1
              exact ⟨later.1, congrArg₂ _ first.2 later.2⟩
          | settle index =>
              have later := ih _ other ((settle_same project index _).trans taken)
              exact ⟨later.1, later.2⟩

theorem arrive_same (player : Player) : player.arrive.SameSession player := by
  rw [arrive_frame]
  rfl

theorem report_same (fault : Fault) (left right : Player) (same : left.SameSession right) :
    (left.report fault).1.SameSession (right.report fault).1 :=
  resting_unseen.report fault left right same

end Player

end Slideshow
