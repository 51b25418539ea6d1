import Slideshow.Proofs.Playback.Abreast
import Slideshow.Proofs.Playback.References
import Slideshow.Proofs.Playback.Refusal

set_option autoImplicit false

namespace Slideshow

namespace Player

def recalling (kept : Array Fault) (player : Player) : Player :=
  { player with faults := kept ++ player.faults }

section Recalling

variable (kept : Array Fault)

theorem recalling_unseen : Unseen fun player other => other = player.recalling kept where
  slide _ _ related := by rw [related]; rfl
  current _ _ related := by rw [related]; rfl
  store _ _ related := by rw [related]; rfl
  layers _ _ related := by rw [related]; rfl
  stand _ _ _ _ related := by rw [related]; rfl
  assign _ _ _ related := by rw [related]; rfl
  uncover _ _ _ related := by rw [related]; rfl
  report _ _ _ related := by rw [related]; simp [recalling, report]

theorem recalling_unnoticed : Unnoticed (recalling kept) where
  unseen := recalling_unseen kept
  phase _ := rfl
  queue _ := rfl
  turn _ _ := rfl
  take _ _ := rfl
  limit _ := rfl
  project _ := rfl

end Recalling

section Starts

variable (project : Project) (player : Player) (loaded : player.project = some project)

def opened (player : Player) : Player × List Event :=
  (start player.options).loadUnchecked project

include loaded

theorem fresh_recalling :
    player.fresh project =
      (fresh project { start player.options with project := some project }).recalling player.faults := by
  obtain ⟨options, given, phase, current, store, layers, queue, faults⟩ := player
  cases loaded
  simp [fresh, stop, start, recalling]

theorem restart_opened :
    player.restart = ((player.opened project).1.recalling player.faults, (player.opened project).2) := by
  rw [opened, loadUnchecked, restart_loaded project player loaded, restart_loaded project _ rfl,
    fresh_recalling project player loaded]
  by_cases empty : project.slides.isEmpty = true
  · simp only [if_pos empty]
  · simp only [if_neg empty, enter_and_drain_unnoticed (recalling_unnoticed player.faults)]

theorem enter_from_idle (slide : Slide) (first : project.slides[0]? = some slide) :
    player.stop.respond (.enter slide.id) = .ok (done player.restart) := by
  have slides : ¬ project.slides.isEmpty = true := by
    cases same : project.slides <;> simp [same] at first ⊢
  have found := first_slide_index project slide first
  rw [restart_loaded project player loaded, if_neg slides]
  obtain ⟨options, given, phase, current, store, layers, queue, faults⟩ := player
  cases loaded
  simp only [respond, enter, stop, found, Except.map]
  rfl

end Starts

end Player

namespace Stage

def followedBy (stage next : Stage) : Stage :=
  ⟨next.player.recalling stage.player.faults, stage.heard ++ next.heard⟩

/-- Whatever has been played on a stage, to restart it and to stop it and enter the first slide end in
the same session as a new player that loads the project: with the same slide, variables and layers, no
work left, and the same events and faults on the way. -/
theorem every_start_agrees (stage : Stage) (project : Project) (slide : Slide)
    (loaded : stage.player.project = some project) (first : project.slides[0]? = some slide) :
    let opened : Stage := ⟨.start stage.player.options, []⟩
    let loading := opened.call (.loadUnchecked project)
    let restarting := stage.call .restart
    let stopping := stage.call .stop
    let entering := stopping.after.call (.enter slide.id)
    loading.answer = .ok .done ∧
      restarting.answer = .ok .done ∧ restarting.after = stage.followedBy loading.after ∧
      stopping.answer = .ok .done ∧ stopping.after.heard = stage.heard ∧
      entering.answer = .ok .done ∧ entering.after = stage.followedBy loading.after := by
  intro opened loading restarting stopping entering
  have restarted := Player.restart_opened project stage.player loaded
  have entered := Player.enter_from_idle project stage.player loaded slide first
  have start : loading = ⟨.loadUnchecked project, .ok .done,
      ⟨(stage.player.opened project).1, (stage.player.opened project).2⟩⟩ := call_eq _ _
  have stopped : stopping = ⟨.stop, .ok .done, ⟨stage.player.stop, stage.heard⟩⟩ := by
    simp only [stopping, call_eq, Player.respond, List.append_nil]
  have again : restarting = ⟨.restart, .ok .done, stage.followedBy loading.after⟩ := by
    simp only [restarting, call_eq, Player.respond, Player.done, restarted, start, followedBy]
  have fromIdle : entering = ⟨.enter slide.id, .ok .done, stage.followedBy loading.after⟩ := by
    simp only [entering, stopped, call_eq, entered, Player.done, restarted, start, followedBy]
  rw [again, fromIdle, stopped, start]
  exact ⟨rfl, rfl, rfl, rfl, rfl, rfl, rfl⟩

def foyer : Project :=
  let bell := ((SlideObject.button "bell" "Ring").withTrigger
      ((Trigger.start "count" .onClick).add "visitors" (.int32 1))).withTrigger
    ((Trigger.start "lead" .onClick).navigate "gone")
  (((Project.start "foyer" "Foyer").withSlide
    ((Slide.start "door").withLayer ((Layer.start "base").withObject bell))).withSlide
      (Slide.start "hall")).withVariable (.start "visitors" .number (some (.int32 0)))

theorem foyer_starts_over :
    let opened : Stage := ⟨.start ⟨true, 9⟩, []⟩
    let stage := opened.after [.loadUnchecked foyer, .click "bell", .enter "hall"]
    let slide := foyer.slides.get ⟨0, by decide⟩
    let loaded := (opened.call (.loadUnchecked foyer)).after
    let restarted := (stage.call .restart).after
    let entered := ((stage.call .stop).after.call (.enter slide.id)).after
    stage.player.project = some foyer ∧ foyer.slides[0]? = some slide ∧
      stage.player.currentSlideId? = some "hall" ∧ stage.player.faults.size = 1 ∧
      stage.player.store.get? "visitors" = some (.int32 1) ∧
      restarted = stage.followedBy loaded ∧ entered = stage.followedBy loaded ∧
      restarted.player.currentSlideId? = some "door" ∧ restarted.player.faults.size = 1 ∧
      loaded.player.store.get? "visitors" = some (.int32 0) ∧
      restarted.player.store.get? "visitors" = some (.int32 0) ∧
      entered.player.store.get? "visitors" = some (.int32 0) := by
  intro opened stage slide loaded restarted entered
  have playing : stage.player.project = some foyer := rfl
  have first : foyer.slides[0]? = some slide := rfl
  have counted : stage.player.store.get? "visitors" = some (.int32 1) := rfl
  have seeded : loaded.player.store.get? "visitors" = some (.int32 0) := rfl
  obtain ⟨_, _, again, _, _, _, fromIdle⟩ := stage.every_start_agrees foyer slide playing first
  exact ⟨playing, first, by decide +kernel, by decide +kernel, counted, again, fromIdle, by decide +kernel,
    by decide +kernel, seeded, (congrArg (·.player.store.get? "visitors") again).trans seeded,
    (congrArg (·.player.store.get? "visitors") fromIdle).trans seeded⟩

end Stage

end Slideshow
