import Slideshow.Project.Build
import Slideshow.Proofs.Playback.Abreast

set_option autoImplicit false

namespace Slideshow

def Event.fault? : Event → Option Fault
  | .fault reported => some reported
  | _ => none

def faultsIn (events : List Event) : List Fault :=
  events.filterMap Event.fault?

def changesIn (events : List Event) : List Event :=
  events.filter (·.fault?.isNone)

theorem faults_append (events more : List Event) :
    faultsIn (events ++ more) = faultsIn events ++ faultsIn more :=
  List.filterMap_append

theorem changes_append (events more : List Event) :
    changesIn (events ++ more) = changesIn events ++ changesIn more :=
  List.filter_append ..

structure Attempt where
  action : Action
  fault : Option Fault

def succeeding (attempts : List Attempt) : List Action :=
  (attempts.filter (·.fault.isNone)).map (·.action)

namespace Player

def attempts (project : Project) (trigger : String) (host : Nat) : List Action → Player → List Attempt
  | [], _ => []
  | action :: rest, player =>
      let (player, events) := player.perform project trigger host action
      ⟨action, events.findSome? Event.fault?⟩ :: attempts project trigger host rest player

section Recorded

variable {project : Project}

def Records (before : Player) (events : List Event) (after : Player) : Prop :=
  after.faults.toList = before.faults.toList ++ faultsIn events

theorem records_silent (before after : Player) (same : after.faults = before.faults) :
    before.Records [] after := by
  simp [Records, faultsIn, same]

theorem outcome_fails (trigger : String) (host : Nat) (action : Action) (player : Player)
    (result : Player × List Event) (outcome : Outcome project trigger host player action result) :
    (∃ fault, result = player.report fault) ∨
      result.1.faults = player.faults ∧ ∀ event ∈ result.2, event.fault? = none := by
  cases outcome with
  | noSlide | noVariable | refused | noLayer => exact .inl ⟨_, rfl⟩
  | entered => exact .inr ⟨rfl, by simp [Event.fault?]⟩
  | elsewhere => exact .inr ⟨rfl, by simp⟩
  | written | shown => exact .inr ⟨rfl, by split <;> simp [Event.fault?]⟩

theorem report_records (fault : Fault) (player : Player) :
    player.Records (player.report fault).2 (player.report fault).1 := by
  simp [Records, report, faultsIn, Event.fault?]

theorem faults_in_changes (events : List Event) : faultsIn (changesIn events) = [] := by
  simp [faultsIn, changesIn, List.filterMap_filter]

theorem no_faults_in (events : List Event) (silent : ∀ event ∈ events, event.fault? = none) :
    faultsIn events = [] ∧ changesIn events = events ∧ events.findSome? Event.fault? = none := by
  refine ⟨List.filterMap_eq_nil_iff.mpr silent, List.filter_eq_self.mpr fun event member => ?_,
    List.findSome?_eq_none_iff.mpr silent⟩
  rw [silent event member]
  rfl

theorem recorded_traces : Traces project Records where
  stay player := records_silent player player rfl
  append first early middle late last start finish := by
    rw [Records, finish, start, faults_append, List.append_assoc]
  act ref trigger action player result _ _ outcome := by
    rcases outcome_fails trigger.id ref.slide action player result outcome with
      ⟨fault, rfl⟩ | ⟨kept, silent⟩
    · exact report_records fault player
    · rw [Records, kept, (no_faults_in result.2 silent).1, List.append_nil]
  settle index player := by
    rw [settle_frame]
    exact records_silent player _ rfl

end Recorded

section Failing

variable (project : Project) (trigger : String) (host : Nat)

theorem attempts_actions (actions : List Action) (player : Player) :
    (player.attempts project trigger host actions).map (·.action) = actions := by
  induction actions generalizing player with
  | nil => rfl
  | cons action rest ih => exact congrArg (action :: ·) (ih _)

theorem attempts_faults (actions : List Action) (player : Player) :
    faultsIn (player.performAll project trigger host actions).2 =
      (player.attempts project trigger host actions).filterMap (·.fault) := by
  induction actions generalizing player with
  | nil => rfl
  | cons action rest ih =>
      have later := ih (player.perform project trigger host action).1
      simp only [performAll, attempts, faults_append, later]
      rcases outcome_fails trigger host action player _
        (perform_outcome project trigger host action player) with ⟨fault, failed⟩ | ⟨_, silent⟩
      · rw [failed]
        rfl
      · obtain ⟨none, _, found⟩ := no_faults_in _ silent
        rw [none, found]
        rfl

def blameless (player : Player) : Player :=
  { player with faults := #[] }

theorem blameless_unseen : Unseen fun left right => left.blameless = right.blameless where
  slide _ _ := told_alike blameless currentSlideId? fun _ => rfl
  current _ _ := told_alike blameless current fun _ => rfl
  store _ _ := told_alike blameless store fun _ => rfl
  layers _ _ := told_alike blameless layers fun _ => rfl
  stand index slide _ _ := changed_alike blameless (·.standOn index slide) fun _ => rfl
  assign values _ _ := changed_alike blameless (fun player => { player with store := values }) fun _ => rfl
  uncover shown _ _ := changed_alike blameless (fun player => { player with layers := shown }) fun _ => rfl
  report fault _ _ := changed_alike blameless (fun player => (player.report fault).1) fun _ => rfl

theorem report_blameless (fault : Fault) (player : Player) :
    (player.report fault).1.blameless = player.blameless := rfl

theorem perform_succeeding (actions : List Action) (left right : Player)
    (alike : left.blameless = right.blameless) :
    let run := left.performAll project trigger host actions
    let rerun := right.performAll project trigger host
      (succeeding (left.attempts project trigger host actions))
    run.1.blameless = rerun.1.blameless ∧ rerun.2 = changesIn run.2 := by
  induction actions generalizing left right with
  | nil => exact ⟨alike, rfl⟩
  | cons action rest ih =>
      rcases outcome_fails trigger host action left _
        (perform_outcome project trigger host action left) with ⟨fault, failed⟩ | ⟨_, silent⟩
      · have later := ih (left.report fault).1 right ((report_blameless fault left).trans alike)
        simp only [performAll, attempts, failed, changes_append]
        exact later
      · obtain ⟨same, events⟩ := perform_unseen blameless_unseen project trigger host action alike
        obtain ⟨_, changes, found⟩ := no_faults_in _ silent
        have later := ih _ _ same
        have kept : succeeding (left.attempts project trigger host (action :: rest)) = action ::
            succeeding ((left.perform project trigger host action).1.attempts project trigger host rest) := by
          simp [attempts, succeeding, found]
        rw [kept]
        simp only [performAll, changes_append, changes, ← events]
        exact ⟨later.1, congrArg _ later.2⟩

theorem succeeding_of_list (actions : List Action) (player : Player) :
    ∀ action ∈ succeeding (player.attempts project trigger host actions), action ∈ actions := by
  intro action member
  obtain ⟨attempt, kept, rfl⟩ := List.mem_map.mp member
  have all := attempts_actions project trigger host actions player
  exact all ▸ List.mem_map_of_mem (List.mem_of_mem_filter kept)

theorem eq_of_blameless (left right : Player) (alike : left.blameless = right.blameless) :
    left = { right with faults := left.faults } :=
  congrArg (fun player : Player => { player with faults := left.faults }) alike

end Failing

/-- Whatever a session has come to, running a trigger does the same as running those of its actions that
do not fail: the player comes to the same but for its faults, and reports the same changes in the same
order. Each action that fails is reported once and recorded once, in the order of the list. -/
theorem failing_actions_leave_only_faults (project : Project) (player : Player) (ref : TriggerRef)
    (trigger : Trigger) (resolved : ref.resolve project = some trigger) :
    let run := player.fire project ref
    let attempts := player.attempts project trigger.id ref.slide trigger.actions
    let rerun := player.performAll project trigger.id ref.slide (succeeding attempts)
    attempts.map (·.action) = trigger.actions ∧
      rerun.1 = { run.1 with faults := player.faults } ∧ rerun.2 = changesIn run.2 ∧
      faultsIn run.2 = attempts.filterMap (·.fault) ∧
      run.1.faults.toList = player.faults.toList ++ attempts.filterMap (·.fault) := by
  intro run attempts rerun
  have ran : run = player.performAll project trigger.id ref.slide trigger.actions := by
    simp only [run, fire, resolved]
  obtain ⟨same, changes⟩ : run.1.blameless = rerun.1.blameless ∧ rerun.2 = changesIn run.2 :=
    ran ▸ perform_succeeding project trigger.id ref.slide trigger.actions player player rfl
  have faults : faultsIn run.2 = attempts.filterMap (·.fault) :=
    ran ▸ attempts_faults project trigger.id ref.slide trigger.actions player
  have recorded : player.Records run.2 run.1 := do_item_traces recorded_traces (.fire ref) player
  have unblamed : player.Records rerun.2 rerun.1 :=
    perform_all_traces recorded_traces ref trigger resolved _ player
      (succeeding_of_list project trigger.id ref.slide trigger.actions player)
  rw [Records, changes, faults_in_changes, List.append_nil] at unblamed
  have kept : rerun.1.faults = player.faults := Array.toList_inj.mp unblamed
  refine ⟨attempts_actions project trigger.id ref.slide trigger.actions player, ?_, changes, faults, ?_⟩
  · rw [← kept]
    exact eq_of_blameless rerun.1 run.1 same.symm
  · rw [← faults]
    exact recorded

def errand : Project :=
  let run := (((((((Trigger.start "run" .onTimelineStart).add "stops" (.text "one")).showLayer
    "cover").showLayer "lost").navigate "shop").hideLayer "cover").navigate "nowhere").add "stops" (.int32 1)
  (((Project.start "errand" "Errand").withSlide ((Slide.start "home").withLayer
    ((Layer.start "cover").hidden.withObject ((SlideObject.button "door" "Door").withTrigger run)))).withSlide
      (Slide.start "shop")).withVariable (.start "stops" .number (some (.int32 0)))

theorem errand_goes_on :
    let player := (enterSlide errand 0
      { start ⟨false, 9⟩ with project := some errand, store := .seed errand }).1
    let ref : TriggerRef := ⟨0, 0, 0, 0⟩
    ∃ trigger, ref.resolve errand = some trigger ∧
      let run := player.fire errand ref
      let attempts := player.attempts errand "run" 0 trigger.actions
      let rerun := player.performAll errand "run" 0 (succeeding attempts)
      attempts.map (·.fault.isSome) = [true, false, true, false, false, true, false] ∧
        run.1.faults.size = 3 ∧ run.2.length = 6 ∧
        rerun.1 = { run.1 with faults := player.faults } ∧ rerun.2 = changesIn run.2 := by
  intro player ref
  refine ⟨_, rfl, ?_⟩
  obtain ⟨_, same, changes, _⟩ := failing_actions_leave_only_faults errand player ref _ rfl
  exact ⟨by decide +kernel, by decide +kernel, by decide +kernel, same, changes⟩

end Player

end Slideshow
