import Slideshow.Proofs.Lookups
import Slideshow.Proofs.Playback.Arrivals

set_option autoImplicit false

namespace Slideshow

def TriggerRef.answers (project : Project) (event : TriggerType) (ref : TriggerRef) : Bool :=
  (ref.resolve project).any (·.event = event)

theorem gathered_answers {project : Project} {event : TriggerType} {place : TriggerRef → Prop}
    {refs : List TriggerRef} (gathered : Gathered project event place refs) (ref : TriggerRef)
    (member : ref ∈ refs) (other : TriggerType) : ref.answers project other = decide (event = other) := by
  obtain ⟨_, trigger, resolved, same⟩ := (gathered.complete ref).mp member
  simp [TriggerRef.answers, resolved, same]

theorem brought_answers_no_click (project : Project) (events : List Event) (ref : TriggerRef)
    (member : WorkItem.fire ref ∈ brought project events) : ref.answers project .onClick = false := by
  obtain ⟨id, _, inWork⟩ := List.mem_flatMap.mp member
  obtain ⟨index, slide, _, there, brings⟩ := mem_entry_work project id _ inWork
  exact gathered_answers (entry_triggers_gathered project index slide there) ref
    ((fire_mem_entry_work slide index ref).mp brings) .onClick

namespace Player

variable (project : Project)

section Commands

variable (command : Command) (player : Player) (settled : player.Settled)

include settled

theorem click_runs :
    (runs project (player.begun project command).1).filter (·.answers project .onClick) =
      (player.fires project command).take player.options.maxQueueSteps := by
  obtain ⟨later, entering, ran⟩ := fires_run_first project command player settled
  have own : ∀ ref ∈ (player.fires project command).take player.options.maxQueueSteps,
      ref.answers project .onClick = true := by
    intro ref member
    simp [gathered_answers (fires_gathered project command player) ref (List.mem_of_mem_take member)]
  have foreign : ∀ ref ∈ later.filterMap WorkItem.fired?, ¬ ref.answers project .onClick = true := by
    intro ref member
    obtain ⟨item, inLater, fires⟩ := List.mem_filterMap.mp member
    cases item with
    | settle index => cases fires
    | fire other =>
        cases fires
        exact Bool.eq_false_iff.mp (brought_answers_no_click project _ _ (entering.mem inLater))
  rw [ran, List.filter_append, List.filter_eq_self.mpr own, List.filter_eq_nil_iff.mpr foreign, List.append_nil]

theorem clicks_beyond (more : player.options.maxQueueSteps < (player.fires project command).length) :
    (player.begun project command).1.options.maxQueueSteps <
      (player.begun project command).1.workload project := by
  refine lt_of_not_ge fun within => ?_
  have finished := (workload_le_iff project _ _).mp within
  have nothing := congrArg Queue.toList (Queue.eq_empty_of_next? _ finished)
  have law := work_conserves project _ (player.begun project command)
    (player.begun project command).1.options.maxQueueSteps (begun_waits project command player settled)
  have lengths := congrArg List.length law
  have most := turns_le project (player.begun project command).1.options.maxQueueSteps
    (player.begun project command).1
  simp only [nothing, Queue.to_list_empty, List.append_nil, List.length_append, List.length_map] at lengths
  rw [begun_options] at lengths most
  omega

end Commands

/-- A click is answered with the number of triggers for clicks of one object, the first one with that id on
the slide that is current. Whatever these triggers do, the ones that are run are the first of them, in
order and each once, up to the limit on the work; no other trigger for clicks is run. So the number is that
of the triggers run exactly if the limit is not below it. If it is, that is reported. -/
theorem clicks_run_up_to_limit (options : Options) (history : List Command) (id : String) (n : Nat)
    (after : Player) (events : List Event)
    (answered : ((Player.start options).run history).respond (.click id) = .ok ⟨.fired n, after, events⟩) :
    let player := (Player.start options).run history
    ∃ project index slide position clicked,
      player.project = some project ∧ player.current = some index ∧ project.slides[index]? = some slide ∧
      slide.locate? id = some position ∧
      slide.objects.findIdx? (fun entry => entry.2.id = id) = some (slide.ordinal position) ∧
      Gathered project .onClick (fun ref => ref.slide = index ∧ position = ⟨ref.layer, ref.object⟩) clicked ∧
      n = clicked.length ∧
      let begun := player.begun project (.click id)
      let ran := begun.1.runs project
      Worked project begun ⟨.fired n, after, events⟩ ∧ Straight project ran begun ⟨.fired n, after, events⟩ ∧
      ran.filter (·.answers project .onClick) = clicked.take options.maxQueueSteps ∧
      ((ran.filter (·.answers project .onClick)).length = n ↔ n ≤ options.maxQueueSteps) ∧
      (options.maxQueueSteps < n → events.filterMap Event.overrun? = [options.maxQueueSteps]) := by
  intro player
  have settled : player.Settled := run_keeps_settled history _ (start_settled options)
  have limit : player.options = options := run_options history _ (start_settled options)
  have answer := respond_answer player (.click id) _ answered
  cases answer with
  | clicked _ project index triggers active found =>
      obtain ⟨loaded, current⟩ := (active_ok_iff player project index).mp active
      obtain ⟨slide, there, onSlide⟩ := Option.bind_eq_some_iff.mp found
      obtain ⟨position, located, returned⟩ := Option.bind_eq_some_iff.mp onSlide
      cases returned
      have fires : player.fires project (.click id) = slide.clickTriggers index position := by
        rw [fires_clicked project index id player current, found, Option.getD_some]
      have worked := answer_worked project player (.click id) _ settled loaded (respond_answer player _ _ answered)
      have waits := begun_waits project (.click id) player settled
      have ran := click_runs project (.click id) player settled
      rw [fires, limit] at ran
      refine ⟨project, index, slide, position, _, loaded, current, there, located, ?_,
        click_triggers_gathered project index slide position there, rfl, worked,
        (worked_in_order project _ _ _ _ waits rfl worked).2.2, ran, ?_, fun more => ?_⟩
      · rw [slide.object_index_located id, located, Option.map_some]
      · rw [ran, List.length_take]
        omega
      · have beyond := clicks_beyond project (.click id) player settled (by rwa [fires, limit])
        have told := worked_beyond project (.click id) player _ worked beyond
        rwa [begun_options, limit] at told

def turnstile : Project :=
  let gate := ((SlideObject.button "gate" "Gate").withTrigger
      ((Trigger.start "through" .onClick).navigate "yard")).withTrigger
    ((Trigger.start "count" .onClick).add "visitors" (.int32 1))
  (((Project.start "turnstile" "Turnstile").withSlide
    ((Slide.start "street").withLayer ((Layer.start "base").withObject gate))).withSlide
      (Slide.start "yard")).withVariable (.start "visitors" .number (some (.int32 0)))

theorem turnstile_counts_what_runs :
    let player := (Player.start {}).run [.load turnstile]
    let (after, events) := player.dispatch turnstile [⟨0, 0, 0, 0⟩, ⟨0, 0, 0, 1⟩]
    let ran := (player.begun turnstile (.click "gate")).1.runs turnstile
    player.respond (.click "gate") = .ok ⟨.fired 2, after, events⟩ ∧
      (ran.filter (·.answers turnstile .onClick)).length = 2 := by
  intro player
  have answered : player.respond (.click "gate") = .ok ⟨.fired 2,
      (player.dispatch turnstile [⟨0, 0, 0, 0⟩, ⟨0, 0, 0, 1⟩]).1,
      (player.dispatch turnstile [⟨0, 0, 0, 0⟩, ⟨0, 0, 0, 1⟩]).2⟩ := rfl
  obtain ⟨project, index, slide, position, clicked, loaded, _, _, _, _, _, _, _, _, _, counted, _⟩ :=
    clicks_run_up_to_limit {} [.load turnstile] "gate" 2 _ _ answered
  obtain rfl : turnstile = project := Option.some.inj loaded
  exact ⟨answered, counted.mpr (by decide)⟩

theorem turnstile_counts_what_is_dropped :
    let player := (Player.start ⟨true, 1⟩).run [.load turnstile]
    let (after, events) := player.dispatch turnstile [⟨0, 0, 0, 0⟩, ⟨0, 0, 0, 1⟩]
    turnstile.diagnostics = [] ∧ player.respond (.click "gate") = .ok ⟨.fired 2, after, events⟩ ∧
      (player.begun turnstile (.click "gate")).1.runs turnstile = [⟨0, 0, 0, 0⟩] ∧
      after.store.get? "visitors" = some (.int32 0) :=
  ⟨by decide +kernel, rfl, by decide +kernel, rfl⟩

end Player

end Slideshow
