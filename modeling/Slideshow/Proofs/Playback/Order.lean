import Slideshow.Proofs.Playback.Gathered
import Slideshow.Proofs.Playback.References
import Slideshow.Proofs.Playback.Straight
import Slideshow.Proofs.Playback.Workload
import Mathlib.Data.List.Forall2

set_option autoImplicit false

namespace Slideshow

def Event.entered? : Event → Option String
  | .slideChanged _ entered => some entered
  | _ => none

def Project.entryWork (project : Project) (id : String) : List WorkItem :=
  ((project.slideIndex? id).bind fun index =>
    (project.slides[index]?).map (·.entryWork index)).getD []

-- The work that a session owes for what it has reported.
def brought (project : Project) (events : List Event) : List WorkItem :=
  (events.filterMap Event.entered?).flatMap project.entryWork

def Project.entryRuns (project : Project) (id : String) : List TriggerRef :=
  (project.entryWork id).filterMap WorkItem.fired?

-- The triggers to run for an event that fires some at once and has slides entered.
def due (project : Project) (initial : List TriggerRef) (events : List Event) : List TriggerRef :=
  initial ++ (events.filterMap Event.entered?).flatMap project.entryRuns

theorem brought_append (project : Project) (events more : List Event) :
    brought project (events ++ more) = brought project events ++ brought project more := by
  simp [brought]

theorem entry_work_at (project : Project) (id : String) (index : Nat) (slide : Slide)
    (found : project.slideIndex? id = some index) (there : project.slides[index]? = some slide) :
    project.entryWork id = slide.entryWork index := by
  simp [Project.entryWork, found, there]

theorem mem_entry_work (project : Project) (id : String) (item : WorkItem)
    (member : item ∈ project.entryWork id) : ∃ index slide, project.slideIndex? id = some index ∧
      project.slides[index]? = some slide ∧ item ∈ slide.entryWork index := by
  cases found : project.slideIndex? id with
  | none => simp [Project.entryWork, found] at member
  | some index =>
      obtain ⟨slide, there, _⟩ := slide_of_index project id index found
      rw [entry_work_at project id index slide found there] at member
      exact ⟨index, slide, rfl, there, member⟩

theorem fire_mem_entry_work (slide : Slide) (index : Nat) (ref : TriggerRef) :
    WorkItem.fire ref ∈ slide.entryWork index ↔ ref ∈ slide.entryTriggers index := by
  simp [Slide.entryWork]

theorem settle_mem_entry_work (slide : Slide) (index other : Nat) :
    WorkItem.settle other ∈ slide.entryWork index ↔ other = index := by
  simp [Slide.entryWork]

theorem fired_of_entry_work (slide : Slide) (index : Nat) :
    (slide.entryWork index).filterMap WorkItem.fired? = slide.entryTriggers index := by
  have fires : WorkItem.fired? ∘ WorkItem.fire = some := rfl
  simp [Slide.entryWork, List.filterMap_append, List.filterMap_map, fires, WorkItem.fired?]

theorem fired_of_waiting (project : Project) (initial : List TriggerRef) (events : List Event) :
    (initial.map WorkItem.fire ++ brought project events).filterMap WorkItem.fired? =
      due project initial events := by
  have fires : WorkItem.fired? ∘ WorkItem.fire = some := rfl
  rw [List.filterMap_append, List.filterMap_map, fires, List.filterMap_some, brought,
    List.filterMap_flatMap]
  rfl

-- First in, first out: within the limit the clicks are done before all that came later.
theorem done_first (limit : Nat) (clicks : List TriggerRef) (later done pending : List WorkItem)
    (law : done ++ pending = clicks.map WorkItem.fire ++ later) (most : done.length ≤ limit)
    (spent : pending ≠ [] → done.length = limit) :
    ∃ begun, begun <+: later ∧
      done.filterMap WorkItem.fired? = clicks.take limit ++ begun.filterMap WorkItem.fired? := by
  have front : done = (clicks.take done.length).map WorkItem.fire ++ later.take (done.length - clicks.length) := by
    have taken := congrArg (List.take done.length) law
    rwa [List.take_left, List.take_append, List.length_map, ← List.map_take] at taken
  have enough : clicks.take done.length = clicks.take limit := by
    by_cases finished : pending = []
    · have all := congrArg List.length law
      simp only [finished, List.append_nil, List.length_append, List.length_map] at all
      rw [List.take_of_length_le (by omega), List.take_of_length_le (by omega)]
    · rw [spent finished]
  have fires : WorkItem.fired? ∘ WorkItem.fire = some := rfl
  refine ⟨later.take (done.length - clicks.length), List.take_prefix _ _, ?_⟩
  have fired := congrArg (List.filterMap WorkItem.fired?) front
  rwa [List.filterMap_append, List.filterMap_map, fires, List.filterMap_some, enough] at fired

namespace Player

section Queue

variable (project : Project)

theorem enter_slide_queue (index : Nat) (slide : Slide) (player : Player)
    (there : project.slides[index]? = some slide) (first : project.slideIndex? slide.id = some index) :
    (player.enterSlide project index).1.queue.toList =
      player.queue.toList ++ brought project (player.enterSlide project index).2 := by
  rw [enter_slide_at project index slide player there]
  simp [standOn, Queue.to_list_append, brought, Event.entered?,
    entry_work_at project _ index slide first there]

theorem outcome_queue (trigger : String) (host : Nat) (action : Action) (player : Player)
    (result : Player × List Event) (outcome : Outcome project trigger host player action result) :
    result.1.queue.toList = player.queue.toList ++ brought project result.2 := by
  cases outcome with
  | entered target index slide found there =>
      have first := first_index_of_slide project target index slide found there
      have entered := enter_slide_queue project index slide player there first
      rwa [enter_slide_at project index slide player there] at entered
  | written | shown => split <;> simp [brought, Event.entered?]
  | _ => simp [report, brought, Event.entered?]

theorem queue_traces : Traces project fun before events after =>
    after.queue.toList = before.queue.toList ++ brought project events where
  stay player := by simp [brought]
  append first early middle late last start finish := by
    rw [finish, start, brought_append, List.append_assoc]
  act ref trigger action player result _ _ outcome :=
    outcome_queue project trigger.id ref.slide action player result outcome
  settle index player := by
    rw [settle_frame]
    simp [brought]

-- What was taken and what still waits are what waited before and what was brought since.
theorem work_queue (steps : Nat) (player : Player) :
    (player.work project steps).2.map (·.item) ++ (player.work project steps).1.queue.toList =
      player.queue.toList ++ brought project ((player.work project steps).2.flatMap (·.events)) := by
  induction steps generalizing player with
  | zero => simp [work, brought]
  | succ steps ih =>
      simp only [work]
      cases taken : player.queue.next? with
      | none => simp [brought]
      | some next =>
          obtain ⟨item, rest⟩ := next
          have waited := Queue.to_list_of_next? player.queue rest item taken
          have done := do_item_traces (queue_traces project) item { player with queue := rest }
          have later := ih (doItem project item { player with queue := rest }).1
          simp only [List.map_cons, List.cons_append, List.flatMap_cons, brought_append]
          rw [later, done, waited, List.append_assoc, List.cons_append]

theorem work_conserves (clicks : List TriggerRef) (begun : Player × List Event) (steps : Nat)
    (waits : begun.1.queue.toList = clicks.map WorkItem.fire ++ brought project begun.2) :
    let work := begun.1.work project steps
    work.2.map (·.item) ++ work.1.queue.toList =
      clicks.map WorkItem.fire ++ brought project (begun.2 ++ work.2.flatMap (·.events)) := by
  intro work
  rw [work_queue project steps begun.1, waits, List.append_assoc, ← brought_append]

theorem work_spent (steps : Nat) (player : Player)
    (unfinished : (player.work project steps).1.queue.toList ≠ []) :
    (player.work project steps).2.length = steps := by
  refine turns_of_unfinished project steps player fun finished => unfinished ?_
  rw [Queue.eq_empty_of_next? _ finished]
  rfl

end Queue

section Straight

variable (project : Project)

def runs (project : Project) (player : Player) : List TriggerRef :=
  firedIn (player.work project player.options.maxQueueSteps).2

-- The triggers are run one after another, each to the end of its actions, and nothing else happens
-- but that a limit may be reported at the end.
def Straight (project : Project) (runs : List TriggerRef) (begun : Player × List Event)
    (response : Response) : Prop :=
  let played := begun.1.playAll project runs
  (response.events = begun.2 ++ played.2 ∧ response.player.SameSession played.1) ∨
    ∃ limit, response.events = begun.2 ++ played.2 ++ [.fault (.stepLimitExceeded limit)] ∧
      response.player.SameSession (played.1.report (.stepLimitExceeded limit)).1

theorem fired_in_eq (turns : List Turn) :
    firedIn turns = (turns.map (·.item)).filterMap WorkItem.fired? := by
  rw [List.filterMap_map]
  rfl

theorem runs_and_rest (initial : List TriggerRef) (begun : Player × List Event)
    (waits : begun.1.queue.toList = initial.map WorkItem.fire ++ brought project begun.2) :
    begun.1.runs project ++
        (begun.1.work project begun.1.options.maxQueueSteps).1.queue.toList.filterMap WorkItem.fired? =
      due project initial
        (begun.2 ++ (begun.1.work project begun.1.options.maxQueueSteps).2.flatMap (·.events)) := by
  rw [← fired_of_waiting, ← work_conserves project initial begun _ waits, List.filterMap_append, runs, fired_in_eq]

theorem worked_in_order (initial : List TriggerRef) (begun : Player × List Event) (first : Player)
    (response : Response)
    (waits : begun.1.queue.toList = initial.map WorkItem.fire ++ brought project begun.2)
    (same : begun.1.SameSession first) (worked : Worked project begun response) :
    begun.1.runs project <+: due project initial response.events ∧
      ((∀ limit, Event.fault (.stepLimitExceeded limit) ∉ response.events) →
        begun.1.runs project = due project initial response.events) ∧
      Straight project (begun.1.runs project) (first, begun.2) response := by
  obtain ⟨player, events⟩ := worked
  have all := runs_and_rest project initial begun waits
  have straight := work_straight project begun.1.options.maxQueueSteps begun.1 first same
  rw [← runs] at straight
  rw [drain_eq] at player events
  generalize begun.1.work project begun.1.options.maxQueueSteps = work at player events straight all
  rcases drop_work_cases work.1 with ⟨nothing, undropped⟩ | dropped
  · rw [undropped, List.append_nil] at events
    rw [undropped] at player
    rw [nothing, List.filterMap_nil, List.append_nil, ← events] at all
    refine ⟨all ▸ List.prefix_refl _, fun _ => all, .inl ⟨?_, ?_⟩⟩
    · rw [events, straight.2]
    · rw [player]
      exact (arrive_same _).trans straight.1
  · rw [dropped] at player events
    -- Nothing is entered any more when the rest is dropped.
    have entered : due project initial response.events =
        due project initial (begun.2 ++ work.2.flatMap (·.events)) := by
      rw [events, ← List.append_assoc]
      simp [due, report, Event.entered?]
    refine ⟨?_, fun unreported => absurd ?_ (unreported work.1.options.maxQueueSteps),
      .inr ⟨work.1.options.maxQueueSteps, ?_, ?_⟩⟩
    · rw [entered, ← all]
      exact List.prefix_append _ _
    · rw [events]
      simp [report]
    · rw [events, straight.2, List.append_assoc]
      rfl
    · rw [player]
      exact (arrive_same _).trans (report_same _ _ _ straight.1)

end Straight

section Commands

variable (project : Project)

def EntersKnown (event : Event) : Prop :=
  ∀ id, event.entered? = some id → ∃ index slide,
    project.slideIndex? id = some index ∧ project.slides[index]? = some slide

theorem outcome_enters_known (trigger : String) (host : Nat) (action : Action) (player : Player)
    (result : Player × List Event) (outcome : Outcome project trigger host player action result) :
    ∀ event ∈ result.2, EntersKnown project event := by
  intro event member id entered
  cases outcome with
  | entered target index slide found there =>
      cases List.mem_singleton.mp member
      cases entered
      exact ⟨index, slide, first_index_of_slide project target index slide found there, there⟩
  | written | shown =>
      split at member
      · cases member
      · cases List.mem_singleton.mp member
        cases entered
  | elsewhere => cases member
  | noSlide | noVariable | refused | noLayer =>
      cases List.mem_singleton.mp member
      cases entered

theorem drain_enters_known (player : Player) :
    ∀ event ∈ (player.drain project).2, EntersKnown project event := by
  refine drain_traces project (fun _ events _ => ∀ event ∈ events, EntersKnown project event)
    ?_ ?_ ?_ ?_ player
  · exact {
      stay := fun _ => by simp
      append := fun _ _ _ _ _ early late => List.forall_mem_append.mpr ⟨early, late⟩
      act := fun ref trigger action player result _ _ outcome =>
        outcome_enters_known project trigger.id ref.slide action player result outcome
      settle := fun _ _ => by simp }
  · simp
  · intro player
    rcases drop_work_cases player with ⟨_, undropped⟩ | dropped
    · simp [undropped]
    · rw [dropped]
      simp [report, EntersKnown, Event.entered?]
  · simp

theorem entering_fires_nothing (command : Command) (index : Nat) (player : Player)
    (enters : command.enters project = some index) : player.fires project command = [] := by
  cases command with
  | click | pointerDown => cases enters
  | _ => exact fires_nothing project _ player fun _ => rfl

theorem begun_waits (command : Command) (player : Player) (settled : player.Settled) :
    (player.begun project command).1.queue.toList =
      (player.fires project command).map WorkItem.fire ++
        brought project (player.begun project command).2 := by
  have empty : (player.base command).queue.toList = [] := by
    rw [(base_settled command player settled).1]
    rfl
  unfold begun
  cases enters : command.enters project with
  | none => simp [Queue.to_list_append, empty, brought]
  | some index =>
      obtain ⟨slide, there, first⟩ := command_enters project command index enters
      rw [entering_fires_nothing project command index player enters]
      simp only [enter_slide_queue project index slide _ there first, empty, List.map_nil]

theorem fires_run_first (command : Command) (player : Player) (settled : player.Settled) :
    let begun := player.begun project command
    let worked := begun.1.work project begun.1.options.maxQueueSteps
    ∃ later, later <+: brought project (begun.2 ++ worked.2.flatMap (·.events)) ∧
      begun.1.runs project = (player.fires project command).take player.options.maxQueueSteps ++
        later.filterMap WorkItem.fired? := by
  intro begun worked
  have law := work_conserves project _ begun begun.1.options.maxQueueSteps
    (begun_waits project command player settled)
  rw [← begun_options project command player, runs, fired_in_eq]
  refine done_first _ _ _ _ _ law ?_ fun unfinished => ?_
  · rw [List.length_map]
    exact turns_le project _ _
  · rw [List.length_map]
    exact work_spent project _ _ unfinished

theorem begun_enters_known (command : Command) (player : Player) :
    ∀ event ∈ (player.begun project command).2, EntersKnown project event := by
  unfold begun
  cases enters : command.enters project with
  | none => simp
  | some index =>
      obtain ⟨slide, there, first⟩ := command_enters project command index enters
      simp only [enter_slide_at project index slide _ there, List.mem_singleton, forall_eq]
      rintro id ⟨⟩
      exact ⟨index, slide, first, there⟩

theorem worked_enters_known (begun : Player × List Event) (response : Response)
    (known : ∀ event ∈ begun.2, EntersKnown project event) (worked : Worked project begun response) :
    ∀ event ∈ response.events, EntersKnown project event := by
  rw [worked.2]
  exact List.forall_mem_append.mpr ⟨known, drain_enters_known project begun.1⟩

def StandsOnEntered (before : Player) (events : List Event) (after : Player) : Prop :=
  after.current =
    ((events.filterMap Event.entered?).getLast?.map project.slideIndex?).getD before.current

theorem outcome_stands_on_entered (trigger : String) (host : Nat) (action : Action) (player : Player)
    (result : Player × List Event) (outcome : Outcome project trigger host player action result) :
    player.StandsOnEntered project result.2 result.1 := by
  unfold StandsOnEntered
  cases outcome with
  | entered target index slide found there =>
      have first := first_index_of_slide project target index slide found there
      simp [standOn, Event.entered?, first]
  | written | shown => split <;> simp [Event.entered?]
  | _ => simp [report, Event.entered?]

theorem begun_stands_on_entered (command : Command) (player : Player) :
    (player.base command).StandsOnEntered project (player.begun project command).2
      (player.begun project command).1 := by
  unfold begun
  cases enters : command.enters project with
  | none => simp [StandsOnEntered]
  | some index =>
      obtain ⟨slide, there, first⟩ := command_enters project command index enters
      simp [enter_slide_at project index slide _ there, StandsOnEntered, standOn, Event.entered?, first]

def Clicked (command : Command) (player : Player) (ref : TriggerRef) : Prop :=
  ∃ slide, player.current = some ref.slide ∧ project.slides[ref.slide]? = some slide ∧
    player.hits slide command = some ⟨ref.layer, ref.object⟩

theorem clicked_iff (command : Command) (player : Player) (index : Nat) (slide : Slide)
    (position : ObjectPosition) (current : player.current = some index)
    (there : project.slides[index]? = some slide) (hit : player.hits slide command = some position)
    (ref : TriggerRef) :
    player.Clicked project command ref ↔ ref.slide = index ∧ position = ⟨ref.layer, ref.object⟩ := by
  constructor
  · rintro ⟨other, currentToo, thereToo, hitToo⟩
    obtain rfl : index = ref.slide := Option.some.inj (current.symm.trans currentToo)
    cases there.symm.trans thereToo
    exact ⟨rfl, Option.some.inj (hit.symm.trans hitToo)⟩
  · rintro ⟨rfl, rfl⟩
    exact ⟨slide, current, there, hit⟩

theorem fires_gathered (command : Command) (player : Player) :
    Gathered project .onClick (player.Clicked project command) (player.fires project command) := by
  unfold fires
  cases fired : player.current.bind fun index => (project.slides[index]?).bind fun slide =>
      (player.hits slide command).map (slide.clickTriggers index) with
  | none =>
      refine gathered_nowhere project .onClick _ ?_
      rintro ref ⟨slide, current, there, hit⟩
      simp [current, there, hit] at fired
  | some triggers =>
      obtain ⟨index, current, onSlide⟩ := Option.bind_eq_some_iff.mp fired
      obtain ⟨slide, there, hits⟩ := Option.bind_eq_some_iff.mp onSlide
      obtain ⟨position, hit, rfl⟩ := Option.map_eq_some_iff.mp hits
      have gathered := click_triggers_gathered project index slide position there
      refine ⟨fun ref => ?_, gathered.ordered⟩
      rw [clicked_iff project command player index slide position current there hit ref]
      exact gathered.complete ref

theorem entry_runs_gathered (id : String) (index : Nat) (slide : Slide)
    (found : project.slideIndex? id = some index) (there : project.slides[index]? = some slide) :
    Gathered project .onTimelineStart (·.slide = index) (project.entryRuns id) := by
  rw [Project.entryRuns, entry_work_at project id index slide found there, fired_of_entry_work]
  exact entry_triggers_gathered project index slide there

theorem visits_gathered (events : List Event) (known : ∀ event ∈ events, EntersKnown project event) :
    List.Forall₂ (fun id refs => ∃ index, project.slideIndex? id = some index ∧
        Gathered project .onTimelineStart (·.slide = index) refs)
      (events.filterMap Event.entered?) ((events.filterMap Event.entered?).map project.entryRuns) := by
  refine List.forall₂_map_right_iff.mpr (List.forall₂_same.mpr fun id entered => ?_)
  obtain ⟨event, member, same⟩ := List.mem_filterMap.mp entered
  obtain ⟨index, slide, found, there⟩ := known event member id same
  exact ⟨index, found, entry_runs_gathered project id index slide found there⟩

theorem entered_first (command : Command) (player : Player) (response : Response) (index : Nat)
    (enters : command.enters project = some index)
    (worked : Worked project (player.begun project command) response) :
    ∃ slide later, project.slides[index]? = some slide ∧
      response.events.filterMap Event.entered? = slide.id :: later := by
  obtain ⟨slide, there, _⟩ := command_enters project command index enters
  have first : (player.begun project command).2 =
      [.slideChanged (player.base command).currentSlideId? slide.id] := by
    simp only [begun, enters, enter_slide_at project index slide _ there]
  rw [worked.2, first]
  exact ⟨slide, _, there, rfl⟩

/-- For any command of any session, the triggers that are run are those of the object clicked, then
those of each slide entered, in the order in which the slides are entered; of one object or slide
they are run in document order, all of them and each one once. If the limit is reached, the last
ones are missing and that is reported. They are run one after another, each to its end. The slides
entered are those made current, by the command and by the actions of the triggers. -/
theorem triggers_run_in_order (options : Options) (history : List Command) (command : Command)
    (response : Response)
    (answered : ((Player.start options).run history).respond command = .ok response)
    (loaded : response.player.project = some project) :
    let player := (Player.start options).run history
    let begun := player.begun project command
    let runs := begun.1.runs project
    let entered := response.events.filterMap Event.entered?
    Worked project begun response ∧ Straight project runs begun response ∧
      (player.base command).StandsOnEntered project begun.2 begun.1 ∧
      (∀ trigger host action (before : Player),
        let done := before.perform project trigger host action
        before.StandsOnEntered project done.2 done.1) ∧
      (∀ index, command.enters project = some index → ∃ slide later,
        project.slides[index]? = some slide ∧ entered = slide.id :: later) ∧
      ∃ clicked visits, Gathered project .onClick (player.Clicked project command) clicked ∧
        List.Forall₂ (fun id refs => ∃ index, project.slideIndex? id = some index ∧
          Gathered project .onTimelineStart (·.slide = index) refs) entered visits ∧
        runs <+: clicked ++ visits.flatten ∧
        ((∀ limit, Event.fault (.stepLimitExceeded limit) ∉ response.events) →
          runs = clicked ++ visits.flatten) := by
  intro player begun runs entered
  have settled : player.Settled := run_keeps_settled history _ (start_settled options)
  have answer := respond_answer player command response answered
  have base := (answer_project player command response settled answer).symm.trans loaded
  have worked := answer_worked project player command response settled base answer
  have waits := begun_waits project command player settled
  obtain ⟨part, whole, straight⟩ :=
    worked_in_order project (player.fires project command) begun begun.1 response waits rfl worked
  have known := worked_enters_known project begun response (begun_enters_known project command player) worked
  rw [due, List.flatMap_def] at part whole
  refine ⟨worked, straight, begun_stands_on_entered project command player,
    fun trigger host action before => ?_, fun index enters => ?_, player.fires project command, _,
    fires_gathered project command player, visits_gathered project response.events known, part, whole⟩
  · exact outcome_stands_on_entered project trigger host action before _
      (perform_outcome project trigger host action before)
  · exact entered_first project command player response index enters worked

def relay : Project :=
  let bell := (((SlideObject.button "bell" "Ring").withTrigger
      ((Trigger.start "go" .onClick).navigate "hall")).withTrigger
    ((Trigger.start "count" .onClick).add "rings" (.int32 1))).withTrigger
      ((Trigger.start "further" .onClick).navigate "garden")
  let greeter (id : String) := ((Slide.start id).withLayer ((Layer.start "base").withObject
    ((SlideObject.text "sign" id).withTrigger ((Trigger.start "greet" .onTimelineStart).add "guests" (.int32 1)))))
  (((((Project.start "relay" "Relay").withSlide
    ((Slide.start "lobby").withLayer ((Layer.start "base").withObject bell))).withSlide
      (greeter "hall")).withSlide (greeter "garden")).withVariable
        (.start "rings" .number (some (.int32 0)))).withVariable (.start "guests" .number (some (.int32 0)))

theorem relay_runs_in_order :
    let clicked : List TriggerRef := [⟨0, 0, 0, 0⟩, ⟨0, 0, 0, 1⟩, ⟨0, 0, 0, 2⟩]
    let player (limit : Nat) := (Player.start ⟨true, limit⟩).run [.load relay]
    let begun (limit : Nat) := (player limit).begun relay (.click "bell")
    let response (limit : Nat) : Response := ⟨.fired 3, ((player limit).dispatch relay clicked).1,
      ((player limit).dispatch relay clicked).2⟩
    (∀ limit ∈ [9, 4], (player limit).respond (.click "bell") = .ok (response limit) ∧
        (response limit).player.project = some relay) ∧
      (begun 9).1.runs relay = clicked ++ [⟨1, 0, 0, 0⟩, ⟨2, 0, 0, 0⟩] ∧
      (∃ bells visits, Gathered relay .onClick ((player 9).Clicked relay (.click "bell")) bells ∧
        List.Forall₂ (fun id refs => ∃ index, relay.slideIndex? id = some index ∧
          Gathered relay .onTimelineStart (·.slide = index) refs) ["hall", "garden"] visits ∧
        (begun 9).1.runs relay = bells ++ visits.flatten) ∧
      (begun 4).1.runs relay = clicked ++ [⟨1, 0, 0, 0⟩] ∧
      (response 4).events.filterMap Event.overrun? = [4] ∧
      Straight relay ((begun 4).1.runs relay) (begun 4) (response 4) := by
  intro clicked player begun response
  obtain ⟨_, _, _, _, _, bells, visits, gathered, byVisit, _, whole⟩ :=
    triggers_run_in_order relay ⟨true, 9⟩ [.load relay] (.click "bell") (response 9) rfl rfl
  obtain ⟨_, straight, _⟩ :=
    triggers_run_in_order relay ⟨true, 4⟩ [.load relay] (.click "bell") (response 4) rfl rfl
  have entered : (response 9).events.filterMap Event.entered? = ["hall", "garden"] := by decide +kernel
  have unreported : (response 9).events.filterMap Event.overrun? = [] := by decide +kernel
  refine ⟨?_, by decide +kernel, ⟨bells, visits, gathered, ?_, whole (never_overrun _ unreported)⟩,
    by decide +kernel, by decide +kernel, straight⟩
  · rintro limit (_ | ⟨_, _ | ⟨_, ⟨⟩⟩⟩) <;> exact ⟨rfl, rfl⟩
  · rwa [entered] at byVisit

end Commands

end Player

end Slideshow
