import Slideshow.Proofs.Playback.Order

set_option autoImplicit false

namespace Slideshow

namespace WorkItem

def place : WorkItem → Nat
  | .fire ref => ref.slide
  | .settle index => index

end WorkItem

namespace Player

def Active (player : Player) : Prop :=
  ∃ id, player.phase = .active id

def EntryWaits (index : Nat) (slide : Slide) (player : Player) : Prop :=
  ∃ ref ∈ slide.entryTriggers index, WorkItem.fire ref ∈ player.queue.toList

def entered (turns : List Turn) : List String :=
  (turns.flatMap (·.events)).filterMap Event.entered?

-- The end of a navigation to the slide was reached, and no slide has been entered since.
def Ended (turns : List Turn) (index : Nat) : Prop :=
  ∃ early last late, turns = early ++ last :: late ∧ last.item = .settle index ∧ entered late = []

theorem entered_cons (turn : Turn) (rest : List Turn) :
    entered (turn :: rest) = turn.events.filterMap Event.entered? ++ entered rest := by
  simp [entered]

theorem ended_cons (turn : Turn) (rest : List Turn) (index : Nat) :
    Ended (turn :: rest) index ↔ Ended rest index ∨ turn.item = .settle index ∧ entered rest = [] := by
  constructor
  · rintro ⟨early, last, late, split, ends, quiet⟩
    cases early with
    | nil =>
        obtain ⟨rfl, rfl⟩ := List.cons.inj split
        exact .inr ⟨ends, quiet⟩
    | cons first early =>
        obtain ⟨rfl, later⟩ := List.cons.inj split
        exact .inl ⟨early, last, late, later, ends, quiet⟩
  · rintro (⟨early, last, late, rfl, ends, quiet⟩ | ⟨ends, quiet⟩)
    · exact ⟨turn :: early, last, late, rfl, ends, quiet⟩
    · exact ⟨[], turn, rest, rfl, ends, quiet⟩

section Phases

variable (project : Project)

def NavigatesToEntered (before : Player) (events : List Event) (after : Player) : Prop :=
  after.phase = ((events.filterMap Event.entered?).getLast?.map Phase.navigating).getD before.phase

theorem last_entered_append {α : Type} (early late : List Event) (told : String → α) (first : α) :
    (((early ++ late).filterMap Event.entered?).getLast?.map told).getD first =
      ((late.filterMap Event.entered?).getLast?.map told).getD
        (((early.filterMap Event.entered?).getLast?.map told).getD first) := by
  rw [List.filterMap_append, List.getLast?_append]
  cases (late.filterMap Event.entered?).getLast? <;> rfl

theorem outcome_navigates (trigger : String) (host : Nat) (action : Action) (player : Player)
    (result : Player × List Event) (outcome : Outcome project trigger host player action result) :
    player.NavigatesToEntered result.2 result.1 := by
  unfold NavigatesToEntered
  cases outcome with
  | entered target index slide found there => simp [standOn, Event.entered?]
  | written | shown => split <;> simp [Event.entered?]
  | _ => simp [report, Event.entered?]

theorem perform_all_entered (trigger : String) (host : Nat) (actions : List Action) (player : Player) :
    let done := player.performAll project trigger host actions
    player.StandsOnEntered project done.2 done.1 ∧ player.NavigatesToEntered done.2 done.1 := by
  induction actions generalizing player with
  | nil => exact ⟨rfl, rfl⟩
  | cons action rest ih =>
      have outcome := perform_outcome project trigger host action player
      have stands := outcome_stands_on_entered project trigger host action player _ outcome
      have navigates := outcome_navigates project trigger host action player _ outcome
      obtain ⟨standsLater, navigatesLater⟩ := ih (player.perform project trigger host action).1
      unfold StandsOnEntered at stands standsLater ⊢
      unfold NavigatesToEntered at navigates navigatesLater ⊢
      simp only [performAll]
      rw [last_entered_append, last_entered_append, ← stands, ← navigates]
      exact ⟨standsLater, navigatesLater⟩

theorem fire_entered (ref : TriggerRef) (player : Player) :
    let done := player.fire project ref
    player.StandsOnEntered project done.2 done.1 ∧ player.NavigatesToEntered done.2 done.1 := by
  unfold fire
  cases ref.resolve project with
  | none => exact ⟨rfl, rfl⟩
  | some trigger => exact perform_all_entered project trigger.id ref.slide trigger.actions player

theorem settle_active_iff (index : Nat) (player : Player) (playing : player.Playing project) :
    (player.settle project index).Active ↔ player.Active ∨ player.current = some index := by
  obtain ⟨standing, slide, stands, _⟩ := playing.stands
  unfold settle
  cases there : project.slides[index]? with
  | none =>
      refine (or_iff_left fun here => ?_).symm
      obtain rfl : standing = index := Option.some.inj (stands.current.symm.trans here)
      cases there.symm.trans stands.there
  | some slide =>
      by_cases here : player.current = some index
      · simp only [if_pos here]
        exact iff_of_true ⟨slide.id, rfl⟩ (.inr here)
      · simp only [if_neg here]
        exact (or_iff_left here).symm

theorem item_active_iff (item : WorkItem) (player : Player) (playing : player.Playing project) :
    let done := player.doItem project item
    (done.1.Active ↔ done.2.filterMap Event.entered? = [] ∧
      (player.Active ∨ ∃ index, item = .settle index ∧ player.current = some index)) ∧
    player.StandsOnEntered project done.2 done.1 := by
  cases item with
  | settle index =>
      refine ⟨(settle_active_iff project index player playing).trans ?_, ?_⟩
      · simp [doItem]
      · rw [doItem, settle_frame]
        rfl
  | fire ref =>
      obtain ⟨stands, navigates⟩ := fire_entered project ref player
      refine ⟨?_, stands⟩
      simp only [doItem, Active, reduceCtorEq, false_and, exists_const, or_false]
      rw [show (player.fire project ref).1.phase = _ from navigates]
      cases quiet : (player.fire project ref).2.filterMap Event.entered? with
      | nil => simp
      | cons id rest => simp [List.getLast?_eq_some_getLast]

theorem stands_traces : Traces project (StandsOnEntered project) where
  stay _ := rfl
  append first early middle late last start finish := by
    unfold StandsOnEntered at start finish ⊢
    rw [last_entered_append, ← start, finish]
  act ref trigger action player result _ _ outcome :=
    outcome_stands_on_entered project trigger.id ref.slide action player result outcome
  settle index player := by
    rw [settle_frame]
    rfl

theorem quiet_stays (before : Player) (events : List Event) (after : Player)
    (stands : before.StandsOnEntered project events after)
    (quiet : events.filterMap Event.entered? = []) : after.current = before.current := by
  rwa [StandsOnEntered, quiet] at stands

theorem active_after_turn_iff (turn : Turn) (rest : List Turn) (before between after : Player)
    (turned : between.Active ↔ turn.events.filterMap Event.entered? = [] ∧
      (before.Active ∨ ∃ index, turn.item = .settle index ∧ before.current = some index))
    (silent : ∀ index, turn.item = .settle index → turn.events = [])
    (stands : before.StandsOnEntered project turn.events between)
    (standsLater : between.StandsOnEntered project (rest.flatMap (·.events)) after) :
    ((∃ index, after.current = some index ∧ Ended rest index) ∨ entered rest = [] ∧ between.Active) ↔
      (∃ index, after.current = some index ∧ Ended (turn :: rest) index) ∨
        entered (turn :: rest) = [] ∧ before.Active := by
  simp only [turned, ended_cons, entered_cons, List.append_eq_nil_iff]
  by_cases quiet : entered rest = []
  · have here := quiet_stays project between _ after standsLater quiet
    by_cases still : turn.events.filterMap Event.entered? = []
    · rw [here, quiet_stays project before _ between stands still]
      simp only [quiet, still, true_and, and_true, and_or_left, exists_or, or_assoc]
      simp only [and_comm, or_comm]
    · have fires : ∀ index, turn.item ≠ .settle index := fun index ends =>
        still (by rw [silent index ends]; rfl)
      simp only [quiet, still, fires, false_and, and_false, or_false]
  · simp only [quiet, false_and, and_false, or_false]

theorem work_active_iff (steps : Nat) (player : Player) (playing : player.Playing project) :
    let work := player.work project steps
    work.1.Active ↔ (∃ index, work.1.current = some index ∧ Ended work.2 index) ∨
      entered work.2 = [] ∧ player.Active := by
  induction steps generalizing player with
  | zero => simp [work, Ended, entered]
  | succ steps ih =>
      simp only [work]
      cases taken : player.queue.next? with
      | none => simp [Ended, entered]
      | some next =>
          obtain ⟨item, rest⟩ := next
          have ready := take_playing project rest player playing
          have on := (do_item_traces (keeps_traces (playing_keeps project)) item _ ready).1
          obtain ⟨turned, stands⟩ := item_active_iff project item { player with queue := rest } ready
          have standsLater := work_traces (stands_traces project) (fun _ _ _ _ => rfl) steps
            (doItem project item { player with queue := rest }).1
          refine (ih _ on).trans (active_after_turn_iff project ⟨item, _⟩ _ player _ _ turned ?_ stands
            standsLater)
          intro index ends
          subst ends
          rfl

end Phases

section Begun

variable (project : Project)

theorem anew_declares (player : Player) (loaded : player.anew.project = some project) :
    player.anew.Declares project := by
  rw [fresh_anew project player ((anew_project player).symm.trans loaded)]
  exact seed_declares project _ rfl

theorem settled_playing (index : Nat) (player : Player) (settled : player.Settled)
    (loaded : player.project = some project) (current : player.current = some index) :
    player.Playing project := by
  obtain ⟨other, slide, loadedToo, phase, stands, declares⟩ := settled.onSlide index current
  cases loaded.symm.trans loadedToo
  exact ⟨loaded, declares, index, slide, stands, .inl phase⟩

theorem base_declares (command : Command) (player : Player) (index : Nat) (settled : player.Settled)
    (loaded : (player.base command).project = some project)
    (enters : command.enters project = some index) : (player.base command).Declares project := by
  cases command with
  | load given | loadUnchecked given => exact anew_declares project _ loaded
  | restart => exact anew_declares project player loaded
  | stop | click | pointerDown | takeFaults => cases enters
  | enter id =>
      simp only [base] at loaded ⊢
      cases current : player.current with
      | none =>
          simp only [current, Option.isNone_none, if_pos] at loaded ⊢
          exact anew_declares project player loaded
      | some on =>
          simp only [current, Option.isNone_some, Bool.false_eq_true, if_false] at loaded ⊢
          exact (settled_playing project on player settled loaded current).declares

theorem firing_playing (command : Command) (player : Player) (settled : player.Settled)
    (loaded : (player.base command).project = some project) (fires : player.fires project command ≠ []) :
    (player.base command).Playing project := by
  have clicks : ∀ command, player.base command = player →
      (player.base command).project = some project → player.fires project command ≠ [] →
      (player.base command).Playing project := by
    intro command same loaded fires
    rw [same] at loaded ⊢
    cases current : player.current with
    | none => exact absurd (by simp [Player.fires, current]) fires
    | some index => exact settled_playing project index player settled loaded current
  cases command with
  | click | pointerDown => exact clicks _ rfl loaded fires
  | _ => exact absurd (fires_nothing project _ player fun _ => rfl) fires

theorem begun_playing (command : Command) (player : Player) (settled : player.Settled)
    (loaded : (player.base command).project = some project)
    (waits : (player.begun project command).1.queue.toList ≠ []) :
    (player.begun project command).1.Playing project := by
  have due := begun_waits project command player settled
  unfold begun at due waits ⊢
  cases enters : command.enters project with
  | none =>
      simp only [enters, brought, List.filterMap_nil, List.flatMap_nil, List.append_nil] at due waits ⊢
      rw [due] at waits
      have fires : player.fires project command ≠ [] := fun nothing => waits (by rw [nothing]; rfl)
      exact take_playing project _ _ (firing_playing project command player settled loaded fires)
  | some index =>
      obtain ⟨slide, there, first⟩ := command_enters project command index enters
      simp only [enter_slide_at project index slide _ there]
      exact stand_on_playing project index slide _ loaded
        (base_declares project command player index settled loaded enters) there first

theorem begun_active (command : Command) (player : Player)
    (active : (player.begun project command).1.Active) :
    (player.begun project command).2.filterMap Event.entered? = [] := by
  unfold begun at active ⊢
  cases enters : command.enters project with
  | none => rfl
  | some index =>
      obtain ⟨slide, there, _⟩ := command_enters project command index enters
      obtain ⟨id, phase⟩ := active
      simp only [enters, enter_slide_at project index slide _ there, standOn] at phase
      cases phase

end Begun

section Visits

variable (project : Project)

theorem entry_trigger_place (slide : Slide) (index : Nat) (ref : TriggerRef)
    (member : ref ∈ slide.entryTriggers index) : ref.slide = index :=
  ((mem_entry_triggers_iff slide index ref).mp member).1

theorem entry_work_place (id : String) (item : WorkItem) (member : item ∈ project.entryWork id) :
    project.slideIndex? id = some item.place := by
  obtain ⟨index, slide, found, _, brings⟩ := mem_entry_work project id item member
  cases item with
  | fire ref =>
      have entry := (fire_mem_entry_work slide index ref).mp brings
      rw [found, WorkItem.place, entry_trigger_place slide index ref entry]
  | settle other =>
      obtain rfl := (settle_mem_entry_work slide index other).mp brings
      exact found

theorem entry_of_slide (index : Nat) (slide : Slide) (there : project.slides[index]? = some slide)
    (ids : List String) (item : WorkItem) (place : item.place = index)
    (member : item ∈ ids.flatMap project.entryWork) : slide.id ∈ ids := by
  obtain ⟨id, entered, brings⟩ := List.mem_flatMap.mp member
  have found := entry_work_place project id item brings
  rw [place] at found
  obtain ⟨other, thereToo, same⟩ := slide_of_index project id index found
  cases there.symm.trans thereToo
  rwa [same]

theorem clicks_enter_nothing (command : Command) (player : Player) (index : Nat) (slide : Slide)
    (there : project.slides[index]? = some slide) (ref : TriggerRef)
    (entry : ref ∈ slide.entryTriggers index) : ref ∉ player.fires project command := by
  intro fired
  obtain ⟨_, trigger, resolved, click⟩ := ((fires_gathered project command player).complete ref).mp fired
  obtain ⟨_, other, resolvedToo, start⟩ :=
    ((entry_triggers_gathered project index slide there).complete ref).mp entry
  cases resolved.symm.trans resolvedToo
  cases click.symm.trans start

theorem ended_member (turns : List Turn) (index : Nat) (ended : Ended turns index) :
    WorkItem.settle index ∈ turns.map (·.item) := by
  obtain ⟨early, last, late, rfl, ends, _⟩ := ended
  simp [ends]

theorem pending_after_first {α : Type} (done pending before after : List α) (x : α)
    (split : done ++ pending = before ++ x :: after) (first : x ∉ before) (reached : x ∈ done) :
    pending <:+ after := by
  rcases List.append_eq_append_iff.mp split with ⟨more, rfl, _⟩ | ⟨more, rfl, rest⟩
  · exact absurd (List.mem_append_left more reached) first
  · cases more with
    | nil =>
        rw [List.append_nil] at reached
        exact absurd reached first
    | cons y more =>
        obtain ⟨_, rfl⟩ := List.cons.inj rest
        exact List.suffix_append more pending

-- The end that was reached is that of an earlier visit: that of the last one waits behind its triggers.
theorem entered_again (clicks : List TriggerRef) (ids : List String) (done pending : List WorkItem)
    (law : done ++ pending = clicks.map WorkItem.fire ++ ids.flatMap project.entryWork)
    (index : Nat) (slide : Slide) (there : project.slides[index]? = some slide)
    (found : project.slideIndex? slide.id = some index) (reached : WorkItem.settle index ∈ done)
    (ref : TriggerRef) (entry : ref ∈ slide.entryTriggers index) (waits : WorkItem.fire ref ∈ pending) :
    2 ≤ ids.count slide.id := by
  have fired : ∀ refs : List TriggerRef, WorkItem.settle index ∉ refs.map WorkItem.fire := by simp
  have brings : WorkItem.settle index ∈ ids.flatMap project.entryWork := by
    have member := List.mem_append_left pending reached
    rw [law] at member
    exact (List.mem_append.mp member).resolve_left (fired clicks)
  have visited := entry_of_slide project index slide there ids _ rfl brings
  obtain ⟨earlier, later, rfl, unvisited⟩ := List.eq_append_cons_of_mem visited
  have split : done ++ pending =
      (clicks.map WorkItem.fire ++ earlier.flatMap project.entryWork ++
          (slide.entryTriggers index).map WorkItem.fire) ++
        WorkItem.settle index :: later.flatMap project.entryWork := by
    rw [law, List.flatMap_append, List.flatMap_cons, entry_work_at project _ index slide found there,
      Slide.entryWork]
    simp
  have after : pending <:+ later.flatMap project.entryWork := by
    refine pending_after_first done pending _ _ _ split ?_ reached
    simp only [List.mem_append, not_or]
    exact ⟨⟨fired clicks, fun before =>
      unvisited (entry_of_slide project index slide there earlier _ rfl before)⟩, fired _⟩
  have again := entry_of_slide project index slide there later (.fire ref)
    (entry_trigger_place slide index ref entry) (after.subset waits)
  have more := List.count_pos_iff.mpr again
  rw [List.count_append, List.count_cons_self]
  omega

theorem work_of_nothing (steps : Nat) (player : Player) (nothing : player.queue.toList = []) :
    player.work project steps = (player, []) := by
  apply work_nothing
  rw [Queue.eq_empty_of_to_list_eq_nil _ nothing]
  rfl

theorem active_iff_ended (clicks : List TriggerRef) (begun : Player × List Event) (steps : Nat)
    (playing : begun.1.Playing project)
    (waits : begun.1.queue.toList = clicks.map WorkItem.fire ++ brought project begun.2)
    (quiet : begun.1.Active → begun.2.filterMap Event.entered? = [])
    (index : Nat) (current : (begun.1.work project steps).1.current = some index)
    (ref : TriggerRef) (other : ref ∉ clicks)
    (pending : WorkItem.fire ref ∈ (begun.1.work project steps).1.queue.toList) :
    (begun.1.work project steps).1.Active ↔ Ended (begun.1.work project steps).2 index := by
  have law := work_conserves project clicks begun steps waits
  refine (work_active_iff project steps begun.1 playing).trans ⟨?_, fun ended => .inl ⟨index, current, ended⟩⟩
  rintro (⟨here, standing, ended⟩ | ⟨silent, active⟩)
  · cases current.symm.trans standing
    exact ended
  · have nothing : brought project (begun.2 ++ (begun.1.work project steps).2.flatMap (·.events)) = [] := by
      rw [brought, List.filterMap_append, quiet active, show List.filterMap _ _ = _ from silent]
      rfl
    have member := List.mem_append_right ((begun.1.work project steps).2.map (·.item)) pending
    rw [law, nothing, List.append_nil] at member
    simp [other] at member

/-- While entry triggers of the current slide wait, a player is navigating to it, unless the end of an
earlier visit was reached since the slide was entered last. That takes a slide that is entered at least
twice for one event. -/
theorem phase_while_entries_wait (options : Options) (history : List Command) (command : Command)
    (response : Response)
    (answered : ((Player.start options).run history).respond command = .ok response)
    (loaded : response.player.project = some project) (steps : Nat) :
    let player := (Player.start options).run history
    let begun := player.begun project command
    let (between, turns) := begun.1.work project steps
    Worked project begun response ∧
      ∀ index slide, between.current = some index → project.slides[index]? = some slide →
        between.EntryWaits index slide →
        (between.phase = .active slide.id ↔ Ended turns index) ∧
        (between.phase = .navigating slide.id ↔ ¬ Ended turns index) ∧
        (Ended turns index →
          2 ≤ ((begun.2 ++ turns.flatMap (·.events)).filterMap Event.entered?).count slide.id) := by
  intro player begun
  have settled : player.Settled := run_keeps_settled history _ (start_settled options)
  have answer := respond_answer player command response answered
  have base := (answer_project player command response settled answer).symm.trans loaded
  refine ⟨answer_worked project player command response settled base answer, ?_⟩
  intro index slide current there waiting
  obtain ⟨ref, entry, pending⟩ := waiting
  have waits := begun_waits project command player settled
  have busy : begun.1.queue.toList ≠ [] := by
    intro nothing
    rw [work_of_nothing project steps begun.1 nothing, nothing] at pending
    cases pending
  have playing := begun_playing project command player settled base busy
  have active := active_iff_ended project (player.fires project command) begun steps playing waits
    (begun_active project command player) index current ref
    (clicks_enter_nothing project command player index slide there ref entry) pending
  obtain ⟨standing, on, stands, phase⟩ :=
    (work_keeps (playing_keeps project) steps begun.1 playing).1.stands
  obtain rfl : standing = index := Option.some.inj (stands.current.symm.trans current)
  cases stands.there.symm.trans there
  have law := work_conserves project _ begun steps waits
  refine ⟨?_, ?_, fun ended => ?_⟩
  · rw [← active]
    rcases phase with here | here <;> simp [Active, here]
  · rw [← active]
    rcases phase with here | here <;> simp [Active, here]
  · exact entered_again project _ _ _ _ law standing slide there stands.first (ended_member _ _ ended) ref
      entry pending

end Visits

def encore : Project :=
  let press := ((Trigger.start "press" .onClick).navigate "there").navigate "there"
  let count := (Trigger.start "count" .onTimelineStart).add "visits" (.int32 1)
  (((Project.start "encore" "Encore").withSlide
    ((Slide.start "here").withLayer ((Layer.start "buttons").withObject
      ((SlideObject.button "go" "Go").withTrigger press)))).withSlide
    ((Slide.start "there").withLayer ((Layer.start "notes").withObject
      ((SlideObject.text "note" "Visited").withTrigger count)))).withVariable
    (.start "visits" .number (some (.int32 0)))

theorem encore_navigates_first :
    let player := (Player.start {}).run [.loadUnchecked encore]
    let (fired, events) := player.dispatch encore [⟨0, 0, 0, 0⟩]
    let (between, turns) := (player.begun encore (.click "go")).1.work encore 1
    player.respond (.click "go") = .ok ⟨.fired 1, fired, events⟩ ∧ between.phase = .navigating "there" ∧
      ¬ Ended turns 1 ∧ ∃ slide, encore.slides[1]? = some slide ∧ between.EntryWaits 1 slide := by
  intro player
  have answered : player.respond (.click "go") =
      .ok ⟨.fired 1, (player.dispatch encore [⟨0, 0, 0, 0⟩]).1, (player.dispatch encore [⟨0, 0, 0, 0⟩]).2⟩ := rfl
  have told := (phase_while_entries_wait encore {} [.loadUnchecked encore] (.click "go") _ answered rfl 1).2
    1 _ (by decide +kernel) rfl ⟨⟨1, 0, 0, 0⟩, by decide +kernel, by decide +kernel⟩
  have phase : ((player.begun encore (.click "go")).1.work encore 1).1.phase = .navigating "there" := by
    decide +kernel
  exact ⟨answered, phase, told.2.1.mp phase, _, rfl, ⟨1, 0, 0, 0⟩, by decide +kernel, by decide +kernel⟩

theorem encore_is_active_too_early :
    let player := (Player.start {}).run [.loadUnchecked encore]
    let (fired, events) := player.dispatch encore [⟨0, 0, 0, 0⟩]
    let between := ((player.begun encore (.click "go")).1.work encore 3).1
    encore.diagnostics = [] ∧ player.respond (.click "go") = .ok ⟨.fired 1, fired, events⟩ ∧
      between.current = some 1 ∧ between.phase = .active "there" ∧
      ∃ slide, encore.slides[1]? = some slide ∧ between.EntryWaits 1 slide := by
  refine ⟨by decide +kernel, rfl, by decide +kernel, by decide +kernel, _, rfl, ⟨1, 0, 0, 0⟩, ?_, ?_⟩ <;>
    decide +kernel

end Player

end Slideshow
