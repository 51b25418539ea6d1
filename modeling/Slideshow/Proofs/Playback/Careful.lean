import Slideshow.Playback.Careful
import Slideshow.Proofs.Playback.Arrivals
import Slideshow.Proofs.Playback.Pointing

set_option autoImplicit false

namespace Slideshow

def TriggerRef.Leads (project : Project) (event : TriggerType) (index : Nat) (ref : TriggerRef) : Prop :=
  ref.slide = index ∧ ∃ trigger, ref.resolve project = some trigger ∧ trigger.event = event

theorem click_trigger_leads (project : Project) (index : Nat) (slide : Slide) (position : ObjectPosition)
    (there : project.slides[index]? = some slide) (ref : TriggerRef)
    (member : ref ∈ slide.clickTriggers index position) : ref.Leads project .onClick index := by
  have gathered := click_triggers_gathered project index slide position there
  obtain ⟨⟨host, _⟩, resolves⟩ := (gathered.complete ref).mp member
  exact ⟨host, resolves⟩

theorem entry_trigger_leads (project : Project) (index : Nat) (slide : Slide)
    (there : project.slides[index]? = some slide) (ref : TriggerRef)
    (member : ref ∈ slide.entryTriggers index) : ref.Leads project .onTimelineStart index :=
  ((entry_triggers_gathered project index slide there).complete ref).mp member

def WorkItem.Sound (project : Project) : WorkItem → Prop
  | .fire ref => ∃ trigger, ref.resolve project = some trigger
  | .settle index => ∃ slide, project.slides[index]? = some slide

def SoundWork (project : Project) (work : List WorkItem) : Prop :=
  ∀ item ∈ work, item.Sound project

theorem entry_work_sound (project : Project) (index : Nat) (slide : Slide)
    (there : project.slides[index]? = some slide) : SoundWork project (slide.entryWork index) := by
  intro item member
  cases item with
  | fire ref =>
      have entry := (fire_mem_entry_work slide index ref).mp member
      obtain ⟨_, trigger, resolved, _⟩ := entry_trigger_leads project index slide there ref entry
      exact ⟨trigger, resolved⟩
  | settle other =>
      obtain rfl := (settle_mem_entry_work slide index other).mp member
      exact ⟨slide, there⟩

theorem brought_sound (project : Project) (events : List Event) : SoundWork project (brought project events) := by
  intro item member
  obtain ⟨id, _, inWork⟩ := List.mem_flatMap.mp member
  obtain ⟨index, slide, _, there, brings⟩ := mem_entry_work project id item inWork
  exact entry_work_sound project index slide there item brings

namespace Careful

section Actions

variable (project : Project) (trigger : String) (host : Nat) (player : Player)

theorem slide_at (index : Nat) (slide : Slide) (there : project.slides[index]? = some slide) :
    slideAt project index = .ok slide := by
  rw [slideAt, there]
  rfl

theorem enter_slide_careful (index : Nat) (slide : Slide) (there : project.slides[index]? = some slide) :
    enterSlide project index player = .ok (player.enterSlide project index) := by
  rw [enterSlide, slide_at project index slide there, Player.enter_slide_at project index slide player there]
  rfl

theorem get?_write (store : VariableStore) (target : String) (old : Option Value) (value : Value)
    (declared : store.entry? target = some old) :
    (store.write target value).get? target = some value.normalized := by
  have updated := IdMap.get?_update store.values target target (some value.normalized)
  rw [show store.values.get? target = some old from declared, Option.map_some, if_pos rfl] at updated
  exact congrArg Option.join updated

theorem set_variable_careful (target : String) (operation : SetOperation) (operand : Option Value) :
    setVariable trigger target operation operand player =
      .ok (player.setVariable trigger target operation operand) := by
  unfold setVariable Player.setVariable
  cases declared : player.store.entry? target with
  | none =>
      simp only [VariableStore.contains, declared, Option.isSome_none, Bool.false_eq_true, if_false]
      rfl
  | some old =>
      simp only [VariableStore.contains, VariableStore.get?, declared, Option.isSome_some, if_true,
        Option.join_some]
      cases applied : operation.apply old operand with
      | error cause => rfl
      | ok value =>
          have read := get?_write player.store target old value declared
          simp only [VariableStore.get?] at read
          simp only [VariableStore.set, declared, read]
          rfl

theorem set_layer_careful (target : String) (visible : Bool) :
    setLayer trigger host target visible player = .ok (player.setLayer trigger host target visible) := by
  unfold setLayer Player.setLayer LayerState.set
  by_cases here : player.current = some host
  · simp only [if_pos here]
    cases present : player.layers.isVisible? target with
    | none => rfl
    | some before => by_cases same : before = visible <;> simp [same] <;> rfl
  · simp only [if_neg here]
    rfl

theorem perform_careful (action : Action) :
    perform project trigger host action player = .ok (player.perform project trigger host action) := by
  cases action with
  | navigateToSlide target =>
      simp only [perform, Player.perform]
      cases found : project.slideIndex? target with
      | none => rfl
      | some index =>
          obtain ⟨slide, there, _⟩ := slide_of_index project target index found
          exact enter_slide_careful project player index slide there
  | setVariable target operation operand => exact set_variable_careful trigger player target operation operand
  | showLayer target => exact set_layer_careful trigger host player target true
  | hideLayer target => exact set_layer_careful trigger host player target false

theorem perform_all_careful (actions : List Action) :
    performAll project trigger host actions player = .ok (player.performAll project trigger host actions) := by
  induction actions generalizing player with
  | nil => rfl
  | cons action rest ih =>
      rw [performAll, perform_careful]
      simp only [bind, Except.bind, ih]
      rfl

theorem do_item_careful (item : WorkItem) (sound : item.Sound project) :
    doItem project item player = .ok (player.doItem project item) := by
  cases item with
  | fire ref =>
      obtain ⟨trigger, resolved⟩ := sound
      simp only [doItem, fire, Player.doItem, Player.fire, resolved]
      exact perform_all_careful project trigger.id ref.slide player trigger.actions
  | settle index =>
      obtain ⟨slide, there⟩ := sound
      simp only [doItem, settle, Player.doItem, Player.settle, there, slide_at project index slide there]
      split <;> rfl

end Actions

section Work

variable (project : Project)

theorem work_careful (steps : Nat) (player : Player) (sound : SoundWork project player.queue.toList) :
    work project steps player = .ok (player.work project steps) := by
  induction steps generalizing player with
  | zero => rfl
  | succ steps ih =>
      simp only [work, Player.work]
      cases taken : player.queue.next? with
      | none => rfl
      | some next =>
          obtain ⟨item, rest⟩ := next
          rw [Queue.to_list_of_next? player.queue rest item taken] at sound
          obtain ⟨first, others⟩ := List.forall_mem_cons.mp sound
          have done := Player.do_item_traces (Player.queue_traces project) item { player with queue := rest }
          have later := ih (Player.doItem project item { player with queue := rest }).1 <| by
            rw [done]
            exact List.forall_mem_append.mpr ⟨others, brought_sound project _⟩
          simp only [do_item_careful project _ item first, bind, Except.bind, later]
          rfl

theorem drain_careful (player : Player) (sound : SoundWork project player.queue.toList) :
    drain project player = .ok (player.drain project) := by
  rw [drain, work_careful project _ player sound]
  rfl

theorem enter_and_drain_careful (index : Nat) (slide : Slide) (player : Player)
    (there : project.slides[index]? = some slide) (sound : SoundWork project player.queue.toList) :
    enterAndDrain project index player = .ok (player.enterAndDrain project index) := by
  have ready : SoundWork project (player.enterSlide project index).1.queue.toList := by
    rw [Player.enter_slide_at project index slide player there, Player.standOn, Queue.to_list_append]
    exact List.forall_mem_append.mpr ⟨sound, entry_work_sound project index slide there⟩
  simp only [enterAndDrain, enter_slide_careful project player index slide there, bind, Except.bind,
    drain_careful project _ ready]
  rfl

theorem restart_fresh (player : Player) (loaded : player.project = some project) :
    restart player =
      if project.slides.isEmpty then .ok (player.fresh project, [])
      else enterAndDrain project 0 (player.fresh project) := by
  cases player with
  | mk options loadedToo phase current store layers queue faults =>
      cases loaded
      rfl

theorem restart_careful (player : Player) : restart player = .ok player.restart := by
  cases loaded : player.project with
  | none =>
      have none : player.stop.project = none := loaded
      simp only [restart, none, Player.restart]
      rfl
  | some project =>
      rw [restart_fresh project player loaded, Player.restart_loaded project player loaded]
      cases slides : project.slides with
      | nil => rfl
      | cons first rest =>
          have there : project.slides[0]? = some first := by simp [slides]
          exact enter_and_drain_careful project 0 first (player.fresh project) there fun _ waits => by cases waits

theorem load_unchecked_careful (player : Player) :
    loadUnchecked project player = .ok (player.loadUnchecked project) :=
  restart_careful _

theorem load_careful (player : Player) : load project player = .ok (player.load project) := by
  simp only [load, Player.load, load_unchecked_careful]
  cases player.options.validateOnLoad with
  | false => rfl
  | true => cases project.validated <;> rfl

theorem click_triggers_careful (slide : Slide) (index : Nat) (position : ObjectPosition) (object : SlideObject)
    (there : slide.objectAt? position = some object) :
    clickTriggers slide index position = .ok (slide.clickTriggers index position) := by
  obtain ⟨layer, layerThere, objectThere⟩ := Option.bind_eq_some_iff.mp there
  simp only [clickTriggers, Slide.clickTriggers, layerThere, Option.bind_some, expect, bind, Except.bind, pure,
    Except.pure, objectThere]

theorem dispatch_careful (index : Nat) (slide : Slide) (position : ObjectPosition) (object : SlideObject)
    (player : Player) (there : project.slides[index]? = some slide)
    (located : slide.objectAt? position = some object) (sound : SoundWork project player.queue.toList) :
    dispatch project index position player =
      .ok ((slide.clickTriggers index position).length,
        player.dispatch project (slide.clickTriggers index position)) := by
  have ready : SoundWork project
      (player.queue.append ((slide.clickTriggers index position).map WorkItem.fire)).toList := by
    rw [Queue.to_list_append]
    refine List.forall_mem_append.mpr ⟨sound, fun item member => ?_⟩
    obtain ⟨ref, onObject, rfl⟩ := List.mem_map.mp member
    obtain ⟨_, trigger, resolved, _⟩ := click_trigger_leads project index slide position there ref onObject
    exact ⟨trigger, resolved⟩
  simp only [dispatch, slide_at project index slide there, bind, Except.bind,
    click_triggers_careful slide index position object located]
  rw [drain_careful project _ ready]
  rfl

end Work

section Commands

variable (player : Player)

theorem shows_careful (layer : Layer) (known : (player.layers.isVisible? layer.id).isSome) :
    shows player layer = .ok (player.shows layer) := by
  obtain ⟨visible, present⟩ := Option.isSome_iff_exists.mp known
  simp only [shows, Player.shows, present, Option.getD_some]
  rfl

theorem hit_among_careful (point : Point) (layers : List (Layer × Nat))
    (known : ∀ entry ∈ layers, (player.layers.isVisible? entry.1.id).isSome) :
    hitAmong? player point layers = .ok (Slide.hitAmong? player.shows point layers) := by
  induction layers with
  | nil => rfl
  | cons head rest ih =>
      obtain ⟨layer, i⟩ := head
      obtain ⟨first, others⟩ := List.forall_mem_cons.mp known
      simp only [hitAmong?, Slide.hitAmong?, shows_careful player layer first, bind, Except.bind, ih others]
      cases player.shows layer with
      | false => rfl
      | true => cases lastIndexed? (·.isAt point) layer.objects <;> rfl

variable (settled : player.Settled)

include settled

theorem settled_active (project : Project) (index : Nat) (active : player.active = .ok (project, index)) :
    ∃ slide, player.Stands project index slide ∧ SoundWork project player.queue.toList := by
  obtain ⟨loaded, current⟩ := (Player.active_ok_iff player project index).mp active
  obtain ⟨other, slide, loadedToo, _, stands, _⟩ := settled.onSlide index current
  cases loaded.symm.trans loadedToo
  refine ⟨slide, stands, fun item waits => ?_⟩
  rw [settled.noWork] at waits
  cases waits

theorem click_careful (id : String) : click id player = .ok (player.click id) := by
  unfold click Player.click
  cases active : player.active with
  | error failure => rfl
  | ok place =>
      obtain ⟨project, index⟩ := place
      obtain ⟨slide, stands, sound⟩ := settled_active player settled project index active
      have there := stands.there
      simp only [slide_at project index slide there, bind, Except.bind, Project.clicked?, there, Option.bind_some]
      cases located : slide.locate? id with
      | none => rfl
      | some position =>
          obtain ⟨object, objectThere, _⟩ := slide.located_at id position located
          simp only [dispatch_careful project index slide position object player there objectThere sound]
          rfl

theorem pointer_careful (point : Point) : pointerDown point player = .ok (player.pointerDown point) := by
  unfold pointerDown Player.pointerDown
  cases active : player.active with
  | error failure => rfl
  | ok place =>
      obtain ⟨project, index⟩ := place
      obtain ⟨slide, stands, sound⟩ := settled_active player settled project index active
      have there := stands.there
      have known : ∀ entry ∈ slide.layers.zipIdx.reverse, (player.layers.isVisible? entry.1.id).isSome := by
        intro entry member
        have own : entry.1 ∈ slide.layers := List.mem_of_getElem?
          (List.mk_mem_zipIdx_iff_getElem?.mp (List.mem_reverse.mp member))
        exact (IdMap.mem_keys_iff _ _).mp ((stands.layers _).mpr (List.mem_map_of_mem own))
      simp only [slide_at project index slide there, bind, Except.bind, Project.pointed?, there, Option.bind_some,
        hit_among_careful player point _ known, Slide.hitTest?]
      cases hit : Slide.hitAmong? player.shows point slide.layers.zipIdx.reverse with
      | none => rfl
      | some found =>
          obtain ⟨position, object⟩ := found
          obtain ⟨⟨layer, layerThere, _, objectThere, _⟩, _⟩ :=
            slide.hit_test_topmost player.shows point position object hit
          have located : slide.objectAt? position = some object := by
            rw [Slide.objectAt?, layerThere, Option.bind_some, objectThere]
          simp only [dispatch_careful project index slide position object player there located sound]
          rfl

theorem enter_careful (id : String) : enter id player = .ok (player.enter id) := by
  unfold enter Player.enter
  cases loaded : player.project with
  | none => rfl
  | some project =>
      cases found : project.slideIndex? id with
      | none => simp only [found]; rfl
      | some index =>
          obtain ⟨slide, there, _⟩ := slide_of_index project id index found
          have noWork : (player.ready project).queue = .empty := by
            unfold Player.ready
            split <;> exact settled.noWork
          have entered := enter_and_drain_careful project index slide (player.ready project) there <| by
            rw [noWork]
            exact fun _ waits => by cases waits
          rw [Player.ready, loaded] at entered
          simp only [found, entered]
          rfl

theorem respond_careful (command : Command) : respond command player = .ok (player.respond command) := by
  cases command with
  | load project => simp only [respond, load_careful]; rfl
  | loadUnchecked project => simp only [respond, load_unchecked_careful]; rfl
  | restart => simp only [respond, restart_careful]; rfl
  | stop => rfl
  | click id => simp only [respond, click_careful player settled id]; rfl
  | pointerDown point => simp only [respond, pointer_careful player settled point]; rfl
  | enter id => simp only [respond, enter_careful player settled id]; rfl
  | takeFaults => rfl

end Commands

end Careful

namespace Player

section Waiting

variable (project : Project) (command : Command) (player : Player)

theorem fired_leads (ref : TriggerRef) (member : ref ∈ player.fires project command) :
    ∃ index, player.current = some index ∧ ref.Leads project .onClick index := by
  obtain ⟨⟨slide, current, _⟩, resolves⟩ := ((fires_gathered project command player).complete ref).mp member
  exact ⟨ref.slide, current, rfl, resolves⟩

-- What waits was brought by the command itself, or by entering one of these slides.
structure Awaits (ids : List String) (work : List WorkItem) : Prop where
  triggers : ∀ ref, .fire ref ∈ work →
    (ref ∈ player.fires project command ∧
      ∃ index, player.current = some index ∧ ref.Leads project .onClick index) ∨
    ∃ id ∈ ids, ∃ index, ref ∈ project.entryRuns id ∧ project.slideIndex? id = some index ∧
      ref.Leads project .onTimelineStart index
  ends : ∀ index, .settle index ∈ work → ∃ id ∈ ids, ∃ slide,
    project.slideIndex? id = some index ∧ project.slides[index]? = some slide

theorem awaits_brought (events : List Event) :
    player.Awaits project command (events.filterMap Event.entered?)
      ((player.fires project command).map WorkItem.fire ++ brought project events) := by
  refine ⟨fun ref waits => ?_, fun index waits => ?_⟩
  · rcases List.mem_append.mp waits with clicked | brings
    · have member : ref ∈ player.fires project command := by simpa using clicked
      exact .inl ⟨member, fired_leads project command player ref member⟩
    · obtain ⟨id, entered, inWork⟩ := List.mem_flatMap.mp brings
      obtain ⟨index, slide, found, there, own⟩ := mem_entry_work project id _ inWork
      have entry := (fire_mem_entry_work slide index ref).mp own
      refine .inr ⟨id, entered, index, ?_, found, entry_trigger_leads project index slide there ref entry⟩
      rwa [Project.entryRuns, entry_work_at project id index slide found there, fired_of_entry_work]
  · have brings : .settle index ∈ brought project events := by simpa using waits
    obtain ⟨id, entered, inWork⟩ := List.mem_flatMap.mp brings
    obtain ⟨other, slide, found, there, own⟩ := mem_entry_work project id _ inWork
    obtain rfl := (settle_mem_entry_work slide other index).mp own
    exact ⟨id, entered, slide, found, there⟩

theorem all_work_awaits (settled : player.Settled) (steps : Nat) :
    let begun := player.begun project command
    let work := begun.1.work project steps
    player.Awaits project command ((begun.2 ++ work.2.flatMap (·.events)).filterMap Event.entered?)
      (work.2.map (·.item) ++ work.1.queue.toList) := by
  intro begun work
  have all := awaits_brought project command player (begun.2 ++ work.2.flatMap (·.events))
  rwa [← work_conserves project _ begun steps (begun_waits project command player settled)] at all

theorem work_awaits (settled : player.Settled) (steps : Nat) :
    let begun := player.begun project command
    let work := begun.1.work project steps
    player.Awaits project command ((begun.2 ++ work.2.flatMap (·.events)).filterMap Event.entered?)
      work.1.queue.toList := by
  intro begun work
  have all := all_work_awaits project command player settled steps
  exact ⟨fun ref waits => all.triggers ref (List.mem_append_right _ waits),
    fun index waits => all.ends index (List.mem_append_right _ waits)⟩

end Waiting

/-- In every session, of any project, a careful player never lapses and answers each command as players do:
the slide at an index is there, every trigger that is fired is found, what is written is read again, and
every layer that a pointer asks for is known. For whatever waits at any point of the work was collected by
the command on the slide that is current, and leads to a trigger for clicks on it, or by entering a slide
since, and leads to a trigger of that slide for its start or to its end. -/
theorem nothing_is_missing (options : Options) (history : List Command) (command : Command) :
    let player := (Player.start options).run history
    Careful.respond command player = .ok (player.respond command) ∧
      ∀ project response, player.respond command = .ok response → response.player.project = some project →
        let begun := player.begun project command
        Worked project begun response ∧ ∀ steps,
          let (between, turns) := begun.1.work project steps
          player.Awaits project command ((begun.2 ++ turns.flatMap (·.events)).filterMap Event.entered?)
            between.queue.toList := by
  intro player
  have settled : player.Settled := run_keeps_settled history _ (start_settled options)
  refine ⟨Careful.respond_careful player settled command, fun project response answered loaded => ?_⟩
  have answer := respond_answer player command response answered
  have base := (answer_project player command response settled answer).symm.trans loaded
  exact ⟨answer_worked project player command response settled base answer,
    work_awaits project command player settled⟩

def ruin : Project :=
  let go := ((Trigger.start "go" .onClick).navigate "yard").navigate "nowhere"
  let stay := (((Trigger.start "stay" .onTimelineStart).navigate "yard").hideLayer "roof").toggle "light"
  let door := (SlideObject.button "door" "Door").withTrigger go
  let base := (Layer.start "base").withObject door
  (((Project.start "ruin" "").withSlide (((Slide.start "hall").withLayer base).withLayer base.hidden)).withSlide
    ((Slide.start "yard").withLayer ((Layer.start "base").withObject
      ((SlideObject.text "door" "Back").withTrigger stay)))).withSlide (Slide.start "hall")

theorem ruin_is_played_carefully :
    let player := (Player.start ⟨false, 3⟩).run [.loadUnchecked ruin]
    let (after, events) := player.dispatch ruin [⟨0, 0, 0, 0⟩]
    Careful.respond (.click "door") player = .ok (.ok ⟨.fired 1, after, events⟩) ∧
      player.Awaits ruin (.click "door") ["yard"] [.fire ⟨1, 0, 0, 0⟩, .settle 1] := by
  intro player
  have answered : player.respond (.click "door") = .ok ⟨.fired 1, (player.dispatch ruin [⟨0, 0, 0, 0⟩]).1,
      (player.dispatch ruin [⟨0, 0, 0, 0⟩]).2⟩ := rfl
  obtain ⟨careful, told⟩ := nothing_is_missing ⟨false, 3⟩ [.loadUnchecked ruin] (.click "door")
  exact ⟨careful.trans (congrArg _ answered), (told ruin _ answered rfl).2 1⟩

-- A player that stands beyond the slides of its project, which no session leads to.
example : Careful.click "door" { options := {}, project := some (.start "void" "Void"), current := some 0 } =
    .error (.noSlide 0) := rfl

end Player

end Slideshow
