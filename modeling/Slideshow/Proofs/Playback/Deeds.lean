import Slideshow.Proofs.Playback.Begun
import Slideshow.Proofs.Playback.Straight
import Slideshow.Project.Build

set_option autoImplicit false

namespace Slideshow

structure Deed where
  ref : TriggerRef
  trigger : Trigger
  action : Action
  before : Player

namespace Deed

def result (project : Project) (deed : Deed) : Player × List Event :=
  deed.before.perform project deed.trigger.id deed.ref.slide deed.action

structure Of (project : Project) (deed : Deed) : Prop where
  resolved : deed.ref.resolve project = some deed.trigger
  own : deed.action ∈ deed.trigger.actions

def AtHome (project : Project) (slide : Slide) (deed : Deed) : Prop :=
  deed.before.current = some deed.ref.slide ∧ project.slides[deed.ref.slide]? = some slide

structure KeepsToItsSlide (project : Project) (deed : Deed) : Prop where
  changes : ∀ id visible, .layerChanged id visible ∈ (deed.result project).2 →
    deed.action = .ofLayer id visible ∧
      ∃ slide, deed.AtHome project slide ∧ id ∈ slide.layers.map (·.id)
  misses : ∀ trigger id, .fault (.danglingReference trigger .layer id) ∈ (deed.result project).2 →
    trigger = deed.trigger.id ∧ (∃ visible, deed.action = .ofLayer id visible) ∧
      ∃ slide, deed.AtHome project slide ∧ id ∉ slide.layers.map (·.id)
  away : deed.before.current ≠ some deed.ref.slide → ∀ id visible, deed.action = .ofLayer id visible →
    deed.result project = (deed.before, [])

end Deed

namespace Player

-- Each deed is done in the session that the one before it has left; only work may have been queued
-- or taken since.
inductive Leads (project : Project) : Player → List Deed → Player → Prop where
  | stay (first last : Player) (same : first.SameSession last) : Leads project first [] last
  | act (first last : Player) (deed : Deed) (rest : List Deed) (own : deed.Of project)
      (same : first.SameSession deed.before) (later : Leads project (deed.result project).1 rest last) :
      Leads project first (deed :: rest) last

structure Placed (project : Project) (player : Player) : Prop where
  loaded : player.project = some project
  stands : ∀ index, player.current = some index → ∃ slide, player.Stands project index slide

-- After the last deed nothing happens but that a limit may be reported.
def Ends (last : Player) (ending : List Event) (after : Player) : Prop :=
  (ending = [] ∧ after.SameSession last) ∨
    ∃ limit, ending = [.fault (.stepLimitExceeded limit)] ∧
      after.SameSession (last.report (.stepLimitExceeded limit)).1

section Deeds

variable (project : Project)

theorem leads_append (first middle last : Player) (early late : List Deed)
    (start : Leads project first early middle) (finish : Leads project middle late last) :
    Leads project first (early ++ late) last := by
  induction start with
  | stay first middle same =>
      cases finish with
      | stay _ _ sameToo => exact .stay _ _ (same.trans sameToo)
      | act _ _ deed rest own sameToo later => exact .act _ _ deed rest own (same.trans sameToo) later
  | act first middle deed rest own same later ih => exact .act _ _ deed _ own same (ih finish)

theorem perform_of_outcome (trigger : String) (host : Nat) (action : Action) (player : Player)
    (result : Player × List Event) (outcome : Outcome project trigger host player action result) :
    player.perform project trigger host action = result := by
  have ofLayer : ∀ target visible, player.perform project trigger host (.ofLayer target visible) =
      player.setLayer trigger host target visible := by
    intro target visible
    cases visible <;> rfl
  cases outcome with
  | entered target index slide found there =>
      simp only [perform, found, enter_slide_at project index slide player there]
  | noSlide target missing => simp only [perform, missing]
  | noVariable target operation operand missing => simp only [perform, setVariable, missing]
  | refused target operation operand old cause declared fails =>
      simp only [perform, setVariable, declared, fails]
  | written target operation operand old value declared gives =>
      simp only [perform, setVariable, declared, gives]
  | elsewhere target visible away => rw [ofLayer, setLayer, if_neg away]
  | noLayer target visible here missing => simp only [ofLayer, setLayer, if_pos here, missing]
  | shown target visible before here present => simp only [ofLayer, setLayer, if_pos here, present]

theorem outcome_placed (trigger : String) (host : Nat) (action : Action) (player : Player)
    (result : Player × List Event) (placed : player.Placed project)
    (outcome : Outcome project trigger host player action result) : result.1.Placed project := by
  have unmoved : ∀ fault, (player.report fault).1.Placed project := fun _ =>
    ⟨placed.loaded, fun index current => (placed.stands index current).imp fun _ stands =>
      ⟨stands.current, stands.there, stands.first, stands.layers⟩⟩
  cases outcome with
  | entered target next entered found there =>
      refine ⟨placed.loaded, fun index current => ⟨entered, ?_⟩⟩
      cases current
      exact stand_on_stands project next entered player there
        (first_index_of_slide project target next entered found there)
  | written =>
      exact ⟨placed.loaded, fun index current => (placed.stands index current).imp fun _ stands =>
        ⟨stands.current, stands.there, stands.first, stands.layers⟩⟩
  | shown target visible =>
      exact ⟨placed.loaded, fun index current => (placed.stands index current).imp fun slide stands =>
        write_layer_stands project index slide player target visible stands⟩
  | elsewhere => exact placed
  | noSlide | noVariable | refused | noLayer => exact unmoved _

def Told (before : Player) (events : List Event) (after : Player) : Prop :=
  before.Placed project → after.Placed project ∧ ∃ deeds, Leads project before deeds after ∧
    events = deeds.flatMap (fun deed => (deed.result project).2) ∧
    ∀ deed ∈ deeds, deed.before.Placed project

theorem told_silent (before after : Player) (same : before.SameSession after) :
    Told project before [] after := by
  intro placed
  have loaded : after.project = before.project :=
    (told_alike resting Player.project (fun _ => rfl) same).symm
  have current : after.current = before.current :=
    (told_alike resting Player.current (fun _ => rfl) same).symm
  have layers : after.layers = before.layers :=
    (told_alike resting Player.layers (fun _ => rfl) same).symm
  refine ⟨⟨loaded.trans placed.loaded, fun index here => ?_⟩, [], .stay _ _ same, rfl, by simp⟩
  obtain ⟨slide, stands⟩ := placed.stands index (current.symm.trans here)
  exact ⟨slide, here, stands.there, stands.first, layers ▸ stands.layers⟩

theorem told_traces : Traces project (Told project) where
  stay player := told_silent project player player rfl
  append first early middle late last start finish placed := by
    obtain ⟨placedMiddle, deeds, leads, told, places⟩ := start placed
    obtain ⟨placedLast, more, leadsOn, toldLater, placesLater⟩ := finish placedMiddle
    refine ⟨placedLast, deeds ++ more, leads_append project _ _ _ _ _ leads leadsOn, ?_,
      List.forall_mem_append.mpr ⟨places, placesLater⟩⟩
    rw [told, toldLater, List.flatMap_append]
  act ref trigger action player result resolved own outcome placed := by
    have performed := perform_of_outcome project trigger.id ref.slide action player result outcome
    have done : Deed.result project ⟨ref, trigger, action, player⟩ = result := performed
    refine ⟨outcome_placed project trigger.id ref.slide action player result placed outcome,
      [⟨ref, trigger, action, player⟩], .act _ _ _ _ ⟨resolved, own⟩ rfl (.stay _ _ (by rw [done]; rfl)),
      ?_, by simpa using placed⟩
    rw [List.flatMap_singleton, done]
  settle index player := told_silent project _ _ (settle_same project index player).symm

theorem work_told (steps : Nat) (player : Player) :
    Told project player ((player.work project steps).2.flatMap (·.events))
      (player.work project steps).1 :=
  work_traces (told_traces project) (fun _ _ _ _ => told_silent project _ _ rfl) steps player

theorem base_placed (command : Command) (player : Player) (settled : player.Settled)
    (loaded : (player.base command).project = some project) : (player.base command).Placed project := by
  have onSlide : player.project = some project → player.Placed project := by
    refine fun loaded => ⟨loaded, fun index current => ?_⟩
    obtain ⟨other, slide, loadedToo, _, stands, _⟩ := settled.onSlide index current
    cases loaded.symm.trans loadedToo
    exact ⟨slide, stands⟩
  have anew : ∀ before : Player, before.anew.current = none := by
    intro before
    unfold Player.anew
    split <;> rfl
  refine ⟨loaded, fun index current => ?_⟩
  cases command with
  | load | loadUnchecked => cases (anew _).symm.trans current
  | restart => cases (anew player).symm.trans current
  | stop => cases current
  | click | pointerDown => exact (onSlide loaded).stands index current
  | takeFaults =>
      obtain ⟨slide, stands⟩ := (onSlide loaded).stands index current
      exact ⟨slide, stands.current, stands.there, stands.first, stands.layers⟩
  | enter id =>
      simp only [base] at loaded current ⊢
      split at loaded
      · rename_i idle
        rw [if_pos idle] at current
        cases (anew player).symm.trans current
      · rename_i playing
        rw [if_neg playing] at current ⊢
        exact (onSlide loaded).stands index current

theorem begun_placed (command : Command) (player : Player) (settled : player.Settled)
    (loaded : (player.base command).project = some project) :
    (player.begun project command).1.Placed project ∧
      ∀ event ∈ (player.begun project command).2, ∃ left entered, event = .slideChanged left entered := by
  have base := base_placed project command player settled loaded
  unfold begun
  cases enters : command.enters project with
  | none =>
      refine ⟨⟨base.loaded, fun index current => ?_⟩, by simp⟩
      obtain ⟨slide, stands⟩ := base.stands index current
      exact ⟨slide, stands.current, stands.there, stands.first, stands.layers⟩
  | some next =>
      obtain ⟨slide, there, first⟩ := command_enters project command next enters
      simp only [enter_slide_at project next slide _ there]
      refine ⟨⟨base.loaded, fun index current => ⟨slide, ?_⟩⟩, by simp⟩
      cases current
      exact stand_on_stands project next slide _ there first

theorem placed_at_home (deed : Deed) (placed : deed.before.Placed project)
    (here : deed.before.current = some deed.ref.slide) :
    ∃ slide, deed.AtHome project slide ∧
      ∀ id, deed.before.layers.isVisible? id = none ↔ id ∉ slide.layers.map (·.id) := by
  obtain ⟨slide, stands⟩ := placed.stands deed.ref.slide here
  refine ⟨slide, ⟨here, stands.there⟩, fun id => ?_⟩
  rw [LayerState.isVisible?, IdMap.get?_eq_none_iff, stands.layers id]

theorem outcome_changes (trigger : String) (host : Nat) (action : Action) (player : Player)
    (result : Player × List Event) (outcome : Outcome project trigger host player action result)
    (id : String) (visible : Bool) (changes : .layerChanged id visible ∈ result.2) :
    action = .ofLayer id visible ∧ player.current = some host ∧ player.layers.isVisible? id ≠ none := by
  cases outcome with
  | entered | noSlide | noVariable | refused | noLayer => cases List.mem_singleton.mp changes
  | elsewhere => cases changes
  | written =>
      split at changes
      · cases changes
      · cases List.mem_singleton.mp changes
  | shown target shown known here present =>
      split at changes
      · cases changes
      · cases List.mem_singleton.mp changes
        exact ⟨rfl, here, by simp [present]⟩

theorem outcome_misses (trigger : String) (host : Nat) (action : Action) (player : Player)
    (result : Player × List Event) (outcome : Outcome project trigger host player action result)
    (fired id : String) (misses : .fault (.danglingReference fired .layer id) ∈ result.2) :
    fired = trigger ∧ (∃ visible, action = .ofLayer id visible) ∧ player.current = some host ∧
      player.layers.isVisible? id = none := by
  cases outcome with
  | entered | noSlide | noVariable | refused => cases List.mem_singleton.mp misses
  | elsewhere => cases misses
  | written | shown =>
      split at misses
      · cases misses
      · cases List.mem_singleton.mp misses
  | noLayer target visible here missing =>
      cases List.mem_singleton.mp misses
      exact ⟨rfl, ⟨visible, rfl⟩, here, missing⟩

theorem placed_deed_keeps (deed : Deed) (placed : deed.before.Placed project) :
    deed.KeepsToItsSlide project := by
  have outcome := perform_outcome project deed.trigger.id deed.ref.slide deed.action deed.before
  refine ⟨fun id visible changes => ?_, fun fired id misses => ?_, fun away id visible same => ?_⟩
  · obtain ⟨does, here, present⟩ := outcome_changes project _ _ _ _ _ outcome id visible changes
    obtain ⟨slide, atHome, layers⟩ := placed_at_home project deed placed here
    exact ⟨does, slide, atHome, not_not.mp (mt (layers id).mpr present)⟩
  · obtain ⟨named, does, here, missing⟩ := outcome_misses project _ _ _ _ _ outcome fired id misses
    obtain ⟨slide, atHome, layers⟩ := placed_at_home project deed placed here
    exact ⟨named, does, slide, atHome, (layers id).mp missing⟩
  · rw [Deed.result, same]
    exact perform_of_outcome project _ _ _ _ _ (.elsewhere id visible away)

theorem worked_told (begun : Player × List Event) (response : Response)
    (placed : begun.1.Placed project) (worked : Worked project begun response) :
    ∃ deeds last ending,
      response.events = begun.2 ++ deeds.flatMap (fun deed => (deed.result project).2) ++ ending ∧
      Leads project begun.1 deeds last ∧ Ends last ending response.player ∧
      ∀ deed ∈ deeds, deed.before.Placed project := by
  obtain ⟨player, events⟩ := worked
  obtain ⟨_, deeds, leads, told, places⟩ :=
    work_told project begun.1.options.maxQueueSteps begun.1 placed
  rw [drain_eq, told] at events
  rw [drain_eq] at player
  refine ⟨deeds, _, _, by rw [events, List.append_assoc], leads, ?_, places⟩
  rw [player]
  rcases drop_work_cases (begun.1.work project begun.1.options.maxQueueSteps).1 with
    ⟨_, undropped⟩ | dropped
  · rw [undropped]
    exact .inl ⟨rfl, arrive_same _⟩
  · rw [dropped]
    exact .inr ⟨_, rfl, (arrive_same _).trans rfl⟩

end Deeds

/-- Whatever is played, layers are shown, hidden and missed only by actions of triggers on the slide
that is current at that moment, and only as layers of that slide. All events come from the deeds of a
command, but for the slide that it enters and a limit that it reaches; and a deed of a trigger whose
slide was left does nothing to layers at all. -/
theorem layers_keep_to_their_slide (options : Options) (history : List Command) (command : Command)
    (response : Response)
    (answered : ((Player.start options).run history).respond command = .ok response) :
    let player := (Player.start options).run history
    (response.player.project = none → response.events = []) ∧
      ∀ project, response.player.project = some project →
        let begun := player.begun project command
        (∀ event ∈ begun.2, ∃ left entered, event = .slideChanged left entered) ∧
          ∃ deeds last ending,
            response.events = begun.2 ++ deeds.flatMap (fun deed => (deed.result project).2) ++ ending ∧
            Leads project begun.1 deeds last ∧ Ends last ending response.player ∧
            ∀ deed ∈ deeds, deed.KeepsToItsSlide project := by
  intro player
  have settled : player.Settled := run_keeps_settled history _ (start_settled options)
  have answer := respond_answer player command response answered
  have base := answer_project player command response settled answer
  refine ⟨fun unloaded => ?_, fun project loaded => ?_⟩
  · exact (answer_unloaded player command response (base.symm.trans unloaded) answer).2
  · have known := base.symm.trans loaded
    have worked := answer_worked project player command response settled known answer
    obtain ⟨placed, entering⟩ := begun_placed project command player settled known
    obtain ⟨deeds, last, ending, events, leads, ends, places⟩ :=
      worked_told project _ response placed worked
    exact ⟨entering, deeds, last, ending, events, leads, ends,
      fun deed member => placed_deed_keeps project deed (places deed member)⟩

def passage : Project :=
  let cover := (Layer.start "cover").hidden
  let leave := (((((Trigger.start "leave" .onTimelineStart).showLayer "cover").navigate "back").showLayer
    "cover").hideLayer "lost")
  let miss := (Trigger.start "miss" .onTimelineStart).hideLayer "lost"
  ((Project.start "passage" "Passage").withSlide ((Slide.start "front").withLayer
    (cover.withObject ((SlideObject.button "door" "Door").withTrigger leave)))).withSlide
      ((Slide.start "back").withLayer
        (cover.withObject ((SlideObject.button "door" "Door").withTrigger miss)))

theorem passage_leaves_covers_alone :
    let player := Player.start ⟨false, 9⟩
    let begun := player.begun passage (.loadUnchecked passage)
    let response := done (player.loadUnchecked passage)
    player.respond (.loadUnchecked passage) = .ok response ∧
      response.player.project = some passage ∧
      response.events = [.slideChanged none "front", .layerChanged "cover" true,
        .slideChanged (some "front") "back", .fault (.danglingReference "miss" .layer "lost")] ∧
      ∃ deeds last, Leads passage begun.1 deeds last ∧
        ∀ deed ∈ deeds, deed.KeepsToItsSlide passage := by
  intro player begun response
  have answered : (player.run []).respond (.loadUnchecked passage) = .ok response := rfl
  have loaded : response.player.project = some passage := rfl
  obtain ⟨_, deeds, last, _, _, leads, _, keeps⟩ :=
    (layers_keep_to_their_slide ⟨false, 9⟩ [] (.loadUnchecked passage) response answered).2 passage loaded
  exact ⟨answered, loaded, rfl, deeds, last, leads, keeps⟩

end Player

end Slideshow
