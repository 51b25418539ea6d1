import Slideshow.Playback.Command
import Slideshow.Proofs.IdMap

set_option autoImplicit false

namespace Slideshow

theorem slide_of_index (project : Project) (id : String) (index : Nat)
    (found : project.slideIndex? id = some index) :
    ∃ slide, project.slides[index]? = some slide ∧ slide.id = id := by
  obtain ⟨inside, same, _⟩ := List.findIdx?_eq_some_iff_getElem.mp found
  exact ⟨project.slides[index], List.getElem?_eq_getElem inside, by simpa using same⟩

theorem first_index_of_slide (project : Project) (id : String) (index : Nat) (slide : Slide)
    (found : project.slideIndex? id = some index) (there : project.slides[index]? = some slide) :
    project.slideIndex? slide.id = some index := by
  obtain ⟨other, thereToo, same⟩ := slide_of_index project id index found
  cases there.symm.trans thereToo
  rw [same]
  exact found

theorem slide_index_none_iff (project : Project) (id : String) :
    project.slideIndex? id = none ↔ id ∉ project.slides.map (·.id) := by
  simp [Project.slideIndex?, List.findIdx?_eq_none_iff]

theorem first_slide_index (project : Project) (slide : Slide) (there : project.slides[0]? = some slide) :
    project.slideIndex? slide.id = some 0 := by
  cases slides : project.slides with
  | nil => simp [slides] at there
  | cons head rest =>
      have same : head = slide := by simpa [slides] using there
      simp [Project.slideIndex?, slides, List.findIdx?_cons, same]

def Action.ofLayer (target : String) : Bool → Action
  | true => .showLayer target
  | false => .hideLayer target

namespace Player

def standOn (player : Player) (index : Nat) (slide : Slide) : Player :=
  { player with
    phase := .navigating slide.id
    current := some index
    layers := .ofSlide slide
    queue := player.queue.append (slide.entryWork index) }

theorem enter_slide_at (project : Project) (index : Nat) (slide : Slide) (player : Player)
    (there : project.slides[index]? = some slide) :
    player.enterSlide project index =
      (player.standOn index slide, [.slideChanged player.currentSlideId? slide.id]) := by
  simp only [enterSlide, there, standOn]

inductive Outcome (project : Project) (trigger : String) (host : Nat) (player : Player) :
    Action → Player × List Event → Prop where
  | entered (target : String) (index : Nat) (slide : Slide)
      (found : project.slideIndex? target = some index)
      (there : project.slides[index]? = some slide) :
      Outcome project trigger host player (.navigateToSlide target)
        (player.standOn index slide, [.slideChanged player.currentSlideId? slide.id])
  | noSlide (target : String) (missing : project.slideIndex? target = none) :
      Outcome project trigger host player (.navigateToSlide target)
        (player.report (.danglingReference trigger .slide target))
  | noVariable (target : String) (operation : SetOperation) (operand : Option Value)
      (missing : player.store.entry? target = none) :
      Outcome project trigger host player (.setVariable target operation operand)
        (player.report (.danglingReference trigger .variable target))
  | refused (target : String) (operation : SetOperation) (operand old : Option Value)
      (cause : Mismatch) (declared : player.store.entry? target = some old)
      (fails : operation.apply old operand = .error cause) :
      Outcome project trigger host player (.setVariable target operation operand)
        (player.report (.typeMismatch trigger target cause))
  | written (target : String) (operation : SetOperation) (operand old : Option Value)
      (value : Value) (declared : player.store.entry? target = some old)
      (gives : operation.apply old operand = .ok value) :
      Outcome project trigger host player (.setVariable target operation operand)
        ({ player with store := player.store.write target value },
          if old == some value.normalized then []
          else [.variableChanged target old value.normalized])
  | elsewhere (target : String) (visible : Bool) (away : player.current ≠ some host) :
      Outcome project trigger host player (.ofLayer target visible) (player, [])
  | noLayer (target : String) (visible : Bool) (here : player.current = some host)
      (missing : player.layers.isVisible? target = none) :
      Outcome project trigger host player (.ofLayer target visible)
        (player.report (.danglingReference trigger .layer target))
  | shown (target : String) (visible before : Bool) (here : player.current = some host)
      (present : player.layers.isVisible? target = some before) :
      Outcome project trigger host player (.ofLayer target visible)
        ({ player with layers := player.layers.write target visible },
          if before = visible then [] else [.layerChanged target visible])

theorem set_layer_outcome (project : Project) (trigger : String) (host : Nat) (target : String)
    (visible : Bool) (player : Player) :
    Outcome project trigger host player (.ofLayer target visible)
      (player.setLayer trigger host target visible) := by
  unfold setLayer
  by_cases here : player.current = some host
  · rw [if_pos here]
    cases present : player.layers.isVisible? target with
    | none => exact .noLayer target visible here present
    | some before => exact .shown target visible before here present
  · rw [if_neg here]
    exact .elsewhere target visible here

theorem perform_outcome (project : Project) (trigger : String) (host : Nat) (action : Action)
    (player : Player) :
    Outcome project trigger host player action (player.perform project trigger host action) := by
  cases action with
  | navigateToSlide target =>
      simp only [perform]
      cases found : project.slideIndex? target with
      | none => exact .noSlide target found
      | some index =>
          obtain ⟨slide, there, _⟩ := slide_of_index project target index found
          simp only [enter_slide_at project index slide player there]
          exact .entered target index slide found there
  | setVariable target operation operand =>
      simp only [perform, setVariable]
      cases declared : player.store.entry? target with
      | none => exact .noVariable target operation operand declared
      | some old =>
          cases applied : operation.apply old operand with
          | error cause =>
              simp only [applied]
              exact .refused target operation operand old cause declared applied
          | ok value =>
              simp only [applied]
              exact .written target operation operand old value declared applied
  | showLayer target => exact set_layer_outcome project trigger host target true player
  | hideLayer target => exact set_layer_outcome project trigger host target false player

-- `R` relates a player, what it reports on the way, and what it is at the end of the way.
structure Traces (project : Project) (R : Player → List Event → Player → Prop) : Prop where
  stay : ∀ player, R player [] player
  append : ∀ first early middle late last,
    R first early middle → R middle late last → R first (early ++ late) last
  act : ∀ (ref : TriggerRef) (trigger : Trigger) (action : Action) (player : Player)
    (result : Player × List Event), ref.resolve project = some trigger → action ∈ trigger.actions →
    Outcome project trigger.id ref.slide player action result → R player result.2 result.1
  settle : ∀ (index : Nat) (player : Player), R player [] (player.settle project index)

section Traces

variable {project : Project} {R : Player → List Event → Player → Prop}

theorem perform_all_traces (traces : Traces project R) (ref : TriggerRef) (trigger : Trigger)
    (resolved : ref.resolve project = some trigger) (actions : List Action) (player : Player)
    (own : ∀ action ∈ actions, action ∈ trigger.actions) :
    R player (player.performAll project trigger.id ref.slide actions).2
      (player.performAll project trigger.id ref.slide actions).1 := by
  -- Each action finds the player as the ones before it left it.
  induction actions generalizing player with
  | nil => exact traces.stay player
  | cons action rest ih =>
      have first := traces.act ref trigger action player _ resolved (own action List.mem_cons_self)
        (perform_outcome project trigger.id ref.slide action player)
      have later := ih (player.perform project trigger.id ref.slide action).1
        fun next member => own next (List.mem_cons_of_mem _ member)
      exact traces.append _ _ _ _ _ first later

theorem do_item_traces (traces : Traces project R) (item : WorkItem) (player : Player) :
    R player (player.doItem project item).2 (player.doItem project item).1 := by
  cases item with
  | fire ref =>
      simp only [doItem, fire]
      cases resolved : ref.resolve project with
      | none => exact traces.stay player
      | some trigger =>
          exact perform_all_traces traces ref trigger resolved trigger.actions player
            fun _ member => member
  | settle index => exact traces.settle index player

theorem work_traces (traces : Traces project R)
    (take : ∀ (item : WorkItem) (rest : Queue WorkItem) (player : Player),
      player.queue.next? = some (item, rest) → R player [] { player with queue := rest })
    (steps : Nat) (player : Player) :
    R player ((player.work project steps).2.flatMap (·.events)) (player.work project steps).1 := by
  -- By induction on the limit, not on the queue: an item may queue more than it takes.
  induction steps generalizing player with
  | zero => exact traces.stay player
  | succ steps ih =>
      simp only [work]
      cases taken : player.queue.next? with
      | none => exact traces.stay player
      | some next =>
          obtain ⟨item, rest⟩ := next
          have done := do_item_traces traces item { player with queue := rest }
          have later := ih (doItem project item { player with queue := rest }).1
          exact traces.append _ [] _ _ _ (take item rest player taken)
            (traces.append _ _ _ _ _ done later)

end Traces

structure Keeps (project : Project) (P : Player → Prop) (E : Event → Prop) : Prop where
  act : ∀ (ref : TriggerRef) (trigger : Trigger) (action : Action) (player : Player)
    (result : Player × List Event), ref.resolve project = some trigger → action ∈ trigger.actions →
    P player → Outcome project trigger.id ref.slide player action result →
    P result.1 ∧ ∀ event ∈ result.2, E event
  take : ∀ (item : WorkItem) (rest : Queue WorkItem) (player : Player),
    player.queue.next? = some (item, rest) → P player → P { player with queue := rest }
  settle : ∀ (index : Nat) (player : Player), P player → P (player.settle project index)

variable {project : Project} {P : Player → Prop} {E : Event → Prop}

theorem keeps_traces (keeps : Keeps project P E) :
    Traces project fun before events after => P before → P after ∧ ∀ event ∈ events, E event where
  stay _ holds := ⟨holds, by simp⟩
  append first early middle late last start finish holds := by
    obtain ⟨holdsMiddle, fineEarly⟩ := start holds
    obtain ⟨holdsLast, fineLate⟩ := finish holdsMiddle
    exact ⟨holdsLast, List.forall_mem_append.mpr ⟨fineEarly, fineLate⟩⟩
  act ref trigger action player result resolved own outcome holds :=
    keeps.act ref trigger action player result resolved own holds outcome
  settle index player holds := ⟨keeps.settle index player holds, by simp⟩

theorem work_keeps (keeps : Keeps project P E) (steps : Nat) (player : Player) (holds : P player) :
    P (player.work project steps).1 ∧
      ∀ event ∈ (player.work project steps).2.flatMap (·.events), E event :=
  work_traces (keeps_traces keeps)
    (fun item rest player taken holds => ⟨keeps.take item rest player taken holds, by simp⟩)
    steps player holds

theorem settle_frame (project : Project) (index : Nat) (player : Player) :
    player.settle project index = { player with phase := (player.settle project index).phase } := by
  unfold settle
  split
  · split <;> rfl
  · rfl

theorem arrive_frame (player : Player) : player.arrive = { player with phase := player.arrive.phase } := by
  unfold arrive
  split <;> rfl

theorem drain_eq (project : Project) (player : Player) :
    player.drain project =
      ((player.work project player.options.maxQueueSteps).1.dropWork.1.arrive,
        (player.work project player.options.maxQueueSteps).2.flatMap (·.events) ++
          (player.work project player.options.maxQueueSteps).1.dropWork.2) := rfl

theorem drain_traces (project : Project) (R : Player → List Event → Player → Prop)
    (traces : Traces project R)
    (take : ∀ (item : WorkItem) (rest : Queue WorkItem) (player : Player),
      player.queue.next? = some (item, rest) → R player [] { player with queue := rest })
    (drop : ∀ player, R player player.dropWork.2 player.dropWork.1)
    (arrive : ∀ player, R player [] player.arrive) (player : Player) :
    R player (player.drain project).2 (player.drain project).1 := by
  have worked := work_traces traces take player.options.maxQueueSteps player
  have dropped := traces.append _ _ _ _ _ worked (drop _)
  have arrived := traces.append _ _ _ _ _ dropped (arrive _)
  rwa [List.append_nil] at arrived

def ready (project : Project) (player : Player) : Player :=
  if player.current.isNone then { player with store := .seed project } else player

inductive Answer (player : Player) : Command → Response → Prop where
  | loaded (project : Project)
      (checked : player.options.validateOnLoad = true → project.diagnostics = []) :
      Answer player (.load project) (done (player.loadUnchecked project))
  | loadedUnchecked (project : Project) :
      Answer player (.loadUnchecked project) (done (player.loadUnchecked project))
  | restarted : Answer player .restart (done player.restart)
  | stopped : Answer player .stop ⟨.done, player.stop, []⟩
  | clicked (id : String) (project : Project) (index : Nat) (triggers : List TriggerRef)
      (active : player.active = .ok (project, index))
      (found : project.clicked? index id = some triggers) :
      Answer player (.click id) ⟨.fired triggers.length, (player.dispatch project triggers).1,
        (player.dispatch project triggers).2⟩
  | pointed (point : Point) (project : Project) (index : Nat) (id : String)
      (triggers : List TriggerRef) (active : player.active = .ok (project, index))
      (found : project.pointed? index player.shows point = some (id, triggers)) :
      Answer player (.pointerDown point) ⟨.hit (some id), (player.dispatch project triggers).1,
        (player.dispatch project triggers).2⟩
  | missed (point : Point) (project : Project) (index : Nat)
      (active : player.active = .ok (project, index))
      (nothing : project.pointed? index player.shows point = none) :
      Answer player (.pointerDown point) ⟨.hit none, player, []⟩
  | entered (id : String) (project : Project) (index : Nat)
      (loaded : player.project = some project) (found : project.slideIndex? id = some index) :
      Answer player (.enter id) (done ((player.ready project).enterAndDrain project index))
  | faultsTaken :
      Answer player .takeFaults ⟨.faults player.faults.toList, { player with faults := #[] }, []⟩

theorem load_eq (player : Player) (project : Project) :
    player.load project =
      if player.options.validateOnLoad = true ∧ project.diagnostics ≠ [] then
        .error (.invalid project.diagnostics)
      else .ok (player.loadUnchecked project) := by
  unfold load Project.validated
  cases player.options.validateOnLoad <;> cases project.diagnostics <;> rfl

theorem load_answer (player : Player) (project : Project) (response : Response)
    (answered : player.respond (.load project) = .ok response) :
    Answer player (.load project) response := by
  simp only [respond, load_eq] at answered
  split at answered
  · cases answered
  · rename_i accepted
    cases answered
    exact .loaded project fun checks => by_contra fun faulty => accepted ⟨checks, faulty⟩

theorem click_answer (player : Player) (id : String) (response : Response)
    (answered : player.respond (.click id) = .ok response) : Answer player (.click id) response := by
  simp only [respond, click] at answered
  cases active : player.active with
  | error failure => simp [active, bind, Except.bind, Except.map] at answered
  | ok place =>
      obtain ⟨project, index⟩ := place
      cases found : project.clicked? index id with
      | none => simp [active, found, bind, Except.bind, Except.map] at answered
      | some triggers =>
          simp only [active, found, bind, Except.bind, Except.map, pure, Except.pure] at answered
          cases answered
          exact .clicked id project index triggers active found

theorem pointer_answer (player : Player) (point : Point) (response : Response)
    (answered : player.respond (.pointerDown point) = .ok response) :
    Answer player (.pointerDown point) response := by
  simp only [respond, pointerDown] at answered
  cases active : player.active with
  | error failure => simp [active, bind, Except.bind, Except.map] at answered
  | ok place =>
      obtain ⟨project, index⟩ := place
      cases found : project.pointed? index player.shows point with
      | none =>
          simp only [active, found, bind, Except.bind, Except.map, pure, Except.pure] at answered
          cases answered
          exact .missed point project index active found
      | some hit =>
          obtain ⟨id, triggers⟩ := hit
          simp only [active, found, bind, Except.bind, Except.map, pure, Except.pure] at answered
          cases answered
          exact .pointed point project index id triggers active found

theorem enter_answer (player : Player) (id : String) (response : Response)
    (answered : player.respond (.enter id) = .ok response) : Answer player (.enter id) response := by
  simp only [respond, enter] at answered
  cases loaded : player.project with
  | none => simp [loaded, Except.map] at answered
  | some project =>
      cases found : project.slideIndex? id with
      | none => simp [loaded, found, Except.map] at answered
      | some index =>
          simp only [loaded, found, Except.map] at answered
          cases answered
          have same := @Answer.entered player id project index loaded found
          simpa only [ready, loaded] using same

theorem respond_answer (player : Player) (command : Command) (response : Response)
    (answered : player.respond command = .ok response) : Answer player command response := by
  cases command with
  | load project => exact load_answer player project response answered
  | loadUnchecked project => cases answered; exact .loadedUnchecked project
  | restart => cases answered; exact .restarted
  | stop => cases answered; exact .stopped
  | click id => exact click_answer player id response answered
  | pointerDown point => exact pointer_answer player point response answered
  | enter id => exact enter_answer player id response answered
  | takeFaults => cases answered; exact .faultsTaken

def history (player : Player) : List Command → List Event
  | [] => []
  | command :: rest => player.reported command ++ (player.after command).history rest

theorem active_ok_iff (player : Player) (project : Project) (index : Nat) :
    player.active = .ok (project, index) ↔
      player.project = some project ∧ player.current = some index := by
  unfold active
  cases player.project <;> cases player.current <;> simp

end Player

end Slideshow
