import Slideshow.Proofs.Playback.Gathered
import Slideshow.Proofs.Playback.Session
import Slideshow.Proofs.Validation.Phases
import Slideshow.Project.Build

set_option autoImplicit false

namespace Slideshow

def Action.Resolves (project : Project) (slide : Slide) : Action → Prop
  | .navigateToSlide target => target ∈ project.slides.map (·.id)
  | .setVariable target _ _ => target ∈ project.declarations.map (·.id)
  | .showLayer target | .hideLayer target => target ∈ slide.layers.map (·.id)

theorem resolves_of_layer (project : Project) (slide : Slide) (target : String) (visible : Bool) :
    (Action.ofLayer target visible).Resolves project slide ↔ target ∈ slide.layers.map (·.id) := by
  cases visible <;> exact Iff.rfl

def Violation.ofAction (i : Nat) (slide : Slide) (site : TriggerSite) (a : Nat) : Action → Violation
  | .navigateToSlide target => .missingSlide i slide site a target
  | .setVariable target _ _ => .missingVariable i slide site a target
  | .showLayer target | .hideLayer target => .missingLayer i slide site a target

theorem action_violates_iff (project : Project) (index : Nat) (slide : Slide) (site : TriggerSite)
    (there : project.slides[index]? = some slide) (on : site.On slide) (a : Nat) (action : Action)
    (own : site.trigger.actions[a]? = some action) :
    project.Violates (.ofAction index slide site a action) ↔ ¬ action.Resolves project slide := by
  cases action <;> simp [Violation.ofAction, Project.Violates, Action.Resolves, there, on, own]

theorem valid_action_resolves (project : Project) (valid : project.diagnostics = [])
    (ref : TriggerRef) (trigger : Trigger) (action : Action)
    (resolved : ref.resolve project = some trigger) (own : action ∈ trigger.actions) :
    ∃ slide, project.slides[ref.slide]? = some slide ∧ action.Resolves project slide := by
  obtain ⟨slide, layer, object, there, layerThere, objectThere, triggerThere⟩ :=
    (resolve_eq_some_iff project ref trigger).mp resolved
  obtain ⟨a, named⟩ := List.mem_iff_getElem?.mp own
  have sound := (Violation.diagnostics_nil_iff project).mp valid
  have on : TriggerSite.On ⟨ref.layer, ref.object, ref.trigger, object, trigger⟩ slide :=
    ⟨layer, layerThere, objectThere, triggerThere⟩
  have violated := action_violates_iff project ref.slide slide _ there on a action named
  exact ⟨slide, there, by_contra fun missing => sound _ (violated.mpr missing)⟩

namespace Player

-- A fault that a sound project can cause: it names nothing that is missing.
def Ordinary (options : Options) (fault : Fault) : Prop :=
  (∃ trigger target cause, fault = .typeMismatch trigger target cause) ∨
    fault = .stepLimitExceeded options.maxQueueSteps

def OrdinaryEvent (options : Options) (event : Event) : Prop :=
  ∀ fault, event = .fault fault → Ordinary options fault

structure Untroubled (options : Options) (player : Player) : Prop where
  configured : player.options = options
  faults : ∀ fault ∈ player.faults, Ordinary options fault

theorem report_untroubled (options : Options) (player : Player) (fault : Fault)
    (untroubled : player.Untroubled options) (ordinary : Ordinary options fault) :
    (player.report fault).1.Untroubled options ∧
      ∀ event ∈ (player.report fault).2, OrdinaryEvent options event := by
  refine ⟨⟨untroubled.configured, fun kept member => ?_⟩, fun event member => ?_⟩
  · rcases Array.mem_push.mp member with old | new
    · exact untroubled.faults kept old
    · exact new ▸ ordinary
  · cases List.mem_singleton.mp member
    intro other same
    cases same
    exact ordinary

theorem outcome_untroubled (options : Options) (project : Project) (trigger : String) (host : Nat)
    (slide : Slide) (action : Action) (player : Player) (result : Player × List Event)
    (there : project.slides[host]? = some slide) (resolves : action.Resolves project slide)
    (playing : player.Playing project) (untroubled : player.Untroubled options)
    (outcome : Outcome project trigger host player action result) :
    result.1.Untroubled options ∧ ∀ event ∈ result.2, OrdinaryEvent options event := by
  have kept : player.Untroubled options := untroubled
  cases outcome with
  | entered => exact ⟨⟨kept.configured, kept.faults⟩, by simp [OrdinaryEvent]⟩
  | noSlide target missing => exact absurd resolves ((slide_index_none_iff project target).mp missing)
  | noVariable target operation operand missing =>
      have declared := (playing.declares target).mpr resolves
      exact absurd declared ((IdMap.get?_eq_none_iff _ target).mp missing)
  | refused target operation operand old cause =>
      exact report_untroubled options player _ untroubled (.inl ⟨trigger, target, cause, rfl⟩)
  | written =>
      refine ⟨⟨kept.configured, kept.faults⟩, fun event member fault same => ?_⟩
      split at member <;> simp_all
  | elsewhere => exact ⟨kept, by simp⟩
  | noLayer target visible here missing =>
      obtain ⟨index, current, stands, _⟩ := playing.stands
      have same : host = index := Option.some.inj (here.symm.trans stands.current)
      subst same
      cases there.symm.trans stands.there
      have present := (stands.layers target).mpr
        ((resolves_of_layer project slide target visible).mp resolves)
      exact absurd present ((IdMap.get?_eq_none_iff _ target).mp missing)
  | shown =>
      refine ⟨⟨kept.configured, kept.faults⟩, fun event member fault same => ?_⟩
      split at member <;> simp_all

theorem untroubled_keeps (options : Options) (project : Project) (valid : project.diagnostics = []) :
    Keeps project (fun player => player.Playing project ∧ player.Untroubled options)
      (OrdinaryEvent options) where
  act ref trigger action player result resolved own holds outcome := by
    obtain ⟨slide, there, resolves⟩ := valid_action_resolves project valid ref trigger action resolved own
    have quiet := outcome_untroubled options project trigger.id ref.slide slide action player result
      there resolves holds.1 holds.2 outcome
    exact ⟨⟨outcome_playing project trigger.id ref.slide action player result holds.1 outcome, quiet.1⟩,
      quiet.2⟩
  take _ rest player _ holds :=
    ⟨take_playing project rest player holds.1, holds.2.configured, holds.2.faults⟩
  settle index player holds := by
    refine ⟨settle_playing project index player holds.1, ?_⟩
    unfold settle
    cases project.slides[index]? with
    | none => exact holds.2
    | some slide =>
        by_cases here : player.current = some index
        · simp only [if_pos here]
          exact ⟨holds.2.configured, holds.2.faults⟩
        · simp only [if_neg here]
          exact holds.2

structure Sound (options : Options) (player : Player) : Prop where
  settled : player.Settled
  untroubled : player.Untroubled options
  valid : ∀ project, player.project = some project → project.diagnostics = []

theorem drop_work_untroubled (options : Options) (player : Player)
    (untroubled : player.Untroubled options) :
    player.dropWork.1.Untroubled options ∧
      ∀ event ∈ player.dropWork.2, OrdinaryEvent options event := by
  unfold dropWork
  cases player.queue.next? with
  | none => exact ⟨untroubled, by simp⟩
  | some next =>
      exact report_untroubled options { player with queue := .empty } _
        ⟨untroubled.configured, untroubled.faults⟩ (.inr (by rw [untroubled.configured]))

theorem drain_sound (options : Options) (project : Project) (player : Player)
    (valid : project.diagnostics = []) (playing : player.Playing project)
    (untroubled : player.Untroubled options) :
    (player.drain project).1.Sound options ∧
      ∀ event ∈ (player.drain project).2, OrdinaryEvent options event := by
  obtain ⟨⟨worked, calm⟩, quiet⟩ := work_keeps (untroubled_keeps options project valid)
    player.options.maxQueueSteps player ⟨playing, untroubled⟩
  have dropped := drop_work_untroubled options _ calm
  have stillPlaying := (drop_work_playing project _ worked).1
  have final := drain_settled project player playing
  rw [drain_eq] at final ⊢
  refine ⟨⟨final, ?_, ?_⟩, fun event member => ?_⟩
  · rw [arrive_frame]
    exact ⟨dropped.1.configured, dropped.1.faults⟩
  · rw [arrive_frame]
    intro other loaded
    cases stillPlaying.loaded.symm.trans loaded
    exact valid
  · rcases List.mem_append.mp member with early | late
    · exact quiet event early
    · exact dropped.2 event late

theorem enter_and_drain_sound (options : Options) (project : Project) (index : Nat) (slide : Slide)
    (player : Player) (valid : project.diagnostics = []) (loaded : player.project = some project)
    (declares : player.Declares project) (untroubled : player.Untroubled options)
    (there : project.slides[index]? = some slide)
    (first : project.slideIndex? slide.id = some index) :
    (player.enterAndDrain project index).1.Sound options ∧
      ∀ event ∈ (player.enterAndDrain project index).2, OrdinaryEvent options event := by
  unfold enterAndDrain
  rw [enter_slide_at project index slide player there]
  have drained := drain_sound options project (player.standOn index slide) valid
    (stand_on_playing project index slide player loaded declares there first)
    ⟨untroubled.configured, untroubled.faults⟩
  refine ⟨drained.1, fun event member => ?_⟩
  rcases List.mem_append.mp member with entered | later
  · cases List.mem_singleton.mp entered
    simp [OrdinaryEvent]
  · exact drained.2 event later

theorem restart_sound (options : Options) (player : Player) (untroubled : player.Untroubled options)
    (valid : ∀ project, player.project = some project → project.diagnostics = []) :
    player.restart.1.Sound options ∧ ∀ event ∈ player.restart.2, OrdinaryEvent options event := by
  have final := restart_settled player
  cases loaded : player.project with
  | none =>
      rw [restart_unloaded player loaded] at final ⊢
      exact ⟨⟨final, ⟨untroubled.configured, untroubled.faults⟩, valid⟩, by simp⟩
  | some project =>
      rw [restart_loaded project player loaded] at final ⊢
      cases slides : project.slides with
      | nil =>
          rw [slides, List.isEmpty_nil, if_pos rfl] at final
          rw [List.isEmpty_nil, if_pos rfl]
          exact ⟨⟨final, ⟨untroubled.configured, untroubled.faults⟩, valid⟩, by simp⟩
      | cons slide rest =>
          have there : project.slides[0]? = some slide := by simp [slides]
          rw [List.isEmpty_cons, if_neg Bool.false_ne_true]
          exact enter_and_drain_sound options project 0 slide _ (valid project loaded) loaded
            (seed_declares project _ rfl) ⟨untroubled.configured, untroubled.faults⟩ there
            (first_slide_index project slide there)

theorem dispatch_sound (options : Options) (project : Project) (index : Nat)
    (triggers : List TriggerRef) (player : Player) (sound : player.Sound options)
    (active : player.active = .ok (project, index)) :
    (player.dispatch project triggers).1.Sound options ∧
      ∀ event ∈ (player.dispatch project triggers).2, OrdinaryEvent options event := by
  obtain ⟨loaded, current⟩ := (active_ok_iff player project index).mp active
  obtain ⟨other, slide, loadedToo, phase, stands, declares⟩ := sound.settled.onSlide index current
  cases loaded.symm.trans loadedToo
  exact drain_sound options project _ (sound.valid project loaded)
    ⟨loaded, declares, index, slide,
      ⟨stands.current, stands.there, stands.first, stands.layers⟩, .inl phase⟩
    ⟨sound.untroubled.configured, sound.untroubled.faults⟩

def loadedBy (options : Options) : Command → Option Project
  | .load project =>
      if options.validateOnLoad && !project.diagnostics.isEmpty then none else some project
  | .loadUnchecked project => some project
  | _ => none

theorem answer_sound (options : Options) (player : Player) (command : Command) (response : Response)
    (sound : player.Sound options)
    (valid : ∀ project, loadedBy options command = some project → project.diagnostics = [])
    (answer : Answer player command response) :
    response.player.Sound options ∧ ∀ event ∈ response.events, OrdinaryEvent options event := by
  have calm : player.Untroubled options := sound.untroubled
  -- Only loading can bring in a project that was not there before.
  have loading : ∀ project, project.diagnostics = [] →
      (player.loadUnchecked project).1.Sound options ∧
        ∀ event ∈ (player.loadUnchecked project).2, OrdinaryEvent options event := by
    intro project clean
    refine restart_sound options _ ⟨calm.configured, calm.faults⟩ fun other loaded => ?_
    cases loaded
    exact clean
  cases answer with
  | loaded project checked =>
      apply loading project
      cases on : options.validateOnLoad with
      | true => exact checked (calm.configured ▸ on)
      | false => exact valid project (by simp [loadedBy, on])
  | loadedUnchecked project => exact loading project (valid project rfl)
  | restarted => exact restart_sound options player calm sound.valid
  | stopped => exact ⟨⟨stop_settled player, ⟨calm.configured, calm.faults⟩, sound.valid⟩, by simp⟩
  | clicked id project index triggers active =>
      exact dispatch_sound options project index triggers player sound active
  | pointed point project index id triggers active =>
      exact dispatch_sound options project index triggers player sound active
  | missed => exact ⟨sound, by simp⟩
  | entered id project index loaded found =>
      obtain ⟨slide, there, _⟩ := slide_of_index project id index found
      refine enter_and_drain_sound options project index slide _ (sound.valid project loaded)
        (ready_loaded project player loaded) (ready_declares project player sound.settled loaded) ?_
        there (first_index_of_slide project id index slide found there)
      unfold ready
      split
      · exact ⟨calm.configured, calm.faults⟩
      · exact calm
  | faultsTaken =>
      have final := answer_settled player .takeFaults _ sound.settled .faultsTaken
      exact ⟨⟨final, ⟨calm.configured, by simp⟩, sound.valid⟩, by simp⟩

theorem after_sound (options : Options) (player : Player) (command : Command)
    (sound : player.Sound options)
    (valid : ∀ project, loadedBy options command = some project → project.diagnostics = []) :
    (player.after command).Sound options ∧
      ∀ event ∈ player.reported command, OrdinaryEvent options event := by
  unfold after reported
  cases answered : player.respond command with
  | error failure => exact ⟨sound, by simp⟩
  | ok response =>
      exact answer_sound options player command response sound valid
        (respond_answer player command response answered)

theorem history_sound (options : Options) (commands : List Command) (player : Player)
    (sound : player.Sound options)
    (valid : ∀ command ∈ commands, ∀ project, loadedBy options command = some project →
      project.diagnostics = []) :
    (player.run commands).Sound options ∧
      ∀ event ∈ player.history commands, OrdinaryEvent options event := by
  -- By induction on the commands, from any sound player: soundness is what a command hands on.
  induction commands generalizing player with
  | nil => exact ⟨sound, by simp [history]⟩
  | cons command rest ih =>
      obtain ⟨next, quiet⟩ := after_sound options player command sound (valid command List.mem_cons_self)
      have later := ih (player.after command) next
        fun other member => valid other (List.mem_cons_of_mem _ member)
      refine ⟨later.1, fun event member => ?_⟩
      rcases List.mem_append.mp member with now | after
      · exact quiet event now
      · exact later.2 event after

theorem start_sound (options : Options) : (Player.start options).Sound options :=
  ⟨start_settled options, ⟨rfl, by simp [start]⟩, by simp [start]⟩

/-- As long as every project loaded is one without diagnostics, a session reports no fault but
values of the wrong type and queues cut short, and keeps no other. -/
theorem valid_projects_never_dangle (options : Options) (commands : List Command)
    (valid : ∀ command ∈ commands, ∀ project, loadedBy options command = some project →
      project.diagnostics = []) :
    (∀ fault, Event.fault fault ∈ (Player.start options).history commands →
        Ordinary options fault) ∧
      ∀ fault ∈ ((Player.start options).run commands).faults, Ordinary options fault := by
  have sound := history_sound options commands _ (start_sound options) valid
  exact ⟨fun fault member => sound.2 _ member fault rfl, sound.1.untroubled.faults⟩

def carousel : Project :=
  let turn := fun (id next : String) =>
    (Slide.start id).withLayer ((Layer.start id).withObject ((SlideObject.button "go" id).withTrigger
      ((((Trigger.start "turn" .onTimelineStart).navigate next).add "turns" (.text "one")).showLayer id)))
  (((Project.start "carousel" "Carousel").withSlide (turn "front" "back")).withSlide
    (turn "back" "front")).withVariable (.start "turns" .number (some (.int32 0)))

theorem carousel_never_dangles :
    carousel.diagnostics = [] ∧
      ∀ fault ∈ ((Player.start ⟨true, 5⟩).run [.load carousel, .enter "back", .click "go"]).faults,
        Ordinary ⟨true, 5⟩ fault := by
  have clean : carousel.diagnostics = [] := by decide +kernel
  refine ⟨clean, (valid_projects_never_dangle ⟨true, 5⟩ [.load carousel, .enter "back", .click "go"] ?_).2⟩
  intro command member project loads
  have same : project = carousel := by
    simp only [List.mem_cons, List.not_mem_nil, or_false] at member
    rcases member with rfl | rfl | rfl
    · simpa [loadedBy, clean, eq_comm] using loads
    · cases loads
    · cases loads
  rw [same]
  exact clean

end Player

end Slideshow
