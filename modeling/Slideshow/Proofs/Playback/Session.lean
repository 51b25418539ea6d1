import Slideshow.Proofs.Playback.Outcome

set_option autoImplicit false

namespace Slideshow

namespace Player

def Declares (project : Project) (player : Player) : Prop :=
  ∀ id, id ∈ player.store.values.keys ↔ id ∈ project.declarations.map (·.id)

structure Stands (project : Project) (index : Nat) (slide : Slide) (player : Player) : Prop where
  current : player.current = some index
  there : project.slides[index]? = some slide
  first : project.slideIndex? slide.id = some index
  layers : ∀ id, id ∈ player.layers.visibility.keys ↔ id ∈ slide.layers.map (·.id)

-- The invariant of the work: it holds between two actions as well.
structure Playing (project : Project) (player : Player) : Prop where
  loaded : player.project = some project
  declares : player.Declares project
  stands : ∃ index slide, player.Stands project index slide ∧
    (player.phase = .active slide.id ∨ player.phase = .navigating slide.id)

structure Settled (player : Player) : Prop where
  noWork : player.queue = .empty
  arrived : ∀ slide, player.phase ≠ .navigating slide
  idle_iff : player.phase = .idle ↔ player.current = none
  idleLayers : player.current = none → player.layers = .empty
  onSlide : ∀ index, player.current = some index → ∃ project slide,
    player.project = some project ∧ player.phase = .active slide.id ∧
      player.Stands project index slide ∧ player.Declares project
  unloaded : player.project = none → player.store = .empty

theorem seed_declares (project : Project) (player : Player) (seeded : player.store = .seed project) :
    player.Declares project := by
  intro id
  rw [seeded, VariableStore.seed, IdMap.mem_keys_of_list]
  simp

theorem write_declares (project : Project) (player : Player) (id : String) (value : Value)
    (declares : player.Declares project) :
    Declares project { player with store := player.store.write id value } := by
  intro key
  simpa only [VariableStore.write, IdMap.keys_update] using declares key

theorem stand_on_stands (project : Project) (index : Nat) (slide : Slide) (player : Player)
    (there : project.slides[index]? = some slide)
    (first : project.slideIndex? slide.id = some index) :
    (player.standOn index slide).Stands project index slide := by
  refine ⟨rfl, there, first, fun id => ?_⟩
  rw [standOn, LayerState.ofSlide, IdMap.mem_keys_of_list]
  simp

theorem stand_on_playing (project : Project) (index : Nat) (slide : Slide) (player : Player)
    (loaded : player.project = some project) (declares : player.Declares project)
    (there : project.slides[index]? = some slide)
    (first : project.slideIndex? slide.id = some index) :
    (player.standOn index slide).Playing project :=
  ⟨loaded, declares, index, slide, stand_on_stands project index slide player there first, .inr rfl⟩

theorem write_layer_stands (project : Project) (index : Nat) (slide : Slide) (player : Player)
    (target : String) (visible : Bool) (stands : player.Stands project index slide) :
    Stands project index slide { player with layers := player.layers.write target visible } := by
  refine ⟨stands.current, stands.there, stands.first, fun id => ?_⟩
  simpa only [LayerState.write, IdMap.keys_update] using stands.layers id

theorem outcome_playing (project : Project) (trigger : String) (host : Nat) (action : Action)
    (player : Player) (result : Player × List Event) (playing : player.Playing project)
    (outcome : Outcome project trigger host player action result) : result.1.Playing project := by
  obtain ⟨index, slide, stands, phase⟩ := playing.stands
  have unmoved : ∀ fault, (player.report fault).1.Playing project := fun _ =>
    ⟨playing.loaded, playing.declares, index, slide,
      ⟨stands.current, stands.there, stands.first, stands.layers⟩, phase⟩
  cases outcome with
  | entered target next entered found there =>
      exact stand_on_playing project next entered player playing.loaded playing.declares there
        (first_index_of_slide project target next entered found there)
  | noSlide => exact unmoved _
  | noVariable => exact unmoved _
  | refused => exact unmoved _
  | written target operation operand old value =>
      exact ⟨playing.loaded, write_declares project player target value playing.declares, index,
        slide, ⟨stands.current, stands.there, stands.first, stands.layers⟩, phase⟩
  | elsewhere => exact playing
  | noLayer => exact unmoved _
  | shown target visible =>
      exact ⟨playing.loaded, playing.declares, index, slide,
        write_layer_stands project index slide player target visible stands, phase⟩

theorem take_playing (project : Project) (rest : Queue WorkItem) (player : Player)
    (playing : player.Playing project) : Playing project { player with queue := rest } := by
  obtain ⟨index, slide, stands, phase⟩ := playing.stands
  exact ⟨playing.loaded, playing.declares, index, slide,
    ⟨stands.current, stands.there, stands.first, stands.layers⟩, phase⟩

theorem settle_playing (project : Project) (settled : Nat) (player : Player)
    (playing : player.Playing project) : (player.settle project settled).Playing project := by
  obtain ⟨index, slide, stands, phase⟩ := playing.stands
  unfold settle
  cases there : project.slides[settled]? with
  | none => exact playing
  | some arrived =>
      by_cases here : player.current = some settled
      · simp only [if_pos here]
        have same : settled = index := Option.some.inj (here.symm.trans stands.current)
        subst same
        cases there.symm.trans stands.there
        exact ⟨playing.loaded, playing.declares, settled, slide,
          ⟨stands.current, stands.there, stands.first, stands.layers⟩, .inl rfl⟩
      · simp only [if_neg here]
        exact playing

theorem playing_keeps (project : Project) : Keeps project (Playing project) fun _ => True where
  act ref trigger action player result _ _ playing outcome :=
    ⟨outcome_playing project trigger.id ref.slide action player result playing outcome,
      fun _ _ => trivial⟩
  take _ rest player _ playing := take_playing project rest player playing
  settle index player playing := settle_playing project index player playing

theorem drop_work_playing (project : Project) (player : Player) (playing : player.Playing project) :
    player.dropWork.1.Playing project ∧ player.dropWork.1.queue = .empty := by
  unfold dropWork
  cases taken : player.queue.next? with
  | none => exact ⟨playing, Queue.eq_empty_of_next? player.queue taken⟩
  | some next =>
      obtain ⟨index, slide, stands, phase⟩ := playing.stands
      exact ⟨⟨playing.loaded, playing.declares, index, slide,
        ⟨stands.current, stands.there, stands.first, stands.layers⟩, phase⟩, rfl⟩

theorem arrive_settled (project : Project) (player : Player) (playing : player.Playing project)
    (noWork : player.queue = .empty) : player.arrive.Settled := by
  obtain ⟨index, slide, stands, phase⟩ := playing.stands
  have arrived : player.arrive = { player with phase := .active slide.id } := by
    cases player with
    | mk options loaded phaseNow current store layers queue faults =>
        rcases phase with same | same <;> cases same <;> cases stands.current <;> rfl
  rw [arrived]
  refine ⟨noWork, by simp, by simp [stands.current], by simp [stands.current], fun other here => ?_,
    by simp [playing.loaded]⟩
  have same : index = other := Option.some.inj (stands.current.symm.trans here)
  subst same
  exact ⟨project, slide, playing.loaded, rfl,
    ⟨stands.current, stands.there, stands.first, stands.layers⟩, playing.declares⟩

theorem drain_settled (project : Project) (player : Player) (playing : player.Playing project) :
    (player.drain project).1.Settled := by
  have worked := (work_keeps (playing_keeps project) player.options.maxQueueSteps player playing).1
  have dropped := drop_work_playing project _ worked
  exact arrive_settled project _ dropped.1 dropped.2

theorem enter_and_drain_settled (project : Project) (index : Nat) (slide : Slide) (player : Player)
    (loaded : player.project = some project) (declares : player.Declares project)
    (there : project.slides[index]? = some slide)
    (first : project.slideIndex? slide.id = some index) :
    (player.enterAndDrain project index).1.Settled := by
  unfold enterAndDrain
  rw [enter_slide_at project index slide player there]
  exact drain_settled project _ (stand_on_playing project index slide player loaded declares there first)

theorem idle_settled (player : Player) (queue : player.queue = .empty) (phase : player.phase = .idle)
    (current : player.current = none) (layers : player.layers = .empty)
    (unloaded : player.project = none → player.store = .empty) : player.Settled :=
  ⟨queue, by simp [phase], by simp [phase, current], fun _ => layers, by simp [current], unloaded⟩

theorem stop_settled (player : Player) : player.stop.Settled :=
  idle_settled _ rfl rfl rfl rfl fun _ => rfl

def fresh (project : Project) (player : Player) : Player :=
  { player.stop with store := .seed project }

theorem restart_unloaded (player : Player) (unloaded : player.project = none) :
    player.restart = (player.stop, []) := by
  have none : player.stop.project = none := unloaded
  simp only [restart, none]

theorem restart_loaded (project : Project) (player : Player) (loaded : player.project = some project) :
    player.restart =
      if project.slides.isEmpty then (player.fresh project, [])
      else (player.fresh project).enterAndDrain project 0 := by
  have some : player.stop.project = some project := loaded
  simp only [restart, some, fresh]

theorem restart_settled (player : Player) : player.restart.1.Settled := by
  cases loaded : player.project with
  | none =>
      rw [restart_unloaded player loaded]
      exact stop_settled player
  | some project =>
      rw [restart_loaded project player loaded]
      cases slides : project.slides with
      | nil =>
          rw [List.isEmpty_nil, if_pos rfl]
          exact idle_settled _ rfl rfl rfl rfl fun unloaded => by
            cases loaded.symm.trans unloaded
      | cons slide rest =>
          have there : project.slides[0]? = some slide := by simp [slides]
          rw [List.isEmpty_cons, if_neg Bool.false_ne_true]
          exact enter_and_drain_settled project 0 slide _ loaded
            (seed_declares project _ rfl) there (first_slide_index project slide there)

theorem dispatch_settled (project : Project) (index : Nat) (triggers : List TriggerRef)
    (player : Player) (settled : player.Settled) (active : player.active = .ok (project, index)) :
    (player.dispatch project triggers).1.Settled := by
  obtain ⟨loaded, current⟩ := (active_ok_iff player project index).mp active
  obtain ⟨other, slide, loadedToo, phase, stands, declares⟩ := settled.onSlide index current
  cases loaded.symm.trans loadedToo
  -- The queue holds the new triggers, so the player is no longer settled, but still playing.
  exact drain_settled project _ ⟨loaded, declares, index, slide,
    ⟨stands.current, stands.there, stands.first, stands.layers⟩, .inl phase⟩

theorem ready_declares (project : Project) (player : Player) (settled : player.Settled)
    (loaded : player.project = some project) : (player.ready project).Declares project := by
  unfold ready
  cases current : player.current with
  | none => exact seed_declares project _ rfl
  | some index =>
      obtain ⟨other, _, loadedToo, _, _, declares⟩ := settled.onSlide index current
      cases loaded.symm.trans loadedToo
      exact declares

theorem ready_loaded (project : Project) (player : Player) (loaded : player.project = some project) :
    (player.ready project).project = some project := by
  unfold ready
  split <;> exact loaded

theorem answer_settled (player : Player) (command : Command) (response : Response)
    (settled : player.Settled) (answer : Answer player command response) :
    response.player.Settled := by
  cases answer with
  | loaded project => exact restart_settled _
  | loadedUnchecked project => exact restart_settled _
  | restarted => exact restart_settled player
  | stopped => exact stop_settled player
  | clicked id project index triggers active =>
      exact dispatch_settled project index triggers player settled active
  | pointed point project index id triggers active =>
      exact dispatch_settled project index triggers player settled active
  | missed => exact settled
  | entered id project index loaded found =>
      obtain ⟨slide, there, _⟩ := slide_of_index project id index found
      exact enter_and_drain_settled project index slide _ (ready_loaded project player loaded)
        (ready_declares project player settled loaded) there
        (first_index_of_slide project id index slide found there)
  -- Only the faults change, and nothing that is settled speaks of them.
  | faultsTaken =>
      refine ⟨settled.noWork, settled.arrived, settled.idle_iff, settled.idleLayers,
        fun index current => ?_, settled.unloaded⟩
      obtain ⟨project, slide, loaded, phase, stands, declares⟩ := settled.onSlide index current
      exact ⟨project, slide, loaded, phase,
        ⟨stands.current, stands.there, stands.first, stands.layers⟩, declares⟩

theorem after_settled (player : Player) (command : Command) (settled : player.Settled) :
    (player.after command).Settled := by
  unfold after
  cases answered : player.respond command with
  | error failure => exact settled
  | ok response =>
      exact answer_settled player command response settled
        (respond_answer player command response answered)

theorem run_keeps_settled (commands : List Command) (player : Player) (settled : player.Settled) :
    (player.run commands).Settled := by
  induction commands generalizing player with
  | nil => exact settled
  | cons command rest ih => exact ih (player.after command) (after_settled player command settled)

theorem start_settled (options : Options) : (Player.start options).Settled :=
  idle_settled _ rfl rfl rfl rfl fun _ => rfl

/-- Between two commands of any session no work waits and no navigation is under way; what a player
shows belongs to its current slide, and what it stores to its project. -/
theorem session_is_settled (options : Options) (commands : List Command) :
    ((Player.start options).run commands).Settled :=
  run_keeps_settled commands _ (start_settled options)

end Player

end Slideshow
