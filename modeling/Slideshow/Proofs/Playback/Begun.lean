import Slideshow.Proofs.Playback.Session

set_option autoImplicit false

namespace Slideshow

namespace Player

def anew (player : Player) : Player :=
  match player.project with
  | some project => player.fresh project
  | none => player.stop

-- The player that a command sets out from. A session that starts is a new one, with the variables
-- as declared, no current slide and no layers; one that goes on is taken as it is.
def base (command : Command) (player : Player) : Player :=
  match command with
  | .load project | .loadUnchecked project => anew { player with project := some project }
  | .restart => player.anew
  | .enter _ => if player.current.isNone then player.anew else player
  | .stop => player.stop
  | .click _ | .pointerDown _ => player
  | .takeFaults => { player with faults := #[] }

end Player

def Command.enters (project : Project) : Command → Option Nat
  | .load _ | .loadUnchecked _ | .restart => if project.slides.isEmpty then none else some 0
  | .enter id => project.slideIndex? id
  | _ => none

namespace Player

def hits (slide : Slide) (command : Command) (player : Player) : Option ObjectPosition :=
  match command with
  | .click id => slide.locate? id
  | .pointerDown point => (slide.hitTest? player.shows point).map (·.1)
  | _ => none

def fires (project : Project) (command : Command) (player : Player) : List TriggerRef :=
  (player.current.bind fun index =>
    (project.slides[index]?).bind fun slide =>
      (player.hits slide command).map (slide.clickTriggers index)).getD []

-- The player before the work for a command begins, and what has been reported by then.
def begun (project : Project) (command : Command) (player : Player) : Player × List Event :=
  match command.enters project with
  | some index => (player.base command).enterSlide project index
  | none =>
      ({ player.base command with
          queue := (player.base command).queue.append ((player.fires project command).map .fire) }, [])

theorem command_enters (project : Project) (command : Command) (index : Nat)
    (enters : command.enters project = some index) :
    ∃ slide, project.slides[index]? = some slide ∧ project.slideIndex? slide.id = some index := by
  have from_start : (if project.slides.isEmpty then none else some 0) = some index →
      ∃ slide, project.slides[index]? = some slide ∧ project.slideIndex? slide.id = some index := by
    intro start
    cases slides : project.slides with
    | nil => simp [slides] at start
    | cons slide rest =>
        obtain rfl : 0 = index := by simpa [slides] using start
        have there : project.slides[0]? = some slide := by simp [slides]
        exact ⟨slide, by simp, first_slide_index project slide there⟩
  cases command with
  | load | loadUnchecked | restart => exact from_start enters
  | enter id =>
      obtain ⟨slide, there, _⟩ := slide_of_index project id index enters
      exact ⟨slide, there, first_index_of_slide project id index slide enters there⟩
  | stop | click | pointerDown | takeFaults => cases enters

theorem fires_nothing (project : Project) (command : Command) (player : Player)
    (misses : ∀ slide, player.hits slide command = none) : player.fires project command = [] := by
  simp [fires, misses]

theorem fires_clicked (project : Project) (index : Nat) (id : String) (player : Player)
    (current : player.current = some index) :
    player.fires project (.click id) = (project.clicked? index id).getD [] := by
  simp only [fires, current, Option.bind_some, Project.clicked?]
  cases project.slides[index]? with
  | none => rfl
  | some slide => cases located : slide.locate? id <;> simp [hits, located]

theorem fires_pointed (project : Project) (index : Nat) (point : Point) (player : Player)
    (current : player.current = some index) :
    player.fires project (.pointerDown point) =
      ((project.pointed? index player.shows point).map (·.2)).getD [] := by
  simp only [fires, current, Option.bind_some, Project.pointed?]
  cases project.slides[index]? with
  | none => rfl
  | some slide => cases hit : slide.hitTest? player.shows point <;> simp [hits, hit]

theorem fresh_anew (project : Project) (player : Player) (loaded : player.project = some project) :
    player.anew = player.fresh project := by
  rw [anew, loaded]

theorem anew_project (player : Player) : player.anew.project = player.project := by
  unfold anew
  cases loaded : player.project with
  | none => exact loaded
  | some project => exact loaded

theorem settled_current_none (player : Player) (settled : player.Settled) (idle : player.current = none) :
    player = { player.stop with store := player.store } := by
  have phase := settled.idle_iff.mpr idle
  have layers := settled.idleLayers idle
  have queue := settled.noWork
  obtain ⟨options, project, phaseNow, current, store, layersNow, queueNow, faults⟩ := player
  cases phase
  cases idle
  cases layers
  cases queue
  rfl

theorem base_enter (project : Project) (id : String) (player : Player) (settled : player.Settled)
    (loaded : player.project = some project) : player.base (.enter id) = player.ready project := by
  unfold base ready
  cases current : player.current with
  | some index => rfl
  | none =>
      simp only [Option.isNone_none, if_pos, fresh_anew project player loaded, fresh]
      rw [settled_current_none player settled current]
      rfl

theorem drain_nothing (project : Project) (player : Player) (noWork : player.queue = .empty)
    (arrived : ∀ slide, player.phase ≠ .navigating slide) : player.drain project = (player, []) := by
  have nothing : player.queue.next? = none := by rw [noWork]; rfl
  have unworked : ∀ steps, player.work project steps = (player, []) := by
    intro steps
    cases steps with
    | zero => rfl
    | succ steps => simp only [work, nothing]
  have undropped : player.dropWork = (player, []) := by simp only [dropWork, nothing]
  have there : player.arrive = player := by
    unfold arrive
    cases phase : player.phase with
    | navigating slide => exact absurd phase (arrived slide)
    | idle | active => rfl
  rw [drain_eq, unworked, undropped, there]
  rfl

theorem base_settled (command : Command) (player : Player) (settled : player.Settled) :
    (player.base command).queue = .empty ∧ ∀ slide, (player.base command).phase ≠ .navigating slide := by
  have fresh : ∀ project player, (fresh project player).queue = .empty ∧
      ∀ slide, (Player.fresh project player).phase ≠ .navigating slide := fun _ _ => ⟨rfl, nofun⟩
  have anew : ∀ player : Player, player.anew.queue = .empty ∧
      ∀ slide, player.anew.phase ≠ .navigating slide := by
    intro player
    unfold Player.anew
    split
    · exact fresh _ _
    · exact ⟨rfl, nofun⟩
  cases command with
  | load project | loadUnchecked project => exact anew _
  | restart => exact anew player
  | stop => exact ⟨rfl, nofun⟩
  | click | pointerDown | takeFaults => exact ⟨settled.noWork, settled.arrived⟩
  | enter id =>
      simp only [base]
      split
      · exact anew player
      · exact ⟨settled.noWork, settled.arrived⟩

theorem begun_quiet (project : Project) (command : Command) (player : Player)
    (settled : player.Settled) (enters : command.enters project = none)
    (fires : player.fires project command = []) :
    player.begun project command = (player.base command, []) ∧
      (player.base command).drain project = (player.base command, []) := by
  have ⟨noWork, arrived⟩ := base_settled command player settled
  refine ⟨?_, drain_nothing project _ noWork arrived⟩
  rw [begun, enters, fires]
  rfl

def Worked (project : Project) (begun : Player × List Event) (response : Response) : Prop :=
  response.player = (begun.1.drain project).1 ∧ response.events = begun.2 ++ (begun.1.drain project).2

theorem quiet_worked (project : Project) (command : Command) (player : Player) (reply : Reply)
    (settled : player.Settled) (enters : command.enters project = none)
    (fires : player.fires project command = []) :
    Worked project (player.begun project command) ⟨reply, player.base command, []⟩ := by
  obtain ⟨begun, drained⟩ := begun_quiet project command player settled enters fires
  rw [Worked, begun, drained]
  exact ⟨rfl, rfl⟩

theorem restart_worked (project : Project) (command : Command) (before player : Player)
    (settled : before.Settled) (loaded : player.project = some project)
    (base : before.base command = player.anew)
    (enters : command.enters project = if project.slides.isEmpty then none else some 0)
    (fires : before.fires project command = []) :
    Worked project (before.begun project command) (done player.restart) := by
  rw [fresh_anew project player loaded] at base
  rw [restart_loaded project player loaded, ← base]
  by_cases empty : project.slides.isEmpty = true
  · rw [if_pos empty] at enters ⊢
    exact quiet_worked project command before .done settled enters fires
  · rw [if_neg empty] at enters ⊢
    rw [begun, enters]
    exact ⟨rfl, rfl⟩

theorem answer_worked (project : Project) (player : Player) (command : Command) (response : Response)
    (settled : player.Settled) (loaded : (player.base command).project = some project)
    (answer : Answer player command response) :
    Worked project (player.begun project command) response := by
  cases answer with
  | loaded given =>
      obtain rfl : given = project := Option.some.inj ((anew_project _).symm.trans loaded)
      exact restart_worked given _ player _ settled rfl rfl rfl (fires_nothing given _ player fun _ => rfl)
  | loadedUnchecked given =>
      obtain rfl : given = project := Option.some.inj ((anew_project _).symm.trans loaded)
      exact restart_worked given _ player _ settled rfl rfl rfl (fires_nothing given _ player fun _ => rfl)
  | restarted =>
      have present := (anew_project player).symm.trans loaded
      exact restart_worked project _ player player settled present rfl rfl
        (fires_nothing project _ player fun _ => rfl)
  | stopped =>
      exact quiet_worked project .stop player .done settled rfl
        (fires_nothing project _ player fun _ => rfl)
  | clicked id other index triggers active found =>
      obtain ⟨loadedToo, current⟩ := (active_ok_iff player other index).mp active
      cases loaded.symm.trans loadedToo
      have fires : player.fires project (.click id) = triggers := by
        rw [fires_clicked project index id player current, found, Option.getD_some]
      simp only [Worked, begun, Command.enters, fires]
      exact ⟨rfl, rfl⟩
  | pointed point other index id triggers active found =>
      obtain ⟨loadedToo, current⟩ := (active_ok_iff player other index).mp active
      cases loaded.symm.trans loadedToo
      have fires : player.fires project (.pointerDown point) = triggers := by
        rw [fires_pointed project index point player current, found]
        rfl
      simp only [Worked, begun, Command.enters, fires]
      exact ⟨rfl, rfl⟩
  | missed point other index active nothing =>
      obtain ⟨loadedToo, current⟩ := (active_ok_iff player other index).mp active
      cases loaded.symm.trans loadedToo
      have fires : player.fires project (.pointerDown point) = [] := by
        rw [fires_pointed project index point player current, nothing]
        rfl
      exact quiet_worked project _ player _ settled rfl fires
  | entered id other index loadedToo found =>
      have base := base_enter other id player settled loadedToo
      rw [base, ready_loaded other player loadedToo] at loaded
      cases loaded
      rw [begun, Command.enters, found, base]
      exact ⟨rfl, rfl⟩
  | faultsTaken =>
      exact quiet_worked project .takeFaults player _ settled rfl
        (fires_nothing project _ player fun _ => rfl)

theorem outcome_frame (project : Project) (trigger : String) (host : Nat) (action : Action)
    (player : Player) (result : Player × List Event)
    (outcome : Outcome project trigger host player action result) :
    result.1.options = player.options ∧ result.1.project = player.project := by
  cases outcome <;> exact ⟨rfl, rfl⟩

theorem drop_work_cases (player : Player) :
    (player.queue.toList = [] ∧ player.dropWork = (player, [])) ∨
      player.dropWork =
        report { player with queue := .empty } (.stepLimitExceeded player.options.maxQueueSteps) := by
  unfold dropWork
  cases taken : player.queue.next? with
  | none => exact .inl ⟨by rw [Queue.eq_empty_of_next? _ taken]; rfl, rfl⟩
  | some next => exact .inr rfl

-- What actions keep, and what does not speak of phase, queue and faults, is kept by all of the work.
theorem drain_keeps (project : Project) (P : Player → Prop)
    (act : ∀ (trigger : String) (host : Nat) (action : Action) (player : Player)
      (result : Player × List Event), Outcome project trigger host player action result → P player →
      P result.1)
    (rest : ∀ (phase : Phase) (queue : Queue WorkItem) (faults : Array Fault) (player : Player), P player →
      P { player with phase := phase, queue := queue, faults := faults })
    (player : Player) (holds : P player) : P (player.drain project).1 := by
  refine drain_traces project (fun before _ after => P before → P after) ?_ ?_ ?_ ?_ player holds
  · exact {
      stay := fun _ holds => holds
      append := fun _ _ _ _ _ early late holds => late (early holds)
      act := fun ref trigger action player result _ _ outcome =>
        act trigger.id ref.slide action player result outcome
      settle := fun index player holds => by
        rw [settle_frame]
        exact rest _ player.queue player.faults player holds }
  · exact fun _ queue player _ holds => rest player.phase queue player.faults player holds
  · intro player holds
    rcases drop_work_cases player with ⟨_, undropped⟩ | dropped
    · rwa [undropped]
    · rw [dropped]
      exact rest player.phase .empty _ player holds
  · intro player holds
    rw [arrive_frame]
    exact rest _ player.queue player.faults player holds

theorem drain_project (project : Project) (player : Player) :
    (player.drain project).1.project = player.project := by
  refine drain_keeps project (fun next => next.project = player.project) ?_ (fun _ _ _ _ same => same)
    player rfl
  intro trigger host action before result outcome same
  exact (outcome_frame project trigger host action before result outcome).2.trans same

theorem begun_project (project : Project) (command : Command) (player : Player) :
    (player.begun project command).1.project = (player.base command).project := by
  unfold begun
  split
  · unfold enterSlide
    split <;> rfl
  · rfl

theorem answer_unloaded (player : Player) (command : Command) (response : Response)
    (unloaded : (player.base command).project = none) (answer : Answer player command response) :
    response.player = player.base command ∧ response.events = [] := by
  cases answer with
  | loaded given => cases (anew_project _).symm.trans unloaded
  | loadedUnchecked given => cases (anew_project _).symm.trans unloaded
  | restarted =>
      have nothing := (anew_project player).symm.trans unloaded
      rw [restart_unloaded player nothing]
      refine ⟨?_, rfl⟩
      simp only [done, base, anew, nothing]
  | stopped => exact ⟨rfl, rfl⟩
  | clicked id project index triggers active =>
      cases ((active_ok_iff player project index).mp active).1.symm.trans unloaded
  | pointed point project index id triggers active =>
      cases ((active_ok_iff player project index).mp active).1.symm.trans unloaded
  | missed => exact ⟨rfl, rfl⟩
  | entered id project index loaded =>
      have same : (player.base (.enter id)).project = player.project := by
        simp only [base]
        split
        · exact anew_project player
        · rfl
      cases (same.trans loaded).symm.trans unloaded
  | faultsTaken => exact ⟨rfl, rfl⟩

theorem answer_project (player : Player) (command : Command) (response : Response)
    (settled : player.Settled) (answer : Answer player command response) :
    response.player.project = (player.base command).project := by
  cases loaded : (player.base command).project with
  | none => rw [(answer_unloaded player command response loaded answer).1, loaded]
  | some project =>
      have worked := answer_worked project player command response settled loaded answer
      rw [worked.1, drain_project, begun_project, loaded]

theorem drain_options (project : Project) (player : Player) :
    (player.drain project).1.options = player.options := by
  refine drain_keeps project (fun next => next.options = player.options) ?_ (fun _ _ _ _ same => same)
    player rfl
  intro trigger host action before result outcome same
  exact (outcome_frame project trigger host action before result outcome).1.trans same

theorem base_options (command : Command) (player : Player) :
    (player.base command).options = player.options := by
  have anew : ∀ before : Player, before.anew.options = before.options := by
    intro before
    unfold Player.anew
    cases before.project <;> rfl
  cases command with
  | load | loadUnchecked => exact anew _
  | restart => exact anew player
  | stop | click | pointerDown | takeFaults => rfl
  | enter id =>
      simp only [base]
      cases player.current with
      | none => exact anew player
      | some index => rfl

theorem begun_options (project : Project) (command : Command) (player : Player) :
    (player.begun project command).1.options = player.options := by
  rw [← base_options command player]
  cases enters : command.enters project with
  | none => simp only [begun, enters]
  | some index =>
      obtain ⟨slide, there, _⟩ := command_enters project command index enters
      simp only [begun, enters, enter_slide_at project index slide _ there, standOn]

theorem answer_options (player : Player) (command : Command) (response : Response)
    (settled : player.Settled) (answer : Answer player command response) :
    response.player.options = player.options := by
  cases loaded : (player.base command).project with
  | none => rw [(answer_unloaded player command response loaded answer).1, base_options]
  | some project =>
      have worked := answer_worked project player command response settled loaded answer
      rw [worked.1, drain_options, begun_options]

theorem run_options (commands : List Command) (player : Player) (settled : player.Settled) :
    (player.run commands).options = player.options := by
  induction commands generalizing player with
  | nil => rfl
  | cons command rest ih =>
      refine (ih (player.after command) (after_settled player command settled)).trans ?_
      unfold after
      cases answered : player.respond command with
      | error failure => rfl
      | ok response =>
          have answer := respond_answer player command response answered
          exact answer_options player command response settled answer

end Player

end Slideshow
