import Mathlib.Data.List.Forall2
import Slideshow.Proofs.Playback.InPlace

set_option autoImplicit false

namespace Slideshow

namespace Command

def needsProject : Command → Bool
  | .click _ | .pointerDown _ | .enter _ => true
  | _ => false

def needsSlide : Command → Bool
  | .click _ | .pointerDown _ => true
  | _ => false

end Command

inductive Refusal (player : Player) : Command → Failure → Prop where
  | invalid (project : Project) (checks : player.options.validateOnLoad = true)
      (faulty : project.diagnostics ≠ []) :
      Refusal player (.load project) (.invalid project.diagnostics)
  | unloaded (command : Command) (needs : command.needsProject = true)
      (nothing : player.project = none) : Refusal player command .noProject
  | idle (command : Command) (needs : command.needsSlide = true) (project : Project)
      (loaded : player.project = some project) (nowhere : player.current = none) :
      Refusal player command .noSlide
  | unknownObject (id : String) (project : Project) (index : Nat) (slide : Slide)
      (loaded : player.project = some project) (current : player.current = some index)
      (there : project.slides[index]? = some slide)
      (unknown : ∀ layer ∈ slide.layers, ∀ object ∈ layer.objects, object.id ≠ id) :
      Refusal player (.click id) (.dangling .object id)
  | unknownSlide (id : String) (project : Project) (loaded : player.project = some project)
      (unknown : id ∉ project.slides.map (·.id)) : Refusal player (.enter id) (.dangling .slide id)

theorem locate_none_iff (slide : Slide) (id : String) :
    slide.locate? id = none ↔ ∀ layer ∈ slide.layers, ∀ object ∈ layer.objects, object.id ≠ id := by
  simp only [Slide.locate?, List.findSome?_eq_none_iff, Option.map_eq_none_iff,
    List.findIdx?_eq_none_iff, decide_eq_false_iff_not, Prod.forall]
  constructor
  · intro nowhere layer member
    obtain ⟨i, there⟩ := List.mem_iff_getElem?.mp member
    exact nowhere layer i (List.mk_mem_zipIdx_iff_getElem?.mpr there)
  · intro nowhere layer i member
    exact nowhere layer (List.mem_of_getElem? (List.mk_mem_zipIdx_iff_getElem?.mp member))

namespace Player

variable (player : Player) (failure : Failure)

theorem load_refused_iff (project : Project) :
    player.respond (.load project) = .error failure ↔ Refusal player (.load project) failure := by
  simp only [respond, load_eq]
  constructor
  · intro refused
    split at refused
    · rename_i faulty
      cases refused
      exact .invalid project faulty.1 faulty.2
    · cases refused
  · intro refusal
    cases refusal with
    | invalid _ checks faulty =>
        rw [if_pos ⟨checks, faulty⟩]
        rfl
    | unloaded _ needs | idle _ needs => cases needs

theorem active_error_iff :
    player.active = .error failure ↔
      player.project = none ∧ .noProject = failure ∨
        ∃ project, player.project = some project ∧ player.current = none ∧ .noSlide = failure := by
  unfold active
  cases player.project <;> cases player.current <;> simp

theorem inactive_refusal (command : Command) (clicks : command.needsSlide = true)
    (inactive : player.active = .error failure) : Refusal player command failure := by
  have needs : command.needsProject = true := by cases command <;> first | rfl | cases clicks
  rcases (active_error_iff player failure).mp inactive with
    ⟨nothing, rfl⟩ | ⟨project, loaded, nowhere, rfl⟩
  · exact .unloaded command needs nothing
  · exact .idle command clicks project loaded nowhere

theorem click_error_iff (id : String) :
    player.respond (.click id) = .error failure ↔
      player.active = .error failure ∨ ∃ project index, player.active = .ok (project, index) ∧
        project.clicked? index id = none ∧ .dangling .object id = failure := by
  simp only [respond, click]
  cases player.active with
  | error other => simp [bind, Except.bind, Except.map]
  | ok place =>
      obtain ⟨project, index⟩ := place
      cases clicked : project.clicked? index id <;>
        simp [clicked, bind, Except.bind, Except.map, pure, Except.pure, and_assoc]

theorem pointer_error_iff (point : Point) :
    player.respond (.pointerDown point) = .error failure ↔ player.active = .error failure := by
  simp only [respond, pointerDown]
  cases player.active with
  | error other => simp [bind, Except.bind, Except.map]
  | ok place =>
      obtain ⟨project, index⟩ := place
      cases pointed : project.pointed? index player.shows point <;>
        simp [pointed, bind, Except.bind, Except.map, pure, Except.pure]

theorem enter_error_iff (id : String) :
    player.respond (.enter id) = .error failure ↔
      player.project = none ∧ .noProject = failure ∨ ∃ project, player.project = some project ∧
        project.slideIndex? id = none ∧ .dangling .slide id = failure := by
  simp only [respond, enter]
  cases player.project with
  | none => simp [Except.map]
  | some project => cases found : project.slideIndex? id <;> simp [found, Except.map]

theorem click_refused_iff (settled : player.Settled) (id : String) :
    player.respond (.click id) = .error failure ↔ Refusal player (.click id) failure := by
  rw [click_error_iff]
  constructor
  · rintro (inactive | ⟨project, index, active, missed, rfl⟩)
    · exact inactive_refusal player failure (.click id) rfl inactive
    · obtain ⟨loaded, current⟩ := (active_ok_iff player project index).mp active
      obtain ⟨other, slide, loadedToo, _, stands, _⟩ := settled.onSlide index current
      cases loaded.symm.trans loadedToo
      have located : slide.locate? id = none := by
        cases located : slide.locate? id <;> simp [Project.clicked?, stands.there, located] at missed ⊢
      exact .unknownObject id project index slide loaded current stands.there
        ((locate_none_iff slide id).mp located)
  · intro refusal
    cases refusal with
    | unloaded _ _ nothing => exact .inl ((active_error_iff player _).mpr (.inl ⟨nothing, rfl⟩))
    | idle _ _ project loaded nowhere =>
        exact .inl ((active_error_iff player _).mpr (.inr ⟨project, loaded, nowhere, rfl⟩))
    | unknownObject id project index slide loaded current there unknown =>
        have active := (active_ok_iff player project index).mpr ⟨loaded, current⟩
        have located := (locate_none_iff slide id).mpr unknown
        exact .inr ⟨project, index, active, by simp [Project.clicked?, there, located], rfl⟩

theorem pointer_refused_iff (point : Point) :
    player.respond (.pointerDown point) = .error failure ↔
      Refusal player (.pointerDown point) failure := by
  rw [pointer_error_iff]
  constructor
  · exact inactive_refusal player failure (.pointerDown point) rfl
  · intro refusal
    cases refusal with
    | unloaded _ _ nothing => exact (active_error_iff player _).mpr (.inl ⟨nothing, rfl⟩)
    | idle _ _ project loaded nowhere =>
        exact (active_error_iff player _).mpr (.inr ⟨project, loaded, nowhere, rfl⟩)

theorem enter_refused_iff (id : String) :
    player.respond (.enter id) = .error failure ↔ Refusal player (.enter id) failure := by
  rw [enter_error_iff]
  constructor
  · rintro (⟨nothing, rfl⟩ | ⟨project, loaded, missing, rfl⟩)
    · exact .unloaded (.enter id) rfl nothing
    · exact .unknownSlide id project loaded ((slide_index_none_iff project id).mp missing)
  · intro refusal
    cases refusal with
    | unloaded _ _ nothing => exact .inl ⟨nothing, rfl⟩
    | idle _ needs => cases needs
    | unknownSlide id project loaded unknown =>
        exact .inr ⟨project, loaded, (slide_index_none_iff project id).mpr unknown, rfl⟩

theorem refused_iff (settled : player.Settled) (command : Command) :
    player.respond command = .error failure ↔ Refusal player command failure := by
  cases command with
  | load project => exact load_refused_iff player failure project
  | click id => exact click_refused_iff player failure settled id
  | pointerDown point => exact pointer_refused_iff player failure point
  | enter id => exact enter_refused_iff player failure id
  | loadUnchecked | restart | stop | takeFaults =>
      refine ⟨nofun, fun refusal => ?_⟩
      cases refusal with
      | unloaded _ needs | idle _ needs => cases needs

end Player

structure Call where
  command : Command
  answer : Except Failure Reply
  after : Stage

def Call.succeeds (call : Call) : Bool :=
  call.answer.isOk

namespace Stage

def call (stage : Stage) (command : Command) : Call :=
  match Performance.obey command stage with
  | .ok reply after => ⟨command, .ok reply, after⟩
  | .error failure after => ⟨command, .error failure, after⟩

def calls (stage : Stage) : List Command → List Call
  | [] => []
  | command :: rest => stage.call command :: (stage.call command).after.calls rest

def after (stage : Stage) (commands : List Command) : Stage :=
  commands.foldl (fun stage command => (stage.call command).after) stage

theorem call_eq (stage : Stage) (command : Command) :
    stage.call command =
      match stage.player.respond command with
      | .ok response => ⟨command, .ok response.reply, ⟨response.player, stage.heard ++ response.events⟩⟩
      | .error failure => ⟨command, .error failure, stage⟩ := by
  rw [call, Performance.obey_at]
  cases stage.player.respond command <;> rfl

theorem call_command (stage : Stage) (command : Command) : (stage.call command).command = command := by
  rw [call_eq]
  cases stage.player.respond command <;> rfl

theorem player_of_call (stage : Stage) (command : Command) :
    (stage.call command).after.player = stage.player.after command := by
  rw [call_eq, Player.after]
  cases stage.player.respond command <;> rfl

theorem failed_call (stage : Stage) (command : Command) (failed : (stage.call command).succeeds = false) :
    (stage.call command).after = stage := by
  rw [call_eq] at failed ⊢
  cases answered : stage.player.respond command with
  | ok response =>
      rw [answered] at failed
      cases failed
  | error failure => rfl

theorem player_after (stage : Stage) (commands : List Command) :
    (stage.after commands).player = stage.player.run commands := by
  induction commands generalizing stage with
  | nil => rfl
  | cons command rest ih =>
      have first := ih (stage.call command).after
      rwa [player_of_call] at first

-- Two stages that are given commands which belong together. `S` is what each call keeps of the stages,
-- and `A` relates the answers.
theorem calls_beside {S : Stage → Stage → Prop} {C : Command → Command → Prop}
    {A : Except Failure Reply → Except Failure Reply → Prop}
    (step : ∀ (stage other : Stage) (command twin : Command), S stage other → C command twin →
      A (stage.call command).answer (other.call twin).answer ∧
        S (stage.call command).after (other.call twin).after)
    (stage other : Stage) (same : S stage other) (commands twins : List Command)
    (alike : List.Forall₂ C commands twins) :
    List.Forall₂ A ((stage.calls commands).map (·.answer)) ((other.calls twins).map (·.answer)) ∧
      S (stage.after commands) (other.after twins) := by
  induction alike generalizing stage other with
  | nil => exact ⟨.nil, same⟩
  | cons head tail ih =>
      obtain ⟨answer, next⟩ := step stage other _ _ same head
      obtain ⟨answers, left⟩ := ih _ _ next
      exact ⟨.cons answer answers, left⟩

theorem calls_without_failures (stage : Stage) (commands : List Command) :
    let successes := (stage.calls commands).filter (·.succeeds)
    stage.calls (successes.map (·.command)) = successes ∧
      stage.after (successes.map (·.command)) = stage.after commands := by
  induction commands generalizing stage with
  | nil => exact ⟨rfl, rfl⟩
  | cons command rest ih =>
      obtain ⟨later, left⟩ := ih (stage.call command).after
      cases succeeds : (stage.call command).succeeds with
      | true =>
          simp only [calls, after, List.filter_cons, succeeds, if_pos, List.map_cons, call_command,
            List.foldl_cons]
          exact ⟨congrArg _ later, left⟩
      | false =>
          have unchanged := failed_call stage command succeeds
          rw [unchanged] at later left
          simp only [calls, after, List.filter_cons, succeeds, List.foldl_cons, unchanged]
          exact ⟨later, left⟩

end Stage

/-- In any session, a command fails for one of the known causes and for no other, and the failure
leaves the player as it was and lets observers hear nothing. So a session keeps all its later answers,
events and stages when the calls that fail are left out. -/
theorem failed_calls_change_nothing (options : Options) (commands : List Command) :
    let opened : Stage := ⟨.start options, []⟩
    let stage := opened.after commands
    let successes := (opened.calls commands).filter (·.succeeds)
    (∀ command failure left, Performance.obey command stage = .error failure left ↔
        left = stage ∧ Refusal stage.player command failure) ∧
      opened.calls (successes.map (·.command)) = successes ∧
      opened.after (successes.map (·.command)) = stage := by
  intro opened stage successes
  have settled : stage.player.Settled := by
    rw [opened.player_after commands]
    exact Player.run_keeps_settled commands _ (Player.start_settled options)
  refine ⟨fun command failure left => ?_, opened.calls_without_failures commands⟩
  rw [Performance.obey_at, ← Player.refused_iff stage.player failure settled command]
  cases stage.player.respond command with
  | ok response => simp [Performance.comesTo]
  | error other => simp [Performance.comesTo, and_comm, eq_comm]

end Slideshow
