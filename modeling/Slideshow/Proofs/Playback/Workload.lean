import Slideshow.Proofs.Playback.Begun
import Mathlib.Data.ENat.Lattice

set_option autoImplicit false

namespace Slideshow

def Event.overrun? : Event → Option Nat
  | .fault (.stepLimitExceeded limit) => some limit
  | _ => none

theorem never_overrun (events : List Event) (unreported : events.filterMap Event.overrun? = []) (limit : Nat) :
    Event.fault (.stepLimitExceeded limit) ∉ events :=
  fun member => Option.some_ne_none limit (List.filterMap_eq_nil_iff.mp unreported _ member)

namespace Player

inductive Empties (project : Project) : Player → List Turn → Prop where
  | rest (player : Player) (nothing : player.queue.next? = none) : Empties project player []
  | turn (player : Player) (item : WorkItem) (rest : Queue WorkItem) (turns : List Turn)
      (taken : player.queue.next? = some (item, rest))
      (later : Empties project (doItem project item { player with queue := rest }).1 turns) :
      Empties project player (⟨item, (doItem project item { player with queue := rest }).2⟩ :: turns)

-- The number of turns without a limit; work that never ends has no finite one.
noncomputable def workload (project : Project) (player : Player) : ℕ∞ :=
  ⨅ (turns : List Turn) (_ : Empties project player turns), (turns.length : ℕ∞)

variable (project : Project)

theorem work_nothing (steps : Nat) (player : Player) (nothing : player.queue.next? = none) :
    player.work project steps = (player, []) := by
  cases steps with
  | zero => rfl
  | succ steps => simp only [work, nothing]

theorem work_add (first more : Nat) (player : Player) :
    player.work project (first + more) =
      (((player.work project first).1.work project more).1,
        (player.work project first).2 ++ ((player.work project first).1.work project more).2) := by
  induction first generalizing player with
  | zero => simp [work]
  | succ first ih =>
      rw [Nat.succ_add]
      simp only [work]
      cases taken : player.queue.next? with
      | none => simp [work_nothing project more player taken]
      | some next => simp only [ih, List.cons_append]

theorem turns_le (steps : Nat) (player : Player) : (player.work project steps).2.length ≤ steps := by
  induction steps generalizing player with
  | zero => exact Nat.le_refl 0
  | succ steps ih =>
      simp only [work]
      cases player.queue.next? with
      | none => exact Nat.zero_le _
      | some next => exact Nat.succ_le_succ (ih _)

theorem turns_of_unfinished (steps : Nat) (player : Player)
    (unfinished : (player.work project steps).1.queue.next? ≠ none) :
    (player.work project steps).2.length = steps := by
  induction steps generalizing player with
  | zero => rfl
  | succ steps ih =>
      simp only [work] at unfinished ⊢
      cases taken : player.queue.next? with
      | none => simp only [taken, ne_eq, not_true_eq_false] at unfinished
      | some next =>
          simp only [taken] at unfinished
          exact congrArg (· + 1) (ih _ unfinished)

theorem empties_of_work (steps : Nat) (player : Player)
    (finished : (player.work project steps).1.queue.next? = none) :
    Empties project player (player.work project steps).2 := by
  induction steps generalizing player with
  | zero => exact .rest player finished
  | succ steps ih =>
      simp only [work] at finished ⊢
      cases taken : player.queue.next? with
      | none => exact .rest player taken
      | some next =>
          simp only [taken] at finished
          exact .turn player next.1 next.2 _ taken (ih _ finished)

theorem work_of_empties (player : Player) (turns : List Turn) (empties : Empties project player turns)
    (steps : Nat) (enough : turns.length ≤ steps) :
    (player.work project steps).1.queue.next? = none := by
  induction empties generalizing steps with
  | rest player nothing => rw [work_nothing project steps player nothing, nothing]
  | turn player item rest turns taken later ih =>
      cases steps with
      | zero => cases enough
      | succ steps =>
          simp only [work, taken]
          exact ih steps (Nat.le_of_succ_le_succ enough)

theorem workload_le_iff (player : Player) (steps : Nat) :
    player.workload project ≤ steps ↔ (player.work project steps).1.queue.next? = none := by
  constructor
  · intro within
    by_contra unfinished
    have more : ((steps + 1 : Nat) : ℕ∞) ≤ player.workload project := by
      refine le_iInf₂ fun turns empties => ?_
      by_contra few
      rw [Nat.cast_le] at few
      exact unfinished (work_of_empties project player turns empties steps (by omega))
    exact absurd (Nat.cast_le.mp (more.trans within)) (Nat.not_succ_le_self steps)
  · intro finished
    exact (iInf₂_le _ (empties_of_work project steps player finished)).trans
      (Nat.cast_le.mpr (turns_le project steps player))

theorem work_enough (player : Player) (steps more : Nat) (enough : player.workload project ≤ steps)
    (higher : steps ≤ more) : player.work project more = player.work project steps := by
  obtain ⟨extra, rfl⟩ := Nat.exists_eq_add_of_le higher
  have finished := (workload_le_iff project player steps).mp enough
  rw [work_add, work_nothing project extra _ finished, List.append_nil]

theorem work_prefix (player : Player) (steps more : Nat) (higher : steps ≤ more) :
    (player.work project steps).2 <+: (player.work project more).2 := by
  obtain ⟨extra, rfl⟩ := Nat.exists_eq_add_of_le higher
  rw [work_add]
  exact List.prefix_append _ _

theorem outcome_within (trigger : String) (host : Nat) (action : Action) (player : Player)
    (result : Player × List Event) (outcome : Outcome project trigger host player action result) :
    result.1.options = player.options ∧ ∀ event ∈ result.2, event.overrun? = none := by
  cases outcome with
  | written | shown => split <;> simp [Event.overrun?]
  | _ => simp [report, standOn, Event.overrun?]

theorem work_within (steps : Nat) (player : Player) :
    (player.work project steps).1.options = player.options ∧
      ((player.work project steps).2.flatMap (·.events)).filterMap Event.overrun? = [] := by
  have keeps : Keeps project (fun next => next.options = player.options) fun event =>
      event.overrun? = none := {
    act := fun ref trigger action before result _ _ same outcome => by
      have within := outcome_within project trigger.id ref.slide action before result outcome
      exact ⟨within.1.trans same, within.2⟩
    take := fun _ _ _ _ same => same
    settle := fun index before same => by rwa [settle_frame] }
  have worked := work_keeps keeps steps player rfl
  exact ⟨worked.1, List.filterMap_eq_nil_iff.mpr worked.2⟩

theorem drain_within (player : Player) (within : player.workload project ≤ player.options.maxQueueSteps) :
    player.drain project =
      ((player.work project player.options.maxQueueSteps).1.arrive,
        (player.work project player.options.maxQueueSteps).2.flatMap (·.events)) := by
  have finished := (workload_le_iff project player player.options.maxQueueSteps).mp within
  rw [drain_eq, dropWork, finished, List.append_nil]

def cutShort (limit : Nat) (player : Player) : Player × List Event :=
  { player with queue := .empty }.report (.stepLimitExceeded limit)

theorem drain_beyond (player : Player) (beyond : player.options.maxQueueSteps < player.workload project) :
    let worked := player.work project player.options.maxQueueSteps
    let cut := worked.1.cutShort player.options.maxQueueSteps
    player.drain project = (cut.1.arrive, worked.2.flatMap (·.events) ++ cut.2) := by
  intro worked cut
  have unfinished : worked.1.queue.next? ≠ none := fun finished =>
    absurd ((workload_le_iff project player _).mpr finished) (not_le.mpr beyond)
  obtain ⟨next, taken⟩ := Option.ne_none_iff_exists'.mp unfinished
  have dropped : worked.1.dropWork = worked.1.cutShort worked.1.options.maxQueueSteps := by
    rw [dropWork, taken]
    rfl
  rw [drain_eq, dropped, (work_within project player.options.maxQueueSteps player).1]

theorem begun_within_limit (command : Command) (player : Player) :
    (player.begun project command).2.filterMap Event.overrun? = [] := by
  cases enters : command.enters project with
  | none => simp only [begun, enters, List.filterMap_nil]
  | some index =>
      obtain ⟨slide, there, _⟩ := command_enters project command index enters
      simp only [begun, enters, enter_slide_at project index slide _ there]
      rfl

section Worked

variable (command : Command) (player : Player) (response : Response)
variable (worked : Worked project (player.begun project command) response)

include worked

theorem worked_within
    (within : (player.begun project command).1.workload project ≤
      (player.begun project command).1.options.maxQueueSteps) :
    response.events.filterMap Event.overrun? = [] := by
  rw [worked.2, drain_within project _ within, List.filterMap_append, begun_within_limit,
    (work_within project _ _).2, List.append_nil]

theorem worked_beyond
    (beyond : (player.begun project command).1.options.maxQueueSteps <
      (player.begun project command).1.workload project) :
    response.events.filterMap Event.overrun? = [(player.begun project command).1.options.maxQueueSteps] := by
  rw [worked.2, drain_beyond project _ beyond, List.filterMap_append, List.filterMap_append,
    begun_within_limit, (work_within project _ _).2]
  rfl

end Worked

end Player

end Slideshow
