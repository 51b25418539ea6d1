import Slideshow.Proofs.Arithmetic
import Slideshow.Proofs.Playback.Account
import Slideshow.Proofs.Playback.Order
import Mathlib.Algebra.Ring.Int.Defs
import Mathlib.Data.List.Infix

set_option autoImplicit false

namespace Slideshow

structure Change where
  operation : SetOperation
  operand : Option Value

namespace Change

def delta? (change : Change) : Option Int :=
  match change.operation, change.operand with
  | .add, some value => value.asInt?
  | .subtract, some value => value.asInt?.map fun n => -n
  | _, _ => none

def apply (entry : Option (Option Value)) (change : Change) : Option (Option Value) :=
  entry.map fun current =>
    match change.operation.apply current change.operand with
    | .ok value => some value.normalized
    | .error _ => current

theorem apply_declared (change : Change) (current : Option Value) :
    apply (some current) change =
      some (match change.operation.apply current change.operand with
        | .ok value => some value.normalized
        | .error _ => current) := rfl

end Change

def Action.change? (id : String) : Action → Option Change
  | .setVariable target operation operand => if target = id then some ⟨operation, operand⟩ else none
  | _ => none

def Project.changes (project : Project) (id : String) (refs : List TriggerRef) : List Change :=
  refs.flatMap fun ref =>
    (((ref.resolve project).map Trigger.actions).getD []).filterMap (Action.change? id)

structure Ledger where
  opening : Option (Option Value) := none
  changes : List Change := []

namespace Ledger

def closing (ledger : Ledger) : Option (Option Value) :=
  ledger.changes.foldl Change.apply ledger.opening

-- An integer to which only integers are added and from which only integers are subtracted, so that
-- 64 bits hold every total on the way.
structure Counts (ledger : Ledger) (first : Int) (deltas : List Int) : Prop where
  opening : ledger.opening.join.bind Value.asInt? = some first
  changes : ledger.changes.map Change.delta? = deltas.map some
  within : ∀ early, early <+: deltas → WithinInt64 (first + early.sum)

end Ledger

theorem apply_delta (change : Change) (value : Value) (total delta : Int)
    (holds : value.asInt? = some total) (gains : change.delta? = some delta)
    (within : WithinInt64 (total + delta)) :
    ∃ next, change.apply (some (some value)) = some (some next) ∧ next.asInt? = some (total + delta) := by
  obtain ⟨operation, operand⟩ := change
  cases operand with
  | none => cases operation <;> cases gains
  | some operand =>
      rw [Change.apply_declared]
      cases operation with
      | assign => cases gains
      | toggle => cases gains
      | add =>
          obtain ⟨sum, exact, whole, _⟩ :=
            (Value.add_exact_or_widened value operand).integer total delta holds gains within
          refine ⟨sum.normalized, ?_, sum.as_int_normalized _ whole⟩
          simp only [SetOperation.apply, SetOperation.combine, exact]
      | subtract =>
          obtain ⟨n, integer, rfl⟩ := Option.map_eq_some_iff.mp gains
          obtain ⟨difference, exact, whole, _⟩ :=
            (Value.sub_exact_or_widened value operand).integer total n holds integer within
          refine ⟨difference.normalized, ?_, difference.as_int_normalized _ whole⟩
          simp only [SetOperation.apply, SetOperation.combine, exact]

theorem totals_exact (changes : List Change) (value : Value) (total : Int) (deltas : List Int)
    (holds : value.asInt? = some total) (gains : changes.map Change.delta? = deltas.map some)
    (within : ∀ early, early <+: deltas → WithinInt64 (total + early.sum)) :
    ∃ last, changes.foldl Change.apply (some (some value)) = some (some last) ∧
      last.asInt? = some (total + deltas.sum) := by
  induction changes generalizing value total deltas with
  | nil =>
      obtain rfl : deltas = [] := List.map_eq_nil_iff.mp gains.symm
      exact ⟨value, rfl, by rw [holds, List.sum_nil, Int.add_zero]⟩
  | cons change rest ih =>
      cases deltas with
      | nil => cases gains
      | cons delta later =>
          obtain ⟨first, others⟩ := List.cons.inj gains
          have firstWithin := within [delta] ⟨later, rfl⟩
          rw [List.sum_singleton] at firstWithin
          obtain ⟨next, applied, whole⟩ := apply_delta change value total delta holds first firstWithin
          have laterWithin : ∀ early, early <+: later → WithinInt64 (total + delta + early.sum) := by
            intro early before
            have longer := within (delta :: early) ((List.prefix_cons_inj delta).mpr before)
            rwa [List.sum_cons, ← Int.add_assoc] at longer
          obtain ⟨last, folded, exact⟩ := ih next (total + delta) later whole others laterWithin
          refine ⟨last, ?_, by rw [exact, List.sum_cons, Int.add_assoc]⟩
          rw [List.foldl_cons, applied, folded]

theorem Ledger.counts_exactly (ledger : Ledger) (first : Int) (deltas : List Int)
    (counts : ledger.Counts first deltas) :
    ∃ last, ledger.closing.join = some last ∧ last.asInt? = some (first + deltas.sum) := by
  obtain ⟨value, opening, integer⟩ := Option.bind_eq_some_iff.mp counts.opening
  obtain ⟨last, closing, exact⟩ :=
    totals_exact ledger.changes value first deltas integer counts.changes counts.within
  refine ⟨last, ?_, exact⟩
  rw [Ledger.closing, Option.join_eq_some_iff.mp opening, closing]
  rfl

namespace Player

section Changes

variable (project : Project) (id : String)

theorem perform_entry (trigger : String) (host : Nat) (action : Action) (player : Player) :
    (player.perform project trigger host action).1.store.entry? id =
      (action.change? id).toList.foldl Change.apply (player.store.entry? id) := by
  have outcome := perform_outcome project trigger host action player
  generalize player.perform project trigger host action = result at outcome
  cases outcome with
  | entered | noSlide => rfl
  | elsewhere target visible | noLayer target visible | shown target visible => cases visible <;> rfl
  | noVariable target operation operand missing =>
      by_cases same : target = id
      · subst same
        simp [report, Action.change?, Change.apply, missing]
      · simp [report, Action.change?, same]
  | refused target operation operand old cause declared fails =>
      by_cases same : target = id
      · subst same
        simp [report, Action.change?, Change.apply, declared, fails]
      · simp [report, Action.change?, same]
  | written target operation operand old value declared gives =>
      rw [entry_write player.store target id value old declared]
      by_cases same : target = id
      · subst same
        simp [Action.change?, Change.apply, declared, gives]
      · simp [Action.change?, same, Ne.symm same]

theorem perform_all_entry (trigger : String) (host : Nat) (actions : List Action) (player : Player) :
    (player.performAll project trigger host actions).1.store.entry? id =
      (actions.filterMap (Action.change? id)).foldl Change.apply (player.store.entry? id) := by
  induction actions generalizing player with
  | nil => rfl
  | cons action rest ih =>
      have first := perform_entry project id trigger host action player
      simp only [performAll]
      rw [ih, first, List.filterMap_cons]
      cases action.change? id <;> rfl

theorem fire_entry (ref : TriggerRef) (player : Player) :
    (player.fire project ref).1.store.entry? id =
      (project.changes id [ref]).foldl Change.apply (player.store.entry? id) := by
  rw [Project.changes, List.flatMap_singleton, fire]
  cases ref.resolve project with
  | none => rfl
  | some trigger => exact perform_all_entry project id trigger.id ref.slide trigger.actions player

theorem play_all_entry (refs : List TriggerRef) (player : Player) :
    (player.playAll project refs).1.store.entry? id =
      (project.changes id refs).foldl Change.apply (player.store.entry? id) := by
  induction refs generalizing player with
  | nil => rfl
  | cons ref rest ih =>
      have together : project.changes id (ref :: rest) =
          project.changes id [ref] ++ project.changes id rest := by simp [Project.changes]
      simp only [playAll]
      rw [ih, fire_entry, together, List.foldl_append]

theorem straight_entry (runs : List TriggerRef) (begun : Player × List Event) (response : Response)
    (straight : Straight project runs begun response) :
    response.player.store.entry? id =
      (project.changes id runs).foldl Change.apply (begun.1.store.entry? id) := by
  rw [← play_all_entry]
  rcases straight with ⟨_, same⟩ | ⟨limit, _, same⟩
  · rw [resting_unseen.store _ _ same]
  · rw [resting_unseen.store _ _ same]
    rfl

theorem begun_store (command : Command) (player : Player) :
    (player.begun project command).1.store = (player.base command).store := by
  cases enters : command.enters project with
  | none => simp only [begun, enters]
  | some index =>
      obtain ⟨slide, there, _⟩ := command_enters project command index enters
      simp only [begun, enters, enter_slide_at project index slide _ there, standOn]

end Changes

def opens (command : Command) (player : Player) : Bool :=
  match command with
  | .load _ | .loadUnchecked _ | .restart | .stop => true
  | .enter _ => player.current.isNone
  | .click _ | .pointerDown _ | .takeFaults => false

def changesBy (id : String) (command : Command) (player : Player) (response : Response) : List Change :=
  match response.player.project with
  | some project => project.changes id ((player.begun project command).1.runs project)
  | none => []

def enterInto (id : String) (player : Player) (ledger : Ledger) (command : Command) : Ledger :=
  match player.respond command with
  | .error _ => ledger
  | .ok response =>
      let changes := player.changesBy id command response
      if player.opens command then ⟨(player.base command).store.entry? id, changes⟩
      else ⟨ledger.opening, ledger.changes ++ changes⟩

def ledger (id : String) (player : Player) (sofar : Ledger) : List Command → Ledger
  | [] => sofar
  | command :: rest => (player.after command).ledger id (player.enterInto id sofar command) rest

theorem base_store (command : Command) (player : Player) (continues : ¬ player.opens command = true) :
    (player.base command).store = player.store := by
  cases command with
  | click | pointerDown | takeFaults => rfl
  | enter id => exact congrArg store (if_neg continues)
  | load | loadUnchecked | restart | stop => exact absurd rfl continues

theorem answer_entry (id : String) (player : Player) (command : Command) (response : Response)
    (settled : player.Settled) (answer : Answer player command response) :
    response.player.store.entry? id =
      (player.changesBy id command response).foldl Change.apply
        ((player.base command).store.entry? id) := by
  have project := answer_project player command response settled answer
  unfold changesBy
  cases loaded : response.player.project with
  | none =>
      rw [(answer_unloaded player command response (project.symm.trans loaded) answer).1]
      rfl
  | some project =>
      have worked := answer_worked project player command response settled
        ((answer_project player command response settled answer).symm.trans loaded) answer
      have straight := (worked_in_order project (player.fires project command) _ _ response
        (begun_waits project command player settled) rfl worked).2.2
      rw [straight_entry project id _ _ response straight, begun_store]

theorem enter_into_closing (id : String) (player : Player) (sofar : Ledger) (command : Command)
    (settled : player.Settled) (closing : sofar.closing = player.store.entry? id) :
    (player.enterInto id sofar command).closing = (player.after command).store.entry? id := by
  unfold enterInto after
  cases answered : player.respond command with
  | error failure => exact closing
  | ok response =>
      have answer := respond_answer player command response answered
      simp only [answer_entry id player command response settled answer]
      by_cases opening : player.opens command = true
      · rw [if_pos opening]
        rfl
      · rw [if_neg opening, base_store command player opening, ← closing]
        exact List.foldl_append

theorem ledger_closing (id : String) (commands : List Command) (player : Player) (sofar : Ledger)
    (settled : player.Settled) (closing : sofar.closing = player.store.entry? id) :
    (player.ledger id sofar commands).closing = (player.run commands).store.entry? id := by
  induction commands generalizing player sofar with
  | nil => exact closing
  | cons command rest ih =>
      exact ih (player.after command) _ (after_settled player command settled)
        (enter_into_closing id player sofar command settled closing)

/-- Sums and differences of integers are exact if 64 bits hold them and floats otherwise, and with a
float they are floats; what is no number is refused. So an integer variable that only integers are
added to and subtracted from holds the exact total after any actions and in any session, as long as
64 bits hold every total on the way. -/
theorem integers_add_up (a b : Value) (id : String) :
    Value.ExactOrWidened (· + ·) (· + ·) a b (a.add? b) ∧
    Value.ExactOrWidened (· - ·) (· - ·) a b (a.sub? b) ∧
    (∀ (project : Project) (trigger : String) (host : Nat) (actions : List Action) (player : Player)
        (first : Int) (deltas : List Int),
      Ledger.Counts ⟨player.store.entry? id, actions.filterMap (Action.change? id)⟩ first deltas →
      ∃ last, (player.performAll project trigger host actions).1.store.get? id = some last ∧
        last.asInt? = some (first + deltas.sum)) ∧
    ∀ (options : Options) (commands : List Command) (first : Int) (deltas : List Int),
      ((Player.start options).ledger id {} commands).Counts first deltas →
      ∃ last, ((Player.start options).run commands).store.get? id = some last ∧
        last.asInt? = some (first + deltas.sum) := by
  refine ⟨Value.add_exact_or_widened a b, Value.sub_exact_or_widened a b, ?_, ?_⟩
  · intro project trigger host actions player first deltas counts
    obtain ⟨last, closing, exact⟩ := Ledger.counts_exactly _ first deltas counts
    refine ⟨last, ?_, exact⟩
    rw [VariableStore.get?, perform_all_entry]
    exact closing
  · intro options commands first deltas counts
    obtain ⟨last, closing, exact⟩ := Ledger.counts_exactly _ first deltas counts
    refine ⟨last, ?_, exact⟩
    rwa [ledger_closing id commands _ {} (start_settled options) rfl] at closing

def countdown : Project :=
  let shown := (Trigger.start "shown" .onTimelineStart).add "left" (.int64 0x100000000)
  let press := (Trigger.start "press" .onClick).withAction
    (.setVariable "left" .subtract (some (.int32 (-1))))
  (((Project.start "countdown" "Countdown").withSlide
    ((Slide.start "only").withLayer ((Layer.start "all").withObject
      (((SlideObject.button "go" "Go").withTrigger shown).withTrigger press)))).withVariable
    (.start "left" .number (some (.int64 0x7FFFFFFF))))

theorem countdown_adds_up :
    let commands := [.loadUnchecked countdown, .click "go", .enter "only", .click "go"]
    let ledger := (Player.start {}).ledger "left" {} commands
    ledger.Counts 0x7FFFFFFF [0x100000000, 1, 0x100000000, 1] ∧
      ∃ last, ((Player.start {}).run commands).store.get? "left" = some last ∧
        last.asInt? = some 0x280000001 := by
  intro commands ledger
  have counts : ledger.Counts 0x7FFFFFFF [0x100000000, 1, 0x100000000, 1] := by
    refine ⟨by decide +kernel, by decide +kernel, fun early before => ?_⟩
    have each : ∀ early ∈ [0x100000000, 1, 0x100000000, 1].inits,
        WithinInt64 (0x7FFFFFFF + early.sum) := by decide
    exact each early ((List.mem_inits _ _).mpr before)
  exact ⟨counts, (integers_add_up .null .null "left").2.2.2 {} commands _ _ counts⟩

end Player

end Slideshow
