import Slideshow.Json.Record
import Slideshow.Proofs.Document.Values
import Slideshow.Proofs.ProjectAlike

set_option autoImplicit false

namespace Slideshow

open Json (Elements Members Place ReadError ReadsBack Shape outlineElements outlineMembers)

def Yields {α : Type} (read : Except ReadError α) (good : α → Prop) : Prop :=
  ∃ result, read = .ok result ∧ good result

section Yields

variable {α β : Type} (read : Except ReadError α)

theorem yields_bind (next : α → Except ReadError β) (good : β → Prop) :
    Yields (read >>= next) good ↔ Yields read fun a => Yields (next a) good := by
  cases read <;> simp [Yields, bind, Except.bind]

theorem yields_pure (a : α) (good : α → Prop) : Yields (pure a) good ↔ good a := by
  simp [Yields, pure, Except.pure]

theorem yields_map (f : α → β) (good : β → Prop) :
    Yields (f <$> read) good ↔ Yields read fun a => good (f a) := by
  cases read <;> simp [Yields]

theorem yields_and (good : α → Prop) (P : Prop) :
    (Yields read fun a => good a ∧ P) ↔ Yields read good ∧ P := by
  simp [Yields, ← and_assoc]

theorem yields_and_left (good : α → Prop) (P : Prop) :
    (Yields read fun a => P ∧ good a) ↔ P ∧ Yields read good := by
  simp [Yields, and_left_comm]

theorem yields_opened (levels depth : Nat) (read : Nat → Except ReadError α) (good : α → Prop) (P : Prop)
    (inside : ∀ inner, Yields (read inner) good ↔ depth ≤ inner ∧ P) :
    Yields (Json.opened levels read) good ↔ depth + 1 ≤ levels ∧ P :=
  Json.opened_returns_iff read good depth levels P inside

end Yields

-- Whatever it means that a result agrees with what was written: only depth and floats that are not
-- intact stand in the way of it.
def Kept {α : Type} (intact : Float → Prop) (agree : α → α → Prop) (toJson : α → Json)
    (floats : α → List Float) (read : Place → Except ReadError α) : Prop :=
  ∀ (written : α) (levels : Nat),
    (Yields (read ⟨(toJson written).outline, levels⟩) fun result => agree result written) ↔
      (toJson written).depth ≤ levels ∧ ∀ x ∈ floats written, intact x

def Faithful {α : Type} [BEq α] (toJson : α → Json) (floats : α → List Float)
    (read : Place → Except ReadError α) : Prop :=
  ∀ (written : α) (levels : Nat),
    (Yields (read ⟨(toJson written).outline, levels⟩) fun result => (result == written) = true) ↔
      (toJson written).depth ≤ levels ∧ ∀ x ∈ floats written, ReadsBack x

def readValue (place : Place) : Except ReadError Value := do
  return .ofJson (← place.outline.json place.levels)

theorem value_faithful : Faithful Value.toJson Value.floats readValue := by
  intro value levels
  rw [← Value.value_returns_iff value levels, readValue, yields_bind]
  simp only [yields_pure]
  rfl

theorem float_faithful : Faithful Json.ofFloat (fun x => [x]) (fun place => place.outline.asFloat) := by
  intro x levels
  have shallow : (Json.ofFloat x).depth ≤ levels := by rw [Value.depth_of_float]; exact Nat.zero_le levels
  simp only [List.mem_singleton, forall_eq, shallow, true_and]
  by_cases finite : x.isFinite = true
  · rw [Json.of_float_finite x finite]
    simp only [Yields, Json.outline, Json.Outline.asFloat, Json.map_returns_iff]
    exact Json.float_returns_iff x finite _ fun _ _ => Iff.rfl
  · rw [Json.of_float_not_finite x finite]
    constructor
    · rintro ⟨read, known, same⟩
      cases known
    · intro back
      exact absurd (Json.reads_back_finite x back) finite

section Lists

variable {α : Type} {intact : Float → Prop} {agree : α → α → Prop}
variable {toJson : α → Json} {floats : α → List Float} {read : Place → Except ReadError α}

theorem each_kept (kept : Kept intact agree toJson floats read) (list : List α) (levels : Nat) :
    (Yields ((outlineElements (list.map toJson)).each fun outline => read ⟨outline, levels⟩)
      fun results => List.Forall₂ agree results list) ↔
      Json.depthElements (list.map toJson) ≤ levels ∧ ∀ x ∈ list.flatMap floats, intact x := by
  induction list with
  | nil => simp [Yields, outlineElements, Elements.each, Json.depthElements]
  | cons head tail ih =>
      have first := kept head levels
      simp only [List.map_cons, outlineElements, Elements.each, yields_bind, yields_pure,
        List.forall₂_cons, yields_and, yields_and_left, first, ih, Json.depthElements, List.flatMap_cons,
        Nat.max_le, List.forall_mem_append]
      exact and_and_and_comm

def readList (read : Place → Except ReadError α) (place : Place) : Except ReadError (List α) :=
  place.outline.asList (fun levels outline => read ⟨outline, levels⟩) place.levels

theorem list_kept (kept : Kept intact agree toJson floats read) :
    Kept intact (List.Forall₂ agree) (fun list => .list (list.map toJson))
      (fun list => list.flatMap floats) (readList read) :=
  fun list levels => yields_opened levels _ _ _ _ fun inner => each_kept kept list inner

end Lists

end Slideshow
