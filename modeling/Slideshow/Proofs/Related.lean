import Mathlib.Data.List.Forall2
import Mathlib.Data.Option.Defs

set_option autoImplicit false

namespace Slideshow

variable {α β γ : Type} {R : α → β → Prop} {left : List α} {right : List β}

theorem related_zip_idx (related : List.Forall₂ R left right) (n : Nat) :
    List.Forall₂ (fun a b => R a.1 b.1 ∧ a.2 = b.2) (left.zipIdx n) (right.zipIdx n) := by
  induction related generalizing n with
  | nil => exact .nil
  | cons head tail ih => exact .cons ⟨head, rfl⟩ (ih (n + 1))

theorem related_at (related : List.Forall₂ R left right) (i : Nat) : Option.Rel R left[i]? right[i]? := by
  induction related generalizing i with
  | nil => exact .none
  | cons head tail ih =>
      cases i with
      | zero => exact .some head
      | succ i => simpa using ih i

theorem related_of_at {S : α → β → Prop} (related : List.Forall₂ R left right)
    (also : ∀ (i : Nat) (a : α) (b : β), left[i]? = some a → right[i]? = some b → R a b → S a b) :
    List.Forall₂ S left right := by
  induction related with
  | nil => exact .nil
  | cons head tail ih => exact .cons (also 0 _ _ rfl rfl head) (ih fun i => also (i + 1))

theorem related_map (related : List.Forall₂ R left right) (f : α → γ) (g : β → γ)
    (same : ∀ a b, R a b → f a = g b) : left.map f = right.map g := by
  rw [← List.forall₂_eq_eq_eq]
  exact List.rel_map same related

theorem related_flat_map (related : List.Forall₂ R left right) (f : α → List γ) (g : β → List γ)
    (same : ∀ a b, R a b → f a = g b) : left.flatMap f = right.flatMap g := by
  rw [← List.forall₂_eq_eq_eq]
  refine List.rel_flatMap related fun a b like => ?_
  rw [same a b like, List.forall₂_eq_eq_eq]

theorem related_find_some (related : List.Forall₂ R left right) (f : α → Option γ) (g : β → Option γ)
    (same : ∀ a b, R a b → f a = g b) : left.findSome? f = right.findSome? g := by
  induction related with
  | nil => rfl
  | cons head tail ih => rw [List.findSome?_cons, List.findSome?_cons, same _ _ head, ih]

theorem related_find (related : List.Forall₂ R left right) (p : α → Bool) (q : β → Bool)
    (same : ∀ a b, R a b → p a = q b) : Option.Rel R (left.find? p) (right.find? q) := by
  induction related with
  | nil => exact .none
  | cons head tail ih =>
      rw [List.find?_cons, List.find?_cons, same _ _ head]
      split
      · exact .some head
      · exact ih

theorem related_bind {δ : Type} {S : γ → δ → Prop} {a : Option α} {b : Option β}
    (related : Option.Rel R a b) (f : α → Option γ) (g : β → Option δ)
    (same : ∀ x y, R x y → Option.Rel S (f x) (g y)) : Option.Rel S (a.bind f) (b.bind g) := by
  cases related with
  | none => exact .none
  | some related => exact same _ _ related

theorem related_cases {a : Option α} {b : Option β} (related : Option.Rel R a b) :
    (a = none ∧ b = none) ∨ ∃ x y, a = some x ∧ b = some y ∧ R x y := by
  cases related with
  | none => exact .inl ⟨rfl, rfl⟩
  | some related => exact .inr ⟨_, _, rfl, rfl, related⟩

theorem related_imp {S : α → β → Prop} {a : Option α} {b : Option β} (related : Option.Rel R a b)
    (weaker : ∀ x y, R x y → S x y) : Option.Rel S a b := by
  cases related with
  | none => exact .none
  | some related => exact .some (weaker _ _ related)

theorem find_idx_map {δ : Type} [DecidableEq γ] (f : α → γ) (g : δ → γ) (x : γ) (list : List α)
    (other : List δ) (same : list.map f = other.map g) :
    list.findIdx? (f · = x) = other.findIdx? (g · = x) := by
  have atLeft : (list.map f).findIdx? (· = x) = list.findIdx? (f · = x) := List.findIdx?_map ..
  have atRight : (other.map g).findIdx? (· = x) = other.findIdx? (g · = x) := List.findIdx?_map ..
  rw [← atLeft, same, atRight]

theorem mapped_at {α β : Type} (f : α → β) (list : List α) (i : Nat) (b : β)
    (there : (list.map f)[i]? = some b) : ∃ a, list[i]? = some a ∧ f a = b :=
  Option.map_eq_some_iff.mp (List.getElem?_map.symm.trans there)

end Slideshow
