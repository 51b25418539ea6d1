import Slideshow.Proofs.CanonicalValues

set_option autoImplicit false

namespace Slideshow

def WithinInt64 (n : Int) : Prop := -0x8000000000000000 ≤ n ∧ n < 0x8000000000000000

instance (n : Int) : Decidable (WithinInt64 n) :=
  inferInstanceAs (Decidable (-0x8000000000000000 ≤ n ∧ n < 0x8000000000000000))

namespace Value

structure ExactOrWidened (exact : Int → Int → Int) (rounded : Float → Float → Float) (a b : Value)
    (result : Option Value) : Prop where
  refused : result = none ↔ ¬ (a.isNumber = true ∧ b.isNumber = true)
  integer : ∀ m n, a.asInt? = some m → b.asInt? = some n → WithinInt64 (exact m n) →
    ∃ value, result = some value ∧ value.asInt? = some (exact m n) ∧ value.Canonical
  widened : ∀ m n, a.asInt? = some m → b.asInt? = some n → ¬ WithinInt64 (exact m n) →
    result = some (.float (rounded (Float.ofInt m) (Float.ofInt n)))
  float : ∀ x y, a.asFloat? = some x → b.asFloat? = some y → a.asInt? = none ∨ b.asInt? = none →
    result = some (.float (rounded x y))

theorem fits_int64_within (n : Int) : fitsInt64 n = true ↔ WithinInt64 n := by
  simp only [fitsInt64, WithinInt64, Bool.and_eq_true, decide_eq_true_eq]

theorem int_of_within (n : Int) (within : WithinInt64 n) :
    (ofInt64 (Int64.ofInt n)).asInt? = some n := by
  rw [as_int_of_int64, Int64.toInt_ofInt_of_le within.1 within.2]

theorem number_iff_float (value : Value) : value.isNumber = true ↔ ∃ x, value.asFloat? = some x := by
  cases value <;> simp [isNumber, asFloat?]

section Combine

variable (exact : Int → Int → Int) (rounded : Float → Float → Float) (a b : Value)

theorem combine_integers (m n : Int) (left : a.asInt? = some m) (right : b.asInt? = some n) :
    combine? exact rounded a b =
      if fitsInt64 (exact m n) then some (ofInt64 (Int64.ofInt (exact m n)))
      else some (.float (rounded (Float.ofInt m) (Float.ofInt n))) := by
  simp only [combine?, left, right]

theorem combine_others (other : a.asInt? = none ∨ b.asInt? = none) :
    combine? exact rounded a b =
      match a.asFloat?, b.asFloat? with
      | some x, some y => some (.float (rounded x y))
      | _, _ => none := by
  unfold combine?
  split
  · rename_i m n left right
    rcases other with none | none
    · cases left.symm.trans none
    · cases right.symm.trans none
  · rfl

theorem combine_floats (x y : Float) (left : a.asFloat? = some x) (right : b.asFloat? = some y)
    (other : a.asInt? = none ∨ b.asInt? = none) :
    combine? exact rounded a b = some (.float (rounded x y)) := by
  simp only [combine_others exact rounded a b other, left, right]

theorem combine_refused (other : a.asFloat? = none ∨ b.asFloat? = none) :
    combine? exact rounded a b = none := by
  have no_integer : ∀ value : Value, value.asFloat? = none → value.asInt? = none := by
    intro value noFloat
    cases value <;> first | rfl | cases noFloat
  rw [combine_others exact rounded a b (other.imp (no_integer a) (no_integer b))]
  rcases other with none | none
  · simp only [none]
  · rw [none]
    cases a.asFloat? <;> rfl

theorem combine_some (x y : Float) (left : a.asFloat? = some x) (right : b.asFloat? = some y) :
    combine? exact rounded a b ≠ none := by
  cases first : a.asInt? with
  | none => simp [combine_floats exact rounded a b x y left right (.inl first)]
  | some m =>
      cases second : b.asInt? with
      | none => simp [combine_floats exact rounded a b x y left right (.inr second)]
      | some n =>
          rw [combine_integers exact rounded a b m n first second]
          split <;> simp

theorem combine_none_iff :
    combine? exact rounded a b = none ↔ ¬ (a.isNumber = true ∧ b.isNumber = true) := by
  rw [number_iff_float, number_iff_float]
  constructor
  · rintro refused ⟨⟨x, left⟩, y, right⟩
    exact combine_some exact rounded a b x y left right refused
  · intro none
    apply combine_refused
    cases left : a.asFloat? with
    | none => exact .inl rfl
    | some x =>
        cases right : b.asFloat? with
        | none => exact .inr rfl
        | some y => exact absurd ⟨⟨x, left⟩, y, right⟩ none

theorem combine_exact_or_widened :
    ExactOrWidened exact rounded a b (combine? exact rounded a b) where
  refused := combine_none_iff exact rounded a b
  integer m n left right within := by
    rw [combine_integers exact rounded a b m n left right, if_pos ((fits_int64_within _).mpr within)]
    exact ⟨_, rfl, int_of_within _ within, canonical_of_int64 _⟩
  widened m n left right beyond := by
    have wide : ¬ fitsInt64 (exact m n) = true := fun fits => beyond ((fits_int64_within _).mp fits)
    rw [combine_integers exact rounded a b m n left right, if_neg wide]
  float x y left right other := combine_floats exact rounded a b x y left right other

end Combine

theorem add_exact_or_widened (a b : Value) : ExactOrWidened (· + ·) (· + ·) a b (a.add? b) :=
  combine_exact_or_widened _ _ a b

theorem sub_exact_or_widened (a b : Value) : ExactOrWidened (· - ·) (· - ·) a b (a.sub? b) :=
  combine_exact_or_widened _ _ a b

end Value

end Slideshow
