import Slideshow.Proofs.Decimal.Shortest
import Mathlib.Algebra.Order.Field.Power
import Mathlib.Algebra.Order.Field.Rat
import Mathlib.Order.Monotone.Basic
import Mathlib.Tactic.Linarith
import Mathlib.Tactic.NormNum
import Mathlib.Tactic.Positivity
import Mathlib.Tactic.Ring

set_option autoImplicit false

namespace Slideshow.Decimal

def unsignedBits (x : Float) : Nat := x.toBits.toNat % 0x8000000000000000

theorem float_of_bits (x y : Float) (sign : isNegative x = isNegative y)
    (bits : unsignedBits x = unsignedBits y) : x = y := by
  obtain ⟨⟨left, leftValid⟩⟩ := x
  obtain ⟨⟨right, rightValid⟩⟩ := y
  have leftSmall : left.toNat < 0x10000000000000000 := left.toNat_lt
  have rightSmall : right.toNat < 0x10000000000000000 := right.toNat_lt
  have signs : (left.toNat / 0x8000000000000000 = 1) ↔ (right.toNat / 0x8000000000000000 = 1) :=
    decide_eq_decide.mp sign
  have rests : left.toNat % 0x8000000000000000 = right.toNat % 0x8000000000000000 := bits
  obtain rfl : left = right := UInt64.toNat_inj.mp (by omega)
  rfl

-- Where the interval of the float with these bits begins, in quarters of its last place. The zero
-- has no interval, but one that ended where the next begins would begin here.
def boundaryQuarters (bits : Nat) : Int :=
  let fraction := bits % 0x10000000000000
  let exponent := bits / 0x10000000000000
  4 * (if exponent = 0 then fraction else fraction + 0x10000000000000) -
    (if fraction = 0 ∧ 1 < exponent then 1 else 2)

def boundary (bits : Nat) : ℚ :=
  boundaryQuarters bits * 2 ^ ((max (bits / 0x10000000000000) 1 : Nat) - 1077 : Int)

def afterQuarters (bits : Nat) : Int :=
  let fraction := bits % 0x10000000000000
  4 * (if bits / 0x10000000000000 = 0 then fraction else fraction + 0x10000000000000) + 2

theorem boundary_next (bits : Nat) :
    boundary (bits + 1) =
      afterQuarters bits * 2 ^ ((max (bits / 0x10000000000000) 1 : Nat) - 1077 : Int) := by
  unfold boundary
  by_cases binade : bits % 0x10000000000000 + 1 = 0x10000000000000 ∧ 1 ≤ bits / 0x10000000000000
  · -- The next float is the first of its binade: its last place is worth twice as much.
    have exponent : ((max ((bits + 1) / 0x10000000000000) 1 : Nat) - 1077 : Int) =
        ((max (bits / 0x10000000000000) 1 : Nat) - 1077 : Int) + 1 := by omega
    have quarters : boundaryQuarters (bits + 1) * 2 = afterQuarters bits := by
      unfold boundaryQuarters afterQuarters
      dsimp only
      split <;> split <;> split <;> omega
    rw [exponent, zpow_add_one₀ (by norm_num), ← quarters]
    push_cast
    ring
  · have exponent : max ((bits + 1) / 0x10000000000000) 1 = max (bits / 0x10000000000000) 1 := by omega
    have quarters : boundaryQuarters (bits + 1) = afterQuarters bits := by
      unfold boundaryQuarters afterQuarters
      dsimp only
      split <;> split <;> split <;> omega
    rw [exponent, quarters]

theorem boundary_ascends : StrictMono boundary := by
  refine strictMono_nat_of_lt_succ fun bits => ?_
  have quarters : boundaryQuarters bits < afterQuarters bits := by
    unfold boundaryQuarters afterQuarters
    dsimp only
    split <;> split <;> omega
  rw [boundary_next, boundary]
  exact mul_lt_mul_of_pos_right (by exact_mod_cast quarters) (by positivity)

section Points

variable (i : Interval) (positive : 0 < i.denominator) (n : Nat) (exponent : Int)

theorem ten_power : (10 : ℚ) ^ exponent = (tenTo exponent.toNat : ℚ) / (tenTo (-exponent).toNat : ℚ) := by
  have whole := Int.toNat_sub_toNat_neg exponent
  unfold tenTo
  push_cast [Nat.pow_eq]
  rw [← zpow_natCast, ← zpow_natCast, ← zpow_sub₀ (by norm_num), whole]

include positive

theorem contains_iff :
    i.contains n exponent = true ↔
      if i.closed then
        (i.lower / i.denominator : ℚ) ≤ n * 10 ^ exponent ∧ n * 10 ^ exponent ≤ (i.upper / i.denominator : ℚ)
      else
        (i.lower / i.denominator : ℚ) < n * 10 ^ exponent ∧ n * 10 ^ exponent < (i.upper / i.denominator : ℚ) := by
  have down : (0 : ℚ) < tenTo (-exponent).toNat := by unfold tenTo; push_cast [Nat.pow_eq]; positivity
  have under : (0 : ℚ) < i.denominator := by exact_mod_cast positive
  rw [ten_power, ← mul_div_assoc, div_le_div_iff₀ under down, div_le_div_iff₀ down under,
    div_lt_div_iff₀ under down, div_lt_div_iff₀ down under]
  unfold Interval.contains
  cases i.closed <;> norm_cast <;> simp

end Points

section Intervals

variable (x : Float)

theorem fraction_of_unsigned : fractionBits x = unsignedBits x % 0x10000000000000 := by
  unfold fractionBits unsignedBits
  omega

theorem exponent_of_unsigned : exponentBits x = unsignedBits x / 0x10000000000000 := by
  unfold exponentBits unsignedBits
  omega

theorem interval_closed : (interval x).closed = true ↔ unsignedBits x % 2 = 0 := by
  unfold interval
  simp only [fraction_of_unsigned, exponent_of_unsigned, decide_eq_true_eq]
  split <;> omega

theorem unit_of_interval (exponent : Nat) :
    ((Nat.pow 2 (exponent - 1077) : Nat) / (Nat.pow 2 (1077 - exponent) : Nat) : ℚ) =
      2 ^ ((exponent : Int) - 1077) := by
  have whole : ((exponent - 1077 : Nat) : Int) - (1077 - exponent : Nat) = exponent - 1077 := by omega
  rw [← whole, zpow_sub₀ (by norm_num), zpow_natCast, zpow_natCast, Nat.pow_eq, Nat.pow_eq]
  push_cast
  rfl

theorem interval_upper :
    ((interval x).upper / (interval x).denominator : ℚ) = boundary (unsignedBits x + 1) := by
  rw [boundary_next, ← unit_of_interval, mul_div_assoc']
  unfold interval afterQuarters
  simp only [fraction_of_unsigned, exponent_of_unsigned]
  push_cast
  rfl

theorem interval_lower (nonzero : isZero x = false) :
    ((interval x).lower / (interval x).denominator : ℚ) = boundary (unsignedBits x) := by
  obtain ⟨positive, _, most, _⟩ := mantissa_bounds x nonzero
  have enough : (if fractionBits x = 0 ∧ 1 < exponentBits x then 1 else 2) ≤
      4 * (if exponentBits x = 0 then fractionBits x else fractionBits x + 0x10000000000000) := by
    omega
  rw [boundary, ← unit_of_interval, mul_div_assoc']
  unfold interval boundaryQuarters
  dsimp only
  rw [Nat.cast_mul, Nat.cast_sub enough]
  simp only [fraction_of_unsigned, exponent_of_unsigned]
  push_cast
  rfl

end Intervals

structure Holds (x : Float) (point : ℚ) : Prop where
  above : boundary (unsignedBits x) ≤ point
  below : point ≤ boundary (unsignedBits x + 1)
  ends : unsignedBits x % 2 = 0 ∨
    (boundary (unsignedBits x) < point ∧ point < boundary (unsignedBits x + 1))

theorem holds_of_contains (x : Float) (nonzero : isZero x = false) (n : Nat) (exponent : Int)
    (inside : (interval x).contains n exponent = true) : Holds x (n * 10 ^ exponent) := by
  have fine := interval_fine x nonzero
  rw [contains_iff (interval x) fine.denominator_pos n exponent, interval_lower x nonzero,
    interval_upper x] at inside
  by_cases closed : (interval x).closed = true
  · rw [if_pos closed] at inside
    exact ⟨inside.1, inside.2, .inl ((interval_closed x).mp closed)⟩
  · rw [if_neg closed] at inside
    exact ⟨inside.1.le, inside.2.le, .inr inside⟩

theorem not_both_hold (x y : Float) (less : unsignedBits x < unsignedBits y) (point : ℚ)
    (left : Holds x point) (right : Holds y point) : False := by
  have between : boundary (unsignedBits x + 1) ≤ boundary (unsignedBits y) :=
    boundary_ascends.monotone less
  have there : point = boundary (unsignedBits x + 1) :=
    le_antisymm left.below (between.trans right.above)
  have thereToo : point = boundary (unsignedBits y) :=
    le_antisymm (left.below.trans between) right.above
  -- The point is the one between two neighbours, and of those only the even one has it.
  have neighbours : unsignedBits x + 1 = unsignedBits y :=
    boundary_ascends.injective (there.symm.trans thereToo)
  rcases left.ends with even | ⟨_, inner⟩
  · rcases right.ends with evenToo | ⟨inner, _⟩
    · omega
    · exact absurd thereToo (ne_of_gt inner)
  · exact absurd there (ne_of_lt inner)

theorem bits_of_held (x y : Float) (point : ℚ) (left : Holds x point) (right : Holds y point) :
    unsignedBits x = unsignedBits y := by
  rcases Nat.lt_trichotomy (unsignedBits x) (unsignedBits y) with less | same | more
  · exact (not_both_hold x y less point left right).elim
  · exact same
  · exact (not_both_hold y x more point right left).elim

def Digits.value (d : Digits) : ℚ :=
  Nat.ofDigitChars 10 d.digits 0 * 10 ^ (d.point - d.digits.length)

theorem zeros_shift (n count : Nat) : Nat.ofDigitChars 10 (List.replicate count '0') n = n * 10 ^ count := by
  induction count generalizing n with
  | zero => simp
  | succ count ih =>
      rw [List.replicate_succ, Nat.ofDigitChars_cons, ih, Nat.pow_succ]
      simp only [Nat.sub_self, Nat.add_zero]
      ring

theorem with_trailing_zeros (digits : List Char) :
    ∃ count, withoutTrailingZeros digits ++ List.replicate count '0' = digits := by
  refine ⟨(digits.reverse.takeWhile (· = '0')).length, ?_⟩
  have zeros : digits.reverse.takeWhile (· = '0') =
      List.replicate (digits.reverse.takeWhile (· = '0')).length '0' :=
    List.eq_replicate_length.mpr fun c member => by simpa using List.mem_takeWhile_imp member
  unfold withoutTrailingZeros
  rw [← List.reverse_inj, List.reverse_append, List.reverse_reverse, List.reverse_replicate, ← zeros,
    List.takeWhile_append_dropWhile]

theorem value_without_zeros (digits : List Char) (exponent : Int) :
    Digits.value ⟨withoutTrailingZeros digits, exponent + digits.length⟩ =
      Nat.ofDigitChars 10 digits 0 * 10 ^ exponent := by
  obtain ⟨count, whole⟩ := with_trailing_zeros digits
  generalize withoutTrailingZeros digits = kept at whole ⊢
  subst whole
  have shift : exponent + ((kept ++ List.replicate count '0').length : Int) - kept.length =
      count + exponent := by
    rw [List.length_append, List.length_replicate]
    omega
  rw [Digits.value, shift, Nat.ofDigitChars_append, zeros_shift, zpow_add₀ (by norm_num), zpow_natCast]
  push_cast
  ring

theorem shortest_value (ties : Ties) (x : Float) :
    (shortest ties x).value =
      ((interval x).search ties 16 1).1 * 10 ^ ((interval x).search ties 16 1).2 := by
  have digits : ∀ n, Nat.ofDigitChars 10 (Nat.toDigits 10 n) 0 = n := fun n =>
    Nat.ofDigitChars_toDigits (by decide) (by decide)
  unfold shortest
  generalize (interval x).search ties 16 1 = found
  exact (value_without_zeros (Nat.toDigits 10 found.1) found.2).trans (by rw [digits])

theorem shortest_positive (ties : Ties) (x : Float) (nonzero : isZero x = false) :
    0 < (shortest ties x).value := by
  have positive := search_positive (interval x) (interval_fine x nonzero) ties 16 1 rfl
  rw [shortest_value]
  exact mul_pos (by exact_mod_cast positive) (by positivity)

theorem shortest_holds (ties : Ties) (x : Float) (nonzero : isZero x = false) :
    Holds x (shortest ties x).value := by
  rw [shortest_value]
  exact holds_of_contains x nonzero _ _ (search_contains _ (interval_fine x nonzero) ties 16 1 rfl)

end Slideshow.Decimal
