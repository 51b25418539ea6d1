import Slideshow.Decimal.Shortest
import Mathlib.Algebra.Group.Nat.Defs
import Mathlib.Data.List.Basic
import Mathlib.Data.List.TakeWhile

set_option autoImplicit false

namespace Slideshow.Decimal

-- What the search needs to know of an interval. The width is compared with the value because
-- the steps of the last grid are.
structure Interval.Fine (i : Interval) : Prop where
  lower_pos : 0 < i.lower
  lower_lt : i.lower < i.value
  lt_upper : i.value < i.upper
  wide : i.value < 10 ^ 16 * (i.upper - i.lower)
  denominator_pos : 0 < i.denominator
  denominator_le : i.denominator ≤ tenTo 400

theorem mantissa_bounds (x : Float) (nonzero : isZero x = false) :
    let m := if exponentBits x = 0 then fractionBits x else fractionBits x + 0x10000000000000
    let below := if fractionBits x = 0 ∧ 1 < exponentBits x then 1 else 2
    1 ≤ m ∧ 1 ≤ below ∧ below ≤ 2 ∧ 4 * m < 10 ^ 16 * (2 + below) := by
  have bits : fractionBits x < 0x10000000000000 := Nat.mod_lt _ (by decide)
  simp only [isZero, Bool.and_eq_false_iff, decide_eq_false_iff_not] at nonzero
  dsimp only
  split <;> split <;> omega

theorem power_small (n : Nat) (small : n ≤ 1077) : Nat.pow 2 n ≤ tenTo 400 := by
  have thrice : n ≤ 3 * 400 := by omega
  unfold tenTo
  generalize 400 = most at thrice ⊢
  calc
    2 ^ n ≤ 2 ^ (3 * most) := Nat.pow_le_pow_right (by decide) thrice
    _ = 8 ^ most := Nat.pow_mul 2 3 most
    _ ≤ 10 ^ most := Nat.pow_le_pow_left (by decide) most

theorem interval_fine (x : Float) (nonzero : isZero x = false) : (interval x).Fine := by
  obtain ⟨positive, least, most, small⟩ := mantissa_bounds x nonzero
  unfold interval
  dsimp only
  generalize (if exponentBits x = 0 then fractionBits x else fractionBits x + 0x10000000000000) = m
    at positive small ⊢
  generalize (if fractionBits x = 0 ∧ 1 < exponentBits x then 1 else 2) = below at least most small ⊢
  have scale : 0 < Nat.pow 2 (max (exponentBits x) 1 - 1077) := Nat.pow_pos (by decide)
  have denominator := power_small (1077 - max (exponentBits x) 1) (by omega)
  refine ⟨?_, ?_, ?_, ?_, Nat.pow_pos (by decide), denominator⟩
  · exact Nat.mul_pos (by omega) scale
  · exact Nat.mul_lt_mul_of_pos_right (by omega) scale
  · exact Nat.mul_lt_mul_of_pos_right (by omega) scale
  · have width : (4 * m + 2) - (4 * m - below) = 2 + below := by omega
    dsimp only
    rw [← Nat.sub_mul, width, ← Nat.mul_assoc]
    exact Nat.mul_lt_mul_of_pos_right small scale

theorem contains_pos (i : Interval) (fine : i.Fine) (n : Nat) (exponent : Int)
    (inside : i.contains n exponent = true) : 0 < n := by
  have down : 0 < i.lower * tenTo (-exponent).toNat :=
    Nat.mul_pos fine.lower_pos (Nat.pow_pos (by decide))
  apply Nat.pos_of_ne_zero
  intro zero
  subst zero
  unfold Interval.contains at inside
  simp only [Nat.zero_mul] at inside
  split at inside
  · obtain ⟨above, _⟩ := Bool.and_eq_true_iff.mp inside
    exact absurd (of_decide_eq_true above) (Nat.not_le_of_lt down)
  · obtain ⟨above, _⟩ := Bool.and_eq_true_iff.mp inside
    exact Nat.not_lt_zero _ (of_decide_eq_true above)

theorem nearest_contains (i : Interval) (ties : Ties) (exponent : Int) (n : Nat)
    (found : i.nearest ties exponent = some n) : i.contains n exponent = true := by
  unfold Interval.nearest at found
  dsimp only at found
  split at found
  · cases found
  · cases found; assumption
  · cases found; assumption
  · rename_i low high
    split at found
    · cases found; exact low
    · split at found
      · cases found; exact high
      · split at found
        · cases found; split <;> assumption
        · cases found; exact high

theorem nearest_none (i : Interval) (ties : Ties) (exponent : Int)
    (nothing : i.nearest ties exponent = none) :
    let low := i.value * tenTo (-exponent).toNat / (i.denominator * tenTo exponent.toNat)
    i.contains low exponent = false ∧ i.contains (low + 1) exponent = false := by
  unfold Interval.nearest at nothing
  dsimp only at nothing ⊢
  split at nothing
  · exact ⟨by assumption, by assumption⟩
  · cases nothing
  · cases nothing
  · exfalso
    revert nothing
    split
    · simp
    · split
      · simp
      · split <;> simp

theorem nearest_of_fine_grid (i : Interval) (fine : i.Fine) (ties : Ties) (exponent : Int)
    (grid : i.denominator * tenTo exponent.toNat * 10 ^ 16 ≤ i.value * tenTo (-exponent).toNat) :
    i.nearest ties exponent ≠ none := by
  intro nothing
  obtain ⟨notLow, notHigh⟩ := nearest_none i ties exponent nothing
  have downPos : 0 < tenTo (-exponent).toNat := Nat.pow_pos (by decide)
  have upPos : 0 < tenTo exponent.toNat := Nat.pow_pos (by decide)
  unfold Interval.contains at notLow notHigh
  generalize tenTo (-exponent).toNat = down at *
  generalize tenTo exponent.toNat = up at *
  have stepPos : 0 < i.denominator * up := Nat.mul_pos fine.denominator_pos upPos
  have lowBelow := Nat.div_mul_le_self (i.value * down) (i.denominator * up)
  have highAbove := Nat.lt_mul_div_succ (i.value * down) stepPos
  have belowUpper : i.value * down < i.upper * down := Nat.mul_lt_mul_of_pos_right fine.lt_upper downPos
  have aboveLower : i.lower * down < i.value * down := Nat.mul_lt_mul_of_pos_right fine.lower_lt downPos
  generalize i.value * down / (i.denominator * up) = low at *
  have asLow : low * up * i.denominator = low * (i.denominator * up) := by
    rw [Nat.mul_assoc, Nat.mul_comm up]
  have asHigh : (low + 1) * up * i.denominator = low * (i.denominator * up) + i.denominator * up := by
    rw [Nat.mul_assoc, Nat.mul_comm up, Nat.succ_mul]
  rw [Nat.mul_add, Nat.mul_one, Nat.mul_comm _ low] at highAbove
  dsimp only at notLow notHigh
  rw [asLow] at notLow
  rw [asHigh] at notHigh
  -- Both neighbours miss the interval, so a step of the grid is as long as it is.
  have long : (i.upper - i.lower) * down ≤ i.denominator * up := by
    rw [Nat.sub_mul]
    split at notLow <;> rename_i closed <;> simp only [closed] at notHigh <;>
      simp at notLow notHigh <;> omega
  have wide := Nat.mul_lt_mul_of_pos_right fine.wide downPos
  rw [Nat.mul_assoc] at wide
  omega

theorem leading_zeros_bounds (limit fuel value : Nat) :
    leadingZeros limit fuel value ≤ fuel ∧
      (leadingZeros limit fuel value < fuel → limit ≤ value * 10 ^ (leadingZeros limit fuel value + 1)) ∧
      (value < limit → value * 10 ^ leadingZeros limit fuel value < limit) := by
  induction fuel generalizing value with
  | zero => simp [leadingZeros]
  | succ fuel ih =>
      unfold leadingZeros
      by_cases more : value * 10 < limit
      · rw [if_pos more]
        obtain ⟨within, stops, below⟩ := ih (value * 10)
        refine ⟨by omega, fun early => ?_, fun _ => ?_⟩
        · have reached := stops (by omega)
          rw [Nat.mul_assoc, ← Nat.pow_succ'] at reached
          exact reached
        · have under := below more
          rw [Nat.mul_assoc, ← Nat.pow_succ'] at under
          exact under
      · rw [if_neg more]
        refine ⟨by omega, fun _ => by simpa using Nat.le_of_not_lt more, fun small => by simpa using small⟩

theorem value_pos (i : Interval) (fine : i.Fine) : 0 < i.value :=
  Nat.lt_of_le_of_lt (Nat.zero_le _) fine.lower_lt

theorem leading_zeros_reach (limit value fuel : Nat) (positive : 0 < value) (small : value < limit)
    (most : limit ≤ tenTo fuel) : limit ≤ value * 10 ^ (leadingZeros limit fuel value + 1) := by
  obtain ⟨within, stops, below⟩ := leading_zeros_bounds limit fuel value
  refine stops (Nat.lt_of_le_of_ne within fun all => ?_)
  have under := below small
  rw [all] at under
  have least : 1 * 10 ^ fuel ≤ value * 10 ^ fuel := Nat.mul_le_mul_right _ positive
  have most : limit ≤ 10 ^ fuel := most
  omega

theorem power_of_length (n : Nat) (positive : 0 < n) : 10 ^ ((Nat.toDigits 10 n).length - 1) ≤ n := by
  cases length : (Nat.toDigits 10 n).length with
  | zero => exact absurd length (Nat.ne_of_gt Nat.length_toDigits_pos)
  | succ k =>
      cases k with
      | zero => exact positive
      | succ k =>
          apply Nat.le_of_not_lt
          intro small
          have short := (Nat.length_toDigits_le_iff (by decide) (Nat.succ_pos k)).mpr small
          omega

theorem magnitude_grid (i : Interval) (fine : i.Fine) :
    i.denominator * tenTo (i.magnitude - 17).toNat * 10 ^ 16 ≤
      i.value * tenTo (-(i.magnitude - 17)).toNat := by
  unfold Interval.magnitude
  by_cases large : i.denominator ≤ i.value
  · rw [if_pos large]
    have least := power_of_length (i.value / i.denominator) (Nat.div_pos large fine.denominator_pos)
    have digits : 0 < (Nat.toDigits 10 (i.value / i.denominator)).length := Nat.length_toDigits_pos
    generalize (Nat.toDigits 10 (i.value / i.denominator)).length = length at *
    have below : i.denominator * 10 ^ (length - 1) ≤ i.value :=
      Nat.le_trans (Nat.mul_le_mul_left _ least) (Nat.mul_div_le i.value i.denominator)
    rw [Nat.mul_assoc]
    calc i.denominator * (10 ^ ((length : Int) - 17).toNat * 10 ^ 16)
        = i.denominator * 10 ^ (length - 1) * 10 ^ (-((length : Int) - 17)).toNat := by
          rw [Nat.mul_assoc, ← Nat.pow_add, ← Nat.pow_add]
          congr 2
          omega
      _ ≤ i.value * 10 ^ (-((length : Int) - 17)).toNat := Nat.mul_le_mul_right _ below
  · rw [if_neg large]
    have reached := leading_zeros_reach i.denominator i.value 400 (value_pos i fine)
      (Nat.lt_of_not_le large) fine.denominator_le
    generalize leadingZeros i.denominator 400 i.value = zeros at *
    have up : (-(zeros : Int) - 17).toNat = 0 := by omega
    have down : (-(-(zeros : Int) - 17)).toNat = zeros + 1 + 16 := by omega
    rw [up, down]
    calc i.denominator * 10 ^ 0 * 10 ^ 16
        = i.denominator * 10 ^ 16 := by rw [Nat.pow_zero, Nat.mul_one]
      _ ≤ i.value * 10 ^ (zeros + 1) * 10 ^ 16 := Nat.mul_le_mul_right _ reached
      _ = i.value * 10 ^ (zeros + 1 + 16) := by rw [Nat.mul_assoc, ← Nat.pow_add]

theorem search_contains (i : Interval) (fine : i.Fine) (ties : Ties) (more length : Nat)
    (last : more + length = 17) :
    i.contains (i.search ties more length).1 (i.search ties more length).2 = true := by
  -- A coarser grid may miss the interval; the last one, of 17 digits, is the one that cannot.
  induction more generalizing length with
  | zero =>
      have found := nearest_of_fine_grid i fine ties (i.magnitude - 17) (magnitude_grid i fine)
      have here : length = 17 := by omega
      subst here
      unfold Interval.search
      dsimp only
      cases nearest : i.nearest ties (i.magnitude - (17 : Nat)) with
      | none => exact absurd nearest found
      | some n => exact nearest_contains i ties _ n nearest
  | succ more ih =>
      unfold Interval.search
      dsimp only
      cases nearest : i.nearest ties (i.magnitude - length) with
      | none => exact ih (length + 1) (by omega)
      | some n => exact nearest_contains i ties _ n nearest

theorem search_positive (i : Interval) (fine : i.Fine) (ties : Ties) (more length : Nat)
    (last : more + length = 17) : 0 < (i.search ties more length).1 :=
  contains_pos i fine _ _ (search_contains i fine ties more length last)

theorem first_digit_of_positive (n : Nat) (positive : 0 < n) : (Nat.toDigits 10 n).head? ≠ some '0' := by
  induction n using Nat.strongRecOn with
  | ind n ih =>
      by_cases small : n < 10
      · rw [Nat.toDigits_of_lt_base small, List.head?_cons]
        intro zero
        exact Nat.ne_of_gt positive (Nat.digitChar_eq_zero.mp (Option.some.inj zero))
      · rw [Nat.toDigits_of_base_le (by decide) (Nat.le_of_not_lt small),
          List.head?_append_of_ne_nil _ Nat.toDigits_ne_nil]
        exact ih (n / 10) (by omega) (by omega)

theorem without_zeros_prefix (digits : List Char) : withoutTrailingZeros digits <+: digits := by
  rw [← List.reverse_suffix]
  simpa [withoutTrailingZeros] using List.dropWhile_suffix (l := digits.reverse) (· = '0')

theorem without_zeros_ne_nil (digits : List Char) (present : digits ≠ []) (first : digits.head? ≠ some '0') :
    withoutTrailingZeros digits ≠ [] := by
  intro nothing
  have all : ∀ c ∈ digits, c = '0' := by
    simpa [withoutTrailingZeros, List.dropWhile_eq_nil_iff] using nothing
  cases digits with
  | nil => exact present rfl
  | cons head tail => exact first (congrArg _ (all head List.mem_cons_self))

structure Leading (digits : List Char) : Prop where
  digit : ∀ c ∈ digits, c.isDigit = true
  ne_nil : digits ≠ []
  first : digits.head? ≠ some '0'

theorem to_digits_leading (n : Nat) (positive : 0 < n) : Leading (Nat.toDigits 10 n) where
  digit _ member := Nat.isDigit_of_mem_toDigits (by decide) (by decide) member
  ne_nil := Nat.toDigits_ne_nil
  first := first_digit_of_positive n positive

theorem without_zeros_leading (digits : List Char) (leading : Leading digits) :
    Leading (withoutTrailingZeros digits) := by
  have kept := without_zeros_prefix digits
  have present := without_zeros_ne_nil digits leading.ne_nil leading.first
  refine ⟨fun c member => leading.digit c (kept.subset member), present, ?_⟩
  obtain ⟨rest, same⟩ := kept
  have first := leading.first
  rw [← same, List.head?_append_of_ne_nil _ present] at first
  exact first

theorem shortest_leading (ties : Ties) (x : Float) (nonzero : isZero x = false) :
    Leading (shortest ties x).digits :=
  without_zeros_leading _
    (to_digits_leading _ (search_positive (interval x) (interval_fine x nonzero) ties 16 1 rfl))

end Slideshow.Decimal
