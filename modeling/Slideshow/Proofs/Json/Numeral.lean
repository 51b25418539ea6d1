import Slideshow.Json.Outline
import Slideshow.Json.Write
import Slideshow.Proofs.Decimal.Shortest

set_option autoImplicit false

namespace Slideshow.Json

structure Spelling where
  whole : List Char
  fraction : Option (List Char) := none
  exponent : Option (Bool × List Char) := none

def digitValues (digits : List Char) : List Nat :=
  digits.map fun c => c.toNat - '0'.toNat

def Source.EndsNumeral : Source → Prop
  | some c :: _ => c.isDigit = false ∧ c ≠ '.' ∧ c ≠ 'e' ∧ c ≠ 'E'
  | _ => True

structure Marking where
  capital : Bool := false
  bare : Bool := false

namespace Spelling

def fractionText : Option (List Char) → List Char
  | none => []
  | some digits => '.' :: digits

def exponentText (marking : Marking) : Option (Bool × List Char) → List Char
  | none => []
  | some (negative, digits) =>
      (if marking.capital then 'E' else 'e') ::
        ((if negative then ['-'] else if marking.bare then [] else ['+']) ++ digits)

def text (spelling : Spelling) (marking : Marking := {}) : List Char :=
  spelling.whole ++ (fractionText spelling.fraction ++ exponentText marking spelling.exponent)

def numeral (negative : Bool) (spelling : Spelling) : Numeral where
  negative := negative
  whole := digitValues spelling.whole
  fraction := digitValues (spelling.fraction.getD [])
  exponent := spelling.exponent.map fun (negative, digits) => (negative, digitValues digits)

structure Digits (digits : List Char) : Prop where
  digit : ∀ c ∈ digits, c.isDigit = true
  ne_nil : digits ≠ []

structure Sound (spelling : Spelling) : Prop where
  whole : Digits spelling.whole
  leading : spelling.whole.head? = some '0' → spelling.whole.length = 1
  fraction : ∀ digits, spelling.fraction = some digits → Digits digits
  exponent : ∀ negative digits, spelling.exponent = some (negative, digits) → Digits digits

end Spelling

namespace Numeral

def EndsDigits : Source → Prop
  | some c :: _ => c.isDigit = false
  | _ => True

theorem take_digits (digits : List Char) (rest : Source) (digit : ∀ c ∈ digits, c.isDigit = true)
    (ends : EndsDigits rest) :
    takeDigits (digits.map some ++ rest) = (digitValues digits, rest) := by
  induction digits with
  | nil =>
      cases rest with
      | nil => rfl
      | cons first others =>
          cases first with
          | none => rfl
          | some c =>
              have stops : c.isDigit = false := ends
              simp [takeDigits, stops, digitValues]
  | cons c digits ih =>
      have here := digit c List.mem_cons_self
      have later := ih fun c member => digit c (List.mem_cons_of_mem _ member)
      simp [takeDigits, here, later, digitValues]

theorem some_digits (digits : List Char) (rest : Source) (valid : Spelling.Digits digits)
    (ends : EndsDigits rest) :
    someDigits (digits.map some ++ rest) = .ok (digitValues digits, rest) := by
  have taken := take_digits digits rest valid.digit ends
  unfold someDigits
  rw [taken]
  cases digits with
  | nil => exact absurd rfl valid.ne_nil
  | cons c digits => rfl

theorem ends_digits (rest : Source) (ends : rest.EndsNumeral) : EndsDigits rest := by
  cases rest with
  | nil => trivial
  | cons first others =>
      cases first with
      | none => trivial
      | some c => exact ends.1

theorem digit_value_zero (c : Char) (digit : c.isDigit = true) (zero : c.toNat - '0'.toNat = 0) :
    c = '0' := by
  have least := (Char.isDigit_iff_toNat.mp digit).1
  apply Char.toNat_inj.mp
  omega

theorem scan_whole (digits : List Char) (rest : Source) (valid : Spelling.Digits digits)
    (leading : digits.head? = some '0' → digits.length = 1) (ends : EndsDigits rest) :
    scanWhole (digits.map some ++ rest) = .ok (digitValues digits, rest) := by
  unfold scanWhole
  rw [some_digits digits rest valid ends]
  simp only [bind, Except.bind]
  rw [if_neg]
  rintro ⟨zero, long⟩
  cases digits with
  | nil => exact valid.ne_nil rfl
  | cons c digits =>
      have zero : c.toNat - '0'.toNat = 0 := by simpa [digitValues] using zero
      have first := digit_value_zero c (valid.digit c List.mem_cons_self) zero
      apply long
      simpa [digitValues] using leading (by rw [first]; rfl)

theorem scan_no_sign (digits : List Char) (rest : Source) (valid : Spelling.Digits digits) :
    scanSign (digits.map some ++ rest) = (false, digits.map some ++ rest) := by
  cases digits with
  | nil => exact absurd rfl valid.ne_nil
  | cons c others =>
      have digit := valid.digit c List.mem_cons_self
      have noSign : c ≠ '-' ∧ c ≠ '+' := by
        constructor <;> rintro rfl <;> cases digit
      unfold scanSign
      split
      · rename_i same
        exact absurd (Option.some.inj (List.cons.inj same).1) noSign.1
      · rename_i same
        exact absurd (Option.some.inj (List.cons.inj same).1) noSign.2
      · rfl

theorem scan_exponent (marking : Marking) (exponent : Option (Bool × List Char)) (rest : Source)
    (valid : ∀ negative digits, exponent = some (negative, digits) → Spelling.Digits digits)
    (ends : rest.EndsNumeral) :
    scanExponent ((Spelling.exponentText marking exponent).map some ++ rest) =
      .ok (exponent.map fun (negative, digits) => (negative, digitValues digits), rest) := by
  cases exponent with
  | none =>
      cases rest with
      | nil => rfl
      | cons first others =>
          cases first with
          | none => rfl
          | some c =>
              obtain ⟨_, _, lower, upper⟩ := ends
              simp [Spelling.exponentText, scanExponent, lower, upper]
  | some part =>
      obtain ⟨negative, digits⟩ := part
      have some_digit := valid negative digits rfl
      have read := some_digits digits rest some_digit (ends_digits rest ends)
      have noSign := scan_no_sign digits rest some_digit
      have sign : scanSign
          (((if negative then ['-'] else if marking.bare then [] else ['+']) ++ digits).map some ++ rest) =
            (negative, digits.map some ++ rest) := by
        cases negative with
        | true => rfl
        | false =>
            cases marking.bare with
            | true => exact noSign
            | false => rfl
      have mark : (if marking.capital then 'E' else 'e') = 'e' ∨ (if marking.capital then 'E' else 'e') = 'E' := by
        cases marking.capital <;> simp
      rw [Spelling.exponentText, List.map_cons, List.cons_append, scanExponent, if_pos mark, sign]
      simp [read, bind, Except.bind]

theorem scan_fraction (fraction : Option (List Char)) (rest : Source)
    (valid : ∀ digits, fraction = some digits → Spelling.Digits digits)
    (ends : EndsDigits rest) (point : rest.head? ≠ some (some '.')) :
    scanFraction ((Spelling.fractionText fraction).map some ++ rest) =
      .ok (digitValues (fraction.getD []), rest) := by
  cases fraction with
  | none =>
      unfold scanFraction
      split
      · rename_i others same
        exact absurd (by simpa [Spelling.fractionText] using congrArg List.head? same) point
      · rfl
  | some digits => exact some_digits digits rest (valid digits rfl) ends

theorem exponent_ends_digits (marking : Marking) (exponent : Option (Bool × List Char)) (rest : Source)
    (ends : rest.EndsNumeral) :
    EndsDigits ((Spelling.exponentText marking exponent).map some ++ rest) ∧
      ((Spelling.exponentText marking exponent).map some ++ rest).head? ≠ some (some '.') := by
  cases exponent with
  | none =>
      refine ⟨ends_digits rest ends, ?_⟩
      cases rest with
      | nil => simp [Spelling.exponentText]
      | cons first others =>
          cases first with
          | none => simp [Spelling.exponentText]
          | some c => simpa [Spelling.exponentText] using ends.2.1
  | some part =>
      obtain ⟨capital, bare⟩ := marking
      cases capital <;> exact ⟨rfl, by simp [Spelling.exponentText]⟩

theorem fraction_ends_digits (fraction : Option (List Char)) (rest : Source) (ends : EndsDigits rest) :
    EndsDigits ((Spelling.fractionText fraction).map some ++ rest) := by
  cases fraction with
  | none => exact ends
  | some digits => rfl

theorem scan_spelling (negative : Bool) (spelling : Spelling) (marking : Marking) (rest : Source)
    (sound : spelling.Sound) (ends : rest.EndsNumeral) :
    scan negative ((spelling.text marking).map some ++ rest) = .ok (spelling.numeral negative, rest) := by
  obtain ⟨exponentEnds, noPoint⟩ := exponent_ends_digits marking spelling.exponent rest ends
  have whole := scan_whole spelling.whole _ sound.whole sound.leading
    (fraction_ends_digits spelling.fraction _ exponentEnds)
  have fraction := scan_fraction spelling.fraction _ sound.fraction exponentEnds noPoint
  have exponent := scan_exponent marking spelling.exponent rest sound.exponent ends
  simp only [Spelling.text, List.map_append, List.append_assoc, scan, whole, fraction, exponent, bind,
    Except.bind]
  rfl

end Numeral

def spellingOf (d : Decimal.Digits) : Spelling :=
  if floatLayout.positional (d.point - 1) then
    if d.point ≤ 0 then ⟨['0'], some (Decimal.zeros (-d.point).toNat ++ d.digits), none⟩
    else if d.digits.length ≤ d.point.toNat then
      ⟨d.digits ++ Decimal.zeros (d.point.toNat - d.digits.length), some ['0'], none⟩
    else ⟨d.digits.take d.point.toNat, some (d.digits.drop d.point.toNat), none⟩
  else
    ⟨d.digits.take 1, if d.digits.drop 1 = [] then none else some (d.digits.drop 1),
      some (d.point - 1 < 0, Nat.toDigits 10 (d.point - 1).natAbs)⟩

def floatSpelling (x : Float) : Spelling :=
  if Decimal.isZero x then ⟨['0'], some ['0'], none⟩
  else spellingOf (Decimal.shortest floatLayout.ties x)

def signText (negative : Bool) : List Char := if negative then ['-'] else []

theorem spelling_text (d : Decimal.Digits) :
    (spellingOf d).text =
      if floatLayout.positional (d.point - 1) then Decimal.positional floatLayout d
      else Decimal.scientific d := by
  unfold spellingOf Decimal.positional Decimal.scientific
  split
  · split
    · simp [Spelling.text, Spelling.fractionText, Spelling.exponentText]
    · split
      · simp [Spelling.text, Spelling.fractionText, Spelling.exponentText, floatLayout, *]
      · simp [Spelling.text, Spelling.fractionText, Spelling.exponentText, *]
  · have sign : ∀ (below : Prop) [Decidable below] (digits : List Char),
        (if below then ['-'] else ['+']) ++ digits = (if below then '-' else '+') :: digits := by
      intro below _ digits
      split <;> rfl
    cases others : d.digits.drop 1 with
    | nil => simp [Spelling.text, Spelling.fractionText, Spelling.exponentText, sign]
    | cons c digits => simp [Spelling.text, Spelling.fractionText, Spelling.exponentText, sign]

theorem write_finite (x : Float) :
    Decimal.writeFinite floatLayout x = signText (Decimal.isNegative x) ++ (floatSpelling x).text := by
  unfold Decimal.writeFinite floatSpelling signText
  dsimp only
  cases Decimal.isZero x with
  | true => rfl
  | false =>
      rw [if_neg Bool.false_ne_true, if_neg Bool.false_ne_true, spelling_text]
      split <;> rfl

theorem digits_of_leading (digits : List Char) (leading : Decimal.Leading digits) :
    Spelling.Digits digits :=
  ⟨leading.digit, leading.ne_nil⟩

theorem to_digits (n : Nat) : Spelling.Digits (Nat.toDigits 10 n) :=
  ⟨fun _ member => Nat.isDigit_of_mem_toDigits (by decide) (by decide) member, Nat.toDigits_ne_nil⟩

theorem zeros_digits (n : Nat) : ∀ c ∈ Decimal.zeros n, c.isDigit = true := by
  intro c member
  rw [List.eq_of_mem_replicate member]
  rfl

theorem zero_digits : Spelling.Digits ['0'] :=
  ⟨fun c member => by rw [List.mem_singleton.mp member]; rfl, List.cons_ne_nil _ _⟩

theorem append_digits (left right : List Char) (leftDigits : ∀ c ∈ left, c.isDigit = true)
    (rightDigits : ∀ c ∈ right, c.isDigit = true) (present : left ++ right ≠ []) :
    Spelling.Digits (left ++ right) := by
  refine ⟨fun c member => ?_, present⟩
  rcases List.mem_append.mp member with early | late
  · exact leftDigits c early
  · exact rightDigits c late

theorem take_leading (digits : List Char) (leading : Decimal.Leading digits) (n : Nat) (positive : 0 < n) :
    Decimal.Leading (digits.take n) := by
  obtain ⟨digit, present, first⟩ := leading
  cases digits with
  | nil => exact absurd rfl present
  | cons c rest =>
      obtain ⟨m, rfl⟩ := Nat.exists_eq_succ_of_ne_zero (Nat.ne_of_gt positive)
      refine ⟨fun d member => digit d (List.mem_of_mem_take member), ?_, first⟩
      simp

theorem drop_digits (digits : List Char) (leading : Decimal.Leading digits) (n : Nat)
    (present : digits.drop n ≠ []) : Spelling.Digits (digits.drop n) :=
  ⟨fun c member => leading.digit c (List.mem_of_mem_drop member), present⟩

theorem spelling_sound (d : Decimal.Digits) (leading : Decimal.Leading d.digits) : (spellingOf d).Sound := by
  unfold spellingOf
  split
  · split
    · refine ⟨zero_digits, fun _ => rfl, fun digits same => ?_, by simp⟩
      obtain rfl := Option.some.inj same
      exact append_digits _ _ (zeros_digits _) leading.digit (by simp [leading.ne_nil])
    · split
      · refine ⟨append_digits _ _ leading.digit (zeros_digits _) (by simp [leading.ne_nil]),
          fun zero => ?_, fun digits same => ?_, by simp⟩
        · rw [List.head?_append_of_ne_nil _ leading.ne_nil] at zero
          exact absurd zero leading.first
        · obtain rfl := Option.some.inj same
          exact zero_digits
      · rename_i positive long
        have taken := take_leading d.digits leading d.point.toNat (by omega)
        refine ⟨digits_of_leading _ taken, fun zero => absurd zero taken.first,
          fun digits same => ?_, by simp⟩
        obtain rfl := Option.some.inj same
        exact drop_digits d.digits leading _ (by simpa using long)
  · have taken := take_leading d.digits leading 1 (by decide)
    refine ⟨digits_of_leading _ taken, fun zero => absurd zero taken.first, fun digits same => ?_,
      fun negative digits same => ?_⟩
    · by_cases alone : d.digits.drop 1 = []
      · rw [if_pos alone] at same
        cases same
      · rw [if_neg alone] at same
        obtain rfl := Option.some.inj same
        exact drop_digits d.digits leading 1 alone
    · obtain ⟨_, rfl⟩ := Prod.mk.inj (Option.some.inj same)
      exact to_digits _

theorem float_spelling_sound (x : Float) : (floatSpelling x).Sound := by
  unfold floatSpelling
  split
  · refine ⟨zero_digits, fun _ => rfl, fun digits same => ?_, by simp⟩
    obtain rfl := Option.some.inj same
    exact zero_digits
  · rename_i nonzero
    exact spelling_sound _ (Decimal.shortest_leading _ x (by simpa using nonzero))

namespace Numeral

theorem le_of_digit_chars (digits : List Char) (n : Nat) : n ≤ Nat.ofDigitChars 10 digits n := by
  induction digits generalizing n with
  | nil => simp
  | cons c digits ih =>
      rw [Nat.ofDigitChars_cons]
      exact Nat.le_trans (by omega) (ih _)

theorem collect_digits (limit : Nat) (digits : List Char) (n : Nat)
    (small : Nat.ofDigitChars 10 digits n < limit) :
    collect limit n (digitValues digits) = (Nat.ofDigitChars 10 digits n, []) := by
  -- What is collected never shrinks, so if the whole stays below the limit each part does.
  induction digits generalizing n with
  | nil => simp [collect, digitValues]
  | cons c digits ih =>
      rw [Nat.ofDigitChars_cons, Nat.mul_comm] at small ⊢
      have within := Nat.lt_of_le_of_lt (le_of_digit_chars digits _) small
      have collected := ih (n * 10 + (c.toNat - '0'.toNat)) small
      simp only [digitValues, List.map_cons, collect] at collected ⊢
      rw [if_pos within, collected]

theorem value_of_int (n : Int) (inRange : -0x8000000000000000 ≤ n ∧ n < 0x10000000000000000) :
    (Spelling.numeral (n < 0) ⟨Nat.toDigits 10 n.natAbs, none, none⟩).value = .ok (.int n inRange) := by
  have digits : Nat.ofDigitChars 10 (Nat.toDigits 10 n.natAbs) 0 = n.natAbs :=
    Nat.ofDigitChars_toDigits (by decide) (by decide)
  have collected := collect_digits 0x10000000000000000 (Nat.toDigits 10 n.natAbs) 0
    (by rw [digits]; omega)
  rw [digits] at collected
  have signed : (if decide (n < 0) = true then -(n.natAbs : Int) else n.natAbs) = n := by
    split <;> rename_i sign <;> simp at sign <;> omega
  have notNegativeZero : ¬ (decide (n < 0) = true ∧ n.natAbs = 0) := by
    simp only [decide_eq_true_eq]
    omega
  have noFraction : digitValues [] = [] := rfl
  unfold value Numeral.integer Spelling.numeral
  simp only [collected, noFraction, Option.getD_none, Option.map_none, signed]
  rw [if_neg notNegativeZero, dif_pos inRange]

end Numeral

end Slideshow.Json

namespace Slideshow.Number

open Json

def isNegative : Number → Bool
  | .int n _ => n < 0
  | .float x _ => Decimal.isNegative x

def spelling : Number → Spelling
  | .int n _ => ⟨Nat.toDigits 10 n.natAbs, none, none⟩
  | .float x _ => floatSpelling x

def reread (number : Number) : Except ReadError Number :=
  (number.spelling.numeral number.isNegative).value

theorem reread_int (n : Int) (inRange : -0x8000000000000000 ≤ n ∧ n < 0x10000000000000000) :
    reread (.int n inRange) = .ok (.int n inRange) :=
  Numeral.value_of_int n inRange

theorem spelling_sound (number : Number) : number.spelling.Sound := by
  cases number with
  | float x finite => exact float_spelling_sound x
  | int n inRange =>
      refine ⟨to_digits _, fun zero => ?_, by simp [spelling], by simp [spelling]⟩
      by_cases positive : 0 < n.natAbs
      · exact absurd zero (Decimal.first_digit_of_positive _ positive)
      · have none : n.natAbs = 0 := by omega
        simp [spelling, none]

theorem write_number (number : Number) :
    writeNumber number = signText number.isNegative ++ number.spelling.text := by
  cases number with
  | float x finite => exact write_finite x
  | int n inRange =>
      cases n with
      | ofNat n => simp [writeNumber, writeInt, signText, isNegative, spelling, Spelling.text,
          Spelling.fractionText, Spelling.exponentText]
      | negSucc n => simp [writeNumber, writeInt, signText, isNegative, spelling, Spelling.text,
          Spelling.fractionText, Spelling.exponentText, Int.negSucc_lt_zero]

end Slideshow.Number
