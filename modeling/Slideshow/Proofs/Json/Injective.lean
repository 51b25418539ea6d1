import Slideshow.Proofs.Decimal.Apart
import Slideshow.Proofs.Json.Reread

set_option autoImplicit false

namespace Slideshow.Json

namespace Numeral

def digitsNumber (digits : List Nat) : Nat :=
  digits.foldl (fun n digit => 10 * n + digit) 0

def exponentNumber : Option (Bool × List Nat) → Int
  | none => 0
  | some (negative, digits) => if negative then -(digitsNumber digits : Int) else digitsNumber digits

def amount (numeral : Numeral) : ℚ :=
  digitsNumber (numeral.whole ++ numeral.fraction) *
    10 ^ (exponentNumber numeral.exponent - numeral.fraction.length)

theorem digits_number (digits : List Char) :
    digitsNumber (digitValues digits) = Nat.ofDigitChars 10 digits 0 := by
  rw [digitsNumber, digitValues, List.foldl_map, Nat.ofDigitChars_eq_foldl]

theorem exponent_number (n : Int) :
    exponentNumber (some (decide (n < 0), digitValues (Nat.toDigits 10 n.natAbs))) = n := by
  have digits : digitsNumber (digitValues (Nat.toDigits 10 n.natAbs)) = n.natAbs := by
    rw [digits_number, Nat.ofDigitChars_toDigits (by decide) (by decide)]
  simp only [exponentNumber, digits, decide_eq_true_eq]
  split <;> omega

theorem amount_of_spelling (spelling : Spelling) (negative : Bool) :
    (spelling.numeral negative).amount =
      Nat.ofDigitChars 10 (spelling.whole ++ spelling.fraction.getD []) 0 *
        10 ^ (exponentNumber (spelling.numeral negative).exponent -
          ((spelling.fraction.getD []).length : Int)) := by
  rw [amount, ← digits_number]
  simp [Spelling.numeral, digitValues]

theorem zeros_before (count : Nat) (digits : List Char) :
    Nat.ofDigitChars 10 (Decimal.zeros count ++ digits) 0 = Nat.ofDigitChars 10 digits 0 := by
  rw [Nat.ofDigitChars_append, Decimal.zeros, Decimal.zeros_shift, Nat.zero_mul]

theorem zeros_after (count : Nat) (digits : List Char) :
    Nat.ofDigitChars 10 (digits ++ Decimal.zeros count) 0 = Nat.ofDigitChars 10 digits 0 * 10 ^ count := by
  rw [Nat.ofDigitChars_append, Decimal.zeros, Decimal.zeros_shift]

theorem amount_of_digits (d : Decimal.Digits) (present : d.digits ≠ []) (negative : Bool) :
    ((spellingOf d).numeral negative).amount = d.value := by
  have someDigit : 0 < d.digits.length := List.length_pos_iff.mpr present
  rw [amount_of_spelling, Decimal.Digits.value]
  unfold spellingOf
  split
  · split
    · have whole : ['0'] ++ (Decimal.zeros (-d.point).toNat ++ d.digits) =
          Decimal.zeros ((-d.point).toNat + 1) ++ d.digits := rfl
      have shift : (0 : Int) - (Decimal.zeros (-d.point).toNat ++ d.digits).length =
          d.point - d.digits.length := by
        rw [List.length_append, Decimal.zeros, List.length_replicate]
        omega
      simp only [Option.getD_some, whole, zeros_before]
      exact congrArg _ (congrArg _ shift)
    · split
      · rename_i positive long
        have whole : d.digits ++ Decimal.zeros (d.point.toNat - d.digits.length) ++ ['0'] =
            d.digits ++ Decimal.zeros (d.point.toNat - d.digits.length + 1) := by
          rw [List.append_assoc, Decimal.zeros, Decimal.zeros, List.replicate_succ']
        have shift : d.point - d.digits.length =
            ((d.point.toNat - d.digits.length + 1 : Nat) : Int) + (0 - 1) := by omega
        simp only [Option.getD_some, whole, zeros_after]
        rw [shift, zpow_add₀ (by norm_num), zpow_natCast]
        push_cast
        rw [mul_assoc]
        rfl
      · have shift : (0 : Int) - (d.digits.drop d.point.toNat).length = d.point - d.digits.length := by
          rw [List.length_drop]
          omega
        simp only [Option.getD_some, List.take_append_drop]
        exact congrArg _ (congrArg _ shift)
  · have rest : (if d.digits.drop 1 = [] then none else some (d.digits.drop 1)).getD [] = d.digits.drop 1 := by
      split <;> simp_all
    have shift : d.point - 1 - (d.digits.drop 1).length = d.point - d.digits.length := by
      rw [List.length_drop]
      omega
    have exponent := exponent_number (d.point - 1)
    simp only [rest, List.take_append_drop]
    rw [← shift]
    exact congrArg _ (congrArg _ (congrArg (· - _) exponent))

end Numeral

theorem amount_of_zero (x : Float) (zero : Decimal.isZero x = true) (negative : Bool) :
    ((floatSpelling x).numeral negative).amount = 0 := by
  rw [floatSpelling, if_pos zero, Numeral.amount_of_spelling]
  norm_num [Nat.ofDigitChars]

theorem amount_of_float (x : Float) (nonzero : Decimal.isZero x = false) (negative : Bool) :
    ((floatSpelling x).numeral negative).amount = (Decimal.shortest floatLayout.ties x).value := by
  have present := (Decimal.shortest_leading floatLayout.ties x nonzero).ne_nil
  rw [floatSpelling, if_neg (by simp [nonzero]), Numeral.amount_of_digits _ present]

theorem unsigned_of_zero (x : Float) (zero : Decimal.isZero x = true) : Decimal.unsignedBits x = 0 := by
  have fraction := Decimal.fraction_of_unsigned x
  have exponent := Decimal.exponent_of_unsigned x
  simp only [Decimal.isZero, Bool.and_eq_true, decide_eq_true_eq] at zero
  omega

theorem numeral_of_float_injective (x y : Float)
    (same : (floatSpelling x).numeral (Decimal.isNegative x) =
      (floatSpelling y).numeral (Decimal.isNegative y)) : x = y := by
  have sign : Decimal.isNegative x = Decimal.isNegative y := congrArg Numeral.negative same
  have amounts := congrArg Numeral.amount same
  have positive := fun z nonzero => Decimal.shortest_positive floatLayout.ties z nonzero
  apply Decimal.float_of_bits x y sign
  cases left : Decimal.isZero x with
  | true =>
      cases right : Decimal.isZero y with
      | true => rw [unsigned_of_zero x left, unsigned_of_zero y right]
      | false =>
          rw [amount_of_zero x left, amount_of_float y right] at amounts
          exact absurd amounts (ne_of_lt (positive y right))
  | false =>
      rw [amount_of_float x left] at amounts
      have held := Decimal.shortest_holds floatLayout.ties x left
      cases right : Decimal.isZero y with
      | true =>
          rw [amount_of_zero y right] at amounts
          exact absurd amounts (ne_of_gt (positive x left))
      | false =>
          rw [amount_of_float y right] at amounts
          rw [amounts] at held
          exact Decimal.bits_of_held x y _ held (Decimal.shortest_holds floatLayout.ties y right)

end Slideshow.Json

namespace Slideshow.Number

open Json

theorem integer_numeral (m : Int) (inRange : -0x8000000000000000 ≤ m ∧ m < 0x10000000000000000) (n : Number)
    (same : (int m inRange).reread = n.reread) : int m inRange = n := by
  rw [reread_int] at same
  cases n with
  | int n inRangeToo =>
      rw [reread_int] at same
      exact Except.ok.inj same
  | float y finite =>
      obtain ⟨z, finiteToo, impossible⟩ := reread_float y finite _ same.symm
      cases impossible

theorem numeral_injective (m n : Number)
    (same : m.spelling.numeral m.isNegative = n.spelling.numeral n.isNegative) : m = n := by
  have reread : m.reread = n.reread := congrArg Numeral.value same
  cases m with
  | int m inRange => exact integer_numeral m inRange n reread
  | float x finite =>
      cases n with
      | int n inRange => exact (integer_numeral n inRange _ reread.symm).symm
      | float y finiteToo =>
          obtain rfl := numeral_of_float_injective x y same
          rfl

theorem first_of_number (number : Number) (rest : List Char) :
    (writeNumber number ++ rest).head? = some '-' ↔ number.isNegative = true := by
  rw [write_number]
  cases number.isNegative with
  | true => simp [signText]
  | false =>
      obtain ⟨c, tail, text, digit⟩ := spelling_first number.spelling number.spelling_sound {}
      simp only [signText, text, Bool.false_eq_true, if_false, List.nil_append, List.cons_append,
        List.head?_cons, Option.some.injEq, iff_false]
      rintro rfl
      cases digit

theorem write_number_injective (m n : Number) (same : writeNumber m = writeNumber n) : m = n := by
  have sign : m.isNegative = n.isNegative := by
    rw [Bool.eq_iff_iff, ← first_of_number m [], ← first_of_number n [], same]
  rw [write_number, write_number, sign, List.append_cancel_left_eq] at same
  have left := Numeral.scan_spelling n.isNegative m.spelling {} [] m.spelling_sound trivial
  have right := Numeral.scan_spelling n.isNegative n.spelling {} [] n.spelling_sound trivial
  rw [same, right] at left
  apply numeral_injective
  rw [sign]
  exact (Prod.mk.inj (Except.ok.inj left)).1.symm

end Slideshow.Number

namespace Slideshow.Json

def Ends (rest : List Char) : Prop := Source.EndsNumeral (rest.map some)

theorem render_split (a b : Json) (rest others : List Char) (ends : Ends rest) (endsToo : Ends others)
    (same : a.render ++ rest = b.render ++ others) :
    a.outline = b.outline ∧ a.render = b.render ∧ rest = others := by
  have left := value_written a (a.render.length + b.render.length) (rest.map some) (by omega) ends
  have right := value_written b (a.render.length + b.render.length) (others.map some) (by omega) endsToo
  rw [← List.map_append, same, List.map_append, right] at left
  obtain ⟨outlines, rests⟩ := Prod.mk.inj left
  have rests : others = rest := List.map_injective_iff.mpr (Option.some_injective _) rests
  subst rests
  exact ⟨outlines.symm, List.append_cancel_right same, rfl⟩

theorem text_split (s t : String) (rest others : List Char) (same : writeText s ++ rest = writeText t ++ others) :
    s = t ∧ rest = others := by
  have left := text_written s 0 (rest.map some)
  have right := text_written t 0 (others.map some)
  rw [← List.map_append, same, List.map_append, right] at left
  obtain ⟨texts, rests⟩ := Prod.mk.inj left
  cases texts
  exact ⟨rfl, (List.map_injective_iff.mpr (Option.some_injective _) rests).symm⟩

theorem elements_end (elements : List Json) : Ends (renderElements elements) := by
  rw [Ends, ← wording_elements_chars]
  simpa using elements_end_numeral (wordingElements elements) []

theorem members_end (members : List (String × Json)) : Ends (renderMembers members) := by
  rw [Ends, ← wording_members_chars]
  simpa using members_end_numeral (wordingMembers members) []

theorem outline_of_render (a b : Json) (same : a.render = b.render) : a.outline = b.outline :=
  (render_split a b [] [] trivial trivial (by rw [same])).1

mutual
theorem render_injective : (a b : Json) → a.render = b.render → a = b
  | .null, b, same => by
      have outlines := outline_of_render _ b same
      cases b <;> first | rfl | cases outlines
  | .bool p, b, same => by
      have outlines := outline_of_render _ b same
      cases b <;> cases outlines
      rfl
  | .text s, b, same => by
      have outlines := outline_of_render _ b same
      cases b <;> cases outlines
      rfl
  | .number m, b, same => by
      have outlines := outline_of_render _ b same
      cases b with
      | number n => exact congrArg Json.number (Number.write_number_injective m n same)
      | _ => cases outlines
  | .list [], b, same => by
      have outlines := outline_of_render _ b same
      cases b with
      | list bs => cases bs <;> first | rfl | cases outlines
      | _ => cases outlines
  | .list (element :: rest), b, same => by
      have outlines := outline_of_render _ b same
      cases b with
      | list bs =>
          cases bs with
          | nil => cases outlines
          | cons other others =>
              obtain ⟨_, first, later⟩ := render_split element other _ _ (elements_end rest)
                (elements_end others) (List.cons.inj same).2
              rw [render_injective element other first, elements_injective rest others later]
      | _ => cases outlines
  | .object [], b, same => by
      have outlines := outline_of_render _ b same
      cases b with
      | object bs => cases bs <;> first | rfl | cases outlines
      | _ => cases outlines
  | .object ((name, value) :: rest), b, same => by
      have outlines := outline_of_render _ b same
      cases b with
      | object bs =>
          cases bs with
          | nil => cases outlines
          | cons other others =>
              obtain ⟨rfl, inside⟩ := text_split name other.1 _ _ (List.cons.inj same).2
              obtain ⟨_, first, later⟩ := render_split value other.2 _ _ (members_end rest)
                (members_end others) (List.cons.inj inside).2
              rw [render_injective value other.2 first, members_injective rest others later]
      | _ => cases outlines

theorem elements_injective : (as bs : List Json) → renderElements as = renderElements bs → as = bs
  | [], [], same => rfl
  | [], b :: bs, same => nomatch (List.cons.inj same).1
  | a :: as, [], same => nomatch (List.cons.inj same).1
  | a :: as, b :: bs, same => by
      obtain ⟨_, first, later⟩ := render_split a b _ _ (elements_end as) (elements_end bs)
        (List.cons.inj same).2
      rw [render_injective a b first, elements_injective as bs later]

theorem members_injective : (as bs : List (String × Json)) → renderMembers as = renderMembers bs → as = bs
  | [], [], same => rfl
  | [], (name, value) :: bs, same => nomatch (List.cons.inj same).1
  | (name, value) :: as, [], same => nomatch (List.cons.inj same).1
  | (name, value) :: as, (other, b) :: bs, same => by
      obtain ⟨rfl, inside⟩ := text_split name other _ _ (List.cons.inj same).2
      obtain ⟨_, first, later⟩ := render_split value b _ _ (members_end as) (members_end bs)
        (List.cons.inj inside).2
      rw [render_injective value b first, members_injective as bs later]
end

theorem write_injective (a b : Json) : a.write = b.write ↔ a = b := by
  refine ⟨fun same => render_injective a b ?_, fun same => same ▸ rfl⟩
  exact String.ofList_injective same

end Slideshow.Json
