import Slideshow.Proofs.Json.Numeral

set_option autoImplicit false

namespace Slideshow.Json

def NoControls (chars : List Char) : Prop := ∀ c ∈ chars, ¬ c < ' '

@[simp] theorem no_controls_nil : NoControls [] := fun _ member => nomatch member

@[simp] theorem no_controls_cons (c : Char) (chars : List Char) :
    NoControls (c :: chars) ↔ ¬ c < ' ' ∧ NoControls chars :=
  List.forall_mem_cons

@[simp] theorem no_controls_append (left right : List Char) :
    NoControls (left ++ right) ↔ NoControls left ∧ NoControls right :=
  List.forall_mem_append

theorem hex_pair_no_controls (n : Nat) (small : n < 32) : NoControls (hexPair n) := by
  have codes : ∀ d < 16, 32 ≤ (Nat.digitChar d).toNat := by decide
  have shown : ∀ d < 16, ¬ Nat.digitChar d < ' ' := fun d below => Nat.not_lt.mpr (codes d below)
  simp [hexPair, shown _ (show n / 16 < 16 by omega), shown _ (show n % 16 < 16 by omega)]

theorem escape_no_controls (c : Char) : NoControls (escape c) := by
  unfold escape
  by_cases control : c < ' '
  · have pair := hex_pair_no_controls c.toNat control
    simp only [if_pos control]
    repeat' split
    all_goals simp [pair]
  · simp only [if_neg control]
    repeat' split
    all_goals simp [control]

theorem write_text_no_controls (text : String) : NoControls (writeText text) := by
  have escaped : NoControls (text.toList.flatMap escape) := by
    intro c member
    obtain ⟨original, _, within⟩ := List.mem_flatMap.mp member
    exact escape_no_controls original c within
  simp [writeText, escaped]

section Numbers

theorem digits_no_controls (digits : List Char) (digit : ∀ c ∈ digits, c.isDigit = true) :
    NoControls digits := by
  intro c member control
  have shown := digit c member
  simp only [Char.isDigit, Bool.and_eq_true, decide_eq_true_eq] at shown
  have below : c.val < 32 := control
  have above : 48 ≤ c.val := shown.1
  exact absurd (Nat.lt_of_le_of_lt above below) (by decide)

theorem fraction_text_no_controls (fraction : Option (List Char))
    (valid : ∀ digits, fraction = some digits → Spelling.Digits digits) :
    NoControls (Spelling.fractionText fraction) := by
  cases fraction with
  | none => simp [Spelling.fractionText]
  | some digits => simp [Spelling.fractionText, digits_no_controls digits (valid digits rfl).digit]

theorem exponent_text_no_controls (exponent : Option (Bool × List Char))
    (valid : ∀ negative digits, exponent = some (negative, digits) → Spelling.Digits digits) :
    NoControls (Spelling.exponentText {} exponent) := by
  cases exponent with
  | none => simp [Spelling.exponentText]
  | some written =>
      obtain ⟨negative, digits⟩ := written
      have shown := digits_no_controls digits (valid negative digits rfl).digit
      cases negative <;> simp [Spelling.exponentText, shown]

theorem write_number_no_controls (number : Number) : NoControls (writeNumber number) := by
  have sound := number.spelling_sound
  have sign : ∀ negative, NoControls (signText negative) := by
    intro negative
    cases negative <;> simp [signText]
  rw [number.write_number, Spelling.text]
  simp [sign, digits_no_controls _ sound.whole.digit, fraction_text_no_controls _ sound.fraction,
    exponent_text_no_controls _ sound.exponent]

end Numbers

mutual
theorem render_no_controls : (json : Json) → NoControls json.render
  | .null => by simp [render]
  | .bool true => by simp [render]
  | .bool false => by simp [render]
  | .number n => write_number_no_controls n
  | .text s => write_text_no_controls s
  | .list [] => by simp [render]
  | .list (element :: rest) => by
      simp [render, render_no_controls element, render_elements_no_controls rest]
  | .object [] => by simp [render]
  | .object ((name, value) :: rest) => by
      simp [render, write_text_no_controls name, render_no_controls value, render_members_no_controls rest]

theorem render_elements_no_controls : (elements : List Json) → NoControls (renderElements elements)
  | [] => by simp [renderElements]
  | element :: rest => by
      simp [renderElements, render_no_controls element, render_elements_no_controls rest]

theorem render_members_no_controls : (members : List (String × Json)) →
    NoControls (renderMembers members)
  | [] => by simp [renderMembers]
  | (name, value) :: rest => by
      simp [renderMembers, write_text_no_controls name, render_no_controls value,
        render_members_no_controls rest]
end

theorem write_no_controls (json : Json) : NoControls json.write.toList := by
  rw [write, String.toList_ofList]
  exact render_no_controls json

end Slideshow.Json
