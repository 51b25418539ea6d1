import Slideshow.Proofs.Json.Wording

set_option autoImplicit false

namespace Slideshow.Json

mutual
def outline : Json → Outline
  | .null => .null
  | .bool b => .bool b
  | .number n => .number n.reread
  | .text s => .text (.ok s)
  | .list elements => .list (outlineElements elements)
  | .object members => .object (outlineMembers members)

def outlineElements : List Json → Elements
  | [] => .close
  | element :: rest => .next element.outline (outlineElements rest)

def outlineMembers : List (String × Json) → Members
  | [] => .close
  | (name, value) :: rest => .next (.ok name) value.outline (outlineMembers rest)
end

def labelOf (name : String) : Label := { name := glyphsOf name }

mutual
def wording : Json → Wording
  | .null => .null
  | .bool b => .bool b
  | .number n => .number { negative := n.isNegative, spelling := n.spelling, sound := n.spelling_sound }
  | .text s => .text (glyphsOf s)
  | .list [] => .emptyList []
  | .list (element :: rest) => .list [] element.wording (wordingElements rest)
  | .object [] => .emptyObject []
  | .object ((name, value) :: rest) => .object (labelOf name) value.wording (wordingMembers rest)

def wordingElements : List Json → FurtherElements
  | [] => .close []
  | element :: rest => .next [] [] element.wording (wordingElements rest)

def wordingMembers : List (String × Json) → FurtherMembers
  | [] => .close []
  | (name, value) :: rest => .next [] (labelOf name) value.wording (wordingMembers rest)
end

theorem quoted_text_of (text : String) : quotedText (glyphsOf text) = writeText text := by
  rw [quotedText, glyphs_text_of, writeText]

theorem label_text_of (name : String) : (labelOf name).text = writeText name ++ [':'] := by
  rw [Label.text, labelOf, quoted_text_of]
  rfl

mutual
theorem wording_chars : (json : Json) → json.wording.chars = json.render
  | .null => rfl
  | .bool b => by cases b <;> rfl
  | .number n => (Number.write_number n).symm
  | .text s => quoted_text_of s
  | .list [] => rfl
  | .list (element :: rest) => by
      have first := wording_chars element
      have later := wording_elements_chars rest
      simp [wording, Wording.chars, render, Gap.text, first, later]
  | .object [] => rfl
  | .object ((name, value) :: rest) => by
      have first := wording_chars value
      have later := wording_members_chars rest
      simp [wording, Wording.chars, render, label_text_of, first, later]

theorem wording_elements_chars : (elements : List Json) →
    (wordingElements elements).chars = renderElements elements
  | [] => rfl
  | element :: rest => by
      have first := wording_chars element
      have later := wording_elements_chars rest
      simp [wordingElements, FurtherElements.chars, renderElements, Gap.text, first, later]

theorem wording_members_chars : (members : List (String × Json)) →
    (wordingMembers members).chars = renderMembers members
  | [] => rfl
  | (name, value) :: rest => by
      have first := wording_chars value
      have later := wording_members_chars rest
      simp [wordingMembers, FurtherMembers.chars, renderMembers, Gap.text, label_text_of, first, later]
end

mutual
theorem wording_outline : (json : Json) → json.wording.outline = json.outline
  | .null | .bool _ | .number _ | .list [] | .object [] => rfl
  | .text s => by rw [wording, Wording.outline, glyphs_string_of, outline]
  | .list (element :: rest) => by
      rw [wording, Wording.outline, wording_outline element, wording_elements_outline rest, outline,
        outlineElements]
  | .object ((name, value) :: rest) => by
      rw [wording, Wording.outline, wording_outline value, wording_members_outline rest, labelOf,
        glyphs_string_of, outline, outlineMembers]

theorem wording_elements_outline : (elements : List Json) →
    (wordingElements elements).outline = outlineElements elements
  | [] => rfl
  | element :: rest => by
      rw [wordingElements, FurtherElements.outline, wording_outline element,
        wording_elements_outline rest, outlineElements]

theorem wording_members_outline : (members : List (String × Json)) →
    (wordingMembers members).outline = outlineMembers members
  | [] => rfl
  | (name, value) :: rest => by
      rw [wordingMembers, FurtherMembers.outline, wording_outline value, wording_members_outline rest,
        labelOf, glyphs_string_of, outlineMembers]
end

theorem value_written (json : Json) (fuel : Nat) (rest : Source) (enough : json.render.length ≤ fuel)
    (ends : rest.EndsNumeral) :
    Outline.value fuel (json.render.map some ++ rest) = (json.outline, rest) := by
  rw [← wording_chars] at enough ⊢
  rw [← wording_outline]
  exact value_worded json.wording fuel rest enough ends

theorem text_written (text : String) (fuel : Nat) (rest : Source) :
    Outline.value (fuel + 1) ((writeText text).map some ++ rest) = (.text (.ok text), rest) := by
  have read := value_quoted fuel rest (glyphsOf text)
  rwa [quoted_text_of, glyphs_string_of] at read

theorem written_text (json : Json) : textOf [] json.wording [] = json.write := by
  rw [textOf, wording_chars, write]
  simp [Gap.text]

theorem outline_written (json : Json) :
    Outline.ofSource (Source.ofString json.write) = (json.outline, []) := by
  rw [← written_text, outline_worded, wording_outline]
  rfl

theorem read_whole_written {α : Type} (read : Nat → Outline → Except ReadError α) (json : Json) :
    readWhole read (Source.ofString json.write) = read levelLimit json.outline := by
  rw [← written_text, read_whole_worded, wording_outline]

end Slideshow.Json
