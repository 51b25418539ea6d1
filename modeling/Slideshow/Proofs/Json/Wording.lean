import Slideshow.Json.Read
import Slideshow.Proofs.Json.Numeral
import Slideshow.Proofs.Json.Quoted

set_option autoImplicit false

namespace Slideshow.Json

inductive Blank where
  | space
  | tab
  | newline
  | carriage

def Blank.char : Blank → Char
  | .space => ' '
  | .tab => '\t'
  | .newline => '\n'
  | .carriage => '\r'

abbrev Gap := List Blank

def Gap.text (gap : Gap) : List Char := gap.map Blank.char

structure Literal where
  negative : Bool := false
  spelling : Spelling
  sound : spelling.Sound
  marking : Marking := {}

namespace Literal

def text (literal : Literal) : List Char :=
  signText literal.negative ++ literal.spelling.text literal.marking

def numeral (literal : Literal) : Numeral := literal.spelling.numeral literal.negative

end Literal

def quotedText (glyphs : List Glyph) : List Char := '"' :: (glyphsText glyphs ++ ['"'])

structure Label where
  before : Gap := []
  name : List Glyph
  beforeColon : Gap := []
  afterColon : Gap := []

def Label.text (label : Label) : List Char :=
  label.before.text ++
    (quotedText label.name ++ (label.beforeColon.text ++ ':' :: label.afterColon.text))

mutual
inductive Wording where
  | null
  | bool (value : Bool)
  | number (literal : Literal)
  | text (glyphs : List Glyph)
  | emptyList (gap : Gap)
  | list (before : Gap) (first : Wording) (others : FurtherElements)
  | emptyObject (gap : Gap)
  | object (label : Label) (first : Wording) (others : FurtherMembers)

inductive FurtherElements where
  | close (gap : Gap)
  | next (gap before : Gap) (element : Wording) (others : FurtherElements)

inductive FurtherMembers where
  | close (gap : Gap)
  | next (gap : Gap) (label : Label) (value : Wording) (others : FurtherMembers)
end

mutual
def Wording.chars : Wording → List Char
  | .null => ['n', 'u', 'l', 'l']
  | .bool true => ['t', 'r', 'u', 'e']
  | .bool false => ['f', 'a', 'l', 's', 'e']
  | .number literal => literal.text
  | .text glyphs => quotedText glyphs
  | .emptyList gap => '[' :: (gap.text ++ [']'])
  | .list before first others => '[' :: (before.text ++ (first.chars ++ others.chars))
  | .emptyObject gap => '\x7b' :: (gap.text ++ ['\x7d'])
  | .object label first others => '\x7b' :: (label.text ++ (first.chars ++ others.chars))

def FurtherElements.chars : FurtherElements → List Char
  | .close gap => gap.text ++ [']']
  | .next gap before element others =>
      gap.text ++ ',' :: (before.text ++ (element.chars ++ others.chars))

def FurtherMembers.chars : FurtherMembers → List Char
  | .close gap => gap.text ++ ['\x7d']
  | .next gap label value others =>
      gap.text ++ ',' :: (label.text ++ (value.chars ++ others.chars))
end

mutual
def Wording.outline : Wording → Outline
  | .null => .null
  | .bool b => .bool b
  | .number literal => .number literal.numeral.value
  | .text glyphs => .text (.ok (glyphsString glyphs))
  | .emptyList _ => .list .close
  | .list _ first others => .list (.next first.outline others.outline)
  | .emptyObject _ => .object .close
  | .object label first others =>
      .object (.next (.ok (glyphsString label.name)) first.outline others.outline)

def FurtherElements.outline : FurtherElements → Elements
  | .close _ => .close
  | .next _ _ element others => .next element.outline others.outline

def FurtherMembers.outline : FurtherMembers → Members
  | .close _ => .close
  | .next _ label value others =>
      .next (.ok (glyphsString label.name)) value.outline others.outline
end

section Blanks

theorem blank_is_blank (blank : Blank) : Source.isBlank (some blank.char) = true := by
  cases blank <;> rfl

theorem skip_gap (gap : Gap) (source : Source) :
    Source.skipBlanks (gap.text.map some ++ source) = Source.skipBlanks source := by
  induction gap with
  | nil => rfl
  | cons blank gap ih =>
      rw [Gap.text, List.map_cons, List.map_cons, List.cons_append, Source.skipBlanks,
        if_pos (blank_is_blank blank)]
      exact ih

theorem skip_solid (c : Char) (rest : Source) (solid : Source.isBlank (some c) = false) :
    Source.skipBlanks (some c :: rest) = some c :: rest := by
  rw [Source.skipBlanks, solid, if_neg Bool.false_ne_true]

theorem skip_skipped (source : Source) :
    Source.skipBlanks (Source.skipBlanks source) = Source.skipBlanks source := by
  induction source with
  | nil => rfl
  | cons c rest ih =>
      rw [Source.skipBlanks]
      by_cases blank : Source.isBlank c = true
      · rw [if_pos blank]
        exact ih
      · rw [if_neg blank, Source.skipBlanks, if_neg blank]

theorem digit_not_blank (c : Char) (digit : c.isDigit = true) : Source.isBlank (some c) = false := by
  obtain ⟨least, _⟩ := Char.isDigit_iff_toNat.mp digit
  simp only [Source.isBlank, Bool.or_eq_false_iff, decide_eq_false_iff_not]
  refine ⟨⟨⟨?_, ?_⟩, ?_⟩, ?_⟩ <;> rintro rfl <;> simp at digit

theorem value_of_skip (fuel : Nat) (source other : Source)
    (same : Source.skipBlanks source = Source.skipBlanks other) :
    Outline.value fuel source = Outline.value fuel other := by
  cases fuel with
  | zero => rw [Outline.value.eq_def, Outline.value.eq_def]
  | succ fuel =>
      rw [Outline.value.eq_def, Outline.value.eq_def (fuel + 1) other]
      simp only [same]

theorem value_gap (fuel : Nat) (gap : Gap) (source : Source) :
    Outline.value fuel (gap.text.map some ++ source) = Outline.value fuel source :=
  value_of_skip fuel _ _ (skip_gap gap source)

theorem elements_gap (fuel : Nat) (gap : Gap) (source : Source) :
    Outline.elements fuel (gap.text.map some ++ source) = Outline.elements fuel source := by
  cases fuel with
  | zero => rw [Outline.elements.eq_def, Outline.elements.eq_def]
  | succ fuel =>
      rw [Outline.elements.eq_def, Outline.elements.eq_def (fuel + 1) source]
      simp only [skip_gap]

theorem members_gap (fuel : Nat) (gap : Gap) (source : Source) :
    Outline.members fuel (gap.text.map some ++ source) = Outline.members fuel source := by
  cases fuel with
  | zero => rw [Outline.members.eq_def, Outline.members.eq_def]
  | succ fuel =>
      rw [Outline.members.eq_def, Outline.members.eq_def (fuel + 1) source]
      simp only [skip_gap]

end Blanks

section Scalars

variable (fuel : Nat) (rest : Source)

theorem scan_word (letters : List Char) :
    Outline.scanWord (letters.map some ++ rest) letters = .ok rest := by
  induction letters with
  | nil => rw [Outline.scanWord.eq_def]; rfl
  | cons letter letters ih =>
      rw [List.map_cons, List.cons_append, Outline.scanWord.eq_def]
      simp only [if_true, ih]

theorem value_null :
    Outline.value (fuel + 1) ((Wording.chars .null).map some ++ rest) = (.null, rest) := by
  have word : Outline.word ['u', 'l', 'l'] .null (['u', 'l', 'l'].map some ++ rest) = (.null, rest) := by
    rw [Outline.word, scan_word]
  rw [Outline.value.eq_def]
  exact word

theorem value_bool (b : Bool) :
    Outline.value (fuel + 1) ((Wording.chars (.bool b)).map some ++ rest) = (.bool b, rest) := by
  have word : ∀ letters, Outline.word letters (.bool b) (letters.map some ++ rest) = (.bool b, rest) := by
    intro letters
    rw [Outline.word, scan_word]
  rw [Outline.value.eq_def]
  cases b with
  | true => exact word ['r', 'u', 'e']
  | false => exact word ['a', 'l', 's', 'e']

theorem value_quoted (glyphs : List Glyph) :
    Outline.value (fuel + 1) ((quotedText glyphs).map some ++ rest) =
      (.text (.ok (glyphsString glyphs)), rest) := by
  have quoted : Outline.quoted ((glyphsText glyphs ++ ['"']).map some ++ rest) =
      (.text (.ok (glyphsString glyphs)), rest) := by
    unfold Outline.quoted
    rw [pieces_glyphs]
    simp only [TextEnd.rest, content_glyphs]
  rw [Outline.value.eq_def]
  simp only [quotedText, List.map_cons, List.cons_append, skip_solid '"' _ rfl]
  simpa using quoted

theorem value_digit (c : Char) (digit : c.isDigit = true) :
    Outline.value (fuel + 1) (some c :: rest) = Outline.numeral false (some c :: rest) := by
  have noLetter : c ≠ 'n' ∧ c ≠ 't' ∧ c ≠ 'f' ∧ c ≠ '-' := by
    refine ⟨?_, ?_, ?_, ?_⟩ <;> rintro rfl <;> cases digit
  rw [Outline.value.eq_def]
  simp only [skip_solid c rest (digit_not_blank c digit), noLetter, digit, if_true, if_false]

theorem value_minus : Outline.value (fuel + 1) (some '-' :: rest) = Outline.numeral true rest := by
  rw [Outline.value.eq_def]
  simp only [skip_solid '-' _ rfl]
  rfl

theorem spelling_first (spelling : Spelling) (sound : spelling.Sound) (marking : Marking) :
    ∃ c tail, spelling.text marking = c :: tail ∧ c.isDigit = true := by
  cases whole : spelling.whole with
  | nil => exact absurd whole sound.whole.ne_nil
  | cons c digits =>
      refine ⟨c, digits ++ _, by rw [Spelling.text, whole, List.cons_append], ?_⟩
      exact sound.whole.digit c (whole ▸ List.mem_cons_self)

theorem value_number (literal : Literal) (ends : rest.EndsNumeral) :
    Outline.value (fuel + 1) (literal.text.map some ++ rest) = (.number literal.numeral.value, rest) := by
  obtain ⟨negative, spelling, sound, marking⟩ := literal
  have scanned := Numeral.scan_spelling negative spelling marking rest sound ends
  have read : Outline.numeral negative ((spelling.text marking).map some ++ rest) =
      (.number (spelling.numeral negative).value, rest) := by
    unfold Outline.numeral
    rw [scanned]
  cases negative with
  | true => exact (value_minus fuel _).trans read
  | false =>
      obtain ⟨c, tail, text, digit⟩ := spelling_first spelling sound marking
      rw [text] at read
      simp only [Literal.text, signText, Bool.false_eq_true, if_false, List.nil_append, text]
      exact (value_digit fuel _ c digit).trans read

end Scalars

theorem wording_first (wording : Wording) :
    ∃ c tail, wording.chars = c :: tail ∧ c ≠ ']' ∧ Source.isBlank (some c) = false := by
  cases wording with
  | null => exact ⟨'n', _, rfl, by decide, rfl⟩
  | bool b => cases b <;> exact ⟨_, _, rfl, by decide, rfl⟩
  | text glyphs => exact ⟨'"', _, rfl, by decide, rfl⟩
  | emptyList gap | list before first others => exact ⟨'[', _, rfl, by decide, rfl⟩
  | emptyObject gap | object label first others => exact ⟨'\x7b', _, rfl, by decide, rfl⟩
  | number literal =>
      obtain ⟨negative, spelling, sound, marking⟩ := literal
      obtain ⟨c, tail, text, digit⟩ := spelling_first spelling sound marking
      cases negative with
      | true => exact ⟨'-', _, rfl, by decide, rfl⟩
      | false => exact ⟨c, tail, text, (by rintro rfl; cases digit), digit_not_blank c digit⟩

theorem ends_numeral (gap : Gap) (c : Char) (rest : Source) (stops : c = ',' ∨ c = ']' ∨ c = '\x7d') :
    Source.EndsNumeral (gap.text.map some ++ some c :: rest) := by
  cases gap with
  | nil => rcases stops with rfl | rfl | rfl <;> exact ⟨rfl, by decide, by decide, by decide⟩
  | cons blank gap => cases blank <;> exact ⟨rfl, by decide, by decide, by decide⟩

theorem elements_end_numeral (others : FurtherElements) (rest : Source) :
    Source.EndsNumeral (others.chars.map some ++ rest) := by
  cases others with
  | close gap => simpa [FurtherElements.chars] using ends_numeral gap ']' rest (by simp)
  | next gap before element others =>
      simpa [FurtherElements.chars] using ends_numeral gap ',' _ (by simp)

theorem members_end_numeral (others : FurtherMembers) (rest : Source) :
    Source.EndsNumeral (others.chars.map some ++ rest) := by
  cases others with
  | close gap => simpa [FurtherMembers.chars] using ends_numeral gap '\x7d' rest (by simp)
  | next gap label value others =>
      simpa [FurtherMembers.chars] using ends_numeral gap ',' _ (by simp)

section Steps

variable (fuel : Nat) (source after rest : Source)

theorem skip_wording (gap : Gap) (wording : Wording) :
    ∃ c tail, Source.skipBlanks (gap.text.map some ++ (wording.chars.map some ++ rest)) = some c :: tail ∧
      c ≠ ']' := by
  obtain ⟨c, tail, text, notClose, solid⟩ := wording_first wording
  refine ⟨c, tail.map some ++ rest, ?_, notClose⟩
  rw [skip_gap, text]
  exact skip_solid c _ solid

theorem list_step (element : Outline) (others : Elements)
    (begins : ∃ c tail, Source.skipBlanks source = some c :: tail ∧ c ≠ ']')
    (first : Outline.value fuel source = (element, after))
    (later : Outline.elements fuel after = (others, rest)) :
    Outline.value (fuel + 1) (some '[' :: source) = (.list (.next element others), rest) := by
  obtain ⟨c, tail, begins, notClose⟩ := begins
  have skipped := value_of_skip fuel (some c :: tail) source (by rw [← begins, skip_skipped])
  rw [Outline.value.eq_def]
  simp only [skip_solid '[' _ rfl, begins]
  simp [notClose, skipped, first, later]

theorem elements_step (element : Outline) (others : Elements)
    (begins : ∃ c tail, Source.skipBlanks source = some c :: tail ∧ c ≠ ']')
    (first : Outline.value fuel source = (element, after))
    (later : Outline.elements fuel after = (others, rest)) :
    Outline.elements (fuel + 1) (some ',' :: source) = (.next element others, rest) := by
  obtain ⟨c, tail, begins, notClose⟩ := begins
  rw [Outline.elements.eq_def]
  simp only [skip_solid ',' _ rfl, begins]
  simp [notClose, first, later]

theorem object_step (members : Members) (inside : Source)
    (begins : Source.skipBlanks source = some '"' :: inside)
    (first : Outline.member fuel inside = (members, rest)) :
    Outline.value (fuel + 1) (some '\x7b' :: source) = (.object members, rest) := by
  rw [Outline.value.eq_def]
  simp only [skip_solid '\x7b' _ rfl, begins]
  simp [first]

theorem members_step (inside : Source) (begins : Source.skipBlanks source = some '"' :: inside) :
    Outline.members (fuel + 1) (some ',' :: source) = Outline.member fuel inside := by
  rw [Outline.members.eq_def]
  simp only [skip_solid ',' _ rfl, begins]
  simp

theorem member_step (glyphs : List Glyph) (gap : Gap) (value : Outline) (members : Members)
    (first : Outline.value fuel source = (value, after))
    (later : Outline.members fuel after = (members, rest)) :
    Outline.member (fuel + 1)
        ((glyphsText glyphs ++ ['"']).map some ++ (gap.text.map some ++ some ':' :: source)) =
      (.next (.ok (glyphsString glyphs)) value members, rest) := by
  have colon : Outline.scanColon (gap.text.map some ++ some ':' :: source) = .ok source := by
    rw [Outline.scanColon, skip_gap, skip_solid ':' _ rfl]
    rfl
  rw [Outline.member.eq_def]
  simp only [pieces_glyphs, TextEnd.rest, content_glyphs, colon, first, later]

end Steps

theorem label_chars (label : Label) (source : Source) :
    label.text.map some ++ source = label.before.text.map some ++ some '"' ::
      ((glyphsText label.name ++ ['"']).map some ++
        (label.beforeColon.text.map some ++ some ':' :: (label.afterColon.text.map some ++ source))) := by
  simp [Label.text, quotedText]

theorem skip_label (label : Label) (source : Source) :
    Source.skipBlanks (label.text.map some ++ source) = some '"' ::
      ((glyphsText label.name ++ ['"']).map some ++
        (label.beforeColon.text.map some ++ some ':' :: (label.afterColon.text.map some ++ source))) := by
  rw [label_chars, skip_gap, skip_solid '"' _ rfl]

mutual
theorem value_worded : (wording : Wording) → (fuel : Nat) → (rest : Source) →
    wording.chars.length ≤ fuel → rest.EndsNumeral →
    Outline.value fuel (wording.chars.map some ++ rest) = (wording.outline, rest)
  | wording, 0, rest, enough, ends => by
      obtain ⟨c, tail, text, _⟩ := wording_first wording
      simp [text] at enough
  | .null, fuel + 1, rest, enough, ends => value_null fuel rest
  | .bool b, fuel + 1, rest, enough, ends => value_bool fuel rest b
  | .number literal, fuel + 1, rest, enough, ends => value_number fuel rest literal ends
  | .text glyphs, fuel + 1, rest, enough, ends => value_quoted fuel rest glyphs
  | .emptyList gap, fuel + 1, rest, enough, ends => by
      have close : Source.skipBlanks (gap.text.map some ++ some ']' :: rest) = some ']' :: rest := by
        rw [skip_gap, skip_solid ']' _ rfl]
      rw [Outline.value.eq_def]
      simp [Wording.chars, Wording.outline, skip_solid '[' _ rfl, close]
  | .list before first others, fuel + 1, rest, enough, ends => by
      simp only [Wording.chars, List.length_cons, List.length_append] at enough
      have element := value_worded first fuel (others.chars.map some ++ rest) (by omega)
        (elements_end_numeral others rest)
      have later := elements_worded others fuel rest (by omega)
      have read := list_step fuel _ _ rest _ _ (skip_wording (others.chars.map some ++ rest) before first)
        ((value_gap fuel before _).trans element) later
      simpa [Wording.chars, Wording.outline] using read
  | .emptyObject gap, fuel + 1, rest, enough, ends => by
      have close : Source.skipBlanks (gap.text.map some ++ some '\x7d' :: rest) = some '\x7d' :: rest := by
        rw [skip_gap, skip_solid '\x7d' _ rfl]
      rw [Outline.value.eq_def]
      simp [Wording.chars, Wording.outline, skip_solid '\x7b' _ rfl, close]
  -- The brace and the quote of the first name take a step each before there is a value to read.
  | .object label first others, 1, rest, enough, ends => by
      simp [Wording.chars, Label.text, quotedText] at enough
  | .object label first others, fuel + 2, rest, enough, ends => by
      simp only [Wording.chars, Label.text, quotedText, List.length_cons, List.length_append] at enough
      have value := value_worded first fuel (others.chars.map some ++ rest) (by omega)
        (members_end_numeral others rest)
      have later := members_worded others fuel rest (by omega)
      have member := member_step fuel _ _ rest label.name label.beforeColon _ _
        ((value_gap fuel label.afterColon _).trans value) later
      have read := object_step (fuel + 1) _ rest _ _ (skip_label label _) member
      simpa [Wording.chars, Wording.outline] using read

theorem elements_worded : (others : FurtherElements) → (fuel : Nat) → (rest : Source) →
    others.chars.length ≤ fuel →
    Outline.elements fuel (others.chars.map some ++ rest) = (others.outline, rest)
  | others, 0, rest, enough => by
      cases others <;> simp [FurtherElements.chars] at enough
  | .close gap, fuel + 1, rest, enough => by
      have read := elements_gap (fuel + 1) gap (some ']' :: rest)
      rw [Outline.elements.eq_def (fuel + 1) (some ']' :: rest)] at read
      simpa [FurtherElements.chars, FurtherElements.outline, skip_solid ']' _ rfl] using read
  | .next gap before element others, fuel + 1, rest, enough => by
      simp only [FurtherElements.chars, List.length_cons, List.length_append] at enough
      have first := value_worded element fuel (others.chars.map some ++ rest) (by omega)
        (elements_end_numeral others rest)
      have later := elements_worded others fuel rest (by omega)
      have read := elements_step fuel _ _ rest _ _ (skip_wording (others.chars.map some ++ rest) before element)
        ((value_gap fuel before _).trans first) later
      have skipped := (elements_gap (fuel + 1) gap _).trans read
      simpa [FurtherElements.chars, FurtherElements.outline] using skipped

theorem members_worded : (others : FurtherMembers) → (fuel : Nat) → (rest : Source) →
    others.chars.length ≤ fuel →
    Outline.members fuel (others.chars.map some ++ rest) = (others.outline, rest)
  | others, 0, rest, enough => by
      cases others <;> simp [FurtherMembers.chars] at enough
  | .close gap, fuel + 1, rest, enough => by
      have read := members_gap (fuel + 1) gap (some '\x7d' :: rest)
      rw [Outline.members.eq_def (fuel + 1) (some '\x7d' :: rest)] at read
      simpa [FurtherMembers.chars, FurtherMembers.outline, skip_solid '\x7d' _ rfl] using read
  | .next gap label value others, 1, rest, enough => by
      simp [FurtherMembers.chars, Label.text, quotedText] at enough
      omega
  | .next gap label value others, fuel + 2, rest, enough => by
      simp only [FurtherMembers.chars, Label.text, quotedText, List.length_cons, List.length_append] at enough
      have first := value_worded value fuel (others.chars.map some ++ rest) (by omega)
        (members_end_numeral others rest)
      have later := members_worded others fuel rest (by omega)
      have member := member_step fuel _ _ rest label.name label.beforeColon _ _
        ((value_gap fuel label.afterColon _).trans first) later
      have read := (members_step (fuel + 1) _ _ (skip_label label _)).trans member
      have skipped := (members_gap (fuel + 2) gap _).trans read
      simpa [FurtherMembers.chars, FurtherMembers.outline] using skipped
end

def textOf (before : Gap) (wording : Wording) (after : Gap) : String :=
  String.ofList (before.text ++ (wording.chars ++ after.text))

theorem gap_ends_numeral (gap : Gap) : Source.EndsNumeral (gap.text.map some) := by
  cases gap with
  | nil => trivial
  | cons blank gap => cases blank <;> exact ⟨rfl, by decide, by decide, by decide⟩

-- Each step of fuel is paid for by a character, and the source is twice as long as it has to be.
theorem outline_worded (before : Gap) (wording : Wording) (after : Gap) :
    Outline.ofSource (Source.ofString (textOf before wording after)) =
      (wording.outline, after.text.map some) := by
  have source : Source.ofString (textOf before wording after) =
      before.text.map some ++ (wording.chars.map some ++ after.text.map some) := by
    simp [Source.ofString, textOf]
  rw [source, Outline.ofSource, value_gap]
  exact value_worded wording _ _ (by simp; omega) (gap_ends_numeral after)

theorem read_whole_worded {α : Type} (read : Nat → Outline → Except ReadError α) (before : Gap)
    (wording : Wording) (after : Gap) :
    readWhole read (Source.ofString (textOf before wording after)) = read levelLimit wording.outline := by
  have blank : Source.skipBlanks (after.text.map some) = [] := by
    simpa [Source.skipBlanks] using skip_gap after []
  rw [readWhole, outline_worded]
  simp only [blank, List.isEmpty_nil, if_true]
  cases read levelLimit wording.outline <;> rfl

end Slideshow.Json
