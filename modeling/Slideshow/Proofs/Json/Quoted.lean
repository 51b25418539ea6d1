import Slideshow.Json.Quoted
import Slideshow.Json.Write

set_option autoImplicit false

namespace Slideshow.Json

inductive Mark where
  | quote
  | backslash
  | slash
  | backspace
  | feed
  | newline
  | carriage
  | tab

def Mark.char : Mark → Char
  | .quote => '"'
  | .backslash => '\\'
  | .slash => '/'
  | .backspace => 'b'
  | .feed => 'f'
  | .newline => 'n'
  | .carriage => 'r'
  | .tab => 't'

def Mark.means : Mark → Char
  | .quote => '"'
  | .backslash => '\\'
  | .slash => '/'
  | .backspace => '\x08'
  | .feed => '\x0c'
  | .newline => '\n'
  | .carriage => '\r'
  | .tab => '\t'

structure HexDigit where
  value : Fin 16
  capital : Bool := false

def HexDigit.char (digit : HexDigit) : Char :=
  if digit.capital then (Nat.digitChar digit.value).toUpper else Nat.digitChar digit.value

structure HexCode where
  first : HexDigit
  second : HexDigit
  third : HexDigit
  fourth : HexDigit

namespace HexCode

def number (code : HexCode) : Nat :=
  ((code.first.value * 16 + code.second.value) * 16 + code.third.value) * 16 + code.fourth.value

def text (code : HexCode) : List Char :=
  ['\\', 'u', code.first.char, code.second.char, code.third.char, code.fourth.char]

end HexCode

-- A character as it stands between quotes: itself, escaped by a mark or by its code, or, beyond
-- the first plane, by the codes of two surrogates.
inductive Glyph where
  | plain (c : Char) (free : c ≠ '"' ∧ c ≠ '\\' ∧ ¬ c < ' ')
  | escaped (mark : Mark)
  | coded (code : HexCode) (single : isLeading code.number = false ∧ isTrailing code.number = false)
  | paired (high low : HexCode) (surrogates : isLeading high.number = true ∧ isTrailing low.number = true)

namespace Glyph

def text : Glyph → List Char
  | .plain c _ => [c]
  | .escaped mark => ['\\', mark.char]
  | .coded code _ => code.text
  | .paired high low _ => high.text ++ low.text

def char : Glyph → Char
  | .plain c _ => c
  | .escaped mark => mark.means
  | .coded code _ => Char.ofNat code.number
  | .paired high low _ => surrogatePair high.number low.number

def pieces : Glyph → List Piece
  | .plain c _ => [.char c]
  | .escaped mark => [.char mark.means]
  | .coded code _ => [.code code.number]
  | .paired high low _ => [.code high.number, .code low.number]

end Glyph

theorem hex_digit (digit : HexDigit) : hexDigit? (some digit.char) = some digit.value := by
  obtain ⟨value, capital⟩ := digit
  revert value capital
  decide

theorem hex_code (code : HexCode) :
    hexCode? (some code.first.char) (some code.second.char) (some code.third.char)
      (some code.fourth.char) = some code.number := by
  unfold hexCode? HexCode.number
  simp only [hex_digit, pure, bind, Option.bind]
  congr 1
  omega

theorem pieces_mark (mark : Mark) (rest : Source) :
    pieces (some '\\' :: some mark.char :: rest) = prepend (.char mark.means) (pieces rest) := by
  rw [pieces.eq_def]
  cases mark <;> rfl

theorem pieces_code (code : HexCode) (rest : Source) :
    pieces (code.text.map some ++ rest) = prepend (.code code.number) (pieces rest) := by
  have means := hex_code code
  rw [HexCode.text, pieces.eq_def]
  simp [means]

theorem pieces_plain (c : Char) (rest : Source) (free : c ≠ '"' ∧ c ≠ '\\' ∧ ¬ c < ' ') :
    pieces (some c :: rest) = prepend (.char c) (pieces rest) := by
  obtain ⟨noQuote, noEscape, noControl⟩ := free
  rw [pieces.eq_def]
  simp [noQuote, noEscape, noControl]

theorem pieces_close (rest : Source) : pieces (some '"' :: rest) = ([], .closed rest) := by
  rw [pieces.eq_def]
  rfl

theorem pieces_glyph (glyph : Glyph) (rest : Source) :
    pieces (glyph.text.map some ++ rest) = (glyph.pieces ++ (pieces rest).1, (pieces rest).2) := by
  cases glyph with
  | plain c free => exact pieces_plain c rest free
  | escaped mark => exact pieces_mark mark rest
  | coded code single => exact pieces_code code rest
  | paired high low surrogates =>
      rw [Glyph.text, List.map_append, List.append_assoc, pieces_code, pieces_code]
      rfl

def glyphsText (glyphs : List Glyph) : List Char := glyphs.flatMap Glyph.text

def glyphsString (glyphs : List Glyph) : String := String.ofList (glyphs.map Glyph.char)

theorem pieces_glyphs (glyphs : List Glyph) (rest : Source) :
    pieces ((glyphsText glyphs ++ ['"']).map some ++ rest) = (glyphs.flatMap Glyph.pieces, .closed rest) := by
  induction glyphs with
  | nil => exact pieces_close rest
  | cons glyph glyphs ih =>
      rw [glyphsText, List.flatMap_cons, List.append_assoc, List.map_append, List.append_assoc, pieces_glyph,
        ← glyphsText, ih]
      rfl

theorem join_glyph (finish : TextEnd) (glyph : Glyph) (pieces : List Piece) :
    join finish (glyph.pieces ++ pieces) = (join finish pieces).map (some glyph.char :: ·) := by
  cases glyph with
  | plain c free => rfl
  | escaped mark => rfl
  | coded code single =>
      rw [Glyph.pieces, List.cons_append, join.eq_def]
      simp only [single.1, single.2, Bool.false_eq_true, if_false]
      rfl
  | paired high low surrogates =>
      have noTrailing : isTrailing high.number = false := by
        have leading := surrogates.1
        simp only [isLeading, isTrailing, Bool.and_eq_true, decide_eq_true_eq, Bool.and_eq_false_iff,
          decide_eq_false_iff_not] at leading ⊢
        omega
      rw [Glyph.pieces, List.cons_append, join.eq_def]
      simp only [noTrailing, surrogates.1, surrogates.2, Bool.false_eq_true, if_false, if_true,
        List.cons_append, List.nil_append]
      rfl

theorem join_glyphs (glyphs : List Glyph) (rest : Source) :
    join (.closed rest) (glyphs.flatMap Glyph.pieces) = .ok ((glyphs.map Glyph.char).map some) := by
  induction glyphs with
  | nil => rfl
  | cons glyph glyphs ih =>
      rw [List.flatMap_cons, join_glyph, ih]
      rfl

theorem all_chars (chars : List Char) : allChars (chars.map some) = some chars := by
  induction chars with
  | nil => rfl
  | cons c chars ih =>
      rw [List.map_cons, allChars, ih]
      rfl

theorem content_glyphs (glyphs : List Glyph) (rest : Source) :
    content (glyphs.flatMap Glyph.pieces, .closed rest) = .ok (glyphsString glyphs) := by
  unfold content
  simp only [join_glyphs, bind, Except.bind, all_chars]
  rfl

section Written

variable (n : Nat) (small : n < 32)

def HexCode.ofControl : HexCode :=
  ⟨⟨0, false⟩, ⟨0, false⟩, ⟨⟨n / 16, by omega⟩, false⟩, ⟨⟨n % 16, by omega⟩, false⟩⟩

theorem control_number : (HexCode.ofControl n small).number = n := by
  simp only [HexCode.number, HexCode.ofControl, Fin.val_zero]
  omega

theorem control_single :
    isLeading (HexCode.ofControl n small).number = false ∧
      isTrailing (HexCode.ofControl n small).number = false := by
  rw [control_number]
  constructor
  · simp [isLeading]
    omega
  · simp [isTrailing]
    omega

theorem control_text :
    (HexCode.ofControl n small).text = '\\' :: 'u' :: '0' :: '0' :: hexPair n := rfl

def Glyph.of (c : Char) : Glyph :=
  if c = '\x08' then .escaped .backspace
  else if c = '\t' then .escaped .tab
  else if c = '\n' then .escaped .newline
  else if c = '\x0c' then .escaped .feed
  else if c = '\r' then .escaped .carriage
  else if control : c.toNat < 32 then .coded (.ofControl c.toNat control) (control_single c.toNat control)
  else if quote : c = '"' then .escaped .quote
  else if backslash : c = '\\' then .escaped .backslash
  else .plain c ⟨quote, backslash, control⟩

theorem glyph_of (c : Char) : (Glyph.of c).text = escape c ∧ (Glyph.of c).char = c := by
  unfold Glyph.of escape
  by_cases backspace : c = '\x08'
  · subst backspace
    exact ⟨rfl, rfl⟩
  by_cases tab : c = '\t'
  · subst tab
    exact ⟨rfl, rfl⟩
  by_cases newline : c = '\n'
  · subst newline
    exact ⟨rfl, rfl⟩
  by_cases feed : c = '\x0c'
  · subst feed
    exact ⟨rfl, rfl⟩
  by_cases carriage : c = '\r'
  · subst carriage
    exact ⟨rfl, rfl⟩
  simp only [backspace, tab, newline, feed, carriage, if_false]
  by_cases quote : c = '"'
  · subst quote
    exact ⟨rfl, rfl⟩
  by_cases backslash : c = '\\'
  · subst backslash
    exact ⟨rfl, rfl⟩
  by_cases control : c.toNat < 32
  · have below : c < ' ' := control
    rw [dif_pos control, if_neg quote, if_neg backslash, if_pos below]
    refine ⟨control_text c.toNat control, ?_⟩
    rw [Glyph.char, control_number, Char.ofNat_toNat]
  · have above : ¬ c < ' ' := control
    rw [dif_neg control, dif_neg quote, dif_neg backslash, if_neg quote, if_neg backslash, if_neg above]
    exact ⟨rfl, rfl⟩

def glyphsOf (text : String) : List Glyph := text.toList.map Glyph.of

theorem glyphs_text_of (text : String) : glyphsText (glyphsOf text) = text.toList.flatMap escape := by
  have texts : (fun c => (Glyph.of c).text) = escape := funext fun c => (glyph_of c).1
  rw [glyphsText, glyphsOf, List.flatMap_map, texts]

theorem glyphs_string_of (text : String) : glyphsString (glyphsOf text) = text := by
  have chars : Glyph.char ∘ Glyph.of = id := funext fun c => (glyph_of c).2
  rw [glyphsString, glyphsOf, List.map_map, chars, List.map_id, String.ofList_toList]

end Written

end Slideshow.Json
