import Slideshow.Json.Error
import Slideshow.Json.Source

set_option autoImplicit false

namespace Slideshow.Json

inductive Piece where
  | char (value : Char)
  | stray
  | code (value : Nat)
deriving DecidableEq, Repr

inductive TextEnd where
  | closed (rest : Source)
  | endOfSource
  | control
  | badEscape
  | badCode
deriving DecidableEq, Repr

def hexDigit? : Option Char → Option Nat
  | none => none
  | some c =>
      if c.isDigit then some (c.toNat - '0'.toNat)
      else if 'a' ≤ c ∧ c ≤ 'f' then some (c.toNat - 'a'.toNat + 10)
      else if 'A' ≤ c ∧ c ≤ 'F' then some (c.toNat - 'A'.toNat + 10)
      else none

def hexCode? (a b c d : Option Char) : Option Nat := do
  return ((← hexDigit? a) * 16 + (← hexDigit? b)) * 256 + (← hexDigit? c) * 16 + (← hexDigit? d)

def unescape? : Option Char → Option Char
  | some '"' => some '"'
  | some '\\' => some '\\'
  | some '/' => some '/'
  | some 'b' => some '\x08'
  | some 'f' => some '\x0c'
  | some 'n' => some '\n'
  | some 'r' => some '\r'
  | some 't' => some '\t'
  | _ => none

def codeFault (source : Source) : TextEnd :=
  if Source.endsWithin 4 source then .endOfSource else .badCode

def prepend (piece : Piece) (others : List Piece × TextEnd) : List Piece × TextEnd :=
  (piece :: others.1, others.2)

def pieces : Source → List Piece × TextEnd
  | [] => ([], .endOfSource)
  | none :: rest => prepend .stray (pieces rest)
  | some c :: rest =>
      if c = '"' then ([], .closed rest)
      else if c = '\\' then
        match rest with
        | [] => ([], .endOfSource)
        | mark :: tail =>
            if mark = some 'u' then
              match tail with
              | h₁ :: h₂ :: h₃ :: h₄ :: after =>
                  match hexCode? h₁ h₂ h₃ h₄ with
                  | some n => prepend (.code n) (pieces after)
                  | none => ([], codeFault (h₁ :: h₂ :: h₃ :: h₄ :: after))
              | short => ([], codeFault short)
            else
              match unescape? mark with
              | some e => prepend (.char e) (pieces tail)
              | none => ([], .badEscape)
      else if c < ' ' then ([], .control)
      else prepend (.char c) (pieces rest)

def TextEnd.rest : TextEnd → Except ReadError Source
  | .closed rest => .ok rest
  | .endOfSource => .error .endInText
  | .control => .error .controlCharacter
  | .badEscape | .badCode => .error .invalidEscape

def TextEnd.afterSurrogate : TextEnd → ReadError
  | .endOfSource => .endInText
  | .badCode => .invalidEscape
  | .closed _ | .control | .badEscape => .unfinishedSurrogate

def isLeading (n : Nat) : Bool := 0xD800 ≤ n && n < 0xDC00

def isTrailing (n : Nat) : Bool := 0xDC00 ≤ n && n < 0xE000

def surrogatePair (high low : Nat) : Char :=
  Char.ofNat (0x10000 + (high - 0xD800) * 0x400 + (low - 0xDC00))

def join (finish : TextEnd) : List Piece → Except ReadError Source
  | [] => finish.rest.map fun _ => []
  | .char c :: rest => (join finish rest).map (some c :: ·)
  | .stray :: rest => (join finish rest).map (none :: ·)
  | .code n :: rest =>
      if isTrailing n then .error .loneSurrogate
      else if isLeading n then
        match rest with
        | [] => .error finish.afterSurrogate
        | .code low :: others =>
            if isTrailing low then (join finish others).map (some (surrogatePair n low) :: ·)
            else .error .loneSurrogate
        | _ => .error .unfinishedSurrogate
      else (join finish rest).map (some (Char.ofNat n) :: ·)

def allChars : Source → Option (List Char)
  | [] => some []
  | none :: _ => none
  | some c :: rest => (allChars rest).map (c :: ·)

-- Stray bytes are noticed once the text is complete.
def content (cut : List Piece × TextEnd) : Except ReadError String := do
  match allChars (← join cut.2 cut.1) with
  | some chars => .ok (String.ofList chars)
  | none => .error .invalidCodePoint

end Slideshow.Json
