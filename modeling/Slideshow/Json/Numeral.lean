import Slideshow.Json.Error
import Slideshow.Json.Source

set_option autoImplicit false

namespace Slideshow.Json

structure Numeral where
  negative : Bool
  whole : List Nat
  fraction : List Nat
  exponent : Option (Bool × List Nat)
deriving DecidableEq, Repr

namespace Numeral

def takeDigits : Source → List Nat × Source
  | [] => ([], [])
  | none :: rest => ([], none :: rest)
  | some c :: rest =>
      if c.isDigit then
        let (digits, tail) := takeDigits rest
        ((c.toNat - '0'.toNat) :: digits, tail)
      else ([], some c :: rest)

def digitMissing : Source → ReadError
  | [] => .endInValue
  | _ => .invalidNumber

def someDigits (source : Source) : Except ReadError (List Nat × Source) :=
  match takeDigits source with
  | ([], rest) => .error (digitMissing rest)
  | (digits, rest) => .ok (digits, rest)

def scanWhole (source : Source) : Except ReadError (List Nat × Source) := do
  let (digits, rest) ← someDigits source
  if digits.head? = some 0 ∧ digits.length ≠ 1 then .error .invalidNumber else .ok (digits, rest)

def scanFraction : Source → Except ReadError (List Nat × Source)
  | some '.' :: rest => someDigits rest
  | source => .ok ([], source)

def scanSign : Source → Bool × Source
  | some '-' :: rest => (true, rest)
  | some '+' :: rest => (false, rest)
  | source => (false, source)

def scanExponent : Source → Except ReadError (Option (Bool × List Nat) × Source)
  | some c :: rest =>
      if c = 'e' ∨ c = 'E' then do
        let (negative, rest) := scanSign rest
        let (digits, rest) ← someDigits rest
        .ok (some (negative, digits), rest)
      else .ok (none, some c :: rest)
  | source => .ok (none, source)

def scan (negative : Bool) (source : Source) : Except ReadError (Numeral × Source) := do
  let (whole, rest) ← scanWhole source
  let (fraction, rest) ← scanFraction rest
  let (exponent, rest) ← scanExponent rest
  .ok (⟨negative, whole, fraction, exponent⟩, rest)

def collect (limit : Nat) : Nat → List Nat → Nat × List Nat
  | n, [] => (n, [])
  | n, digit :: rest =>
      if n * 10 + digit < limit then collect limit (n * 10 + digit) rest else (n, digit :: rest)

def powerOfTen (n : Nat) : Float := Float.ofScientific 1 false n

-- `x · 10 ^ exponent`; `none` if that is too large for a float. The last step is one rounded
-- multiplication or division by a power of ten that is a float.
def scale : Nat → Float → Int → Option Float
  | 0, x, _ => some x
  | steps + 1, x, exponent =>
      if exponent.natAbs ≤ 308 then
        if 0 ≤ exponent then
          let y := x * powerOfTen exponent.natAbs
          if y.isFinite then some y else none
        else some (x / powerOfTen exponent.natAbs)
      else if x == 0 then some x
      else if 0 ≤ exponent then none
      else scale steps (x / powerOfTen 308) (exponent + 308)

-- A float of 64-bit digits is zero after two divisions by `10 ^ 308`.
def scaled (significand : Nat) (exponent : Int) : Option Float :=
  scale 4 (Float.ofNat significand) exponent

-- The value of the digits after the exponent mark. An exponent beyond 31 bits counts as
-- endless: `none` if it makes the number too large, a zero factor otherwise.
def exponentValue (significand : Nat) : Option (Bool × List Nat) → Except ReadError (Option Int)
  | none => .ok (some 0)
  | some (negative, digits) =>
      match collect 0x80000000 0 digits with
      | (n, []) => .ok (some (if negative then -n else n))
      | _ => if significand ≠ 0 ∧ !negative then .error .numberOutOfRange else .ok none

def ofFloat (x : Float) : Except ReadError Number :=
  if finite : x.isFinite = true then .ok (.float x finite) else .error .numberOutOfRange

def magnitude (significand : Nat) (exponent : Int) (written : Option (Bool × List Nat)) :
    Except ReadError Float := do
  match ← exponentValue significand written with
  | none => .ok 0
  | some shift =>
      match scaled significand (exponent + shift) with
      | some x => .ok x
      | none => .error .numberOutOfRange

def float (numeral : Numeral) : Except ReadError Number := do
  let (whole, dropped) := collect 0x10000000000000000 0 numeral.whole
  let (significand, ignored) := collect 0x10000000000000000 whole numeral.fraction
  let exponent : Int := dropped.length - (numeral.fraction.length - ignored.length : Nat)
  let x ← magnitude significand exponent numeral.exponent
  ofFloat (if numeral.negative then -x else x)

def integer (numeral : Numeral) : Option Number :=
  match numeral.fraction, numeral.exponent, collect 0x10000000000000000 0 numeral.whole with
  | [], none, (n, []) =>
      let value : Int := if numeral.negative then -n else n
      if numeral.negative ∧ n = 0 then none
      else if inRange : -0x8000000000000000 ≤ value ∧ value < 0x10000000000000000 then
        some (.int value inRange)
      else none
  | _, _, _ => none

def value (numeral : Numeral) : Except ReadError Number :=
  match numeral.integer with
  | some n => .ok n
  | none => numeral.float

end Numeral

end Slideshow.Json
