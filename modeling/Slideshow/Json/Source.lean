set_option autoImplicit false

namespace Slideshow.Json

-- `none` stands for a stray byte.
abbrev Source := List (Option Char)

namespace Source

def ofString (text : String) : Source :=
  text.toList.map some

def isContinuation (byte : UInt8) : Bool :=
  byte.toNat / 64 = 2

def charOf (least code : Nat) : Option Char :=
  if h : code.isValidChar then if least ≤ code then some (Char.ofNatAux code h) else none else none

def tailBits (byte : UInt8) : Nat := byte.toNat % 64

def firstChar (a : UInt8) (rest : List UInt8) : Option (Char × Nat) :=
  let b := rest.getD 0 0
  let c := rest.getD 1 0
  let d := rest.getD 2 0
  if a.toNat < 0x80 then (charOf 0 a.toNat).map (·, 0)
  else if a.toNat / 32 = 6 ∧ isContinuation b then
    (charOf 0x80 (a.toNat % 32 * 64 + tailBits b)).map (·, 1)
  else if a.toNat / 16 = 14 ∧ isContinuation b ∧ isContinuation c then
    (charOf 0x800 ((a.toNat % 16 * 64 + tailBits b) * 64 + tailBits c)).map (·, 2)
  else if a.toNat / 8 = 30 ∧ isContinuation b ∧ isContinuation c ∧ isContinuation d then
    (charOf 0x10000 (((a.toNat % 8 * 64 + tailBits b) * 64 + tailBits c) * 64 + tailBits d)).map
      (·, 3)
  else none

def chars : Nat → List UInt8 → Source
  | _, [] => []
  | taken + 1, _ :: rest => chars taken rest
  | 0, byte :: rest =>
      match firstChar byte rest with
      | some (c, more) => some c :: chars more rest
      | none => none :: chars 0 rest

def ofBytes (bytes : List UInt8) : Source :=
  chars 0 bytes

def byteSize : Option Char → Nat
  | some c => c.utf8Size
  | none => 1

def endsWithin : Nat → Source → Bool
  | 0, _ => false
  | _ + 1, [] => true
  | n, c :: rest => endsWithin (n - byteSize c) rest

def isBlank : Option Char → Bool
  | some c => c = ' ' || c = '\t' || c = '\n' || c = '\r'
  | none => false

def skipBlanks : Source → Source
  | [] => []
  | c :: rest => if isBlank c then skipBlanks rest else c :: rest

end Source

end Slideshow.Json
