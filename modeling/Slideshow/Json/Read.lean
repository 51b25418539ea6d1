import Slideshow.Json.Outline

set_option autoImplicit false

namespace Slideshow.Json

def Breach.read : Breach → ReadError
  | .nothing => .endInValue
  | .stray => .valueExpected
  | .word fault | .numeral fault | .text fault _ | .colon fault => fault

def Breach.skip : Breach → ReadError
  | .numeral _ => .invalidNumber
  | .text _ skipped => skipped
  | breach => breach.read

def ListFault.read : ListFault → ReadError
  | .unclosed => .endInList
  | .separator => .listSeparatorExpected
  | .trailingComma => .trailingComma

def ListFault.skip : ListFault → ReadError
  | .trailingComma => .valueExpected
  | fault => fault.read

def ObjectFault.read : ObjectFault → ReadError
  | .unclosed => .endInObject
  | .separator => .objectSeparatorExpected
  | .trailingComma => .trailingComma
  | .endAfterComma => .endInValue
  | .noName => .nameExpected
  | .name fault _ => fault

def ObjectFault.skip : ObjectFault → ReadError
  | .trailingComma => .nameExpected
  | .endAfterComma => .endInObject
  | .name _ skipped => skipped
  | fault => fault.read

mutual
def Outline.skip : Outline → Except ReadError Unit
  | .null | .bool _ | .number _ | .text _ => .ok ()
  | .list elements => elements.skip
  | .object members => members.skip
  | .broken breach => .error breach.skip

def Elements.skip : Elements → Except ReadError Unit
  | .close => .ok ()
  | .next element rest => do
      element.skip
      rest.skip
  | .broken fault => .error fault.skip

def Members.skip : Members → Except ReadError Unit
  | .close => .ok ()
  | .next _ value rest => do
      value.skip
      rest.skip
  | .broken fault => .error fault.skip
end

-- `levels` says how many lists and objects may still be opened. What is skipped has no such
-- limit and is held to the form of JSON alone.
def opened {α : Type} (levels : Nat) (read : Nat → Except ReadError α) : Except ReadError α :=
  match levels with
  | 0 => .error .tooDeep
  | inner + 1 => read inner

mutual
def Outline.json : Outline → Nat → Except ReadError Json
  | .null, _ => .ok .null
  | .bool b, _ => .ok (.bool b)
  | .number n, _ => n.map .number
  | .text s, _ => s.map .text
  | .list elements, levels => opened levels fun inner => return .list (← elements.jsons inner)
  | .object members, levels => opened levels fun inner => return .object (← members.jsons inner)
  | .broken breach, _ => .error breach.read

def Elements.jsons : Elements → Nat → Except ReadError (List Json)
  | .close, _ => .ok []
  | .next element rest, levels => do
      let element ← element.json levels
      return element :: (← rest.jsons levels)
  | .broken fault, _ => .error fault.read

def Members.jsons : Members → Nat → Except ReadError (List (String × Json))
  | .close, _ => .ok []
  | .next name value rest, levels => do
      let name ← name
      let value ← value.json levels
      return (name, value) :: (← rest.jsons levels)
  | .broken fault, _ => .error fault.read
end

-- A value of another kind than the expected one. Scalars are read before they are found to
-- be of the wrong kind.
def Outline.mismatch (expected : Expected) : Outline → ReadError
  | .null => .unexpected .null expected
  | .bool b => .unexpected (.bool b) expected
  | .number (.ok n) => .unexpected (.number n) expected
  | .text (.ok s) => .unexpected (.text s) expected
  | .number (.error fault) | .text (.error fault) => fault
  | .list _ => .unexpected .list expected
  | .object _ => .unexpected .object expected
  | .broken breach => breach.read

def Outline.asText (expected : Expected) : Outline → Except ReadError String
  | .text s => s
  | other => .error (other.mismatch expected)

def Outline.asBool : Outline → Except ReadError Bool
  | .bool b => .ok b
  | other => .error (other.mismatch .boolean)

def Outline.asFloat : Outline → Except ReadError Float
  | .number n => n.map Number.toFloat
  | other => .error (other.mismatch .float)

def Outline.asOptionalText : Outline → Except ReadError (Option String)
  | .null => .ok none
  | other => (other.asText .text).map some

def Elements.each {α : Type} (read : Outline → Except ReadError α) :
    Elements → Except ReadError (List α)
  | .close => .ok []
  | .next element rest => do
      let first ← read element
      return first :: (← rest.each read)
  | .broken fault => .error fault.read

def Outline.asList {α : Type} (read : Nat → Outline → Except ReadError α) (levels : Nat) :
    Outline → Except ReadError (List α)
  | .list elements => opened levels fun inner => elements.each (read inner)
  | other => .error (other.mismatch .list)

def variant {α : Type} (known : List (String × α)) (name : String) : Except ReadError α :=
  match known.lookup name with
  | some value => .ok value
  | none => .error (.unknownVariant name (known.map (·.1)))

def Outline.asVariant {α : Type} (known : List (String × α)) (levels : Nat) :
    Outline → Except ReadError α
  | .text s => do variant known (← s)
  | .object members => opened levels fun _ =>
      match members with
      | .close => .error .valueExpected
      | .next name value rest => do
          let chosen ← variant known (← name)
          match value with
          | .null => .ok ()
          | other => .error (other.mismatch .unit)
          match rest with
          | .close => .ok chosen
          | .broken .unclosed => .error .endInObject
          | _ => .error .valueExpected
      | .broken fault => .error fault.read
  | .broken (.text fault _) | .broken (.colon fault) => .error fault
  | .broken .nothing => .error .endInValue
  | _ => .error .valueExpected

def levelLimit : Nat := 127

def readWhole {α : Type} (read : Nat → Outline → Except ReadError α) (source : Source) :
    Except ReadError α := do
  let (outline, rest) := Outline.ofSource source
  let result ← read levelLimit outline
  if (Source.skipBlanks rest).isEmpty then .ok result else .error .trailingText

def read (source : Source) : Except ReadError Json :=
  readWhole (fun levels outline => outline.json levels) source

end Slideshow.Json
