import Slideshow.Json.Read

set_option autoImplicit false

namespace Slideshow.Json

structure Place where
  outline : Outline
  levels : Nat

structure Field (ι δ : Type) where
  name : String
  store : ι → δ → Except ReadError δ

-- A record is read into a draft, field by field as the fields come, and completed at its end:
-- only then is it known which fields are missing, and the argument of `complete` says what that
-- means. `other` tells what becomes of a member that is no field.
structure Shape (ι δ α : Type) where
  name : String
  fields : List (Field ι δ)
  other : String → ι → δ → Except ReadError δ
  start : δ
  complete : (String → ReadError) → δ → Except ReadError α

def required {α : Type} (missing : String → ReadError) (name : String) :
    Option α → Except ReadError α
  | some value => .ok value
  | none => .error (missing name)

namespace Shape

variable {ι δ α : Type}

def take (shape : Shape ι δ α) (seen : List String) (name : String) (value : ι) (draft : δ) :
    Except ReadError δ :=
  match shape.fields.find? (·.name = name) with
  | none => shape.other name value draft
  | some field => if name ∈ seen then .error (.repeated name) else field.store value draft

def tooShort (shape : Shape ι δ α) (length : Nat) : ReadError :=
  .tooShort length shape.name shape.fields.length

end Shape

section Outlines

variable {δ α : Type}

def Members.fill (shape : Shape Place δ α) (levels : Nat) :
    Members → List String → δ → Except ReadError δ
  | .close, _, draft => .ok draft
  | .next name value rest, seen, draft => do
      let name ← name
      let draft ← shape.take seen name ⟨value, levels⟩ draft
      rest.fill shape levels (name :: seen) draft
  | .broken fault, _, _ => .error fault.read

def Elements.finish : Elements → Except ReadError Unit
  | .close => .ok ()
  | .broken .unclosed => .error .endInList
  | .broken .trailingComma => .error .trailingComma
  | .next _ _ | .broken .separator => .error .trailingText

def Elements.fill (shape : Shape Place δ α) (levels : Nat) :
    List (Field Place δ) → Elements → Nat → δ → Except ReadError α
  | [], elements, _, draft => do
      let record ← shape.complete .missing draft
      elements.finish
      return record
  | _ :: _, .close, length, draft => shape.complete (fun _ => shape.tooShort length) draft
  | field :: fields, .next value rest, length, draft => do
      let draft ← field.store ⟨value, levels⟩ draft
      Elements.fill shape levels fields rest (length + 1) draft
  | _ :: _, .broken fault, _, _ => .error fault.read

def Shape.readNamed (shape : Shape Place δ α) (place : Place) : Except ReadError α :=
  match place.outline with
  | .object members => opened place.levels fun inner => do
      shape.complete .missing (← members.fill shape inner [] shape.start)
  | other => .error (other.mismatch (.record shape.name))

def Shape.read (shape : Shape Place δ α) (place : Place) : Except ReadError α :=
  match place.outline with
  | .list elements => opened place.levels fun inner =>
      elements.fill shape inner shape.fields 0 shape.start
  | _ => shape.readNamed place

def skipOther (_ : String) (place : Place) (draft : δ) : Except ReadError δ := do
  place.outline.skip
  return draft

def textField (name : String) (set : String → δ → δ) : Field Place δ :=
  ⟨name, fun place draft => return set (← place.outline.asText .text) draft⟩

def boolField (name : String) (set : Bool → δ → δ) : Field Place δ :=
  ⟨name, fun place draft => return set (← place.outline.asBool) draft⟩

def floatField (name : String) (set : Float → δ → δ) : Field Place δ :=
  ⟨name, fun place draft => return set (← place.outline.asFloat) draft⟩

def listField {β : Type} (name : String) (read : Place → Except ReadError β)
    (set : List β → δ → δ) : Field Place δ :=
  ⟨name, fun place draft => do
    let list ← place.outline.asList (fun levels outline => read ⟨outline, levels⟩) place.levels
    return set list draft⟩

end Outlines

def mismatch (expected : Expected) : Json → ReadError
  | .null => .unexpected .null expected
  | .bool b => .unexpected (.bool b) expected
  | .number n => .unexpected (.number n) expected
  | .text s => .unexpected (.text s) expected
  | .list _ => .unexpected .list expected
  | .object _ => .unexpected .object expected

def asText (expected : Expected) : Json → Except ReadError String
  | .text s => .ok s
  | other => .error (other.mismatch expected)

def asFloat : Json → Except ReadError Float
  | .number n => .ok n.toFloat
  | other => .error (other.mismatch .float)

def asVariant {α : Type} (known : List (String × α)) : Json → Except ReadError α
  | .text s => variant known s
  | .object [(name, value)] => do
      let chosen ← variant known name
      match value with
      | .null | .object [] => .ok chosen
      | other => .error (other.mismatch .unit)
  | .object _ => .error .notSingle
  | other => .error (other.mismatch .variantOrObject)

section Trees

variable {δ α : Type}

def fillNamed (shape : Shape Json δ α) :
    List (String × Json) → List String → δ → Except ReadError δ
  | [], _, draft => .ok draft
  | (name, value) :: rest, seen, draft => do
      let draft ← shape.take seen name value draft
      fillNamed shape rest (name :: seen) draft

def fillPositions (shape : Shape Json δ α) :
    List (Field Json δ) → List Json → Nat → δ → Except ReadError α
  | [], rest, length, draft => do
      let record ← shape.complete .missing draft
      if rest.isEmpty then .ok record else .error (.tooLong (length + rest.length) length)
  | _ :: _, [], length, draft => shape.complete (fun _ => shape.tooShort length) draft
  | field :: fields, value :: rest, length, draft => do
      let draft ← field.store value draft
      fillPositions shape fields rest (length + 1) draft

inductive Fields where
  | named (members : List (String × Json))
  | inOrder (elements : List Json)

def Shape.ofFields (shape : Shape Json δ α) : Fields → Except ReadError α
  | .named members => do shape.complete .missing (← fillNamed shape members [] shape.start)
  | .inOrder elements => fillPositions shape shape.fields elements 0 shape.start

def ignoreOther (_ : String) (_ : Json) (draft : δ) : Except ReadError δ :=
  .ok draft

def textMember (name : String) (set : String → δ → δ) : Field Json δ :=
  ⟨name, fun json draft => return set (← json.asText .text) draft⟩

def floatMember (name : String) (set : Float → δ → δ) : Field Json δ :=
  ⟨name, fun json draft => return set (← json.asFloat) draft⟩

end Trees

end Slideshow.Json
