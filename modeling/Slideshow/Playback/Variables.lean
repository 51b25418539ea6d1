import Slideshow.Failure

set_option autoImplicit false

namespace Slideshow

-- A variable without an entry is not declared; one with the entry `none` has no value.
structure VariableStore where
  values : IdMap (Option Value)
deriving BEq

namespace VariableStore

def empty : VariableStore := ⟨.empty⟩

def seed (project : Project) : VariableStore :=
  ⟨.ofList (project.declarations.map fun v => (v.id, v.value.map Value.normalized))⟩

def entry? (store : VariableStore) (id : String) : Option (Option Value) :=
  store.values.get? id

def contains (store : VariableStore) (id : String) : Bool :=
  (store.entry? id).isSome

def get? (store : VariableStore) (id : String) : Option Value :=
  (store.entry? id).join

def write (store : VariableStore) (id : String) (value : Value) : VariableStore :=
  ⟨store.values.update id (some value.normalized)⟩

def set (store : VariableStore) (id : String) (value : Value) :
    Except Failure (Option Value × VariableStore) :=
  match store.entry? id with
  | some old => .ok (old, store.write id value)
  | none => .error (.dangling .variable id)

end VariableStore

inductive Mismatch where
  | noOperand (operation : SetOperation)
  | noValue
  | notNumbers (operation : SetOperation) (current operand : Value)
  | notBoolean (current : Value)

def SetOperation.title : SetOperation → String
  | .assign => "assign"
  | .add => "Add"
  | .subtract => "Subtract"
  | .toggle => "Toggle"

def Mismatch.message : Mismatch → String
  | .noOperand operation => operation.title ++ " requires a value"
  | .noValue => "variable has no value"
  | .notNumbers operation current operand =>
      "cannot apply " ++ operation.title ++ " to " ++ current.typeName ++ " and " ++
        operand.typeName
  | .notBoolean current => "cannot toggle a " ++ current.typeName ++ " value"

namespace SetOperation

def combine (operation : SetOperation) (combined? : Value → Value → Option Value)
    (current operand : Option Value) : Except Mismatch Value :=
  match operand, current with
  | none, _ => .error (.noOperand operation)
  | some _, none => .error .noValue
  | some operand, some current =>
      match combined? current operand with
      | some result => .ok result
      | none => .error (.notNumbers operation current operand)

def apply (operation : SetOperation) (current operand : Option Value) : Except Mismatch Value :=
  match operation with
  | .assign =>
      match operand with
      | some value => .ok value
      | none => .error (.noOperand .assign)
  | .add => combine .add Value.add? current operand
  | .subtract => combine .subtract Value.sub? current operand
  | .toggle =>
      match current with
      | some (.bool b) => .ok (.bool !b)
      | some other => .error (.notBoolean other)
      | none => .error .noValue

end SetOperation

end Slideshow
