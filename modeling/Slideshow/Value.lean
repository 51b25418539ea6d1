import Slideshow.Json.Write
import Slideshow.Text.Quoted

set_option autoImplicit false

namespace Slideshow

inductive Value where
  | null
  | bool (value : Bool)
  | int32 (value : Int32)
  | int64 (value : Int64)
  | float (value : Float)
  | text (value : String)
  | structured (node : Node)

namespace Value

def fitsInt32 (n : Int) : Bool := -0x80000000 ≤ n && n < 0x80000000

def fitsInt64 (n : Int) : Bool := -0x8000000000000000 ≤ n && n < 0x8000000000000000

def ofInt64 (n : Int64) : Value :=
  if fitsInt32 n.toInt then .int32 (Int32.ofInt n.toInt) else .int64 n

def ofNumber : Number → Value
  | .int n _ => if fitsInt64 n then ofInt64 (Int64.ofInt n) else .float (Float.ofInt n)
  | .float x _ => .float x

def ofNode (node : Node) : Value :=
  match node.tree with
  | .null => .null
  | .bool b => .bool b
  | .number n => ofNumber n
  | .text s => .text s
  | .list _ | .object _ => .structured node

def ofJson (json : Json) : Value :=
  ofNode (.ofJson json)

def toJson : Value → Json
  | .null => .null
  | .bool b => .bool b
  | .int32 n => .ofInt64 n.toInt64
  | .int64 n => .ofInt64 n
  | .float x => .ofFloat x
  | .text s => .text s
  | .structured node => node.tree

def normalized : Value → Value
  | .int64 n => ofInt64 n
  | .structured node => ofNode node
  | value => value

def typeName : Value → String
  | .null => "null"
  | .bool _ => "boolean"
  | .int32 _ | .int64 _ | .float _ => "number"
  | .text _ => "text"
  | .structured _ => "structured"

def isNumber : Value → Bool
  | .int32 _ | .int64 _ | .float _ => true
  | _ => false

def asBool? : Value → Option Bool
  | .bool b => some b
  | _ => none

def asInt? : Value → Option Int
  | .int32 n => some n.toInt
  | .int64 n => some n.toInt
  | _ => none

def asFloat? : Value → Option Float
  | .int32 n => some (Float.ofInt n.toInt)
  | .int64 n => some (Float.ofInt n.toInt)
  | .float x => some x
  | _ => none

def asText? : Value → Option String
  | .text s => some s
  | _ => none

-- Combines two numbers. The result of two integers is exact if it has 64 bits; every other
-- result is a float.
def combine? (exact : Int → Int → Int) (rounded : Float → Float → Float) (a b : Value) :
    Option Value :=
  match a.asInt?, b.asInt? with
  | some m, some n =>
      if fitsInt64 (exact m n) then some (ofInt64 (Int64.ofInt (exact m n)))
      else some (.float (rounded (Float.ofInt m) (Float.ofInt n)))
  | _, _ =>
      match a.asFloat?, b.asFloat? with
      | some x, some y => some (.float (rounded x y))
      | _, _ => none

def add? : Value → Value → Option Value := combine? (· + ·) (· + ·)

def sub? : Value → Value → Option Value := combine? (· - ·) (· - ·)

def alikePlain : Value → Value → Bool
  | .null, .null => true
  | .bool a, .bool b => a = b
  | .float x, .float y => x == y
  | .text a, .text b => a = b
  | a, b =>
      match a.asInt?, b.asInt? with
      | some m, some n => m = n
      | _, _ => false

-- A structured scalar equals the value it stands for.
def alike : Value → Value → Bool
  | .structured a, .structured b => a == b
  | .structured node, value => node.isScalar && alikePlain (ofNode node) value
  | value, .structured node => node.isScalar && alikePlain (ofNode node) value
  | a, b => alikePlain a b

instance : BEq Value := ⟨alike⟩

def floatLayout : Decimal.Layout :=
  ⟨.up, fun _ => true, []⟩

def showFloat (x : Float) : String :=
  if x.isNaN then "NaN"
  else if x.isInf then (if Decimal.isNegative x then "-inf" else "inf")
  else String.ofList (Decimal.writeFinite floatLayout x)

def display : Value → String
  | .null => "null"
  | .bool b => if b then "true" else "false"
  | .int32 n => String.ofList (Json.writeInt n.toInt)
  | .int64 n => String.ofList (Json.writeInt n.toInt)
  | .float x => showFloat x
  | .text s => Text.quoted s
  | .structured node => node.tree.write

end Value

end Slideshow
