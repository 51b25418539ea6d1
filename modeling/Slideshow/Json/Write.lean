import Slideshow.Decimal.Layout
import Slideshow.Json.Basic

set_option autoImplicit false

namespace Slideshow.Json

-- Floats have the fewest digits that read back. From a hundred thousandth up to 16 digits
-- before the point they are positional, with a digit after the point.
def floatLayout : Decimal.Layout :=
  ⟨.toEven, fun exponent => -5 ≤ exponent && exponent ≤ 15, ['.', '0']⟩

def writeInt : Int → List Char
  | .ofNat n => Nat.toDigits 10 n
  | .negSucc n => '-' :: Nat.toDigits 10 (n + 1)

def writeNumber : Number → List Char
  | .int n _ => writeInt n
  | .float x _ => Decimal.writeFinite floatLayout x

def hexPair (n : Nat) : List Char :=
  [Nat.digitChar (n / 16), Nat.digitChar (n % 16)]

def escape (c : Char) : List Char :=
  if c = '"' then ['\\', '"']
  else if c = '\\' then ['\\', '\\']
  else if c = '\x08' then ['\\', 'b']
  else if c = '\t' then ['\\', 't']
  else if c = '\n' then ['\\', 'n']
  else if c = '\x0c' then ['\\', 'f']
  else if c = '\r' then ['\\', 'r']
  else if c < ' ' then '\\' :: 'u' :: '0' :: '0' :: hexPair c.toNat
  else [c]

def writeText (text : String) : List Char :=
  '"' :: (text.toList.flatMap escape ++ ['"'])

mutual
def render : Json → List Char
  | .null => ['n', 'u', 'l', 'l']
  | .bool true => ['t', 'r', 'u', 'e']
  | .bool false => ['f', 'a', 'l', 's', 'e']
  | .number n => writeNumber n
  | .text s => writeText s
  | .list [] => ['[', ']']
  | .list (element :: rest) => '[' :: (render element ++ renderElements rest)
  | .object [] => ['\x7b', '\x7d']
  | .object ((name, value) :: rest) =>
      '\x7b' :: (writeText name ++ ':' :: (render value ++ renderMembers rest))

def renderElements : List Json → List Char
  | [] => [']']
  | element :: rest => ',' :: (render element ++ renderElements rest)

def renderMembers : List (String × Json) → List Char
  | [] => ['\x7d']
  | (name, value) :: rest =>
      ',' :: (writeText name ++ ':' :: (render value ++ renderMembers rest))
end

def write (json : Json) : String :=
  String.ofList json.render

end Slideshow.Json
