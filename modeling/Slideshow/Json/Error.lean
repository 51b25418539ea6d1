import Slideshow.Json.Write
import Slideshow.Text.Quoted

set_option autoImplicit false

namespace Slideshow.Json

inductive Found where
  | null
  | bool (value : Bool)
  | number (value : Number)
  | text (value : String)
  | list
  | object

inductive Expected where
  | text
  | boolean
  | float
  | list
  | record (name : String)
  | variant
  | variantOrObject
  | unit
  | tagged (name : String)
deriving DecidableEq

inductive ReadError where
  | endInValue
  | endInList
  | endInObject
  | endInText
  | valueExpected
  | wordExpected
  | colonExpected
  | listSeparatorExpected
  | objectSeparatorExpected
  | nameExpected
  | trailingComma
  | trailingText
  | invalidNumber
  | numberOutOfRange
  | invalidEscape
  | controlCharacter
  | loneSurrogate
  | unfinishedSurrogate
  | invalidCodePoint
  | tooDeep
  | unexpected (found : Found) (expected : Expected)
  | missing (field : String)
  | repeated (field : String)
  | unknownVariant (name : String) (known : List String)
  | unknownIndex (index : Nat) (count : Nat)
  | notSingle
  | tooShort (length : Nat) (record : String) (fields : Nat)
  | tooLong (length : Nat) (fields : Nat)

def Found.describe : Found → String
  | .null => "null"
  | .bool value => "boolean `" ++ (if value then "true" else "false") ++ "`"
  | .number (.int n inRange) => "integer `" ++ String.ofList (writeNumber (.int n inRange)) ++ "`"
  | .number (.float x finite) =>
      "floating point `" ++ String.ofList (writeNumber (.float x finite)) ++ "`"
  | .text s => "string " ++ Text.quoted s
  | .list => "sequence"
  | .object => "map"

def Expected.describe : Expected → String
  | .text => "a string"
  | .boolean => "a boolean"
  | .float => "f64"
  | .list => "a sequence"
  | .record name => "struct " ++ name
  | .variant => "variant identifier"
  | .variantOrObject => "string or map"
  | .unit => "unit"
  | .tagged name => "internally tagged enum " ++ name

def quotedName (name : String) : String := "`" ++ name ++ "`"

def alternatives : List String → String
  | [a, b] => quotedName a ++ " or " ++ quotedName b
  | names => "one of " ++ ", ".intercalate (names.map quotedName)

def elements (n : Nat) : String :=
  toString n ++ (if n = 1 then " element" else " elements")

def ReadError.message : ReadError → String
  | .endInValue => "EOF while parsing a value"
  | .endInList => "EOF while parsing a list"
  | .endInObject => "EOF while parsing an object"
  | .endInText => "EOF while parsing a string"
  | .valueExpected => "expected value"
  | .wordExpected => "expected ident"
  | .colonExpected => "expected `:`"
  | .listSeparatorExpected => "expected `,` or `]`"
  | .objectSeparatorExpected => "expected `,` or `\x7d`"
  | .nameExpected => "key must be a string"
  | .trailingComma => "trailing comma"
  | .trailingText => "trailing characters"
  | .invalidNumber => "invalid number"
  | .numberOutOfRange => "number out of range"
  | .invalidEscape => "invalid escape"
  | .controlCharacter => "control character (\\u0000-\\u001F) found while parsing a string"
  | .loneSurrogate => "lone leading surrogate in hex escape"
  | .unfinishedSurrogate => "unexpected end of hex escape"
  | .invalidCodePoint => "invalid unicode code point"
  | .tooDeep => "recursion limit exceeded"
  | .unexpected found expected =>
      "invalid type: " ++ found.describe ++ ", expected " ++ expected.describe
  | .missing field => "missing field " ++ quotedName field
  | .repeated field => "duplicate field " ++ quotedName field
  | .unknownVariant name known =>
      "unknown variant " ++ quotedName name ++ ", expected " ++ alternatives known
  | .unknownIndex index count =>
      "invalid value: integer `" ++ toString index ++ "`, expected variant index 0 <= i < " ++
        toString count
  | .notSingle => "invalid value: map, expected map with a single key"
  | .tooShort length record fields =>
      "invalid length " ++ toString length ++ ", expected struct " ++ record ++ " with " ++
        elements fields
  | .tooLong length fields =>
      "invalid length " ++ toString length ++ ", expected " ++ elements fields ++ " in sequence"

end Slideshow.Json
