set_option autoImplicit false

namespace Slideshow.Text

def cutLines : List Char → List Char → List (List Char)
  | [], [] => []
  | [], line => [line.reverse]
  | '\n' :: rest, line => line.reverse :: cutLines rest []
  | c :: rest, line => cutLines rest (c :: line)

def withoutReturn (line : List Char) : List Char :=
  if line.getLast? = some '\r' then line.dropLast else line

def lines (text : String) : List String :=
  (cutLines text.toList []).map fun line => String.ofList (withoutReturn line)

end Slideshow.Text
