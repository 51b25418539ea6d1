import Slideshow.Json.Numeral
import Slideshow.Json.Quoted

set_option autoImplicit false

namespace Slideshow.Json

inductive Breach where
  | nothing
  | stray
  | word (fault : ReadError)
  | numeral (fault : ReadError)
  | text (fault skipped : ReadError)
  | colon (fault : ReadError)

inductive ListFault where
  | unclosed
  | separator
  | trailingComma
deriving DecidableEq

inductive ObjectFault where
  | unclosed
  | separator
  | trailingComma
  | endAfterComma
  | noName
  | name (fault skipped : ReadError)

-- An outline does not decide whether a fault matters, since one reader skips what another one
-- needs: a numeral too large and a text with half a surrogate pair are part of it, together
-- with what a reader that needs them has to say.
mutual
inductive Outline where
  | null
  | bool (value : Bool)
  | number (value : Except ReadError Number)
  | text (value : Except ReadError String)
  | list (elements : Elements)
  | object (members : Members)
  | broken (breach : Breach)

inductive Elements where
  | close
  | next (element : Outline) (rest : Elements)
  | broken (fault : ListFault)

inductive Members where
  | close
  | next (name : Except ReadError String) (value : Outline) (rest : Members)
  | broken (fault : ObjectFault)
end

namespace Outline

def scanWord (source : Source) : List Char → Except ReadError Source
  | [] => .ok source
  | letter :: letters =>
      match source with
      | [] => .error .endInValue
      | c :: rest => if c = some letter then scanWord rest letters else .error .wordExpected

def word (letters : List Char) (value : Outline) (source : Source) : Outline × Source :=
  match scanWord source letters with
  | .ok rest => (value, rest)
  | .error fault => (.broken (.word fault), [])

def numeral (negative : Bool) (source : Source) : Outline × Source :=
  match Numeral.scan negative source with
  | .ok (n, rest) => (.number n.value, rest)
  | .error fault => (.broken (.numeral fault), [])

def textFaults (cut : List Piece × TextEnd) (skipped : ReadError) : ReadError :=
  match content cut with
  | .ok _ => skipped
  | .error fault => fault

def quoted (source : Source) : Outline × Source :=
  let cut := pieces source
  match cut.2.rest with
  | .ok rest => (.text (content cut), rest)
  | .error skipped => (.broken (.text (textFaults cut skipped) skipped), [])

def scanColon (source : Source) : Except ReadError Source :=
  match Source.skipBlanks source with
  | some ':' :: rest => .ok rest
  | [] => .error .endInObject
  | _ => .error .colonExpected

mutual
def value : Nat → Source → Outline × Source
  | 0, _ => (.broken .nothing, [])
  | fuel + 1, source =>
      match Source.skipBlanks source with
      | [] => (.broken .nothing, [])
      | none :: _ => (.broken .stray, [])
      | some c :: rest =>
          if c = 'n' then word ['u', 'l', 'l'] .null rest
          else if c = 't' then word ['r', 'u', 'e'] (.bool true) rest
          else if c = 'f' then word ['a', 'l', 's', 'e'] (.bool false) rest
          else if c = '-' then numeral true rest
          else if c.isDigit then numeral false (some c :: rest)
          else if c = '"' then quoted rest
          else if c = '[' then
            match Source.skipBlanks rest with
            | [] => (.list (.broken .unclosed), [])
            | first :: others =>
                if first = some ']' then (.list .close, others)
                else
                  let (element, after) := value fuel (first :: others)
                  let (elements, after) := elements fuel after
                  (.list (.next element elements), after)
          else if c = '\x7b' then
            match Source.skipBlanks rest with
            | [] => (.object (.broken .unclosed), [])
            | first :: others =>
                if first = some '\x7d' then (.object .close, others)
                else if first = some '"' then
                  let (members, after) := member fuel others
                  (.object members, after)
                else (.object (.broken .noName), [])
          else (.broken .stray, [])

def elements : Nat → Source → Elements × Source
  | 0, _ => (.broken .unclosed, [])
  | fuel + 1, source =>
      match Source.skipBlanks source with
      | [] => (.broken .unclosed, [])
      | first :: rest =>
          if first = some ']' then (.close, rest)
          else if first = some ',' then
            if (Source.skipBlanks rest).head? = some (some ']') then (.broken .trailingComma, [])
            else
              let (element, after) := value fuel rest
              let (elements, after) := elements fuel after
              (.next element elements, after)
          else (.broken .separator, [])

def member : Nat → Source → Members × Source
  | 0, _ => (.broken .unclosed, [])
  | fuel + 1, source =>
      let cut := pieces source
      match cut.2.rest with
      | .error skipped => (.broken (.name (textFaults cut skipped) skipped), [])
      | .ok rest =>
          match scanColon rest with
          | .error fault => (.next (content cut) (.broken (.colon fault)) .close, [])
          | .ok rest =>
              let (value, after) := value fuel rest
              let (members, after) := members fuel after
              (.next (content cut) value members, after)

def members : Nat → Source → Members × Source
  | 0, _ => (.broken .unclosed, [])
  | fuel + 1, source =>
      match Source.skipBlanks source with
      | [] => (.broken .unclosed, [])
      | first :: rest =>
          if first = some '\x7d' then (.close, rest)
          else if first = some ',' then
            match Source.skipBlanks rest with
            | [] => (.broken .endAfterComma, [])
            | name :: others =>
                if name = some '"' then member fuel others
                else if name = some '\x7d' then (.broken .trailingComma, [])
                else (.broken .noName, [])
          else (.broken .separator, [])
end

-- The outline of the value in a source, and the source after it. Each step of the reading
-- takes a character or is followed by one that does, so twice the length bounds them.
def ofSource (source : Source) : Outline × Source :=
  value (2 * source.length + 2) source

end Outline

end Slideshow.Json
