import Slideshow.Playback.Variables

set_option autoImplicit false

namespace Slideshow

inductive Fault where
  | danglingReference (trigger : String) (kind : ReferenceKind) (id : String)
  | typeMismatch (trigger target : String) (cause : Mismatch)
  | stepLimitExceeded (limit : Nat)

namespace Fault

def text : Fault → String
  | .danglingReference trigger kind id =>
      "trigger '" ++ trigger ++ "': " ++ kind.name ++ " '" ++ id ++ "' does not resolve"
  | .typeMismatch trigger target cause =>
      "trigger '" ++ trigger ++ "': variable '" ++ target ++ "': " ++ cause.message
  | .stepLimitExceeded limit =>
      "work queue exceeded " ++ toString limit ++ " steps for one event; remaining work dropped"

def toJson : Fault → Json
  | .danglingReference trigger kind id =>
      .object [("fault", .text "danglingReference"), ("triggerId", .text trigger),
        ("kind", .text kind.name), ("id", .text id)]
  | .typeMismatch trigger target cause =>
      .object [("fault", .text "typeMismatch"), ("triggerId", .text trigger),
        ("variableId", .text target), ("detail", .text cause.message)]
  | .stepLimitExceeded limit =>
      .object [("fault", .text "stepLimitExceeded"), ("limit", .ofNat limit)]

end Fault

-- A slide is entered with the layers its author chose; that is part of the slide's event.
inductive Event where
  | variableChanged (id : String) (old : Option Value) (new : Value)
  | layerChanged (id : String) (visible : Bool)
  | slideChanged (left : Option String) (entered : String)
  | fault (fault : Fault)

end Slideshow
