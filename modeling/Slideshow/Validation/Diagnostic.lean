set_option autoImplicit false

namespace Slideshow

inductive PathStep where
  | member (name : String)
  | element (index : Nat)
deriving DecidableEq, Repr

inductive DiagnosticKind where
  | missingProject
  | blankProjectName
  | duplicateSlideId
  | duplicateVariableId
  | blankSlideTitle
  | invalidSlideWidth
  | invalidSlideHeight
  | duplicateLayerId
  | duplicateObjectId
  | emptyTrigger
  | missingVariable
  | missingSlide
  | missingLayer
  | missingObject
deriving DecidableEq, Repr

structure Diagnostic where
  kind : DiagnosticKind
  path : List PathStep
  message : String
deriving DecidableEq, Repr

def PathStep.text : PathStep → String
  | .member name => "." ++ name
  | .element index => "[" ++ toString index ++ "]"

def pathText (path : List PathStep) : String :=
  "$" ++ String.join (path.map PathStep.text)

namespace Diagnostic

def text (diagnostic : Diagnostic) : String :=
  if diagnostic.path.isEmpty then diagnostic.message
  else pathText diagnostic.path ++ ": " ++ diagnostic.message

end Diagnostic

end Slideshow
