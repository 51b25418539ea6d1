import Slideshow.Document.Decode
import Slideshow.File
import Slideshow.Validation.Validate

set_option autoImplicit false

namespace Slideshow

inductive ReferenceKind where
  | slide
  | layer
  | object
  | variable
deriving DecidableEq, Repr

def ReferenceKind.name : ReferenceKind → String
  | .slide => "slide"
  | .layer => "layer"
  | .object => "object"
  | .variable => "variable"

inductive Failure where
  | unreadable (cause : Json.ReadError)
  | invalid (diagnostics : List Diagnostic)
  | dangling (kind : ReferenceKind) (id : String)
  | noProject
  | noSlide
  | unopened (path : String) (fault : FileFault)
  | unread (fault : FileFault)

namespace Failure

def message : Failure → String
  | .unreadable cause => "format error: decode project: " ++ cause.message
  | .invalid diagnostics =>
      "validation error: " ++ "; ".intercalate (diagnostics.map Diagnostic.text)
  | .dangling kind id => "dangling reference: " ++ kind.name ++ " '" ++ id ++ "'"
  | .noProject => "state invariant violated: no project loaded"
  | .noSlide => "state invariant violated: no slide is active"
  | .unopened path _ => "open project '" ++ path ++ "'"
  | .unread fault => "format error: decode project: " ++ fault.text

def reason? : Failure → Option String
  | .unopened _ fault => some fault.text
  | _ => none

end Failure

namespace Project

def ofDocument (source : Json.Source) : Except Failure Project :=
  (decode source).mapError .unreadable

def ofFile (path : String) : File → Except Failure Project
  | .contents source => ofDocument source
  | .unopened fault => .error (.unopened path fault)
  | .unreadable fault => .error (.unread fault)

def validated (project : Project) : Except Failure Project :=
  match project.diagnostics with
  | [] => .ok project
  | diagnostics => .error (.invalid diagnostics)

end Project

end Slideshow
