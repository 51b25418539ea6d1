import Slideshow.Json.Source

set_option autoImplicit false

namespace Slideshow

structure FileFault where
  reason : String
  number : Nat
deriving DecidableEq, Repr

def FileFault.text (fault : FileFault) : String :=
  fault.reason ++ " (os error " ++ toString fault.number ++ ")"

inductive File where
  | contents (source : Json.Source)
  | unopened (fault : FileFault)
  | unreadable (fault : FileFault)

end Slideshow
