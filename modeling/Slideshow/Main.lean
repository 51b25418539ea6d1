import Slideshow.CommandLine

set_option autoImplicit false

namespace Slideshow

def faultOf : IO.Error → FileFault
  | .noFileOrDirectory _ number reason | .permissionDenied _ number reason
  | .inappropriateType _ number reason | .invalidArgument _ number reason
  | .resourceExhausted _ number reason | .otherError number reason => ⟨reason, number.toNat⟩
  | error => ⟨toString error, 0⟩

def readOpen (handle : IO.FS.Handle) : IO File := do
  try
    return .contents (Json.Source.ofBytes (← handle.readBinToEnd).toList)
  catch error => return .unreadable (faultOf error)

def readFile (path : String) : IO File := do
  try
    readOpen (← IO.FS.Handle.mk path .read)
  catch error => return .unopened (faultOf error)

def fileOf (request : CommandLine.Request) : IO File :=
  match request.path? with
  | some path => readFile path
  | none => return .contents []

end Slideshow

open Slideshow

def main (arguments : List String) : IO UInt32 := do
  match CommandLine.parse arguments with
  | none =>
      IO.eprintln "usage: [--verbose] validate --in PATH"
      IO.eprintln
        "       [--verbose] play --in PATH [--event EVENT]... [--unchecked] [--max-queue-steps N]"
      return 2
  | some request =>
      let file ← fileOf request
      let output := CommandLine.answer (fun _ => file) request
      IO.print (CommandLine.printed output.stdout)
      IO.eprint (CommandLine.printed output.stderr)
      return output.code
