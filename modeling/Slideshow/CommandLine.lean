import Slideshow.Playback.Command
import Slideshow.Playback.Snapshot

set_option autoImplicit false

namespace Slideshow.CommandLine

inductive PlayEvent where
  | click (object : String)
  | enter (slide : String)
deriving DecidableEq, Repr

inductive Request where
  | version
  | validate (path : String)
  | play (path : String) (events : List PlayEvent) (unchecked : Bool) (limit : Nat)
deriving DecidableEq, Repr

def Request.path? : Request → Option String
  | .version => none
  | .validate path | .play path _ _ _ => some path

structure Output where
  code : UInt32 := 0
  stdout : List String := []
  stderr : List String := []

def printed (texts : List String) : String :=
  String.join (texts.map (· ++ "\n"))

def cutAt (mark : Char) : List Char → Option (List Char × List Char)
  | [] => none
  | c :: rest =>
      if c = mark then some ([], rest)
      else (cutAt mark rest).map fun (before, after) => (c :: before, after)

def PlayEvent.parse (argument : String) : Option PlayEvent :=
  match cutAt ':' argument.toList with
  | none | some (_, []) => none
  | some (name, id) =>
      if name = ['c', 'l', 'i', 'c', 'k'] then some (.click (String.ofList id))
      else if name = ['e', 'n', 't', 'e', 'r'] then some (.enter (String.ofList id))
      else none

def parseCount (argument : String) : Option Nat :=
  let digits := match argument.toList with
    | '+' :: rest => rest
    | all => all
  if digits.isEmpty || !digits.all Char.isDigit then none
  else
    let n := digits.foldl (fun n c => n * 10 + (c.toNat - '0'.toNat)) 0
    if n < 0x10000000000000000 then some n else none

structure Arguments where
  verbose : Bool := false
  path : Option String := none
  events : List PlayEvent := []
  unchecked : Bool := false
  limit : Option Nat := none

def Arguments.flag (name : String) (arguments : Arguments) : Option Arguments :=
  if name = "--verbose" ∧ !arguments.verbose then some { arguments with verbose := true }
  else if name = "--unchecked" ∧ !arguments.unchecked then some { arguments with unchecked := true }
  else none

def isFlag (name : String) : Bool := name = "--verbose" || name = "--unchecked"

def Arguments.option (name value : String) (arguments : Arguments) : Option Arguments :=
  if name = "--in" then
    if arguments.path.isSome || value.isEmpty then none
    else some { arguments with path := some value }
  else if name = "--event" then do
    return { arguments with events := arguments.events ++ [← PlayEvent.parse value] }
  else if name = "--max-queue-steps" then
    if arguments.limit.isSome then none
    else do return { arguments with limit := some (← parseCount value) }
  else none

def isValue (argument : String) : Bool :=
  match argument.toList with
  | '-' :: _ :: _ => false
  | _ => true

-- After `--` there are no options, and nothing else is expected.
def readArguments : List String → Arguments → Option Arguments
  | [], arguments | ["--"], arguments => some arguments
  | argument :: rest, arguments =>
      match cutAt '=' argument.toList with
      | some (name, value) => do
          readArguments rest (← arguments.option (String.ofList name) (String.ofList value))
      | none =>
          if isFlag argument then do readArguments rest (← arguments.flag argument)
          else match rest with
            | value :: rest =>
                if isValue value then do readArguments rest (← arguments.option argument value)
                else none
            | [] => none

def validateRequest (arguments : Arguments) : Option Request := do
  if arguments.unchecked || arguments.limit.isSome || !arguments.events.isEmpty then none
  return .validate (← arguments.path)

def playRequest (arguments : Arguments) : Option Request := do
  let path ← arguments.path
  let usual : Options := {}
  return .play path arguments.events arguments.unchecked (arguments.limit.getD usual.maxQueueSteps)

def asksVersion (argument : String) : Bool :=
  match argument.toList with
  | '-' :: 'V' :: _ => true
  | _ => argument = "--version"

-- `--verbose` may stand before the command, once, and again among its arguments. What
-- follows a question for the version is not looked at.
def parseCommand (verbose : Bool) : List String → Option Request
  | [] => none
  | argument :: rest =>
      if argument = "validate" then (readArguments rest {}).bind validateRequest
      else if argument = "play" then (readArguments rest {}).bind playRequest
      else if asksVersion argument then some .version
      else if argument = "--verbose" ∧ !verbose then parseCommand true rest
      else none

def parse (arguments : List String) : Option Request :=
  parseCommand false arguments

def indentLines (indent text : String) : String :=
  String.ofList (text.toList.flatMap fun c => if c = '\n' then c :: indent.toList else [c])

def causes (messages : List String) : String :=
  match messages with
  | [message] => "    " ++ indentLines "    " message
  | messages => "\n".intercalate (messages.zipIdx.map fun (message, i) =>
      "    " ++ toString i ++ ": " ++ indentLines "       " message)

def Output.failed (message : String) (reasons : List String := []) : Output where
  code := 1
  stderr :=
    if reasons.isEmpty then ["Error: " ++ message]
    else ["Error: " ++ message ++ "\n\nCaused by:\n" ++ causes reasons]

def reasons (failure : Failure) : List String :=
  failure.message :: failure.reason?.toList

def Output.append (first second : Output) : Output :=
  ⟨second.code, first.stdout ++ second.stdout, first.stderr ++ second.stderr⟩

def validateProject (path : String) (project : Project) : Output :=
  match project.diagnostics with
  | [] => { stderr := [path ++ ": ok"] }
  | diagnostics =>
      { Output.failed (toString diagnostics.length ++ " diagnostic(s)") with
        stdout := diagnostics.map Diagnostic.text }

def showPlayer (player : Player) : Output × Player :=
  let (faults, player) := player.takeFaults
  ({ stdout := [player.snapshot.text], stderr := faults.map fun fault => "fault: " ++ fault.text },
    player)

def PlayEvent.command : PlayEvent → Command
  | .click id => .click id
  | .enter id => .enter id

def PlayEvent.text : PlayEvent → String
  | .click id => "Click(" ++ Text.quoted id ++ ")"
  | .enter id => "Enter(" ++ Text.quoted id ++ ")"

def playEvent (event : PlayEvent) (player : Player) : Output × Player :=
  match player.respond event.command with
  | .ok response => ({}, response.player)
  | .error failure => ({ stderr := [event.text ++ ": " ++ failure.message] }, player)

def playEvents : List PlayEvent → Player → Output
  | [], player => (showPlayer player).1
  | event :: rest, player =>
      let (shown, player) := showPlayer player
      let (refused, player) := playEvent event player
      (shown.append refused).append (playEvents rest player)

def playProject (events : List PlayEvent) (options : Options) (project : Project) : Output :=
  match (Player.start options).load project with
  | .error failure => .failed failure.message
  | .ok (player, _) => playEvents events player

def withProject (path : String) (file : File) (use : Project → Output) : Output :=
  match Project.ofFile path file with
  | .error failure => .failed ("load project '" ++ path ++ "'") (reasons failure)
  | .ok project => use project

def versionText : String := "slidekit 0.1.0"

def answer (files : String → File) : Request → Output
  | .version => { stdout := [versionText] }
  | .validate path => withProject path (files path) (validateProject path)
  | .play path events unchecked limit =>
      withProject path (files path)
        (playProject events { validateOnLoad := !unchecked, maxQueueSteps := limit })

end Slideshow.CommandLine
