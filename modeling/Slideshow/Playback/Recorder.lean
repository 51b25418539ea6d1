import Slideshow.Playback.Event

set_option autoImplicit false

namespace Slideshow

inductive Record where
  | variableChanged (id : String) (value : Value)
  | layerChanged (id : String) (visible : Bool)
  | slideChanged (left : Option String) (entered : String)
  | fault (fault : Fault)

def Event.record : Event → Record
  | .variableChanged id _ value => .variableChanged id value
  | .layerChanged id visible => .layerChanged id visible
  | .slideChanged left entered => .slideChanged left entered
  | .fault reported => .fault reported

structure Recorder where
  watching : Nat := 0
  log : List Record := []

namespace Recorder

def watch (recorder : Recorder) : Recorder :=
  { recorder with watching := recorder.watching + 1 }

def observe (recorder : Recorder) (events : List Event) : Recorder :=
  { recorder with
    log := recorder.log ++
      events.flatMap fun event => List.replicate recorder.watching event.record }

def clear (recorder : Recorder) : Recorder :=
  { recorder with log := [] }

end Recorder

end Slideshow
