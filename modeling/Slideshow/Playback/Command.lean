import Slideshow.Playback.Player

set_option autoImplicit false

namespace Slideshow

inductive Command where
  | load (project : Project)
  | loadUnchecked (project : Project)
  | restart
  | stop
  | click (object : String)
  | pointerDown (point : Point)
  | enter (slide : String)
  | takeFaults

inductive Reply where
  | done
  | fired (triggers : Nat)
  | hit (object : Option String)
  | faults (faults : List Fault)

structure Response where
  reply : Reply
  player : Player
  events : List Event

namespace Player

def done (result : Player × List Event) : Response :=
  ⟨.done, result.1, result.2⟩

def respond (command : Command) (player : Player) : Except Failure Response :=
  match command with
  | .load project => (player.load project).map done
  | .loadUnchecked project => .ok (done (player.loadUnchecked project))
  | .restart => .ok (done player.restart)
  | .stop => .ok ⟨.done, player.stop, []⟩
  | .click id => (player.click id).map fun (fired, player, events) => ⟨.fired fired, player, events⟩
  | .pointerDown point =>
      (player.pointerDown point).map fun (hit, player, events) => ⟨.hit hit, player, events⟩
  | .enter id => (player.enter id).map done
  | .takeFaults =>
      let (faults, player) := player.takeFaults
      .ok ⟨.faults faults, player, []⟩

def after (player : Player) (command : Command) : Player :=
  match player.respond command with
  | .ok response => response.player
  | .error _ => player

def reported (player : Player) (command : Command) : List Event :=
  match player.respond command with
  | .ok response => response.events
  | .error _ => []

def run (player : Player) (commands : List Command) : Player :=
  commands.foldl after player

end Player

end Slideshow
