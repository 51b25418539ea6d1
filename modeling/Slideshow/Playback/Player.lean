import Slideshow.Playback.Event
import Slideshow.Playback.Layers
import Slideshow.Playback.Queue
import Slideshow.Playback.Triggers

set_option autoImplicit false

namespace Slideshow

-- At most `maxQueueSteps` items of work are done for one event from outside.
structure Options where
  validateOnLoad : Bool := true
  maxQueueSteps : Nat := 10000

-- A slide that is entered is navigated to until the end of a navigation to it is taken from
-- the queue, which may be that of an earlier visit.
inductive Phase where
  | idle
  | active (slide : String)
  | navigating (slide : String)
deriving DecidableEq, Repr

inductive WorkItem where
  | fire (trigger : TriggerRef)
  | settle (slide : Nat)
deriving DecidableEq, Repr

def Slide.entryWork (slide : Slide) (index : Nat) : List WorkItem :=
  (slide.entryTriggers index).map WorkItem.fire ++ [.settle index]

-- Each trigger is run to its end before the next one; entering a slide queues its triggers
-- behind the work already there. An operation that is refused returns no player, so it
-- changes nothing.
structure Player where
  options : Options
  project : Option Project := none
  phase : Phase := .idle
  current : Option Nat := none
  store : VariableStore := .empty
  layers : LayerState := .empty
  queue : Queue WorkItem := .empty
  faults : Array Fault := #[]

structure Turn where
  item : WorkItem
  events : List Event

namespace Player

def start (options : Options) : Player := { options }

def currentSlideId? (player : Player) : Option String := do
  let project ← player.project
  let index ← player.current
  let slide ← project.slides[index]?
  return slide.id

def report (player : Player) (fault : Fault) : Player × List Event :=
  ({ player with faults := player.faults.push fault }, [.fault fault])

def enterSlide (project : Project) (index : Nat) (player : Player) : Player × List Event :=
  match project.slides[index]? with
  | none => (player, [])
  | some slide =>
      ({ player with
          phase := .navigating slide.id
          current := some index
          layers := .ofSlide slide
          queue := player.queue.append (slide.entryWork index) },
        [.slideChanged player.currentSlideId? slide.id])

def setVariable (trigger target : String) (operation : SetOperation) (operand : Option Value)
    (player : Player) : Player × List Event :=
  match player.store.entry? target with
  | none => player.report (.danglingReference trigger .variable target)
  | some old =>
      match operation.apply old operand with
      | .error cause => player.report (.typeMismatch trigger target cause)
      | .ok value =>
          ({ player with store := player.store.write target value },
            if old == some value.normalized then []
            else [.variableChanged target old value.normalized])

-- An action on a layer of a slide that is no longer current does nothing.
def setLayer (trigger : String) (host : Nat) (target : String) (visible : Bool)
    (player : Player) : Player × List Event :=
  if player.current = some host then
    match player.layers.isVisible? target with
    | none => player.report (.danglingReference trigger .layer target)
    | some before =>
        ({ player with layers := player.layers.write target visible },
          if before = visible then [] else [.layerChanged target visible])
  else (player, [])

def perform (project : Project) (trigger : String) (host : Nat) (action : Action)
    (player : Player) : Player × List Event :=
  match action with
  | .navigateToSlide target =>
      match project.slideIndex? target with
      | some index => player.enterSlide project index
      | none => player.report (.danglingReference trigger .slide target)
  | .setVariable target operation operand => player.setVariable trigger target operation operand
  | .showLayer target => player.setLayer trigger host target true
  | .hideLayer target => player.setLayer trigger host target false

def performAll (project : Project) (trigger : String) (host : Nat) :
    List Action → Player → Player × List Event
  | [], player => (player, [])
  | action :: rest, player =>
      let (player, events) := player.perform project trigger host action
      let (player, more) := performAll project trigger host rest player
      (player, events ++ more)

def fire (project : Project) (ref : TriggerRef) (player : Player) : Player × List Event :=
  match ref.resolve project with
  | some trigger => player.performAll project trigger.id ref.slide trigger.actions
  | none => (player, [])

-- Ends a navigation, unless another slide is current by now.
def settle (project : Project) (index : Nat) (player : Player) : Player :=
  match project.slides[index]? with
  | some slide =>
      if player.current = some index then { player with phase := .active slide.id } else player
  | none => player

def doItem (project : Project) (item : WorkItem) (player : Player) : Player × List Event :=
  match item with
  | .fire ref => player.fire project ref
  | .settle index => (player.settle project index, [])

def work (project : Project) : Nat → Player → Player × List Turn
  | 0, player => (player, [])
  | steps + 1, player =>
      match player.queue.next? with
      | none => (player, [])
      | some (item, rest) =>
          let (player, events) := { player with queue := rest }.doItem project item
          let (player, turns) := work project steps player
          (player, ⟨item, events⟩ :: turns)

def arrive (player : Player) : Player :=
  match player.phase, player.current with
  | .navigating slide, some _ => { player with phase := .active slide }
  | _, _ => player

def dropWork (player : Player) : Player × List Event :=
  match player.queue.next? with
  | none => (player, [])
  | some _ =>
      { player with queue := .empty }.report (.stepLimitExceeded player.options.maxQueueSteps)

def drain (project : Project) (player : Player) : Player × List Event :=
  let (player, turns) := player.work project player.options.maxQueueSteps
  let (player, dropped) := player.dropWork
  (player.arrive, turns.flatMap (·.events) ++ dropped)

def stop (player : Player) : Player :=
  { options := player.options, project := player.project, faults := player.faults }

def enterAndDrain (project : Project) (index : Nat) (player : Player) : Player × List Event :=
  let (player, entered) := player.enterSlide project index
  let (player, events) := player.drain project
  (player, entered ++ events)

def restart (player : Player) : Player × List Event :=
  let player := player.stop
  match player.project with
  | none => (player, [])
  | some project =>
      let player := { player with store := .seed project }
      if project.slides.isEmpty then (player, []) else player.enterAndDrain project 0

def loadUnchecked (project : Project) (player : Player) : Player × List Event :=
  { player with project := some project }.restart

def load (project : Project) (player : Player) : Except Failure (Player × List Event) := do
  if player.options.validateOnLoad then
    let _ ← project.validated
  return player.loadUnchecked project

def active (player : Player) : Except Failure (Project × Nat) :=
  match player.project, player.current with
  | none, _ => .error .noProject
  | some _, none => .error .noSlide
  | some project, some index => .ok (project, index)

def dispatch (project : Project) (triggers : List TriggerRef) (player : Player) :
    Player × List Event :=
  { player with queue := player.queue.append (triggers.map WorkItem.fire) }.drain project

def click (id : String) (player : Player) : Except Failure (Nat × Player × List Event) := do
  let (project, index) ← player.active
  match project.clicked? index id with
  | some triggers => return (triggers.length, player.dispatch project triggers)
  | none => .error (.dangling .object id)

def shows (player : Player) (layer : Layer) : Bool :=
  (player.layers.isVisible? layer.id).getD layer.visible

def pointerDown (point : Point) (player : Player) :
    Except Failure (Option String × Player × List Event) := do
  let (project, index) ← player.active
  match project.pointed? index player.shows point with
  | some (id, triggers) => return (some id, player.dispatch project triggers)
  | none => return (none, player, [])

-- Makes a slide current as if it were navigated to. Entering a slide from idle starts a
-- fresh session on it.
def enter (id : String) (player : Player) : Except Failure (Player × List Event) :=
  match player.project with
  | none => .error .noProject
  | some project =>
      match project.slideIndex? id with
      | none => .error (.dangling .slide id)
      | some index =>
          let player :=
            if player.current.isNone then { player with store := .seed project } else player
          .ok (player.enterAndDrain project index)

def takeFaults (player : Player) : List Fault × Player :=
  (player.faults.toList, { player with faults := #[] })

end Player

end Slideshow
