import Slideshow.Playback.Command

set_option autoImplicit false

namespace Slideshow

inductive Lapse where
  | noSlide (index : Nat)
  | noObject (position : ObjectPosition)
  | noTrigger (ref : TriggerRef)
  | unwritten (target : String)
  | valueless (target : String)
  | strange (failure : Failure)
  | unknownLayer (id : String)

-- A lapse is something that a step takes for granted and that is not there. A command that is
-- refused is no lapse, nor is a fault of an action.
abbrev Careful := Except Lapse

namespace Careful

def expect {α : Type} (lapse : Lapse) : Option α → Careful α
  | some found => return found
  | none => throw lapse

def slideAt (project : Project) (index : Nat) : Careful Slide :=
  expect (.noSlide index) project.slides[index]?

def clickTriggers (slide : Slide) (index : Nat) (position : ObjectPosition) : Careful (List TriggerRef) := do
  let layer ← expect (.noObject position) slide.layers[position.layer]?
  let object ← expect (.noObject position) layer.objects[position.object]?
  return (object.triggersFor .onClick).map fun t => ⟨index, position.layer, position.object, t⟩

def shows (player : Player) (layer : Layer) : Careful Bool :=
  expect (.unknownLayer layer.id) (player.layers.isVisible? layer.id)

def hitAmong? (player : Player) (point : Point) :
    List (Layer × Nat) → Careful (Option (ObjectPosition × SlideObject))
  | [] => return none
  | (layer, i) :: rest => do
      if ← shows player layer then
        match lastIndexed? (·.isAt point) layer.objects with
        | some (object, j) => return some (⟨i, j⟩, object)
        | none => hitAmong? player point rest
      else hitAmong? player point rest

def enterSlide (project : Project) (index : Nat) (player : Player) : Careful (Player × List Event) := do
  let slide ← slideAt project index
  return ({ player with
      phase := .navigating slide.id
      current := some index
      layers := .ofSlide slide
      queue := player.queue.append (slide.entryWork index) },
    [.slideChanged player.currentSlideId? slide.id])

def setVariable (trigger target : String) (operation : SetOperation) (operand : Option Value)
    (player : Player) : Careful (Player × List Event) :=
  if player.store.contains target then
    match operation.apply (player.store.get? target) operand with
    | .error cause => return player.report (.typeMismatch trigger target cause)
    | .ok value =>
        match player.store.set target value with
        | .error _ => throw (.unwritten target)
        | .ok (old, store) => do
            let value ← expect (.valueless target) (store.get? target)
            return ({ player with store },
              if old == some value then [] else [.variableChanged target old value])
  else return player.report (.danglingReference trigger .variable target)

def setLayer (trigger : String) (host : Nat) (target : String) (visible : Bool) (player : Player) :
    Careful (Player × List Event) :=
  if player.current = some host then
    match player.layers.set target visible with
    | .ok (changed, layers) =>
        return ({ player with layers }, if changed then [.layerChanged target visible] else [])
    | .error (.dangling kind id) => return player.report (.danglingReference trigger kind id)
    | .error failure => throw (.strange failure)
  else return (player, [])

def perform (project : Project) (trigger : String) (host : Nat) (action : Action) (player : Player) :
    Careful (Player × List Event) :=
  match action with
  | .navigateToSlide target =>
      match project.slideIndex? target with
      | some index => enterSlide project index player
      | none => return player.report (.danglingReference trigger .slide target)
  | .setVariable target operation operand => setVariable trigger target operation operand player
  | .showLayer target => setLayer trigger host target true player
  | .hideLayer target => setLayer trigger host target false player

def performAll (project : Project) (trigger : String) (host : Nat) :
    List Action → Player → Careful (Player × List Event)
  | [], player => return (player, [])
  | action :: rest, player => do
      let (player, events) ← perform project trigger host action player
      let (player, more) ← performAll project trigger host rest player
      return (player, events ++ more)

def fire (project : Project) (ref : TriggerRef) (player : Player) : Careful (Player × List Event) := do
  let trigger ← expect (.noTrigger ref) (ref.resolve project)
  performAll project trigger.id ref.slide trigger.actions player

def settle (project : Project) (index : Nat) (player : Player) : Careful Player :=
  if player.current = some index then do
    let slide ← slideAt project index
    return { player with phase := .active slide.id }
  else return player

def doItem (project : Project) (item : WorkItem) (player : Player) : Careful (Player × List Event) :=
  match item with
  | .fire ref => fire project ref player
  | .settle index => return (← settle project index player, [])

def work (project : Project) : Nat → Player → Careful (Player × List Turn)
  | 0, player => return (player, [])
  | steps + 1, player =>
      match player.queue.next? with
      | none => return (player, [])
      | some (item, rest) => do
          let (player, events) ← doItem project item { player with queue := rest }
          let (player, turns) ← work project steps player
          return (player, ⟨item, events⟩ :: turns)

def drain (project : Project) (player : Player) : Careful (Player × List Event) := do
  let (player, turns) ← work project player.options.maxQueueSteps player
  let (player, dropped) := player.dropWork
  return (player.arrive, turns.flatMap (·.events) ++ dropped)

def enterAndDrain (project : Project) (index : Nat) (player : Player) : Careful (Player × List Event) := do
  let (player, entered) ← enterSlide project index player
  let (player, events) ← drain project player
  return (player, entered ++ events)

def restart (player : Player) : Careful (Player × List Event) :=
  let player := player.stop
  match player.project with
  | none => return (player, [])
  | some project =>
      let player := { player with store := .seed project }
      if project.slides.isEmpty then return (player, []) else enterAndDrain project 0 player

def loadUnchecked (project : Project) (player : Player) : Careful (Player × List Event) :=
  restart { player with project := some project }

def load (project : Project) (player : Player) : Careful (Except Failure (Player × List Event)) :=
  match if player.options.validateOnLoad then project.validated else .ok project with
  | .error failure => return .error failure
  | .ok _ => return .ok (← loadUnchecked project player)

def dispatch (project : Project) (index : Nat) (position : ObjectPosition) (player : Player) :
    Careful (Nat × Player × List Event) := do
  let slide ← slideAt project index
  let triggers ← clickTriggers slide index position
  let result ← drain project { player with queue := player.queue.append (triggers.map WorkItem.fire) }
  return (triggers.length, result)

def click (id : String) (player : Player) : Careful (Except Failure (Nat × Player × List Event)) :=
  match player.active with
  | .error failure => return .error failure
  | .ok (project, index) => do
      let slide ← slideAt project index
      match slide.locate? id with
      | none => return .error (.dangling .object id)
      | some position => return .ok (← dispatch project index position player)

def pointerDown (point : Point) (player : Player) :
    Careful (Except Failure (Option String × Player × List Event)) :=
  match player.active with
  | .error failure => return .error failure
  | .ok (project, index) => do
      let slide ← slideAt project index
      match ← hitAmong? player point slide.layers.zipIdx.reverse with
      | none => return .ok (none, player, [])
      | some (position, object) =>
          let (_, result) ← dispatch project index position player
          return .ok (some object.id, result)

def enter (id : String) (player : Player) : Careful (Except Failure (Player × List Event)) :=
  match player.project with
  | none => return .error .noProject
  | some project =>
      match project.slideIndex? id with
      | none => return .error (.dangling .slide id)
      | some index => do
          let player :=
            if player.current.isNone then { player with store := .seed project } else player
          return .ok (← enterAndDrain project index player)

def respond (command : Command) (player : Player) : Careful (Except Failure Response) :=
  match command with
  | .load project => return (← load project player).map Player.done
  | .loadUnchecked project => return .ok (Player.done (← loadUnchecked project player))
  | .restart => return .ok (Player.done (← restart player))
  | .stop => return .ok ⟨.done, player.stop, []⟩
  | .click id => return (← click id player).map fun (fired, player, events) => ⟨.fired fired, player, events⟩
  | .pointerDown point =>
      return (← pointerDown point player).map fun (hit, player, events) => ⟨.hit hit, player, events⟩
  | .enter id => return (← enter id player).map Player.done
  | .takeFaults => return .ok ⟨.faults player.takeFaults.1, player.takeFaults.2, []⟩

end Careful

end Slideshow
