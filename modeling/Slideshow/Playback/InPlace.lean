import Slideshow.Playback.Command

set_option autoImplicit false

namespace Slideshow

-- What a step changes stays changed and what it reports is heard at once, so a step that fails
-- ends a command but takes nothing back.
structure Stage where
  player : Player
  heard : List Event := []

abbrev Performance := EStateM Failure Stage

namespace Performance

def look : Performance Player := return (← get).player

def change (step : Player → Player × List Event) : Performance Unit :=
  modify fun stage => ⟨(step stage.player).1, stage.heard ++ (step stage.player).2⟩

def put (next : Player → Player) : Performance Unit :=
  change fun player => (next player, [])

def check {α : Type} : Except Failure α → Performance α
  | .ok result => return result
  | .error failure => throw failure

def require {α : Type} (failure : Failure) : Option α → Performance α
  | some found => return found
  | none => throw failure

def begin (project : Project) (index : Nat) : Performance Unit := do
  change (·.enterSlide project index)
  change (·.drain project)

def restart : Performance Unit := do
  put (·.stop)
  match (← look).project with
  | none => return
  | some project =>
      put fun player => { player with store := .seed project }
      if project.slides.isEmpty then return else begin project 0

def loadUnchecked (project : Project) : Performance Unit := do
  put fun player => { player with project := some project }
  restart

def load (project : Project) : Performance Unit := do
  if (← look).options.validateOnLoad then
    let _ ← check project.validated
  loadUnchecked project

def dispatch (project : Project) (triggers : List TriggerRef) : Performance Unit := do
  put fun player => { player with queue := player.queue.append (triggers.map .fire) }
  change (·.drain project)

def click (id : String) : Performance Nat := do
  let (project, index) ← check (← look).active
  let triggers ← require (.dangling .object id) (project.clicked? index id)
  dispatch project triggers
  return triggers.length

def pointerDown (point : Point) : Performance (Option String) := do
  let (project, index) ← check (← look).active
  match project.pointed? index (← look).shows point with
  | none => return none
  | some (id, triggers) =>
      dispatch project triggers
      return some id

def enter (id : String) : Performance Unit := do
  let project ← require .noProject (← look).project
  let index ← require (.dangling .slide id) (project.slideIndex? id)
  if (← look).current.isNone then
    put fun player => { player with store := .seed project }
  begin project index

def takeFaults : Performance (List Fault) := do
  let faults := (← look).faults.toList
  put fun player => { player with faults := #[] }
  return faults

def obey : Command → Performance Reply
  | .load project => do load project; return .done
  | .loadUnchecked project => do loadUnchecked project; return .done
  | .restart => do restart; return .done
  | .stop => do put (·.stop); return .done
  | .click id => return .fired (← click id)
  | .pointerDown point => return .hit (← pointerDown point)
  | .enter id => do enter id; return .done
  | .takeFaults => return .faults (← takeFaults)

end Performance

end Slideshow
