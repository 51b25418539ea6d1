import Slideshow.Project.Basic
import Slideshow.Text.Blank
import Slideshow.Validation.Diagnostic

set_option autoImplicit false

namespace Slideshow

def duplicateIds (ids : List String) : List String :=
  ids.eraseDups.filter fun id => 1 < ids.count id

def quoteId (id : String) : String := "\"" ++ id ++ "\""

structure TriggerSite where
  layer : Nat
  object : Nat
  index : Nat
  host : SlideObject
  trigger : Trigger

def Slide.sites (slide : Slide) : List TriggerSite :=
  slide.layers.zipIdx.flatMap fun (layer, j) =>
    layer.objects.zipIdx.flatMap fun (host, k) =>
      host.triggers.zipIdx.map fun (trigger, t) => ⟨j, k, t, host, trigger⟩

def slidePath (i : Nat) : List PathStep := [.member "slides", .element i]

def layerPath (i j : Nat) : List PathStep := slidePath i ++ [.member "layers", .element j]

def triggerPath (i j k t : Nat) : List PathStep :=
  layerPath i j ++ [.member "objects", .element k, .member "triggers", .element t]

def TriggerSite.path (site : TriggerSite) (i : Nat) : List PathStep :=
  triggerPath i site.layer site.object site.index

def diagnosticIf (faulty : Bool) (diagnostic : Diagnostic) : List Diagnostic :=
  if faulty then [diagnostic] else []

namespace Validation

def projectName (project : Project) : List Diagnostic :=
  diagnosticIf (Text.isBlank project.name)
    ⟨.blankProjectName, [.member "name"], "project name must be non-blank"⟩

def slideIds (project : Project) : List Diagnostic :=
  (duplicateIds (project.slides.map (·.id))).map fun id =>
    ⟨.duplicateSlideId, [.member "slides"], "duplicate slide id " ++ quoteId id⟩

def variableIds (project : Project) : List Diagnostic :=
  (duplicateIds (project.declarations.map (·.id))).map fun id =>
    ⟨.duplicateVariableId, [.member "variables"], "duplicate variable id " ++ quoteId id⟩

def title (slide : Slide) (i : Nat) : List Diagnostic :=
  diagnosticIf (Text.isBlank slide.title)
    ⟨.blankSlideTitle, slidePath i ++ [.member "title"],
      "slide " ++ quoteId slide.id ++ ": title must be non-blank"⟩

def isPositive (length : Float) : Bool := 0 < length

def width (slide : Slide) (i : Nat) : List Diagnostic :=
  diagnosticIf (!isPositive slide.width)
    ⟨.invalidSlideWidth, slidePath i ++ [.member "width"],
      "slide " ++ quoteId slide.id ++ ": width must be > 0"⟩

def height (slide : Slide) (i : Nat) : List Diagnostic :=
  diagnosticIf (!isPositive slide.height)
    ⟨.invalidSlideHeight, slidePath i ++ [.member "height"],
      "slide " ++ quoteId slide.id ++ ": height must be > 0"⟩

def layerIds (slide : Slide) (i : Nat) : List Diagnostic :=
  (duplicateIds (slide.layers.map (·.id))).map fun id =>
    ⟨.duplicateLayerId, slidePath i ++ [.member "layers"],
      "slide " ++ quoteId slide.id ++ ": duplicate layer id " ++ quoteId id⟩

def objectIds (layer : Layer) (i j : Nat) : List Diagnostic :=
  (duplicateIds (layer.objects.map (·.id))).map fun id =>
    ⟨.duplicateObjectId, layerPath i j ++ [.member "objects"],
      "layer " ++ quoteId layer.id ++ ": duplicate object id " ++ quoteId id⟩

def emptyTriggers (layer : Layer) (i j : Nat) : List Diagnostic :=
  layer.objects.zipIdx.flatMap fun (object, k) =>
    object.triggers.zipIdx.flatMap fun (trigger, t) =>
      diagnosticIf trigger.actions.isEmpty
        ⟨.emptyTrigger, triggerPath i j k t ++ [.member "actions"],
          "trigger " ++ quoteId trigger.id ++ " on object " ++ quoteId object.id ++
            " has no actions"⟩

def slideStructure (slide : Slide) (i : Nat) : List Diagnostic :=
  title slide i ++ width slide i ++ height slide i ++ layerIds slide i ++
    slide.layers.zipIdx.flatMap fun (layer, j) => objectIds layer i j ++ emptyTriggers layer i j

def eachAction (slide : Slide) (i : Nat)
    (check : Trigger → List PathStep → Action → List Diagnostic) : List Diagnostic :=
  slide.sites.flatMap fun site =>
    site.trigger.actions.zipIdx.flatMap fun (action, a) =>
      check site.trigger (site.path i ++ [.member "actions", .element a]) action

def variableReference (project : Project) (trigger : Trigger) (path : List PathStep) :
    Action → List Diagnostic
  | .setVariable target _ _ =>
      diagnosticIf (!(project.declarations.map (·.id)).contains target)
        ⟨.missingVariable, path ++ [.member "variableId"],
          "trigger " ++ quoteId trigger.id ++ " references missing variable " ++ quoteId target⟩
  | _ => []

def slideReference (project : Project) (trigger : Trigger) (path : List PathStep) :
    Action → List Diagnostic
  | .navigateToSlide target =>
      diagnosticIf (!(project.slides.map (·.id)).contains target)
        ⟨.missingSlide, path ++ [.member "targetSlideId"],
          "trigger " ++ quoteId trigger.id ++ " references missing slide " ++ quoteId target⟩
  | _ => []

-- Layers are looked up on the slide that holds the action.
def layerReference (slide : Slide) (trigger : Trigger) (path : List PathStep) :
    Action → List Diagnostic
  | .showLayer target | .hideLayer target =>
      diagnosticIf (!(slide.layers.map (·.id)).contains target)
        ⟨.missingLayer, path ++ [.member "layerId"],
          "trigger " ++ quoteId trigger.id ++ " references layer " ++ quoteId target ++
            " which is not on slide " ++ quoteId slide.id⟩
  | _ => []

def targetReference (slide : Slide) (i : Nat) (site : TriggerSite) : List Diagnostic :=
  match site.trigger.target with
  | none => []
  | some target =>
      diagnosticIf (!(slide.objects.map (·.2.id)).contains target)
        ⟨.missingObject, site.path i ++ [.member "objectId"],
          "trigger " ++ quoteId site.trigger.id ++ " on object " ++ quoteId site.host.id ++
            " targets object " ++ quoteId target ++ " which is not on slide " ++ quoteId slide.id⟩

def eachSlide (project : Project) (check : Slide → Nat → List Diagnostic) : List Diagnostic :=
  project.slides.zipIdx.flatMap fun (slide, i) => check slide i

end Validation

open Validation in
def Project.diagnostics (project : Project) : List Diagnostic :=
  projectName project ++ slideIds project ++ variableIds project ++
    eachSlide project slideStructure ++
    eachSlide project (fun slide i => eachAction slide i (variableReference project)) ++
    eachSlide project (fun slide i => eachAction slide i (slideReference project)) ++
    eachSlide project (fun slide i => eachAction slide i (layerReference slide)) ++
    eachSlide project (fun slide i => slide.sites.flatMap (targetReference slide i))

def validate : Option Project → List Diagnostic
  | some project => project.diagnostics
  | none => [⟨.missingProject, [], "project is missing"⟩]

end Slideshow
