import Slideshow.Proofs.Ranked
import Slideshow.Validation.Validate

set_option autoImplicit false

namespace Slideshow

-- A slide, a layer and a trigger stand beside their positions; an action has only a position.
inductive Violation where
  | blankName
  | repeatedSlide (id : String)
  | repeatedVariable (id : String)
  | blankTitle (i : Nat) (slide : Slide)
  | noWidth (i : Nat) (slide : Slide)
  | noHeight (i : Nat) (slide : Slide)
  | repeatedLayer (i : Nat) (slide : Slide) (id : String)
  | repeatedObject (i : Nat) (slide : Slide) (j : Nat) (layer : Layer) (id : String)
  | emptyTrigger (i : Nat) (slide : Slide) (site : TriggerSite)
  | missingVariable (i : Nat) (slide : Slide) (site : TriggerSite) (a : Nat) (target : String)
  | missingSlide (i : Nat) (slide : Slide) (site : TriggerSite) (a : Nat) (target : String)
  | missingLayer (i : Nat) (slide : Slide) (site : TriggerSite) (a : Nat) (target : String)
  | missingObject (i : Nat) (slide : Slide) (site : TriggerSite) (target : String)

def TriggerSite.On (site : TriggerSite) (slide : Slide) : Prop :=
  ∃ layer, slide.layers[site.layer]? = some layer ∧ layer.objects[site.object]? = some site.host ∧
    site.host.triggers[site.index]? = some site.trigger

def BlankText (text : String) : Prop := ∀ c ∈ text.toList, Text.isSpace c = true

def Project.Violates (project : Project) : Violation → Prop
  | .blankName => BlankText project.name
  | .repeatedSlide id => 2 ≤ (project.slides.map (·.id)).count id
  | .repeatedVariable id => 2 ≤ (project.declarations.map (·.id)).count id
  | .blankTitle i slide => project.slides[i]? = some slide ∧ BlankText slide.title
  | .noWidth i slide => project.slides[i]? = some slide ∧ ¬ 0 < slide.width
  | .noHeight i slide => project.slides[i]? = some slide ∧ ¬ 0 < slide.height
  | .repeatedLayer i slide id =>
      project.slides[i]? = some slide ∧ 2 ≤ (slide.layers.map (·.id)).count id
  | .repeatedObject i slide j layer id =>
      project.slides[i]? = some slide ∧ slide.layers[j]? = some layer ∧
        2 ≤ (layer.objects.map (·.id)).count id
  | .emptyTrigger i slide site =>
      project.slides[i]? = some slide ∧ site.On slide ∧ site.trigger.actions = []
  | .missingVariable i slide site a target =>
      project.slides[i]? = some slide ∧ site.On slide ∧
        (∃ operation operand,
          site.trigger.actions[a]? = some (.setVariable target operation operand)) ∧
        ∀ v ∈ project.declarations, v.id ≠ target
  | .missingSlide i slide site a target =>
      project.slides[i]? = some slide ∧ site.On slide ∧
        site.trigger.actions[a]? = some (.navigateToSlide target) ∧
        ∀ other ∈ project.slides, other.id ≠ target
  -- Other slides may well have such a layer.
  | .missingLayer i slide site a target =>
      project.slides[i]? = some slide ∧ site.On slide ∧
        (site.trigger.actions[a]? = some (.showLayer target) ∨
          site.trigger.actions[a]? = some (.hideLayer target)) ∧
        ∀ layer ∈ slide.layers, layer.id ≠ target
  | .missingObject i slide site target =>
      project.slides[i]? = some slide ∧ site.On slide ∧ site.trigger.target = some target ∧
        ∀ layer ∈ slide.layers, ∀ object ∈ layer.objects, object.id ≠ target

namespace Violation

-- First the phase, then the place in the document; a repeated id has the place where it comes first.
def rank (project : Project) : Violation → List Nat
  | .blankName => [0]
  | .repeatedSlide id => [1, (project.slides.map (·.id)).idxOf id]
  | .repeatedVariable id => [2, (project.declarations.map (·.id)).idxOf id]
  | .blankTitle i _ => [3, i, 0]
  | .noWidth i _ => [3, i, 1]
  | .noHeight i _ => [3, i, 2]
  | .repeatedLayer i slide id => [3, i, 3, (slide.layers.map (·.id)).idxOf id]
  | .repeatedObject i _ j layer id => [3, i, 4, j, 0, (layer.objects.map (·.id)).idxOf id]
  | .emptyTrigger i _ site => [3, i, 4, site.layer, 1, site.object, site.index]
  | .missingVariable i _ site a _ => [4, i, site.layer, site.object, site.index, a]
  | .missingSlide i _ site a _ => [5, i, site.layer, site.object, site.index, a]
  | .missingLayer i _ site a _ => [6, i, site.layer, site.object, site.index, a]
  | .missingObject i _ site _ => [7, i, site.layer, site.object, site.index]

def actionPath (i : Nat) (site : TriggerSite) (a : Nat) (name : String) : List PathStep :=
  site.path i ++ [.member "actions", .element a, .member name]

def diagnostic : Violation → Diagnostic
  | .blankName =>
      ⟨.blankProjectName, [.member "name"], "project name must be non-blank"⟩
  | .repeatedSlide id =>
      ⟨.duplicateSlideId, [.member "slides"], "duplicate slide id " ++ quoteId id⟩
  | .repeatedVariable id =>
      ⟨.duplicateVariableId, [.member "variables"], "duplicate variable id " ++ quoteId id⟩
  | .blankTitle i slide =>
      ⟨.blankSlideTitle, slidePath i ++ [.member "title"],
        "slide " ++ quoteId slide.id ++ ": title must be non-blank"⟩
  | .noWidth i slide =>
      ⟨.invalidSlideWidth, slidePath i ++ [.member "width"],
        "slide " ++ quoteId slide.id ++ ": width must be > 0"⟩
  | .noHeight i slide =>
      ⟨.invalidSlideHeight, slidePath i ++ [.member "height"],
        "slide " ++ quoteId slide.id ++ ": height must be > 0"⟩
  | .repeatedLayer i slide id =>
      ⟨.duplicateLayerId, slidePath i ++ [.member "layers"],
        "slide " ++ quoteId slide.id ++ ": duplicate layer id " ++ quoteId id⟩
  | .repeatedObject i _ j layer id =>
      ⟨.duplicateObjectId, layerPath i j ++ [.member "objects"],
        "layer " ++ quoteId layer.id ++ ": duplicate object id " ++ quoteId id⟩
  | .emptyTrigger i _ site =>
      ⟨.emptyTrigger, site.path i ++ [.member "actions"],
        "trigger " ++ quoteId site.trigger.id ++ " on object " ++ quoteId site.host.id ++
          " has no actions"⟩
  | .missingVariable i _ site a target =>
      ⟨.missingVariable, actionPath i site a "variableId",
        "trigger " ++ quoteId site.trigger.id ++ " references missing variable " ++ quoteId target⟩
  | .missingSlide i _ site a target =>
      ⟨.missingSlide, actionPath i site a "targetSlideId",
        "trigger " ++ quoteId site.trigger.id ++ " references missing slide " ++ quoteId target⟩
  | .missingLayer i slide site a target =>
      ⟨.missingLayer, actionPath i site a "layerId",
        "trigger " ++ quoteId site.trigger.id ++ " references layer " ++ quoteId target ++
          " which is not on slide " ++ quoteId slide.id⟩
  | .missingObject i slide site target =>
      ⟨.missingObject, site.path i ++ [.member "objectId"],
        "trigger " ++ quoteId site.trigger.id ++ " on object " ++ quoteId site.host.id ++
          " targets object " ++ quoteId target ++ " which is not on slide " ++ quoteId slide.id⟩

end Violation

end Slideshow
