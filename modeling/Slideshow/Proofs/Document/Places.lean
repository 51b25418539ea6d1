import Slideshow.Document.Encode
import Slideshow.Proofs.Json.Written
import Slideshow.Proofs.Validation.Violation

set_option autoImplicit false

namespace Slideshow

namespace Json

-- Of members with one name the first one is taken; no document has two.
def step? : Json → PathStep → Option Json
  | .object members, .member name => members.lookup name
  | .list elements, .element n => elements[n]?
  | _, _ => none

def walk? (json : Json) (path : List PathStep) : Option Json :=
  path.foldlM step? json

def Elements.get? : Elements → Nat → Option Outline
  | .next element _, 0 => some element
  | .next _ rest, n + 1 => rest.get? n
  | _, _ => none

def Members.lookup : Members → String → Option Outline
  | .next (.ok known) value rest, name => if name = known then some value else rest.lookup name
  | .next (.error _) _ rest, name => rest.lookup name
  | _, _ => none

def Outline.step? : Outline → PathStep → Option Outline
  | .object members, .member name => members.lookup name
  | .list elements, .element n => elements.get? n
  | _, _ => none

def Outline.walk? (outline : Outline) (path : List PathStep) : Option Outline :=
  path.foldlM step? outline

theorem outline_elements_get : (elements : List Json) → (n : Nat) →
    (outlineElements elements).get? n = elements[n]?.map outline
  | [], _ => rfl
  | _ :: _, 0 => rfl
  | _ :: rest, n + 1 => outline_elements_get rest n

theorem outline_members_lookup (members : List (String × Json)) (name : String) :
    (outlineMembers members).lookup name = (members.lookup name).map outline := by
  induction members with
  | nil => rfl
  | cons member rest ih =>
      obtain ⟨known, value⟩ := member
      by_cases same : name = known
      · simp [outlineMembers, Members.lookup, same]
      · simp [outlineMembers, Members.lookup, same, List.lookup_cons, beq_eq_false_iff_ne.mpr same, ih]

theorem outline_step (json : Json) (step : PathStep) :
    json.outline.step? step = (json.step? step).map outline := by
  cases json with
  | object members => cases step with
    | member name => exact outline_members_lookup members name
    | element n => rfl
  | list elements => cases step with
    | member name => rfl
    | element n => exact outline_elements_get elements n
  | _ => rfl

theorem outline_walk (json : Json) (path : List PathStep) :
    json.outline.walk? path = (json.walk? path).map outline := by
  induction path generalizing json with
  | nil => rfl
  | cons step rest ih =>
      simp only [Outline.walk?, walk?, List.foldlM_cons, outline_step] at ih ⊢
      cases json.step? step with
      | none => rfl
      | some node => exact ih node

theorem walk_through {json node : Json} {path : List PathStep} (rest : List PathStep)
    (reached : json.walk? path = some node) : json.walk? (path ++ rest) = node.walk? rest := by
  rw [walk?] at reached ⊢
  rw [List.foldlM_append, reached]
  rfl

theorem walk_element {α : Type} {json : Json} {path : List PathStep} {list : List α} {toJson : α → Json}
    {n : Nat} {a : α} (reached : json.walk? path = some (.list (list.map toJson)))
    (there : list[n]? = some a) : json.walk? (path ++ [.element n]) = some (toJson a) := by
  rw [walk_through _ reached]
  simp [walk?, step?, there]

end Json

section Document

variable {project : Project} {i : Nat} {slide : Slide} {j : Nat} {layer : Layer} {site : TriggerSite}

theorem slide_walked (there : project.slides[i]? = some slide) :
    project.toJson.walk? (slidePath i) = some slide.toJson := by
  have slides : project.toJson.walk? [.member "slides"] = some (.list (project.slides.map Slide.toJson)) :=
    rfl
  exact Json.walk_element slides there

theorem layer_walked (there : project.slides[i]? = some slide) (layerThere : slide.layers[j]? = some layer) :
    project.toJson.walk? (layerPath i j) = some layer.toJson := by
  have layers : slide.toJson.walk? [.member "layers"] = some (.list (slide.layers.map Layer.toJson)) := rfl
  exact (Json.walk_through _ (slide_walked there)).trans (Json.walk_element layers layerThere)

theorem object_triggers_walked (object : SlideObject) :
    object.toJson.walk? [.member "triggers"] = some (.list (object.triggers.map Trigger.toJson)) := by
  cases kind : object.kind <;>
    simp [SlideObject.toJson, kind, ObjectKind.members, Json.walk?, Json.step?, List.lookup_cons]

theorem trigger_actions_walked (trigger : Trigger) :
    trigger.toJson.walk? [.member "actions"] = some (.list (trigger.actions.map Action.toJson)) := by
  cases target : trigger.target <;>
    simp [Trigger.toJson, target, optionalMember, Json.walk?, Json.step?, List.lookup_cons]

theorem trigger_walked (there : project.slides[i]? = some slide) (on : site.On slide) :
    project.toJson.walk? (site.path i) = some site.trigger.toJson := by
  obtain ⟨layer, layerThere, hostThere, triggerThere⟩ := on
  have objects : layer.toJson.walk? [.member "objects"] =
      some (.list (layer.objects.map SlideObject.toJson)) := rfl
  calc project.toJson.walk? (site.path i)
      = layer.toJson.walk? ([.member "objects", .element site.object] ++
          [.member "triggers", .element site.index]) := Json.walk_through _ (layer_walked there layerThere)
    _ = site.host.toJson.walk? [.member "triggers", .element site.index] :=
        Json.walk_through _ (Json.walk_element objects hostThere)
    _ = some site.trigger.toJson := Json.walk_element (object_triggers_walked site.host) triggerThere

theorem action_walked {a : Nat} {action : Action} (there : project.slides[i]? = some slide)
    (on : site.On slide) (actionThere : site.trigger.actions[a]? = some action) (name : String) :
    project.toJson.walk? (Violation.actionPath i site a name) = action.toJson.walk? [.member name] := by
  have reached := Json.walk_element (trigger_actions_walked site.trigger) actionThere
  calc project.toJson.walk? (Violation.actionPath i site a name)
      = site.trigger.toJson.walk? ([.member "actions", .element a] ++ [.member name]) :=
        Json.walk_through _ (trigger_walked there on)
    _ = action.toJson.walk? [.member name] := Json.walk_through _ reached

end Document

end Slideshow
