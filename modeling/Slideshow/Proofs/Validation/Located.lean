import Slideshow.Project.Build
import Slideshow.Proofs.Document.Places
import Slideshow.Proofs.Validation.Phases

set_option autoImplicit false

namespace Slideshow

namespace Json

def id? (json : Json) : Option String :=
  match json.walk? [.member "id"] with
  | some (.text id) => some id
  | _ => none

def Repeats (json : Json) (id : String) : Prop :=
  ∃ elements, json = .list elements ∧ 2 ≤ (elements.filterMap id?).count id

theorem repeats_of_count {α : Type} (list : List α) (idOf : α → String) (toJson : α → Json) (id : String)
    (named : ∀ a, (toJson a).id? = some (idOf a)) (twice : 2 ≤ (list.map idOf).count id) :
    (Json.list (list.map toJson)).Repeats id := by
  refine ⟨_, rfl, ?_⟩
  have ids : (list.map toJson).filterMap id? = list.map idOf := by
    simp [List.filterMap_map, named]
  rwa [ids]

end Json

namespace Violation

-- What the document has at the place of the violation.
def Marks : Violation → Json → Prop
  | .blankName, node | .blankTitle _ _, node => ∃ text, BlankText text ∧ node = .text text
  | .noWidth _ slide, node => ¬ 0 < slide.width ∧ node = .ofFloat slide.width
  | .noHeight _ slide, node => ¬ 0 < slide.height ∧ node = .ofFloat slide.height
  | .repeatedSlide id, node | .repeatedVariable id, node | .repeatedLayer _ _ id, node
  | .repeatedObject _ _ _ _ id, node => node.Repeats id
  | .emptyTrigger _ _ _, node => node = .list []
  | .missingVariable _ _ _ _ target, node | .missingSlide _ _ _ _ target, node
  | .missingLayer _ _ _ _ target, node | .missingObject _ _ _ target, node => node = .text target

theorem object_id (object : SlideObject) : object.toJson.id? = some object.id := by
  simp [SlideObject.toJson, Json.id?, Json.walk?, Json.step?]

theorem trigger_target_walked (trigger : Trigger) (target : String) (named : trigger.target = some target) :
    trigger.toJson.walk? [.member "objectId"] = some (.text target) := by
  simp [Trigger.toJson, named, optionalMember, Json.walk?, Json.step?, List.lookup_cons]

theorem located (project : Project) (v : Violation) (violated : project.Violates v) :
    ∃ node, project.toJson.walk? v.diagnostic.path = some node ∧ v.Marks node := by
  cases v with
  | blankName => exact ⟨_, rfl, _, violated, rfl⟩
  | repeatedSlide id => exact ⟨_, rfl, Json.repeats_of_count _ _ _ _ (fun _ => rfl) violated⟩
  | repeatedVariable id => exact ⟨_, rfl, Json.repeats_of_count _ _ _ _ (fun _ => rfl) violated⟩
  | blankTitle i slide =>
      obtain ⟨there, blank⟩ := violated
      exact ⟨_, Json.walk_through _ (slide_walked there), _, blank, rfl⟩
  | noWidth i slide =>
      obtain ⟨there, flat⟩ := violated
      exact ⟨_, Json.walk_through _ (slide_walked there), flat, rfl⟩
  | noHeight i slide =>
      obtain ⟨there, flat⟩ := violated
      exact ⟨_, Json.walk_through _ (slide_walked there), flat, rfl⟩
  | repeatedLayer i slide id =>
      obtain ⟨there, twice⟩ := violated
      exact ⟨_, Json.walk_through _ (slide_walked there),
        Json.repeats_of_count _ _ _ _ (fun _ => rfl) twice⟩
  | repeatedObject i slide j layer id =>
      obtain ⟨there, layerThere, twice⟩ := violated
      exact ⟨_, Json.walk_through _ (layer_walked there layerThere),
        Json.repeats_of_count _ _ _ _ object_id twice⟩
  | emptyTrigger i slide site =>
      obtain ⟨there, on, idle⟩ := violated
      refine ⟨_, (Json.walk_through _ (trigger_walked there on)).trans (trigger_actions_walked _), ?_⟩
      rw [idle]
      rfl
  | missingVariable i slide site a target =>
      obtain ⟨there, on, ⟨operation, operand, actionThere⟩, _⟩ := violated
      exact ⟨_, action_walked there on actionThere "variableId", rfl⟩
  | missingSlide i slide site a target =>
      obtain ⟨there, on, actionThere, _⟩ := violated
      exact ⟨_, action_walked there on actionThere "targetSlideId", rfl⟩
  | missingLayer i slide site a target =>
      obtain ⟨there, on, actionThere | actionThere, _⟩ := violated
      · exact ⟨_, action_walked there on actionThere "layerId", rfl⟩
      · exact ⟨_, action_walked there on actionThere "layerId", rfl⟩
  | missingObject i slide site target =>
      obtain ⟨there, on, named, _⟩ := violated
      exact ⟨_, (Json.walk_through _ (trigger_walked there on)).trans (trigger_target_walked _ _ named), rfl⟩

end Violation

/-- Each diagnostic of a project is that of a violation, and its path leads to what is at fault: in the
tree of the document, and in the text as it is read. -/
theorem diagnostics_lead_into_document (project : Project) (d : Diagnostic)
    (reported : d ∈ validate (some project)) :
    ∃ v node, project.Violates v ∧ d = v.diagnostic ∧ v.Marks node ∧
      project.toJson.walk? d.path = some node ∧
      (Json.Outline.ofSource (Json.Source.ofString project.encode)).1.walk? d.path = some node.outline := by
  have reports : validate (some project) = (Violation.phases project).flatten.map Violation.diagnostic :=
    (Violation.phases_diagnostics project).symm
  rw [reports] at reported
  obtain ⟨v, found, rfl⟩ := List.mem_map.mp reported
  have violated := (Violation.mem_phases project v).mp found
  obtain ⟨node, reached, marked⟩ := Violation.located project v violated
  refine ⟨v, node, violated, rfl, marked, reached, ?_⟩
  rw [Project.encode, Json.outline_written, Json.outline_walk, reached]
  rfl

def quiz : Project :=
  (Project.start "quiz" "Quiz").withSlide <| (Slide.start "question").withLayer <|
    (Layer.start "answers").withObject <| (SlideObject.button "yes" "Yes").withTrigger <|
      ((Trigger.start "right" .onClick).withTarget "yes").showLayer "praise"

def praiseMissing : Diagnostic :=
  ⟨.missingLayer,
    [.member "slides", .element 0, .member "layers", .element 0, .member "objects", .element 0,
      .member "triggers", .element 0, .member "actions", .element 0, .member "layerId"],
    "trigger \"right\" references layer \"praise\" which is not on slide \"question\""⟩

theorem quiz_leads_to_praise :
    praiseMissing ∈ validate (some quiz) ∧
      ∃ v node, quiz.Violates v ∧ praiseMissing = v.diagnostic ∧ v.Marks node ∧
        quiz.toJson.walk? praiseMissing.path = some node ∧
        (Json.Outline.ofSource (Json.Source.ofString quiz.encode)).1.walk? praiseMissing.path =
          some node.outline := by
  have reported : praiseMissing ∈ validate (some quiz) := by decide +kernel
  exact ⟨reported, diagnostics_lead_into_document quiz praiseMissing reported⟩

end Slideshow
