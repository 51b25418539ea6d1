import Slideshow.Proofs.Document.Records

set_option autoImplicit false

namespace Slideshow

open Json (outlineMembers)

def Point.floats (point : Point) : List Float := [point.x, point.y]

def Size.floats (size : Size) : List Float := [size.width, size.height]

def ObjectKind.floats : ObjectKind → List Float
  | .text _ fontSize _ => [fontSize]
  | _ => []

def Action.floats : Action → List Float
  | .setVariable _ _ (some operand) => operand.floats
  | _ => []

def Trigger.floats (trigger : Trigger) : List Float :=
  trigger.actions.flatMap Action.floats

def SlideObject.floats (object : SlideObject) : List Float :=
  object.position.floats ++ object.size.floats ++ object.kind.floats ++
    object.triggers.flatMap Trigger.floats

def Layer.floats (layer : Layer) : List Float :=
  layer.objects.flatMap SlideObject.floats

def Slide.floats (slide : Slide) : List Float :=
  slide.width :: slide.height :: slide.layers.flatMap Layer.floats

def Variable.floats (v : Variable) : List Float :=
  v.value.toList.flatMap Value.floats

def Project.floats (project : Project) : List Float :=
  project.slides.flatMap Slide.floats ++ project.declarations.flatMap Variable.floats

section Agreements

variable {intact : Float → Prop} {float : Float → Float → Prop} {value : Value → Value → Prop}

theorem point_kept {point : Point → Point → Prop}
    (split : ∀ result written, point result written ↔
      float result.x written.x ∧ float result.y written.y)
    (floats : Kept intact float Json.ofFloat (fun x => [x]) fun place => place.outline.asFloat) :
    Kept intact point Point.toJson Point.floats Point.shape.read := by
  intro written levels
  rw [point_read]
  refine yields_opened levels _ _ _ _ fun inner => ?_
  have x := floats written.x inner
  have y := floats written.y inner
  simp only [yields_bind, yields_pure, split, yields_and, yields_and_left, x, y]
  simp [Point.floats, Json.depthMembers, Value.depth_of_float]

theorem size_kept {size : Size → Size → Prop}
    (split : ∀ result written, size result written ↔
      float result.width written.width ∧ float result.height written.height)
    (floats : Kept intact float Json.ofFloat (fun x => [x]) fun place => place.outline.asFloat) :
    Kept intact size Size.toJson Size.floats Size.shape.read := by
  intro written levels
  rw [size_read]
  refine yields_opened levels _ _ _ _ fun inner => ?_
  have width := floats written.width inner
  have height := floats written.height inner
  simp only [yields_bind, yields_pure, split, yields_and, yields_and_left, width, height]
  simp [Size.floats, Json.depthMembers, Value.depth_of_float]

theorem kind_kept {kind : ObjectKind → ObjectKind → Prop}
    (texts : ∀ content x fontSize color,
      kind (.text content x color) (.text content fontSize color) ↔ float x fontSize)
    (images : ∀ path, kind (.image path) (.image path))
    (buttons : ∀ label, kind (.button label) (.button label))
    (floats : Kept intact float Json.ofFloat (fun x => [x]) fun place => place.outline.asFloat)
    (written : ObjectKind) (levels : Nat) :
    (Yields ((outlineMembers written.members).jsons levels) fun members =>
      Yields (ObjectKind.ofMembers members) fun result => kind result written) ↔
      Json.depthMembers written.members ≤ levels ∧ ∀ x ∈ written.floats, intact x := by
  rw [← yields_bind, kind_read]
  cases written with
  | text content fontSize color =>
      have size := floats fontSize levels
      simp only [yields_bind, yields_pure, texts, size]
      simp [ObjectKind.floats, ObjectKind.members, Json.depthMembers, Json.depth, Value.depth_of_float]
  | image path =>
      simp [yields_pure, images, ObjectKind.floats, ObjectKind.members, Json.depthMembers, Json.depth]
  | button label =>
      simp [yields_pure, buttons, ObjectKind.floats, ObjectKind.members, Json.depthMembers, Json.depth]

theorem optional_kept (values : Kept intact value Value.toJson Value.floats readValue)
    (written : Option Value) (levels : Nat) :
    (Yields (readOptional written levels) fun result => Option.Rel value result written) ↔
      Json.depthMembers (optionalMember "value" (written.map Value.toJson)) ≤ levels ∧
        ∀ x ∈ written.toList.flatMap Value.floats, intact x := by
  cases written with
  | none => simp [readOptional, yields_pure, optionalMember, Json.depthMembers]
  | some operand =>
      have present := values operand levels
      simp only [readOptional, Option.mapM_some, yields_map, Option.rel_some_some, present]
      simp [optionalMember, Json.depthMembers]

theorem action_kept {action : Action → Action → Prop}
    (sets : ∀ target operation result operand, action (.setVariable target operation result)
      (.setVariable target operation operand) ↔ Option.Rel value result operand)
    (navigations : ∀ target, action (.navigateToSlide target) (.navigateToSlide target))
    (shows : ∀ target, action (.showLayer target) (.showLayer target))
    (hides : ∀ target, action (.hideLayer target) (.hideLayer target))
    (values : Kept intact value Value.toJson Value.floats readValue) :
    Kept intact action Action.toJson Action.floats Action.read := by
  intro written levels
  rw [action_read]
  -- Of all actions only one carries a value.
  cases written with
  | setVariable target operation operand =>
      refine yields_opened levels _ _ _ _ fun inner => ?_
      have present := optional_kept values operand inner
      simp only [yields_bind, yields_pure, sets, present]
      cases operand <;> simp [Action.floats, Json.depthMembers, Json.depth]
  | navigateToSlide target | showLayer target | hideLayer target =>
      refine yields_opened levels _ _ _ _ fun inner => ?_
      simp [yields_pure, navigations, shows, hides, Action.floats, Json.depthMembers, Json.depth]

theorem trigger_kept {trigger : Trigger → Trigger → Prop} {action : Action → Action → Prop}
    (split : ∀ result written, trigger result written ↔ result.id = written.id ∧
      result.event = written.event ∧ result.target = written.target ∧
      List.Forall₂ action result.actions written.actions)
    (actions : Kept intact action Action.toJson Action.floats Action.read) :
    Kept intact trigger Trigger.toJson Trigger.floats Trigger.shape.read := by
  intro written levels
  rw [trigger_read]
  refine yields_opened levels _ _ _ _ fun inner => ?_
  have inside := list_kept actions written.actions inner
  simp only [yields_bind, yields_pure, split, true_and, inside]
  cases written.target <;>
    simp [Trigger.floats, Json.depthMembers, Json.depth, optionalMember]

theorem depth_append (members rest : List (String × Json)) :
    Json.depthMembers (members ++ rest) = max (Json.depthMembers members) (Json.depthMembers rest) := by
  induction members with
  | nil => simp [Json.depthMembers]
  | cons member later ih => rw [List.cons_append, Json.depthMembers, Json.depthMembers, ih, Nat.max_assoc]

theorem object_kept {object : SlideObject → SlideObject → Prop} {point : Point → Point → Prop}
    {size : Size → Size → Prop} {kind : ObjectKind → ObjectKind → Prop} {trigger : Trigger → Trigger → Prop}
    (split : ∀ result written, object result written ↔ result.id = written.id ∧
      result.name = written.name ∧ point result.position written.position ∧
      size result.size written.size ∧ result.visible = written.visible ∧
      kind result.kind written.kind ∧ List.Forall₂ trigger result.triggers written.triggers)
    (points : Kept intact point Point.toJson Point.floats Point.shape.read)
    (sizes : Kept intact size Size.toJson Size.floats Size.shape.read)
    (kinds : ∀ (written : ObjectKind) (levels : Nat),
      (Yields ((outlineMembers written.members).jsons levels) fun members =>
        Yields (ObjectKind.ofMembers members) fun result => kind result written) ↔
        Json.depthMembers written.members ≤ levels ∧ ∀ x ∈ written.floats, intact x)
    (triggers : Kept intact trigger Trigger.toJson Trigger.floats Trigger.shape.read) :
    Kept intact object SlideObject.toJson SlideObject.floats SlideObject.shape.readNamed := by
  intro written levels
  rw [object_read]
  refine yields_opened levels _ _ _ _ fun inner => ?_
  have position := points written.position inner
  have extent := sizes written.size inner
  have inside := list_kept triggers written.triggers inner
  have shown := kinds written.kind inner
  simp only [yields_bind, yields_pure, split, true_and, yields_and, yields_and_left, position, extent,
    inside, shown]
  simp only [SlideObject.floats, Json.depthMembers, Json.depth, depth_append, List.cons_append,
    List.nil_append, Nat.max_le, Nat.zero_le, true_and, and_true, List.forall_mem_append]
  constructor
  · rintro ⟨⟨depth, back⟩, ⟨depthSize, backSize⟩, ⟨depthKind, backKind⟩, depthTriggers, backTriggers⟩
    exact ⟨⟨depth, depthSize, depthKind, depthTriggers⟩, ⟨⟨back, backSize⟩, backKind⟩, backTriggers⟩
  · rintro ⟨⟨depth, depthSize, depthKind, depthTriggers⟩, ⟨⟨back, backSize⟩, backKind⟩, backTriggers⟩
    exact ⟨⟨depth, back⟩, ⟨depthSize, backSize⟩, ⟨depthKind, backKind⟩, depthTriggers, backTriggers⟩

theorem layer_kept {layer : Layer → Layer → Prop} {object : SlideObject → SlideObject → Prop}
    (split : ∀ result written, layer result written ↔ result.id = written.id ∧
      result.name = written.name ∧ result.visible = written.visible ∧
      List.Forall₂ object result.objects written.objects)
    (objects : Kept intact object SlideObject.toJson SlideObject.floats SlideObject.shape.readNamed) :
    Kept intact layer Layer.toJson Layer.floats Layer.shape.read := by
  intro written levels
  rw [layer_read]
  refine yields_opened levels _ _ _ _ fun inner => ?_
  have inside := list_kept objects written.objects inner
  simp only [yields_bind, yields_pure, split, true_and, inside]
  simp [Layer.floats, Json.depthMembers, Json.depth]

theorem slide_kept {slide : Slide → Slide → Prop} {layer : Layer → Layer → Prop}
    (split : ∀ result written, slide result written ↔ result.id = written.id ∧
      result.title = written.title ∧ float result.width written.width ∧
      float result.height written.height ∧ List.Forall₂ layer result.layers written.layers)
    (floats : Kept intact float Json.ofFloat (fun x => [x]) fun place => place.outline.asFloat)
    (layers : Kept intact layer Layer.toJson Layer.floats Layer.shape.read) :
    Kept intact slide Slide.toJson Slide.floats Slide.shape.read := by
  intro written levels
  rw [slide_read]
  refine yields_opened levels _ _ _ _ fun inner => ?_
  have width := floats written.width inner
  have height := floats written.height inner
  have inside := list_kept layers written.layers inner
  simp only [yields_bind, yields_pure, split, true_and, yields_and, yields_and_left, width, height, inside]
  simp only [Slide.floats, Json.depthMembers, Json.depth, Value.depth_of_float, Nat.max_le, Nat.zero_le,
    true_and, and_true, List.forall_mem_cons, List.not_mem_nil, false_implies, implies_true]
  constructor
  · rintro ⟨backWidth, backHeight, depth, back⟩
    exact ⟨depth, backWidth, backHeight, back⟩
  · rintro ⟨depth, backWidth, backHeight, back⟩
    exact ⟨backWidth, backHeight, depth, back⟩

theorem variable_kept {declaration : Variable → Variable → Prop}
    (split : ∀ result written, declaration result written ↔ result.id = written.id ∧
      result.name = written.name ∧ result.type = written.type ∧
      Option.Rel value result.value written.value)
    (values : Kept intact value Value.toJson Value.floats readValue) :
    Kept intact declaration Variable.toJson Variable.floats Variable.shape.read := by
  intro written levels
  rw [variable_read]
  refine yields_opened levels _ _ _ _ fun inner => ?_
  have present := optional_kept values written.value inner
  simp only [yields_bind, yields_pure, split, true_and, present]
  simp [Variable.floats, Json.depthMembers, Json.depth]

theorem project_kept {project : Project → Project → Prop} {slide : Slide → Slide → Prop}
    {declaration : Variable → Variable → Prop}
    (split : ∀ result written, project result written ↔ result.id = written.id ∧
      result.name = written.name ∧ List.Forall₂ slide result.slides written.slides ∧
      List.Forall₂ declaration result.declarations written.declarations)
    (slides : Kept intact slide Slide.toJson Slide.floats Slide.shape.read)
    (declarations : Kept intact declaration Variable.toJson Variable.floats Variable.shape.read) :
    Kept intact project Project.toJson Project.floats Project.shape.read := by
  intro written levels
  rw [project_read]
  refine yields_opened levels _ _ _ _ fun inner => ?_
  have first := list_kept slides written.slides inner
  have second := list_kept declarations written.declarations inner
  simp only [yields_bind, yields_pure, split, true_and, yields_and, yields_and_left, first, second]
  simp only [Project.floats, Json.depthMembers, Json.depth, Nat.max_le, Nat.zero_le, true_and, and_true,
    List.forall_mem_append]
  exact and_and_and_comm

end Agreements

end Slideshow
