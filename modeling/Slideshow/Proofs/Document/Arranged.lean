import Slideshow.Proofs.Document.Records
import Slideshow.Proofs.Json.Reordered

set_option autoImplicit false

namespace Slideshow

open Json (Arranged Elements Entry Listed Outline Reordered)

namespace Json.Entry

variable {α : Type}

def just (name : String) (json : Json) : Entry where
  name := name
  stands outline := outline = json.outline

def default (name : String) (json : Json) (byDefault : Prop) : Entry where
  name := name
  stands outline := outline = json.outline
  optional := byDefault

def of (name : String) (arranged : α → Outline → Prop) (value : α) : Entry where
  name := name
  stands := arranged value

def listOrNone (name : String) (arranged : α → Outline → Prop) (values : List α) : Entry where
  name := name
  stands := Listed arranged values
  optional := values = []

def ofOption (name : String) (arranged : α → Outline → Prop) (value : Option α) : Entry where
  name := name
  stands outline := ∃ present, value = some present ∧ arranged present outline
  optional := value = none

end Json.Entry

def Value.Arranged (value : Value) : Outline → Prop := Reordered value.toJson

def Point.entries (point : Point) : List Entry :=
  [.just "x" (.ofFloat point.x), .just "y" (.ofFloat point.y)]

def Point.Arranged (point : Point) : Outline → Prop := Json.Arranged point.entries

def Size.entries (size : Size) : List Entry :=
  [.just "width" (.ofFloat size.width), .just "height" (.ofFloat size.height)]

def Size.Arranged (size : Size) : Outline → Prop := Json.Arranged size.entries

def Action.entries : Action → List Entry
  | .navigateToSlide target =>
      [.just "type" (.text "navigateToSlide"), .just "targetSlideId" (.text target)]
  | .setVariable target operation operand =>
      [.just "type" (.text "setVariable"), .just "variableId" (.text target),
        .default "operation" (.text operation.name) (operation = .assign),
        .ofOption "value" Value.Arranged operand]
  | .showLayer target => [.just "type" (.text "showLayer"), .just "layerId" (.text target)]
  | .hideLayer target => [.just "type" (.text "hideLayer"), .just "layerId" (.text target)]

def Action.Arranged (action : Action) : Outline → Prop := Json.Arranged action.entries

def Trigger.entries (trigger : Trigger) : List Entry :=
  [.just "id" (.text trigger.id), .just "triggerType" (.text trigger.event.name),
    .ofOption "objectId" (fun target outline => outline = (Json.text target).outline) trigger.target,
    .listOrNone "actions" Action.Arranged trigger.actions]

def Trigger.Arranged (trigger : Trigger) : Outline → Prop := Json.Arranged trigger.entries

def ObjectKind.entries : ObjectKind → List Entry
  | .text content fontSize color =>
      [.just "type" (.text "text"), .just "text" (.text content), .just "fontSize" (.ofFloat fontSize),
        .just "color" (.text color)]
  | .image sourcePath => [.just "type" (.text "image"), .just "sourcePath" (.text sourcePath)]
  | .button label => [.just "type" (.text "button"), .just "label" (.text label)]

def SlideObject.entries (object : SlideObject) : List Entry :=
  [.just "id" (.text object.id), .just "name" (.text object.name),
    .of "position" Point.Arranged object.position, .of "size" Size.Arranged object.size,
    .default "visible" (.bool object.visible) (object.visible = true)] ++ object.kind.entries ++
    [.listOrNone "triggers" Trigger.Arranged object.triggers]

def SlideObject.Arranged (object : SlideObject) : Outline → Prop := Json.Arranged object.entries

def Layer.entries (layer : Layer) : List Entry :=
  [.just "id" (.text layer.id), .just "name" (.text layer.name),
    .default "visible" (.bool layer.visible) (layer.visible = true),
    .listOrNone "objects" SlideObject.Arranged layer.objects]

def Layer.Arranged (layer : Layer) : Outline → Prop := Json.Arranged layer.entries

def Slide.entries (slide : Slide) : List Entry :=
  [.just "id" (.text slide.id), .just "title" (.text slide.title), .just "width" (.ofFloat slide.width),
    .just "height" (.ofFloat slide.height), .listOrNone "layers" Layer.Arranged slide.layers]

def Slide.Arranged (slide : Slide) : Outline → Prop := Json.Arranged slide.entries

def Variable.entries (v : Variable) : List Entry :=
  [.just "id" (.text v.id), .just "name" (.text v.name), .just "type" (.text v.type.name),
    .ofOption "value" Value.Arranged v.value]

def Variable.Arranged (v : Variable) : Outline → Prop := Json.Arranged v.entries

def Project.entries (project : Project) : List Entry :=
  [.just "id" (.text project.id), .just "name" (.text project.name),
    .of "slides" (Listed Slide.Arranged) project.slides,
    .of "variables" (Listed Variable.Arranged) project.declarations]

def Project.Arranged (project : Project) : Outline → Prop := Json.Arranged project.entries

section Written

open Json (Chosen)

def outlined (members : List (String × Json)) : List (String × Outline) :=
  members.map fun member => (member.1, member.2.outline)

theorem arranged_written (entries : List Entry) (members : List (String × Json))
    (chosen : Chosen entries (outlined members)) : Json.Arranged entries (Json.object members).outline := by
  refine ⟨outlined members, outlined members, [], ?_, chosen, ?_, ?_⟩
  · rw [Json.outline, Json.members_of_list]
    rfl
  · intro member inNothing
    cases inNothing
  · rw [List.append_nil]

theorem listed_written {α : Type} (arranged : α → Outline → Prop) (toJson : α → Json)
    (written : ∀ value, arranged value (toJson value).outline) (values : List α) :
    Listed arranged values (Json.list (values.map toJson)).outline := by
  refine ⟨(values.map toJson).map Json.outline, by rw [Json.outline, Json.elements_of_list], ?_⟩
  induction values with
  | nil => exact .nil
  | cons value rest ih => exact .cons (written value) ih

theorem chosen_option {α : Type} (name : String) (arranged : α → Outline → Prop) (toJson : α → Json)
    (written : ∀ value, arranged value (toJson value).outline) (value : Option α) (entries : List Entry)
    (members : List (String × Json)) (rest : Chosen entries (outlined members)) :
    Chosen (.ofOption name arranged value :: entries)
      (outlined (optionalMember name (value.map toJson) ++ members)) := by
  cases value with
  | none => exact .omitted rfl rest
  | some present => exact .here ⟨present, rfl, written present⟩ rest

theorem point_written (point : Point) : point.Arranged point.toJson.outline :=
  arranged_written point.entries _ (.here rfl (.here rfl .nil))

theorem size_written (size : Size) : size.Arranged size.toJson.outline :=
  arranged_written size.entries _ (.here rfl (.here rfl .nil))

theorem value_written (value : Value) : value.Arranged value.toJson.outline :=
  Json.reordered_refl value.toJson

theorem action_written (action : Action) : action.Arranged action.toJson.outline := by
  cases action with
  | navigateToSlide target | showLayer target | hideLayer target =>
      exact arranged_written _ _ (.here rfl (.here rfl .nil))
  | setVariable target operation operand =>
      have chosen := chosen_option "value" Value.Arranged Value.toJson value_written operand [] [] .nil
      rw [List.append_nil] at chosen
      exact arranged_written _ _ (.here rfl (.here rfl (.here rfl chosen)))

theorem trigger_written (trigger : Trigger) : trigger.Arranged trigger.toJson.outline := by
  have actions := listed_written Action.Arranged Action.toJson action_written trigger.actions
  have chosen := chosen_option "objectId" (fun target outline => outline = (Json.text target).outline)
    Json.text (fun _ => rfl) trigger.target [.listOrNone "actions" Action.Arranged trigger.actions]
    [("actions", .list (trigger.actions.map Action.toJson))] (.here actions .nil)
  rw [Trigger.toJson, List.append_assoc]
  exact arranged_written trigger.entries _ (.here rfl (.here rfl chosen))

theorem kind_written (kind : ObjectKind) (entries : List Entry) (members : List (String × Json))
    (rest : Chosen entries (outlined members)) :
    Chosen (kind.entries ++ entries) (outlined (kind.members ++ members)) := by
  cases kind with
  | text content fontSize color => exact .here rfl (.here rfl (.here rfl (.here rfl rest)))
  | image path => exact .here rfl (.here rfl rest)
  | button label => exact .here rfl (.here rfl rest)

theorem object_written (object : SlideObject) : object.Arranged object.toJson.outline := by
  have triggers := listed_written Trigger.Arranged Trigger.toJson trigger_written object.triggers
  have kind := kind_written object.kind [.listOrNone "triggers" Trigger.Arranged object.triggers]
    [("triggers", .list (object.triggers.map Trigger.toJson))] (.here triggers .nil)
  rw [SlideObject.toJson, SlideObject.Arranged, SlideObject.entries, List.append_assoc, List.append_assoc]
  exact arranged_written _ _ (.here rfl (.here rfl (.here (point_written object.position)
    (.here (size_written object.size) (.here rfl kind)))))

theorem layer_written (layer : Layer) : layer.Arranged layer.toJson.outline := by
  have objects := listed_written SlideObject.Arranged SlideObject.toJson object_written layer.objects
  exact arranged_written layer.entries _ (.here rfl (.here rfl (.here rfl (.here objects .nil))))

theorem slide_written (slide : Slide) : slide.Arranged slide.toJson.outline := by
  have layers := listed_written Layer.Arranged Layer.toJson layer_written slide.layers
  exact arranged_written slide.entries _ (.here rfl (.here rfl (.here rfl (.here rfl (.here layers .nil)))))

theorem variable_written (v : Variable) : v.Arranged v.toJson.outline := by
  have chosen := chosen_option "value" Value.Arranged Value.toJson value_written v.value [] [] .nil
  rw [List.append_nil] at chosen
  exact arranged_written v.entries _ (.here rfl (.here rfl (.here rfl chosen)))

theorem project_written (project : Project) : project.Arranged project.toJson.outline := by
  have slides := listed_written Slide.Arranged Slide.toJson slide_written project.slides
  have declarations := listed_written Variable.Arranged Variable.toJson variable_written project.declarations
  exact arranged_written project.entries _ (.here rfl (.here rfl (.here slides (.here declarations .nil))))

end Written

end Slideshow
