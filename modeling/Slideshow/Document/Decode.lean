import Slideshow.Json.Record
import Slideshow.Document.Encode

set_option autoImplicit false

namespace Slideshow

open Json (Field Members Outline Place ReadError Shape Source boolField floatField floatMember
  listField required skipOther textField textMember)

def named {α : Type} (name : α → String) (values : List α) : List (String × α) :=
  values.map fun value => (name value, value)

def TriggerType.known : List (String × TriggerType) :=
  named TriggerType.name [.onClick, .onTimelineStart]

def SetOperation.known : List (String × SetOperation) :=
  named SetOperation.name [.assign, .add, .subtract, .toggle]

def VariableType.known : List (String × VariableType) :=
  named VariableType.name [.boolean, .number, .text]

def Value.field {δ : Type} (name : String) (set : Value → δ → δ) : Field Place δ :=
  ⟨name, fun place draft => return set (.ofJson (← place.outline.json place.levels)) draft⟩

structure Point.Draft where
  x : Option Float := none
  y : Option Float := none

def Point.shape : Shape Place Point.Draft Point where
  name := "Point"
  fields := [floatField "x" fun x d => { d with x }, floatField "y" fun y d => { d with y }]
  other := skipOther
  start := {}
  complete missing d := return ⟨← required missing "x" d.x, ← required missing "y" d.y⟩

structure Size.Draft where
  width : Option Float := none
  height : Option Float := none

def Size.shape : Shape Place Size.Draft Size where
  name := "Size"
  fields :=
    [floatField "width" fun width d => { d with width },
      floatField "height" fun height d => { d with height }]
  other := skipOther
  start := {}
  complete missing d :=
    return ⟨← required missing "width" d.width, ← required missing "height" d.height⟩

inductive Action.Tag where
  | navigateToSlide
  | setVariable
  | showLayer
  | hideLayer
deriving DecidableEq

def Action.Tag.known : List (String × Action.Tag) :=
  [("navigateToSlide", .navigateToSlide), ("setVariable", .setVariable),
    ("showLayer", .showLayer), ("hideLayer", .hideLayer)]

def Action.targetShape (name field : String) (make : String → Action) :
    Shape Json (Option String) Action where
  name := name
  fields := [textMember field fun id _ => some id]
  other := Json.ignoreOther
  start := none
  complete missing id := return make (← required missing field id)

structure Action.SetDraft where
  target : Option String := none
  operation : SetOperation := .assign
  operand : Option Value := none

def Action.setShape : Shape Json Action.SetDraft Action where
  name := "SetVariableAction"
  fields :=
    [textMember "variableId" fun id d => { d with target := some id },
      ⟨"operation", fun json d =>
        return { d with operation := ← json.asVariant SetOperation.known }⟩,
      ⟨"value", fun json d => return { d with operand := some (.ofJson json) }⟩]
  other := Json.ignoreOther
  start := {}
  complete missing d :=
    return .setVariable (← required missing "variableId" d.target) d.operation d.operand

def Action.ofFields : Action.Tag → Json.Fields → Except ReadError Action
  | .navigateToSlide =>
      (Action.targetShape "NavigateToSlideAction" "targetSlideId" .navigateToSlide).ofFields
  | .setVariable => Action.setShape.ofFields
  | .showLayer => (Action.targetShape "ShowLayerAction" "layerId" .showLayer).ofFields
  | .hideLayer => (Action.targetShape "HideLayerAction" "layerId" .hideLayer).ofFields

def Action.readTag (outline : Outline) : Except ReadError Action.Tag := do
  Json.variant Action.Tag.known (← outline.asText .variant)

def Action.members (levels : Nat) :
    Members → Option Action.Tag → Except ReadError (Action.Tag × List (String × Json))
  | .close, tag => return (← required .missing "type" tag, [])
  | .next name value rest, tag => do
      let name ← name
      if name = "type" then
        if tag.isSome then .error (.repeated "type")
        else Action.members levels rest (some (← Action.readTag value))
      else
        let value ← value.json levels
        let (tag, others) ← Action.members levels rest tag
        return (tag, (name, value) :: others)
  | .broken fault, _ => .error fault.read

-- An action is read whole before its fields are looked at. Without names its tag comes
-- first.
def Action.read (place : Place) : Except ReadError Action :=
  match place.outline with
  | .object members => Json.opened place.levels fun inner => do
      let (tag, members) ← Action.members inner members none
      Action.ofFields tag (.named members)
  | .list elements => Json.opened place.levels fun inner =>
      match elements with
      | .close => .error (.missing "type")
      | .next first rest => do
          let tag ← Action.readTag first
          let values ← rest.jsons inner
          Action.ofFields tag (.inOrder values)
      | .broken fault => .error fault.read
  | other => .error (other.mismatch (.tagged "Action"))

structure Trigger.Draft where
  id : Option String := none
  event : Option TriggerType := none
  target : Option String := none
  actions : List Action := []

def Trigger.shape : Shape Place Trigger.Draft Trigger where
  name := "Trigger"
  fields :=
    [textField "id" fun id d => { d with id },
      ⟨"triggerType", fun place d =>
        return { d with event := ← place.outline.asVariant TriggerType.known place.levels }⟩,
      ⟨"objectId", fun place d => return { d with target := ← place.outline.asOptionalText }⟩,
      listField "actions" Action.read fun actions d => { d with actions }]
  other := skipOther
  start := {}
  complete missing d :=
    return { id := ← required missing "id" d.id, event := ← required missing "triggerType" d.event,
             target := d.target, actions := d.actions }

inductive ObjectKind.Tag where
  | text
  | image
  | button
deriving DecidableEq

def ObjectKind.Tag.known : List (String × ObjectKind.Tag) :=
  [("text", .text), ("image", .image), ("button", .button)]

def ObjectKind.readTag : Json → Except ReadError ObjectKind.Tag
  | .text name => Json.variant ObjectKind.Tag.known name
  | .number (.int n inRange) =>
      if n < 0 then .error (Json.mismatch .variant (.number (.int n inRange)))
      else match ObjectKind.Tag.known[n.toNat]? with
        | some (_, tag) => .ok tag
        | none => .error (.unknownIndex n.toNat ObjectKind.Tag.known.length)
  | other => .error (other.mismatch .variant)

structure ObjectKind.TextDraft where
  text : Option String := none
  fontSize : Option Float := none
  color : Option String := none

def ObjectKind.textShape : Shape Json ObjectKind.TextDraft ObjectKind where
  name := "TextObject"
  fields :=
    [textMember "text" fun text d => { d with text },
      floatMember "fontSize" fun fontSize d => { d with fontSize },
      textMember "color" fun color d => { d with color }]
  other := Json.ignoreOther
  start := {}
  complete missing d :=
    return .text (← required missing "text" d.text) (← required missing "fontSize" d.fontSize)
      (← required missing "color" d.color)

def ObjectKind.imageShape : Shape Json (Option String) ObjectKind where
  name := "ImageObject"
  fields := [textMember "sourcePath" fun path _ => some path]
  other := Json.ignoreOther
  start := none
  complete missing path := return .image (← required missing "sourcePath" path)

def ObjectKind.buttonShape : Shape Json (Option String) ObjectKind where
  name := "ButtonObject"
  fields := [textMember "label" fun label _ => some label]
  other := Json.ignoreOther
  start := none
  complete missing label := return .button (← required missing "label" label)

def ObjectKind.tagged :
    List (String × Json) → Option ObjectKind.Tag →
      Except ReadError (ObjectKind.Tag × List (String × Json))
  | [], tag => return (← required .missing "type" tag, [])
  | (name, value) :: rest, tag => do
      if name = "type" then
        if tag.isSome then .error (.repeated "type")
        else ObjectKind.tagged rest (some (← ObjectKind.readTag value))
      else
        let (tag, others) ← ObjectKind.tagged rest tag
        return (tag, (name, value) :: others)

def ObjectKind.ofMembers (members : List (String × Json)) : Except ReadError ObjectKind := do
  let (tag, members) ← ObjectKind.tagged members none
  match tag with
  | .text => ObjectKind.textShape.ofFields (.named members)
  | .image => ObjectKind.imageShape.ofFields (.named members)
  | .button => ObjectKind.buttonShape.ofFields (.named members)

structure SlideObject.Draft where
  id : Option String := none
  name : Option String := none
  position : Option Point := none
  size : Option Size := none
  visible : Bool := true
  triggers : List Trigger := []
  others : List (String × Json) := []

-- The fields of the kind are only known once the tag is, so members that are not common to
-- all objects are kept until the end.
def SlideObject.shape : Shape Place SlideObject.Draft SlideObject where
  name := "SlideObject"
  fields :=
    [textField "id" fun id d => { d with id },
      textField "name" fun name d => { d with name },
      ⟨"position", fun place d => return { d with position := ← Point.shape.read place }⟩,
      ⟨"size", fun place d => return { d with size := ← Size.shape.read place }⟩,
      boolField "visible" fun visible d => { d with visible },
      listField "triggers" Trigger.shape.read fun triggers d => { d with triggers }]
  other name place d :=
    return { d with others := d.others ++ [(name, ← place.outline.json place.levels)] }
  start := {}
  complete missing d :=
    return { id := ← required missing "id" d.id, name := ← required missing "name" d.name,
             position := ← required missing "position" d.position,
             size := ← required missing "size" d.size, visible := d.visible,
             kind := ← ObjectKind.ofMembers d.others, triggers := d.triggers }

structure Layer.Draft where
  id : Option String := none
  name : Option String := none
  visible : Bool := true
  objects : List SlideObject := []

def Layer.shape : Shape Place Layer.Draft Layer where
  name := "Layer"
  fields :=
    [textField "id" fun id d => { d with id },
      textField "name" fun name d => { d with name },
      boolField "visible" fun visible d => { d with visible },
      listField "objects" SlideObject.shape.readNamed fun objects d => { d with objects }]
  other := skipOther
  start := {}
  complete missing d :=
    return { id := ← required missing "id" d.id, name := ← required missing "name" d.name,
             visible := d.visible, objects := d.objects }

structure Slide.Draft where
  id : Option String := none
  title : Option String := none
  width : Option Float := none
  height : Option Float := none
  layers : List Layer := []

def Slide.shape : Shape Place Slide.Draft Slide where
  name := "Slide"
  fields :=
    [textField "id" fun id d => { d with id },
      textField "title" fun title d => { d with title },
      floatField "width" fun width d => { d with width },
      floatField "height" fun height d => { d with height },
      listField "layers" Layer.shape.read fun layers d => { d with layers }]
  other := skipOther
  start := {}
  complete missing d :=
    return { id := ← required missing "id" d.id, title := ← required missing "title" d.title,
             width := ← required missing "width" d.width,
             height := ← required missing "height" d.height, layers := d.layers }

structure Variable.Draft where
  id : Option String := none
  name : Option String := none
  type : Option VariableType := none
  value : Option Value := none

def Variable.shape : Shape Place Variable.Draft Variable where
  name := "Variable"
  fields :=
    [textField "id" fun id d => { d with id },
      textField "name" fun name d => { d with name },
      ⟨"type", fun place d =>
        return { d with type := ← place.outline.asVariant VariableType.known place.levels }⟩,
      Value.field "value" fun value d => { d with value }]
  other := skipOther
  start := {}
  complete missing d :=
    return { id := ← required missing "id" d.id, name := ← required missing "name" d.name,
             type := ← required missing "type" d.type, value := d.value }

structure Project.Draft where
  id : Option String := none
  name : Option String := none
  slides : Option (List Slide) := none
  declarations : Option (List Variable) := none

def Project.shape : Shape Place Project.Draft Project where
  name := "Project"
  fields :=
    [textField "id" fun id d => { d with id },
      textField "name" fun name d => { d with name },
      listField "slides" Slide.shape.read fun slides d => { d with slides },
      listField "variables" Variable.shape.read fun declarations d => { d with declarations }]
  other := skipOther
  start := {}
  complete missing d :=
    return { id := ← required missing "id" d.id, name := ← required missing "name" d.name,
             slides := ← required missing "slides" d.slides,
             declarations := ← required missing "variables" d.declarations }

def Project.decode (source : Source) : Except ReadError Project :=
  Json.readWhole (fun levels outline => Project.shape.read ⟨outline, levels⟩) source

end Slideshow
