import Slideshow.Project.Basic

set_option autoImplicit false

namespace Slideshow

def Point.toJson (point : Point) : Json :=
  .object [("x", .ofFloat point.x), ("y", .ofFloat point.y)]

def Size.toJson (size : Size) : Json :=
  .object [("width", .ofFloat size.width), ("height", .ofFloat size.height)]

def TriggerType.name : TriggerType → String
  | .onClick => "onClick"
  | .onTimelineStart => "onTimelineStart"

def SetOperation.name : SetOperation → String
  | .assign => "assign"
  | .add => "add"
  | .subtract => "subtract"
  | .toggle => "toggle"

def VariableType.name : VariableType → String
  | .boolean => "boolean"
  | .number => "number"
  | .text => "text"

def optionalMember (name : String) : Option Json → List (String × Json)
  | some json => [(name, json)]
  | none => []

def Action.toJson : Action → Json
  | .navigateToSlide target =>
      .object [("type", .text "navigateToSlide"), ("targetSlideId", .text target)]
  | .setVariable target operation operand =>
      .object ([("type", .text "setVariable"), ("variableId", .text target),
        ("operation", .text operation.name)] ++ optionalMember "value" (operand.map Value.toJson))
  | .showLayer target => .object [("type", .text "showLayer"), ("layerId", .text target)]
  | .hideLayer target => .object [("type", .text "hideLayer"), ("layerId", .text target)]

def Trigger.toJson (trigger : Trigger) : Json :=
  .object ([("id", .text trigger.id), ("triggerType", .text trigger.event.name)] ++
    optionalMember "objectId" (trigger.target.map .text) ++
    [("actions", .list (trigger.actions.map Action.toJson))])

def ObjectKind.members : ObjectKind → List (String × Json)
  | .text content fontSize color =>
      [("type", .text "text"), ("text", .text content), ("fontSize", .ofFloat fontSize),
        ("color", .text color)]
  | .image sourcePath => [("type", .text "image"), ("sourcePath", .text sourcePath)]
  | .button label => [("type", .text "button"), ("label", .text label)]

def SlideObject.toJson (object : SlideObject) : Json :=
  .object ([("id", .text object.id), ("name", .text object.name),
    ("position", object.position.toJson), ("size", object.size.toJson),
    ("visible", .bool object.visible)] ++ object.kind.members ++
    [("triggers", .list (object.triggers.map Trigger.toJson))])

def Layer.toJson (layer : Layer) : Json :=
  .object [("id", .text layer.id), ("name", .text layer.name), ("visible", .bool layer.visible),
    ("objects", .list (layer.objects.map SlideObject.toJson))]

def Slide.toJson (slide : Slide) : Json :=
  .object [("id", .text slide.id), ("title", .text slide.title), ("width", .ofFloat slide.width),
    ("height", .ofFloat slide.height), ("layers", .list (slide.layers.map Layer.toJson))]

def Variable.toJson (v : Variable) : Json :=
  .object ([("id", .text v.id), ("name", .text v.name), ("type", .text v.type.name)] ++
    optionalMember "value" (v.value.map Value.toJson))

namespace Project

def toJson (project : Project) : Json :=
  .object [("id", .text project.id), ("name", .text project.name),
    ("slides", .list (project.slides.map Slide.toJson)),
    ("variables", .list (project.declarations.map Variable.toJson))]

def encode (project : Project) : String :=
  project.toJson.write

end Project

end Slideshow
