import Slideshow.Project.Basic

set_option autoImplicit false

namespace Slideshow

namespace Variable

def start (id : String) (type : VariableType) (value : Option Value) : Variable :=
  ⟨id, id, type, value⟩

end Variable

namespace Trigger

def start (id : String) (event : TriggerType) : Trigger := { id, event }

def withTarget (trigger : Trigger) (id : String) : Trigger := { trigger with target := some id }

def withAction (trigger : Trigger) (action : Action) : Trigger :=
  { trigger with actions := trigger.actions ++ [action] }

def navigate (trigger : Trigger) (slide : String) : Trigger :=
  trigger.withAction (.navigateToSlide slide)

def assign (trigger : Trigger) (id : String) (value : Value) : Trigger :=
  trigger.withAction (.setVariable id .assign (some value))

def add (trigger : Trigger) (id : String) (value : Value) : Trigger :=
  trigger.withAction (.setVariable id .add (some value))

def toggle (trigger : Trigger) (id : String) : Trigger :=
  trigger.withAction (.setVariable id .toggle none)

def showLayer (trigger : Trigger) (layer : String) : Trigger :=
  trigger.withAction (.showLayer layer)

def hideLayer (trigger : Trigger) (layer : String) : Trigger :=
  trigger.withAction (.hideLayer layer)

end Trigger

namespace SlideObject

def start (id : String) (kind : ObjectKind) : SlideObject :=
  { id, name := id, position := ⟨0, 0⟩, size := ⟨100, 40⟩, kind }

def text (id content : String) : SlideObject := start id (.text content 24 "#000000")

def image (id sourcePath : String) : SlideObject := start id (.image sourcePath)

def button (id label : String) : SlideObject := start id (.button label)

def named (object : SlideObject) (name : String) : SlideObject := { object with name }

def placed (object : SlideObject) (x y : Float) : SlideObject := { object with position := ⟨x, y⟩ }

def sized (object : SlideObject) (width height : Float) : SlideObject :=
  { object with size := ⟨width, height⟩ }

def hidden (object : SlideObject) : SlideObject := { object with visible := false }

def withTrigger (object : SlideObject) (trigger : Trigger) : SlideObject :=
  { object with triggers := object.triggers ++ [trigger] }

end SlideObject

namespace Layer

def start (id : String) : Layer := { id, name := id }

def named (layer : Layer) (name : String) : Layer := { layer with name }

def hidden (layer : Layer) : Layer := { layer with visible := false }

def withObject (layer : Layer) (object : SlideObject) : Layer :=
  { layer with objects := layer.objects ++ [object] }

end Layer

namespace Slide

def start (id : String) : Slide := { id, title := id, width := 1280, height := 720 }

def titled (slide : Slide) (title : String) : Slide := { slide with title }

def sized (slide : Slide) (width height : Float) : Slide := { slide with width, height }

def withLayer (slide : Slide) (layer : Layer) : Slide :=
  { slide with layers := slide.layers ++ [layer] }

end Slide

namespace Project

def start (id name : String) : Project := ⟨id, name, [], []⟩

def withSlide (project : Project) (slide : Slide) : Project :=
  { project with slides := project.slides ++ [slide] }

def withVariable (project : Project) (declared : Variable) : Project :=
  { project with declarations := project.declarations ++ [declared] }

end Project

end Slideshow
