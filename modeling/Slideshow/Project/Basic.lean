import Slideshow.Value

set_option autoImplicit false

namespace Slideshow

structure Point where
  x : Float
  y : Float
deriving BEq

structure Size where
  width : Float
  height : Float
deriving BEq

inductive ObjectKind where
  | text (text : String) (fontSize : Float) (color : String)
  | image (sourcePath : String)
  | button (label : String)
deriving BEq

inductive TriggerType where
  | onClick
  | onTimelineStart
deriving DecidableEq, Repr

inductive SetOperation where
  | assign
  | add
  | subtract
  | toggle
deriving DecidableEq, Repr

inductive Action where
  | navigateToSlide (target : String)
  | setVariable (target : String) (operation : SetOperation) (operand : Option Value)
  | showLayer (target : String)
  | hideLayer (target : String)
deriving BEq

-- Actions to perform in order. The target names an object of the same slide, for authors; it
-- plays no part in what the trigger does.
structure Trigger where
  id : String
  event : TriggerType
  target : Option String := none
  actions : List Action := []
deriving BEq

structure SlideObject where
  id : String
  name : String
  position : Point
  size : Size
  visible : Bool := true
  kind : ObjectKind
  triggers : List Trigger := []
deriving BEq

-- Objects from back to front, shown and hidden together. `visible` says how the layer is
-- shown each time its slide is entered.
structure Layer where
  id : String
  name : String
  visible : Bool := true
  objects : List SlideObject := []
deriving BEq

structure Slide where
  id : String
  title : String
  width : Float
  height : Float
  layers : List Layer := []
deriving BEq

inductive VariableType where
  | boolean
  | number
  | text
deriving DecidableEq, Repr

-- A variable may start with no value, which is not the same as the value `null`.
structure Variable where
  id : String
  name : String
  type : VariableType
  value : Option Value := none
deriving BEq

structure Project where
  id : String
  name : String
  slides : List Slide
  declarations : List Variable
deriving BEq

namespace Project

def findSlide? (project : Project) (id : String) : Option Slide :=
  project.slides.find? (·.id = id)

def slideIndex? (project : Project) (id : String) : Option Nat :=
  project.slides.findIdx? (·.id = id)

def findVariable? (project : Project) (id : String) : Option Variable :=
  project.declarations.find? (·.id = id)

end Project

namespace Slide

def findLayer? (slide : Slide) (id : String) : Option Layer :=
  slide.layers.find? (·.id = id)

def objects (slide : Slide) : List (Layer × SlideObject) :=
  slide.layers.flatMap fun layer => layer.objects.map fun object => (layer, object)

def findObject? (slide : Slide) (id : String) : Option SlideObject :=
  (slide.objects.map (·.2)).find? (·.id = id)

end Slide

end Slideshow
