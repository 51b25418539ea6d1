import Slideshow.Project.Basic

set_option autoImplicit false

namespace Slideshow

structure Box where
  left : Float
  top : Float
  right : Float
  bottom : Float

-- The smaller of two floats, or the one that is a number; of two that are equal the second.
def lesser (a b : Float) : Float :=
  if a.isNaN then b else if b.isNaN then a else if a < b then a else b

def greater (a b : Float) : Float :=
  if a.isNaN then b else if b.isNaN then a else if b < a then a else b

namespace Box

-- The extent of a box may be negative: then its origin is the other corner.
def ofOrigin (origin : Point) (size : Size) : Box :=
  let x := origin.x + size.width
  let y := origin.y + size.height
  ⟨lesser origin.x x, lesser origin.y y, greater origin.x x, greater origin.y y⟩

def contains (box : Box) (point : Point) : Bool :=
  box.left ≤ point.x && point.x < box.right && box.top ≤ point.y && point.y < box.bottom

end Box

def SlideObject.bounds (object : SlideObject) : Box :=
  .ofOrigin object.position object.size

def SlideObject.isAt (object : SlideObject) (point : Point) : Bool :=
  object.visible && object.bounds.contains point

structure ObjectPosition where
  layer : Nat
  object : Nat
deriving DecidableEq, Repr

def lastIndexed? {α : Type} (passes : α → Bool) (list : List α) : Option (α × Nat) :=
  list.zipIdx.reverse.find? (passes ·.1)

namespace Slide

def hitAmong? (shown : Layer → Bool) (point : Point) :
    List (Layer × Nat) → Option (ObjectPosition × SlideObject)
  | [] => none
  | (layer, i) :: rest =>
      if shown layer then
        match lastIndexed? (·.isAt point) layer.objects with
        | some (object, j) => some (⟨i, j⟩, object)
        | none => hitAmong? shown point rest
      else hitAmong? shown point rest

-- The object that a pointer meets: later layers and later objects lie in front.
def hitTest? (slide : Slide) (shown : Layer → Bool) (point : Point) :
    Option (ObjectPosition × SlideObject) :=
  hitAmong? shown point slide.layers.zipIdx.reverse

def askedAmong (shown : Layer → Bool) (point : Point) : List Layer → List Layer
  | [] => []
  | layer :: rest =>
      if shown layer && layer.objects.any (·.isAt point) then [layer]
      else layer :: askedAmong shown point rest

def asked (slide : Slide) (shown : Layer → Bool) (point : Point) : List Layer :=
  askedAmong shown point slide.layers.reverse

end Slide

end Slideshow
