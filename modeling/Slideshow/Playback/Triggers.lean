import Slideshow.Project.Geometry

set_option autoImplicit false

namespace Slideshow

structure TriggerRef where
  slide : Nat
  layer : Nat
  object : Nat
  trigger : Nat
deriving DecidableEq, Repr

def TriggerRef.resolve (ref : TriggerRef) (project : Project) : Option Trigger := do
  let slide ← project.slides[ref.slide]?
  let layer ← slide.layers[ref.layer]?
  let object ← layer.objects[ref.object]?
  object.triggers[ref.trigger]?

def SlideObject.triggersFor (object : SlideObject) (event : TriggerType) : List Nat :=
  (object.triggers.zipIdx.filter (·.1.event = event)).map (·.2)

namespace Slide

def locate? (slide : Slide) (id : String) : Option ObjectPosition :=
  slide.layers.zipIdx.findSome? fun (layer, i) =>
    (layer.objects.findIdx? (·.id = id)).map fun j => ⟨i, j⟩

def clickTriggers (slide : Slide) (index : Nat) (position : ObjectPosition) : List TriggerRef :=
  match slide.layers[position.layer]?.bind (·.objects[position.object]?) with
  | some object =>
      (object.triggersFor .onClick).map fun t => ⟨index, position.layer, position.object, t⟩
  | none => []

-- The triggers that fire when the slide is entered, in document order. Hidden objects and
-- hidden layers take part.
def entryTriggers (slide : Slide) (index : Nat) : List TriggerRef :=
  slide.layers.zipIdx.flatMap fun (layer, i) =>
    layer.objects.zipIdx.flatMap fun (object, j) =>
      (object.triggersFor .onTimelineStart).map fun t => ⟨index, i, j, t⟩

end Slide

namespace Project

def clicked? (project : Project) (index : Nat) (id : String) : Option (List TriggerRef) := do
  let slide ← project.slides[index]?
  let position ← slide.locate? id
  return slide.clickTriggers index position

def pointed? (project : Project) (index : Nat) (shown : Layer → Bool) (point : Point) :
    Option (String × List TriggerRef) := do
  let slide ← project.slides[index]?
  let (position, object) ← slide.hitTest? shown point
  return (object.id, slide.clickTriggers index position)

end Project

end Slideshow
