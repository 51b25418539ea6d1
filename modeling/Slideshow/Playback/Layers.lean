import Slideshow.Failure

set_option autoImplicit false

namespace Slideshow

structure LayerState where
  visibility : IdMap Bool
deriving BEq

namespace LayerState

def empty : LayerState := ⟨.empty⟩

def ofSlide (slide : Slide) : LayerState :=
  ⟨.ofList (slide.layers.map fun layer => (layer.id, layer.visible))⟩

def isVisible? (layers : LayerState) (id : String) : Option Bool :=
  layers.visibility.get? id

def write (layers : LayerState) (id : String) (visible : Bool) : LayerState :=
  ⟨layers.visibility.update id visible⟩

def set (layers : LayerState) (id : String) (visible : Bool) :
    Except Failure (Bool × LayerState) :=
  match layers.isVisible? id with
  | some before => .ok (before != visible, layers.write id visible)
  | none => .error (.dangling .layer id)

end LayerState

end Slideshow
