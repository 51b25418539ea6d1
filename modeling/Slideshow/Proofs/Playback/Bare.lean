import Slideshow.Proofs.IdMap
import Slideshow.Proofs.Playback.Firing

set_option autoImplicit false

namespace Slideshow

def Trigger.bare (trigger : Trigger) : Trigger :=
  { trigger with target := none }

def SlideObject.bare (object : SlideObject) : SlideObject where
  id := object.id
  name := ""
  position := ⟨0, 0⟩
  size := ⟨0, 0⟩
  visible := true
  kind := .button ""
  triggers := object.triggers.map Trigger.bare

def Layer.bare (layer : Layer) : Layer where
  id := layer.id
  name := ""
  visible := true
  objects := layer.objects.map SlideObject.bare

def Slide.bare (slide : Slide) : Slide where
  id := slide.id
  title := ""
  width := 0
  height := 0
  layers := slide.layers.map Layer.bare

def Project.bare (project : Project) : Project :=
  { project with name := "", slides := project.slides.map Slide.bare }

def LayerState.bare (layers : LayerState) : LayerState :=
  ⟨layers.visibility.fill true⟩

theorem SlideObject.bare_bare (object : SlideObject) : object.bare.bare = object.bare := by
  simp [SlideObject.bare, Trigger.bare]

theorem Layer.bare_bare (layer : Layer) : layer.bare.bare = layer.bare := by
  simp [Layer.bare, SlideObject.bare_bare]

theorem Slide.bare_bare (slide : Slide) : slide.bare.bare = slide.bare := by
  simp [Slide.bare, Layer.bare_bare]

theorem Project.bare_bare (project : Project) : project.bare.bare = project.bare := by
  simp [Project.bare, Slide.bare_bare]

namespace LayerState

theorem bare_bare (layers : LayerState) : layers.bare.bare = layers.bare :=
  congrArg mk (layers.visibility.fill_fill true)

theorem bare_write (layers : LayerState) (id : String) (visible : Bool) :
    (layers.write id visible).bare = layers.bare :=
  congrArg mk (layers.visibility.fill_update id visible true)

theorem is_visible_bare (layers : LayerState) (id : String) :
    layers.bare.isVisible? id = (layers.isVisible? id).map fun _ => true :=
  layers.visibility.get?_fill true id

theorem bare_of_slide (slide : Slide) : (ofSlide slide.bare).bare = (ofSlide slide).bare := by
  simp [ofSlide, bare, Slide.bare, Layer.bare, IdMap.fill_of_list, Function.comp_def]

end LayerState

namespace Slide

variable (slide : Slide)

theorem fires_like_bare : slide.bare.FiresLike slide :=
  fires_like_map Layer.bare SlideObject.bare (fun _ => rfl)
    (fun object => by simp [SlideObject.FiresLike, SlideObject.bare, Trigger.bare]) slide slide.bare rfl

theorem locate_bare (id : String) : slide.bare.locate? id = slide.locate? id := by
  simp only [locate?, Slide.bare, Layer.bare, List.zipIdx_map, List.findSome?_map, Function.comp_def,
    Prod.map, id_eq, List.findIdx?_map]
  rfl

end Slide

namespace Project

variable (project : Project)

theorem slide_index_bare (id : String) : project.bare.slideIndex? id = project.slideIndex? id := by
  simp only [slideIndex?, bare, List.findIdx?_map]
  rfl

theorem slide_at_bare (index : Nat) : project.bare.slides[index]? = (project.slides[index]?).map Slide.bare :=
  List.getElem?_map

theorem is_empty_bare : project.bare.slides.isEmpty = project.slides.isEmpty :=
  List.isEmpty_map

theorem seed_bare : VariableStore.seed project.bare = VariableStore.seed project := rfl

theorem clicked_bare (index : Nat) (id : String) :
    project.bare.clicked? index id = project.clicked? index id := by
  rw [clicked?, clicked?, slide_at_bare]
  cases project.slides[index]? with
  | none => rfl
  | some slide => simp [Slide.locate_bare, click_triggers_like slide.fires_like_bare]

end Project

theorem resolve_bare (ref : TriggerRef) (project : Project) :
    ref.resolve project.bare = (ref.resolve project).map Trigger.bare := by
  rw [resolve_eq, resolve_eq, project.slide_at_bare]
  cases project.slides[ref.slide]? with
  | none => rfl
  | some slide =>
      exact trigger_at_map Layer.bare SlideObject.bare Trigger.bare (fun _ => rfl) (fun _ => rfl) slide
        slide.bare rfl ref

end Slideshow
