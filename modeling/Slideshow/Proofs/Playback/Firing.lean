import Slideshow.Playback.Player
import Slideshow.Proofs.Related

set_option autoImplicit false

namespace Slideshow

def SlideObject.FiresLike (object other : SlideObject) : Prop :=
  object.triggers.map (·.event) = other.triggers.map (·.event)

def Layer.FiresLike (layer other : Layer) : Prop :=
  List.Forall₂ SlideObject.FiresLike layer.objects other.objects

def Slide.FiresLike (slide other : Slide) : Prop :=
  List.Forall₂ Layer.FiresLike slide.layers other.layers

theorem triggers_for_like {object other : SlideObject} (like : object.FiresLike other)
    (event : TriggerType) : object.triggersFor event = other.triggersFor event := by
  have fromEvents : ∀ object : SlideObject, object.triggersFor event =
      ((object.triggers.map (·.event)).zipIdx.filter (·.1 = event)).map (·.2) := by
    intro object
    simp [SlideObject.triggersFor, List.zipIdx_map, List.filter_map, Function.comp_def]
  rw [fromEvents, fromEvents, like]

section Slide

variable {slide other : Slide} (like : slide.FiresLike other)
include like

theorem entry_triggers_like (index : Nat) : slide.entryTriggers index = other.entryTriggers index := by
  refine related_flat_map (related_zip_idx like 0) _ _ fun layer twin layers => ?_
  refine related_flat_map (related_zip_idx layers.1 0) _ _ fun object another objects => ?_
  dsimp only
  rw [triggers_for_like objects.1, layers.2, objects.2]

theorem entry_work_like (index : Nat) : slide.entryWork index = other.entryWork index := by
  rw [Slide.entryWork, Slide.entryWork, entry_triggers_like like]

theorem click_triggers_like (index : Nat) (position : ObjectPosition) :
    slide.clickTriggers index position = other.clickTriggers index position := by
  have objects : Option.Rel SlideObject.FiresLike
      (slide.layers[position.layer]?.bind (·.objects[position.object]?))
      (other.layers[position.layer]?.bind (·.objects[position.object]?)) :=
    related_bind (related_at like position.layer) _ _ fun _ _ same => related_at same position.object
  unfold Slide.clickTriggers
  generalize slide.layers[position.layer]?.bind (·.objects[position.object]?) = object,
    other.layers[position.layer]?.bind (·.objects[position.object]?) = twin at objects
  cases objects with
  | none => rfl
  | some same => simp only [triggers_for_like same]

end Slide

theorem fires_like_map (change : Layer → Layer) (alter : SlideObject → SlideObject)
    (objects : ∀ layer, (change layer).objects = layer.objects.map alter)
    (same : ∀ object, (alter object).FiresLike object) (slide other : Slide)
    (layers : other.layers = slide.layers.map change) : other.FiresLike slide := by
  rw [Slide.FiresLike, layers, List.forall₂_map_left_iff, List.forall₂_same]
  intro layer _
  rw [Layer.FiresLike, objects, List.forall₂_map_left_iff, List.forall₂_same]
  exact fun object _ => same object

def Slide.triggerAt? (slide : Slide) (ref : TriggerRef) : Option Trigger :=
  slide.layers[ref.layer]?.bind fun layer => layer.objects[ref.object]?.bind (·.triggers[ref.trigger]?)

theorem resolve_eq (ref : TriggerRef) (project : Project) :
    ref.resolve project = project.slides[ref.slide]?.bind (·.triggerAt? ref) := rfl

theorem trigger_at_map (change : Layer → Layer) (alter : SlideObject → SlideObject) (edit : Trigger → Trigger)
    (objects : ∀ layer, (change layer).objects = layer.objects.map alter)
    (triggers : ∀ object, (alter object).triggers = object.triggers.map edit) (slide other : Slide)
    (layers : other.layers = slide.layers.map change) (ref : TriggerRef) :
    other.triggerAt? ref = (slide.triggerAt? ref).map edit := by
  simp only [Slide.triggerAt?, layers, List.getElem?_map]
  cases slide.layers[ref.layer]? with
  | none => rfl
  | some layer =>
      simp only [Option.map_some, Option.bind_some, objects, List.getElem?_map]
      cases layer.objects[ref.object]? with
      | none => rfl
      | some object => simp only [Option.map_some, Option.bind_some, triggers, List.getElem?_map]

end Slideshow
