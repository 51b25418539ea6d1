import Slideshow.Playback.Command
import Slideshow.Proofs.Ranked

set_option autoImplicit false

namespace Slideshow

def TriggerRef.position (ref : TriggerRef) : List Nat :=
  [ref.slide, ref.layer, ref.object, ref.trigger]

-- The triggers for an event at a place. Positions ascend, so no trigger is there twice.
structure Gathered (project : Project) (event : TriggerType) (place : TriggerRef → Prop)
    (refs : List TriggerRef) : Prop where
  complete : ∀ ref, ref ∈ refs ↔
    place ref ∧ ∃ trigger, ref.resolve project = some trigger ∧ trigger.event = event
  ordered : refs.Pairwise fun earlier later => earlier.position < later.position

theorem mem_triggers_for_iff (object : SlideObject) (event : TriggerType) (t : Nat) :
    t ∈ object.triggersFor event ↔ ∃ trigger, object.triggers[t]? = some trigger ∧ trigger.event = event := by
  simp only [SlideObject.triggersFor, List.mem_map, List.mem_filter, decide_eq_true_eq]
  constructor
  · rintro ⟨⟨trigger, _⟩, ⟨member, same⟩, rfl⟩
    exact ⟨trigger, List.mk_mem_zipIdx_iff_getElem?.mp member, same⟩
  · rintro ⟨trigger, there, same⟩
    exact ⟨(trigger, t), ⟨List.mk_mem_zipIdx_iff_getElem?.mpr there, same⟩, rfl⟩

theorem object_triggers_ranked (object : SlideObject) (event : TriggerType) (index i j : Nat) :
    Ranked TriggerRef.position [index, i, j]
      ((object.triggersFor event).map fun t => (⟨index, i, j, t⟩ : TriggerRef)) := by
  -- The triggers of all events stand in order, and those of one event are some of them.
  have all : Ranked TriggerRef.position [index, i, j]
      (object.triggers.zipIdx.flatMap fun entry => [(⟨index, i, j, entry.2⟩ : TriggerRef)]) :=
    ranked_numbered _ _ fun _ _ _ => ranked_single _ _ (List.prefix_refl _)
  rw [← List.map_eq_flatMap] at all
  rw [SlideObject.triggersFor, List.map_map]
  exact ranked_sublist ((List.filter_sublist).map _) all

theorem entry_triggers_ranked (slide : Slide) (index : Nat) :
    Ranked TriggerRef.position [index] (slide.entryTriggers index) :=
  ranked_numbered _ _ fun _ i _ => ranked_numbered _ _ fun object j _ =>
    object_triggers_ranked object .onTimelineStart index i j

theorem resolve_eq_some_iff (project : Project) (ref : TriggerRef) (trigger : Trigger) :
    ref.resolve project = some trigger ↔ ∃ slide layer object,
      project.slides[ref.slide]? = some slide ∧ slide.layers[ref.layer]? = some layer ∧
        layer.objects[ref.object]? = some object ∧ object.triggers[ref.trigger]? = some trigger := by
  unfold TriggerRef.resolve
  constructor
  · intro resolved
    obtain ⟨slide, slideThere, inSlide⟩ := Option.bind_eq_some_iff.mp resolved
    obtain ⟨layer, layerThere, inLayer⟩ := Option.bind_eq_some_iff.mp inSlide
    obtain ⟨object, objectThere, triggerThere⟩ := Option.bind_eq_some_iff.mp inLayer
    exact ⟨slide, layer, object, slideThere, layerThere, objectThere, triggerThere⟩
  · rintro ⟨slide, layer, object, slideThere, layerThere, objectThere, triggerThere⟩
    simp [slideThere, layerThere, objectThere, triggerThere]

theorem mem_entry_triggers_iff (slide : Slide) (index : Nat) (ref : TriggerRef) :
    ref ∈ slide.entryTriggers index ↔ ref.slide = index ∧ ∃ layer object trigger,
      slide.layers[ref.layer]? = some layer ∧ layer.objects[ref.object]? = some object ∧
        object.triggers[ref.trigger]? = some trigger ∧ trigger.event = .onTimelineStart := by
  simp only [Slide.entryTriggers, List.mem_flatMap, List.mem_map, mem_triggers_for_iff]
  constructor
  · rintro ⟨⟨layer, i⟩, layerThere, ⟨object, j⟩, objectThere, t, ⟨trigger, there, event⟩, rfl⟩
    exact ⟨rfl, layer, object, trigger, List.mk_mem_zipIdx_iff_getElem?.mp layerThere,
      List.mk_mem_zipIdx_iff_getElem?.mp objectThere, there, event⟩
  · rintro ⟨rfl, layer, object, trigger, layerThere, objectThere, there, event⟩
    exact ⟨(layer, ref.layer), List.mk_mem_zipIdx_iff_getElem?.mpr layerThere, (object, ref.object),
      List.mk_mem_zipIdx_iff_getElem?.mpr objectThere, ref.trigger, ⟨trigger, there, event⟩, rfl⟩

theorem entry_triggers_gathered (project : Project) (index : Nat) (slide : Slide)
    (there : project.slides[index]? = some slide) :
    Gathered project .onTimelineStart (·.slide = index) (slide.entryTriggers index) := by
  refine ⟨fun ref => ?_, (entry_triggers_ranked slide index).ascending⟩
  rw [mem_entry_triggers_iff]
  refine and_congr_right fun same => ?_
  subst same
  simp only [resolve_eq_some_iff, there, Option.some.injEq]
  constructor
  · rintro ⟨layer, object, trigger, layerThere, objectThere, triggerThere, event⟩
    exact ⟨trigger, ⟨slide, layer, object, rfl, layerThere, objectThere, triggerThere⟩, event⟩
  · rintro ⟨trigger, ⟨_, layer, object, rfl, layerThere, objectThere, triggerThere⟩, event⟩
    exact ⟨layer, object, trigger, layerThere, objectThere, triggerThere, event⟩

theorem click_triggers_gathered (project : Project) (index : Nat) (slide : Slide)
    (position : ObjectPosition) (there : project.slides[index]? = some slide) :
    Gathered project .onClick (fun ref => ref.slide = index ∧ position = ⟨ref.layer, ref.object⟩)
      (slide.clickTriggers index position) := by
  obtain ⟨i, j⟩ := position
  unfold Slide.clickTriggers
  cases found : slide.layers[i]?.bind (·.objects[j]?) with
  | none =>
      refine ⟨fun ref => ?_, .nil⟩
      simp only [List.not_mem_nil, false_iff, resolve_eq_some_iff]
      rintro ⟨⟨rfl, same⟩, trigger, ⟨_, layer, object, slideThere, layerThere, objectThere, _⟩, _⟩
      cases same
      cases there.symm.trans slideThere
      simp [layerThere, objectThere] at found
  | some object =>
      refine ⟨fun ref => ?_, (object_triggers_ranked object .onClick index i j).ascending⟩
      obtain ⟨layer, layerThere, objectThere⟩ := Option.bind_eq_some_iff.mp found
      simp only [List.mem_map, mem_triggers_for_iff, resolve_eq_some_iff]
      constructor
      · rintro ⟨t, ⟨trigger, triggerThere, event⟩, rfl⟩
        exact ⟨⟨rfl, rfl⟩, trigger,
          ⟨slide, layer, object, there, layerThere, objectThere, triggerThere⟩, event⟩
      · rintro ⟨⟨rfl, same⟩, trigger, ⟨_, _, _, slideThere, layerHere, objectHere, triggerThere⟩, event⟩
        cases same
        cases there.symm.trans slideThere
        cases layerThere.symm.trans layerHere
        cases objectThere.symm.trans objectHere
        exact ⟨ref.trigger, ⟨trigger, triggerThere, event⟩, rfl⟩

theorem gathered_nowhere (project : Project) (event : TriggerType) (place : TriggerRef → Prop)
    (nowhere : ∀ ref, ¬ place ref) : Gathered project event place [] :=
  ⟨fun ref => by simp [nowhere ref], .nil⟩

end Slideshow
