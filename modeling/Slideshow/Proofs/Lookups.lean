import Mathlib.Algebra.Ring.Nat
import Slideshow.Project.Build
import Slideshow.Proofs.Playback.Pointing
import Slideshow.Proofs.Validation.Renamed

set_option autoImplicit false

namespace Slideshow

theorem find_slide_at_index (project : Project) (id : String) :
    project.findSlide? id = (project.slideIndex? id).bind (project.slides[·]?) :=
  List.find?_eq_bind_findIdx?_getElem?

namespace Slide

variable (slide : Slide) (id : String)

def ordinal (position : ObjectPosition) : Nat :=
  ((slide.layers.take position.layer).map (·.objects.length)).sum + position.object

theorem located_between (position : ObjectPosition) (located : slide.locate? id = some position) :
    ∃ behind layer front, slide.layers = behind ++ layer :: front ∧ position.layer = behind.length ∧
      layer.objects.findIdx? (·.id = id) = some position.object ∧
      ∀ other ∈ behind, ∀ object ∈ other.objects, object.id ≠ id := by
  obtain ⟨early, ⟨layer, i⟩, late, split, found, nowhere⟩ := List.findSome?_eq_some_iff.mp located
  obtain ⟨behind, rest, layers, rfl, others⟩ := List.zipIdx_eq_append_iff.mp split
  obtain ⟨_, front, rfl, head, _⟩ := List.zipIdx_eq_cons_iff.mp others.symm
  obtain ⟨rfl, rfl⟩ := Prod.mk.inj head
  obtain ⟨j, first, rfl⟩ := Option.map_eq_some_iff.mp found
  refine ⟨behind, layer, front, layers, Nat.zero_add _, first, fun other member object own => ?_⟩
  obtain ⟨k, there⟩ := List.mem_iff_getElem?.mp member
  have missed := nowhere (other, k) (List.mk_mem_zipIdx_iff_getElem?.mpr there)
  simpa using List.findIdx?_eq_none_iff.mp (Option.map_eq_none_iff.mp missed) object own

theorem objects_split (behind front : List Layer) (layer : Layer)
    (split : slide.layers = behind ++ layer :: front) :
    ∃ before after, slide.objects = before ++ layer.objects.map (fun object => (layer, object)) ++ after ∧
      before.length = (behind.map (·.objects.length)).sum ∧
      ∀ entry ∈ before, entry.1 ∈ behind ∧ entry.2 ∈ entry.1.objects := by
  refine ⟨behind.flatMap fun other => other.objects.map fun object => (other, object),
    front.flatMap fun other => other.objects.map fun object => (other, object), ?_, ?_, ?_⟩
  · simp [objects, split]
  · simp [List.length_flatMap]
  · rintro ⟨other, object⟩ member
    simpa using member

theorem object_index_located :
    slide.objects.findIdx? (fun entry => entry.2.id = id) = (slide.locate? id).map slide.ordinal := by
  cases located : slide.locate? id with
  | none =>
      have nowhere := (locate_none_iff slide id).mp located
      refine List.findIdx?_eq_none_iff.mpr fun ⟨layer, object⟩ member => ?_
      obtain ⟨own, inLayer⟩ : layer ∈ slide.layers ∧ object ∈ layer.objects := by
        simpa [objects] using member
      simpa using nowhere layer own object inLayer
  | some position =>
      obtain ⟨behind, layer, front, split, place, first, nowhere⟩ := slide.located_between id position located
      obtain ⟨before, after, objects, length, early⟩ := slide.objects_split behind front layer split
      have missed : before.findIdx? (fun entry => entry.2.id = id) = none :=
        List.findIdx?_eq_none_iff.mpr fun entry member => by
          simpa using nowhere entry.1 (early entry member).1 entry.2 (early entry member).2
      have found : (layer.objects.map fun object => (layer, object)).findIdx? (fun entry => entry.2.id = id) =
          some position.object := by
        rw [List.findIdx?_map]
        exact first
      have taken : slide.layers.take position.layer = behind := by
        rw [split, place, List.take_left]
      have place : slide.ordinal position = position.object + before.length := by
        rw [ordinal, taken, length, Nat.add_comm]
      rw [objects, List.findIdx?_append, List.findIdx?_append, missed, found, Option.map_some, Option.map_some,
        place]
      rfl

theorem find_object_eq :
    slide.findObject? id =
      ((slide.objects.findIdx? fun entry => entry.2.id = id).bind (slide.objects[·]?)).map (·.2) := by
  rw [findObject?, List.find?_map, List.find?_eq_bind_findIdx?_getElem?]
  rfl

theorem found_located (position : ObjectPosition) (located : slide.locate? id = some position) :
    ∃ layer object, slide.layers[position.layer]? = some layer ∧
      layer.objects[position.object]? = some object ∧ object.id = id ∧
      slide.objects[slide.ordinal position]? = some (layer, object) ∧ slide.findObject? id = some object := by
  obtain ⟨behind, layer, front, split, place, first, _⟩ := slide.located_between id position located
  obtain ⟨before, after, objects, length, _⟩ := slide.objects_split behind front layer split
  obtain ⟨inside, named, _⟩ := List.findIdx?_eq_some_iff_getElem.mp first
  have there : layer.objects[position.object]? = some layer.objects[position.object] :=
    List.getElem?_eq_getElem inside
  have listed : slide.objects[slide.ordinal position]? = some (layer, layer.objects[position.object]) := by
    have beyond : slide.ordinal position = before.length + position.object := by
      rw [ordinal, split, place, List.take_left, length]
    rw [objects, List.append_assoc, beyond, List.getElem?_append_right (Nat.le_add_right _ _),
      Nat.add_sub_cancel_left, List.getElem?_append_left (by simpa using inside), List.getElem?_map, there]
    rfl
  refine ⟨layer, _, ?_, there, by simpa using named, listed, ?_⟩
  · simp [split, place]
  · rw [find_object_eq, object_index_located, located, Option.map_some, Option.bind_some, listed]
    rfl

theorem located_iff_found : (slide.locate? id).isSome = (slide.findObject? id).isSome := by
  cases located : slide.locate? id with
  | none =>
      rw [find_object_eq, object_index_located, located]
      rfl
  | some position =>
      obtain ⟨_, _, _, _, _, _, found⟩ := slide.found_located id position located
      rw [found]
      rfl

end Slide

section Maps

variable {α β : Type} (list : List α) (idOf : α → String) (apart : (list.map idOf).Nodup) (id : String)

include apart

theorem found_of_apart (a : α) (member : a ∈ list) (same : idOf a = id) :
    list.find? (idOf · = id) = some a := by
  cases found : list.find? (idOf · = id) with
  | none => simpa [same] using List.find?_eq_none.mp found a member
  | some b =>
      have named : idOf b = id := by simpa using List.find?_some found
      rw [List.inj_on_of_nodup_map apart (List.mem_of_find?_eq_some found) member (named.trans same.symm)]

theorem map_agrees_with_search (valueOf : α → β) :
    (IdMap.ofList (list.map fun a => (idOf a, valueOf a))).get? id =
      (list.find? (idOf · = id)).map valueOf := by
  have keysApart : ((list.map fun a => (idOf a, valueOf a)).map (·.1)).Nodup := by
    simpa [Function.comp_def] using apart
  refine Option.ext fun value => ?_
  rw [IdMap.get?_of_list_iff _ keysApart, List.mem_map, Option.map_eq_some_iff]
  constructor
  · rintro ⟨a, member, same⟩
    obtain ⟨named, valued⟩ := Prod.mk.inj same
    exact ⟨a, found_of_apart list idOf apart id a member named, valued⟩
  · rintro ⟨a, found, valued⟩
    have named : idOf a = id := by simpa using List.find?_some found
    exact ⟨a, List.mem_of_find?_eq_some found, Prod.mk.injEq .. ▸ ⟨named, valued⟩⟩

end Maps

section Valid

variable {project : Project} (valid : project.diagnostics = []) (id : String)

include valid

theorem seed_agrees :
    VariableStore.entry? (.seed project) id =
      (project.findVariable? id).map fun declared => declared.value.map Value.normalized :=
  map_agrees_with_search project.declarations (·.id) (variable_ids_nodup valid) id _

theorem layers_agree (slide : Slide) (own : slide ∈ project.slides) :
    (LayerState.ofSlide slide).isVisible? id = (slide.findLayer? id).map (·.visible) := by
  obtain ⟨i, there⟩ := List.mem_iff_getElem?.mp own
  exact map_agrees_with_search slide.layers (·.id) (layer_ids_nodup valid i slide there) id _

end Valid

/-- A slide is found at its index. An object is found exactly if it is located, and it is the one at that
position and the first with the id in the order of all objects of the slide. In a project without
diagnostics the values that a session starts with are those of the variables that are found, in normal
form, and the layers of a slide that is entered are shown as those that are found there. -/
theorem lookups_agree (project : Project) (id : String) :
    project.findSlide? id = (project.slideIndex? id).bind (project.slides[·]?) ∧
      (∀ slide : Slide, (slide.locate? id).isSome = (slide.findObject? id).isSome ∧
        slide.objects.findIdx? (fun entry => entry.2.id = id) = (slide.locate? id).map slide.ordinal ∧
        ∀ position, slide.locate? id = some position → ∃ layer object,
          slide.layers[position.layer]? = some layer ∧ layer.objects[position.object]? = some object ∧
            object.id = id ∧ slide.objects[slide.ordinal position]? = some (layer, object) ∧
            slide.findObject? id = some object) ∧
      (project.diagnostics = [] →
        let store := VariableStore.seed project
        store.contains id = (project.findVariable? id).isSome ∧
          store.get? id = (project.findVariable? id).bind (·.value.map Value.normalized) ∧
          ∀ slide ∈ project.slides,
            (LayerState.ofSlide slide).isVisible? id = (slide.findLayer? id).map (·.visible)) := by
  refine ⟨find_slide_at_index project id, fun slide => ?_, fun valid => ?_⟩
  · exact ⟨slide.located_iff_found id, slide.object_index_located id, slide.found_located id⟩
  · have entry := seed_agrees valid id
    refine ⟨?_, ?_, layers_agree valid id⟩
    · rw [VariableStore.contains, entry, Option.isSome_map]
    · rw [VariableStore.get?, entry]
      cases project.findVariable? id <;> rfl

def galleryHall : Slide :=
  ((Slide.start "hall").withLayer (((Layer.start "wall").withObject (SlideObject.text "sign" "Open")).withObject
    (SlideObject.image "frame" "sea.png"))).withLayer
      ((Layer.start "stand").hidden.withObject (SlideObject.image "frame" "shore.png"))

def gallery : Project :=
  ((Project.start "gallery" "Gallery").withSlide galleryHall).withVariable
    (.start "visitors" .number (some (.int64 3)))

theorem gallery_is_searched_alike :
    gallery.diagnostics = [] ∧ gallery.findSlide? "hall" = some galleryHall ∧
      galleryHall.locate? "frame" = some ⟨0, 1⟩ ∧
      (∃ layer object, layer.objects[1]? = some object ∧ galleryHall.objects[1]? = some (layer, object) ∧
        galleryHall.findObject? "frame" = some object) ∧
      (VariableStore.seed gallery).get? "visitors" = some (.int32 3) ∧
      (LayerState.ofSlide galleryHall).isVisible? "stand" = some false := by
  have valid : gallery.diagnostics = [] := by decide +kernel
  have located : galleryHall.locate? "frame" = some ⟨0, 1⟩ := by decide +kernel
  obtain ⟨_, objects, _⟩ := lookups_agree gallery "frame"
  obtain ⟨layer, object, _, there, _, listed, found⟩ := (objects galleryHall).2.2 ⟨0, 1⟩ located
  obtain ⟨_, visitors, _⟩ := (lookups_agree gallery "visitors").2.2 valid
  obtain ⟨_, _, shown⟩ := (lookups_agree gallery "stand").2.2 valid
  have entered := (lookups_agree gallery "hall").1
  refine ⟨valid, entered, located, ⟨layer, object, there, listed, found⟩, visitors, ?_⟩
  exact shown galleryHall (List.mem_singleton.mpr rfl)

end Slideshow
