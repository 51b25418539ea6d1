import Slideshow.Proofs.Document.RoundTrip
import Slideshow.Proofs.Json.Unchanged

set_option autoImplicit false

namespace Slideshow

open Json (ReadsUnchanged Source outlineMembers)

def Action.normalized : Action → Action
  | .setVariable target operation operand =>
      .setVariable target operation (operand.map Value.normalized)
  | other => other

def Trigger.normalized (trigger : Trigger) : Trigger :=
  { trigger with actions := trigger.actions.map Action.normalized }

def SlideObject.normalized (object : SlideObject) : SlideObject :=
  { object with triggers := object.triggers.map Trigger.normalized }

def Layer.normalized (layer : Layer) : Layer :=
  { layer with objects := layer.objects.map SlideObject.normalized }

def Slide.normalized (slide : Slide) : Slide :=
  { slide with layers := slide.layers.map Layer.normalized }

def Variable.normalized (v : Variable) : Variable :=
  { v with value := v.value.map Value.normalized }

def Project.normalized (project : Project) : Project :=
  { project with
    slides := project.slides.map Slide.normalized
    declarations := project.declarations.map Variable.normalized }

namespace Value

theorem of_json_number (n : Number) : ofJson (.number n) = ofNumber n := rfl

theorem of_int64_of_int32 (n : Int32) : ofInt64 n.toInt64 = .int32 n := by
  have least := n.le_toInt
  have most := n.toInt_lt
  have fits : fitsInt32 n.toInt64.toInt = true := by
    simp only [Int32.toInt_toInt64, fitsInt32, Bool.and_eq_true, decide_eq_true_eq]
    omega
  rw [ofInt64, if_pos fits, Int32.toInt_toInt64, Int32.ofInt_toInt]

theorem integer_restored (n : Int64) (levels : Nat) :
    (Json.ofInt64 n).outline.json levels = .ok (Json.ofInt64 n) ∧ ofJson (Json.ofInt64 n) = ofInt64 n := by
  refine ⟨?_, of_number_of_int64 n⟩
  rw [Json.ofInt64, Json.outline, Json.Outline.json, Number.ofInt64, Number.reread_int]
  rfl

theorem float_value_restored_iff (x : Float) (levels : Nat) :
    (∃ read, (Json.ofFloat x).outline.json levels = .ok read ∧ ofJson read = .float x) ↔
      ReadsUnchanged x := by
  by_cases finite : x.isFinite = true
  · rw [Json.of_float_finite x finite]
    simp only [Json.outline, Json.Outline.json, Json.map_returns_iff, of_json_number]
    exact Json.float_unchanged_iff x finite _ fun y _ => Value.float.injEq y x ▸ Iff.rfl
  · rw [Json.of_float_not_finite x finite]
    constructor
    · rintro ⟨read, known, same⟩
      cases known
      cases same
    · intro back
      exact absurd back.1 finite

theorem node_determined (node : Node) (levels : Nat) (read : Json)
    (known : node.tree.outline.json levels = .ok read) (same : ofJson read = ofNode node) :
    read = node.tree := by
  have sorted := Json.read_canonical node.tree levels read known node.canonical
  rw [of_json_canonical read sorted] at same
  obtain ⟨tree, canonical⟩ := node
  cases tree with
  | null | bool | text => cases known; rfl
  | number n =>
      obtain ⟨m, reread, rfl⟩ := (Json.map_ok_iff _ _ _).mp known
      cases n with
      | int n inRange =>
          rw [Number.reread_int] at reread
          cases reread
          rfl
      | float x finite =>
          obtain ⟨y, finiteToo, rfl⟩ := Json.reread_float x finite m reread
          cases same
          rfl
  -- Lists and objects stand for themselves.
  | list elements =>
      obtain ⟨inner, _, inside⟩ := (Json.opened_ok_iff _ _ _).mp known
      obtain ⟨list, _, made⟩ := (Json.bind_ok_iff _ _ _).mp inside
      cases made
      cases same
      rfl
  | object members =>
      obtain ⟨inner, _, inside⟩ := (Json.opened_ok_iff _ _ _).mp known
      obtain ⟨list, _, made⟩ := (Json.bind_ok_iff _ _ _).mp inside
      cases made
      cases same
      rfl

theorem node_restored_iff (node : Node) (levels : Nat) :
    (∃ read, node.tree.outline.json levels = .ok read ∧ ofJson read = ofNode node) ↔
      node.tree.depth ≤ levels ∧ ∀ x ∈ node.tree.floats, ReadsUnchanged x := by
  rw [← Json.tree_unchanged_iff]
  constructor
  · rintro ⟨read, known, same⟩
    rw [node_determined node levels read known same] at known
    exact known
  · intro known
    exact ⟨node.tree, known, of_json_canonical node.tree node.canonical⟩

end Value

theorem value_restored : Kept ReadsUnchanged (fun result written => result = written.normalized)
    Value.toJson Value.floats readValue := by
  intro written levels
  rw [readValue, yields_bind]
  simp only [yields_pure]
  have nothing : ∀ x ∈ ([] : List Float), ReadsUnchanged x := by simp
  cases written with
  | structured node => exact Value.node_restored_iff node levels
  | float x =>
      have shallow : (Json.ofFloat x).depth ≤ levels := by rw [Value.depth_of_float]; exact Nat.zero_le levels
      simp only [Value.toJson, Value.floats, List.mem_singleton, forall_eq, shallow, true_and]
      exact Value.float_value_restored_iff x levels
  | int32 n =>
      obtain ⟨known, same⟩ := Value.integer_restored n.toInt64 levels
      exact iff_of_true ⟨_, known, same.trans (Value.of_int64_of_int32 n)⟩ ⟨Nat.zero_le levels, nothing⟩
  | int64 n => exact iff_of_true ⟨_, Value.integer_restored n levels⟩ ⟨Nat.zero_le levels, nothing⟩
  | null | bool | text => exact iff_of_true ⟨_, rfl, rfl⟩ ⟨Nat.zero_le levels, nothing⟩

theorem float_restored :
    Kept ReadsUnchanged Eq Json.ofFloat (fun x => [x]) fun place => place.outline.asFloat := by
  intro x levels
  have shallow : (Json.ofFloat x).depth ≤ levels := by rw [Value.depth_of_float]; exact Nat.zero_le levels
  simp only [List.mem_singleton, forall_eq, shallow, true_and]
  by_cases finite : x.isFinite = true
  · rw [Json.of_float_finite x finite]
    simp only [Yields, Json.outline, Json.Outline.asFloat, Json.map_returns_iff]
    exact Json.float_unchanged_iff x finite _ fun _ _ => Iff.rfl
  · rw [Json.of_float_not_finite x finite]
    constructor
    · rintro ⟨read, known, same⟩
      cases known
    · intro back
      exact absurd back.1 finite

section Parts

variable {α : Type} (normal : α → α)

theorem list_normal_iff (results written : List α) :
    results = written.map normal ↔
      List.Forall₂ (fun result written => result = normal written) results written := by
  rw [← List.forall₂_map_right_iff, List.forall₂_eq_eq_eq]

theorem option_normal_iff (result written : Option α) :
    result = written.map normal ↔
      Option.Rel (fun result written => result = normal written) result written := by
  cases result <;> cases written <;> simp

end Parts

theorem point_restored : Kept ReadsUnchanged Eq Point.toJson Point.floats Point.shape.read := by
  refine point_kept ?_ float_restored
  rintro ⟨x, y⟩ ⟨u, v⟩
  simp

theorem size_restored : Kept ReadsUnchanged Eq Size.toJson Size.floats Size.shape.read := by
  refine size_kept ?_ float_restored
  rintro ⟨width, height⟩ ⟨u, v⟩
  simp

theorem kind_restored (kind : ObjectKind) (levels : Nat) :
    (Yields ((outlineMembers kind.members).jsons levels) fun members =>
      Yields (ObjectKind.ofMembers members) fun result => result = kind) ↔
      Json.depthMembers kind.members ≤ levels ∧ ∀ x ∈ kind.floats, ReadsUnchanged x := by
  refine kind_kept ?_ (fun _ => rfl) (fun _ => rfl) float_restored kind levels
  simp

theorem action_restored : Kept ReadsUnchanged (fun result written => result = written.normalized)
    Action.toJson Action.floats Action.read := by
  refine action_kept ?_ (fun _ => rfl) (fun _ => rfl) (fun _ => rfl) value_restored
  intro target operation result operand
  rw [← option_normal_iff]
  simp [Action.normalized]

theorem trigger_restored : Kept ReadsUnchanged (fun result written => result = written.normalized)
    Trigger.toJson Trigger.floats Trigger.shape.read := by
  refine trigger_kept ?_ action_restored
  rintro ⟨id, event, target, actions⟩ written
  simp [← list_normal_iff, Trigger.normalized]

theorem object_restored : Kept ReadsUnchanged (fun result written => result = written.normalized)
    SlideObject.toJson SlideObject.floats SlideObject.shape.readNamed := by
  refine object_kept ?_ point_restored size_restored kind_restored trigger_restored
  rintro ⟨id, name, position, size, visible, kind, triggers⟩ written
  simp [← list_normal_iff, SlideObject.normalized]

theorem layer_restored : Kept ReadsUnchanged (fun result written => result = written.normalized)
    Layer.toJson Layer.floats Layer.shape.read := by
  refine layer_kept ?_ object_restored
  rintro ⟨id, name, visible, objects⟩ written
  simp [← list_normal_iff, Layer.normalized]

theorem slide_restored : Kept ReadsUnchanged (fun result written => result = written.normalized)
    Slide.toJson Slide.floats Slide.shape.read := by
  refine slide_kept ?_ float_restored layer_restored
  rintro ⟨id, title, width, height, layers⟩ written
  simp [← list_normal_iff, Slide.normalized]

theorem variable_restored : Kept ReadsUnchanged (fun result written => result = written.normalized)
    Variable.toJson Variable.floats Variable.shape.read := by
  refine variable_kept ?_ value_restored
  rintro ⟨id, name, type, value⟩ written
  simp [← option_normal_iff, Variable.normalized]

theorem project_restored : Kept ReadsUnchanged (fun result written => result = written.normalized)
    Project.toJson Project.floats Project.shape.read := by
  refine project_kept ?_ slide_restored variable_restored
  rintro ⟨id, name, slides, declarations⟩ written
  simp [← list_normal_iff, Project.normalized]

/-- Reading what was written puts the values in normal form and changes nothing else, exactly if the
project is not nested too deep and each of its floats is read unchanged. -/
theorem decode_encode_normalized_iff (project : Project) :
    Project.decode (Source.ofString project.encode) = .ok project.normalized ↔
      project.toJson.depth ≤ Json.levelLimit ∧ ∀ x ∈ project.floats, ReadsUnchanged x := by
  rw [decode_encode, ← project_restored project Json.levelLimit]
  simp [Yields]

end Slideshow
