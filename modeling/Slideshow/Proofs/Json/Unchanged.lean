import Slideshow.Proofs.Json.Reread

set_option autoImplicit false

namespace Slideshow.Json

def ReadsUnchanged (x : Float) : Prop :=
  ∃ finite : x.isFinite = true,
    read (Source.ofString (Json.ofFloat x).write) = .ok (.number (.float x finite))

theorem reads_unchanged_iff (x : Float) (finite : x.isFinite = true) :
    ReadsUnchanged x ↔ Number.reread (.float x finite) = .ok (.float x finite) := by
  have same : ∀ finiteToo : x.isFinite = true,
      read (Source.ofString (Json.ofFloat x).write) = .ok (.number (.float x finiteToo)) ↔
        Number.reread (.float x finite) = .ok (.float x finite) := by
    intro finiteToo
    rw [read, of_float_finite x finite, read_whole_written]
    simp [outline, Outline.json, map_ok_iff]
  constructor
  · rintro ⟨finiteToo, back⟩
    exact (same finiteToo).mp back
  · intro back
    exact ⟨finite, (same finite).mpr back⟩

def readsUnchanged (x : Float) : Bool :=
  if finite : x.isFinite = true then
    match Number.reread (.float x finite) with
    | .ok read => read = .float x finite
    | .error _ => false
  else false

theorem reads_unchanged_computed (x : Float) : readsUnchanged x = true ↔ ReadsUnchanged x := by
  unfold readsUnchanged
  by_cases finite : x.isFinite = true
  · rw [dif_pos finite, reads_unchanged_iff x finite]
    cases Number.reread (.float x finite) <;> simp
  · rw [dif_neg finite]
    exact iff_of_false Bool.false_ne_true fun unchanged => finite unchanged.1

instance (x : Float) : Decidable (ReadsUnchanged x) :=
  decidable_of_iff (readsUnchanged x = true) (reads_unchanged_computed x)

theorem float_unchanged_iff (x : Float) (finite : x.isFinite = true) (good : Number → Prop)
    (same : ∀ y finiteToo, good (.float y finiteToo) ↔ y = x) :
    (∃ number, Number.reread (.float x finite) = .ok number ∧ good number) ↔ ReadsUnchanged x := by
  rw [reads_unchanged_iff x finite]
  constructor
  · rintro ⟨number, read, fine⟩
    obtain ⟨y, finiteToo, rfl⟩ := reread_float x finite number read
    obtain rfl := (same y finiteToo).mp fine
    exact read
  · intro back
    exact ⟨_, back, (same x finite).mpr rfl⟩

theorem number_unchanged_iff (n : Number) :
    n.reread = .ok n ↔ ∀ x ∈ floats (.number n), ReadsUnchanged x := by
  cases n with
  | int n inRange => simp [Number.reread_int, floats]
  | float x finite => simp [floats, reads_unchanged_iff x finite]

theorem within_levels_iff (levels depth : Nat) (P : Prop) :
    (∃ inner, levels = inner + 1 ∧ depth ≤ inner ∧ P) ↔ depth + 1 ≤ levels ∧ P := by
  cases levels <;> simp

mutual
theorem tree_unchanged_iff : (json : Json) → (levels : Nat) →
    (json.outline.json levels = .ok json ↔ json.depth ≤ levels ∧ ∀ x ∈ json.floats, ReadsUnchanged x)
  | .null, levels => by simp [outline, Outline.json, depth, floats]
  | .bool b, levels => by simp [outline, Outline.json, depth, floats]
  | .text s, levels => by simp [outline, Outline.json, map_ok_iff, depth, floats]
  | .number n, levels => by
      rw [← number_unchanged_iff n]
      simp [outline, Outline.json, map_ok_iff, depth]
  | .list elements, levels => by
      have inside : ∀ inner, _ := fun inner => elements_unchanged_iff elements inner
      simp only [outline, Outline.json, opened_ok_iff, bind_ok_iff, pure, Except.pure, Except.ok.injEq,
        list.injEq, exists_eq_right, inside, depth, floats]
      exact within_levels_iff levels _ _
  | .object members, levels => by
      have inside : ∀ inner, _ := fun inner => members_unchanged_iff members inner
      simp only [outline, Outline.json, opened_ok_iff, bind_ok_iff, pure, Except.pure, Except.ok.injEq,
        object.injEq, exists_eq_right, inside, depth, floats]
      exact within_levels_iff levels _ _

theorem elements_unchanged_iff : (elements : List Json) → (levels : Nat) →
    ((outlineElements elements).jsons levels = .ok elements ↔
      depthElements elements ≤ levels ∧ ∀ x ∈ floatsElements elements, ReadsUnchanged x)
  | [], levels => by simp [outlineElements, Elements.jsons, depthElements, floatsElements]
  | element :: rest, levels => by
      have first := tree_unchanged_iff element levels
      have later := elements_unchanged_iff rest levels
      simp only [outlineElements, Elements.jsons, bind_ok_iff, pure, Except.pure, Except.ok.injEq,
        List.cons.injEq, depthElements, floatsElements, Nat.max_le, List.forall_mem_append]
      rw [and_and_and_comm, ← first, ← later]
      simp [and_comm]

theorem members_unchanged_iff : (members : List (String × Json)) → (levels : Nat) →
    ((outlineMembers members).jsons levels = .ok members ↔
      depthMembers members ≤ levels ∧ ∀ x ∈ floatsMembers members, ReadsUnchanged x)
  | [], levels => by simp [outlineMembers, Members.jsons, depthMembers, floatsMembers]
  | (name, value) :: rest, levels => by
      have first := tree_unchanged_iff value levels
      have later := members_unchanged_iff rest levels
      simp only [outlineMembers, Members.jsons, bind_ok_iff, pure, Except.pure, Except.ok.injEq,
        List.cons.injEq, Prod.mk.injEq, depthMembers, floatsMembers, Nat.max_le, List.forall_mem_append]
      rw [and_and_and_comm, ← first, ← later]
      simp
end

mutual
theorem depth_of_read : (json : Json) → (levels : Nat) → (read : Json) →
    json.outline.json levels = .ok read → json.depth ≤ levels
  | .null, levels, _, _ | .bool _, levels, _, _ | .text _, levels, _, _ | .number _, levels, _, _ =>
      Nat.zero_le levels
  | .list elements, levels, read, known => by
      obtain ⟨inner, rfl, inside⟩ := (opened_ok_iff _ _ _).mp known
      obtain ⟨list, listKnown, _⟩ := (bind_ok_iff _ _ _).mp inside
      exact Nat.succ_le_succ (depth_of_elements elements inner list listKnown)
  | .object members, levels, read, known => by
      obtain ⟨inner, rfl, inside⟩ := (opened_ok_iff _ _ _).mp known
      obtain ⟨list, listKnown, _⟩ := (bind_ok_iff _ _ _).mp inside
      exact Nat.succ_le_succ (depth_of_members members inner list listKnown)

theorem depth_of_elements : (elements : List Json) → (levels : Nat) → (read : List Json) →
    (outlineElements elements).jsons levels = .ok read → depthElements elements ≤ levels
  | [], levels, _, _ => Nat.zero_le levels
  | element :: rest, levels, read, known => by
      obtain ⟨head, headKnown, later⟩ := (bind_ok_iff _ _ _).mp known
      obtain ⟨tail, tailKnown, _⟩ := (bind_ok_iff _ _ _).mp later
      exact Nat.max_le.mpr ⟨depth_of_read element levels head headKnown,
        depth_of_elements rest levels tail tailKnown⟩

theorem depth_of_members : (members : List (String × Json)) → (levels : Nat) →
    (read : List (String × Json)) → (outlineMembers members).jsons levels = .ok read →
    depthMembers members ≤ levels
  | [], levels, _, _ => Nat.zero_le levels
  | (name, value) :: rest, levels, read, known => by
      obtain ⟨_, _, valueKnown⟩ := (bind_ok_iff _ _ _).mp known
      obtain ⟨head, headKnown, later⟩ := (bind_ok_iff _ _ _).mp valueKnown
      obtain ⟨tail, tailKnown, _⟩ := (bind_ok_iff _ _ _).mp later
      exact Nat.max_le.mpr ⟨depth_of_read value levels head headKnown,
        depth_of_members rest levels tail tailKnown⟩
end

theorem read_unchanged_iff (json read : Json) (levels : Nat)
    (known : json.outline.json levels = .ok read) :
    read = json ↔ ∀ x ∈ json.floats, ReadsUnchanged x := by
  have unchanged := tree_unchanged_iff json levels
  rwa [known, Except.ok.injEq, and_iff_right (depth_of_read json levels read known)] at unchanged

end Slideshow.Json
