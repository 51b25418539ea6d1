import Slideshow.Proofs.FloatAlike
import Slideshow.Proofs.IdMap
import Slideshow.Proofs.Json.Written

set_option autoImplicit false

namespace Slideshow.Json

theorem bind_ok_iff {ε α β : Type} (x : Except ε α) (f : α → Except ε β) (b : β) :
    (x >>= f) = .ok b ↔ ∃ a, x = .ok a ∧ f a = .ok b := by
  cases x with
  | error fault => simp [bind, Except.bind]
  | ok a => simp [bind, Except.bind]

theorem map_ok_iff {ε α β : Type} (x : Except ε α) (f : α → β) (b : β) :
    x.map f = .ok b ↔ ∃ a, x = .ok a ∧ f a = b := by
  cases x <;> simp [Except.map]

theorem map_returns_iff {ε α β : Type} (x : Except ε α) (f : α → β) (good : β → Prop) :
    (∃ b, x.map f = .ok b ∧ good b) ↔ ∃ a, x = .ok a ∧ good (f a) := by
  cases x <;> simp [Except.map]

theorem opened_ok_iff {α : Type} (levels : Nat) (read : Nat → Except ReadError α) (a : α) :
    opened levels read = .ok a ↔ ∃ inner, levels = inner + 1 ∧ read inner = .ok a := by
  cases levels <;> simp [opened]

theorem opened_returns_iff {α : Type} (read : Nat → Except ReadError α) (good : α → Prop)
    (depth levels : Nat) (P : Prop)
    (inside : ∀ inner, (∃ a, read inner = .ok a ∧ good a) ↔ depth ≤ inner ∧ P) :
    (∃ a, opened levels read = .ok a ∧ good a) ↔ depth + 1 ≤ levels ∧ P := by
  cases levels with
  | zero => simp [opened]
  | succ inner => simpa [opened] using inside inner

mutual
def depth : Json → Nat
  | .list elements => depthElements elements + 1
  | .object members => depthMembers members + 1
  | _ => 0

def depthElements : List Json → Nat
  | [] => 0
  | element :: rest => max element.depth (depthElements rest)

def depthMembers : List (String × Json) → Nat
  | [] => 0
  | (_, value) :: rest => max value.depth (depthMembers rest)
end

mutual
def floats : Json → List Float
  | .number (.float x _) => [x]
  | .list elements => floatsElements elements
  | .object members => floatsMembers members
  | _ => []

def floatsElements : List Json → List Float
  | [] => []
  | element :: rest => element.floats ++ floatsElements rest

def floatsMembers : List (String × Json) → List Float
  | [] => []
  | (_, value) :: rest => value.floats ++ floatsMembers rest
end

def ReadsBack (x : Float) : Prop :=
  ∃ (y : Float) (finite : y.isFinite = true),
    read (Source.ofString (Json.ofFloat x).write) = .ok (.number (.float y finite)) ∧ (y == x) = true

theorem of_float_finite (x : Float) (finite : x.isFinite = true) :
    Json.ofFloat x = .number (.float x finite) := by
  rw [Json.ofFloat, dif_pos finite]

theorem of_float_not_finite (x : Float) (infinite : ¬ x.isFinite = true) : Json.ofFloat x = .null := by
  rw [Json.ofFloat, dif_neg infinite]

theorem reads_back_iff (x : Float) (finite : x.isFinite = true) :
    ReadsBack x ↔ ∃ (y : Float) (finiteToo : y.isFinite = true),
      Number.reread (.float x finite) = .ok (.float y finiteToo) ∧ (y == x) = true := by
  unfold ReadsBack read
  rw [of_float_finite x finite, read_whole_written]
  simp [outline, Outline.json, map_ok_iff]

theorem reads_back_finite (x : Float) (back : ReadsBack x) : x.isFinite = true := by
  by_cases finite : x.isFinite = true
  · exact finite
  · obtain ⟨y, finiteToo, same, _⟩ := back
    rw [of_float_not_finite x finite, read, read_whole_written] at same
    simp [outline, Outline.json] at same

theorem float_spelling_marked (x : Float) :
    (floatSpelling x).fraction ≠ none ∨ (floatSpelling x).exponent ≠ none := by
  unfold floatSpelling spellingOf
  split
  · exact .inl (by simp)
  · split
    · split
      · exact .inl (by simp)
      · split <;> exact .inl (by simp)
    · exact .inr (by simp)

theorem float_not_integer (x : Float) (negative : Bool) :
    ((floatSpelling x).numeral negative).integer = none := by
  have sound := float_spelling_sound x
  unfold Numeral.integer Spelling.numeral
  rcases float_spelling_marked x with fraction | exponent
  · cases same : (floatSpelling x).fraction with
    | none => exact absurd same fraction
    | some digits =>
        have present := (sound.fraction digits same).ne_nil
        cases digits with
        | nil => exact absurd rfl present
        | cons c rest => rfl
  · cases same : (floatSpelling x).exponent with
    | none => exact absurd same exponent
    | some part => simp

theorem float_of_float (x : Float) (number : Number) (made : Numeral.ofFloat x = .ok number) :
    ∃ y finite, number = .float y finite := by
  unfold Numeral.ofFloat at made
  split at made
  · cases made
    exact ⟨_, _, rfl⟩
  · cases made

theorem float_of_numeral (numeral : Numeral) (number : Number) (read : numeral.float = .ok number) :
    ∃ y finite, number = .float y finite := by
  unfold Numeral.float at read
  simp only [bind_ok_iff] at read
  obtain ⟨y, _, made⟩ := read
  exact float_of_float _ number made

-- A float never comes back as an integer, however round it is: its numeral has a point or an exponent.
theorem reread_float (x : Float) (finite : x.isFinite = true) (number : Number)
    (read : Number.reread (.float x finite) = .ok number) : ∃ y finiteToo, number = .float y finiteToo := by
  have noInteger := float_not_integer x (Decimal.isNegative x)
  unfold Number.reread Numeral.value at read
  have same : (Number.float x finite).spelling = floatSpelling x := rfl
  have sign : (Number.float x finite).isNegative = Decimal.isNegative x := rfl
  rw [same, sign, noInteger] at read
  exact float_of_numeral _ number read

theorem float_returns_iff (x : Float) (finite : x.isFinite = true) (good : Number → Prop)
    (equal : ∀ y finiteToo, good (.float y finiteToo) ↔ (y == x) = true) :
    (∃ number, Number.reread (.float x finite) = .ok number ∧ good number) ↔ ReadsBack x := by
  rw [reads_back_iff x finite]
  constructor
  · rintro ⟨number, read, fine⟩
    obtain ⟨y, finiteToo, rfl⟩ := reread_float x finite number read
    exact ⟨y, finiteToo, read, (equal y finiteToo).mp fine⟩
  · rintro ⟨y, finiteToo, read, same⟩
    exact ⟨_, read, (equal y finiteToo).mpr same⟩

def readsBack (x : Float) : Bool :=
  if finite : x.isFinite = true then
    match Number.reread (.float x finite) with
    | .ok read => read.alike (.float x finite)
    | .error _ => false
  else false

theorem reads_back_computed (x : Float) : readsBack x = true ↔ ReadsBack x := by
  unfold readsBack
  by_cases finite : x.isFinite = true
  · rw [dif_pos finite, ← float_returns_iff x finite (·.alike (.float x finite) = true) fun _ _ => Iff.rfl]
    cases Number.reread (.float x finite) <;> simp
  · rw [dif_neg finite]
    exact iff_of_false Bool.false_ne_true fun back => finite (reads_back_finite x back)

instance (x : Float) : Decidable (ReadsBack x) :=
  decidable_of_iff (readsBack x = true) (reads_back_computed x)

example : ∀ x ∈ [1280.0, 0.1, 1e21], ReadsBack x := by decide +kernel

theorem number_returns_iff (n : Number) :
    (∃ m, n.reread = .ok m ∧ m.alike n = true) ↔ ∀ x ∈ floats (.number n), ReadsBack x := by
  cases n with
  | int n inRange =>
      simp only [Number.reread_int, floats, List.not_mem_nil, false_implies, implies_true, iff_true]
      exact ⟨_, rfl, by simp [Number.alike]⟩
  | float x finite =>
      simp only [floats, List.mem_singleton, forall_eq]
      exact float_returns_iff x finite _ fun _ _ => Iff.rfl

mutual
theorem tree_returns_iff : (json : Json) → (levels : Nat) →
    ((∃ read, json.outline.json levels = .ok read ∧ read.alike json = true) ↔
      json.depth ≤ levels ∧ ∀ x ∈ json.floats, ReadsBack x)
  | .null, levels => by simp [outline, Outline.json, alike, depth, floats]
  | .bool b, levels => by simp [outline, Outline.json, alike, depth, floats]
  | .text s, levels => by simp [outline, Outline.json, map_ok_iff, alike, depth, floats]
  | .number n, levels => by
      rw [← number_returns_iff n]
      simp [outline, Outline.json, alike, depth, map_ok_iff]
  | .list elements, levels => by
      have inside : ∀ inner, _ := fun inner => elements_return_iff elements inner
      refine opened_returns_iff _ (fun read : Json => read.alike _ = true) _ levels _ fun inner => ?_
      exact Iff.trans (by simp [bind_ok_iff, pure, Except.pure, alike]) (inside inner)
  | .object members, levels => by
      have inside : ∀ inner, _ := fun inner => members_return_iff members inner
      refine opened_returns_iff _ (fun read : Json => read.alike _ = true) _ levels _ fun inner => ?_
      exact Iff.trans (by simp [bind_ok_iff, pure, Except.pure, alike]) (inside inner)

theorem elements_return_iff : (elements : List Json) → (levels : Nat) →
    ((∃ read, (outlineElements elements).jsons levels = .ok read ∧ alikeLists read elements = true) ↔
      depthElements elements ≤ levels ∧ ∀ x ∈ floatsElements elements, ReadsBack x)
  | [], levels => by simp [outlineElements, Elements.jsons, alikeLists, depthElements, floatsElements]
  | element :: rest, levels => by
      have first := tree_returns_iff element levels
      have later := elements_return_iff rest levels
      simp only [outlineElements, Elements.jsons, bind_ok_iff, pure, Except.pure, Except.ok.injEq,
        depthElements, floatsElements, Nat.max_le, List.forall_mem_append]
      constructor
      · rintro ⟨_, ⟨head, headKnown, tail, tailKnown, rfl⟩, same⟩
        obtain ⟨headSame, tailSame⟩ := Bool.and_eq_true_iff.mp same
        obtain ⟨headShallow, headBack⟩ := first.mp ⟨head, headKnown, headSame⟩
        obtain ⟨tailShallow, tailBack⟩ := later.mp ⟨tail, tailKnown, tailSame⟩
        exact ⟨⟨headShallow, tailShallow⟩, headBack, tailBack⟩
      · rintro ⟨⟨headShallow, tailShallow⟩, headBack, tailBack⟩
        obtain ⟨head, headKnown, headSame⟩ := first.mpr ⟨headShallow, headBack⟩
        obtain ⟨tail, tailKnown, tailSame⟩ := later.mpr ⟨tailShallow, tailBack⟩
        exact ⟨_, ⟨head, headKnown, tail, tailKnown, rfl⟩, Bool.and_eq_true_iff.mpr ⟨headSame, tailSame⟩⟩

theorem members_return_iff : (members : List (String × Json)) → (levels : Nat) →
    ((∃ read, (outlineMembers members).jsons levels = .ok read ∧ alikeMembers read members = true) ↔
      depthMembers members ≤ levels ∧ ∀ x ∈ floatsMembers members, ReadsBack x)
  | [], levels => by simp [outlineMembers, Members.jsons, alikeMembers, depthMembers, floatsMembers]
  | (name, value) :: rest, levels => by
      have first := tree_returns_iff value levels
      have later := members_return_iff rest levels
      simp only [outlineMembers, Members.jsons, bind_ok_iff, pure, Except.pure, Except.ok.injEq,
        depthMembers, floatsMembers, Nat.max_le, List.forall_mem_append]
      constructor
      · rintro ⟨_, ⟨_, rfl, head, headKnown, tail, tailKnown, rfl⟩, same⟩
        simp only [alikeMembers, Bool.and_eq_true] at same
        obtain ⟨headShallow, headBack⟩ := first.mp ⟨head, headKnown, same.1.2⟩
        obtain ⟨tailShallow, tailBack⟩ := later.mp ⟨tail, tailKnown, same.2⟩
        exact ⟨⟨headShallow, tailShallow⟩, headBack, tailBack⟩
      · rintro ⟨⟨headShallow, tailShallow⟩, headBack, tailBack⟩
        obtain ⟨head, headKnown, headSame⟩ := first.mpr ⟨headShallow, headBack⟩
        obtain ⟨tail, tailKnown, tailSame⟩ := later.mpr ⟨tailShallow, tailBack⟩
        refine ⟨_, ⟨name, rfl, head, headKnown, tail, tailKnown, rfl⟩, ?_⟩
        simp [alikeMembers, headSame, tailSame]
end

mutual
theorem canonical_of_canonical : (json : Json) → json.Canonical → json.canonical = json
  | .null, _ | .bool _, _ | .number _, _ | .text _, _ => rfl
  | .list elements, sorted => by
      rw [canonical, canonical_elements elements sorted]
  | .object members, sorted => by
      rw [canonical, canonical_members members sorted.2, IdMap.entries_of_list members sorted.1]

theorem canonical_elements : (elements : List Json) → CanonicalList elements →
    canonicalList elements = elements
  | [], _ => rfl
  | element :: rest, sorted => by
      rw [canonicalList, canonical_of_canonical element sorted.1, canonical_elements rest sorted.2]

theorem canonical_members : (members : List (String × Json)) → CanonicalMembers members →
    canonicalMembers members = members
  | [], _ => rfl
  | (name, value) :: rest, sorted => by
      rw [canonicalMembers, canonical_of_canonical value sorted.1, canonical_members rest sorted.2]
end

theorem ascending_of_names {α β : Type} (left : List (String × α)) (right : List (String × β))
    (names : left.map (·.1) = right.map (·.1)) (ascending : Ascending right) : Ascending left := by
  unfold Ascending at ascending ⊢
  rw [← List.pairwise_map (f := fun entry : String × α => entry.1), names, List.pairwise_map]
  exact ascending

mutual
theorem read_canonical : (json : Json) → (levels : Nat) → (read : Json) →
    json.outline.json levels = .ok read → json.Canonical → read.Canonical
  | .null, levels, read, known, _ => by cases known; trivial
  | .bool b, levels, read, known, _ => by cases known; trivial
  | .text s, levels, read, known, _ => by cases known; trivial
  | .number n, levels, read, known, _ => by
      obtain ⟨m, _, rfl⟩ := (map_ok_iff _ _ _).mp known
      trivial
  | .list elements, levels, read, known, sorted => by
      obtain ⟨inner, _, inside⟩ := (opened_ok_iff _ _ _).mp known
      obtain ⟨list, listKnown, same⟩ := (bind_ok_iff _ _ _).mp inside
      cases same
      exact elements_canonical elements inner list listKnown sorted
  | .object members, levels, read, known, sorted => by
      obtain ⟨inner, _, inside⟩ := (opened_ok_iff _ _ _).mp known
      obtain ⟨list, listKnown, same⟩ := (bind_ok_iff _ _ _).mp inside
      cases same
      obtain ⟨names, kept⟩ := members_canonical members inner list listKnown sorted.2
      exact ⟨ascending_of_names list members names sorted.1, kept⟩

theorem elements_canonical : (elements : List Json) → (levels : Nat) → (read : List Json) →
    (outlineElements elements).jsons levels = .ok read → CanonicalList elements → CanonicalList read
  | [], levels, read, known, _ => by cases known; trivial
  | element :: rest, levels, read, known, sorted => by
      obtain ⟨head, headKnown, later⟩ := (bind_ok_iff _ _ _).mp known
      obtain ⟨tail, tailKnown, same⟩ := (bind_ok_iff _ _ _).mp later
      cases same
      exact ⟨read_canonical element levels head headKnown sorted.1,
        elements_canonical rest levels tail tailKnown sorted.2⟩

theorem members_canonical : (members : List (String × Json)) → (levels : Nat) →
    (read : List (String × Json)) → (outlineMembers members).jsons levels = .ok read →
    CanonicalMembers members → read.map (·.1) = members.map (·.1) ∧ CanonicalMembers read
  | [], levels, read, known, _ => by cases known; exact ⟨rfl, trivial⟩
  | (name, value) :: rest, levels, read, known, sorted => by
      obtain ⟨_, same, valueKnown⟩ := (bind_ok_iff _ _ _).mp known
      cases same
      obtain ⟨head, headKnown, later⟩ := (bind_ok_iff _ _ _).mp valueKnown
      obtain ⟨tail, tailKnown, same⟩ := (bind_ok_iff _ _ _).mp later
      cases same
      obtain ⟨names, kept⟩ := members_canonical rest levels tail tailKnown sorted.2
      exact ⟨by rw [List.map_cons, List.map_cons, names],
        read_canonical value levels head headKnown sorted.1, kept⟩
end

end Slideshow.Json
