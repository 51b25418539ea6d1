import Slideshow.Proofs.Document.Missing
import Slideshow.Proofs.Document.Places

set_option autoImplicit false

namespace Slideshow

open Json (Place ReadError Shape outlineElements outlineMembers)

namespace Json

def without (name : String) : List PathStep → Json → Json
  | [], .object members => .object (members.filter (·.1 ≠ name))
  | .member field :: rest, .object members =>
      .object (members.map fun member =>
        if member.1 = field then (member.1, without name rest member.2) else member)
  | .element n :: rest, .list elements => .list (elements.modify n (without name rest))
  | _, json => json

def HasMember (json : Json) (path : List PathStep) (name : String) : Prop :=
  ∃ members, json.walk? path = some (.object members) ∧ name ∈ members.map (·.1)

theorem has_member_here (members : List (String × Json)) (name : String)
    (has : (Json.object members).HasMember [] name) : name ∈ members.map (·.1) := by
  obtain ⟨others, same, member⟩ := has
  cases same
  exact member

theorem lookup_member (members : List (String × Json)) (name : String) (value : Json)
    (found : members.lookup name = some value) : (name, value) ∈ members := by
  induction members with
  | nil => cases found
  | cons member rest ih =>
      obtain ⟨known, here⟩ := member
      by_cases same : name = known
      · subst same
        rw [List.lookup_cons_self] at found
        cases found
        exact List.mem_cons_self
      · rw [List.lookup_cons, beq_eq_false_iff_ne.mpr same] at found
        exact List.mem_cons_of_mem _ (ih found)

theorem has_member_below (members : List (String × Json)) (step : PathStep) (rest : List PathStep)
    (name : String) (has : (Json.object members).HasMember (step :: rest) name) :
    ∃ field value, step = .member field ∧ (field, value) ∈ members ∧ value.isScalar = false ∧
      value.HasMember rest name := by
  obtain ⟨inner, reached, member⟩ := has
  obtain ⟨value, found, there⟩ := Option.bind_eq_some_iff.mp reached
  cases step with
  | element n => cases found
  | member field =>
      refine ⟨field, value, rfl, lookup_member members field value found, ?_, inner, there, member⟩
      cases rest with
      | nil =>
          cases there
          rfl
      | cons step rest =>
          obtain ⟨next, further, _⟩ := Option.bind_eq_some_iff.mp there
          cases value <;> first | rfl | cases further

theorem has_member_element (elements : List Json) (n : Nat) (rest : List PathStep) (name : String)
    (has : (Json.list elements).HasMember (.element n :: rest) name) :
    ∃ value, elements[n]? = some value ∧ value.HasMember rest name := by
  obtain ⟨inner, reached, member⟩ := has
  obtain ⟨value, found, there⟩ := Option.bind_eq_some_iff.mp reached
  exact ⟨value, found, inner, there, member⟩

theorem list_has_no_member (elements : List Json) (name : String) :
    ¬ (Json.list elements).HasMember [] name := by
  rintro ⟨inner, reached, _⟩
  cases reached

theorem float_scalar (x : Float) : (Json.ofFloat x).isScalar = true := by
  unfold Json.ofFloat
  split <;> rfl

theorem list_has_no_field (elements : List Json) (field : String) (rest : List PathStep) (name : String) :
    ¬ (Json.list elements).HasMember (.member field :: rest) name := by
  rintro ⟨inner, reached, _⟩
  cases reached

end Json

section Verdict

variable {α β γ δ : Type}

def Lowers (change : α → β) (whole : Except ReadError α) (cut : Except ReadError β) : Prop :=
  ∀ result, whole = .ok result → cut = .ok (change result)

def optionalNames : List String :=
  ["layers", "objects", "triggers", "actions", "visible", "objectId", "operation", "value"]

-- What becomes of a reading when the member of a name is left out.
def Verdict (name : String) (change : α → α) (whole cut : Except ReadError α) : Prop :=
  if name ∈ optionalNames then Lowers change whole cut else Fails cut

section Steps

variable {levels : Nat} {first : Except ReadError α} {rest : α → Except ReadError β}

theorem lowers_opened {change : α → β} {whole : Nat → Except ReadError α} {cut : Nat → Except ReadError β}
    (lowers : ∀ inner, Lowers change (whole inner) (cut inner)) :
    Lowers change (Json.opened levels whole) (Json.opened levels cut) := by
  intro result known
  obtain ⟨inner, rfl, inside⟩ := (Json.opened_ok_iff levels whole result).mp known
  exact lowers inner result inside

theorem lowers_bind {inner : α → γ} {change : β → δ} {other : Except ReadError γ}
    {later : γ → Except ReadError δ} (lowers : Lowers inner first other)
    (next : ∀ a, Lowers change (rest a) (later (inner a))) :
    Lowers change (first >>= rest) (other >>= later) := by
  intro result known
  obtain ⟨a, done, finished⟩ := (Json.bind_ok_iff _ _ _).mp known
  exact (Json.bind_ok_iff _ _ _).mpr ⟨inner a, lowers a done, next a result finished⟩

theorem lowers_then {change : β → γ} {later : α → Except ReadError γ}
    (next : ∀ a, Lowers change (rest a) (later a)) : Lowers change (first >>= rest) (first >>= later) :=
  lowers_bind (fun a done => (done : first = .ok (id a))) next

theorem lowers_pure (change : α → β) (a : α) : Lowers change (pure a) (pure (change a)) := by
  intro result known
  cases known
  rfl

theorem lowers_constant (a : α) (first : Except ReadError β) : Lowers (fun _ => a) first (pure a) :=
  fun _ _ => rfl

variable {name : String} {change : α → α} {whole cut : Except ReadError α}

theorem verdict_optional (optional : name ∈ optionalNames) (lowers : Lowers change whole cut) :
    Verdict name change whole cut := by
  rw [Verdict, if_pos optional]
  exact lowers

theorem verdict_required (required : name ∉ optionalNames) (fails : Fails cut) :
    Verdict name change whole cut := by
  rw [Verdict, if_neg required]
  exact fails

theorem verdict_opened {whole cut : Nat → Except ReadError α}
    (inside : ∀ inner, Verdict name change (whole inner) (cut inner)) :
    Verdict name change (Json.opened levels whole) (Json.opened levels cut) := by
  by_cases optional : name ∈ optionalNames
  · simp only [Verdict, if_pos optional] at inside ⊢
    exact lowers_opened inside
  · simp only [Verdict, if_neg optional] at inside ⊢
    exact fails_opened inside

theorem verdict_bind {outer : β → β} {other : Except ReadError α} (verdict : Verdict name change first other)
    (next : ∀ a, Lowers outer (rest a) (rest (change a))) :
    Verdict name outer (first >>= rest) (other >>= rest) := by
  by_cases optional : name ∈ optionalNames
  · simp only [Verdict, if_pos optional] at verdict ⊢
    exact lowers_bind verdict next
  · simp only [Verdict, if_neg optional] at verdict ⊢
    exact fails_first verdict

theorem verdict_then {outer : β → β} {later : α → Except ReadError β}
    (next : ∀ a, Verdict name outer (rest a) (later a)) :
    Verdict name outer (first >>= rest) (first >>= later) := by
  by_cases optional : name ∈ optionalNames
  · simp only [Verdict, if_pos optional] at next ⊢
    exact lowers_then next
  · simp only [Verdict, if_neg optional] at next ⊢
    exact fails_then next

end Steps

end Verdict

section Lists

variable {α : Type}

-- Whatever member is left out of a written record, the reader has the verdict on it. Below a member
-- "value" no record is written.
def Enforces (toJson : α → Json) (byDefault : String → List PathStep → α → α)
    (read : Place → Except ReadError α) : Prop :=
  ∀ (written : α) (path : List PathStep) (name : String), (toJson written).HasMember path name →
    .member "value" ∉ path → ∀ levels,
      Verdict name (byDefault name path) (read ⟨(toJson written).outline, levels⟩)
        (read ⟨((toJson written).without name path).outline, levels⟩)

def listByDefault (byDefault : String → List PathStep → α → α) (name : String) :
    List PathStep → List α → List α
  | .element n :: rest, list => list.modify n (byDefault name rest)
  | _, list => list

theorem each_verdict (name : String) (change : α → α) (cut : Json → Json)
    (read : Json.Outline → Except ReadError α) (elements : List Json) (n : Nat) (json : Json)
    (there : elements[n]? = some json)
    (verdict : Verdict name change (read json.outline) (read (cut json).outline)) :
    Verdict name (List.modify · n change) ((outlineElements elements).each read)
      ((outlineElements (elements.modify n cut)).each read) := by
  induction elements generalizing n with
  | nil => cases there
  | cons first rest ih =>
      cases n with
      | zero =>
          cases there
          exact verdict_bind verdict fun a => lowers_then fun more => lowers_pure _ (a :: more)
      | succ n =>
          exact verdict_then fun a => verdict_bind (ih n there) fun more => lowers_pure _ (a :: more)

theorem list_enforces (toJson : α → Json) (byDefault : String → List PathStep → α → α)
    (read : Place → Except ReadError α) (enforces : Enforces toJson byDefault read) :
    Enforces (fun list => .list (list.map toJson)) (listByDefault byDefault) (readList read) := by
  intro list path name has plain levels
  cases path with
  | nil => exact absurd has (Json.list_has_no_member _ name)
  | cons step rest =>
      cases step with
      | member field => exact absurd has (Json.list_has_no_field _ field rest name)
      | element n =>
          obtain ⟨json, there, inside⟩ := Json.has_member_element _ n rest name has
          have written := there
          rw [List.getElem?_map] at written
          obtain ⟨record, _, rfl⟩ := Option.map_eq_some_iff.mp written
          have below : .member "value" ∉ rest := fun member => plain (List.mem_cons_of_mem _ member)
          exact verdict_opened fun inner =>
            each_verdict name _ _ _ _ n _ there (enforces record rest name inside below inner)

end Lists

section Missing

variable {δ α : Type} {name : String} {lacking : δ → Prop}

theorem verdict_named_missing {shape : Shape Place δ α} (needs : Needs shape name lacking)
    (required : name ∉ optionalNames) (members : List (String × Json)) (levels : Nat) (change : α → α)
    (whole : Except ReadError α) :
    Verdict name change whole
      (shape.readNamed ⟨((Json.object members).without name []).outline, levels⟩) :=
  verdict_required required (read_lacks needs _ levels (filtered_absent members name))

theorem verdict_missing {shape : Shape Place δ α} (needs : Needs shape name lacking)
    (required : name ∉ optionalNames) (members : List (String × Json)) (levels : Nat) (change : α → α)
    (whole : Except ReadError α) :
    Verdict name change whole (shape.read ⟨((Json.object members).without name []).outline, levels⟩) :=
  verdict_named_missing needs required members levels change whole

end Missing

end Slideshow
