import Slideshow.Json.Record
import Slideshow.Proofs.Json.Reread

set_option autoImplicit false

namespace Slideshow.Json

def Unrepeated {β : Type} (names : List String) (members : List (String × β)) : Prop :=
  members.Pairwise fun a b => a.1 = b.1 → a.1 ∉ names

variable {ι δ α : Type}

def Shape.names (shape : Shape ι δ α) : List String := shape.fields.map (·.name)

def Shape.takeAll (shape : Shape ι δ α) : List (String × ι) → List String → δ → Except ReadError δ
  | [], _, draft => .ok draft
  | (name, value) :: rest, seen, draft => do
      let draft ← shape.take seen name value draft
      shape.takeAll rest (name :: seen) draft

theorem fill_named_take_all (shape : Shape Json δ α) (members : List (String × Json)) (seen : List String)
    (draft : δ) : fillNamed shape members seen draft = shape.takeAll members seen draft := by
  induction members generalizing seen draft with
  | nil => rfl
  | cons member rest ih =>
      rw [fillNamed, Shape.takeAll]
      simp only [ih]

def Field.consult (field : Field ι δ) (members : List (String × ι)) (draft : δ) : Except ReadError δ :=
  match members.lookup field.name with
  | some value => field.store value draft
  | none => .ok draft

def consultAll (members : List (String × ι)) : List (Field ι δ) → δ → Except ReadError δ
  | [], draft => .ok draft
  | field :: fields, draft => do
      let draft ← field.consult members draft
      consultAll members fields draft

def Shape.strays (shape : Shape ι δ α) (members : List (String × ι)) : List (String × ι) :=
  members.filter fun member => member.1 ∉ shape.names

def Shape.addStrays (shape : Shape ι δ α) : List (String × ι) → δ → Except ReadError δ
  | [], draft => .ok draft
  | (name, value) :: rest, draft => do
      let draft ← shape.other name value draft
      shape.addStrays rest draft

def Past (first second : δ → Except ReadError δ) : Prop :=
  ∀ draft result, (second draft >>= first) = .ok result → (first draft >>= second) = .ok result

structure Shape.Orderless (shape : Shape ι δ α) : Prop where
  apart : shape.names.Nodup
  fields : shape.fields.Pairwise fun early late =>
    ∀ value other, Past (late.store value) (early.store other)
  other : ∀ field ∈ shape.fields, ∀ name value stored, Past (shape.other name value) (field.store stored)

theorem past_of_sets {β γ : Type} (first : Except ReadError β) (second : Except ReadError γ)
    (set : β → δ → δ) (setToo : γ → δ → δ) (apart : ∀ x y draft, set x (setToo y draft) = setToo y (set x draft)) :
    Past (fun draft => do return set (← first) draft) (fun draft => do return setToo (← second) draft) := by
  intro draft result known
  obtain ⟨_, stored, known⟩ := (bind_ok_iff _ _ _).mp known
  obtain ⟨y, right, same⟩ := (bind_ok_iff _ _ _).mp stored
  cases same
  obtain ⟨x, left, same⟩ := (bind_ok_iff _ _ _).mp known
  cases same
  rw [left, right]
  exact congrArg Except.ok (apart x y draft).symm

theorem past_skip (name : String) (place : Place) (step : δ → Except ReadError δ) :
    Past (skipOther name place) step := by
  intro draft result known
  obtain ⟨next, stored, known⟩ := (bind_ok_iff _ _ _).mp known
  obtain ⟨_, skipped, same⟩ := (bind_ok_iff _ _ _).mp known
  cases same
  rw [skipOther, skipped]
  exact stored

theorem past_ignore (name : String) (json : Json) (step : δ → Except ReadError δ) :
    Past (ignoreOther name json) step := by
  intro draft result known
  obtain ⟨next, stored, same⟩ := (bind_ok_iff _ _ _).mp known
  cases same
  exact stored

section Ordering

variable {first second third : δ → Except ReadError δ}

theorem past_before (past : Past first second) {draft next result : δ} (here : second draft = .ok next)
    (later : (first next >>= third) = .ok result) :
    (first draft >>= fun begun => second begun >>= third) = .ok result := by
  obtain ⟨stored, early, later⟩ := (bind_ok_iff _ _ _).mp later
  obtain ⟨begun, early, here⟩ := (bind_ok_iff _ _ _).mp
    (past draft stored ((bind_ok_iff _ _ _).mpr ⟨next, here, early⟩))
  exact (bind_ok_iff _ _ _).mpr ⟨begun, early, (bind_ok_iff _ _ _).mpr ⟨stored, here, later⟩⟩

theorem past_both (past : Past first second) (pastToo : Past first third) :
    Past first fun draft => second draft >>= third := by
  intro draft result known
  obtain ⟨last, both, known⟩ := (bind_ok_iff _ _ _).mp known
  obtain ⟨next, here, later⟩ := (bind_ok_iff _ _ _).mp both
  exact past_before past here (pastToo next result ((bind_ok_iff _ _ _).mpr ⟨last, later, known⟩))

end Ordering

section Lookups

variable {β : Type} (members : List (String × β))

theorem unseen_of_unrepeated (names : List String) (name : String) (value : β) (known : name ∈ names)
    (unrepeated : Unrepeated names ((name, value) :: members)) : members.lookup name = none := by
  rw [List.lookup_eq_none_iff]
  intro member inRest
  have apart := (List.pairwise_cons.mp unrepeated).1 member inRest
  exact bne_iff_ne.mpr fun same => apart same known

theorem lookup_of_mem (names : List String) (unrepeated : Unrepeated names members) (name : String) (value : β)
    (known : name ∈ names) (present : (name, value) ∈ members) : members.lookup name = some value := by
  induction members with
  | nil => cases present
  | cons member rest ih =>
      obtain ⟨first, other⟩ := member
      obtain ⟨apart, later⟩ := List.pairwise_cons.mp unrepeated
      rw [IdMap.lookup_cons_if]
      by_cases same : name = first
      · subst same
        rcases List.mem_cons.mp present with here | inRest
        · rw [if_pos rfl, (Prod.mk.inj here).2]
        · exact absurd known (apart _ inRest rfl)
      · rw [if_neg same]
        rcases List.mem_cons.mp present with here | inRest
        · exact absurd (Prod.mk.inj here).1 same
        · exact ih later inRest

theorem lookup_of_not_mem (name : String) (absent : name ∉ members.map (·.1)) :
    members.lookup name = none := by
  rw [List.lookup_eq_none_iff]
  intro member present
  exact bne_iff_ne.mpr fun same => absent (List.mem_map.mpr ⟨member, present, same.symm⟩)

theorem unrepeated_of_names {γ : Type} (names : List String) (others : List (String × γ))
    (same : others.map (·.1) = members.map (·.1)) (unrepeated : Unrepeated names members) :
    Unrepeated names others := by
  unfold Unrepeated at unrepeated ⊢
  rw [← List.pairwise_map (f := Prod.fst) (R := fun a b => a = b → a ∉ names)] at unrepeated ⊢
  rw [same]
  exact unrepeated

theorem unrepeated_of_subset (names others : List String) (subset : others ⊆ names)
    (unrepeated : Unrepeated names members) : Unrepeated others members :=
  unrepeated.imp fun apart same known => apart same (subset known)

end Lookups

section Consulted

variable (members : List (String × ι)) (name : String) (value : ι)

theorem consult_present (field : Field ι δ) (found : members.lookup field.name = some value) (draft : δ) :
    field.consult members draft = field.store value draft := by
  rw [Field.consult, found]

theorem consult_missing (field : Field ι δ) (missing : members.lookup field.name = none) (draft : δ) :
    field.consult members draft = .ok draft := by
  rw [Field.consult, missing]

theorem consult_step {members : List (String × ι)} {field : Field ι δ} {fields : List (Field ι δ)}
    {draft next result : δ} (here : field.consult members draft = .ok next)
    (later : consultAll members fields next = .ok result) :
    consultAll members (field :: fields) draft = .ok result :=
  (bind_ok_iff _ _ _).mpr ⟨next, here, later⟩

theorem consult_nothing (fields : List (Field ι δ)) (draft : δ) :
    consultAll [] fields draft = .ok draft := by
  induction fields with
  | nil => rfl
  | cons field fields ih =>
      rw [consultAll]
      exact ih

theorem consult_other (field : Field ι δ) (different : field.name ≠ name) :
    field.consult ((name, value) :: members) = field.consult members := by
  funext draft
  rw [Field.consult, Field.consult, IdMap.lookup_cons_if, if_neg different]

theorem consult_others (fields : List (Field ι δ)) (different : ∀ field ∈ fields, field.name ≠ name)
    (draft : δ) : consultAll ((name, value) :: members) fields draft = consultAll members fields draft := by
  induction fields generalizing draft with
  | nil => rfl
  | cons field fields ih =>
      have later := ih fun other inFields => different other (List.mem_cons_of_mem _ inFields)
      rw [consultAll, consultAll, consult_other members name value field (different field List.mem_cons_self)]
      simp only [later]

theorem past_consult (first : δ → Except ReadError δ) (field : Field ι δ)
    (past : ∀ stored, Past first (field.store stored)) : Past first (field.consult members) := by
  intro draft result known
  unfold Field.consult at known ⊢
  cases found : members.lookup field.name with
  | some stored =>
      simp only [found] at known ⊢
      exact past stored draft result known
  | none =>
      simp only [found] at known ⊢
      obtain ⟨_, same, known⟩ := (bind_ok_iff _ _ _).mp known
      cases same
      exact (bind_ok_iff _ _ _).mpr ⟨result, known, rfl⟩

theorem past_consult_all (first : δ → Except ReadError δ) (fields : List (Field ι δ))
    (past : ∀ field ∈ fields, ∀ stored, Past first (field.store stored)) :
    Past first (consultAll members fields) := by
  induction fields with
  | nil =>
      intro draft result known
      obtain ⟨_, same, known⟩ := (bind_ok_iff _ _ _).mp known
      cases same
      exact (bind_ok_iff _ _ _).mpr ⟨result, known, rfl⟩
  | cons field fields ih =>
      have later := ih fun other inFields => past other (List.mem_cons_of_mem _ inFields)
      exact past_both (past_consult members first field (past field List.mem_cons_self)) later

theorem store_first (fields : List (Field ι δ)) (field : Field ι δ) (inFields : field ∈ fields)
    (apart : (fields.map (·.name)).Nodup)
    (past : fields.Pairwise fun early late => ∀ value other, Past (late.store value) (early.store other))
    (absent : members.lookup field.name = none) (draft result : δ)
    (consulted : consultAll ((field.name, value) :: members) fields draft = .ok result) :
    (field.store value draft >>= consultAll members fields) = .ok result := by
  induction fields generalizing draft with
  | nil => cases inFields
  | cons first fields ih =>
      obtain ⟨fresh, apart⟩ := List.nodup_cons.mp apart
      obtain ⟨pastFirst, past⟩ := List.pairwise_cons.mp past
      obtain ⟨next, here, later⟩ := (bind_ok_iff _ _ _).mp consulted
      rcases List.mem_cons.mp inFields with same | inRest
      · subst same
        have stored : field.store value draft = .ok next := by
          rw [consult_present _ value field (by rw [IdMap.lookup_cons_if, if_pos rfl])] at here
          exact here
        have nothing := consult_missing members field absent next
        have different : ∀ other ∈ fields, other.name ≠ field.name := fun other inFields same =>
          fresh (List.mem_map.mpr ⟨other, inFields, same⟩)
        rw [consult_others members field.name value fields different] at later
        exact (bind_ok_iff _ _ _).mpr ⟨next, stored, (bind_ok_iff _ _ _).mpr ⟨next, nothing, later⟩⟩
      · have different : first.name ≠ field.name := fun same =>
          fresh (List.mem_map.mpr ⟨field, inRest, same.symm⟩)
        rw [consult_other members field.name value first different] at here
        have passes := past_consult members (field.store value) first
          (fun other => pastFirst field inRest value other)
        exact past_before passes here (ih inRest apart past next later)

end Consulted

section Taking

variable (shape : Shape ι δ α) (name : String) (value : ι)

theorem take_field (orderless : shape.Orderless) (field : Field ι δ) (inFields : field ∈ shape.fields)
    (seen : List String) (unseen : field.name ∉ seen) (draft : δ) :
    shape.take seen field.name value draft = field.store value draft := by
  have found : shape.fields.find? (·.name = field.name) = some field := by
    obtain ⟨other, found⟩ := Option.isSome_iff_exists.mp
      (List.find?_isSome.mpr ⟨field, inFields, decide_eq_true rfl⟩ :
        (shape.fields.find? (·.name = field.name)).isSome)
    have named : other.name = field.name := by simpa using List.find?_some found
    have same := List.inj_on_of_nodup_map orderless.apart (List.mem_of_find?_eq_some found) inFields named
    rw [found, same]
  rw [Shape.take, found]
  exact if_neg unseen

theorem take_stray (stray : name ∉ shape.names) (seen : List String) (draft : δ) :
    shape.take seen name value draft = shape.other name value draft := by
  have missing : shape.fields.find? (·.name = name) = none := by
    rw [List.find?_eq_none]
    intro field inFields same
    exact stray (of_decide_eq_true same ▸ List.mem_map_of_mem inFields)
  rw [Shape.take, missing]

def Shape.consulted (shape : Shape ι δ α) (members : List (String × ι)) (draft : δ) : Except ReadError δ :=
  consultAll members shape.fields draft >>= shape.addStrays (shape.strays members)

theorem consulted_field (orderless : shape.Orderless) (field : Field ι δ) (inFields : field ∈ shape.fields)
    (rest : List (String × ι)) (absent : rest.lookup field.name = none) (draft result : δ)
    (consulted : shape.consulted ((field.name, value) :: rest) draft = .ok result) :
    ∃ next, field.store value draft = .ok next ∧ shape.consulted rest next = .ok result := by
  have known : field.name ∈ shape.names := List.mem_map_of_mem inFields
  have strays : shape.strays ((field.name, value) :: rest) = shape.strays rest :=
    List.filter_cons_of_neg (by simpa using known)
  rw [Shape.consulted, strays] at consulted
  obtain ⟨last, consulted, added⟩ := (bind_ok_iff _ _ _).mp consulted
  have moved := store_first rest value shape.fields field inFields orderless.apart orderless.fields
    absent draft last consulted
  obtain ⟨next, stored, consulted⟩ := (bind_ok_iff _ _ _).mp moved
  exact ⟨next, stored, (bind_ok_iff _ _ _).mpr ⟨last, consulted, added⟩⟩

theorem consulted_stray (orderless : shape.Orderless) (stray : name ∉ shape.names) (rest : List (String × ι))
    (draft result : δ) (consulted : shape.consulted ((name, value) :: rest) draft = .ok result) :
    ∃ next, shape.other name value draft = .ok next ∧ shape.consulted rest next = .ok result := by
  have strays : shape.strays ((name, value) :: rest) = (name, value) :: shape.strays rest :=
    List.filter_cons_of_pos (by simpa using stray)
  have different : ∀ field ∈ shape.fields, field.name ≠ name := fun field inFields same =>
    stray (same ▸ List.mem_map_of_mem inFields)
  rw [Shape.consulted, strays, consult_others rest name value shape.fields different] at consulted
  obtain ⟨last, consulted, added⟩ := (bind_ok_iff _ _ _).mp consulted
  obtain ⟨more, other, added⟩ := (bind_ok_iff _ _ _).mp added
  have moved := past_consult_all rest (shape.other name value) shape.fields
    (fun field inFields stored => orderless.other field inFields name value stored) draft more
    ((bind_ok_iff _ _ _).mpr ⟨last, consulted, other⟩)
  obtain ⟨next, other, consulted⟩ := (bind_ok_iff _ _ _).mp moved
  exact ⟨next, other, (bind_ok_iff _ _ _).mpr ⟨more, consulted, added⟩⟩

theorem take_all_consulted (orderless : shape.Orderless) (members : List (String × ι)) (seen : List String)
    (unrepeated : Unrepeated shape.names members)
    (unseen : ∀ member ∈ members, member.1 ∈ shape.names → member.1 ∉ seen) (draft result : δ)
    (consulted : shape.consulted members draft = .ok result) :
    shape.takeAll members seen draft = .ok result := by
  induction members generalizing seen draft with
  | nil =>
      rw [Shape.consulted, consult_nothing] at consulted
      exact consulted
  | cons member rest ih =>
      obtain ⟨name, value⟩ := member
      obtain ⟨apart, later⟩ := List.pairwise_cons.mp unrepeated
      have laterUnseen : ∀ member ∈ rest, member.1 ∈ shape.names → member.1 ∉ name :: seen := by
        intro member inRest known again
        rcases List.mem_cons.mp again with same | inSeen
        · exact apart member inRest same.symm (same ▸ known)
        · exact unseen member (List.mem_cons_of_mem _ inRest) known inSeen
      by_cases known : name ∈ shape.names
      · have absent := unseen_of_unrepeated rest shape.names name value known unrepeated
        have fresh := unseen _ List.mem_cons_self known
        obtain ⟨field, inFields, named⟩ := List.mem_map.mp known
        subst named
        obtain ⟨next, stored, consulted⟩ :=
          consulted_field shape value orderless field inFields rest absent draft result consulted
        rw [Shape.takeAll, take_field shape value orderless field inFields seen fresh draft, stored]
        exact ih (field.name :: seen) later laterUnseen next consulted
      · obtain ⟨next, other, consulted⟩ :=
          consulted_stray shape name value orderless known rest draft result consulted
        rw [Shape.takeAll, take_stray shape name value known seen draft, other]
        exact ih (name :: seen) later laterUnseen next consulted

end Taking

end Slideshow.Json
