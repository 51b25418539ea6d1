import Slideshow.Proofs.Document.Arranged

set_option autoImplicit false

namespace Slideshow

open Json (Elements Entry Field Listed MemberRead Members Outline Place Placed ReadError Shape Unrepeated
  consultAll consult_step entryNames outlineElements outlineMembers places)

def LayoutFree {α β : Type} (toJson : α → Json) (arranged : α → Outline → Prop)
    (read : Place → Except ReadError β) : Prop :=
  ∀ (written : α) (outline : Outline) (levels : Nat) (result : β), arranged written outline →
    outline.depth ≤ levels → read ⟨(toJson written).outline, levels⟩ = .ok result →
      read ⟨outline, levels⟩ = .ok result

section Lists

variable {α β : Type} {toJson : α → Json} {arranged : α → Outline → Prop}
variable {read : Place → Except ReadError β}

theorem each_layout_free (free : LayoutFree toJson arranged read) (list : List α) (elements : List Outline)
    (levels : Nat) (each : List.Forall₂ arranged list elements)
    (shallow : ∀ element ∈ elements, element.depth ≤ levels) (results : List β)
    (known : (outlineElements (list.map toJson)).each (fun outline => read ⟨outline, levels⟩) = .ok results) :
    (Elements.ofList elements).each (fun outline => read ⟨outline, levels⟩) = .ok results := by
  induction each generalizing results with
  | nil => exact known
  | cons first _ ih =>
      obtain ⟨here, later⟩ := List.forall_mem_cons.mp shallow
      obtain ⟨head, headKnown, known⟩ := (Json.bind_ok_iff _ _ _).mp known
      obtain ⟨tail, tailKnown, same⟩ := (Json.bind_ok_iff _ _ _).mp known
      cases same
      rw [Elements.ofList, Elements.each, free _ _ levels head first here headKnown, ih later tail tailKnown]
      rfl

theorem list_layout_free (free : LayoutFree toJson arranged read) :
    LayoutFree (fun list => .list (list.map toJson)) (Listed arranged) (readList read) := by
  intro list outline levels results listed nested known
  obtain ⟨elements, same, each⟩ := listed
  subst same
  obtain ⟨inner, deep, inside⟩ := (Json.opened_ok_iff _ _ _).mp known
  subst deep
  have shallow := Json.element_depth inner elements (Nat.le_of_succ_le_succ nested)
  exact each_layout_free free list elements inner each shallow results inside

end Lists

theorem to_json_sorted (value : Value) : value.toJson.Canonical := by
  cases value with
  | structured node => exact node.canonical
  | float x =>
      by_cases finite : x.isFinite = true
      · rw [Value.toJson, Json.of_float_finite x finite]
        trivial
      · rw [Value.toJson, Json.of_float_not_finite x finite]
        trivial
  | _ => trivial

theorem value_layout_free : LayoutFree Value.toJson Value.Arranged readValue := by
  intro written outline levels result arranged _ known
  obtain ⟨json, jsonKnown, same⟩ := (Json.bind_ok_iff _ _ _).mp known
  cases same
  obtain ⟨found, read, same⟩ :=
    Json.reordered_json written.toJson outline levels json (to_json_sorted written) arranged jsonKnown
  have nodes : Node.ofJson found = Node.ofJson json := by
    simp only [Node.ofJson, same]
  have values : Value.ofJson found = Value.ofJson json := congrArg Value.ofNode nodes
  rw [readValue, read, ← values]
  rfl

section Consulting

variable {δ : Type} {members : List (String × Outline)} {levels : Nat} {field : Field Place δ}
variable {draft next : δ}

theorem consult_entry (entry : Entry) (found : entry.Found members) (named : entry.name = field.name)
    (present : ∀ value, (entry.name, value) ∈ members → entry.stands value →
      field.store ⟨value, levels⟩ draft = .ok next)
    (absent : entry.optional → draft = next) : field.consult (places members levels) draft = .ok next := by
  have looked := Json.lookup_places members levels field.name
  rcases found with ⟨value, found, stands⟩ | ⟨missing, optional⟩
  · rw [← named, found] at looked
    rw [Json.consult_present _ _ field (named ▸ looked)]
    exact present value (IdMap.mem_of_lookup members entry.name value found) stands
  · rw [← named, missing] at looked
    rw [Json.consult_missing _ field (named ▸ looked), absent optional]

def parsed {β : Type} (name : String) (read : Place → Except ReadError β) (set : β → δ → δ) : Field Place δ :=
  ⟨name, fun place draft => return set (← read place) draft⟩

section Parsed

variable {β : Type} {name : String} {read : Place → Except ReadError β} {set : β → δ → δ} {result : β}

theorem store_parsed {value : Outline} (known : read ⟨value, levels⟩ = .ok result) :
    (parsed name read set).store ⟨value, levels⟩ draft = .ok (set result draft) :=
  (Json.bind_ok_iff _ _ _).mpr ⟨result, known, rfl⟩

theorem consult_just {json : Json} (found : (Entry.just name json).Found members)
    (known : read ⟨json.outline, levels⟩ = .ok result) :
    (parsed name read set).consult (places members levels) draft = .ok (set result draft) :=
  consult_entry _ found rfl (fun _ _ stands => store_parsed (stands ▸ known)) False.elim

theorem consult_record {α : Type} {toJson : α → Json} {arranged : α → Outline → Prop} {written : α}
    (free : LayoutFree toJson arranged read)
    (shallow : ∀ member ∈ members, member.2.depth ≤ levels)
    (known : read ⟨(toJson written).outline, levels⟩ = .ok result)
    (found : (Entry.of name arranged written).Found members) :
    (parsed name read set).consult (places members levels) draft = .ok (set result draft) :=
  consult_entry _ found rfl
    (fun value inMembers stands =>
      store_parsed (free written value levels result stands (shallow _ inMembers) known))
    False.elim

end Parsed

theorem consult_text {text name : String} {set : String → δ → δ}
    (found : (Entry.just name (.text text)).Found members) :
    (Json.textField name set).consult (places members levels) draft = .ok (set text draft) :=
  consult_entry _ found rfl (fun _ _ stands => stands ▸ rfl) False.elim

theorem consult_visible {visible : Bool} {name : String} {set : Bool → δ → δ}
    (found : (Entry.default name (.bool visible) (visible = true)).Found members)
    (same : draft = set true draft) :
    (Json.boolField name set).consult (places members levels) draft = .ok (set visible draft) :=
  consult_entry _ found rfl (fun _ _ stands => stands ▸ rfl) fun shown => shown ▸ same

theorem consult_list_or_none {α β : Type} {toJson : α → Json} {arranged : α → Outline → Prop}
    {values : List α} {read : Place → Except ReadError β} {name : String} {set : List β → δ → δ}
    {results : List β} (free : LayoutFree toJson arranged read)
    (shallow : ∀ member ∈ members, member.2.depth ≤ levels)
    (known : readList read ⟨(Json.list (values.map toJson)).outline, levels⟩ = .ok results)
    (found : (Entry.listOrNone name arranged values).Found members) (same : draft = set [] draft) :
    (parsed name (readList read) set).consult (places members levels) draft = .ok (set results draft) := by
  refine consult_entry _ found rfl ?_ fun none => ?_
  · intro value inMembers listed
    exact store_parsed (list_layout_free free values value levels results listed (shallow _ inMembers) known)
  · have empty : values = [] := none
    subst empty
    obtain ⟨inner, _, inside⟩ := (Json.opened_ok_iff _ _ _).mp known
    cases inside
    exact same

theorem consult_value {value : Option Value} {result : Option Value} {name : String} {set : Value → δ → δ}
    (found : (Entry.ofOption name Value.Arranged value).Found members)
    (shallow : ∀ member ∈ members, member.2.depth ≤ levels) (known : readOptional value levels = .ok result) :
    (Value.field name set).consult (places members levels) draft = .ok (result.elim draft (set · draft)) := by
  refine consult_entry _ found rfl ?_ ?_
  · rintro outline inMembers ⟨present, same, arranged⟩
    subst same
    obtain ⟨read, readKnown, same⟩ := (Json.map_ok_iff _ _ _).mp known
    subst same
    have found := value_layout_free present outline levels read arranged (shallow _ inMembers) readKnown
    obtain ⟨json, jsonKnown, same⟩ := (Json.bind_ok_iff _ _ _).mp found
    cases same
    exact (Json.bind_ok_iff _ _ _).mpr ⟨json, jsonKnown, rfl⟩
  · intro none
    have absent : value = .none := none
    subst absent
    cases known
    rfl

theorem consult_target {target : Option String} {set : Option String → δ → δ} {name : String}
    (found : (Entry.ofOption name (fun target outline => outline = (Json.text target).outline) target).Found
      members) (same : draft = set none draft) :
    (parsed name (fun place => place.outline.asOptionalText) set).consult (places members levels) draft =
      .ok (set target draft) := by
  refine consult_entry _ found rfl ?_ ?_
  · rintro outline _ ⟨present, here, arranged⟩
    subst here arranged
    rfl
  · intro none
    have absent : target = .none := none
    rw [absent, ← same]

end Consulting

section Shapes

variable {α β δ : Type}

theorem layout_free_of_consulted (shape : Shape Place δ β) (orderless : shape.Orderless)
    (skips : shape.other = Json.skipOther) (toJson : α → Json) (entries : α → List Entry)
    (names : ∀ written, entryNames (entries written) = shape.names)
    (consulted : ∀ written members inner result, Placed (entries written) members →
      (∀ member ∈ members, member.2.depth ≤ inner) →
      shape.read ⟨(toJson written).outline, inner + 1⟩ = .ok result →
      ∃ draft, consultAll (places members inner) shape.fields shape.start = .ok draft ∧
        shape.complete .missing draft = .ok result) :
    LayoutFree toJson (fun written => Json.Arranged (entries written)) shape.read := by
  intro written outline levels result arranged nested known
  have apart : (entryNames (entries written)).Nodup := names written ▸ orderless.apart
  obtain ⟨members, same, placed⟩ := Json.arranged_placed (entries written) outline apart arranged
  subst same
  cases levels with
  | zero => exact absurd nested (Nat.not_succ_le_zero _)
  | succ inner =>
      have shallow := Json.member_depth members inner (Nat.le_of_succ_le_succ nested)
      obtain ⟨draft, found, completed⟩ := consulted written members inner result placed shallow known
      have filled := Json.fill_placed members inner shape orderless skips (entries written) (names written)
        placed shape.start draft found
      exact (Json.bind_ok_iff _ _ _).mpr ⟨draft, filled, completed⟩

end Shapes

theorem point_orderless : Point.shape.Orderless where
  apart := by decide
  fields := by
    simp only [Point.shape, List.pairwise_cons, List.forall_mem_cons, List.not_mem_nil, false_implies,
      implies_true, List.Pairwise.nil, and_true]
    exact fun _ _ => Json.past_of_sets _ _ _ _ fun _ _ _ => rfl
  other := fun _ _ name value _ => Json.past_skip name value _

theorem point_layout_free : LayoutFree Point.toJson Point.Arranged Point.shape.read := by
  refine layout_free_of_consulted Point.shape point_orderless rfl _ Point.entries (fun _ => rfl) ?_
  intro written members inner result placed shallow known
  rw [point_read] at known
  obtain ⟨x, xKnown, known⟩ := (Json.bind_ok_iff _ _ _).mp known
  obtain ⟨y, yKnown, same⟩ := (Json.bind_ok_iff _ _ _).mp known
  cases same
  obtain ⟨across, down, _⟩ := by
    simpa only [Point.entries, List.forall_mem_cons] using placed.found
  refine ⟨⟨some x, some y⟩, ?_, rfl⟩
  apply consult_step (consult_just across xKnown)
  apply consult_step (consult_just down yKnown)
  rfl

theorem size_orderless : Size.shape.Orderless where
  apart := by decide
  fields := by
    simp only [Size.shape, List.pairwise_cons, List.forall_mem_cons, List.not_mem_nil, false_implies,
      implies_true, List.Pairwise.nil, and_true]
    exact fun _ _ => Json.past_of_sets _ _ _ _ fun _ _ _ => rfl
  other := fun _ _ name value _ => Json.past_skip name value _

theorem size_layout_free : LayoutFree Size.toJson Size.Arranged Size.shape.read := by
  refine layout_free_of_consulted Size.shape size_orderless rfl _ Size.entries (fun _ => rfl) ?_
  intro written members inner result placed shallow known
  rw [size_read] at known
  obtain ⟨width, widthKnown, known⟩ := (Json.bind_ok_iff _ _ _).mp known
  obtain ⟨height, heightKnown, same⟩ := (Json.bind_ok_iff _ _ _).mp known
  cases same
  obtain ⟨across, down, _⟩ := by
    simpa only [Size.entries, List.forall_mem_cons] using placed.found
  refine ⟨⟨some width, some height⟩, ?_, rfl⟩
  apply consult_step (consult_just across widthKnown)
  apply consult_step (consult_just down heightKnown)
  rfl

theorem variable_orderless : Variable.shape.Orderless where
  apart := by decide
  fields := by
    simp only [Variable.shape, List.pairwise_cons, List.forall_mem_cons, List.not_mem_nil, false_implies,
      implies_true, List.Pairwise.nil, and_true]
    and_intros
    all_goals exact fun _ _ => Json.past_of_sets _ _ _ _ fun _ _ _ => rfl
  other := fun _ _ name value _ => Json.past_skip name value _

theorem variable_layout_free : LayoutFree Variable.toJson Variable.Arranged Variable.shape.read := by
  refine layout_free_of_consulted Variable.shape variable_orderless rfl _ Variable.entries (fun _ => rfl) ?_
  intro written members inner result placed shallow known
  rw [variable_read] at known
  obtain ⟨value, valueKnown, same⟩ := (Json.bind_ok_iff _ _ _).mp known
  cases same
  obtain ⟨id, name, type, inside, _⟩ := by
    simpa only [Variable.entries, List.forall_mem_cons] using placed.found
  have named := variable_type_read written.type inner
  refine ⟨⟨some written.id, some written.name, some written.type, value⟩, ?_, rfl⟩
  apply consult_step (consult_text id)
  apply consult_step (consult_text name)
  apply consult_step (consult_just type named)
  apply consult_step (consult_value inside shallow valueKnown)
  cases value <;> rfl

end Slideshow
