import Slideshow.Proofs.Document.LayoutFree

set_option autoImplicit false

namespace Slideshow

open Json (Entry Field Members MemberRead Outline Place Placed ReadError Shape Unrepeated consult_step
  consultAll entryNames)

def untyped {β : Type} (members : List (String × β)) : List (String × β) :=
  members.filter fun member => member.1 ≠ "type"

section Types

theorem untyped_without {β : Type} (members : List (String × β)) (untagged : "type" ∉ members.map (·.1)) :
    untyped members = members := by
  apply List.filter_eq_self.mpr
  intro member inMembers
  have different : member.1 ≠ "type" := fun same => untagged (List.mem_map.mpr ⟨member, inMembers, same⟩)
  exact decide_eq_true different

theorem untyped_cons_type {β : Type} (value : β) (rest : List (String × β))
    (untagged : "type" ∉ rest.map (·.1)) : untyped (("type", value) :: rest) = rest :=
  (List.filter_cons_of_neg (by simp)).trans (untyped_without rest untagged)

theorem untyped_cons_other {β : Type} (name : String) (value : β) (rest : List (String × β))
    (different : name ≠ "type") : untyped ((name, value) :: rest) = (name, value) :: untyped rest :=
  List.filter_cons_of_pos (by simpa using different)

theorem untagged_rest {β : Type} (value : β) (rest : List (String × β))
    (unrepeated : Unrepeated ["type"] (("type", value) :: rest)) : "type" ∉ rest.map (·.1) := by
  intro again
  obtain ⟨member, inRest, same⟩ := List.mem_map.mp again
  exact (List.pairwise_cons.mp unrepeated).1 member inRest same.symm (List.mem_singleton.mpr rfl)

variable (members : List (String × Outline)) (levels : Nat)

theorem members_after_type (tag : Action.Tag) (untagged : "type" ∉ members.map (·.1))
    (jsons : List (String × Json)) (read : List.Forall₂ (MemberRead levels) members jsons) :
    Action.members levels (.ofList members) (some tag) = .ok (tag, jsons) := by
  induction read with
  | nil => rfl
  | @cons member json members jsons first _ ih =>
      obtain ⟨named, known⟩ := first
      obtain ⟨different, later⟩ := not_or.mp (mt List.mem_cons.mpr untagged)
      rw [Members.ofList, Action.members]
      simp only [bind, Except.bind]
      rw [if_neg (Ne.symm different), known, ih later, ← named]
      rfl

theorem members_with_type (tag : Action.Tag) (name : String)
    (variant : Json.variant Action.Tag.known name = .ok tag)
    (unrepeated : Unrepeated ["type"] members)
    (tagged : members.lookup "type" = some (Json.text name).outline)
    (jsons : List (String × Json)) (read : List.Forall₂ (MemberRead levels) (untyped members) jsons) :
    Action.members levels (.ofList members) none = .ok (tag, jsons) := by
  induction members generalizing jsons with
  | nil => cases tagged
  | cons member rest ih =>
      obtain ⟨first, value⟩ := member
      have later := (List.pairwise_cons.mp unrepeated).2
      rw [IdMap.lookup_cons_if] at tagged
      rw [Members.ofList, Action.members]
      simp only [bind, Except.bind]
      by_cases here : first = "type"
      · subst here
        rw [if_pos rfl] at tagged
        cases tagged
        have untagged := untagged_rest _ rest unrepeated
        rw [untyped_cons_type _ rest untagged] at read
        have readTag : Action.readTag (Json.text name).outline = .ok tag := variant
        rw [if_pos rfl, if_neg (by simp), readTag]
        exact members_after_type rest levels tag untagged jsons read
      · rw [if_neg (Ne.symm here)] at tagged
        rw [untyped_cons_other first value rest here] at read
        cases read with
        | @cons _ json _ _ head tail =>
            obtain ⟨_, value⟩ := json
            obtain ⟨named, known⟩ := head
            cases named
            rw [if_neg here, known]
            simp only [ih later tagged _ tail]
            rfl

theorem kind_members_after_type (tag : ObjectKind.Tag) (jsons : List (String × Json))
    (untagged : "type" ∉ jsons.map (·.1)) : ObjectKind.tagged jsons (some tag) = .ok (tag, jsons) := by
  induction jsons with
  | nil => rfl
  | cons member rest ih =>
      obtain ⟨different, later⟩ := not_or.mp (mt List.mem_cons.mpr untagged)
      rw [ObjectKind.tagged, if_neg (Ne.symm different), ih later]
      rfl

theorem kind_members_with_type (tag : ObjectKind.Tag) (name : String)
    (variant : Json.variant ObjectKind.Tag.known name = .ok tag) (jsons : List (String × Json))
    (unrepeated : Unrepeated ["type"] jsons) (tagged : jsons.lookup "type" = some (.text name)) :
    ObjectKind.tagged jsons none = .ok (tag, untyped jsons) := by
  induction jsons with
  | nil => cases tagged
  | cons member rest ih =>
      obtain ⟨first, value⟩ := member
      have later := (List.pairwise_cons.mp unrepeated).2
      rw [IdMap.lookup_cons_if] at tagged
      rw [ObjectKind.tagged]
      by_cases here : first = "type"
      · subst here
        rw [if_pos rfl] at tagged
        cases tagged
        have untagged := untagged_rest _ rest unrepeated
        have readTag : ObjectKind.readTag (.text name) = .ok tag := variant
        rw [if_pos rfl, if_neg (by simp), readTag, untyped_cons_type _ rest untagged]
        exact kind_members_after_type tag rest untagged
      · rw [if_neg (Ne.symm here)] at tagged
        rw [if_neg here, ih later tagged, untyped_cons_other first value rest here]
        rfl

end Types

section Members

variable {δ : Type} {members : List (String × Outline)} {levels : Nat} {jsons : List (String × Json)}
variable {field : Field Json δ} {draft next : δ}

theorem consult_member (read : List.Forall₂ (MemberRead levels) members jsons) (entry : Entry)
    (found : entry.Found members) (named : entry.name = field.name)
    (present : ∀ value json, (entry.name, value) ∈ members → entry.stands value →
      value.json levels = .ok json → field.store json draft = .ok next)
    (absent : entry.optional → draft = next) : field.consult jsons draft = .ok next := by
  rcases found with ⟨value, found, stands⟩ | ⟨missing, optional⟩
  · obtain ⟨json, known, looked⟩ := Json.lookup_of_read members levels jsons read entry.name value found
    rw [Json.consult_present _ json field (named ▸ looked)]
    exact present value json (IdMap.mem_of_lookup members entry.name value found) stands known
  · have looked := Json.lookup_none_of_read members levels jsons read entry.name missing
    rw [Json.consult_missing _ field (named ▸ looked), absent optional]

theorem consult_text_member {text name : String} {set : String → δ → δ}
    (read : List.Forall₂ (MemberRead levels) members jsons)
    (found : (Entry.just name (.text text)).Found members) :
    (Json.textMember name set).consult jsons draft = .ok (set text draft) := by
  refine consult_member read _ found rfl ?_ False.elim
  intro value json _ stands known
  cases stands
  cases known
  rfl

theorem sole_text_fields {α : Type} (shape : Shape Json (Option String) α) (name text : String)
    (fields : shape.fields = [Json.textMember name fun text _ => some text])
    (ignores : shape.other = Json.ignoreOther) (placed : Placed [.just name (.text text)] members)
    (read : List.Forall₂ (MemberRead levels) members jsons) (result : α)
    (completed : shape.complete .missing (some text) = .ok result) :
    shape.ofFields (.named jsons) = .ok result := by
  have names : shape.names = [name] := by
    rw [Shape.names, fields]
    rfl
  have orderless : shape.Orderless := by
    constructor
    · rw [names]
      exact List.nodup_singleton name
    · rw [fields]
      exact List.pairwise_singleton _ _
    · intro field _ name value _
      rw [ignores]
      exact Json.past_ignore name value _
  apply Json.fields_placed members levels shape orderless ignores [.just name (.text text)] names.symm placed
    jsons read (some text) result ?_ completed
  rw [fields]
  exact consult_step (consult_text_member read (placed.found _ List.mem_cons_self)) rfl

end Members

section Actions

variable {members : List (String × Outline)} {levels : Nat}

theorem text_readable (text : String) (value : Outline) (same : value = (Json.text text).outline) :
    ∃ json, value.json levels = .ok json := by
  cases same
  exact ⟨.text text, rfl⟩

theorem placed_untyped (name : String) (others : List Entry) (fresh : "type" ∉ entryNames others)
    (placed : Placed (.just "type" (.text name) :: others) members) : Placed others (untyped members) := by
  apply Json.placed_filter _ members others (fun name => name ≠ "type") placed (List.subset_cons_self _ _)
  · intro entry inOthers
    have different : entry.name ≠ "type" := fun same => fresh (List.mem_map.mpr ⟨entry, inOthers, same⟩)
    exact decide_eq_true different
  · intro entry inEntries kept
    rcases List.mem_cons.mp inEntries with same | inOthers
    · subst same
      cases kept
    · exact inOthers

theorem action_of_placed (tag : Action.Tag) (name : String)
    (variant : Json.variant Action.Tag.known name = .ok tag) (others : List Entry)
    (fresh : "type" ∉ entryNames others) (placed : Placed (.just "type" (.text name) :: others) members)
    (shallow : ∀ member ∈ members, member.2.depth ≤ levels)
    (readable : ∀ entry ∈ others, ∀ value, entry.stands value → value.depth ≤ levels →
      ∃ json, value.json levels = .ok json)
    (result : Action)
    (fields : ∀ jsons, List.Forall₂ (MemberRead levels) (untyped members) jsons →
      Action.ofFields tag (.named jsons) = .ok result) :
    Action.read ⟨.object (.ofList members), levels + 1⟩ = .ok result := by
  have each := Json.placed_readable others (untyped members) (placed_untyped name others fresh placed) levels
    (fun member inside => shallow member (List.mem_of_mem_filter inside)) readable
  obtain ⟨jsons, read⟩ := Json.read_each (untyped members) levels each
  have tagged : members.lookup "type" = some (Json.text name).outline := by
    rcases placed.found _ List.mem_cons_self with ⟨value, found, stands⟩ | ⟨_, impossible⟩
    · cases stands
      exact found
    · cases impossible
  have unrepeated : Unrepeated ["type"] members :=
    Json.unrepeated_of_subset members _ _ (List.cons_subset_cons _ (List.nil_subset _)) placed.unrepeated
  have split := members_with_type members levels tag name variant unrepeated tagged jsons read
  exact (Json.bind_ok_iff _ _ _).mpr ⟨(tag, jsons), split, fields jsons read⟩

theorem set_orderless : Action.setShape.Orderless where
  apart := by decide
  fields := by
    simp only [Action.setShape, List.pairwise_cons, List.forall_mem_cons, List.not_mem_nil, false_implies,
      implies_true, List.Pairwise.nil, and_true]
    and_intros
    · exact fun _ _ => Json.past_of_sets _ _ _ _ fun _ _ _ => rfl
    all_goals
      intro json _
      exact Json.past_of_sets (.ok json) _
        (fun json (draft : Action.SetDraft) => { draft with operand := some (.ofJson json) }) _
        fun _ _ _ => rfl
  other := fun _ _ name value _ => Json.past_ignore name value _

theorem consult_operation {operation : SetOperation} {jsons : List (String × Json)} {draft : Action.SetDraft}
    (read : List.Forall₂ (MemberRead levels) members jsons)
    (found : (Entry.default "operation" (.text operation.name) (operation = .assign)).Found members)
    (begun : draft.operation = .assign) :
    (⟨"operation", fun json d => return { d with operation := ← json.asVariant SetOperation.known }⟩ :
      Field Json Action.SetDraft).consult jsons draft = .ok { draft with operation } := by
  refine consult_member read _ found rfl ?_ ?_
  · intro value json _ stands known
    cases stands
    cases known
    exact (Json.bind_ok_iff _ _ _).mpr ⟨operation, operation_read operation, rfl⟩
  · intro assigns
    have same : operation = .assign := assigns
    rw [same, ← begun]

theorem consult_operand {operand result : Option Value} {jsons : List (String × Json)}
    {draft : Action.SetDraft} (shallow : ∀ member ∈ members, member.2.depth ≤ levels)
    (read : List.Forall₂ (MemberRead levels) members jsons)
    (found : (Entry.ofOption "value" Value.Arranged operand).Found members)
    (known : readOptional operand levels = .ok result) (begun : draft.operand = none) :
    (⟨"value", fun json d => return { d with operand := some (.ofJson json) }⟩ :
      Field Json Action.SetDraft).consult jsons draft = .ok { draft with operand := result } := by
  refine consult_member read _ found rfl ?_ ?_
  · rintro outline json inMembers ⟨present, same, arranged⟩ jsonKnown
    subst same
    obtain ⟨value, valueKnown, same⟩ := (Json.map_ok_iff _ _ _).mp known
    subst same
    have again := value_layout_free present outline levels value arranged (shallow _ inMembers) valueKnown
    rw [readValue, jsonKnown] at again
    cases again
    rfl
  · intro none
    have absent : operand = .none := none
    subst absent
    cases known
    rw [← begun]

theorem set_fields (target : String) (operation : SetOperation) (operand result : Option Value)
    (shallow : ∀ member ∈ members, member.2.depth ≤ levels)
    (placed : Placed [.just "variableId" (.text target),
      .default "operation" (.text operation.name) (operation = .assign),
      .ofOption "value" Value.Arranged operand] members)
    (known : readOptional operand levels = .ok result) (jsons : List (String × Json))
    (read : List.Forall₂ (MemberRead levels) members jsons) :
    Action.setShape.ofFields (.named jsons) = .ok (.setVariable target operation result) := by
  obtain ⟨id, named, inside, _⟩ := by
    simpa only [List.forall_mem_cons] using placed.found
  apply Json.fields_placed members levels Action.setShape set_orderless rfl _ rfl placed jsons read
    ⟨some target, operation, result⟩ _ ?_ rfl
  apply consult_step (consult_text_member read id)
  apply consult_step (consult_operation read named rfl)
  apply consult_step (consult_operand shallow read inside known rfl)
  rfl

theorem target_of_placed (tag : Action.Tag) (name shape field target : String) (make : String → Action)
    (variant : Json.variant Action.Tag.known name = .ok tag) (different : field ≠ "type")
    (same : Action.ofFields tag = (Action.targetShape shape field make).ofFields)
    (placed : Placed [.just "type" (.text name), .just field (.text target)] members)
    (shallow : ∀ member ∈ members, member.2.depth ≤ levels) :
    Action.read ⟨.object (.ofList members), levels + 1⟩ = .ok (make target) := by
  have fresh : "type" ∉ entryNames [.just field (.text target)] := fun typed =>
    different (List.mem_singleton.mp typed).symm
  apply action_of_placed tag name variant _ fresh placed shallow
  · intro entry inEntries value stands _
    obtain rfl := List.mem_singleton.mp inEntries
    exact text_readable target value stands
  · intro jsons read
    rw [same]
    exact sole_text_fields (Action.targetShape shape field make) field target rfl rfl
      (placed_untyped name _ fresh placed) read _ rfl

theorem set_of_placed (target : String) (operation : SetOperation) (operand result : Option Value)
    (placed : Placed (Action.setVariable target operation operand).entries members)
    (shallow : ∀ member ∈ members, member.2.depth ≤ levels)
    (known : readOptional operand levels = .ok result) :
    Action.read ⟨.object (.ofList members), levels + 1⟩ = .ok (.setVariable target operation result) := by
  have fresh : "type" ∉ entryNames [.just "variableId" (.text target),
      .default "operation" (.text operation.name) (operation = .assign),
      .ofOption "value" Value.Arranged operand] := by
    show "type" ∉ ["variableId", "operation", "value"]
    decide
  apply action_of_placed .setVariable "setVariable" rfl _ fresh placed shallow
  · simp only [List.forall_mem_cons, List.not_mem_nil, false_implies, implies_true, and_true]
    refine ⟨fun value stands _ => text_readable target value stands,
      fun value stands _ => text_readable operation.name value stands, ?_⟩
    rintro value ⟨present, same, arranged⟩ nested
    subst same
    obtain ⟨found, foundKnown, _⟩ := (Json.map_ok_iff _ _ _).mp known
    have again := value_layout_free present value levels found arranged nested foundKnown
    obtain ⟨json, jsonKnown, _⟩ := (Json.bind_ok_iff _ _ _).mp again
    exact ⟨json, jsonKnown⟩
  · intro jsons read
    have shallowToo : ∀ member ∈ untyped members, member.2.depth ≤ levels := fun member inside =>
      shallow member (List.mem_of_mem_filter inside)
    exact set_fields target operation operand result shallowToo (placed_untyped _ _ fresh placed) known jsons
      read

theorem action_layout_free : LayoutFree Action.toJson Action.Arranged Action.read := by
  intro written outline levels result arranged nested known
  have apart : (entryNames written.entries).Nodup := by
    cases written <;> simp [Action.entries, entryNames, Entry.just, Entry.default, Entry.ofOption]
  obtain ⟨members, same, placed⟩ := Json.arranged_placed written.entries outline apart arranged
  subst same
  rw [action_read] at known
  cases levels with
  | zero => exact absurd nested (Nat.not_succ_le_zero _)
  | succ inner =>
      have shallow := Json.member_depth members inner (Nat.le_of_succ_le_succ nested)
      cases written with
      | navigateToSlide target =>
          cases known
          exact target_of_placed .navigateToSlide _ _ _ target _ rfl (by decide) rfl placed shallow
      | showLayer target =>
          cases known
          exact target_of_placed .showLayer _ _ _ target _ rfl (by decide) rfl placed shallow
      | hideLayer target =>
          cases known
          exact target_of_placed .hideLayer _ _ _ target _ rfl (by decide) rfl placed shallow
      | setVariable target operation operand =>
          obtain ⟨value, valueKnown, same⟩ := (Json.bind_ok_iff _ _ _).mp known
          cases same
          exact set_of_placed target operation operand value placed shallow valueKnown

end Actions

section Kinds

variable {members : List (String × Outline)} {levels : Nat}

theorem text_orderless : ObjectKind.textShape.Orderless where
  apart := by decide
  fields := by
    simp only [ObjectKind.textShape, List.pairwise_cons, List.forall_mem_cons, List.not_mem_nil, false_implies,
      implies_true, List.Pairwise.nil, and_true]
    and_intros
    all_goals exact fun _ _ => Json.past_of_sets _ _ _ _ fun _ _ _ => rfl
  other := fun _ _ name value _ => Json.past_ignore name value _

theorem consult_float_member {δ : Type} {x y : Float} {name : String} {set : Float → δ → δ} {draft : δ}
    {jsons : List (String × Json)} (read : List.Forall₂ (MemberRead levels) members jsons)
    (found : (Entry.just name (.ofFloat x)).Found members)
    (known : (Json.ofFloat x).outline.asFloat = .ok y) :
    (Json.floatMember name set).consult jsons draft = .ok (set y draft) := by
  refine consult_member read _ found rfl ?_ False.elim
  intro value json _ stands jsonKnown
  cases stands
  rw [← float_read_whole x levels, jsonKnown] at known
  exact (Json.bind_ok_iff _ _ _).mpr ⟨y, known, rfl⟩

theorem kind_of_placed (tag : ObjectKind.Tag) (name : String)
    (variant : Json.variant ObjectKind.Tag.known name = .ok tag) (others : List Entry)
    (fresh : "type" ∉ entryNames others) (placed : Placed (.just "type" (.text name) :: others) members)
    (shallow : ∀ member ∈ members, member.2.depth ≤ levels)
    (readable : ∀ entry ∈ others, ∀ value, entry.stands value → ∃ json, value.json levels = .ok json) :
    ∃ jsons, List.Forall₂ (MemberRead levels) members jsons ∧
      ObjectKind.tagged jsons none = .ok (tag, untyped jsons) ∧ Placed others (untyped members) ∧
        List.Forall₂ (MemberRead levels) (untyped members) (untyped jsons) := by
  have each := Json.placed_readable _ members placed levels shallow
    (List.forall_mem_cons.mpr ⟨fun value stands _ => text_readable name value stands,
      fun entry inOthers value stands _ => readable entry inOthers value stands⟩)
  obtain ⟨jsons, read⟩ := Json.read_each members levels each
  have tagged : jsons.lookup "type" = some (.text name) := by
    rcases placed.found _ List.mem_cons_self with ⟨value, found, stands⟩ | ⟨_, impossible⟩
    · obtain ⟨json, known, looked⟩ := Json.lookup_of_read members levels jsons read "type" value found
      cases stands
      cases known
      exact looked
    · cases impossible
  have unrepeated : Unrepeated ["type"] jsons := by
    apply Json.unrepeated_of_names members _ jsons (Json.names_of_read members levels jsons read)
    exact Json.unrepeated_of_subset members _ _ (List.cons_subset_cons _ (List.nil_subset _)) placed.unrepeated
  exact ⟨jsons, read, kind_members_with_type tag name variant jsons unrepeated tagged,
    placed_untyped name others fresh placed, Json.read_filter members levels (fun name => name ≠ "type") jsons read⟩

theorem sole_kind_of_placed (tag : ObjectKind.Tag) (name field text : String)
    (shape : Shape Json (Option String) ObjectKind) (result : ObjectKind)
    (variant : Json.variant ObjectKind.Tag.known name = .ok tag) (different : field ≠ "type")
    (same : ∀ members, ObjectKind.tagged members none = .ok (tag, untyped members) →
      ObjectKind.ofMembers members = shape.ofFields (.named (untyped members)))
    (fields : shape.fields = [Json.textMember field fun text _ => some text])
    (ignores : shape.other = Json.ignoreOther) (completed : shape.complete .missing (some text) = .ok result)
    (placed : Placed [.just "type" (.text name), .just field (.text text)] members)
    (shallow : ∀ member ∈ members, member.2.depth ≤ levels) :
    ∃ jsons, List.Forall₂ (MemberRead levels) members jsons ∧ ObjectKind.ofMembers jsons = .ok result := by
  have fresh : "type" ∉ entryNames [.just field (.text text)] := fun typed =>
    different (List.mem_singleton.mp typed).symm
  obtain ⟨jsons, read, split, inside, later⟩ := kind_of_placed tag name variant _ fresh placed shallow
    (List.forall_mem_singleton.mpr fun value stands => text_readable text value stands)
  refine ⟨jsons, read, ?_⟩
  rw [same jsons split]
  exact sole_text_fields shape field text fields ignores inside later result completed

theorem text_of_placed (content color : String) (fontSize size : Float)
    (placed : Placed (ObjectKind.text content fontSize color).entries members)
    (shallow : ∀ member ∈ members, member.2.depth ≤ levels)
    (known : (Json.ofFloat fontSize).outline.asFloat = .ok size) :
    ∃ jsons, List.Forall₂ (MemberRead levels) members jsons ∧
      ObjectKind.ofMembers jsons = .ok (.text content size color) := by
  have fresh : "type" ∉ entryNames [.just "text" (.text content), .just "fontSize" (.ofFloat fontSize),
      .just "color" (.text color)] := by
    show "type" ∉ ["text", "fontSize", "color"]
    decide
  have whole := known
  rw [← float_read_whole fontSize levels] at whole
  obtain ⟨json, jsonKnown, _⟩ := (Json.bind_ok_iff _ _ _).mp whole
  obtain ⟨jsons, read, split, inside, later⟩ := kind_of_placed .text "text" rfl _ fresh placed shallow (by
    simp only [List.forall_mem_cons, List.not_mem_nil, false_implies, implies_true, and_true]
    refine ⟨fun value stands => text_readable content value stands, ?_,
      fun value stands => text_readable color value stands⟩
    intro value stands
    cases stands
    exact ⟨json, jsonKnown⟩)
  obtain ⟨text, height, shade, _⟩ := by
    simpa only [List.forall_mem_cons] using inside.found
  refine ⟨jsons, read, ?_⟩
  rw [ObjectKind.ofMembers, split]
  apply Json.fields_placed _ levels ObjectKind.textShape text_orderless rfl _ rfl inside _ later
    ⟨some content, some size, some color⟩ _ ?_ rfl
  apply consult_step (consult_text_member later text)
  apply consult_step (consult_float_member later height known)
  apply consult_step (consult_text_member later shade)
  rfl

theorem kind_layout_free (written : ObjectKind) (placed : Placed written.entries members)
    (shallow : ∀ member ∈ members, member.2.depth ≤ levels) (result : ObjectKind)
    (known : ((Json.outlineMembers written.members).jsons levels >>= ObjectKind.ofMembers) = .ok result) :
    ∃ jsons, List.Forall₂ (MemberRead levels) members jsons ∧ ObjectKind.ofMembers jsons = .ok result := by
  rw [kind_read] at known
  cases written with
  | text content fontSize color =>
      obtain ⟨size, sizeKnown, same⟩ := (Json.bind_ok_iff _ _ _).mp known
      cases same
      exact text_of_placed content color fontSize size placed shallow sizeKnown
  | image path =>
      cases known
      refine sole_kind_of_placed .image _ _ path ObjectKind.imageShape _ rfl (by decide) ?_ rfl rfl rfl placed
        shallow
      intro members split
      rw [ObjectKind.ofMembers, split]
      rfl
  | button label =>
      cases known
      refine sole_kind_of_placed .button _ _ label ObjectKind.buttonShape _ rfl (by decide) ?_ rfl rfl rfl placed
        shallow
      intro members split
      rw [ObjectKind.ofMembers, split]
      rfl

end Kinds

end Slideshow
