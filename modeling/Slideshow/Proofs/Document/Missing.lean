import Slideshow.Proofs.Document.Records

set_option autoImplicit false

namespace Slideshow

open Json (Place ReadError Shape outlineMembers)

section Fails

variable {α β : Type} {levels : Nat} {first : Except ReadError α} {rest : α → Except ReadError β}

def Fails (read : Except ReadError α) : Prop :=
  ∀ result, read ≠ .ok result

theorem fails_error (fault : ReadError) : Fails (.error fault : Except ReadError α) := nofun

theorem fails_opened {read : Nat → Except ReadError α} (fails : ∀ inner, Fails (read inner)) :
    Fails (Json.opened levels read) := by
  intro result known
  obtain ⟨inner, _, inside⟩ := (Json.opened_ok_iff levels read result).mp known
  exact fails inner result inside

theorem fails_first (fails : Fails first) : Fails (first >>= rest) := by
  intro result known
  obtain ⟨a, done, _⟩ := (Json.bind_ok_iff _ _ _).mp known
  exact fails a done

theorem fails_then (fails : ∀ a, Fails (rest a)) : Fails (first >>= rest) := by
  intro result known
  obtain ⟨a, _, later⟩ := (Json.bind_ok_iff _ _ _).mp known
  exact fails a result later

end Fails

section Needs

def Keeps {ι δ : Type} (lacking : δ → Prop) (store : ι → δ → Except ReadError δ) : Prop :=
  ∀ value draft result, lacking draft → store value draft = .ok result → lacking result

-- As long as a field has not come, the draft is one that cannot be completed.
structure Needs {ι δ α : Type} (shape : Shape ι δ α) (name : String) (lacking : δ → Prop) : Prop where
  start : lacking shape.start
  fields : ∀ field ∈ shape.fields, field.name ≠ name → Keeps lacking field.store
  other : ∀ other, Keeps lacking (shape.other other)
  fails : ∀ draft, lacking draft → Fails (shape.complete .missing draft)

variable {ι δ α : Type} {name : String} {lacking : δ → Prop}

theorem keeps_set {β : Type} (read : ι → Except ReadError β) (set : β → δ → δ)
    (kept : ∀ b draft, lacking draft → lacking (set b draft)) :
    Keeps lacking fun value draft => (fun b => set b draft) <$> read value := by
  intro value draft result lacks known
  obtain ⟨b, _, stored⟩ := (Json.map_ok_iff _ _ _).mp known
  cases stored
  exact kept b draft lacks

theorem keeps_pure (set : ι → δ → δ) (kept : ∀ value draft, lacking draft → lacking (set value draft)) :
    Keeps lacking fun value draft => (pure (set value draft) : Except ReadError δ) := by
  intro value draft result lacks known
  cases known
  exact kept value draft lacks

theorem keeps_skipped (other : String) : Keeps lacking (Json.skipOther (δ := δ) other) :=
  keeps_set (fun place : Place => place.outline.skip) (fun _ draft => draft) fun _ _ lacks => lacks

theorem keeps_ignored (other : String) : Keeps lacking (Json.ignoreOther (δ := δ) other) :=
  keeps_pure (fun _ draft => draft) fun _ _ lacks => lacks

theorem required_ok_iff {β : Type} (missing : String → ReadError) (name : String) (given : Option β)
    (b : β) : Json.required missing name given = .ok b ↔ given = some b := by
  cases given <;> simp [Json.required]

theorem take_lacks {shape : Shape ι δ α} (needs : Needs shape name lacking) (seen : List String)
    (other : String) (value : ι) (draft result : δ) (different : other ≠ name) (lacks : lacking draft)
    (taken : shape.take seen other value draft = .ok result) : lacking result := by
  unfold Shape.take at taken
  split at taken
  · exact needs.other other value draft result lacks taken
  · rename_i field found
    have named : field.name = other := by simpa using List.find?_some found
    split at taken
    · cases taken
    · exact needs.fields field (List.mem_of_find?_eq_some found) (named ▸ different) value draft result
        lacks taken

theorem fill_lacks {shape : Shape Place δ α} (needs : Needs shape name lacking)
    (members : List (String × Json)) (levels : Nat) (seen : List String) (draft result : δ)
    (absent : name ∉ members.map (·.1)) (lacks : lacking draft)
    (filled : (outlineMembers members).fill shape levels seen draft = .ok result) : lacking result := by
  induction members generalizing seen draft with
  | nil =>
      cases filled
      exact lacks
  | cons member rest ih =>
      obtain ⟨other, value⟩ := member
      obtain ⟨different, later⟩ := not_or.mp (List.mem_cons.not.mp absent)
      rw [fill_member] at filled
      obtain ⟨next, taken, more⟩ := (Json.bind_ok_iff _ _ _).mp filled
      exact ih (other :: seen) next later
        (take_lacks needs seen other _ draft next (Ne.symm different) lacks taken) more

theorem fill_named_lacks {shape : Shape Json δ α} (needs : Needs shape name lacking)
    (members : List (String × Json)) (seen : List String) (draft result : δ)
    (absent : name ∉ members.map (·.1)) (lacks : lacking draft)
    (filled : Json.fillNamed shape members seen draft = .ok result) : lacking result := by
  induction members generalizing seen draft with
  | nil =>
      cases filled
      exact lacks
  | cons member rest ih =>
      obtain ⟨other, value⟩ := member
      obtain ⟨different, later⟩ := not_or.mp (List.mem_cons.not.mp absent)
      rw [fill_named_member] at filled
      obtain ⟨next, taken, more⟩ := (Json.bind_ok_iff _ _ _).mp filled
      exact ih (other :: seen) next later
        (take_lacks needs seen other value draft next (Ne.symm different) lacks taken) more

theorem filtered_absent (members : List (String × Json)) (name : String) :
    name ∉ (members.filter (·.1 ≠ name)).map (·.1) := by
  simp

theorem read_lacks {shape : Shape Place δ α} (needs : Needs shape name lacking)
    (members : List (String × Json)) (levels : Nat) (absent : name ∉ members.map (·.1)) :
    Fails (shape.readNamed ⟨(Json.object members).outline, levels⟩) := by
  rw [read_named_object]
  refine fails_opened fun inner record known => ?_
  obtain ⟨draft, filled, completed⟩ := (Json.bind_ok_iff _ _ _).mp known
  exact needs.fails draft (fill_lacks needs members inner [] _ draft absent needs.start filled) record
    completed

theorem of_fields_lacks {shape : Shape Json δ α} (needs : Needs shape name lacking)
    (members : List (String × Json)) (absent : name ∉ members.map (·.1)) :
    Fails (shape.ofFields (.named members)) := by
  intro record known
  obtain ⟨draft, filled, completed⟩ := (Json.bind_ok_iff _ _ _).mp known
  exact needs.fails draft (fill_named_lacks needs members [] _ draft absent needs.start filled) record
    completed

end Needs

section Records

theorem point_needs : Needs Point.shape "x" (·.x = none) ∧ Needs Point.shape "y" (·.y = none) := by
  constructor <;> exact {
    start := rfl
    fields := by simp [Point.shape, Json.floatField, keeps_set]
    other := keeps_skipped
    fails := by
      intro draft lacks record
      simp [Point.shape, Json.bind_ok_iff, required_ok_iff, lacks, -bind_pure_comp] }

theorem size_needs : Needs Size.shape "width" (·.width = none) ∧ Needs Size.shape "height" (·.height = none) := by
  constructor <;> exact {
    start := rfl
    fields := by simp [Size.shape, Json.floatField, keeps_set]
    other := keeps_skipped
    fails := by
      intro draft lacks record
      simp [Size.shape, Json.bind_ok_iff, required_ok_iff, lacks, -bind_pure_comp] }

theorem trigger_needs : Needs Trigger.shape "id" (·.id = none) ∧
    Needs Trigger.shape "triggerType" (·.event = none) := by
  constructor <;> exact {
    start := rfl
    fields := by simp [Trigger.shape, Json.textField, Json.listField, keeps_set]
    other := keeps_skipped
    fails := by
      intro draft lacks record
      simp [Trigger.shape, Json.bind_ok_iff, required_ok_iff, lacks, -bind_pure_comp] }

theorem object_needs : Needs SlideObject.shape "id" (·.id = none) ∧
    Needs SlideObject.shape "name" (·.name = none) ∧
    Needs SlideObject.shape "position" (·.position = none) ∧
    Needs SlideObject.shape "size" (·.size = none) := by
  refine ⟨?_, ?_, ?_, ?_⟩ <;> exact {
    start := rfl
    fields := by simp [SlideObject.shape, Json.textField, Json.boolField, Json.listField, keeps_set]
    other := by simp [SlideObject.shape, keeps_set]
    fails := by
      intro draft lacks record
      simp [SlideObject.shape, Json.bind_ok_iff, required_ok_iff, lacks, -bind_pure_comp] }

theorem layer_needs : Needs Layer.shape "id" (·.id = none) ∧ Needs Layer.shape "name" (·.name = none) := by
  constructor <;> exact {
    start := rfl
    fields := by simp [Layer.shape, Json.textField, Json.boolField, Json.listField, keeps_set]
    other := keeps_skipped
    fails := by
      intro draft lacks record
      simp [Layer.shape, Json.bind_ok_iff, required_ok_iff, lacks, -bind_pure_comp] }

theorem slide_needs : Needs Slide.shape "id" (·.id = none) ∧ Needs Slide.shape "title" (·.title = none) ∧
    Needs Slide.shape "width" (·.width = none) ∧ Needs Slide.shape "height" (·.height = none) := by
  refine ⟨?_, ?_, ?_, ?_⟩ <;> exact {
    start := rfl
    fields := by simp [Slide.shape, Json.textField, Json.floatField, Json.listField, keeps_set]
    other := keeps_skipped
    fails := by
      intro draft lacks record
      simp [Slide.shape, Json.bind_ok_iff, required_ok_iff, lacks, -bind_pure_comp] }

theorem variable_needs : Needs Variable.shape "id" (·.id = none) ∧
    Needs Variable.shape "name" (·.name = none) ∧ Needs Variable.shape "type" (·.type = none) := by
  refine ⟨?_, ?_, ?_⟩ <;> exact {
    start := rfl
    fields := by simp [Variable.shape, Json.textField, Value.field, keeps_set]
    other := keeps_skipped
    fails := by
      intro draft lacks record
      simp [Variable.shape, Json.bind_ok_iff, required_ok_iff, lacks, -bind_pure_comp] }

theorem project_needs : Needs Project.shape "id" (·.id = none) ∧ Needs Project.shape "name" (·.name = none) ∧
    Needs Project.shape "slides" (·.slides = none) ∧
    Needs Project.shape "variables" (·.declarations = none) := by
  refine ⟨?_, ?_, ?_, ?_⟩ <;> exact {
    start := rfl
    fields := by simp [Project.shape, Json.textField, Json.listField, keeps_set]
    other := keeps_skipped
    fails := by
      intro draft lacks record
      simp [Project.shape, Json.bind_ok_iff, required_ok_iff, lacks, -bind_pure_comp] }

theorem target_needs (name field : String) (make : String → Action) :
    Needs (Action.targetShape name field make) field (· = none) where
  start := rfl
  fields := by simp [Action.targetShape, Json.textMember]
  other := keeps_ignored
  fails := by
    intro draft lacks record
    simp [Action.targetShape, Json.bind_ok_iff, required_ok_iff, lacks, -bind_pure_comp]

theorem set_needs : Needs Action.setShape "variableId" (·.target = none) where
  start := rfl
  fields := by simp [Action.setShape, Json.textMember, keeps_set, keeps_pure]
  other := keeps_ignored
  fails := by
    intro draft lacks record
    simp [Action.setShape, Json.bind_ok_iff, required_ok_iff, lacks, -bind_pure_comp]

theorem text_needs : Needs ObjectKind.textShape "text" (·.text = none) ∧
    Needs ObjectKind.textShape "fontSize" (·.fontSize = none) ∧
    Needs ObjectKind.textShape "color" (·.color = none) := by
  refine ⟨?_, ?_, ?_⟩ <;> exact {
    start := rfl
    fields := by simp [ObjectKind.textShape, Json.textMember, Json.floatMember, keeps_set]
    other := keeps_ignored
    fails := by
      intro draft lacks record
      simp [ObjectKind.textShape, Json.bind_ok_iff, required_ok_iff, lacks, -bind_pure_comp] }

theorem image_needs : Needs ObjectKind.imageShape "sourcePath" (· = none) where
  start := rfl
  fields := by simp [ObjectKind.imageShape, Json.textMember]
  other := keeps_ignored
  fails := by
    intro draft lacks record
    simp [ObjectKind.imageShape, Json.bind_ok_iff, required_ok_iff, lacks, -bind_pure_comp]

theorem button_needs : Needs ObjectKind.buttonShape "label" (· = none) where
  start := rfl
  fields := by simp [ObjectKind.buttonShape, Json.textMember]
  other := keeps_ignored
  fails := by
    intro draft lacks record
    simp [ObjectKind.buttonShape, Json.bind_ok_iff, required_ok_iff, lacks, -bind_pure_comp]

end Records

section Kinds

theorem jsons_names (members read : List (String × Json)) (levels : Nat)
    (known : (outlineMembers members).jsons levels = .ok read) : read.map (·.1) = members.map (·.1) := by
  induction members generalizing read with
  | nil =>
      cases known
      rfl
  | cons member rest ih =>
      obtain ⟨name, value⟩ := member
      rw [json_member] at known
      obtain ⟨json, _, more⟩ := (Json.bind_ok_iff _ _ _).mp known
      obtain ⟨others, later, done⟩ := (Json.bind_ok_iff _ _ _).mp more
      cases done
      exact congrArg (name :: ·) (ih others later)

theorem untyped_action_fails (members : List (String × Json)) (levels : Nat)
    (absent : "type" ∉ members.map (·.1)) :
    Fails (Action.members levels (outlineMembers members) none) := by
  induction members with
  | nil => exact fails_error _
  | cons member rest ih =>
      obtain ⟨name, value⟩ := member
      obtain ⟨different, later⟩ := not_or.mp (List.mem_cons.not.mp absent)
      rw [action_member levels name value rest (Ne.symm different)]
      exact fails_then fun value => fails_first (ih later)

theorem untyped_kind_fails (members : List (String × Json)) (absent : "type" ∉ members.map (·.1)) :
    Fails (ObjectKind.tagged members none) := by
  induction members with
  | nil => exact fails_error _
  | cons member rest ih =>
      obtain ⟨name, value⟩ := member
      obtain ⟨different, later⟩ := not_or.mp (List.mem_cons.not.mp absent)
      rw [ObjectKind.tagged, if_neg (Ne.symm different)]
      exact fails_first (ih later)

theorem tagged_kind (tag : ObjectKind.Tag) (members : List (String × Json))
    (absent : "type" ∉ members.map (·.1)) :
    ObjectKind.tagged members (some tag) = .ok (tag, members) := by
  induction members with
  | nil => rfl
  | cons member rest ih =>
      obtain ⟨name, value⟩ := member
      obtain ⟨different, later⟩ := not_or.mp (List.mem_cons.not.mp absent)
      rw [ObjectKind.tagged, if_neg (Ne.symm different), ih later]
      rfl

theorem typed_kind (tag : ObjectKind.Tag) (title : String)
    (known : ObjectKind.readTag (.text title) = .ok tag) (members : List (String × Json))
    (untyped : "type" ∉ members.map (·.1)) :
    ObjectKind.ofMembers (("type", .text title) :: members) =
      match tag with
      | .text => ObjectKind.textShape.ofFields (.named members)
      | .image => ObjectKind.imageShape.ofFields (.named members)
      | .button => ObjectKind.buttonShape.ofFields (.named members) := by
  have tagged : ObjectKind.tagged (("type", .text title) :: members) none = .ok (tag, members) := by
    rw [ObjectKind.tagged, if_pos rfl, known]
    exact tagged_kind tag members untyped
  rw [ObjectKind.ofMembers, tagged]
  rfl

theorem incomplete_kind_fails {δ : Type} {shape : Shape Json δ ObjectKind} {lacking : δ → Prop}
    (title name : String) (needs : Needs shape name lacking)
    (fields : ∀ members, "type" ∉ members.map (·.1) →
      ObjectKind.ofMembers (("type", .text title) :: members) = shape.ofFields (.named members))
    (members read : List (String × Json)) (levels : Nat) (untyped : "type" ∉ members.map (·.1))
    (absent : name ∉ members.map (·.1))
    (done : (outlineMembers (("type", .text title) :: members)).jsons levels = .ok read) :
    Fails (ObjectKind.ofMembers read) := by
  rw [json_member, text_json, pure_bind] at done
  obtain ⟨others, later, same⟩ := (Json.bind_ok_iff _ _ _).mp done
  cases same
  have names := jsons_names members others levels later
  rw [fields others (names ▸ untyped)]
  exact of_fields_lacks needs others (names ▸ absent)

theorem kind_incomplete (kind : ObjectKind) (name : String) (own : name ∈ kind.members.map (·.1))
    (levels : Nat) (read : List (String × Json))
    (done : (outlineMembers (kind.members.filter (·.1 ≠ name))).jsons levels = .ok read) :
    Fails (ObjectKind.ofMembers read) := by
  by_cases type : name = "type"
  · subst type
    have absent := filtered_absent kind.members "type"
    rw [← jsons_names _ read levels done] at absent
    exact fails_first (untyped_kind_fails read absent)
  cases kind with
  | text content fontSize color =>
      simp only [ObjectKind.members, List.map_cons, List.map_nil, List.mem_cons, type, false_or,
        List.not_mem_nil, or_false] at own
      obtain ⟨text, size, color⟩ := text_needs
      have fields := typed_kind .text "text" rfl
      rcases own with rfl | rfl | rfl
      · exact incomplete_kind_fails "text" _ text fields _ read levels (by simp) (by simp) done
      · exact incomplete_kind_fails "text" _ size fields _ read levels (by simp) (by simp) done
      · exact incomplete_kind_fails "text" _ color fields _ read levels (by simp) (by simp) done
  | image path =>
      obtain rfl : name = "sourcePath" := by simpa [ObjectKind.members, type] using own
      exact incomplete_kind_fails "image" _ image_needs (typed_kind .image "image" rfl) _ read levels
        (by simp) (by simp) done
  | button label =>
      obtain rfl : name = "label" := by simpa [ObjectKind.members, type] using own
      exact incomplete_kind_fails "button" _ button_needs (typed_kind .button "button" rfl) _ read levels
        (by simp) (by simp) done

end Kinds

end Slideshow
