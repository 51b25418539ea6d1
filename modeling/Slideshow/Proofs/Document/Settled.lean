import Slideshow.Proofs.Document.Restored
import Slideshow.Proofs.Json.Injective
import Slideshow.Proofs.ValueMeaning

set_option autoImplicit false

namespace Slideshow

open Json (Place ReadError ReadsUnchanged Source outlineElements)

-- A node of an integer beyond 64 bits with sign: it is written as an integer and read as a float.
def Value.Wide (v : Value) : Prop :=
  ∃ (n : Int) (inRange : -0x8000000000000000 ≤ n ∧ n < 0x10000000000000000) (node : Node),
    v = .structured node ∧ node.tree = .number (.int n inRange) ∧ 0x8000000000000000 ≤ n

section Values

def Action.values : Action → List Value
  | .setVariable _ _ operand => operand.toList
  | _ => []

def Trigger.values (trigger : Trigger) : List Value := trigger.actions.flatMap Action.values

def SlideObject.values (object : SlideObject) : List Value := object.triggers.flatMap Trigger.values

def Layer.values (layer : Layer) : List Value := layer.objects.flatMap SlideObject.values

def Slide.values (slide : Slide) : List Value := slide.layers.flatMap Layer.values

def Variable.values (v : Variable) : List Value := v.value.toList

def Project.values (project : Project) : List Value :=
  project.slides.flatMap Slide.values ++ project.declarations.flatMap Variable.values

end Values

def Stable (json : Json) (values : List Value) : Prop :=
  (∀ x ∈ json.floats, ReadsUnchanged x) ∧ ∀ v ∈ values, ¬ v.Wide

def Settles {α : Type} (toJson : α → Json) (values : α → List Value)
    (read : Place → Except ReadError α) : Prop :=
  ∀ (written : α) (levels : Nat) (result : α), read ⟨(toJson written).outline, levels⟩ = .ok result →
    (toJson result = toJson written ↔ Stable (toJson written) (values written))

theorem float_settles : Settles Json.ofFloat (fun _ => []) fun place => place.outline.asFloat := by
  intro x levels y known
  by_cases finite : x.isFinite = true
  · rw [Json.of_float_finite x finite] at known ⊢
    obtain ⟨number, reread, rfl⟩ := (Json.map_ok_iff _ _ _).mp known
    obtain ⟨y, finiteToo, rfl⟩ := Json.reread_float x finite number reread
    have same : Json.ofFloat y = .number (.float y finiteToo) := Json.of_float_finite y finiteToo
    simp [Stable, Json.floats, Json.reads_unchanged_iff x finite, reread, Number.toFloat, same]
  · rw [Json.of_float_not_finite x finite] at known
    cases known

namespace Value

theorem not_wide_of_plain (v : Value) (plain : v.isPlain = true) : ¬ v.Wide := by
  rintro ⟨n, inRange, node, rfl, _⟩
  cases plain

theorem wide_iff (n : Int) (inRange : -0x8000000000000000 ≤ n ∧ n < 0x10000000000000000)
    (canonical : (Json.number (.int n inRange)).Canonical) :
    Wide (.structured ⟨.number (.int n inRange), canonical⟩) ↔ 0x8000000000000000 ≤ n := by
  constructor
  · rintro ⟨_, _, _, ⟨⟩, ⟨⟩, wide⟩
    exact wide
  · exact fun wide => ⟨n, inRange, _, rfl, rfl, wide⟩

theorem json_of_integer (v : Value) (n : Int) (integer : v.asInt? = some n) :
    ∃ inRange, v.toJson = .number (.int n inRange) := by
  cases v with
  | int32 m =>
      cases integer
      have least := m.le_toInt
      have most := m.toInt_lt
      refine ⟨by omega, congrArg Json.number ?_⟩
      simp [Number.ofInt64]
  | int64 m =>
      cases integer
      exact ⟨_, rfl⟩
  | _ => cases integer

theorem integer_settles (v : Value) (n : Int64) (integer : v.asInt? = some n.toInt)
    (written : v.toJson = Json.ofInt64 n) (levels : Nat) (read : Json)
    (known : v.toJson.outline.json levels = .ok read) :
    (ofJson read).toJson = v.toJson ↔ Stable v.toJson [v] := by
  rw [written, (integer_restored n levels).1] at known
  cases known
  obtain ⟨_, left⟩ := json_of_integer v n.toInt integer
  obtain ⟨_, right⟩ := json_of_integer (ofInt64 n) n.toInt (as_int_of_int64 n)
  have plain : v.isPlain = true := by cases v <;> first | rfl | cases integer
  rw [(integer_restored n levels).2, left, right]
  simp [Stable, Json.floats, not_wide_of_plain v plain]

theorem number_settles (m : Number) (canonical : (Json.number m).Canonical) (levels : Nat) (read : Json)
    (known : (Json.number m).outline.json levels = .ok read) :
    (ofJson read).toJson = .number m ↔ Stable (.number m) [.structured ⟨.number m, canonical⟩] := by
  obtain ⟨number, reread, rfl⟩ := (Json.map_ok_iff _ _ _).mp known
  rw [of_json_number]
  cases m with
  | int n inRange =>
      rw [Number.reread_int] at reread
      cases reread
      simp only [Stable, Json.floats, List.not_mem_nil, false_implies, implies_true, true_and,
        List.mem_singleton, forall_eq, wide_iff]
      rcases of_integer_cases n inRange with ⟨narrow, integer⟩ | ⟨wide, float⟩
      · obtain ⟨_, same⟩ := json_of_integer _ n integer
        exact iff_of_true same (by omega)
      · have rounded : (Value.float (Float.ofInt n)).toJson = Json.ofFloat (Float.ofInt n) := rfl
        rw [float, rounded, Json.ofFloat]
        refine iff_of_false ?_ (by omega)
        split <;> simp
  | float x finite =>
      obtain ⟨y, finiteToo, rfl⟩ := Json.reread_float x finite number reread
      have same : (ofNumber (.float y finiteToo)).toJson = .number (.float y finiteToo) :=
        Json.of_float_finite y finiteToo
      have narrow : ¬ Wide (.structured ⟨.number (.float x finite), canonical⟩) := by
        rintro ⟨_, _, _, ⟨⟩, ⟨⟩, _⟩
      simp [same, Stable, Json.floats, Json.reads_unchanged_iff x finite, reread, narrow]

theorem float_value_settles (x : Float) (levels : Nat) (read : Json)
    (known : (Json.ofFloat x).outline.json levels = .ok read) :
    (ofJson read).toJson = Json.ofFloat x ↔ Stable (.ofFloat x) [.float x] := by
  have narrow := not_wide_of_plain (.float x) rfl
  by_cases finite : x.isFinite = true
  · rw [Json.of_float_finite x finite] at known ⊢
    rw [number_settles (.float x finite) trivial levels read known]
    simp [Stable, Wide]
  · rw [Json.of_float_not_finite x finite] at known ⊢
    cases known
    simp [Stable, Json.floats, narrow]
    rfl

theorem scalar_settles (v : Value) (read : Json) (same : (ofJson read).toJson = v.toJson)
    (noFloats : v.toJson.floats = []) (narrow : ¬ v.Wide) :
    (ofJson read).toJson = v.toJson ↔ Stable v.toJson [v] :=
  iff_of_true same ⟨by simp [noFloats], by simpa using narrow⟩

theorem composite_settles (node : Node) (composite : node.isScalar = false) (levels : Nat) (read : Json)
    (known : node.tree.outline.json levels = .ok read) (compositeToo : read.isScalar = false) :
    (ofJson read).toJson = node.tree ↔ Stable node.tree [.structured node] := by
  have sorted := Json.read_canonical node.tree levels read known node.canonical
  have narrow : ¬ Wide (.structured node) := by
    rintro ⟨n, inRange, _, ⟨⟩, number, _⟩
    rw [Node.isScalar, number] at composite
    cases composite
  rw [of_json_canonical read sorted, of_composite ⟨read, sorted⟩ compositeToo, toJson,
    Json.read_unchanged_iff node.tree read levels known]
  simp [Stable, narrow]

theorem node_settles (node : Node) (levels : Nat) (read : Json)
    (known : node.tree.outline.json levels = .ok read) :
    (ofJson read).toJson = node.tree ↔ Stable node.tree [.structured node] := by
  obtain ⟨tree, canonical⟩ := node
  cases tree with
  | number m => exact number_settles m canonical levels read known
  | null | bool | text =>
      cases known
      refine scalar_settles (.structured _) _ rfl rfl ?_
      rintro ⟨n, inRange, _, ⟨⟩, ⟨⟩, _⟩
  | list elements =>
      obtain ⟨inner, _, inside⟩ := (Json.opened_ok_iff _ _ _).mp known
      obtain ⟨list, _, made⟩ := (Json.bind_ok_iff _ _ _).mp inside
      cases made
      exact composite_settles _ rfl levels _ known rfl
  | object members =>
      obtain ⟨inner, _, inside⟩ := (Json.opened_ok_iff _ _ _).mp known
      obtain ⟨list, _, made⟩ := (Json.bind_ok_iff _ _ _).mp inside
      cases made
      exact composite_settles _ rfl levels _ known rfl

end Value

theorem value_settles : Settles Value.toJson (fun v => [v]) readValue := by
  intro v levels result known
  obtain ⟨read, readKnown, same⟩ := (Json.bind_ok_iff _ _ _).mp known
  obtain rfl := Except.ok.inj same
  cases v with
  | null | bool | text =>
      cases readKnown
      exact Value.scalar_settles _ _ rfl rfl (Value.not_wide_of_plain _ rfl)
  | int32 n =>
      exact Value.integer_settles (.int32 n) n.toInt64 (by simp [Value.asInt?]) rfl levels read readKnown
  | int64 n => exact Value.integer_settles (.int64 n) n rfl rfl levels read readKnown
  | float x => exact Value.float_value_settles x levels read readKnown
  | structured node => exact Value.node_settles node levels read readKnown

section Lists

variable {α : Type} {toJson : α → Json} {values : α → List Value} {read : Place → Except ReadError α}

theorem stable_element (json : Json) (rest : List Json) (here later : List Value) :
    Stable (.list (json :: rest)) (here ++ later) ↔ Stable json here ∧ Stable (.list rest) later := by
  simp only [Stable, Json.floats, Json.floatsElements, List.forall_mem_append]
  exact and_and_and_comm

theorem each_settles (settles : Settles toJson values read) (list : List α) (levels : Nat)
    (results : List α)
    (known : ((outlineElements (list.map toJson)).each fun outline => read ⟨outline, levels⟩) = .ok results) :
    results.map toJson = list.map toJson ↔
      Stable (.list (list.map toJson)) (list.flatMap values) := by
  induction list generalizing results with
  | nil =>
      cases known
      simp [Stable, Json.floats, Json.floatsElements]
  | cons head tail ih =>
      obtain ⟨first, firstKnown, later⟩ := (Json.bind_ok_iff _ _ _).mp known
      obtain ⟨rest, restKnown, same⟩ := (Json.bind_ok_iff _ _ _).mp later
      cases same
      rw [List.map_cons, List.map_cons, List.cons.injEq, settles head levels first firstKnown,
        ih rest restKnown, List.flatMap_cons, stable_element]

theorem list_settles (settles : Settles toJson values read) :
    Settles (fun list => .list (list.map toJson)) (fun list => list.flatMap values) (readList read) := by
  intro list levels results known
  obtain ⟨inner, _, inside⟩ := (Json.opened_ok_iff _ _ _).mp known
  rw [Json.list.injEq]
  exact each_settles settles list inner results inside

end Lists

section Members

variable (name : String) (json : Json) (members : List (String × Json)) (values : List Value)

theorem stable_iff : Stable json values ↔ Stable json [] ∧ ∀ v ∈ values, ¬ v.Wide := by
  simp [Stable]

@[simp]
theorem stable_member :
    Stable (.object ((name, json) :: members)) values ↔ Stable json [] ∧ Stable (.object members) values := by
  simp [Stable, Json.floats, Json.floatsMembers, or_imp, forall_and, and_assoc]

@[simp]
theorem stable_end : Stable (.object []) values ↔ ∀ v ∈ values, ¬ v.Wide := by
  simp [Stable, Json.floats, Json.floatsMembers]

@[simp]
theorem stable_text (text : String) : Stable (.text text) [] := by
  simp [Stable, Json.floats]

@[simp]
theorem stable_bool (b : Bool) : Stable (.bool b) [] := by
  simp [Stable, Json.floats]

end Members

theorem point_settles : Settles Point.toJson (fun _ => []) Point.shape.read := by
  intro written levels result known
  rw [point_read] at known
  obtain ⟨inner, _, inside⟩ := (Json.opened_ok_iff _ _ _).mp known
  obtain ⟨x, xKnown, later⟩ := (Json.bind_ok_iff _ _ _).mp inside
  obtain ⟨y, yKnown, same⟩ := (Json.bind_ok_iff _ _ _).mp later
  cases same
  have across := float_settles written.x inner x xKnown
  have down := float_settles written.y inner y yKnown
  simp [Point.toJson, across, down]

theorem size_settles : Settles Size.toJson (fun _ => []) Size.shape.read := by
  intro written levels result known
  rw [size_read] at known
  obtain ⟨inner, _, inside⟩ := (Json.opened_ok_iff _ _ _).mp known
  obtain ⟨width, widthKnown, later⟩ := (Json.bind_ok_iff _ _ _).mp inside
  obtain ⟨height, heightKnown, same⟩ := (Json.bind_ok_iff _ _ _).mp later
  cases same
  have across := float_settles written.width inner width widthKnown
  have down := float_settles written.height inner height heightKnown
  simp [Size.toJson, across, down]

theorem kind_settles (written : ObjectKind) (levels : Nat) (result : ObjectKind)
    (known : ((Json.outlineMembers written.members).jsons levels >>= ObjectKind.ofMembers) = .ok result) :
    result.members = written.members ↔ Stable (.object written.members) [] := by
  rw [kind_read] at known
  cases written with
  | text content fontSize color =>
      obtain ⟨size, sizeKnown, same⟩ := (Json.bind_ok_iff _ _ _).mp known
      cases same
      have settled := float_settles fontSize levels size sizeKnown
      simp [ObjectKind.members, settled]
  | image path | button label =>
      cases known
      simp [ObjectKind.members]

theorem optional_settles (written : Option Value) (levels : Nat) (result : Option Value)
    (known : readOptional written levels = .ok result) :
    optionalMember "value" (result.map Value.toJson) = optionalMember "value" (written.map Value.toJson) ↔
      Stable (.object (optionalMember "value" (written.map Value.toJson))) written.toList := by
  cases written with
  | none =>
      cases known
      simp [optionalMember]
  | some operand =>
      rw [readOptional, Option.mapM_some] at known
      obtain ⟨value, valueKnown, rfl⟩ := (Json.map_ok_iff _ _ _).mp known
      have settled := (value_settles operand levels value valueKnown).trans (stable_iff _ _)
      simp [optionalMember, settled]

theorem action_settles : Settles Action.toJson Action.values Action.read := by
  intro written levels result known
  rw [action_read] at known
  obtain ⟨inner, _, inside⟩ := (Json.opened_ok_iff _ _ _).mp known
  cases written with
  | setVariable target operation operand =>
      obtain ⟨value, valueKnown, same⟩ := (Json.bind_ok_iff _ _ _).mp inside
      cases same
      have settled := optional_settles operand inner value valueKnown
      simp [Action.toJson, Action.values, settled]
  | navigateToSlide target | showLayer target | hideLayer target =>
      cases inside
      simp [Action.toJson, Action.values]

theorem trigger_settles : Settles Trigger.toJson Trigger.values Trigger.shape.read := by
  intro written levels result known
  rw [trigger_read] at known
  obtain ⟨inner, _, inside⟩ := (Json.opened_ok_iff _ _ _).mp known
  obtain ⟨actions, actionsKnown, same⟩ := (Json.bind_ok_iff _ _ _).mp inside
  cases same
  have settled := (list_settles action_settles written.actions inner actions actionsKnown).trans
    (stable_iff _ _)
  rw [Json.list.injEq] at settled
  cases target : written.target <;>
    simp [Trigger.toJson, Trigger.values, optionalMember, target, settled]

theorem stable_append (members rest : List (String × Json)) (values : List Value) :
    Stable (.object (members ++ rest)) values ↔
      Stable (.object members) [] ∧ Stable (.object rest) values := by
  induction members with
  | nil => simp
  | cons member later ih => rw [List.cons_append, stable_member, stable_member, ih, and_assoc]

theorem object_settles : Settles SlideObject.toJson SlideObject.values SlideObject.shape.readNamed := by
  intro written levels result known
  rw [object_read] at known
  obtain ⟨inner, _, inside⟩ := (Json.opened_ok_iff _ _ _).mp known
  obtain ⟨position, positionKnown, later⟩ := (Json.bind_ok_iff _ _ _).mp inside
  obtain ⟨size, sizeKnown, later⟩ := (Json.bind_ok_iff _ _ _).mp later
  obtain ⟨members, membersKnown, later⟩ := (Json.bind_ok_iff _ _ _).mp later
  obtain ⟨triggers, triggersKnown, later⟩ := (Json.bind_ok_iff _ _ _).mp later
  obtain ⟨kind, kindKnown, same⟩ := (Json.bind_ok_iff _ _ _).mp later
  cases same
  have placed := point_settles written.position inner position positionKnown
  have extended := size_settles written.size inner size sizeKnown
  have shown := kind_settles written.kind inner kind
    ((Json.bind_ok_iff _ _ _).mpr ⟨members, membersKnown, kindKnown⟩)
  have settled := (list_settles trigger_settles written.triggers inner triggers triggersKnown).trans
    (stable_iff _ _)
  rw [Json.list.injEq] at settled
  simp [SlideObject.toJson, SlideObject.values, placed, extended, stable_append, shown, settled]

theorem layer_settles : Settles Layer.toJson Layer.values Layer.shape.read := by
  intro written levels result known
  rw [layer_read] at known
  obtain ⟨inner, _, inside⟩ := (Json.opened_ok_iff _ _ _).mp known
  obtain ⟨objects, objectsKnown, same⟩ := (Json.bind_ok_iff _ _ _).mp inside
  cases same
  have settled := (list_settles object_settles written.objects inner objects objectsKnown).trans
    (stable_iff _ _)
  rw [Json.list.injEq] at settled
  simp [Layer.toJson, Layer.values, settled]

theorem slide_settles : Settles Slide.toJson Slide.values Slide.shape.read := by
  intro written levels result known
  rw [slide_read] at known
  obtain ⟨inner, _, inside⟩ := (Json.opened_ok_iff _ _ _).mp known
  obtain ⟨width, widthKnown, later⟩ := (Json.bind_ok_iff _ _ _).mp inside
  obtain ⟨height, heightKnown, later⟩ := (Json.bind_ok_iff _ _ _).mp later
  obtain ⟨layers, layersKnown, same⟩ := (Json.bind_ok_iff _ _ _).mp later
  cases same
  have across := float_settles written.width inner width widthKnown
  have down := float_settles written.height inner height heightKnown
  have settled := (list_settles layer_settles written.layers inner layers layersKnown).trans
    (stable_iff _ _)
  rw [Json.list.injEq] at settled
  simp [Slide.toJson, Slide.values, across, down, settled]

theorem variable_settles : Settles Variable.toJson Variable.values Variable.shape.read := by
  intro written levels result known
  rw [variable_read] at known
  obtain ⟨inner, _, inside⟩ := (Json.opened_ok_iff _ _ _).mp known
  obtain ⟨value, valueKnown, same⟩ := (Json.bind_ok_iff _ _ _).mp inside
  cases same
  have settled := optional_settles written.value inner value valueKnown
  simp [Variable.toJson, Variable.values, settled]

theorem project_settles : Settles Project.toJson Project.values Project.shape.read := by
  intro written levels result known
  rw [project_read] at known
  obtain ⟨inner, _, inside⟩ := (Json.opened_ok_iff _ _ _).mp known
  obtain ⟨slides, slidesKnown, later⟩ := (Json.bind_ok_iff _ _ _).mp inside
  obtain ⟨declarations, declarationsKnown, same⟩ := (Json.bind_ok_iff _ _ _).mp later
  cases same
  have first := (list_settles slide_settles written.slides inner slides slidesKnown).trans (stable_iff _ _)
  have second :=
    (list_settles variable_settles written.declarations inner declarations declarationsKnown).trans
      (stable_iff _ _)
  rw [Json.list.injEq] at first second
  simp [Project.toJson, Project.values, first, second, or_imp, forall_and, and_assoc, and_left_comm]

/-- A document that was read is written as the same text again exactly if each float in it is read
unchanged and no value of the project it was written for is a node of an integer beyond 64 bits with
sign. -/
theorem encode_decoded_iff (project result : Project)
    (decoded : Project.decode (Source.ofString project.encode) = .ok result) :
    result.encode = project.encode ↔
      (∀ x ∈ project.toJson.floats, ReadsUnchanged x) ∧ ∀ v ∈ project.values, ¬ v.Wide := by
  rw [decode_encode] at decoded
  exact (Json.write_injective _ _).trans (project_settles project Json.levelLimit result decoded)

def tidy : Project :=
  ((Project.start "tidy" "Tidy").withSlide (Slide.start "slide")).withVariable
    (.start "total" .number (some (.int64 5)))

theorem tidy_decoded : Project.decode (Source.ofString tidy.encode) = .ok tidy.normalized := by
  obtain ⟨result, read, same⟩ :=
    (project_restored tidy Json.levelLimit).mpr ⟨by decide, by decide +kernel⟩
  rw [decode_encode, read, same]

theorem tidy_is_written_again :
    Project.decode (Source.ofString tidy.encode) = .ok tidy.normalized ∧
      tidy.normalized.encode = tidy.encode := by
  refine ⟨tidy_decoded, (encode_decoded_iff tidy tidy.normalized tidy_decoded).mpr ⟨by decide +kernel, ?_⟩⟩
  intro v member
  obtain rfl := List.mem_singleton.mp member
  exact Value.not_wide_of_plain _ rfl

theorem drift_is_not_written_again :
    ∃ result, Project.decode (Source.ofString drift.encode) = .ok result ∧ result.encode ≠ drift.encode := by
  have reads : (Project.shape.read ⟨drift.toJson.outline, Json.levelLimit⟩).isOk = true := by
    decide +kernel
  cases decoded : Project.shape.read ⟨drift.toJson.outline, Json.levelLimit⟩ with
  | error fault =>
      rw [decoded] at reads
      cases reads
  | ok result =>
      refine ⟨result, (decode_encode drift).trans decoded, fun same => ?_⟩
      have settled := project_settles drift Json.levelLimit result decoded
      have unchanged := (settled.mp ((Json.write_injective _ _).mp same)).1
      have drifts : ¬ ∀ x ∈ drift.toJson.floats, ReadsUnchanged x := by decide +kernel
      exact drifts unchanged

end Slideshow
