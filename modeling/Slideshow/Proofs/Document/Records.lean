import Slideshow.Document.Decode
import Slideshow.Proofs.Document.Faithful

set_option autoImplicit false

namespace Slideshow

open Json (Elements Members Place ReadError Shape outlineElements outlineMembers)

@[simp]
theorem required_some {α : Type} (missing : String → ReadError) (name : String) (a : α) :
    Json.required missing name (some a) = pure a := rfl

section Members

variable {δ α : Type} (shape : Shape Place δ α) (levels : Nat)

@[simp]
theorem fill_member (name : String) (value : Json) (rest : List (String × Json)) (seen : List String)
    (draft : δ) :
    (outlineMembers ((name, value) :: rest)).fill shape levels seen draft =
      (shape.take seen name ⟨value.outline, levels⟩ draft >>= fun draft =>
        (outlineMembers rest).fill shape levels (name :: seen) draft) := rfl

@[simp]
theorem fill_end (seen : List String) (draft : δ) :
    (outlineMembers []).fill shape levels seen draft = pure draft := rfl

theorem read_object (members : List (String × Json)) :
    shape.read ⟨(Json.object members).outline, levels⟩ = Json.opened levels fun inner =>
      ((outlineMembers members).fill shape inner [] shape.start >>= shape.complete .missing) := rfl

theorem read_named_object (members : List (String × Json)) :
    shape.readNamed ⟨(Json.object members).outline, levels⟩ = Json.opened levels fun inner =>
      ((outlineMembers members).fill shape inner [] shape.start >>= shape.complete .missing) := rfl

end Members

@[simp]
theorem text_read (text : String) : (Json.text text).outline.asText .text = pure text := rfl

@[simp]
theorem bool_read (b : Bool) : (Json.bool b).outline.asBool = pure b := rfl

@[simp]
theorem optional_text_read (text : String) :
    (Json.text text).outline.asOptionalText = pure (some text) := rfl

@[simp]
theorem trigger_type_read (event : TriggerType) (levels : Nat) :
    (Json.text event.name).outline.asVariant TriggerType.known levels = pure event := by
  cases event <;> rfl

@[simp]
theorem variable_type_read (type : VariableType) (levels : Nat) :
    (Json.text type.name).outline.asVariant VariableType.known levels = pure type := by
  cases type <;> rfl

@[simp]
theorem operation_read (operation : SetOperation) :
    (Json.text operation.name).asVariant SetOperation.known = pure operation := by
  cases operation <;> rfl

theorem point_read (point : Point) (levels : Nat) :
    Point.shape.read ⟨point.toJson.outline, levels⟩ = Json.opened levels fun _ => do
      let x ← (Json.ofFloat point.x).outline.asFloat
      let y ← (Json.ofFloat point.y).outline.asFloat
      return ⟨x, y⟩ := by
  rw [Point.toJson, read_object]
  congr 1
  funext inner
  simp [Shape.take, Point.shape, Json.floatField]

theorem size_read (size : Size) (levels : Nat) :
    Size.shape.read ⟨size.toJson.outline, levels⟩ = Json.opened levels fun _ => do
      let width ← (Json.ofFloat size.width).outline.asFloat
      let height ← (Json.ofFloat size.height).outline.asFloat
      return ⟨width, height⟩ := by
  rw [Size.toJson, read_object]
  congr 1
  funext inner
  simp [Shape.take, Size.shape, Json.floatField]

def readListOr {α : Type} (read : Place → Except ReadError α) : Option Json → Nat → Except ReadError (List α)
  | some json, levels => readList read ⟨json.outline, levels⟩
  | none, _ => pure []

def Trigger.document (id : String) (event : TriggerType) (target : Option String) (actions : Option Json) :
    Json :=
  .object ([("id", .text id), ("triggerType", .text event.name)] ++
    optionalMember "objectId" (target.map .text) ++ optionalMember "actions" actions)

theorem trigger_document_read (id : String) (event : TriggerType) (target : Option String)
    (actions : Option Json) (levels : Nat) :
    Trigger.shape.read ⟨(Trigger.document id event target actions).outline, levels⟩ =
      Json.opened levels fun inner => do
        let actions ← readListOr Action.read actions inner
        return { id, event, target, actions } := by
  rw [Trigger.document, read_object]
  congr 1
  funext inner
  cases target <;> cases actions <;>
    simp [optionalMember, Shape.take, Trigger.shape, Json.textField, Json.listField, readListOr, readList]

theorem trigger_document (trigger : Trigger) :
    trigger.toJson = Trigger.document trigger.id trigger.event trigger.target
      (some (.list (trigger.actions.map Action.toJson))) := rfl

theorem trigger_read (trigger : Trigger) (levels : Nat) :
    Trigger.shape.read ⟨trigger.toJson.outline, levels⟩ = Json.opened levels fun inner => do
      let actions ← readList Action.read ⟨(Json.list (trigger.actions.map Action.toJson)).outline, inner⟩
      return { trigger with actions } := by
  rw [trigger_document, trigger_document_read]
  rfl

def Layer.document (id name : String) (visible : Option Bool) (objects : Option Json) : Json :=
  .object ([("id", .text id), ("name", .text name)] ++ optionalMember "visible" (visible.map .bool) ++
    optionalMember "objects" objects)

theorem layer_document_read (id name : String) (visible : Option Bool) (objects : Option Json)
    (levels : Nat) :
    Layer.shape.read ⟨(Layer.document id name visible objects).outline, levels⟩ =
      Json.opened levels fun inner => do
        let objects ← readListOr SlideObject.shape.readNamed objects inner
        return { id, name, visible := visible.getD true, objects } := by
  rw [Layer.document, read_object]
  congr 1
  funext inner
  cases visible <;> cases objects <;>
    simp [optionalMember, Shape.take, Layer.shape, Json.textField, Json.boolField, Json.listField,
      readListOr, readList]

theorem layer_document (layer : Layer) :
    layer.toJson = Layer.document layer.id layer.name (some layer.visible)
      (some (.list (layer.objects.map SlideObject.toJson))) := rfl

theorem layer_read (layer : Layer) (levels : Nat) :
    Layer.shape.read ⟨layer.toJson.outline, levels⟩ = Json.opened levels fun inner => do
      let objects ←
        readList SlideObject.shape.readNamed
          ⟨(Json.list (layer.objects.map SlideObject.toJson)).outline, inner⟩
      return { layer with objects } := by
  rw [layer_document, layer_document_read]
  rfl

def Slide.document (id title : String) (width height : Float) (layers : Option Json) : Json :=
  .object ([("id", .text id), ("title", .text title), ("width", .ofFloat width),
    ("height", .ofFloat height)] ++ optionalMember "layers" layers)

theorem slide_document_read (id title : String) (width height : Float) (layers : Option Json)
    (levels : Nat) :
    Slide.shape.read ⟨(Slide.document id title width height layers).outline, levels⟩ =
      Json.opened levels fun inner => do
        let width ← (Json.ofFloat width).outline.asFloat
        let height ← (Json.ofFloat height).outline.asFloat
        let layers ← readListOr Layer.shape.read layers inner
        return { id, title, width, height, layers } := by
  rw [Slide.document, read_object]
  congr 1
  funext inner
  cases layers <;>
    simp [optionalMember, Shape.take, Slide.shape, Json.floatField, Json.textField, Json.listField,
      readListOr, readList]

theorem slide_document (slide : Slide) :
    slide.toJson = Slide.document slide.id slide.title slide.width slide.height
      (some (.list (slide.layers.map Layer.toJson))) := rfl

theorem slide_read (slide : Slide) (levels : Nat) :
    Slide.shape.read ⟨slide.toJson.outline, levels⟩ = Json.opened levels fun inner => do
      let width ← (Json.ofFloat slide.width).outline.asFloat
      let height ← (Json.ofFloat slide.height).outline.asFloat
      let layers ← readList Layer.shape.read ⟨(Json.list (slide.layers.map Layer.toJson)).outline, inner⟩
      return { slide with width, height, layers } := by
  rw [slide_document, slide_document_read]
  rfl

def Project.document (id name : String) (slides declarations : Json) : Json :=
  .object [("id", .text id), ("name", .text name), ("slides", slides), ("variables", declarations)]

theorem project_document_read (id name : String) (slides declarations : Json) (levels : Nat) :
    Project.shape.read ⟨(Project.document id name slides declarations).outline, levels⟩ =
      Json.opened levels fun inner => do
        let slides ← readList Slide.shape.read ⟨slides.outline, inner⟩
        let declarations ← readList Variable.shape.read ⟨declarations.outline, inner⟩
        return { id, name, slides, declarations } := by
  rw [Project.document, read_object]
  congr 1
  funext inner
  simp [Shape.take, Project.shape, Json.textField, Json.listField, readList]

theorem project_document (project : Project) :
    project.toJson = Project.document project.id project.name
      (.list (project.slides.map Slide.toJson)) (.list (project.declarations.map Variable.toJson)) := rfl

theorem project_read (project : Project) (levels : Nat) :
    Project.shape.read ⟨project.toJson.outline, levels⟩ = Json.opened levels fun inner => do
      let slides ← readList Slide.shape.read ⟨(Json.list (project.slides.map Slide.toJson)).outline, inner⟩
      let declarations ←
        readList Variable.shape.read ⟨(Json.list (project.declarations.map Variable.toJson)).outline, inner⟩
      return { project with slides, declarations } := by
  rw [project_document, project_document_read]

def readOptional (value : Option Value) (levels : Nat) : Except ReadError (Option Value) :=
  value.mapM fun value => readValue ⟨value.toJson.outline, levels⟩

theorem variable_read (v : Variable) (levels : Nat) :
    Variable.shape.read ⟨v.toJson.outline, levels⟩ = Json.opened levels fun inner => do
      let value ← readOptional v.value inner
      return { v with value } := by
  rw [Variable.toJson, read_object]
  congr 1
  funext inner
  cases v.value <;>
    simp [optionalMember, Shape.take, Variable.shape, Json.textField, Value.field, readOptional, readValue]

section Actions

variable (levels : Nat) (name : String) (value : Json) (members : List (String × Json))

@[simp]
theorem json_member :
    (outlineMembers ((name, value) :: members)).jsons levels = (do
      let value ← value.outline.json levels
      let members ← (outlineMembers members).jsons levels
      return (name, value) :: members) := rfl

theorem action_member (different : name ≠ "type") (tag : Option Action.Tag) :
    Action.members levels (outlineMembers ((name, value) :: members)) tag = (do
      let value ← value.outline.json levels
      let (tag, members) ← Action.members levels (outlineMembers members) tag
      return (tag, (name, value) :: members)) := if_neg different

theorem untagged_members (tag : Action.Tag) (untagged : ∀ member ∈ members, member.1 ≠ "type") :
    Action.members levels (outlineMembers members) (some tag) = (do
      let members ← (outlineMembers members).jsons levels
      return (tag, members)) := by
  induction members with
  | nil => rfl
  | cons member rest ih =>
      obtain ⟨name, value⟩ := member
      have later := ih fun member inRest => untagged member (List.mem_cons_of_mem _ inRest)
      rw [action_member _ _ _ _ (untagged (name, value) List.mem_cons_self), json_member, later]
      simp

theorem tagged_read (tag : Action.Tag) (known : Json.variant Action.Tag.known name = pure tag)
    (untagged : ∀ member ∈ members, member.1 ≠ "type") :
    Action.read ⟨(Json.object (("type", .text name) :: members)).outline, levels⟩ =
      Json.opened levels fun inner => (do
        let members ← (outlineMembers members).jsons inner
        Action.ofFields tag (.named members)) := by
  have read : Action.readTag (Json.text name).outline = pure tag := known
  have tagged : ∀ inner, Action.members inner (outlineMembers (("type", .text name) :: members)) none =
      (Action.readTag (Json.text name).outline >>= fun tag =>
        Action.members inner (outlineMembers members) (some tag)) := fun _ => rfl
  unfold Action.read
  simp only [Json.outline]
  congr 1
  funext inner
  rw [tagged, read, pure_bind, untagged_members _ _ _ untagged]
  simp

@[simp]
theorem text_json (text : String) : (Json.text text).outline.json levels = pure (.text text) := rfl

@[simp]
theorem fill_named_member {δ α : Type} (shape : Shape Json δ α) (seen : List String) (draft : δ) :
    Json.fillNamed shape ((name, value) :: members) seen draft =
      (shape.take seen name value draft >>= fun draft =>
        Json.fillNamed shape members (name :: seen) draft) := rfl

@[simp]
theorem fill_named_end {δ α : Type} (shape : Shape Json δ α) (seen : List String) (draft : δ) :
    Json.fillNamed shape [] seen draft = pure draft := rfl

end Actions

@[simp]
theorem json_end (levels : Nat) : (outlineMembers []).jsons levels = pure [] := rfl

@[simp]
theorem member_text (text : String) : (Json.text text).asText .text = pure text := rfl

@[simp]
theorem target_fields (name field id : String) (make : String → Action) :
    (Action.targetShape name field make).ofFields (.named [(field, .text id)]) = pure (make id) := by
  simp [Json.Shape.ofFields, Shape.take, Action.targetShape, Json.textMember]

def Action.setMembers (target : String) (operation : Option SetOperation) (operand : Option Value) :
    List (String × Json) :=
  [("variableId", .text target)] ++ optionalMember "operation" (operation.map (.text ·.name)) ++
    optionalMember "value" (operand.map Value.toJson)

theorem set_members_untagged (target : String) (operation : Option SetOperation) (operand : Option Value) :
    ∀ member ∈ Action.setMembers target operation operand, member.1 ≠ "type" := by
  cases operation <;> cases operand <;> simp [Action.setMembers, optionalMember]

theorem set_document_read (target : String) (operation : Option SetOperation) (operand : Option Value)
    (levels : Nat) :
    Action.read
        ⟨(Json.object (("type", .text "setVariable") ::
          Action.setMembers target operation operand)).outline, levels⟩ =
      Json.opened levels fun inner => do
        let operand ← readOptional operand inner
        return .setVariable target (operation.getD .assign) operand := by
  rw [tagged_read levels _ _ .setVariable rfl (set_members_untagged target operation operand)]
  cases operation <;> cases operand <;>
    simp [Action.setMembers, optionalMember, Action.ofFields, readOptional, readValue, Json.Shape.ofFields,
      Shape.take, Action.setShape, Json.textMember]

theorem action_read (action : Action) (levels : Nat) :
    Action.read ⟨action.toJson.outline, levels⟩ = Json.opened levels fun inner =>
      match action with
      | .setVariable target operation operand => do
          let operand ← readOptional operand inner
          return .setVariable target operation operand
      | other => pure other := by
  cases action with
  | navigateToSlide target =>
      rw [Action.toJson, tagged_read levels _ _ .navigateToSlide rfl (by simp)]
      simp [Action.ofFields]
  | showLayer target =>
      rw [Action.toJson, tagged_read levels _ _ .showLayer rfl (by simp)]
      simp [Action.ofFields]
  | hideLayer target =>
      rw [Action.toJson, tagged_read levels _ _ .hideLayer rfl (by simp)]
      simp [Action.ofFields]
  | setVariable target operation operand => exact set_document_read target (some operation) operand levels

theorem float_read_whole (x : Float) (levels : Nat) :
    ((Json.ofFloat x).outline.json levels >>= Json.asFloat) = (Json.ofFloat x).outline.asFloat := by
  by_cases finite : x.isFinite = true
  · rw [Json.of_float_finite x finite]
    show ((Number.reread (.float x finite)).map Json.number >>= Json.asFloat) =
      (Number.reread (.float x finite)).map Number.toFloat
    cases Number.reread (.float x finite) <;> rfl
  · rw [Json.of_float_not_finite x finite]
    rfl

theorem text_fields (content color : String) (fontSize : Json) :
    ObjectKind.textShape.ofFields
        (.named [("text", .text content), ("fontSize", fontSize), ("color", .text color)]) =
      (do let fontSize ← fontSize.asFloat
          return .text content fontSize color) := by
  simp [Json.Shape.ofFields, Shape.take, ObjectKind.textShape, Json.textMember, Json.floatMember]

theorem image_fields (path : String) :
    ObjectKind.imageShape.ofFields (.named [("sourcePath", .text path)]) = pure (.image path) := by
  simp [Json.Shape.ofFields, Shape.take, ObjectKind.imageShape, Json.textMember]

theorem button_fields (label : String) :
    ObjectKind.buttonShape.ofFields (.named [("label", .text label)]) = pure (.button label) := by
  simp [Json.Shape.ofFields, Shape.take, ObjectKind.buttonShape, Json.textMember]

theorem kind_read (kind : ObjectKind) (levels : Nat) :
    ((outlineMembers kind.members).jsons levels >>= ObjectKind.ofMembers) =
      match kind with
      | .text content fontSize color => do
          let fontSize ← (Json.ofFloat fontSize).outline.asFloat
          return .text content fontSize color
      | other => pure other := by
  have tags : ∀ tag name, (name, tag) ∈ ObjectKind.Tag.known →
      ObjectKind.readTag (.text name) = pure tag := by
    intro tag name known
    simp only [ObjectKind.Tag.known, List.mem_cons, Prod.mk.injEq, List.not_mem_nil, or_false] at known
    rcases known with ⟨rfl, rfl⟩ | ⟨rfl, rfl⟩ | ⟨rfl, rfl⟩ <;> rfl
  cases kind with
  | text content fontSize color =>
      have whole := (float_read_whole fontSize levels).symm
      simp [ObjectKind.members, ObjectKind.ofMembers, ObjectKind.tagged, tags .text "text" (by decide),
        text_fields, whole]
  | image path =>
      simp [ObjectKind.members, ObjectKind.ofMembers, ObjectKind.tagged, tags .image "image" (by decide),
        image_fields]
  | button label =>
      simp [ObjectKind.members, ObjectKind.ofMembers, ObjectKind.tagged, tags .button "button" (by decide),
        button_fields]

theorem fill_others (members rest : List (String × Json)) (levels : Nat) (seen : List String)
    (draft : SlideObject.Draft)
    (foreign : ∀ member ∈ members, SlideObject.shape.fields.find? (·.name = member.1) = none) :
    (outlineMembers (members ++ rest)).fill SlideObject.shape levels seen draft = (do
      let others ← (outlineMembers members).jsons levels
      (outlineMembers rest).fill SlideObject.shape levels ((members.map (·.1)).reverse ++ seen)
        { draft with others := draft.others ++ others }) := by
  induction members generalizing seen draft with
  | nil => simp
  | cons member later ih =>
      obtain ⟨name, value⟩ := member
      have unknown := foreign (name, value) List.mem_cons_self
      have taken : SlideObject.shape.take seen name ⟨value.outline, levels⟩ draft = (do
          let value ← value.outline.json levels
          return { draft with others := draft.others ++ [(name, value)] }) := by
        unfold Shape.take
        rw [unknown]
        rfl
      rw [List.cons_append, fill_member, taken, json_member]
      simp [ih _ _ fun member inLater => foreign member (List.mem_cons_of_mem _ inLater)]

theorem kind_foreign (kind : ObjectKind) :
    ∀ member ∈ kind.members, SlideObject.shape.fields.find? (·.name = member.1) = none := by
  cases kind <;> simp [ObjectKind.members, SlideObject.shape, Json.textField, Json.boolField, Json.listField]

def SlideObject.document (id name : String) (position size : Json) (visible : Option Bool)
    (kind : List (String × Json)) (triggers : Option Json) : Json :=
  .object ([("id", .text id), ("name", .text name), ("position", position), ("size", size)] ++
    optionalMember "visible" (visible.map .bool) ++ (kind ++ optionalMember "triggers" triggers))

theorem object_document_read (id name : String) (position size : Json) (visible : Option Bool)
    (kind : List (String × Json)) (triggers : Option Json) (levels : Nat)
    (foreign : ∀ member ∈ kind, SlideObject.shape.fields.find? (·.name = member.1) = none) :
    SlideObject.shape.readNamed
        ⟨(SlideObject.document id name position size visible kind triggers).outline, levels⟩ =
      Json.opened levels fun inner => do
        let position ← Point.shape.read ⟨position.outline, inner⟩
        let size ← Size.shape.read ⟨size.outline, inner⟩
        let members ← (outlineMembers kind).jsons inner
        let triggers ← readListOr Trigger.shape.read triggers inner
        let kind ← ObjectKind.ofMembers members
        return { id, name, position, size, visible := visible.getD true, kind, triggers } := by
  rw [SlideObject.document, read_named_object]
  congr 1
  funext inner
  have fresh : "triggers" ∉ kind.map (·.1) := by
    intro member
    obtain ⟨entry, inKind, same⟩ := List.mem_map.mp member
    have unknown := foreign entry inKind
    rw [same] at unknown
    simp [SlideObject.shape, Json.textField, Json.boolField, Json.listField] at unknown
  cases visible <;> cases triggers <;>
    simp only [optionalMember, Option.map_some, Option.map_none, List.cons_append, List.nil_append,
      fill_member, fill_end, fill_others _ _ _ _ _ foreign] <;>
    simp [Shape.take, SlideObject.shape, Json.textField, Json.boolField, Json.listField, fresh, readListOr,
      readList]

theorem object_document (object : SlideObject) :
    object.toJson = SlideObject.document object.id object.name object.position.toJson object.size.toJson
      (some object.visible) object.kind.members
      (some (.list (object.triggers.map Trigger.toJson))) := rfl

theorem object_read (object : SlideObject) (levels : Nat) :
    SlideObject.shape.readNamed ⟨object.toJson.outline, levels⟩ = Json.opened levels fun inner => do
      let position ← Point.shape.read ⟨object.position.toJson.outline, inner⟩
      let size ← Size.shape.read ⟨object.size.toJson.outline, inner⟩
      let members ← (outlineMembers object.kind.members).jsons inner
      let triggers ←
        readList Trigger.shape.read ⟨(Json.list (object.triggers.map Trigger.toJson)).outline, inner⟩
      let kind ← ObjectKind.ofMembers members
      return { object with position, size, kind, triggers } := by
  rw [object_document, object_document_read _ _ _ _ _ _ _ _ (kind_foreign object.kind)]
  rfl

end Slideshow
