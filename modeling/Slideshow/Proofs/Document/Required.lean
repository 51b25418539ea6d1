import Slideshow.Failure
import Slideshow.Proofs.Document.Omitted
import Slideshow.Proofs.Document.Restored

set_option autoImplicit false

namespace Slideshow

open Json (Place ReadError Shape Source outlineMembers)

-- What a record is when one of its members is left out: the member of a name, of the record at a path
-- below it. The members that a record must have are not among these.
def Action.byDefault (name : String) : List PathStep → Action → Action
  | [], .setVariable target operation operand =>
      match name with
      | "operation" => .setVariable target .assign operand
      | "value" => .setVariable target operation none
      | _ => .setVariable target operation operand
  | _, action => action

def Trigger.byDefault (name : String) : List PathStep → Trigger → Trigger
  | [], trigger =>
      match name with
      | "objectId" => { trigger with target := none }
      | "actions" => { trigger with actions := [] }
      | _ => trigger
  | .member "actions" :: rest, trigger =>
      { trigger with actions := listByDefault Action.byDefault name rest trigger.actions }
  | _, trigger => trigger

def SlideObject.byDefault (name : String) : List PathStep → SlideObject → SlideObject
  | [], object =>
      match name with
      | "visible" => { object with visible := true }
      | "triggers" => { object with triggers := [] }
      | _ => object
  | .member "triggers" :: rest, object =>
      { object with triggers := listByDefault Trigger.byDefault name rest object.triggers }
  | _, object => object

def Layer.byDefault (name : String) : List PathStep → Layer → Layer
  | [], layer =>
      match name with
      | "visible" => { layer with visible := true }
      | "objects" => { layer with objects := [] }
      | _ => layer
  | .member "objects" :: rest, layer =>
      { layer with objects := listByDefault SlideObject.byDefault name rest layer.objects }
  | _, layer => layer

def Slide.byDefault (name : String) : List PathStep → Slide → Slide
  | [], slide =>
      match name with
      | "layers" => { slide with layers := [] }
      | _ => slide
  | .member "layers" :: rest, slide =>
      { slide with layers := listByDefault Layer.byDefault name rest slide.layers }
  | _, slide => slide

def Variable.byDefault (name : String) : List PathStep → Variable → Variable
  | [], v =>
      match name with
      | "value" => { v with value := none }
      | _ => v
  | _, v => v

def Project.byDefault (name : String) : List PathStep → Project → Project
  | .member "slides" :: rest, project =>
      { project with slides := listByDefault Slide.byDefault name rest project.slides }
  | .member "variables" :: rest, project =>
      { project with declarations := listByDefault Variable.byDefault name rest project.declarations }
  | _, project => project

section Records

theorem scalars_enforce {δ α : Type} {shape : Shape Place δ α} (toJson : α → Json)
    (members : α → List (String × Json)) (written : ∀ a, toJson a = .object (members a))
    (scalar : ∀ a, ∀ member ∈ members a, member.2.isScalar = true)
    (needed : ∀ a, ∀ member ∈ members a, member.1 ∉ optionalNames ∧ ∃ lacking, Needs shape member.1 lacking) :
    Enforces toJson (fun _ _ a => a) shape.read := by
  intro a path name has _ levels
  rw [written] at has ⊢
  cases path with
  | nil =>
      obtain ⟨member, own, rfl⟩ := List.mem_map.mp (Json.has_member_here _ name has)
      obtain ⟨required, lacking, needs⟩ := needed a member own
      exact verdict_missing needs required _ levels _ _
  | cons step rest =>
      obtain ⟨field, value, rfl, member, composite, _⟩ := Json.has_member_below _ step rest name has
      rw [scalar a _ member] at composite
      cases composite

theorem point_enforces : Enforces Point.toJson (fun _ _ point => point) Point.shape.read := by
  refine scalars_enforce _ (fun point => [("x", .ofFloat point.x), ("y", .ofFloat point.y)])
    (fun _ => rfl) ?_ ?_
  · simp [Json.float_scalar]
  · intro point
    simp only [List.forall_mem_cons, List.not_mem_nil, false_implies, implies_true, and_true]
    exact ⟨⟨by decide, _, point_needs.1⟩, by decide, _, point_needs.2⟩

theorem size_enforces : Enforces Size.toJson (fun _ _ size => size) Size.shape.read := by
  refine scalars_enforce _ (fun size => [("width", .ofFloat size.width), ("height", .ofFloat size.height)])
    (fun _ => rfl) ?_ ?_
  · simp [Json.float_scalar]
  · intro size
    simp only [List.forall_mem_cons, List.not_mem_nil, false_implies, implies_true, and_true]
    exact ⟨⟨by decide, _, size_needs.1⟩, by decide, _, size_needs.2⟩

theorem untyped_fails (members : List (String × Json)) (levels : Nat) :
    Fails (Action.read ⟨((Json.object members).without "type" []).outline, levels⟩) :=
  fails_opened fun inner =>
    fails_first (untyped_action_fails _ inner (filtered_absent members "type"))

theorem incomplete_action_fails {δ : Type} {shape : Shape Json δ Action} {lacking : δ → Prop}
    (tag : Action.Tag) (title name : String) (needs : Needs shape name lacking) (different : "type" ≠ name)
    (known : Json.variant Action.Tag.known title = pure tag)
    (fields : Action.ofFields tag = shape.ofFields) (members : List (String × Json)) (levels : Nat)
    (untyped : ∀ member ∈ members, member.1 ≠ "type") :
    Fails (Action.read
      ⟨((Json.object (("type", .text title) :: members)).without name []).outline, levels⟩) := by
  have cut : (Json.object (("type", .text title) :: members)).without name [] =
      .object (("type", .text title) :: members.filter (·.1 ≠ name)) := by
    simp [Json.without, different]
  rw [cut, tagged_read levels title _ tag known fun member kept => untyped member (List.mem_of_mem_filter kept)]
  refine fails_opened fun inner action done => ?_
  obtain ⟨read, inside, finished⟩ := (Json.bind_ok_iff _ _ _).mp done
  rw [fields] at finished
  have absent := filtered_absent members name
  rw [← jsons_names _ read inner inside] at absent
  exact of_fields_lacks needs read absent action finished

theorem mem_optional_iff (name : String) (given : Option Json) (field : String) (value : Json) :
    (field, value) ∈ optionalMember name given ↔ field = name ∧ given = some value := by
  cases given <;> simp [optionalMember, eq_comm]

theorem set_action_document (target : String) (operation : SetOperation) (operand : Option Value) :
    (Action.setVariable target operation operand).toJson =
      .object (("type", .text "setVariable") :: Action.setMembers target (some operation) operand) := rfl

theorem set_member_cases (target : String) (operation : SetOperation) (operand : Option Value)
    (name : String) (member : name ∈ (Action.setMembers target (some operation) operand).map (·.1)) :
    name = "variableId" ∨ name = "operation" ∨ name = "value" ∧
      (Json.object (("type", .text "setVariable") ::
          Action.setMembers target (some operation) operand)).without name [] =
        .object (("type", .text "setVariable") :: Action.setMembers target (some operation) none) := by
  cases operand with
  | none =>
      simp only [Action.setMembers, optionalMember, Option.map_some, Option.map_none, List.append_nil,
        List.cons_append, List.nil_append, List.map_cons, List.map_nil, List.mem_cons, List.not_mem_nil,
        or_false] at member
      exact member.imp_right .inl
  | some value =>
      simp only [Action.setMembers, optionalMember, Option.map_some, List.cons_append, List.nil_append,
        List.map_cons, List.map_nil, List.mem_cons, List.not_mem_nil, or_false] at member
      rcases member with same | same | rfl
      · exact .inl same
      · exact .inr (.inl same)
      · exact .inr (.inr ⟨rfl, rfl⟩)

theorem set_composite_member (target : String) (operation : SetOperation) (operand : Option Value)
    (field : String) (value : Json)
    (member : (field, value) ∈
      ("type", .text "setVariable") :: Action.setMembers target (some operation) operand)
    (composite : value.isScalar = false) : field = "value" := by
  simp only [Action.setMembers, List.mem_cons, List.mem_append, List.not_mem_nil, or_false, Prod.mk.injEq,
    mem_optional_iff, Option.map_some, Option.some.injEq] at member
  rcases member with ⟨_, rfl⟩ | (⟨_, rfl⟩ | ⟨_, rfl⟩) | ⟨same, _⟩
  · cases composite
  · cases composite
  · cases composite
  · exact same

theorem set_action_enforces (target : String) (operation : SetOperation) (operand : Option Value)
    (path : List PathStep) (name : String)
    (has : (Action.setVariable target operation operand).toJson.HasMember path name)
    (plain : .member "value" ∉ path) (levels : Nat) :
    Verdict name (Action.byDefault name path)
      (Action.read ⟨(Action.setVariable target operation operand).toJson.outline, levels⟩)
      (Action.read
        ⟨((Action.setVariable target operation operand).toJson.without name path).outline, levels⟩) := by
  have untyped := set_members_untagged target (some operation) operand
  rw [set_action_document] at has ⊢
  cases path with
  | nil =>
      have member := Json.has_member_here _ name has
      rw [List.map_cons, List.mem_cons] at member
      rcases member with rfl | member
      · exact verdict_required (by decide) (untyped_fails _ levels)
      rcases set_member_cases target operation operand name member with rfl | rfl | ⟨rfl, cut⟩
      · exact verdict_required (by decide)
          (incomplete_action_fails .setVariable "setVariable" _ set_needs (by decide) rfl rfl _ levels untyped)
      · have cut : (Json.object (("type", .text "setVariable") ::
            Action.setMembers target (some operation) operand)).without "operation" [] =
            .object (("type", .text "setVariable") :: Action.setMembers target none operand) := by
          cases operand <;> rfl
        rw [cut, set_document_read, set_document_read]
        refine verdict_optional (by decide) (lowers_opened fun inner => ?_)
        exact lowers_then fun operand => lowers_pure _ _
      · rw [cut, set_document_read, set_document_read]
        refine verdict_optional (by decide) (lowers_opened fun inner => ?_)
        exact lowers_bind (lowers_constant none _) fun operand => lowers_pure _ _
  | cons step rest =>
      obtain ⟨field, value, rfl, member, composite, _⟩ := Json.has_member_below _ step rest name has
      have opaqueValue := set_composite_member target operation operand field value member composite
      rw [opaqueValue] at plain
      exact absurd List.mem_cons_self plain

theorem target_action_verdict (tag : Action.Tag) (title shape field : String) (make : String → Action)
    (known : Json.variant Action.Tag.known title = pure tag)
    (fields : Action.ofFields tag = (Action.targetShape shape field make).ofFields)
    (required : field ∉ optionalNames) (different : "type" ≠ field) (id : String) (path : List PathStep)
    (name : String) (has : (Json.object [("type", .text title), (field, .text id)]).HasMember path name)
    (levels : Nat) (change : Action → Action) (whole : Except ReadError Action) :
    Verdict name change whole
      (Action.read
        ⟨((Json.object [("type", .text title), (field, .text id)]).without name path).outline, levels⟩) := by
  cases path with
  | nil =>
      have member := Json.has_member_here _ name has
      simp only [List.map_cons, List.map_nil, List.mem_cons, List.not_mem_nil, or_false] at member
      rcases member with rfl | rfl
      · exact verdict_required (by decide) (untyped_fails _ levels)
      · exact verdict_required required
          (incomplete_action_fails tag title _ (target_needs shape _ make) different known fields _ levels
            (by simpa using Ne.symm different))
  | cons step rest =>
      obtain ⟨other, value, rfl, member, composite, _⟩ := Json.has_member_below _ step rest name has
      simp only [List.mem_cons, List.not_mem_nil, or_false, Prod.mk.injEq] at member
      rcases member with ⟨_, rfl⟩ | ⟨_, rfl⟩ <;> cases composite

theorem action_enforces : Enforces Action.toJson Action.byDefault Action.read := by
  intro action path name has plain levels
  cases action with
  | navigateToSlide target =>
      exact target_action_verdict .navigateToSlide "navigateToSlide" _ "targetSlideId" _ rfl rfl (by decide)
        (by decide) target path name has levels _ _
  | showLayer target =>
      exact target_action_verdict .showLayer "showLayer" _ "layerId" _ rfl rfl (by decide) (by decide) target
        path name has levels _ _
  | hideLayer target =>
      exact target_action_verdict .hideLayer "hideLayer" _ "layerId" _ rfl rfl (by decide) (by decide) target
        path name has levels _ _
  | setVariable target operation operand =>
      exact set_action_enforces target operation operand path name has plain levels

theorem trigger_enforces : Enforces Trigger.toJson Trigger.byDefault Trigger.shape.read := by
  intro trigger path name has plain levels
  obtain ⟨id, event, target, actions⟩ := trigger
  cases path with
  | nil =>
      have member := Json.has_member_here _ name has
      simp only [List.map_append, List.mem_append, List.map_cons, List.map_nil, List.mem_cons,
        List.not_mem_nil, or_false] at member
      rcases member with ((rfl | rfl) | optional) | rfl
      · exact verdict_missing trigger_needs.1 (by decide) _ levels _ _
      · exact verdict_missing trigger_needs.2 (by decide) _ levels _ _
      · cases target with
        | none => cases optional
        | some target =>
            obtain rfl : name = "objectId" := by simpa [optionalMember] using optional
            have cut : (Trigger.toJson ⟨id, event, some target, actions⟩).without "objectId" [] =
                Trigger.document id event none (some (.list (actions.map Action.toJson))) := rfl
            rw [cut, trigger_document, trigger_document_read, trigger_document_read]
            refine verdict_optional (by decide) (lowers_opened fun inner => ?_)
            exact lowers_then fun actions => lowers_pure _ _
      · have cut : (Trigger.toJson ⟨id, event, target, actions⟩).without "actions" [] =
            Trigger.document id event target none := by cases target <;> rfl
        rw [cut, trigger_document, trigger_document_read, trigger_document_read]
        refine verdict_optional (by decide) (lowers_opened fun inner => ?_)
        exact lowers_bind (lowers_constant [] _) fun actions => lowers_pure _ _
  | cons step rest =>
      obtain ⟨field, value, rfl, member, composite, inside⟩ := Json.has_member_below _ step rest name has
      simp only [List.mem_append, List.mem_cons, List.not_mem_nil, or_false, Prod.mk.injEq,
        mem_optional_iff, Option.map_eq_some_iff] at member
      rcases member with ((⟨_, rfl⟩ | ⟨_, rfl⟩) | ⟨_, target, _, rfl⟩) | ⟨rfl, rfl⟩
      · cases composite
      · cases composite
      · cases composite
      · have cut : (Trigger.toJson ⟨id, event, target, actions⟩).without name (.member "actions" :: rest) =
            Trigger.document id event target
              (some ((Json.list (actions.map Action.toJson)).without name rest)) := by cases target <;> rfl
        have below : .member "value" ∉ rest := fun member => plain (List.mem_cons_of_mem _ member)
        rw [cut, trigger_document, trigger_document_read, trigger_document_read]
        refine verdict_opened fun inner => ?_
        refine verdict_bind
          (list_enforces _ _ _ action_enforces actions rest name inside below inner) fun actions => ?_
        exact lowers_pure _ _

theorem kind_scalar (kind : ObjectKind) : ∀ member ∈ kind.members, member.2.isScalar = true := by
  cases kind with
  | text content fontSize color =>
      simp only [ObjectKind.members, List.forall_mem_cons, List.not_mem_nil, false_implies, implies_true,
        and_true]
      exact ⟨rfl, rfl, Json.float_scalar fontSize, rfl⟩
  | image | button => simp [ObjectKind.members, Json.isScalar]

theorem kind_required (kind : ObjectKind) : ∀ name ∈ kind.members.map (·.1), name ∉ optionalNames := by
  cases kind <;> simp [ObjectKind.members, optionalNames]

theorem kind_member_cut (object : SlideObject) (name : String)
    (own : name ∈ object.kind.members.map (·.1)) :
    object.toJson.without name [] = SlideObject.document object.id object.name object.position.toJson
      object.size.toJson (some object.visible) (object.kind.members.filter (·.1 ≠ name))
      (some (.list (object.triggers.map Trigger.toJson))) := by
  obtain ⟨id, title, position, size, visible, kind, triggers⟩ := object
  cases kind with
  | text =>
      simp only [ObjectKind.members, List.map_cons, List.map_nil, List.mem_cons, List.not_mem_nil,
        or_false] at own
      rcases own with rfl | rfl | rfl | rfl <;> rfl
  | image | button =>
      simp only [ObjectKind.members, List.map_cons, List.map_nil, List.mem_cons, List.not_mem_nil,
        or_false] at own
      rcases own with rfl | rfl <;> rfl

theorem incomplete_object_fails (object : SlideObject) (name : String)
    (own : name ∈ object.kind.members.map (·.1)) (levels : Nat) :
    Fails (SlideObject.shape.readNamed ⟨(object.toJson.without name []).outline, levels⟩) := by
  have foreign := kind_foreign object.kind
  rw [kind_member_cut object name own, object_document_read _ _ _ _ _ _ _ _ fun member kept =>
    foreign member (List.mem_of_mem_filter kept)]
  refine fails_opened fun inner => fails_then fun position => fails_then fun size => ?_
  intro result known
  obtain ⟨members, done, later⟩ := (Json.bind_ok_iff _ _ _).mp known
  have fails := kind_incomplete object.kind name own inner members done
  exact fails_then (fun triggers => fails_first fails) result later

def SlideObject.recast (object : SlideObject) (position size : Json) (visible : Option Bool)
    (triggers : Option Json) : Json :=
  SlideObject.document object.id object.name position size visible object.kind.members triggers

theorem object_recast (object : SlideObject) :
    object.toJson = object.recast object.position.toJson object.size.toJson (some object.visible)
      (some (.list (object.triggers.map Trigger.toJson))) := rfl

theorem recast_read (object : SlideObject) (position size : Json) (visible : Option Bool)
    (triggers : Option Json) (levels : Nat) :
    SlideObject.shape.readNamed ⟨(object.recast position size visible triggers).outline, levels⟩ =
      Json.opened levels fun inner => do
        let position ← Point.shape.read ⟨position.outline, inner⟩
        let size ← Size.shape.read ⟨size.outline, inner⟩
        let members ← (outlineMembers object.kind.members).jsons inner
        let triggers ← readListOr Trigger.shape.read triggers inner
        let kind ← ObjectKind.ofMembers members
        return { object with position, size, visible := visible.getD true, kind, triggers } :=
  object_document_read _ _ _ _ _ _ _ _ (kind_foreign object.kind)

theorem object_without (object : SlideObject) (name : String) (rest : List PathStep) :
    (object.toJson.without "visible" [] =
        object.recast object.position.toJson object.size.toJson none
          (some (.list (object.triggers.map Trigger.toJson)))) ∧
      (object.toJson.without "triggers" [] =
        object.recast object.position.toJson object.size.toJson (some object.visible) none) ∧
      (object.toJson.without name (.member "position" :: rest) =
        object.recast (object.position.toJson.without name rest) object.size.toJson (some object.visible)
          (some (.list (object.triggers.map Trigger.toJson)))) ∧
      (object.toJson.without name (.member "size" :: rest) =
        object.recast object.position.toJson (object.size.toJson.without name rest) (some object.visible)
          (some (.list (object.triggers.map Trigger.toJson)))) ∧
      object.toJson.without name (.member "triggers" :: rest) =
        object.recast object.position.toJson object.size.toJson (some object.visible)
          (some ((Json.list (object.triggers.map Trigger.toJson)).without name rest)) := by
  obtain ⟨_, _, _, _, _, kind, _⟩ := object
  cases kind <;> exact ⟨rfl, rfl, rfl, rfl, rfl⟩

theorem own_object_verdict (object : SlideObject) (name : String) (has : object.toJson.HasMember [] name)
    (levels : Nat) :
    Verdict name (SlideObject.byDefault name [])
      (SlideObject.shape.readNamed ⟨object.toJson.outline, levels⟩)
      (SlideObject.shape.readNamed ⟨(object.toJson.without name []).outline, levels⟩) := by
  have member := Json.has_member_here _ name has
  simp only [List.map_append, List.mem_append, List.map_cons, List.map_nil, List.mem_cons,
    List.not_mem_nil, or_false] at member
  obtain ⟨id, title, position, size⟩ := object_needs
  obtain ⟨invisible, idle, _⟩ := object_without object name []
  rcases member with ((rfl | rfl | rfl | rfl | rfl) | own) | rfl
  · exact verdict_named_missing id (by decide) _ levels _ _
  · exact verdict_named_missing title (by decide) _ levels _ _
  · exact verdict_named_missing position (by decide) _ levels _ _
  · exact verdict_named_missing size (by decide) _ levels _ _
  · rw [invisible, object_recast, recast_read, recast_read]
    refine verdict_optional (by decide) (lowers_opened fun inner => ?_)
    refine lowers_then fun position => lowers_then fun size => ?_
    refine lowers_then fun members => lowers_then fun triggers => ?_
    exact lowers_then fun kind => lowers_pure _ _
  · exact verdict_required (kind_required object.kind name own)
      (incomplete_object_fails object name own levels)
  · rw [idle, object_recast, recast_read, recast_read]
    refine verdict_optional (by decide) (lowers_opened fun inner => ?_)
    refine lowers_then fun position => lowers_then fun size => ?_
    refine lowers_then fun members => ?_
    refine lowers_bind (lowers_constant [] _) fun triggers => ?_
    exact lowers_then fun kind => lowers_pure _ _

theorem object_enforces :
    Enforces SlideObject.toJson SlideObject.byDefault SlideObject.shape.readNamed := by
  intro object path name has plain levels
  cases path with
  | nil => exact own_object_verdict object name has levels
  | cons step rest =>
      obtain ⟨field, value, rfl, member, composite, inside⟩ := Json.has_member_below _ step rest name has
      have below : .member "value" ∉ rest := fun member => plain (List.mem_cons_of_mem _ member)
      obtain ⟨_, _, inPosition, inSize, inTriggers⟩ := object_without object name rest
      simp only [List.mem_append, List.mem_cons, List.not_mem_nil, or_false, Prod.mk.injEq] at member
      rcases member with ((⟨_, rfl⟩ | ⟨_, rfl⟩ | ⟨rfl, rfl⟩ | ⟨rfl, rfl⟩ | ⟨_, rfl⟩) | own) | ⟨rfl, rfl⟩
      · cases composite
      · cases composite
      · rw [inPosition, object_recast, recast_read, recast_read]
        refine verdict_opened fun inner => ?_
        exact verdict_bind
          (point_enforces object.position rest name inside below inner) fun _ _ known => known
      · rw [inSize, object_recast, recast_read, recast_read]
        refine verdict_opened fun inner => verdict_then fun position => ?_
        exact verdict_bind
          (size_enforces object.size rest name inside below inner) fun _ _ known => known
      · cases composite
      · rw [kind_scalar object.kind _ own] at composite
        cases composite
      · rw [inTriggers, object_recast, recast_read, recast_read]
        refine verdict_opened fun inner => verdict_then fun position => ?_
        refine verdict_then fun size => verdict_then fun members => ?_
        refine verdict_bind
          (list_enforces _ _ _ trigger_enforces object.triggers rest name inside below inner)
          fun triggers => ?_
        exact lowers_then fun kind => lowers_pure _ _

theorem layer_enforces : Enforces Layer.toJson Layer.byDefault Layer.shape.read := by
  intro layer path name has plain levels
  cases path with
  | nil =>
      have member := Json.has_member_here _ name has
      simp only [List.map_cons, List.map_nil, List.mem_cons, List.not_mem_nil, or_false] at member
      rcases member with rfl | rfl | rfl | rfl
      · exact verdict_missing layer_needs.1 (by decide) _ levels _ _
      · exact verdict_missing layer_needs.2 (by decide) _ levels _ _
      · have cut : layer.toJson.without "visible" [] = Layer.document layer.id layer.name none
            (some (.list (layer.objects.map SlideObject.toJson))) := rfl
        rw [cut, layer_document, layer_document_read, layer_document_read]
        refine verdict_optional (by decide) (lowers_opened fun inner => ?_)
        exact lowers_then fun objects => lowers_pure _ _
      · have cut : layer.toJson.without "objects" [] =
            Layer.document layer.id layer.name (some layer.visible) none := rfl
        rw [cut, layer_document, layer_document_read, layer_document_read]
        refine verdict_optional (by decide) (lowers_opened fun inner => ?_)
        exact lowers_bind (lowers_constant [] _) fun objects => lowers_pure _ _
  | cons step rest =>
      obtain ⟨field, value, rfl, member, composite, inside⟩ := Json.has_member_below _ step rest name has
      simp only [List.mem_cons, List.not_mem_nil, or_false, Prod.mk.injEq] at member
      rcases member with ⟨rfl, rfl⟩ | ⟨rfl, rfl⟩ | ⟨rfl, rfl⟩ | ⟨rfl, rfl⟩
      · cases composite
      · cases composite
      · cases composite
      · have cut : layer.toJson.without name (.member "objects" :: rest) =
            Layer.document layer.id layer.name (some layer.visible)
              (some ((Json.list (layer.objects.map SlideObject.toJson)).without name rest)) := rfl
        have below : .member "value" ∉ rest := fun member => plain (List.mem_cons_of_mem _ member)
        rw [cut, layer_document, layer_document_read, layer_document_read]
        refine verdict_opened fun inner => ?_
        refine verdict_bind
          (list_enforces _ _ _ object_enforces layer.objects rest name inside below inner) fun objects => ?_
        exact lowers_pure _ _

theorem slide_enforces : Enforces Slide.toJson Slide.byDefault Slide.shape.read := by
  intro slide path name has plain levels
  cases path with
  | nil =>
      have member := Json.has_member_here _ name has
      simp only [List.map_cons, List.map_nil, List.mem_cons, List.not_mem_nil, or_false] at member
      obtain ⟨id, title, width, height⟩ := slide_needs
      rcases member with rfl | rfl | rfl | rfl | rfl
      · exact verdict_missing id (by decide) _ levels _ _
      · exact verdict_missing title (by decide) _ levels _ _
      · exact verdict_missing width (by decide) _ levels _ _
      · exact verdict_missing height (by decide) _ levels _ _
      · have cut : slide.toJson.without "layers" [] =
            Slide.document slide.id slide.title slide.width slide.height none := rfl
        rw [cut, slide_document, slide_document_read, slide_document_read]
        refine verdict_optional (by decide) (lowers_opened fun inner => ?_)
        refine lowers_then fun width => lowers_then fun height => ?_
        exact lowers_bind (lowers_constant [] _) fun layers => lowers_pure _ _
  | cons step rest =>
      obtain ⟨field, value, rfl, member, composite, inside⟩ := Json.has_member_below _ step rest name has
      simp only [List.mem_cons, List.not_mem_nil, or_false, Prod.mk.injEq] at member
      rcases member with ⟨_, rfl⟩ | ⟨_, rfl⟩ | ⟨_, rfl⟩ | ⟨_, rfl⟩ | ⟨rfl, rfl⟩
      · cases composite
      · cases composite
      · simp [Json.float_scalar] at composite
      · simp [Json.float_scalar] at composite
      · have cut : slide.toJson.without name (.member "layers" :: rest) =
            Slide.document slide.id slide.title slide.width slide.height
              (some ((Json.list (slide.layers.map Layer.toJson)).without name rest)) := rfl
        have below : .member "value" ∉ rest := fun member => plain (List.mem_cons_of_mem _ member)
        rw [cut, slide_document, slide_document_read, slide_document_read]
        refine verdict_opened fun inner => ?_
        refine verdict_then fun width => verdict_then fun height => ?_
        refine verdict_bind
          (list_enforces _ _ _ layer_enforces slide.layers rest name inside below inner) fun layers => ?_
        exact lowers_pure _ _

theorem variable_enforces : Enforces Variable.toJson Variable.byDefault Variable.shape.read := by
  intro v path name has plain levels
  obtain ⟨id, title, type, value⟩ := v
  cases path with
  | nil =>
      have member := Json.has_member_here _ name has
      simp only [List.map_append, List.mem_append, List.map_cons, List.map_nil, List.mem_cons,
        List.not_mem_nil, or_false] at member
      rcases member with (rfl | rfl | rfl) | optional
      · exact verdict_missing variable_needs.1 (by decide) _ levels _ _
      · exact verdict_missing variable_needs.2.1 (by decide) _ levels _ _
      · exact verdict_missing variable_needs.2.2 (by decide) _ levels _ _
      · cases value with
        | none => cases optional
        | some value =>
            obtain rfl : name = "value" := by simpa [optionalMember] using optional
            have cut : (Variable.toJson ⟨id, title, type, some value⟩).without "value" [] =
                Variable.toJson ⟨id, title, type, none⟩ := rfl
            rw [cut, variable_read, variable_read]
            refine verdict_optional (by decide) (lowers_opened fun inner => ?_)
            exact lowers_bind (lowers_constant none _) fun value => lowers_pure _ _
  | cons step rest =>
      obtain ⟨field, json, rfl, member, composite, _⟩ := Json.has_member_below _ step rest name has
      simp only [List.mem_append, List.mem_cons, List.not_mem_nil, or_false, Prod.mk.injEq,
        mem_optional_iff] at member
      rcases member with (⟨_, rfl⟩ | ⟨_, rfl⟩ | ⟨_, rfl⟩) | ⟨rfl, _⟩
      · cases composite
      · cases composite
      · cases composite
      · exact absurd List.mem_cons_self plain

theorem project_enforces : Enforces Project.toJson Project.byDefault Project.shape.read := by
  intro project path name has plain levels
  cases path with
  | nil =>
      have member := Json.has_member_here _ name has
      simp only [List.map_cons, List.map_nil, List.mem_cons, List.not_mem_nil, or_false] at member
      obtain ⟨id, title, slides, declarations⟩ := project_needs
      rcases member with rfl | rfl | rfl | rfl
      · exact verdict_missing id (by decide) _ levels _ _
      · exact verdict_missing title (by decide) _ levels _ _
      · exact verdict_missing slides (by decide) _ levels _ _
      · exact verdict_missing declarations (by decide) _ levels _ _
  | cons step rest =>
      obtain ⟨field, value, rfl, member, composite, inside⟩ := Json.has_member_below _ step rest name has
      have below : .member "value" ∉ rest := fun member => plain (List.mem_cons_of_mem _ member)
      simp only [List.mem_cons, List.not_mem_nil, or_false, Prod.mk.injEq] at member
      rcases member with ⟨_, rfl⟩ | ⟨_, rfl⟩ | ⟨rfl, rfl⟩ | ⟨rfl, rfl⟩
      · cases composite
      · cases composite
      · have cut : project.toJson.without name (.member "slides" :: rest) =
            Project.document project.id project.name
              ((Json.list (project.slides.map Slide.toJson)).without name rest)
              (.list (project.declarations.map Variable.toJson)) := rfl
        rw [cut, project_document, project_document_read, project_document_read]
        refine verdict_opened fun inner => ?_
        refine verdict_bind
          (list_enforces _ _ _ slide_enforces project.slides rest name inside below inner) fun slides => ?_
        exact lowers_then fun declarations => lowers_pure _ _
      · have cut : project.toJson.without name (.member "variables" :: rest) =
            Project.document project.id project.name (.list (project.slides.map Slide.toJson))
              ((Json.list (project.declarations.map Variable.toJson)).without name rest) := rfl
        rw [cut, project_document, project_document_read, project_document_read]
        refine verdict_opened fun inner => verdict_then fun slides => ?_
        refine verdict_bind
          (list_enforces _ _ _ variable_enforces project.declarations rest name inside below inner)
          fun declarations => ?_
        exact lowers_pure _ _

end Records

theorem decode_without (project : Project) (path : List PathStep) (name : String) :
    Project.decode (Source.ofString (project.toJson.without name path).write) =
      Project.shape.read ⟨(project.toJson.without name path).outline, Json.levelLimit⟩ :=
  Json.read_whole_written _ _

/-- If the document of a project is read at all, then whatever member of whatever record in it is left
out: either the member is one of those that may be missing, and the same project is read but for the
default of that field, or the document is unreadable. -/
theorem each_member_enforced (project result : Project) (path : List PathStep) (name : String)
    (decoded : Project.decode (Source.ofString project.encode) = .ok result)
    (has : project.toJson.HasMember path name) (plain : .member "value" ∉ path) :
    let read := Project.ofDocument (Source.ofString (project.toJson.without name path).write)
    (name ∈ optionalNames → read = .ok (result.byDefault name path)) ∧
      (name ∉ optionalNames → ∃ cause, read = .error (.unreadable cause)) := by
  have verdict := project_enforces project path name has plain Json.levelLimit
  rw [decode_encode] at decoded
  simp only [Project.ofDocument, decode_without]
  constructor
  · intro optional
    rw [Verdict, if_pos optional] at verdict
    rw [verdict result decoded]
    rfl
  · intro required
    rw [Verdict, if_neg required] at verdict
    cases read : Project.shape.read
        ⟨(project.toJson.without name path).outline, Json.levelLimit⟩ with
    | ok other => exact absurd read (verdict other)
    | error cause => exact ⟨cause, rfl⟩

def sketch : Project :=
  let press := (Trigger.start "press" .onClick).add "strokes" (.int32 1)
  ((Project.start "sketch" "Sketch").withSlide ((Slide.start "page").withLayer
    ((Layer.start "ink").hidden.withObject ((SlideObject.button "pen" "Draw").withTrigger press)))).withVariable
    (.start "strokes" .number (some (.int32 0)))

theorem sketch_members_enforced :
    let ink : List PathStep := [.member "slides", .element 0, .member "layers", .element 0]
    let without := fun name => Project.ofDocument (Source.ofString (sketch.toJson.without name ink).write)
    Project.decode (Source.ofString sketch.encode) = .ok sketch.normalized ∧
      without "visible" = .ok (sketch.normalized.byDefault "visible" ink) ∧
      ∃ cause, without "name" = .error (.unreadable cause) := by
  intro ink without
  have decoded := (decode_encode_normalized_iff sketch).mpr ⟨by decide +kernel, by decide +kernel⟩
  have visible : sketch.toJson.HasMember ink "visible" := ⟨_, rfl, by decide⟩
  have title : sketch.toJson.HasMember ink "name" := ⟨_, rfl, by decide⟩
  refine ⟨decoded, ?_, ?_⟩
  · exact (each_member_enforced sketch _ ink "visible" decoded visible (by decide)).1 (by decide)
  · exact (each_member_enforced sketch _ ink "name" decoded title (by decide)).2 (by decide)

end Slideshow
