import Slideshow.Proofs.Playback.Firing
import Slideshow.Proofs.ProjectAlike

set_option autoImplicit false

namespace Slideshow

structure SlideObject.Corresponds (left right : SlideObject) : Prop where
  id : left.id = right.id
  atPoint : ∀ point, left.isAt point = right.isAt point
  events : left.triggers.map (·.event) = right.triggers.map (·.event)

structure Layer.Corresponds (left right : Layer) : Prop where
  id : left.id = right.id
  visible : left.visible = right.visible
  objects : List.Forall₂ SlideObject.Corresponds left.objects right.objects

structure Slide.Corresponds (left right : Slide) : Prop where
  id : left.id = right.id
  layers : List.Forall₂ Layer.Corresponds left.layers right.layers

namespace Slide

theorem of_slide_corresponding (left right : Slide) (corresponds : left.Corresponds right) :
    LayerState.ofSlide left = LayerState.ofSlide right := by
  unfold LayerState.ofSlide
  rw [related_map corresponds.layers (fun layer => (layer.id, layer.visible))
    (fun layer => (layer.id, layer.visible)) fun a b same => by rw [same.id, same.visible]]

theorem fires_like_corresponding (left right : Slide) (corresponds : left.Corresponds right) :
    left.FiresLike right :=
  corresponds.layers.imp fun _ _ layers => layers.objects.imp fun _ _ objects => objects.events

theorem locate_corresponding (left right : Slide) (corresponds : left.Corresponds right) (id : String) :
    left.locate? id = right.locate? id := by
  refine related_find_some (related_zip_idx corresponds.layers 0) _ _ fun layer other layers => ?_
  dsimp only
  have ids := related_map layers.1.objects (·.id) (·.id) fun a b same => same.id
  rw [find_idx_map (·.id) (·.id) id layer.1.objects other.1.objects ids, layers.2]

theorem last_indexed_corresponding (left right : List SlideObject)
    (corresponds : List.Forall₂ SlideObject.Corresponds left right) (point : Point) :
    Option.Rel (fun a b => a.1.Corresponds b.1 ∧ a.2 = b.2) (lastIndexed? (·.isAt point) left)
      (lastIndexed? (·.isAt point) right) :=
  related_find (List.rel_reverse (related_zip_idx corresponds 0)) _ _
    fun _ _ same => same.1.atPoint point

theorem hit_among_corresponding (shown shownToo : Layer → Bool) (point : Point)
    (left right : List (Layer × Nat))
    (corresponds : List.Forall₂ (fun a b => a.1.Corresponds b.1 ∧ a.2 = b.2) left right)
    (same : ∀ layer other, layer.Corresponds other → shown layer = shownToo other) :
    Option.Rel (fun a b => a.1 = b.1 ∧ a.2.Corresponds b.2) (hitAmong? shown point left)
      (hitAmong? shownToo point right) := by
  induction corresponds with
  | nil => exact .none
  | @cons layer other rest others head tail ih =>
      obtain ⟨layer, i⟩ := layer
      obtain ⟨other, j⟩ := other
      obtain ⟨layers, rfl⟩ := head
      simp only [hitAmong?, same layer other layers]
      split
      · have hits := last_indexed_corresponding _ _ layers.objects point
        generalize lastIndexed? (·.isAt point) layer.objects = hit,
          lastIndexed? (·.isAt point) other.objects = another at hits
        cases hits with
        | none => exact ih
        | some objects => exact .some ⟨by simp [objects.2], objects.1⟩
      · exact ih

end Slide

-- Addition and subtraction take an operand as it is written, the other operations do not.
def SetOperation.isArithmetic : SetOperation → Bool
  | .add | .subtract => true
  | .assign | .toggle => false

def SetOperation.Takes (operation : SetOperation) (left right : Value) : Prop :=
  left.normalized.Twin right.normalized ∧ (operation.isArithmetic = true → left.Twin right)

inductive Action.Corresponds : Action → Action → Prop where
  | navigateToSlide (target : String) : Corresponds (.navigateToSlide target) (.navigateToSlide target)
  | showLayer (target : String) : Corresponds (.showLayer target) (.showLayer target)
  | hideLayer (target : String) : Corresponds (.hideLayer target) (.hideLayer target)
  | setVariable (target : String) (operation : SetOperation) (left right : Option Value)
      (operands : Option.Rel operation.Takes left right) :
      Corresponds (.setVariable target operation left) (.setVariable target operation right)

structure Trigger.Corresponds (left right : Trigger) : Prop where
  id : left.id = right.id
  actions : List.Forall₂ Action.Corresponds left.actions right.actions

structure Variable.Corresponds (left right : Variable) : Prop where
  id : left.id = right.id
  value : Option.Rel Value.Twin (left.value.map Value.normalized) (right.value.map Value.normalized)

namespace Project

structure Corresponds (left right : Project) : Prop where
  slides : List.Forall₂ Slide.Corresponds left.slides right.slides
  declarations : List.Forall₂ Variable.Corresponds left.declarations right.declarations
  triggers : ∀ ref : TriggerRef, Option.Rel Trigger.Corresponds (ref.resolve left) (ref.resolve right)

variable {left right : Project}

theorem slide_index_corresponding (corresponds : left.Corresponds right) (id : String) :
    left.slideIndex? id = right.slideIndex? id := by
  have ids := related_map corresponds.slides (·.id) (·.id) fun _ _ same => same.id
  exact find_idx_map (·.id) (·.id) id left.slides right.slides ids

theorem clicked_corresponding (corresponds : left.Corresponds right) (index : Nat) (id : String) :
    left.clicked? index id = right.clicked? index id := by
  have slides := related_at corresponds.slides index
  unfold clicked?
  generalize left.slides[index]? = slide, right.slides[index]? = other at slides
  cases slides with
  | none => rfl
  | some same =>
      simp only [bind, Option.bind, Slide.locate_corresponding _ _ same,
        click_triggers_like (Slide.fires_like_corresponding _ _ same)]

theorem pointed_corresponding (corresponds : left.Corresponds right) (index : Nat)
    (shown : Layer → Bool) (shownToo : Layer → Bool) (point : Point)
    (same : ∀ layer other, layer.Corresponds other → shown layer = shownToo other) :
    left.pointed? index shown point = right.pointed? index shownToo point := by
  have slides := related_at corresponds.slides index
  unfold pointed?
  generalize left.slides[index]? = slide, right.slides[index]? = other at slides
  cases slides with
  | none => rfl
  | @some slide other slides =>
      have hits := Slide.hit_among_corresponding shown shownToo point _ _
        (List.rel_reverse (related_zip_idx slides.layers 0)) same
      simp only [bind, Option.bind, Slide.hitTest?]
      generalize Slide.hitAmong? shown point slide.layers.zipIdx.reverse = hit,
        Slide.hitAmong? shownToo point other.layers.zipIdx.reverse = another at hits
      cases hits with
      | none => rfl
      | some objects =>
          simp only [objects.1, objects.2.id, click_triggers_like (Slide.fires_like_corresponding _ _ slides)]

theorem corresponds_refl (project : Project) : project.Corresponds project where
  slides := List.forall₂_same.mpr fun slide _ =>
    ⟨rfl, List.forall₂_same.mpr fun layer _ =>
      ⟨rfl, rfl, List.forall₂_same.mpr fun object _ => ⟨rfl, fun _ => rfl, rfl⟩⟩⟩
  declarations := List.forall₂_same.mpr fun declared _ => by
    refine ⟨rfl, ?_⟩
    cases declared.value with
    | none => exact .none
    | some value => exact .some (Value.twin_refl _)
  triggers ref := by
    cases ref.resolve project with
    | none => exact .none
    | some trigger =>
        refine .some ⟨rfl, List.forall₂_same.mpr fun action _ => ?_⟩
        cases action with
        | navigateToSlide target => exact .navigateToSlide target
        | showLayer target => exact .showLayer target
        | hideLayer target => exact .hideLayer target
        | setVariable target operation operand =>
            refine .setVariable target operation operand operand ?_
            cases operand with
            | none => exact .none
            | some value => exact .some ⟨Value.twin_refl _, fun _ => Value.twin_refl _⟩

end Project

theorem contains_alike (a b : Box) (left : FloatAlike a.left b.left) (top : FloatAlike a.top b.top)
    (right : FloatAlike a.right b.right) (bottom : FloatAlike a.bottom b.bottom) (point : Point) :
    a.contains point = b.contains point := by
  have fromLeft := alike_le _ _ _ _ left (alike_refl point.x)
  have fromTop := alike_le _ _ _ _ top (alike_refl point.y)
  have toRight := alike_lt _ _ _ _ (alike_refl point.x) right
  have toBottom := alike_lt _ _ _ _ (alike_refl point.y) bottom
  rw [Bool.eq_iff_iff]
  simp only [Box.contains, Bool.and_eq_true, decide_eq_true_eq, fromLeft, fromTop, toRight, toBottom]

theorem at_point_of_beq (left right : SlideObject) (position : (left.position == right.position) = true)
    (size : (left.size == right.size) = true) (visible : left.visible = right.visible) (point : Point) :
    left.isAt point = right.isAt point := by
  obtain ⟨x, y⟩ := (point_beq_iff _ _).mp position
  obtain ⟨width, height⟩ := (size_beq_iff _ _).mp size
  have farX := alike_add _ _ _ _ (.inl x) (.inl width)
  have farY := alike_add _ _ _ _ (.inl y) (.inl height)
  have same := contains_alike left.bounds right.bounds (alike_lesser _ _ _ _ (.inl x) farX)
    (alike_lesser _ _ _ _ (.inl y) farY) (alike_greater _ _ _ _ (.inl x) farX)
    (alike_greater _ _ _ _ (.inl y) farY) point
  rw [SlideObject.isAt, SlideObject.isAt, visible, same]

theorem object_of_beq (left right : SlideObject) (same : Same left right) : left.Corresponds right := by
  obtain ⟨id, _, position, size, visible, _, triggers⟩ := (object_beq_iff left right).mp same
  refine ⟨id, at_point_of_beq left right position size visible, ?_⟩
  exact related_map triggers _ _ fun trigger other same => ((trigger_beq_iff trigger other).mp same).2.1

theorem layer_of_beq (left right : Layer) (same : Same left right) : left.Corresponds right := by
  obtain ⟨id, _, visible, objects⟩ := (layer_beq_iff left right).mp same
  exact ⟨id, visible, objects.imp object_of_beq⟩

theorem slide_of_beq (left right : Slide) (same : Same left right) : left.Corresponds right := by
  obtain ⟨id, _, _, _, layers⟩ := (slide_beq_iff left right).mp same
  exact ⟨id, layers.imp layer_of_beq⟩

theorem variable_of_beq (left right : Variable) (same : Same left right) : left.Corresponds right := by
  obtain ⟨id, _, _, value⟩ := (variable_beq_iff left right).mp same
  refine ⟨id, ?_⟩
  generalize left.value = a, right.value = b at value ⊢
  cases value with
  | none => exact .none
  | some same => exact .some (Value.normalized_twin _ _ same)

def Action.operand? : Action → Option Value
  | .setVariable _ operation operand => if operation.isArithmetic then operand else none
  | _ => none

def Project.operand? (project : Project) (ref : TriggerRef) (i : Nat) : Option Value := do
  let trigger ← ref.resolve project
  let action ← trigger.actions[i]?
  action.operand?

def Project.OperandsIn (R : Value → Value → Prop) (left right : Project) : Prop :=
  ∀ (ref : TriggerRef) (i : Nat) (a b : Value), left.operand? ref i = some a →
    right.operand? ref i = some b → R a b

theorem action_of_beq (left right : Action) (same : Same left right)
    (types : ∀ a b, left.operand? = some a → right.operand? = some b → (a == b) = true →
      a.typeName = b.typeName) : left.Corresponds right := by
  cases left <;> cases right <;>
    simp only [Same, BEq.beq, instBEqAction.beq, Bool.and_eq_true, decide_eq_true_eq,
      Bool.false_eq_true] at same
  case navigateToSlide.navigateToSlide =>
    subst same
    exact .navigateToSlide _
  case showLayer.showLayer =>
    subst same
    exact .showLayer _
  case hideLayer.hideLayer =>
    subst same
    exact .hideLayer _
  case setVariable.setVariable target operation operand targetToo operationToo operandToo =>
    obtain ⟨rfl, rfl, operands⟩ := same
    refine .setVariable target operation operand operandToo ?_
    cases (option_beq_iff operand operandToo).mp operands with
    | none => exact .none
    | some equal =>
        refine .some ⟨Value.normalized_twin _ _ equal, fun arithmetic => ?_⟩
        exact Value.twin_of_type_name _ _ equal (types _ _ (if_pos arithmetic) (if_pos arithmetic) equal)

theorem resolve_of_beq (left right : Project) (same : Same left right) (ref : TriggerRef) :
    Option.Rel Same (ref.resolve left) (ref.resolve right) := by
  obtain ⟨_, _, slides, _⟩ := (project_beq_iff left right).mp same
  refine related_bind (related_at slides ref.slide) _ _ fun slide other same => ?_
  obtain ⟨_, _, _, _, layers⟩ := (slide_beq_iff slide other).mp same
  refine related_bind (related_at layers ref.layer) _ _ fun layer other same => ?_
  obtain ⟨_, _, _, objects⟩ := (layer_beq_iff layer other).mp same
  refine related_bind (related_at objects ref.object) _ _ fun object other same => ?_
  obtain ⟨_, _, _, _, _, _, triggers⟩ := (object_beq_iff object other).mp same
  exact related_at triggers ref.trigger

theorem operand_of_resolve (project : Project) (ref : TriggerRef) (trigger : Trigger) (i : Nat)
    (resolved : ref.resolve project = some trigger) (action : Action)
    (there : trigger.actions[i]? = some action) : project.operand? ref i = action.operand? := by
  simp [Project.operand?, resolved, there]

theorem project_of_beq (left right : Project) (same : Same left right)
    (types : left.OperandsIn (fun a b => (a == b) = true → a.typeName = b.typeName) right) :
    left.Corresponds right := by
  obtain ⟨_, _, slides, declarations⟩ := (project_beq_iff left right).mp same
  refine ⟨slides.imp slide_of_beq, declarations.imp variable_of_beq, fun ref => ?_⟩
  rcases related_cases (resolve_of_beq left right same ref) with ⟨atLeft, atRight⟩ |
    ⟨trigger, other, atLeft, atRight, equal⟩
  · rw [atLeft, atRight]
    exact .none
  · obtain ⟨id, _, _, actions⟩ := (trigger_beq_iff trigger other).mp equal
    rw [atLeft, atRight]
    refine .some ⟨id, related_of_at actions fun i action next there thereToo equal => ?_⟩
    apply action_of_beq action next equal
    intro a b left right
    apply types ref i a b
    · rw [operand_of_resolve _ ref trigger i atLeft action there, left]
    · rw [operand_of_resolve _ ref other i atRight next thereToo, right]

end Slideshow
