import Slideshow.Proofs.ValueAlike

set_option autoImplicit false

namespace Slideshow

variable {α : Type}

def Same [BEq α] (a b : α) : Prop := (a == b) = true

theorem list_beq_iff [BEq α] (left right : List α) :
    (left == right) = true ↔ List.Forall₂ Same left right := by
  induction left generalizing right with
  | nil => cases right <;> simp
  | cons head tail ih =>
      cases right with
      | nil => simp
      | cons other rest => simp [ih, Same]

theorem option_beq_iff [BEq α] (left right : Option α) :
    (left == right) = true ↔ Option.Rel Same left right := by
  constructor
  · intro same
    cases left <;> cases right
    · exact .none
    · cases same
    · cases same
    · exact .some same
  · rintro (same | nothing)
    · exact same
    · rfl

theorem point_beq_iff (left right : Point) :
    (left == right) = true ↔ (left.x == right.x) = true ∧ (left.y == right.y) = true :=
  Bool.and_eq_true_iff

theorem size_beq_iff (left right : Size) :
    (left == right) = true ↔
      (left.width == right.width) = true ∧ (left.height == right.height) = true :=
  Bool.and_eq_true_iff

theorem project_beq_iff (left right : Project) :
    (left == right) = true ↔ left.id = right.id ∧ left.name = right.name ∧
      List.Forall₂ Same left.slides right.slides ∧
      List.Forall₂ Same left.declarations right.declarations := by
  rw [← list_beq_iff, ← list_beq_iff]
  simp only [BEq.beq, instBEqProject.beq, Bool.and_eq_true, decide_eq_true_eq]

theorem variable_beq_iff (left right : Variable) :
    (left == right) = true ↔ left.id = right.id ∧ left.name = right.name ∧
      left.type = right.type ∧ Option.Rel Same left.value right.value := by
  rw [← option_beq_iff]
  simp only [BEq.beq, instBEqVariable.beq, Bool.and_eq_true, decide_eq_true_eq]

theorem slide_beq_iff (left right : Slide) :
    (left == right) = true ↔ left.id = right.id ∧ left.title = right.title ∧
      (left.width == right.width) = true ∧ (left.height == right.height) = true ∧
      List.Forall₂ Same left.layers right.layers := by
  rw [← list_beq_iff]
  simp only [BEq.beq, instBEqSlide.beq, Bool.and_eq_true, decide_eq_true_eq]

theorem layer_beq_iff (left right : Layer) :
    (left == right) = true ↔ left.id = right.id ∧ left.name = right.name ∧
      left.visible = right.visible ∧ List.Forall₂ Same left.objects right.objects := by
  rw [← list_beq_iff]
  simp only [BEq.beq, instBEqLayer.beq, Bool.and_eq_true, decide_eq_true_eq]

theorem object_beq_iff (left right : SlideObject) :
    (left == right) = true ↔ left.id = right.id ∧ left.name = right.name ∧
      (left.position == right.position) = true ∧ (left.size == right.size) = true ∧
      left.visible = right.visible ∧ (left.kind == right.kind) = true ∧
      List.Forall₂ Same left.triggers right.triggers := by
  rw [← list_beq_iff]
  simp only [BEq.beq, instBEqSlideObject.beq, Bool.and_eq_true, decide_eq_true_eq]

theorem trigger_beq_iff (left right : Trigger) :
    (left == right) = true ↔ left.id = right.id ∧ left.event = right.event ∧
      left.target = right.target ∧ List.Forall₂ Same left.actions right.actions := by
  rw [← list_beq_iff, ← beq_iff_eq (a := left.target)]
  simp only [BEq.beq, instBEqTrigger.beq, Bool.and_eq_true, decide_eq_true_eq]

end Slideshow
