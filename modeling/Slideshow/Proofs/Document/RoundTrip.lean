import Slideshow.Project.Build
import Slideshow.Proofs.Document.Kept
import Slideshow.Validation.Validate

set_option autoImplicit false

namespace Slideshow

open Json (ReadsBack Source outlineMembers)

theorem point_faithful : Faithful Point.toJson Point.floats Point.shape.read :=
  point_kept point_beq_iff float_faithful

theorem size_faithful : Faithful Size.toJson Size.floats Size.shape.read :=
  size_kept size_beq_iff float_faithful

theorem action_faithful : Faithful Action.toJson Action.floats Action.read := by
  refine action_kept ?sets ?navigations ?shows ?hides value_faithful
  case sets =>
    intro target operation result operand
    refine Iff.trans ?_ (option_beq_iff result operand)
    simp [BEq.beq, instBEqAction.beq]
  all_goals
    intro target
    simp [BEq.beq, instBEqAction.beq]

theorem trigger_faithful : Faithful Trigger.toJson Trigger.floats Trigger.shape.read :=
  trigger_kept trigger_beq_iff action_faithful

theorem kind_faithful (kind : ObjectKind) (levels : Nat) :
    (Yields ((outlineMembers kind.members).jsons levels) fun members =>
      Yields (ObjectKind.ofMembers members) fun result => Same result kind) ↔
      Json.depthMembers kind.members ≤ levels ∧ ∀ x ∈ kind.floats, ReadsBack x := by
  refine kind_kept ?texts ?images ?buttons float_faithful kind levels
  all_goals
    intros
    simp [Same, BEq.beq, instBEqObjectKind.beq]

theorem object_faithful : Faithful SlideObject.toJson SlideObject.floats SlideObject.shape.readNamed :=
  object_kept object_beq_iff point_faithful size_faithful kind_faithful trigger_faithful

theorem layer_faithful : Faithful Layer.toJson Layer.floats Layer.shape.read :=
  layer_kept layer_beq_iff object_faithful

theorem slide_faithful : Faithful Slide.toJson Slide.floats Slide.shape.read :=
  slide_kept slide_beq_iff float_faithful layer_faithful

theorem variable_faithful : Faithful Variable.toJson Variable.floats Variable.shape.read :=
  variable_kept variable_beq_iff value_faithful

theorem project_faithful : Faithful Project.toJson Project.floats Project.shape.read :=
  project_kept project_beq_iff slide_faithful variable_faithful

theorem decode_encode (project : Project) :
    Project.decode (Source.ofString project.encode) =
      Project.shape.read ⟨project.toJson.outline, Json.levelLimit⟩ :=
  Json.read_whole_written _ _

/-- A project comes back exactly if it is not nested too deep and its floats come back. -/
theorem decode_encode_iff (project : Project) :
    (∃ result, Project.decode (Source.ofString project.encode) = .ok result ∧
      (result == project) = true) ↔
      project.toJson.depth ≤ Json.levelLimit ∧ ∀ x ∈ project.floats, ReadsBack x := by
  rw [decode_encode]
  exact project_faithful project Json.levelLimit

def drift : Project :=
  (Project.start "drift" "Drift").withSlide ((Slide.start "slide").sized 123456789.12345679 720)

theorem valid_project_does_not_come_back :
    drift.diagnostics = [] ∧
      ¬ ∃ result, Project.decode (Source.ofString drift.encode) = .ok result ∧
        (result == drift) = true := by
  -- The document itself is not computed: what it says of the width is enough.
  refine ⟨by decide +kernel, fun back => ?_⟩
  rw [decode_encode] at back
  have floats := ((project_faithful drift Json.levelLimit).mp back).2
  have drifts : ¬ ∀ x ∈ drift.floats, ReadsBack x := by decide +kernel
  exact drifts floats

end Slideshow
