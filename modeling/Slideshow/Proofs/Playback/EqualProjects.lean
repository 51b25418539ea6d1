import Slideshow.Project.Build
import Slideshow.Proofs.Playback.Lockstep

set_option autoImplicit false

namespace Slideshow

def Value.Agrees (left right : Value) : Prop :=
  (left == right) = true ∨
    ∃ x y : Float, left = .float x ∧ right = .float y ∧ x.isNaN = true ∧ y.isNaN = true

namespace Player

structure LooksLike (left right : Player) : Prop where
  slide : left.currentSlideId? = right.currentSlideId?
  layers : ∀ id, left.layers.isVisible? id = right.layers.isVisible? id
  values : ∀ id, Option.Rel (Option.Rel Value.Agrees) (left.store.values.get? id)
    (right.store.values.get? id)
  faults : left.faults.toList.map Fault.toJson = right.faults.toList.map Fault.toJson

def AnswersLike : Except Failure Response → Except Failure Response → Prop
  | .error failure, .error other => failure = other
  | .ok response, .ok other => response.reply.Alike other.reply
  | _, _ => False

theorem linked_looks_like (left right : Player) (linked : left.Linked right) : left.LooksLike right where
  slide := by
    unfold currentSlideId?
    rw [linked.current]
    rcases related_cases linked.project with ⟨atLeft, atRight⟩ | ⟨p, q, atLeft, atRight, corresponds⟩
    · rw [atLeft, atRight]
    · rw [atLeft, atRight]
      cases right.current with
      | none => rfl
      | some index =>
          have slides := related_at corresponds.slides index
          simp only [bind, Option.bind]
          generalize p.slides[index]? = a, q.slides[index]? = b at slides
          cases slides with
          | none => rfl
          | some same => simp only [same.id]
  layers id := by rw [linked.layers]
  values id := related_imp (linked.store id) fun _ _ values =>
    related_imp values fun a b twin => Value.twin_alike a b twin
  faults := linked.faults

theorem answers_like (left right : Except Failure Response) (answers : Answers left right) :
    AnswersLike left right := by
  cases answers with
  | refused failure => rfl
  | answered _ _ reply => exact reply

end Player

def Project.session (project : Project) (options : Options) (commands : List Command) : Player :=
  ((Player.start options).loadUnchecked project).1.run commands

def Project.PlaysLike (left right : Project) : Prop :=
  ∀ (options : Options) (commands : List Command),
    (left.session options commands).LooksLike (right.session options commands) ∧
      ∀ command, Player.AnswersLike ((left.session options commands).respond command)
        ((right.session options commands).respond command)

theorem corresponding_play_alike (left right : Project) (corresponds : left.Corresponds right) :
    left.PlaysLike right := by
  intro options commands
  have linked : (left.session options commands).Linked (right.session options commands) :=
    Player.run_linked (Player.load_linked (Player.start_linked options) corresponds) commands
  exact ⟨Player.linked_looks_like _ _ linked, fun command =>
    Player.answers_like _ _ (Player.respond_linked linked command)⟩

def addition (operand : Value) : Project :=
  let button := (SlideObject.button "button" "Add").withTrigger
    ((Trigger.start "trigger" .onTimelineStart).add "total" operand)
  ((Project.start "addition" "Addition").withSlide
    ((Slide.start "slide").withLayer ((Layer.start "layer").withObject button))).withVariable
    (.start "total" .number (some (.int32 1)))

theorem addition_beq (a b : Value) (same : (a == b) = true) : (addition a == addition b) = true := by
  have number : ∀ x : Float, x.isFinite = true → (x == x) = true := finite_beq_self
  refine (project_beq_iff _ _).mpr ⟨rfl, rfl, .cons ?_ .nil, .cons ?_ .nil⟩
  · refine (slide_beq_iff _ _).mpr ⟨rfl, rfl, number 1280 rfl, number 720 rfl, .cons ?_ .nil⟩
    refine (layer_beq_iff _ _).mpr ⟨rfl, rfl, rfl, .cons ?_ .nil⟩
    have corner := (point_beq_iff ⟨0, 0⟩ ⟨0, 0⟩).mpr ⟨number 0 rfl, number 0 rfl⟩
    have extent := (size_beq_iff ⟨100, 40⟩ ⟨100, 40⟩).mpr ⟨number 100 rfl, number 40 rfl⟩
    refine (object_beq_iff _ _).mpr ⟨rfl, rfl, corner, extent, rfl, rfl, .cons ?_ .nil⟩
    exact (trigger_beq_iff _ _).mpr ⟨rfl, rfl, rfl, .cons same .nil⟩
  · exact (variable_beq_iff _ _).mpr ⟨rfl, rfl, rfl, .some rfl⟩

theorem operand_of_addition (operand : Value) (ref : TriggerRef) (i : Nat) (found : Value)
    (there : (addition operand).operand? ref i = some found) : found = operand := by
  unfold Project.operand? TriggerRef.resolve at there
  simp only [bind, Option.bind_eq_some_iff] at there
  obtain ⟨trigger, ⟨slide, slideThere, layer, layerThere, object, objectThere, triggerThere⟩, action,
    actionThere, given⟩ := there
  cases List.mem_singleton.mp (List.mem_of_getElem? slideThere)
  cases List.mem_singleton.mp (List.mem_of_getElem? layerThere)
  cases List.mem_singleton.mp (List.mem_of_getElem? objectThere)
  cases List.mem_singleton.mp (List.mem_of_getElem? triggerThere)
  cases List.mem_singleton.mp (List.mem_of_getElem? actionThere)
  exact (Option.some.inj given).symm

def beforeAddition (operand : Value) : Player :=
  { options := ⟨false, 2⟩
    project := some (addition operand)
    phase := .navigating "slide"
    current := some 0
    store := .seed (addition operand)
    layers := ⟨.ofList [("layer", true)]⟩
    queue := ⟨[.settle 0], []⟩ }

theorem addition_session (operand : Value) :
    (addition operand).session ⟨false, 2⟩ [] =
      ((((beforeAddition operand).setVariable "trigger" "total" .add (some operand)).1.work
        (addition operand) 1).1.dropWork.1).arrive := rfl

theorem addition_faults (operand : Value) :
    ((addition operand).session ⟨false, 2⟩ []).faults.toList =
      match Value.add? (.int32 1) operand with
      | some _ => []
      | none => [.typeMismatch "trigger" "total" (.notNumbers .add (.int32 1) operand)] := by
  have total : VariableStore.entry? (beforeAddition operand).store "total" = some (some (.int32 1)) := rfl
  rw [addition_session]
  cases sum : Value.add? (.int32 1) operand with
  | none =>
      simp only [Player.setVariable, total, SetOperation.apply, SetOperation.combine, sum]
      rfl
  | some result =>
      simp only [Player.setVariable, total, SetOperation.apply, SetOperation.combine, sum]
      rfl

theorem type_name_of_sum (a b c : Value) (sum : a.add? b = some c) : b.typeName = "number" := by
  cases b with
  | int32 | int64 | float => rfl
  | _ =>
      unfold Value.add? Value.combine? at sum
      cases a <;> cases sum

theorem message_of_record (trigger target : String) (cause other : Mismatch)
    (same : (Fault.typeMismatch trigger target cause).toJson =
      (Fault.typeMismatch trigger target other).toJson) : cause.message = other.message := by
  injection same with members
  injection members with _ members
  injection members with _ members
  injection members with _ members
  injection members with member
  injection member with _ text
  injection text

theorem type_name_of_message (operation : SetOperation) (current a b : Value)
    (same : (Mismatch.notNumbers operation current a).message =
      (Mismatch.notNumbers operation current b).message) : a.typeName = b.typeName :=
  (String.append_right_inj
    ("cannot apply " ++ operation.title ++ " to " ++ current.typeName ++ " and ")).mp same

theorem type_names_of_additions (a b : Value) (alike : (addition a).PlaysLike (addition b)) :
    a.typeName = b.typeName := by
  have faults := (alike ⟨false, 2⟩ []).1.faults
  rw [addition_faults, addition_faults] at faults
  cases left : Value.add? (.int32 1) a with
  | some sum =>
      cases right : Value.add? (.int32 1) b with
      | some other => rw [type_name_of_sum _ a sum left, type_name_of_sum _ b other right]
      | none =>
          rw [left, right] at faults
          cases faults
  | none =>
      cases right : Value.add? (.int32 1) b with
      | some other =>
          rw [left, right] at faults
          cases faults
      | none =>
          rw [left, right] at faults
          exact type_name_of_message _ _ a b (message_of_record _ _ _ _ (List.cons.inj faults).1)

/-- Equal projects play alike exactly as far as what they add and subtract has types of the same
name: whatever relation is known of each two operands, it has to imply that. -/
theorem equal_projects_play_alike_iff (R : Value → Value → Prop) :
    (∀ left right : Project, (left == right) = true → left.OperandsIn R right → left.PlaysLike right) ↔
      ∀ a b : Value, (a == b) = true → R a b → a.typeName = b.typeName := by
  constructor
  -- An operand of another type shows in the message of the fault.
  · intro alike a b same related
    apply type_names_of_additions
    apply alike _ _ (addition_beq a b same)
    intro ref i x y atLeft atRight
    rw [operand_of_addition a ref i x atLeft, operand_of_addition b ref i y atRight]
    exact related
  -- Otherwise the players stay linked through every command.
  · intro types left right same operands
    apply corresponding_play_alike
    apply project_of_beq left right same
    intro ref i a b atLeft atRight equal
    exact types a b equal (operands ref i a b atLeft atRight)

theorem number_as_node_plays_differently :
    (addition (.structured (.ofJson (.ofNat 5))) == addition (.int32 5)) = true ∧
      ¬ (addition (.structured (.ofJson (.ofNat 5)))).PlaysLike (addition (.int32 5)) := by
  refine ⟨addition_beq _ _ (by decide +kernel), fun alike => ?_⟩
  exact absurd (type_names_of_additions _ _ alike) (by decide)

end Slideshow
