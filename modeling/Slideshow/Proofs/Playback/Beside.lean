import Slideshow.Proofs.Playback.Outcome
import Mathlib.Data.List.Forall2
import Mathlib.Data.Option.Defs

set_option autoImplicit false

namespace Slideshow

structure TriggerRef.Beside (H : Nat → Nat → Prop) (ref other : TriggerRef) : Prop where
  slide : H ref.slide other.slide
  layer : ref.layer = other.layer
  object : ref.object = other.object
  trigger : ref.trigger = other.trigger

inductive WorkItem.Beside (H : Nat → Nat → Prop) : WorkItem → WorkItem → Prop where
  | fire (ref other : TriggerRef) (same : ref.Beside H other) : Beside H (.fire ref) (.fire other)
  | settle (index other : Nat) (same : H index other) : Beside H (.settle index) (.settle other)

theorem ref_beside_eq (ref other : TriggerRef) : ref.Beside Eq other ↔ ref = other := by
  constructor
  · rintro ⟨slide, layer, object, trigger⟩
    cases ref
    cases other
    cases slide; cases layer; cases object; cases trigger
    rfl
  · rintro rfl
    exact ⟨rfl, rfl, rfl, rfl⟩

theorem item_beside_eq (item other : WorkItem) : item.Beside Eq other ↔ item = other := by
  constructor
  · intro beside
    cases beside with
    | fire ref another same => rw [(ref_beside_eq ref another).mp same]
    | settle index another same => rw [same]
  · rintro rfl
    cases item with
    | fire ref => exact .fire ref ref ((ref_beside_eq ref ref).mpr rfl)
    | settle index => exact .settle index index rfl

namespace Player

-- `H` says which slides of the two projects belong together, `R` relates the players, `A` the
-- actions that they perform at the same time, and `E` what the two report.
structure ActBeside (p q : Project) (H : Nat → Nat → Prop) (A : Action → Action → Prop)
    (R : Player → Player → Prop) (E : List Event → List Event → Prop) : Prop where
  triggers : ∀ ref other : TriggerRef, ref.Beside H other →
    Option.Rel (fun trigger twin => trigger.id = twin.id ∧ List.Forall₂ A trigger.actions twin.actions)
      (ref.resolve p) (other.resolve q)
  silent : E [] []
  append : ∀ early soon late later, E early soon → E late later → E (early ++ late) (soon ++ later)
  act : ∀ (trigger : String) (host place : Nat) (action other : Action) (left right : Player),
    H host place → A action other → R left right →
      R (left.perform p trigger host action).1 (right.perform q trigger place other).1 ∧
        E (left.perform p trigger host action).2 (right.perform q trigger place other).2

structure WorkBeside (p q : Project) (H : Nat → Nat → Prop) (A : Action → Action → Prop)
    (R : Player → Player → Prop) (E : List Event → List Event → Prop) : Prop
    extends ActBeside p q H A R E where
  next : ∀ left right, R left right →
    Option.Rel (fun taken other => taken.1.Beside H other.1 ∧
      R { left with queue := taken.2 } { right with queue := other.2 })
      left.queue.next? right.queue.next?
  settle : ∀ (index other : Nat) (left right : Player), H index other → R left right →
    R (left.settle p index) (right.settle q other)

structure DrainBeside (p q : Project) (H : Nat → Nat → Prop) (A : Action → Action → Prop)
    (R : Player → Player → Prop) (E : List Event → List Event → Prop) : Prop
    extends WorkBeside p q H A R E where
  limit : ∀ left right, R left right → left.options.maxQueueSteps = right.options.maxQueueSteps
  drop : ∀ left right, R left right →
    R left.dropWork.1 right.dropWork.1 ∧ E left.dropWork.2 right.dropWork.2
  arrive : ∀ left right, R left right → R left.arrive right.arrive

def Turn.Beside (H : Nat → Nat → Prop) (E : List Event → List Event → Prop) (turn other : Turn) : Prop :=
  turn.item.Beside H other.item ∧ E turn.events other.events

section Beside

variable {p q : Project} {H : Nat → Nat → Prop} {A : Action → Action → Prop}
variable {R : Player → Player → Prop} {E : List Event → List Event → Prop} {left right : Player}

theorem perform_all_beside (beside : ActBeside p q H A R E) (trigger : String) (host place : Nat)
    (here : H host place) (actions others : List Action) (same : List.Forall₂ A actions others)
    (related : R left right) :
    R (left.performAll p trigger host actions).1 (right.performAll q trigger place others).1 ∧
      E (left.performAll p trigger host actions).2 (right.performAll q trigger place others).2 := by
  induction same generalizing left right with
  | nil => exact ⟨related, beside.silent⟩
  | cons head tail ih =>
      have first := beside.act trigger host place _ _ left right here head related
      have later := ih first.1
      exact ⟨later.1, beside.append _ _ _ _ first.2 later.2⟩

theorem fire_beside (beside : ActBeside p q H A R E) (ref other : TriggerRef) (same : ref.Beside H other)
    (related : R left right) :
    R (left.fire p ref).1 (right.fire q other).1 ∧ E (left.fire p ref).2 (right.fire q other).2 := by
  have triggers := beside.triggers ref other same
  unfold fire
  generalize ref.resolve p = trigger, other.resolve q = twin at triggers
  cases triggers with
  | none => exact ⟨related, beside.silent⟩
  | some alike =>
      simp only [alike.1]
      exact perform_all_beside beside _ _ _ same.slide _ _ alike.2 related

theorem do_item_beside (beside : WorkBeside p q H A R E) (item other : WorkItem)
    (same : item.Beside H other) (related : R left right) :
    R (left.doItem p item).1 (right.doItem q other).1 ∧
      E (left.doItem p item).2 (right.doItem q other).2 := by
  cases same with
  | fire ref twin same => exact fire_beside beside.toActBeside ref twin same related
  | settle index twin same => exact ⟨beside.settle index twin left right same related, beside.silent⟩

theorem work_beside (beside : WorkBeside p q H A R E) (steps : Nat) (related : R left right) :
    R (left.work p steps).1 (right.work q steps).1 ∧
      List.Forall₂ (Turn.Beside H E) (left.work p steps).2 (right.work q steps).2 := by
  induction steps generalizing left right with
  | zero => exact ⟨related, .nil⟩
  | succ steps ih =>
      have next := beside.next left right related
      simp only [work]
      -- Either both players take an item or both have none.
      generalize left.queue.next? = taken, right.queue.next? = other at next
      cases next with
      | none => exact ⟨related, .nil⟩
      | some both =>
          have done := do_item_beside beside _ _ both.1 both.2
          have later := ih done.1
          exact ⟨later.1, .cons ⟨both.1, done.2⟩ later.2⟩

theorem turns_beside (beside : ActBeside p q H A R E) (turns others : List Turn)
    (same : List.Forall₂ (fun turn other => E turn.events other.events) turns others) :
    E (turns.flatMap (·.events)) (others.flatMap (·.events)) := by
  induction same with
  | nil => exact beside.silent
  | cons head tail ih => exact beside.append _ _ _ _ head ih

theorem drain_beside (beside : DrainBeside p q H A R E) (related : R left right) :
    R (left.drain p).1 (right.drain q).1 ∧ E (left.drain p).2 (right.drain q).2 := by
  have worked := work_beside beside.toWorkBeside right.options.maxQueueSteps related
  have turns := turns_beside beside.toActBeside _ _ (worked.2.imp fun _ _ same => same.2)
  have dropped := beside.drop _ _ worked.1
  rw [drain_eq, drain_eq, beside.limit left right related]
  exact ⟨beside.arrive _ _ dropped.1, beside.append _ _ _ _ turns dropped.2⟩

theorem enter_and_drain_beside (beside : DrainBeside p q H A R E) (i j : Nat)
    (entered : R (left.enterSlide p i).1 (right.enterSlide q j).1 ∧
      E (left.enterSlide p i).2 (right.enterSlide q j).2) :
    R (left.enterAndDrain p i).1 (right.enterAndDrain q j).1 ∧
      E (left.enterAndDrain p i).2 (right.enterAndDrain q j).2 := by
  have drained := drain_beside beside entered.1
  exact ⟨drained.1, beside.append _ _ _ _ entered.2 drained.2⟩

end Beside

end Player

end Slideshow
