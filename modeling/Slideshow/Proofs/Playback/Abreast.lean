import Slideshow.Proofs.Playback.Beside

set_option autoImplicit false

namespace Slideshow

namespace Player

structure Abreast (p q : Project) (A : Action → Action → Prop) (R : Player → Player → Prop)
    (E : List Event → List Event → Prop) : Prop where
  triggers : ∀ ref : TriggerRef,
    Option.Rel (fun trigger other => trigger.id = other.id ∧ List.Forall₂ A trigger.actions other.actions)
      (ref.resolve p) (ref.resolve q)
  silent : E [] []
  append : ∀ early soon late later, E early soon → E late later → E (early ++ late) (soon ++ later)
  act : ∀ (trigger : String) (host : Nat) (action other : Action) (left right : Player),
    A action other → R left right →
      R (left.perform p trigger host action).1 (right.perform q trigger host other).1 ∧
        E (left.perform p trigger host action).2 (right.perform q trigger host other).2

structure InStep (p q : Project) (A : Action → Action → Prop) (R : Player → Player → Prop)
    (E : List Event → List Event → Prop) : Prop extends Abreast p q A R E where
  queue : ∀ left right, R left right → left.queue = right.queue
  take : ∀ (rest : Queue WorkItem) (left right : Player), R left right →
    R { left with queue := rest } { right with queue := rest }
  settle : ∀ (index : Nat) (left right : Player), R left right →
    R (left.settle p index) (right.settle q index)

section Abreast

variable {p q : Project} {A : Action → Action → Prop} {R : Player → Player → Prop}
variable {E : List Event → List Event → Prop} {left right : Player}

theorem act_abreast (abreast : Abreast p q A R E) : ActBeside p q Eq A R E where
  triggers ref other same := by
    cases (ref_beside_eq ref other).mp same
    exact abreast.triggers ref
  silent := abreast.silent
  append := abreast.append
  act trigger host place action other left right here := by
    cases here
    exact abreast.act trigger host action other left right

theorem work_abreast (inStep : InStep p q A R E) : WorkBeside p q Eq A R E where
  toActBeside := act_abreast inStep.toAbreast
  next left right related := by
    rw [inStep.queue left right related]
    cases right.queue.next? with
    | none => exact .none
    | some next =>
        exact .some ⟨(item_beside_eq next.1 next.1).mpr rfl, inStep.take next.2 left right related⟩
  settle index other left right same := by
    cases same
    exact inStep.settle index left right

theorem fire_abreast (abreast : Abreast p q A R E) (ref : TriggerRef) (related : R left right) :
    R (left.fire p ref).1 (right.fire q ref).1 ∧ E (left.fire p ref).2 (right.fire q ref).2 :=
  fire_beside (act_abreast abreast) ref ref ((ref_beside_eq ref ref).mpr rfl) related

def Turn.Alike (E : List Event → List Event → Prop) (turn other : Turn) : Prop :=
  turn.item = other.item ∧ E turn.events other.events

theorem work_in_step (inStep : InStep p q A R E) (steps : Nat) (related : R left right) :
    R (left.work p steps).1 (right.work q steps).1 ∧
      List.Forall₂ (Turn.Alike E) (left.work p steps).2 (right.work q steps).2 := by
  have worked := work_beside (work_abreast inStep) steps related
  refine ⟨worked.1, worked.2.imp fun turn other beside => ?_⟩
  exact ⟨(item_beside_eq _ _).mp beside.1, beside.2⟩

theorem turns_eq_of_alike (turns others : List Turn) (same : List.Forall₂ (Turn.Alike Eq) turns others) :
    turns = others := by
  induction same with
  | nil => rfl
  | cons head tail ih =>
      have equal := (Turn.mk.injEq _ _ _ _).mpr head
      rw [ih]
      exact congrArg (· :: _) equal

end Abreast

theorem told_alike {α : Type} (view : Player → Player) (look : Player → α)
    (blind : ∀ player : Player, look player = look (view player)) {left right : Player}
    (alike : view left = view right) : look left = look right := by
  rw [blind left, alike, ← blind right]

theorem changed_alike (view change : Player → Player)
    (blind : ∀ player : Player, view (change player) = view (change (view player))) {left right : Player}
    (alike : view left = view right) : view (change left) = view (change right) :=
  told_alike view (fun player => view (change player)) blind alike

-- The players differ only where no action looks, and what an action does to both keeps them so.
structure Unseen (R : Player → Player → Prop) : Prop where
  slide : ∀ left right, R left right → left.currentSlideId? = right.currentSlideId?
  current : ∀ left right, R left right → left.current = right.current
  store : ∀ left right, R left right → left.store = right.store
  layers : ∀ left right, R left right → left.layers = right.layers
  stand : ∀ (index : Nat) (slide : Slide) (left right : Player), R left right →
    R (left.standOn index slide) (right.standOn index slide)
  assign : ∀ (values : VariableStore) (left right : Player), R left right →
    R { left with store := values } { right with store := values }
  uncover : ∀ (shown : LayerState) (left right : Player), R left right →
    R { left with layers := shown } { right with layers := shown }
  report : ∀ (fault : Fault) (left right : Player), R left right →
    R (left.report fault).1 (right.report fault).1

section Unseen

variable {R : Player → Player → Prop} {left right : Player}

theorem set_variable_unseen (unseen : Unseen R) (trigger target : String) (operation : SetOperation)
    (operand : Option Value) (related : R left right) :
    R (left.setVariable trigger target operation operand).1
        (right.setVariable trigger target operation operand).1 ∧
      (left.setVariable trigger target operation operand).2 =
        (right.setVariable trigger target operation operand).2 := by
  simp only [setVariable, unseen.store left right related]
  cases right.store.entry? target with
  | none => exact ⟨unseen.report _ left right related, rfl⟩
  | some old =>
      simp only []
      cases operation.apply old operand with
      | error cause => exact ⟨unseen.report _ left right related, rfl⟩
      | ok value => exact ⟨unseen.assign _ left right related, rfl⟩

theorem set_layer_unseen (unseen : Unseen R) (trigger : String) (host : Nat) (target : String)
    (visible : Bool) (related : R left right) :
    R (left.setLayer trigger host target visible).1 (right.setLayer trigger host target visible).1 ∧
      (left.setLayer trigger host target visible).2 = (right.setLayer trigger host target visible).2 := by
  have current := unseen.current left right related
  rw [setLayer, setLayer]
  by_cases here : right.current = some host
  · rw [if_pos here, if_pos (current.trans here), unseen.layers left right related]
    cases right.layers.isVisible? target with
    | none => exact ⟨unseen.report _ left right related, rfl⟩
    | some before => exact ⟨unseen.uncover _ left right related, rfl⟩
  · rw [if_neg here, if_neg fun hereToo => here (current.symm.trans hereToo)]
    exact ⟨related, rfl⟩

theorem perform_unseen (unseen : Unseen R) (project : Project) (trigger : String) (host : Nat)
    (action : Action) (related : R left right) :
    R (left.perform project trigger host action).1 (right.perform project trigger host action).1 ∧
      (left.perform project trigger host action).2 = (right.perform project trigger host action).2 := by
  cases action with
  | navigateToSlide target =>
      simp only [perform]
      cases found : project.slideIndex? target with
      | none => exact ⟨unseen.report _ left right related, rfl⟩
      | some index =>
          obtain ⟨slide, there, _⟩ := slide_of_index project target index found
          dsimp only
          rw [enter_slide_at project index slide left there, enter_slide_at project index slide right there,
            unseen.slide left right related]
          exact ⟨unseen.stand index slide left right related, rfl⟩
  | setVariable target operation operand =>
      exact set_variable_unseen unseen trigger target operation operand related
  | showLayer target => exact set_layer_unseen unseen trigger host target true related
  | hideLayer target => exact set_layer_unseen unseen trigger host target false related

theorem unseen_abreast (unseen : Unseen R) (project : Project) : Abreast project project Eq R Eq where
  triggers ref := by
    cases ref.resolve project with
    | none => exact .none
    | some trigger => exact .some ⟨rfl, List.forall₂_same.mpr fun _ _ => rfl⟩
  silent := rfl
  append _ _ _ _ first later := congrArg₂ _ first later
  act trigger host action other left right same related := by
    subst same
    exact perform_unseen unseen project trigger host action related

end Unseen

structure Aside (change : Player → Player) : Prop where
  unseen : Unseen fun player other => other = change player
  phase : ∀ player, (change player).phase = player.phase
  queue : ∀ player, (change player).queue = player.queue
  turn : ∀ (phase : Phase) (player : Player),
    { change player with phase := phase } = change { player with phase := phase }
  take : ∀ (rest : Queue WorkItem) (player : Player),
    { change player with queue := rest } = change { player with queue := rest }

section Aside

variable {change : Player → Player}

theorem current_aside (aside : Aside change) (player : Player) :
    (change player).current = player.current :=
  (aside.unseen.current player _ rfl).symm

theorem settle_aside (aside : Aside change) (project : Project) (index : Nat) (player : Player) :
    (change player).settle project index = change (player.settle project index) := by
  have current := current_aside aside player
  unfold settle
  cases project.slides[index]? with
  | none => rfl
  | some slide =>
      by_cases here : player.current = some index
      · simp only [if_pos here, if_pos (current.trans here)]
        exact aside.turn _ player
      · simp only [if_neg here, if_neg fun hereToo => here (current.symm.trans hereToo)]

theorem arrive_aside (aside : Aside change) (player : Player) :
    (change player).arrive = change player.arrive := by
  have current := current_aside aside player
  have phase := aside.phase player
  unfold arrive
  split
  · rename_i slide index atPhase atCurrent
    split
    · rename_i other _ atPhaseToo _
      cases (phase.symm.trans atPhase).symm.trans atPhaseToo
      exact aside.turn _ player
    · rename_i elsewhere
      exact absurd (current.symm.trans atCurrent) (elsewhere slide index (phase.symm.trans atPhase))
  · rename_i elsewhere
    split
    · rename_i slide index atPhase atCurrent
      exact absurd (current.trans atCurrent) (elsewhere slide index (phase.trans atPhase))
    · rfl

theorem enter_slide_aside (aside : Aside change) (project : Project) (index : Nat) (player : Player) :
    (change player).enterSlide project index =
      (change (player.enterSlide project index).1, (player.enterSlide project index).2) := by
  cases there : project.slides[index]? with
  | none => simp only [enterSlide, there]
  | some slide =>
      rw [enter_slide_at project index slide _ there, enter_slide_at project index slide _ there,
        ← aside.unseen.slide player _ rfl, aside.unseen.stand index slide player _ rfl]

theorem aside_in_step (aside : Aside change) (project : Project) :
    InStep project project Eq (fun player other => other = change player) Eq where
  toAbreast := unseen_abreast aside.unseen project
  queue player other related := by rw [related, aside.queue]
  take rest player other related := by rw [related, aside.take]
  settle index player other related := by rw [related, settle_aside aside]

theorem work_aside (aside : Aside change) (project : Project) (steps : Nat) (player : Player) :
    (change player).work project steps =
      (change (player.work project steps).1, (player.work project steps).2) := by
  have inStep : ((change player).work project steps).1 = change (player.work project steps).1 ∧
      List.Forall₂ (Turn.Alike Eq) (player.work project steps).2 ((change player).work project steps).2 :=
    work_in_step (aside_in_step aside project) steps rfl
  exact Prod.ext inStep.1 (turns_eq_of_alike _ _ inStep.2).symm

end Aside

-- A change that leaves project and limit as they are as well, so all that is done for a command is the
-- same.
structure Unnoticed (change : Player → Player) : Prop extends Aside change where
  limit : ∀ player, (change player).options.maxQueueSteps = player.options.maxQueueSteps
  project : ∀ player, (change player).project = player.project

section Unnoticed

variable {change : Player → Player}

theorem drop_work_unnoticed (unnoticed : Unnoticed change) (player : Player) :
    (change player).dropWork = (change player.dropWork.1, player.dropWork.2) := by
  simp only [dropWork, unnoticed.queue, unnoticed.limit]
  cases player.queue.next? with
  | none => rfl
  | some next =>
      dsimp only
      rw [unnoticed.take]
      exact Prod.ext (unnoticed.unseen.report _ _ _ rfl) rfl

theorem drain_unnoticed (unnoticed : Unnoticed change) (project : Project) (player : Player) :
    (change player).drain project =
      (change (player.drain project).1, (player.drain project).2) := by
  rw [drain_eq, drain_eq, unnoticed.limit, work_aside unnoticed.toAside, drop_work_unnoticed unnoticed,
    arrive_aside unnoticed.toAside]

theorem enter_and_drain_unnoticed (unnoticed : Unnoticed change) (project : Project) (index : Nat)
    (player : Player) :
    (change player).enterAndDrain project index =
      (change (player.enterAndDrain project index).1, (player.enterAndDrain project index).2) := by
  simp only [enterAndDrain, enter_slide_aside unnoticed.toAside, drain_unnoticed unnoticed]

end Unnoticed

end Player

end Slideshow
