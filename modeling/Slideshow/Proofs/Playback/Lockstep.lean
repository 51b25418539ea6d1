import Slideshow.Proofs.Playback.Abreast
import Slideshow.Proofs.Playback.Corresponding
import Slideshow.Proofs.Playback.Session

set_option autoImplicit false

namespace Slideshow

namespace VariableStore

def Twins (left right : VariableStore) : Prop :=
  ∀ id, Option.Rel (Option.Rel Value.Twin) (left.values.get? id) (right.values.get? id)

theorem insert_twins (left right : IdMap (Option Value)) (id : String) (old new : Option Value)
    (twins : Twins ⟨left⟩ ⟨right⟩) (twin : Option.Rel Value.Twin old new) :
    Twins ⟨left.insert id old⟩ ⟨right.insert id new⟩ := by
  intro key
  have others := twins key
  simp only [IdMap.get?_insert] at others ⊢
  split
  · exact .some twin
  · exact others

theorem declared_twins (left right : List Variable)
    (declared : List.Forall₂ Variable.Corresponds left right) (before after : IdMap (Option Value))
    (twins : Twins ⟨before⟩ ⟨after⟩) :
    Twins ⟨left.foldl (fun map v => map.insert v.id (v.value.map Value.normalized)) before⟩
      ⟨right.foldl (fun map v => map.insert v.id (v.value.map Value.normalized)) after⟩ := by
  induction declared generalizing before after with
  | nil => exact twins
  | cons head tail ih =>
      apply ih
      dsimp only
      rw [head.id]
      exact insert_twins before after _ _ _ twins head.value

theorem seed_twins (left right : Project) (corresponds : left.Corresponds right) :
    Twins (seed left) (seed right) := by
  unfold seed IdMap.ofList
  rw [List.foldl_map, List.foldl_map]
  exact declared_twins _ _ corresponds.declarations _ _ fun _ => .none

theorem write_twins (left right : VariableStore) (id : String) (old new : Value)
    (twins : Twins left right) (twin : old.normalized.Twin new.normalized) :
    Twins (left.write id old) (right.write id new) := by
  intro key
  have entries := twins key
  simp only [write, IdMap.get?_update] at entries ⊢
  generalize left.values.get? key = a, right.values.get? key = b at entries
  cases entries with
  | none => exact .none
  | some same =>
      simp only [Option.map_some]
      split
      · exact .some (.some twin)
      · exact .some same

end VariableStore

inductive SetOperation.AppliesAlike : Except Mismatch Value → Except Mismatch Value → Prop where
  | fails (left right : Mismatch) (message : left.message = right.message) :
      AppliesAlike (.error left) (.error right)
  | gives (left right : Value) (twin : left.normalized.Twin right.normalized) :
      AppliesAlike (.ok left) (.ok right)

namespace SetOperation

theorem not_numbers_message (operation : SetOperation) (old new left right : Value)
    (current : old.Twin new) (operands : left.Twin right) :
    (Mismatch.notNumbers operation old left).message =
      (Mismatch.notNumbers operation new right).message :=
  congrArg₂ (fun a b => "cannot apply " ++ operation.title ++ " to " ++ a ++ " and " ++ b)
    (Value.twin_type_name old new current) (Value.twin_type_name left right operands)

theorem not_boolean_message (old new : Value) (current : old.Twin new) :
    (Mismatch.notBoolean old).message = (Mismatch.notBoolean new).message :=
  congrArg (fun a => "cannot toggle a " ++ a ++ " value") (Value.twin_type_name old new current)

theorem combine_alike (operation : SetOperation) (combined? : Value → Value → Option Value)
    (respects : ∀ a b c d, Value.Twin a b → Value.Twin c d →
      Option.Rel Value.Twin (combined? a c) (combined? b d))
    (old new left right : Option Value) (current : Option.Rel Value.Twin old new)
    (operands : Option.Rel Value.Twin left right) :
    AppliesAlike (operation.combine combined? old left) (operation.combine combined? new right) := by
  unfold combine
  cases operands with
  | none => exact .fails _ _ rfl
  | @some a b operands =>
      cases current with
      | none => exact .fails _ _ rfl
      | @some c d current =>
          have results := respects c d a b current operands
          dsimp only
          generalize combined? c a = x, combined? d b = y at results
          cases results with
          | none => exact .fails _ _ (not_numbers_message operation c d a b current operands)
          | some twin => exact .gives _ _ (Value.twin_normalized _ _ twin)

theorem toggle_integer (value : Value) (n : Int) (integer : value.asInt? = some n)
    (operand : Option Value) : apply .toggle (some value) operand = .error (.notBoolean value) := by
  cases value <;> first | rfl | cases integer

theorem toggle_alike (old new : Value) (twin : old.Twin new) (left right : Option Value) :
    AppliesAlike (apply .toggle (some old) left) (apply .toggle (some new) right) := by
  have message := not_boolean_message old new twin
  cases twin with
  | bool b => exact .gives _ _ (.bool !b)
  | integer old new n atLeft atRight =>
      rw [toggle_integer old n atLeft, toggle_integer new n atRight]
      exact .fails _ _ message
  | _ => exact .fails _ _ message

theorem apply_alike (operation : SetOperation) (old new left right : Option Value)
    (current : Option.Rel Value.Twin old new) (operands : Option.Rel operation.Takes left right) :
    AppliesAlike (operation.apply old left) (operation.apply new right) := by
  cases operation with
  | assign =>
      cases operands with
      | none => exact .fails _ _ rfl
      | some takes => exact .gives _ _ takes.1
  | add =>
      have numbers := related_imp operands fun _ _ takes => takes.2 rfl
      exact combine_alike .add _ Value.twin_add _ _ _ _ current numbers
  | subtract =>
      have numbers := related_imp operands fun _ _ takes => takes.2 rfl
      exact combine_alike .subtract _ Value.twin_sub _ _ _ _ current numbers
  | toggle =>
      cases current with
      | none => exact .fails _ _ rfl
      | some twin => exact toggle_alike _ _ twin left right

end SetOperation

namespace Player

structure Linked (left right : Player) : Prop where
  options : left.options = right.options
  project : Option.Rel Project.Corresponds left.project right.project
  phase : left.phase = right.phase
  current : left.current = right.current
  store : left.store.Twins right.store
  layers : left.layers = right.layers
  queue : left.queue = right.queue
  faults : left.faults.toList.map Fault.toJson = right.faults.toList.map Fault.toJson

section Steps

variable {left right : Player} {p q : Project}

theorem report_linked (linked : left.Linked right) (fault other : Fault)
    (same : fault.toJson = other.toJson) : (left.report fault).1.Linked (right.report other).1 := by
  refine { linked with faults := ?_ }
  simp only [report, Array.toList_push, List.map_append, List.map_cons, List.map_nil, same, linked.faults]

theorem enter_slide_linked (linked : left.Linked right) (corresponds : p.Corresponds q) (index : Nat) :
    (left.enterSlide p index).1.Linked (right.enterSlide q index).1 := by
  have slides := related_at corresponds.slides index
  unfold enterSlide
  generalize p.slides[index]? = a, q.slides[index]? = b at slides
  cases slides with
  | none => exact linked
  | some same =>
      dsimp only
      rw [same.id, Slide.of_slide_corresponding _ _ same, entry_work_like (Slide.fires_like_corresponding _ _ same),
        linked.queue]
      exact { linked with phase := rfl, current := rfl, layers := rfl, queue := rfl }

theorem set_variable_linked (linked : left.Linked right) (trigger target : String)
    (operation : SetOperation) (a b : Option Value) (operands : Option.Rel operation.Takes a b) :
    (left.setVariable trigger target operation a).1.Linked
      (right.setVariable trigger target operation b).1 := by
  have entries := linked.store target
  unfold setVariable VariableStore.entry?
  generalize left.store.values.get? target = x, right.store.values.get? target = y at entries
  cases entries with
  | none => exact report_linked linked _ _ rfl
  | @some old new current =>
      have applied := operation.apply_alike old new a b current operands
      dsimp only
      generalize operation.apply old a = u, operation.apply new b = v at applied
      cases applied with
      | fails cause other message =>
          apply report_linked linked
          simp only [Fault.toJson, message]
      | gives value other twin =>
          refine { linked with store := ?_ }
          exact VariableStore.write_twins _ _ target value other linked.store twin

theorem set_layer_linked (linked : left.Linked right) (trigger : String) (host : Nat)
    (target : String) (visible : Bool) :
    (left.setLayer trigger host target visible).1.Linked
      (right.setLayer trigger host target visible).1 := by
  unfold setLayer
  rw [linked.current, linked.layers]
  split
  · split
    · exact report_linked linked _ _ rfl
    · exact { linked with current := rfl, layers := rfl }
  · exact linked

theorem perform_linked (linked : left.Linked right) (corresponds : p.Corresponds q) (trigger : String)
    (host : Nat) (action other : Action) (actions : action.Corresponds other) :
    (left.perform p trigger host action).1.Linked (right.perform q trigger host other).1 := by
  cases actions with
  | navigateToSlide target =>
      simp only [perform, Project.slide_index_corresponding corresponds]
      split
      · exact enter_slide_linked linked corresponds _
      · exact report_linked linked _ _ rfl
  | showLayer target => exact set_layer_linked linked trigger host target true
  | hideLayer target => exact set_layer_linked linked trigger host target false
  | setVariable target operation a b operands =>
      exact set_variable_linked linked trigger target operation a b operands

theorem settle_linked (linked : left.Linked right) (corresponds : p.Corresponds q) (index : Nat) :
    (left.settle p index).Linked (right.settle q index) := by
  have slides := related_at corresponds.slides index
  simp only [settle]
  generalize p.slides[index]? = a, q.slides[index]? = b at slides
  cases slides with
  | none => exact linked
  | some same =>
      dsimp only
      rw [linked.current, same.id]
      split
      · exact { linked with phase := rfl, current := rfl }
      · exact linked

theorem drop_work_linked (linked : left.Linked right) : left.dropWork.1.Linked right.dropWork.1 := by
  unfold dropWork
  rw [linked.queue, linked.options]
  have emptied : ({ left with queue := .empty } : Player).Linked { right with queue := .empty } :=
    { linked with queue := rfl }
  split
  · exact linked
  · simpa only [linked.options] using report_linked emptied (.stepLimitExceeded _) _ rfl

theorem arrive_linked (linked : left.Linked right) : left.arrive.Linked right.arrive := by
  unfold arrive
  rw [linked.phase, linked.current]
  split
  · exact { linked with phase := rfl, current := rfl }
  · exact linked

theorem linked_in_step (corresponds : p.Corresponds q) :
    InStep p q Action.Corresponds Linked fun _ _ => True where
  triggers ref := related_imp (corresponds.triggers ref) fun _ _ same => ⟨same.id, same.actions⟩
  silent := trivial
  append _ _ _ _ _ _ := trivial
  act trigger host action other _ _ actions linked :=
    ⟨perform_linked linked corresponds trigger host action other actions, trivial⟩
  queue _ _ linked := linked.queue
  take _ _ _ linked := { linked with queue := rfl }
  settle index _ _ linked := settle_linked linked corresponds index

theorem linked_beside (corresponds : p.Corresponds q) :
    DrainBeside p q Eq Action.Corresponds Linked fun _ _ => True where
  toWorkBeside := work_abreast (linked_in_step corresponds)
  limit _ _ linked := congrArg Options.maxQueueSteps linked.options
  drop _ _ linked := ⟨drop_work_linked linked, trivial⟩
  arrive _ _ linked := arrive_linked linked

theorem enter_and_drain_linked (linked : left.Linked right) (corresponds : p.Corresponds q)
    (index : Nat) : (left.enterAndDrain p index).1.Linked (right.enterAndDrain q index).1 := by
  have entered := enter_slide_linked linked corresponds index
  exact (enter_and_drain_beside (linked_beside corresponds) index index ⟨entered, trivial⟩).1

theorem dispatch_linked (linked : left.Linked right) (corresponds : p.Corresponds q)
    (triggers : List TriggerRef) : (left.dispatch p triggers).1.Linked (right.dispatch q triggers).1 := by
  unfold dispatch
  rw [linked.queue]
  refine (drain_beside (linked_beside corresponds) ?_).1
  exact { linked with queue := rfl }

theorem stop_linked (linked : left.Linked right) : left.stop.Linked right.stop where
  options := linked.options
  project := linked.project
  phase := rfl
  current := rfl
  store := fun _ => .none
  layers := rfl
  queue := rfl
  faults := linked.faults

theorem seeded_linked (linked : left.Linked right) (corresponds : p.Corresponds q) :
    ({ left with store := .seed p } : Player).Linked { right with store := .seed q } :=
  { linked with store := VariableStore.seed_twins p q corresponds }

theorem restart_linked (linked : left.Linked right) : left.restart.1.Linked right.restart.1 := by
  have stopped := stop_linked linked
  rcases related_cases linked.project with ⟨atLeft, atRight⟩ | ⟨p, q, atLeft, atRight, corresponds⟩
  · rw [restart_unloaded left atLeft, restart_unloaded right atRight]
    exact stopped
  · have fresh : (left.fresh p).Linked (right.fresh q) := seeded_linked stopped corresponds
    have slides : p.slides.isEmpty = q.slides.isEmpty := by
      have same := corresponds.slides
      generalize p.slides = a, q.slides = b at same
      cases same <;> rfl
    rw [restart_loaded p left atLeft, restart_loaded q right atRight, slides]
    split
    · exact fresh
    · exact enter_and_drain_linked fresh corresponds 0

theorem load_linked (linked : left.Linked right) (corresponds : p.Corresponds q) :
    (left.loadUnchecked p).1.Linked (right.loadUnchecked q).1 :=
  restart_linked { linked with project := .some corresponds }

theorem ready_linked (linked : left.Linked right) (corresponds : p.Corresponds q) :
    (left.ready p).Linked (right.ready q) := by
  have idle : left.current.isNone = right.current.isNone := by rw [linked.current]
  unfold ready
  rw [idle]
  split
  · exact seeded_linked linked corresponds
  · exact linked

theorem shows_linked (linked : left.Linked right) (layer other : Layer)
    (layers : layer.Corresponds other) : left.shows layer = right.shows other := by
  unfold shows
  rw [linked.layers, layers.id, layers.visible]

theorem active_linked (linked : left.Linked right) :
    (∃ failure, left.active = .error failure ∧ right.active = .error failure) ∨
      ∃ p q index, left.active = .ok (p, index) ∧ right.active = .ok (q, index) ∧
        p.Corresponds q := by
  unfold active
  rw [linked.current]
  rcases related_cases linked.project with ⟨atLeft, atRight⟩ | ⟨p, q, atLeft, atRight, corresponds⟩
  · rw [atLeft, atRight]
    exact .inl ⟨_, rfl, rfl⟩
  · rw [atLeft, atRight]
    cases right.current with
    | none => exact .inl ⟨_, rfl, rfl⟩
    | some index => exact .inr ⟨p, q, index, rfl, rfl, corresponds⟩

end Steps

end Player

inductive Reply.Alike : Reply → Reply → Prop where
  | done : Alike .done .done
  | fired (triggers : Nat) : Alike (.fired triggers) (.fired triggers)
  | hit (object : Option String) : Alike (.hit object) (.hit object)
  | faults (left right : List Fault) (same : left.map Fault.toJson = right.map Fault.toJson) :
      Alike (.faults left) (.faults right)

namespace Player

inductive Answers : Except Failure Response → Except Failure Response → Prop where
  | refused (failure : Failure) : Answers (.error failure) (.error failure)
  | answered (left right : Response) (reply : left.reply.Alike right.reply)
      (linked : left.player.Linked right.player) : Answers (.ok left) (.ok right)

section Commands

variable {left right : Player}

theorem respond_load_linked (linked : left.Linked right) (project : Project) :
    Answers (left.respond (.load project)) (right.respond (.load project)) := by
  have loaded := load_linked linked (Project.corresponds_refl project)
  simp only [respond, load, linked.options]
  split
  · cases project.validated with
    | error failure => exact .refused failure
    | ok valid => exact .answered _ _ .done loaded
  · exact .answered _ _ .done loaded

theorem respond_click_linked (linked : left.Linked right) (id : String) :
    Answers (left.respond (.click id)) (right.respond (.click id)) := by
  simp only [respond, click]
  rcases active_linked linked with ⟨failure, atLeft, atRight⟩ |
    ⟨p, q, index, atLeft, atRight, corresponds⟩
  · rw [atLeft, atRight]
    exact .refused failure
  · rw [atLeft, atRight]
    simp only [bind, Except.bind, Project.clicked_corresponding corresponds]
    split
    · exact .answered _ _ (.fired _) (dispatch_linked linked corresponds _)
    · exact .refused _

theorem respond_pointer_linked (linked : left.Linked right) (point : Point) :
    Answers (left.respond (.pointerDown point)) (right.respond (.pointerDown point)) := by
  simp only [respond, pointerDown]
  rcases active_linked linked with ⟨failure, atLeft, atRight⟩ |
    ⟨p, q, index, atLeft, atRight, corresponds⟩
  · rw [atLeft, atRight]
    exact .refused failure
  · rw [atLeft, atRight]
    simp only [bind, Except.bind, Project.pointed_corresponding corresponds index left.shows
      right.shows point (shows_linked linked)]
    split
    · exact .answered _ _ (.hit _) (dispatch_linked linked corresponds _)
    · exact .answered _ _ (.hit none) linked

theorem respond_enter_linked (linked : left.Linked right) (id : String) :
    Answers (left.respond (.enter id)) (right.respond (.enter id)) := by
  simp only [respond, enter]
  rcases related_cases linked.project with ⟨atLeft, atRight⟩ | ⟨p, q, atLeft, atRight, corresponds⟩
  · rw [atLeft, atRight]
    exact .refused .noProject
  · rw [atLeft, atRight]
    simp only [Project.slide_index_corresponding corresponds]
    cases q.slideIndex? id with
    | none => exact .refused _
    | some index =>
        have entered := enter_and_drain_linked (ready_linked linked corresponds) corresponds index
        simp only [ready, atLeft, atRight] at entered
        simp only [Except.map]
        exact .answered _ _ .done entered

theorem respond_linked (linked : left.Linked right) (command : Command) :
    Answers (left.respond command) (right.respond command) := by
  cases command with
  | load project => exact respond_load_linked linked project
  | loadUnchecked project =>
      exact .answered _ _ .done (load_linked linked (Project.corresponds_refl project))
  | restart => exact .answered _ _ .done (restart_linked linked)
  | stop => exact .answered _ _ .done (stop_linked linked)
  | click id => exact respond_click_linked linked id
  | pointerDown point => exact respond_pointer_linked linked point
  | enter id => exact respond_enter_linked linked id
  | takeFaults =>
      exact .answered _ _ (.faults _ _ linked.faults) { linked with faults := rfl }

theorem after_linked (linked : left.Linked right) (command : Command) :
    (left.after command).Linked (right.after command) := by
  have answers := respond_linked linked command
  unfold after
  generalize left.respond command = a, right.respond command = b at answers
  cases answers with
  | refused failure => exact linked
  | answered _ _ _ linked => exact linked

theorem run_linked (linked : left.Linked right) (commands : List Command) :
    (left.run commands).Linked (right.run commands) := by
  induction commands generalizing left right with
  | nil => exact linked
  | cons command rest ih => exact ih (after_linked linked command)

theorem start_linked (options : Options) : (start options).Linked (start options) where
  options := rfl
  project := .none
  phase := rfl
  current := rfl
  store := fun _ => .none
  layers := rfl
  queue := rfl
  faults := rfl

end Commands

end Player

end Slideshow
