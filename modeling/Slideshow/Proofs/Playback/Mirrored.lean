import Slideshow.Proofs.Playback.Beside
import Slideshow.Proofs.Playback.Session
import Slideshow.Proofs.Validation.Renamed

set_option autoImplicit false

namespace Slideshow

def SamePlace (σ : Renaming) (p q : Project) (i j : Nat) : Prop :=
  ∃ slide, p.slides[i]? = some slide ∧ q.slides[j]? = some (slide.renamed σ)

section Places

variable {σ : Renaming} {p q : Project} (twin : p.Twin σ q)
include twin

theorem same_place_of_id (id : String) :
    Option.Rel (SamePlace σ p q) (p.slideIndex? id) (q.slideIndex? (σ.of .slide id)) := by
  have ids := (slides_reordered twin.reorders).map (·.id)
  rw [slide_ids_renamed] at ids
  cases found : p.slideIndex? id with
  | none =>
      have unknown := (slide_index_none_iff p id).mp found
      have missing : q.slideIndex? (σ.of .slide id) = none := by
        rwa [slide_index_none_iff, ids.mem_iff, List.mem_map_of_injective (σ.injective .slide)]
      rw [missing]
      exact .none
  | some i =>
      obtain ⟨slide, there, rfl⟩ := slide_of_index p id i found
      have member := slide_to_renamed twin.reorders slide (List.mem_of_getElem? there)
      cases foundToo : q.slideIndex? (σ.of .slide slide.id) with
      | none => exact absurd (List.mem_map_of_mem member) ((slide_index_none_iff q _).mp foundToo)
      | some j =>
          obtain ⟨other, thereToo, same⟩ := slide_of_index q _ j foundToo
          -- The twin is valid too, so no other slide of it has this id.
          have equal := List.inj_on_of_nodup_map (slide_ids_nodup (twin_valid twin))
            (List.mem_of_getElem? thereToo) member same
          exact .some ⟨slide, there, equal ▸ thereToo⟩

theorem same_place_iff (i j m n : Nat) (here : SamePlace σ p q i j) (there : SamePlace σ p q m n) :
    i = m ↔ j = n := by
  obtain ⟨slide, atI, atJ⟩ := here
  obtain ⟨other, atM, atN⟩ := there
  constructor
  · rintro rfl
    cases atI.symm.trans atM
    exact slide_index_unique (twin_valid twin) j n _ _ atJ atN rfl
  · rintro rfl
    have ids : σ.of .slide slide.id = σ.of .slide other.id :=
      congrArg Slide.id (Option.some.inj (atJ.symm.trans atN))
    exact slide_index_unique twin.valid i m slide other atI atM (σ.injective .slide ids)

theorem first_place :
    p.slides.isEmpty = q.slides.isEmpty ∧ (p.slides.isEmpty = false → SamePlace σ p q 0 0) := by
  have first := twin.reorders.first
  simp only [Project.renamed, List.head?_map] at first
  cases atLeft : p.slides with
  | nil =>
      rw [atLeft, List.head?_nil, Option.map_none, List.head?_eq_none_iff] at first
      rw [first]
      exact ⟨rfl, fun present => by cases present⟩
  | cons slide rest =>
      rw [atLeft, List.head?_cons, Option.map_some, List.head?_eq_some_iff] at first
      obtain ⟨others, atRight⟩ := first
      rw [atRight]
      exact ⟨rfl, fun _ => ⟨slide, by rw [atLeft]; rfl, by rw [atRight]; rfl⟩⟩

theorem seed_renames :
    (VariableStore.seed p).values.Renames (σ.of .variable) (VariableStore.seed q).values := by
  refine IdMap.renames_of_list _ (σ.injective _) _ _ ?_ ?_
  · simpa [Function.comp_def] using variable_ids_nodup twin.valid
  · have same := twin.reorders.declarations.map fun v => (v.id, v.value.map Value.normalized)
    simpa [Project.renamed, Variable.renamed, Function.comp_def] using same

theorem layers_rename (i : Nat) (slide : Slide) (there : p.slides[i]? = some slide) :
    (LayerState.ofSlide slide).visibility.Renames (σ.of .layer)
      (LayerState.ofSlide (slide.renamed σ)).visibility := by
  refine IdMap.renames_of_list _ (σ.injective _) _ _ ?_ (.of_eq ?_)
  · simpa [Function.comp_def] using layer_ids_nodup twin.valid i slide there
  · simp [Slide.renamed, Layer.renamed]

end Places

section Triggers

variable {H : Nat → Nat → Prop} {i j : Nat} (here : H i j)
include here

theorem entry_triggers_beside (slide : Slide) :
    List.Forall₂ (TriggerRef.Beside H) (slide.entryTriggers i) (slide.entryTriggers j) := by
  -- The index of the slide is all that references to its triggers can differ in.
  have moved : ∀ index, slide.entryTriggers index =
      (slide.entryTriggers 0).map fun ref => { ref with slide := index } := by
    intro index
    simp [Slide.entryTriggers, List.map_flatMap, Function.comp_def]
  rw [moved i, moved j, List.forall₂_map_left_iff, List.forall₂_map_right_iff, List.forall₂_same]
  exact fun ref _ => ⟨here, rfl, rfl, rfl⟩

theorem click_triggers_beside (slide : Slide) (position : ObjectPosition) :
    List.Forall₂ (TriggerRef.Beside H) (slide.clickTriggers i position) (slide.clickTriggers j position) := by
  unfold Slide.clickTriggers
  cases slide.layers[position.layer]?.bind (·.objects[position.object]?) with
  | none => exact .nil
  | some object =>
      dsimp only
      rw [List.forall₂_map_left_iff, List.forall₂_map_right_iff, List.forall₂_same]
      exact fun t _ => ⟨here, rfl, rfl, rfl⟩

omit here in
theorem fired_beside (refs others : List TriggerRef) (beside : List.Forall₂ (TriggerRef.Beside H) refs others) :
    List.Forall₂ (WorkItem.Beside H) (refs.map .fire) (others.map .fire) := by
  rw [List.forall₂_map_left_iff, List.forall₂_map_right_iff]
  exact beside.imp fun ref other same => .fire ref other same

theorem entry_work_beside (slide : Slide) :
    List.Forall₂ (WorkItem.Beside H) (slide.entryWork i) (slide.entryWork j) :=
  List.rel_append (fired_beside _ _ (entry_triggers_beside here slide)) (.cons (.settle i j here) .nil)

end Triggers

theorem resolve_renamed {σ : Renaming} {p q : Project} (ref other : TriggerRef)
    (same : ref.Beside (SamePlace σ p q) other) : other.resolve q = (ref.resolve p).map (·.renamed σ) := by
  obtain ⟨⟨slide, there, thereToo⟩, layers, objects, triggers⟩ := same
  have moved : (slide.renamed σ).triggerAt? other = (slide.renamed σ).triggerAt? ref := by
    simp only [Slide.triggerAt?, layers, objects, triggers]
  rw [resolve_eq, resolve_eq, there, thereToo, Option.bind_some, Option.bind_some, moved]
  exact trigger_at_map (·.renamed σ) (·.renamed σ) (·.renamed σ) (fun _ => rfl) (fun _ => rfl) slide _ rfl ref

-- However the elements are split over the two lists of a queue, they are taken in step.
theorem next_beside {H : Nat → Nat → Prop} (queue other : Queue WorkItem)
    (beside : List.Forall₂ (WorkItem.Beside H) queue.toList other.toList) :
    Option.Rel (fun taken twin => taken.1.Beside H twin.1 ∧
      List.Forall₂ (WorkItem.Beside H) taken.2.toList twin.2.toList) queue.next? other.next? := by
  cases taken : queue.next? with
  | none =>
      rw [queue.eq_empty_of_next? taken, Queue.to_list_empty, List.forall₂_nil_left_iff] at beside
      rw [other.eq_empty_of_to_list_eq_nil beside]
      exact .none
  | some next =>
      rw [queue.to_list_of_next? next.2 next.1 taken] at beside
      cases takenToo : other.next? with
      | none =>
          rw [other.eq_empty_of_next? takenToo] at beside
          cases beside
      | some twin =>
          rw [other.to_list_of_next? twin.2 twin.1 takenToo] at beside
          exact .some (List.forall₂_cons.mp beside)

namespace Player

structure Mirrors (σ : Renaming) (p q : Project) (left right : Player) : Prop where
  options : right.options = left.options
  loaded : left.project = some p
  loadedToo : right.project = some q
  phase : right.phase = left.phase.renamed σ
  current : Option.Rel (SamePlace σ p q) left.current right.current
  store : left.store.values.Renames (σ.of .variable) right.store.values
  layers : left.layers.visibility.Renames (σ.of .layer) right.layers.visibility
  queue : List.Forall₂ (WorkItem.Beside (SamePlace σ p q)) left.queue.toList right.queue.toList
  faults : right.faults.toList = left.faults.toList.map (·.renamed σ)

def Mirrored (σ : Renaming) (p q : Project) (result other : Player × List Event) : Prop :=
  Mirrors σ p q result.1 other.1 ∧ other.2 = result.2.map (·.renamed σ)

section Actions

variable {σ : Renaming} {p q : Project} {left right : Player}

theorem current_slide_mirrored (mirrors : Mirrors σ p q left right) :
    right.currentSlideId? = left.currentSlideId?.map (σ.of .slide) := by
  have current := mirrors.current
  simp only [currentSlideId?, mirrors.loaded, mirrors.loadedToo]
  generalize left.current = index, right.current = other at current
  cases current with
  | none => rfl
  | some same =>
      obtain ⟨slide, there, thereToo⟩ := same
      simp only [bind, Option.bind, there, thereToo]
      rfl

theorem report_mirrored (mirrors : Mirrors σ p q left right) (fault : Fault) :
    Mirrored σ p q (left.report fault) (right.report (fault.renamed σ)) := by
  refine ⟨{ mirrors with faults := ?_ }, rfl⟩
  simp [report, mirrors.faults]

theorem current_mirrored (twin : p.Twin σ q) (mirrors : Mirrors σ p q left right) (i j : Nat)
    (here : SamePlace σ p q i j) : left.current = some i ↔ right.current = some j := by
  have current := mirrors.current
  generalize left.current = index, right.current = other at current
  cases current with
  | none => exact ⟨nofun, nofun⟩
  | some same =>
      rw [Option.some.injEq, Option.some.injEq]
      exact same_place_iff twin _ _ i j same here

theorem enter_slide_mirrored (twin : p.Twin σ q) (mirrors : Mirrors σ p q left right) (i j : Nat)
    (here : SamePlace σ p q i j) : Mirrored σ p q (left.enterSlide p i) (right.enterSlide q j) := by
  obtain ⟨slide, there, thereToo⟩ := id here
  rw [enter_slide_at p i slide left there, enter_slide_at q j _ right thereToo,
    current_slide_mirrored mirrors]
  refine ⟨{ mirrors with
    phase := rfl
    current := .some here
    layers := layers_rename twin i slide there
    queue := ?_ }, rfl⟩
  simp only [standOn, Queue.to_list_append, entry_work_like (fires_like_renamed σ slide)]
  exact List.rel_append mirrors.queue (entry_work_beside here slide)

theorem set_variable_mirrored (mirrors : Mirrors σ p q left right) (trigger target : String)
    (operation : SetOperation) (operand : Option Value) :
    Mirrored σ p q (left.setVariable trigger target operation operand)
      (right.setVariable trigger (σ.of .variable target) operation operand) := by
  have entry : right.store.entry? (σ.of .variable target) = left.store.entry? target :=
    mirrors.store.values target
  simp only [setVariable, entry]
  cases left.store.entry? target with
  | none => exact report_mirrored mirrors (.danglingReference trigger .variable target)
  | some old =>
      simp only []
      cases operation.apply old operand with
      | error cause => exact report_mirrored mirrors (.typeMismatch trigger target cause)
      | ok value =>
          refine ⟨{ mirrors with store := ?_ }, by dsimp only; split <;> rfl⟩
          exact IdMap.renames_update _ (σ.injective _) _ _ mirrors.store target _

theorem set_layer_mirrored (twin : p.Twin σ q) (mirrors : Mirrors σ p q left right) (trigger : String)
    (host place : Nat) (here : SamePlace σ p q host place) (target : String) (visible : Bool) :
    Mirrored σ p q (left.setLayer trigger host target visible)
      (right.setLayer trigger place (σ.of .layer target) visible) := by
  have current := current_mirrored twin mirrors host place here
  have known : right.layers.isVisible? (σ.of .layer target) = left.layers.isVisible? target :=
    mirrors.layers.values target
  rw [setLayer, setLayer]
  by_cases standing : left.current = some host
  · rw [if_pos standing, if_pos (current.mp standing), known]
    cases left.layers.isVisible? target with
    | none => exact report_mirrored mirrors (.danglingReference trigger .layer target)
    | some before =>
        refine ⟨{ mirrors with layers := ?_ }, by dsimp only; split <;> rfl⟩
        exact IdMap.renames_update _ (σ.injective _) _ _ mirrors.layers target visible
  · rw [if_neg standing, if_neg fun standingToo => standing (current.mpr standingToo)]
    exact ⟨mirrors, rfl⟩

theorem perform_mirrored (twin : p.Twin σ q) (mirrors : Mirrors σ p q left right) (trigger : String)
    (host place : Nat) (here : SamePlace σ p q host place) (action : Action) :
    Mirrored σ p q (left.perform p trigger host action)
      (right.perform q trigger place (action.renamed σ)) := by
  cases action with
  | navigateToSlide target =>
      have found := same_place_of_id twin target
      simp only [perform, Action.renamed]
      generalize p.slideIndex? target = index, q.slideIndex? (σ.of .slide target) = other at found
      cases found with
      | none => exact report_mirrored mirrors (.danglingReference trigger .slide target)
      | some same => exact enter_slide_mirrored twin mirrors _ _ same
  | setVariable target operation operand => exact set_variable_mirrored mirrors trigger target operation operand
  | showLayer target => exact set_layer_mirrored twin mirrors trigger host place here target true
  | hideLayer target => exact set_layer_mirrored twin mirrors trigger host place here target false

theorem settle_mirrored (twin : p.Twin σ q) (mirrors : Mirrors σ p q left right) (i j : Nat)
    (here : SamePlace σ p q i j) : Mirrors σ p q (left.settle p i) (right.settle q j) := by
  have current := current_mirrored twin mirrors i j here
  obtain ⟨slide, there, thereToo⟩ := here
  simp only [settle, there, thereToo]
  by_cases standing : left.current = some i
  · rw [if_pos standing, if_pos (current.mp standing)]
    exact { mirrors with phase := rfl }
  · rw [if_neg standing, if_neg fun standingToo => standing (current.mpr standingToo)]
    exact mirrors

theorem drop_work_mirrored (mirrors : Mirrors σ p q left right) :
    Mirrored σ p q left.dropWork right.dropWork := by
  have next := next_beside _ _ mirrors.queue
  simp only [dropWork, congrArg Options.maxQueueSteps mirrors.options]
  generalize left.queue.next? = taken, right.queue.next? = other at next
  cases next with
  | none => exact ⟨mirrors, rfl⟩
  | some _ =>
      have emptied : Mirrors σ p q { left with queue := .empty } { right with queue := .empty } :=
        { mirrors with queue := .nil }
      dsimp only
      exact report_mirrored emptied (.stepLimitExceeded left.options.maxQueueSteps)

theorem arrive_mirrored (mirrors : Mirrors σ p q left right) : Mirrors σ p q left.arrive right.arrive := by
  have current := mirrors.current
  unfold arrive
  rw [mirrors.phase]
  generalize atLeft : left.current = index, atRight : right.current = other at current
  cases left.phase with
  | idle | active slide => exact mirrors
  | navigating slide =>
      cases current with
      | none => exact mirrors
      | some same => exact { mirrors with phase := rfl, current := .some same }

theorem mirrors_beside (twin : p.Twin σ q) :
    DrainBeside p q (SamePlace σ p q) (fun action other => other = action.renamed σ) (Mirrors σ p q)
      (fun events others => others = events.map (·.renamed σ)) where
  triggers ref other same := by
    rw [resolve_renamed ref other same]
    cases ref.resolve p with
    | none => exact .none
    | some trigger =>
        refine .some ⟨rfl, ?_⟩
        exact List.forall₂_map_right_iff.mpr (List.forall₂_same.mpr fun _ _ => rfl)
  silent := rfl
  append _ _ _ _ first later := by rw [first, later, List.map_append]
  act trigger host place action other left right here same mirrors := by
    subst same
    exact perform_mirrored twin mirrors trigger host place here action
  next left right mirrors := by
    have next := next_beside _ _ mirrors.queue
    generalize left.queue.next? = taken, right.queue.next? = other at next
    cases next with
    | none => exact .none
    | some beside => exact .some ⟨beside.1, { mirrors with queue := beside.2 }⟩
  settle i j left right here mirrors := settle_mirrored twin mirrors i j here
  limit left right mirrors := congrArg Options.maxQueueSteps mirrors.options.symm
  drop left right mirrors := drop_work_mirrored mirrors
  arrive left right mirrors := arrive_mirrored mirrors

theorem enter_and_drain_mirrored (twin : p.Twin σ q) (mirrors : Mirrors σ p q left right) (i j : Nat)
    (here : SamePlace σ p q i j) : Mirrored σ p q (left.enterAndDrain p i) (right.enterAndDrain q j) :=
  enter_and_drain_beside (mirrors_beside twin) i j (enter_slide_mirrored twin mirrors i j here)

theorem dispatch_mirrored (twin : p.Twin σ q) (mirrors : Mirrors σ p q left right)
    (triggers others : List TriggerRef)
    (beside : List.Forall₂ (TriggerRef.Beside (SamePlace σ p q)) triggers others) :
    Mirrored σ p q (left.dispatch p triggers) (right.dispatch q others) := by
  refine drain_beside (mirrors_beside twin) { mirrors with queue := ?_ }
  simp only [Queue.to_list_append]
  exact List.rel_append mirrors.queue (fired_beside _ _ beside)

theorem ready_mirrored (twin : p.Twin σ q) (mirrors : Mirrors σ p q left right) :
    Mirrors σ p q (left.ready p) (right.ready q) := by
  have current := mirrors.current
  unfold ready
  generalize atLeft : left.current = index, atRight : right.current = other at current
  cases current with
  | none => exact { mirrors with store := seed_renames twin, current := .none }
  | some same => exact mirrors

theorem restart_mirrored (twin : p.Twin σ q) (loaded : left.project = some p)
    (loadedToo : right.project = some q) (options : right.options = left.options)
    (faults : right.faults.toList = left.faults.toList.map (·.renamed σ)) :
    Mirrored σ p q left.restart right.restart := by
  have fresh : Mirrors σ p q (left.fresh p) (right.fresh q) :=
    ⟨options, loaded, loadedToo, rfl, .none, seed_renames twin, IdMap.renames_empty _, .nil, faults⟩
  obtain ⟨empty, first⟩ := first_place twin
  rw [restart_loaded p left loaded, restart_loaded q right loadedToo, ← empty]
  cases slides : p.slides.isEmpty with
  | true => exact ⟨fresh, rfl⟩
  | false => exact enter_and_drain_mirrored twin fresh 0 0 (first slides)

end Actions

end Player

end Slideshow
