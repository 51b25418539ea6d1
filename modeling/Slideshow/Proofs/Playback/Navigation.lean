import Slideshow.Proofs.Playback.Gathered
import Slideshow.Proofs.Playback.Workload
import Mathlib.Data.List.Perm.Subperm
import Mathlib.Logic.Relation

set_option autoImplicit false

namespace Slideshow

def Action.destination? (project : Project) : Action → Option Nat
  | .navigateToSlide target => project.slideIndex? target
  | _ => none

def WorkItem.destinations (project : Project) : WorkItem → List Nat
  | .fire ref =>
      ((ref.resolve project).map fun trigger =>
        trigger.actions.filterMap (Action.destination? project)).getD []
  | .settle _ => []

namespace Project

def workAt (project : Project) (index : Nat) : List WorkItem :=
  ((project.slides[index]?).map (·.entryWork index)).getD []

def Leads (project : Project) (source target : Nat) : Prop :=
  ∃ (ref : TriggerRef) (trigger : Trigger) (id : String), ref.slide = source ∧
    ref.resolve project = some trigger ∧ trigger.event = .onTimelineStart ∧
      .navigateToSlide id ∈ trigger.actions ∧ project.slideIndex? id = some target

def Acyclic (project : Project) : Prop :=
  ∀ index, ¬ Relation.TransGen project.Leads index index

-- From here a slide is reached that leads back to itself.
def Endless (project : Project) (index : Nat) : Prop :=
  ∃ turn, Relation.ReflTransGen project.Leads index turn ∧ Relation.TransGen project.Leads turn turn

def Walk (project : Project) : Nat → Nat → Prop
  | 0, _ => True
  | length + 1, index => ∃ next, project.Leads index next ∧ project.Walk length next

variable (project : Project)

theorem mem_destinations_iff (ref : TriggerRef) (target : Nat) :
    target ∈ (WorkItem.fire ref).destinations project ↔ ∃ trigger id,
      ref.resolve project = some trigger ∧ Action.navigateToSlide id ∈ trigger.actions ∧
        project.slideIndex? id = some target := by
  simp only [WorkItem.destinations]
  cases ref.resolve project with
  | none => simp
  | some trigger =>
      simp only [Option.map_some, Option.getD_some, List.mem_filterMap, Option.some.injEq]
      constructor
      · rintro ⟨action, own, found⟩
        cases action with
        | navigateToSlide id => exact ⟨trigger, id, rfl, own, found⟩
        | setVariable | showLayer | hideLayer => cases found
      · rintro ⟨_, id, rfl, own, found⟩
        exact ⟨.navigateToSlide id, own, found⟩

theorem leads_iff (source target : Nat) :
    project.Leads source target ↔
      ∃ item ∈ project.workAt source, target ∈ item.destinations project := by
  constructor
  · rintro ⟨ref, trigger, id, rfl, resolved, event, own, found⟩
    obtain ⟨slide, _, _, there, _⟩ := (resolve_eq_some_iff project ref trigger).mp resolved
    have entry := ((entry_triggers_gathered project ref.slide slide there).complete ref).mpr
      ⟨rfl, trigger, resolved, event⟩
    have goes := (project.mem_destinations_iff ref target).mpr ⟨trigger, id, resolved, own, found⟩
    exact ⟨.fire ref, by simp [workAt, there, Slide.entryWork, entry], goes⟩
  · rintro ⟨item, member, goes⟩
    cases item with
    | settle index => cases goes
    | fire ref =>
        obtain ⟨trigger, id, resolved, own, found⟩ := (project.mem_destinations_iff ref target).mp goes
        cases there : project.slides[source]? with
        | none => simp [workAt, there] at member
        | some slide =>
            have entry : ref ∈ slide.entryTriggers source := by
              simpa [workAt, there, Slide.entryWork] using member
            obtain ⟨same, other, resolvedToo, event⟩ :=
              ((entry_triggers_gathered project source slide there).complete ref).mp entry
            cases resolved.symm.trans resolvedToo
            exact ⟨ref, trigger, id, same, resolved, event, own, found⟩

theorem target_inside (source target : Nat) (leads : project.Leads source target) :
    target < project.slides.length := by
  obtain ⟨_, _, id, _, _, _, _, found⟩ := leads
  exact (List.findIdx?_eq_some_iff_getElem.mp found).1

theorem endless_goes_on (index : Nat) (endless : project.Endless index) :
    ∃ next, project.Leads index next ∧ project.Endless next := by
  obtain ⟨turn, way, round⟩ := endless
  rcases way.cases_head with rfl | ⟨next, leads, rest⟩
  · obtain ⟨next, leads, back⟩ := Relation.TransGen.head'_iff.mp round
    exact ⟨next, leads, index, back, round⟩
  · exact ⟨next, leads, turn, rest, round⟩

theorem walk_stops (length index : Nat) (walk : project.Walk length index) :
    ∃ stops : List Nat, stops.length = length ∧ List.IsChain project.Leads (index :: stops) ∧
      stops ⊆ List.range project.slides.length := by
  induction length generalizing index with
  | zero => exact ⟨[], rfl, .singleton _, List.nil_subset _⟩
  | succ length ih =>
      obtain ⟨next, leads, rest⟩ := walk
      obtain ⟨stops, same, chain, inside⟩ := ih next rest
      refine ⟨next :: stops, congrArg (· + 1) same, .cons_cons leads chain, ?_⟩
      exact List.cons_subset.mpr ⟨List.mem_range.mpr (project.target_inside index next leads), inside⟩

-- Without a cycle no slide is met twice, so a walk ends when all slides are met.
theorem acyclic_walk (acyclic : project.Acyclic) (index : Nat) :
    ¬ project.Walk (project.slides.length + 1) index := by
  intro walk
  obtain ⟨stops, length, chain, inside⟩ := project.walk_stops _ index walk
  have ordered : List.Pairwise (Relation.TransGen project.Leads) stops :=
    (chain.tail.imp fun _ _ leads => Relation.TransGen.single leads).pairwise
  have apart : stops.Nodup := by
    refine ordered.imp fun {stop _} leads same => ?_
    subst same
    exact acyclic stop leads
  have few := (apart.subperm inside).length_le
  rw [List.length_range, length] at few
  omega

end Project

namespace Player

variable (project : Project)

theorem outcome_brings (trigger : String) (host : Nat) (action : Action) (player : Player)
    (result : Player × List Event) (outcome : Outcome project trigger host player action result) :
    result.1.queue.toList =
      player.queue.toList ++ (action.destination? project).toList.flatMap project.workAt := by
  have nowhere : ∀ target visible, (Action.ofLayer target visible).destination? project = none := by
    intro target visible
    cases visible <;> rfl
  cases outcome with
  | entered target index slide found there =>
      simp [standOn, Queue.to_list_append, Action.destination?, found, Project.workAt, there]
  | noSlide target missing => simp [report, Action.destination?, missing]
  | noVariable | refused | written => simp [report, Action.destination?]
  | elsewhere | noLayer | shown => simp [report, nowhere]

theorem perform_all_brings (trigger : String) (host : Nat) (actions : List Action) (player : Player) :
    (player.performAll project trigger host actions).1.queue.toList =
      player.queue.toList ++
        (actions.filterMap (Action.destination? project)).flatMap project.workAt := by
  induction actions generalizing player with
  | nil => simp [performAll]
  | cons action rest ih =>
      have first := outcome_brings project trigger host action player _
        (perform_outcome project trigger host action player)
      have later := ih (player.perform project trigger host action).1
      simp only [performAll]
      rw [later, first]
      cases goes : action.destination? project <;> simp [goes]

theorem do_item_brings (item : WorkItem) (player : Player) :
    (player.doItem project item).1.queue.toList =
      player.queue.toList ++ (item.destinations project).flatMap project.workAt := by
  cases item with
  | fire ref =>
      simp only [doItem, fire, WorkItem.destinations]
      cases ref.resolve project with
      | none => simp
      | some trigger => exact perform_all_brings project trigger.id ref.slide trigger.actions player
  | settle index =>
      simp only [doItem]
      rw [settle_frame]
      simp [WorkItem.destinations]

-- Work that enters a slide of this kind is followed by more of it.
def Driven (items : List WorkItem) : Prop :=
  ∃ item ∈ items, ∃ next ∈ item.destinations project, project.Endless next

theorem driven_at (index : Nat) (endless : project.Endless index) : Driven project (project.workAt index) := by
  obtain ⟨next, leads, onward⟩ := project.endless_goes_on index endless
  obtain ⟨item, member, goes⟩ := (project.leads_iff index next).mp leads
  exact ⟨item, member, next, goes, onward⟩

theorem take_driven (item : WorkItem) (rest : Queue WorkItem) (player : Player)
    (taken : player.queue.next? = some (item, rest)) (driven : Driven project player.queue.toList) :
    Driven project (doItem project item { player with queue := rest }).1.queue.toList := by
  rw [do_item_brings]
  rw [Queue.to_list_of_next? player.queue rest item taken] at driven
  obtain ⟨other, member, next, goes, endless⟩ := driven
  rcases List.mem_cons.mp member with rfl | later
  · obtain ⟨more, there, onward⟩ := driven_at project next endless
    exact ⟨more, List.mem_append_right _ (List.mem_flatMap.mpr ⟨next, goes, there⟩), onward⟩
  · exact ⟨other, List.mem_append_left _ later, next, goes, endless⟩

theorem driven_waits (player : Player) (driven : Driven project player.queue.toList) :
    player.queue.next? ≠ none := by
  intro nothing
  rw [Queue.eq_empty_of_next? player.queue nothing] at driven
  obtain ⟨item, member, _⟩ := driven
  cases member

theorem driven_work (steps : Nat) (player : Player) (driven : Driven project player.queue.toList) :
    (player.work project steps).1.queue.next? ≠ none := by
  induction steps generalizing player with
  | zero => exact driven_waits project player driven
  | succ steps ih =>
      simp only [work]
      cases taken : player.queue.next? with
      | none => exact absurd taken (driven_waits project player driven)
      | some next => exact ih _ (take_driven project next.1 next.2 player taken driven)

theorem driven_workload (player : Player) (driven : Driven project player.queue.toList) (limit : Nat) :
    limit < player.workload project :=
  not_le.mp (mt (workload_le_iff project player limit).mp (driven_work project limit player driven))

end Player

end Slideshow
