import Slideshow.Proofs.Playback.Navigation
import Slideshow.Proofs.Playback.References
import Mathlib.Algebra.Order.BigOperators.Group.List

set_option autoImplicit false

namespace Slideshow

namespace Project

variable (project : Project)

-- The turns that it takes to enter a slide, with navigations followed up to a depth.
def entryCost : Nat → Nat → Nat
  | 0, _ => 0
  | depth + 1, index =>
      ((project.workAt index).map fun item =>
        1 + ((item.destinations project).map (entryCost depth)).sum).sum

def cost (item : WorkItem) : Nat :=
  1 + ((item.destinations project).map (project.entryCost (project.slides.length + 1))).sum

def price (items : List WorkItem) : Nat :=
  (items.map project.cost).sum

def beginnings : List (List WorkItem) :=
  project.slides.zipIdx.flatMap fun (slide, index) =>
    slide.entryWork index :: slide.layers.zipIdx.flatMap fun (layer, i) =>
      layer.objects.zipIdx.map fun (_, j) => (slide.clickTriggers index ⟨i, j⟩).map .fire

def stepBound : Nat :=
  (project.beginnings.map project.price).sum

theorem entry_cost_stable (depth index : Nat) (short : ¬ project.Walk depth index) :
    project.entryCost (depth + 1) index = project.entryCost depth index := by
  induction depth generalizing index with
  | zero => exact absurd trivial short
  | succ depth ih =>
      rw [entryCost, entryCost]
      refine congrArg List.sum (List.map_congr_left fun item member => ?_)
      refine congrArg (1 + List.sum ·) (List.map_congr_left fun next goes => ih next fun walk => ?_)
      exact short ⟨next, (project.leads_iff index next).mpr ⟨item, member, goes⟩, walk⟩

theorem price_at (acyclic : project.Acyclic) (index : Nat) :
    project.price (project.workAt index) = project.entryCost (project.slides.length + 1) index :=
  project.entry_cost_stable _ index (project.acyclic_walk acyclic index)

theorem price_append (items more : List WorkItem) :
    project.price (items ++ more) = project.price items + project.price more := by
  simp [price]

theorem price_at_all (acyclic : project.Acyclic) (slides : List Nat) :
    project.price (slides.flatMap project.workAt) =
      (slides.map (project.entryCost (project.slides.length + 1))).sum := by
  induction slides with
  | nil => rfl
  | cons index rest ih =>
      rw [List.flatMap_cons, price_append, price_at project acyclic, ih, List.map_cons, List.sum_cons]

theorem price_le_bound (items : List WorkItem) (member : items ∈ project.beginnings) :
    project.price items ≤ project.stepBound :=
  List.single_le_sum (fun _ _ => Nat.zero_le _) _ (List.mem_map_of_mem member)

end Project

namespace Player

variable (project : Project)

-- A turn is paid for by the item that is taken; what the item brings was counted with it.
theorem turn_costs_one (acyclic : project.Acyclic) (item : WorkItem) (rest : Queue WorkItem)
    (player : Player) (taken : player.queue.next? = some (item, rest)) :
    project.price (doItem project item { player with queue := rest }).1.queue.toList + 1 =
      project.price player.queue.toList := by
  rw [do_item_brings, Queue.to_list_of_next? player.queue rest item taken, Project.price_append,
    Project.price_at_all project acyclic]
  simp only [Project.price, Project.cost, List.map_cons, List.sum_cons]
  omega

theorem finished_within (acyclic : project.Acyclic) (steps : Nat) (player : Player)
    (enough : project.price player.queue.toList ≤ steps) :
    (player.work project steps).1.queue.next? = none := by
  induction steps generalizing player with
  | zero =>
      cases taken : player.queue.next? with
      | none => exact taken
      | some next =>
          have paid := turn_costs_one project acyclic next.1 next.2 player taken
          omega
  | succ steps ih =>
      simp only [work]
      cases taken : player.queue.next? with
      | none => exact taken
      | some next =>
          have paid := turn_costs_one project acyclic next.1 next.2 player taken
          exact ih _ (by omega)

theorem fires_beginning (command : Command) (player : Player) :
    player.fires project command = [] ∨ (player.fires project command).map .fire ∈ project.beginnings := by
  unfold fires
  cases fired : player.current.bind fun index => (project.slides[index]?).bind fun slide =>
      (player.hits slide command).map (slide.clickTriggers index) with
  | none => exact .inl rfl
  | some refs =>
      obtain ⟨index, _, onSlide⟩ := Option.bind_eq_some_iff.mp fired
      obtain ⟨slide, there, clicked⟩ := Option.bind_eq_some_iff.mp onSlide
      obtain ⟨⟨i, j⟩, _, rfl⟩ := Option.map_eq_some_iff.mp clicked
      cases found : slide.layers[i]?.bind (·.objects[j]?) with
      | none => exact .inl (by simp [Slide.clickTriggers, found])
      | some object =>
          obtain ⟨layer, layerThere, objectThere⟩ := Option.bind_eq_some_iff.mp found
          have atSlide := List.mk_mem_zipIdx_iff_getElem?.mpr there
          have atLayer := List.mk_mem_zipIdx_iff_getElem?.mpr layerThere
          have atObject := List.mk_mem_zipIdx_iff_getElem?.mpr objectThere
          refine .inr (List.mem_flatMap.mpr ⟨(slide, index), atSlide, List.mem_cons_of_mem _ ?_⟩)
          exact List.mem_flatMap.mpr ⟨(layer, i), atLayer, List.mem_map.mpr ⟨(object, j), atObject, rfl⟩⟩

theorem entered_beginning (index : Nat) (slide : Slide) (there : project.slides[index]? = some slide) :
    slide.entryWork index ∈ project.beginnings :=
  List.mem_flatMap.mpr ⟨(slide, index), List.mk_mem_zipIdx_iff_getElem?.mpr there, List.mem_cons_self⟩

section Commands

variable (command : Command) (player : Player) (settled : player.Settled)

include settled

theorem begun_entered (index : Nat) (enters : command.enters project = some index) :
    (player.begun project command).1.queue.toList = project.workAt index := by
  obtain ⟨slide, there, _⟩ := command_enters project command index enters
  simp only [begun, enters, enter_slide_at project index slide _ there, standOn, Queue.to_list_append,
    (base_settled command player settled).1, Project.workAt, there]
  rfl

theorem begun_within : project.price (player.begun project command).1.queue.toList ≤ project.stepBound := by
  cases enters : command.enters project with
  | some index =>
      obtain ⟨slide, there, _⟩ := command_enters project command index enters
      rw [begun_entered project command player settled index enters, Project.workAt, there]
      exact project.price_le_bound _ (entered_beginning project index slide there)
  | none =>
      have waits : (player.begun project command).1.queue.toList =
          (player.fires project command).map .fire := by
        simp only [begun, enters, Queue.to_list_append, (base_settled command player settled).1]
        rfl
      rw [waits]
      rcases fires_beginning project command player with nothing | member
      · rw [nothing]
        exact Nat.zero_le _
      · exact project.price_le_bound _ member

end Commands

section Played

variable (options : Options) (history : List Command) (command : Command) (response : Response)
variable (answered : ((Player.start options).run history).respond command = .ok response)
variable (loaded : response.player.project = some project)

include answered loaded

theorem played_worked :
    let begun := ((Player.start options).run history).begun project command
    Worked project begun response ∧ begun.1.options = options := by
  intro begun
  have settled := run_keeps_settled history _ (start_settled options)
  have answer := respond_answer _ command response answered
  have base := (answer_project _ command response settled answer).symm.trans loaded
  refine ⟨answer_worked project _ command response settled base answer, ?_⟩
  exact (begun_options project command _).trans (run_options history _ (start_settled options))

theorem acyclic_played (acyclic : project.Acyclic) (enough : project.stepBound ≤ options.maxQueueSteps) :
    response.events.filterMap Event.overrun? = [] := by
  obtain ⟨worked, kept⟩ := played_worked project options history command response answered loaded
  refine worked_within project command _ response worked ((workload_le_iff project _ _).mpr ?_)
  refine finished_within project acyclic _ _ (Nat.le_trans ?_ (kept.symm ▸ enough))
  exact begun_within project command _ (run_keeps_settled history _ (start_settled options))

theorem endless_played (index : Nat) (enters : command.enters project = some index)
    (endless : project.Endless index) :
    response.events.filterMap Event.overrun? = [options.maxQueueSteps] := by
  obtain ⟨worked, kept⟩ := played_worked project options history command response answered loaded
  have settled := run_keeps_settled history _ (start_settled options)
  rw [← kept]
  refine worked_beyond project command _ response worked (driven_workload project _ ?_ _)
  rw [begun_entered project command _ settled index enters]
  exact driven_at project index endless

end Played

/-- A project without cycles of slides has a bound of its own: under a limit that is no lower, no
command of any session on the project reports the limit. On any other project, a command that enters
a slide from which a cycle is reached reports the limit once, however high it is. -/
theorem only_cycles_overrun :
    (project.Acyclic → ∀ options history command response, project.stepBound ≤ options.maxQueueSteps →
      ((Player.start options).run history).respond command = .ok response →
      response.player.project = some project → response.events.filterMap Event.overrun? = []) ∧
    ∀ options history command response index,
      ((Player.start options).run history).respond command = .ok response →
      response.player.project = some project → command.enters project = some index →
      project.Endless index → response.events.filterMap Event.overrun? = [options.maxQueueSteps] :=
  ⟨fun acyclic options history command response enough answered loaded =>
      acyclic_played project options history command response answered loaded acyclic enough,
    fun options history command response index answered loaded enters endless =>
      endless_played project options history command response answered loaded index enters endless⟩

def tour : Project :=
  ((Project.start "tour" "Tour").withSlide
    ((Slide.start "front").withLayer ((Layer.start "front").withObject
      ((SlideObject.button "go" "front").withTrigger
        ((Trigger.start "turn" .onTimelineStart).navigate "back"))))).withSlide (Slide.start "back")

theorem tour_acyclic : tour.Acyclic := by
  have front : ∀ item ∈ tour.workAt 0, ∀ next ∈ item.destinations tour, 0 < next := by decide +kernel
  have back : ∀ item ∈ tour.workAt 1, ∀ next ∈ item.destinations tour, 1 < next := by decide +kernel
  have forward : ∀ source target, tour.Leads source target → source < target := by
    intro source target leads
    obtain ⟨item, member, goes⟩ := (tour.leads_iff source target).mp leads
    match source with
    | 0 => exact front item member target goes
    | 1 => exact back item member target goes
    | source + 2 => cases member
  intro index round
  have ascends : ∀ target, Relation.TransGen tour.Leads index target → index < target := by
    intro target way
    induction way with
    | single leads => exact forward _ _ leads
    | tail _ leads before => exact Nat.lt_trans before (forward _ _ leads)
  exact Nat.lt_irrefl index (ascends index round)

theorem carousel_endless : carousel.Endless 0 := by
  have there : carousel.Leads 0 1 :=
    (carousel.leads_iff 0 1).mpr ⟨.fire ⟨0, 0, 0, 0⟩, by decide +kernel, by decide +kernel⟩
  have back : carousel.Leads 1 0 :=
    (carousel.leads_iff 1 0).mpr ⟨.fire ⟨1, 0, 0, 0⟩, by decide +kernel, by decide +kernel⟩
  exact ⟨0, .refl, .tail (.single there) back⟩

theorem tour_ends_and_carousel_does_not :
    let player := Player.start ⟨true, 4⟩
    tour.Acyclic ∧ tour.stepBound = 4 ∧
      (player.loadUnchecked tour).2.filterMap Event.overrun? = [] ∧
      carousel.Endless 0 ∧ (player.loadUnchecked carousel).2.filterMap Event.overrun? = [4] := by
  intro player
  have bound : tour.stepBound = 4 := by decide +kernel
  have ends := (only_cycles_overrun tour).1 tour_acyclic ⟨true, 4⟩ [] (.loadUnchecked tour) _
    (Nat.le_of_eq bound) rfl rfl
  have overruns := (only_cycles_overrun carousel).2 ⟨true, 4⟩ [] (.loadUnchecked carousel) _ 0
    rfl rfl rfl carousel_endless
  exact ⟨tour_acyclic, bound, ends, carousel_endless, overruns⟩

end Player

end Slideshow
