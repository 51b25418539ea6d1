import Slideshow.Proofs.Playback.Careful
import Slideshow.Proofs.Playback.ClickCount
import Slideshow.Proofs.Validation.Report

set_option autoImplicit false

namespace Slideshow

structure Enumerates {α : Type} (before : α → α → Prop) (among : α → Prop) (list : List α) : Prop where
  complete : ∀ x, x ∈ list ↔ among x
  ordered : list.Pairwise before

def TriggerRef.Before (ref other : TriggerRef) : Prop := ref.position < other.position

def TriggerSite.ref (site : TriggerSite) (index : Nat) : TriggerRef :=
  ⟨index, site.layer, site.object, site.index⟩

namespace Slide

variable (slide : Slide) (index : Nat)

def listed : List TriggerRef := slide.sites.map (·.ref index)

def places : List ObjectPosition :=
  slide.layers.zipIdx.flatMap fun (layer, i) => layer.objects.zipIdx.map fun (_, j) => ⟨i, j⟩

theorem places_enumerated :
    Enumerates ObjectPosition.Behind (fun place => (slide.objectAt? place).isSome) slide.places := by
  constructor
  · intro place
    simp only [places, List.mem_flatMap, List.mem_map, Prod.exists, List.mk_mem_zipIdx_iff_getElem?,
      objectAt?, Option.isSome_iff_exists, Option.bind_eq_some_iff]
    constructor
    · rintro ⟨layer, i, layerThere, object, j, objectThere, rfl⟩
      exact ⟨object, layer, layerThere, objectThere⟩
    · rintro ⟨object, layer, layerThere, objectThere⟩
      exact ⟨layer, _, layerThere, object, _, objectThere, rfl⟩
  · have ranked : Ranked (fun place : ObjectPosition => [place.layer, place.object]) [] slide.places := by
      simp only [places, List.map_eq_flatMap]
      exact ranked_numbered _ _ fun layer i _ => ranked_numbered _ _ fun object j _ =>
        ranked_single _ _ (List.prefix_refl _)
    refine ranked.ascending.imp fun {place other} ascends => ?_
    simpa [ObjectPosition.Behind, List.cons_lt_cons_iff] using ascends

theorem listed_ranked : Ranked TriggerRef.position [index] (slide.listed index) := by
  simp only [listed, sites, List.map_flatMap, List.map_map]
  refine ranked_numbered _ _ fun layer i _ => ranked_numbered _ _ fun host j _ => ?_
  rw [List.map_eq_flatMap]
  exact ranked_numbered _ _ fun trigger t _ => ranked_single _ _ (List.prefix_refl _)

theorem listed_for_event (event : TriggerType) :
    (slide.sites.filter (·.trigger.event = event)).map (·.ref index) =
      slide.layers.zipIdx.flatMap fun (layer, i) => layer.objects.zipIdx.flatMap fun (object, j) =>
        (object.triggersFor event).map fun t => ⟨index, i, j, t⟩ := by
  simp only [sites, SlideObject.triggersFor, List.filter_flatMap, List.map_flatMap, List.filter_map,
    List.map_map]
  rfl

theorem clicks_at_places :
    slide.places.flatMap (slide.clickTriggers index) =
      slide.layers.zipIdx.flatMap fun (layer, i) => layer.objects.zipIdx.flatMap fun (object, j) =>
        (object.triggersFor .onClick).map fun t => ⟨index, i, j, t⟩ := by
  simp only [places, List.flatMap_assoc, List.flatMap_map]
  refine List.flatMap_congr fun (layer, i) inSlide => List.flatMap_congr fun (object, j) inLayer => ?_
  have layerThere := List.mk_mem_zipIdx_iff_getElem?.mp inSlide
  have objectThere := List.mk_mem_zipIdx_iff_getElem?.mp inLayer
  simp only [clickTriggers, layerThere, Option.bind_some, objectThere]

section There

variable {slide : Slide} {index : Nat} {project : Project} (there : project.slides[index]? = some slide)
include there

theorem site_resolves (site : TriggerSite) (on : site.On slide) :
    (site.ref index).resolve project = some site.trigger := by
  obtain ⟨layer, layerThere, hostThere, triggerThere⟩ := on
  exact (resolve_eq_some_iff _ _ _).mpr ⟨slide, layer, site.host, there, layerThere, hostThere, triggerThere⟩

theorem mem_listed_iff (ref : TriggerRef) :
    ref ∈ slide.listed index ↔ ref.slide = index ∧ (ref.resolve project).isSome := by
  simp only [listed, List.mem_map, mem_sites_iff]
  constructor
  · rintro ⟨site, on, rfl⟩
    exact ⟨rfl, by rw [site_resolves there site on]; rfl⟩
  · rintro ⟨rfl, resolves⟩
    obtain ⟨trigger, resolved⟩ := Option.isSome_iff_exists.mp resolves
    obtain ⟨_, layer, object, thereToo, layerThere, objectThere, triggerThere⟩ :=
      (resolve_eq_some_iff _ _ _).mp resolved
    cases there.symm.trans thereToo
    exact ⟨⟨ref.layer, ref.object, ref.trigger, object, trigger⟩,
      ⟨layer, layerThere, objectThere, triggerThere⟩, rfl⟩

theorem listed_enumerated :
    Enumerates TriggerRef.Before (fun ref => ref.slide = index ∧ (ref.resolve project).isSome)
      (slide.listed index) :=
  ⟨mem_listed_iff there, (slide.listed_ranked index).ascending⟩

theorem listed_answering (event : TriggerType) :
    (slide.listed index).filter (·.answers project event) =
      (slide.sites.filter (·.trigger.event = event)).map (·.ref index) := by
  rw [listed, List.filter_map]
  refine congrArg _ (List.filter_congr fun site member => ?_)
  have resolved := site_resolves there site ((mem_sites_iff slide site).mp member)
  simp [TriggerRef.answers, resolved]

theorem entry_triggers_listed :
    slide.entryTriggers index = (slide.listed index).filter (·.answers project .onTimelineStart) := by
  rw [listed_answering there, listed_for_event]
  rfl

theorem click_triggers_listed :
    slide.places.flatMap (slide.clickTriggers index) =
      (slide.listed index).filter (·.answers project .onClick) := by
  rw [listed_answering there, listed_for_event, clicks_at_places]

end There

theorem resolved_listed (project : Project) (ref : TriggerRef) (resolves : (ref.resolve project).isSome) :
    ∃ slide, project.slides[ref.slide]? = some slide ∧ ref ∈ slide.listed ref.slide := by
  obtain ⟨trigger, resolved⟩ := Option.isSome_iff_exists.mp resolves
  obtain ⟨slide, _, _, there, _⟩ := (resolve_eq_some_iff project ref trigger).mp resolved
  exact ⟨slide, there, (mem_listed_iff there ref).mpr ⟨rfl, resolves⟩⟩

end Slide

-- Each id that a trigger names is reported if it names nothing, and only then.
structure TriggerSite.Checked (project : Project) (index : Nat) (slide : Slide) (site : TriggerSite) : Prop where
  actions : ∀ a action, site.trigger.actions[a]? = some action →
    ((Violation.ofAction index slide site a action).diagnostic ∈ validate (some project) ↔
      ¬ action.Resolves project slide)
  target : ∀ target, site.trigger.target = some target →
    ((Violation.missingObject index slide site target).diagnostic ∈ validate (some project) ↔
      target ∉ slide.objects.map (·.2.id))

section Checks

variable {project : Project} {index : Nat} {slide : Slide} (there : project.slides[index]? = some slide)
variable (site : TriggerSite) (on : site.On slide)
include there on

theorem action_placed (a : Nat) (action : Action) (own : site.trigger.actions[a]? = some action) :
    (Violation.ofAction index slide site a action).Placed project := by
  cases action with
  | navigateToSlide target => exact ⟨there, on, own⟩
  | setVariable target operation operand => exact ⟨there, on, operation, operand, own⟩
  | showLayer target => exact ⟨there, on, .inl own⟩
  | hideLayer target => exact ⟨there, on, .inr own⟩

theorem site_checked : site.Checked project index slide := by
  constructor
  · intro a action own
    rw [Violation.reported_iff project _ (action_placed there site on a action own)]
    exact action_violates_iff project index slide site there on a action own
  · intro target named
    have placed : (Violation.missingObject index slide site target).Placed project := ⟨there, on, named⟩
    rw [Violation.reported_iff project _ placed, not_among_objects_iff]
    simp [Project.Violates, there, on, named]

end Checks

namespace Player

section Runs

variable (project : Project) (command : Command) (player : Player)

theorem awaited_resolves (ids : List String) (work : List WorkItem)
    (awaits : player.Awaits project command ids work) (ref : TriggerRef) (waits : .fire ref ∈ work) :
    (ref.resolve project).isSome := by
  have resolves : ∀ event index, ref.Leads project event index → (ref.resolve project).isSome := by
    rintro event index ⟨_, trigger, resolved, _⟩
    rw [resolved]
    rfl
  rcases awaits.triggers ref waits with ⟨_, index, _, leads⟩ | ⟨_, _, index, _, _, leads⟩
  · exact resolves .onClick index leads
  · exact resolves .onTimelineStart index leads

theorem runs_resolve (settled : player.Settled) (ref : TriggerRef)
    (member : ref ∈ (player.begun project command).1.runs project) : (ref.resolve project).isSome := by
  obtain ⟨turn, done, fires⟩ := List.mem_filterMap.mp member
  have item : turn.item = .fire ref := by
    cases same : turn.item with
    | fire other => simpa [same, WorkItem.fired?] using fires
    | settle index => simp [same, WorkItem.fired?] at fires
  have awaits := all_work_awaits project command player settled
    (player.begun project command).1.options.maxQueueSteps
  exact awaited_resolves project command player _ _ awaits ref
    (List.mem_append_left _ (List.mem_map.mpr ⟨turn, done, item⟩))

end Runs

/-- On each slide of a project the validator lists the triggers that can be found there, all of them and each
one once, in the order of the document. Those that start when the slide is entered are the ones of this list
that wait for it, in the same order, and the clicks on all objects, one object after another, fire the ones
that wait for a click. Of each trigger listed the validator reports the ids that name nothing and no others;
and whatever a session runs, of any project, is a trigger listed on a slide of that project. -/
theorem no_trigger_escapes (project : Project) :
    (∀ index slide, project.slides[index]? = some slide →
      let listed := slide.listed index
      Enumerates TriggerRef.Before (fun ref => ref.slide = index ∧ (ref.resolve project).isSome) listed ∧
        slide.entryTriggers index = listed.filter (·.answers project .onTimelineStart) ∧
        Enumerates ObjectPosition.Behind (fun place => (slide.objectAt? place).isSome) slide.places ∧
        slide.places.flatMap (slide.clickTriggers index) = listed.filter (·.answers project .onClick) ∧
        ∀ site ∈ slide.sites, (site.ref index).resolve project = some site.trigger ∧
          site.Checked project index slide) ∧
      ∀ options history command response,
        let player := (Player.start options).run history
        player.respond command = .ok response → response.player.project = some project →
          let begun := player.begun project command
          Worked project begun response ∧ ∀ ref ∈ begun.1.runs project,
            ∃ slide, project.slides[ref.slide]? = some slide ∧ ref ∈ slide.listed ref.slide := by
  constructor
  · intro index slide there listed
    refine ⟨Slide.listed_enumerated there, Slide.entry_triggers_listed there, slide.places_enumerated,
      Slide.click_triggers_listed there, fun site member => ?_⟩
    have on := (mem_sites_iff slide site).mp member
    exact ⟨Slide.site_resolves there site on, site_checked there site on⟩
  · intro options history command response player answered loaded begun
    have settled : player.Settled := run_keeps_settled history _ (start_settled options)
    have answer := respond_answer player command response answered
    have base := (answer_project player command response settled answer).symm.trans loaded
    refine ⟨answer_worked project player command response settled base answer, fun ref member => ?_⟩
    exact Slide.resolved_listed project ref (runs_resolve project command player settled ref member)

def stage : Slide :=
  let dim := ((Trigger.start "dim" .onClick).assign "light" (.int32 0)).withTarget "switch"
  let rise := (Trigger.start "rise" .onTimelineStart).hideLayer "curtain"
  let appear := (Trigger.start "appear" .onTimelineStart).navigate "backstage"
  let bow := (Trigger.start "bow" .onClick).toggle "light"
  (((Slide.start "stage").withLayer (Layer.start "floor")).withLayer
    (((Layer.start "lights").hidden.withObject (SlideObject.text "lamp" "off")).withObject
      (((SlideObject.image "lamp" "lamp.png").withTrigger dim).withTrigger rise))).withLayer
    ((Layer.start "actors").withObject (((SlideObject.button "hamlet" "Hamlet").withTrigger appear).withTrigger bow))

def theatre : Project :=
  ((Project.start "theatre" "Theatre").withSlide stage).withVariable (.start "light" .number (some (.int32 9)))

theorem theatre_is_checked_throughout :
    let player := Player.start ⟨false, 9⟩
    let response := done (player.loadUnchecked theatre)
    theatre.slides[0]? = some stage ∧
      stage.listed 0 = [⟨0, 1, 1, 0⟩, ⟨0, 1, 1, 1⟩, ⟨0, 2, 0, 0⟩, ⟨0, 2, 0, 1⟩] ∧
      stage.entryTriggers 0 = [⟨0, 1, 1, 1⟩, ⟨0, 2, 0, 0⟩] ∧
      stage.places.flatMap (stage.clickTriggers 0) = [⟨0, 1, 1, 0⟩, ⟨0, 2, 0, 1⟩] ∧
      (∃ site ∈ stage.sites, site.ref 0 = ⟨0, 2, 0, 0⟩ ∧
        (Violation.missingSlide 0 stage site 0 "backstage").diagnostic ∈ validate (some theatre)) ∧
      player.respond (.loadUnchecked theatre) = .ok response ∧ response.player.project = some theatre ∧
      (⟨0, 2, 0, 0⟩ : TriggerRef) ∈ (player.begun theatre (.loadUnchecked theatre)).1.runs theatre ∧
      ∃ slide, theatre.slides[0]? = some slide ∧ (⟨0, 2, 0, 0⟩ : TriggerRef) ∈ slide.listed 0 := by
  intro player response
  have there : theatre.slides[0]? = some stage := rfl
  obtain ⟨lists, sessions⟩ := no_trigger_escapes theatre
  obtain ⟨_, entry, _, clicks, checks⟩ := lists 0 stage there
  have dangling : ¬ (Action.navigateToSlide "backstage").Resolves theatre stage := by
    show "backstage" ∉ theatre.slides.map (·.id)
    decide +kernel
  have member : stage.sites[2] ∈ stage.sites := List.getElem_mem _
  have reported := ((checks _ member).2.actions 0 _ rfl).mpr dangling
  have answered : player.respond (.loadUnchecked theatre) = .ok response := rfl
  have loaded : response.player.project = some theatre := rfl
  have runs : (⟨0, 2, 0, 0⟩ : TriggerRef) ∈ (player.begun theatre (.loadUnchecked theatre)).1.runs theatre := by
    decide +kernel
  have run := (sessions ⟨false, 9⟩ [] (.loadUnchecked theatre) response answered loaded).2 _ runs
  exact ⟨there, by decide +kernel, entry.trans (by decide +kernel), clicks.trans (by decide +kernel),
    ⟨_, member, rfl, reported⟩, answered, loaded, runs, run⟩

end Player

end Slideshow
