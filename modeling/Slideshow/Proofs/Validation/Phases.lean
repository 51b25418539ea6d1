import Slideshow.Proofs.Validation.RepeatedIds
import Slideshow.Proofs.Validation.Violation

set_option autoImplicit false

namespace Slideshow

theorem mem_sites_iff (slide : Slide) (site : TriggerSite) : site ∈ slide.sites ↔ site.On slide := by
  simp only [Slide.sites, List.mem_flatMap, List.mem_map, Prod.exists, List.mk_mem_zipIdx_iff_getElem?]
  constructor
  · rintro ⟨layer, j, layerThere, host, k, hostThere, trigger, t, triggerThere, rfl⟩
    exact ⟨layer, layerThere, hostThere, triggerThere⟩
  · rintro ⟨layer, layerThere, hostThere, triggerThere⟩
    exact ⟨layer, _, layerThere, site.host, _, hostThere, site.trigger, _, triggerThere, rfl⟩

theorem blank_iff (text : String) : Text.isBlank text = true ↔ BlankText text :=
  List.all_eq_true

theorem not_among_objects_iff (slide : Slide) (target : String) :
    target ∉ slide.objects.map (·.2.id) ↔
      ∀ layer ∈ slide.layers, ∀ object ∈ layer.objects, object.id ≠ target := by
  simp only [Slide.objects, List.mem_map, List.mem_flatMap]
  constructor
  · intro missing layer onSlide object inLayer same
    exact missing ⟨_, ⟨layer, onSlide, object, inLayer, rfl⟩, same⟩
  · rintro missing ⟨_, ⟨layer, onSlide, object, inLayer, rfl⟩, same⟩
    exact missing layer onSlide object inLayer same

namespace Violation

section Checks

variable (project : Project) (i : Nat) (slide : Slide) (j : Nat) (layer : Layer) (site : TriggerSite)
variable (a : Nat) (action : Action) (v : Violation)

def provided (faulty : Bool) (violation : Violation) : List Violation :=
  if faulty then [violation] else []

theorem mem_provided (faulty : Bool) (violation : Violation) :
    v ∈ provided faulty violation ↔ faulty = true ∧ v = violation := by
  cases faulty <;> simp [provided]

theorem provided_diagnostics (faulty : Bool) (violation : Violation) :
    (provided faulty violation).map diagnostic = diagnosticIf faulty violation.diagnostic := by
  cases faulty <;> rfl

def ofLayer : List Violation :=
  [(duplicateIds (layer.objects.map (·.id))).map (.repeatedObject i slide j layer),
    layer.objects.zipIdx.flatMap fun (host, k) =>
      host.triggers.zipIdx.flatMap fun (trigger, t) =>
        provided trigger.actions.isEmpty (.emptyTrigger i slide ⟨j, k, t, host, trigger⟩)].flatten

def ofSlide : List Violation :=
  [provided (Text.isBlank slide.title) (.blankTitle i slide),
    provided (!Validation.isPositive slide.width) (.noWidth i slide),
    provided (!Validation.isPositive slide.height) (.noHeight i slide),
    (duplicateIds (slide.layers.map (·.id))).map (.repeatedLayer i slide),
    slide.layers.zipIdx.flatMap fun (layer, j) => ofLayer i slide j layer].flatten

def ofVariable : Action → List Violation
  | .setVariable target _ _ =>
      provided (!(project.declarations.map (·.id)).contains target)
        (.missingVariable i slide site a target)
  | _ => []

def ofNavigation : Action → List Violation
  | .navigateToSlide target =>
      provided (!(project.slides.map (·.id)).contains target) (.missingSlide i slide site a target)
  | _ => []

def ofLayerAction : Action → List Violation
  | .showLayer target | .hideLayer target =>
      provided (!(slide.layers.map (·.id)).contains target) (.missingLayer i slide site a target)
  | _ => []

def ofTarget : List Violation :=
  match site.trigger.target with
  | none => []
  | some target =>
      provided (!(slide.objects.map (·.2.id)).contains target) (.missingObject i slide site target)

def eachSlide (check : Nat → Slide → List Violation) : List Violation :=
  project.slides.zipIdx.flatMap fun (slide, i) => check i slide

def eachAction (check : Nat → Slide → TriggerSite → Nat → Action → List Violation) (i : Nat)
    (slide : Slide) : List Violation :=
  slide.sites.flatMap fun site =>
    site.trigger.actions.zipIdx.flatMap fun (action, a) => check i slide site a action

def phases : List (List Violation) :=
  [provided (Text.isBlank project.name) .blankName,
    (duplicateIds (project.slides.map (·.id))).map .repeatedSlide,
    (duplicateIds (project.declarations.map (·.id))).map .repeatedVariable,
    eachSlide project ofSlide,
    eachSlide project (eachAction (ofVariable project)),
    eachSlide project (eachAction (ofNavigation project)),
    eachSlide project (eachAction ofLayerAction),
    eachSlide project fun i slide => slide.sites.flatMap (ofTarget i slide)]

theorem each_slide_diagnostics (check : Nat → Slide → List Violation)
    (reported : Slide → Nat → List Diagnostic)
    (same : ∀ i slide, (check i slide).map diagnostic = reported slide i) :
    (eachSlide project check).map diagnostic = Validation.eachSlide project reported := by
  simp only [eachSlide, Validation.eachSlide, List.map_flatMap, same]

theorem each_action_diagnostics (check : Nat → Slide → TriggerSite → Nat → Action → List Violation)
    (reported : Trigger → List PathStep → Action → List Diagnostic)
    (same : ∀ site a action, (check i slide site a action).map diagnostic =
      reported site.trigger (site.path i ++ [.member "actions", .element a]) action) :
    (eachAction check i slide).map diagnostic = Validation.eachAction slide i reported := by
  simp only [eachAction, Validation.eachAction, List.map_flatMap, same]

theorem layer_diagnostics :
    (ofLayer i slide j layer).map diagnostic =
      Validation.objectIds layer i j ++ Validation.emptyTriggers layer i j := by
  simp only [ofLayer, List.flatten_cons, List.flatten_nil, List.append_nil, List.map_append, List.map_map,
    List.map_flatMap, provided_diagnostics]
  rfl

theorem slide_diagnostics :
    (ofSlide i slide).map diagnostic = Validation.slideStructure slide i := by
  simp only [ofSlide, List.flatten_cons, List.flatten_nil, List.append_nil, List.map_append, List.map_map,
    List.map_flatMap, provided_diagnostics, layer_diagnostics, Validation.slideStructure,
    List.append_assoc]
  rfl

theorem target_diagnostics :
    (ofTarget i slide site).map diagnostic = Validation.targetReference slide i site := by
  unfold ofTarget Validation.targetReference
  cases site.trigger.target with
  | none => rfl
  | some target => exact provided_diagnostics _ _

theorem variable_diagnostics :
    (ofVariable project i slide site a action).map diagnostic =
      Validation.variableReference project site.trigger
        (site.path i ++ [.member "actions", .element a]) action := by
  cases action with
  | setVariable target operation operand =>
      simp [ofVariable, Validation.variableReference, provided_diagnostics, diagnostic, actionPath]
  | _ => rfl

theorem navigation_diagnostics :
    (ofNavigation project i slide site a action).map diagnostic =
      Validation.slideReference project site.trigger
        (site.path i ++ [.member "actions", .element a]) action := by
  cases action with
  | navigateToSlide target =>
      simp [ofNavigation, Validation.slideReference, provided_diagnostics, diagnostic, actionPath]
  | _ => rfl

theorem layer_action_diagnostics :
    (ofLayerAction i slide site a action).map diagnostic =
      Validation.layerReference slide site.trigger
        (site.path i ++ [.member "actions", .element a]) action := by
  cases action with
  | showLayer target | hideLayer target =>
      simp [ofLayerAction, Validation.layerReference, provided_diagnostics, diagnostic, actionPath]
  | _ => rfl

theorem phases_diagnostics :
    (phases project).flatten.map diagnostic = project.diagnostics := by
  have structures := each_slide_diagnostics project ofSlide _ slide_diagnostics
  have variableChecks := each_slide_diagnostics project _ _ fun i slide =>
    each_action_diagnostics i slide _ _ (variable_diagnostics project i slide)
  have slideChecks := each_slide_diagnostics project _ _ fun i slide =>
    each_action_diagnostics i slide _ _ (navigation_diagnostics project i slide)
  have layerChecks := each_slide_diagnostics project _ _ fun i slide =>
    each_action_diagnostics i slide _ _ (layer_action_diagnostics i slide)
  have targetChecks := each_slide_diagnostics project
    (fun i slide => slide.sites.flatMap (ofTarget i slide))
    (fun slide i => slide.sites.flatMap (Validation.targetReference slide i)) fun i slide => by
      simp only [List.map_flatMap, target_diagnostics]
  simp only [phases, List.flatten_cons, List.flatten_nil, List.append_nil, List.map_append, List.map_map,
    structures, variableChecks, slideChecks, layerChecks, targetChecks, provided_diagnostics,
    Project.diagnostics, List.append_assoc]
  rfl

theorem mem_each_slide (check : Nat → Slide → List Violation) :
    v ∈ eachSlide project check ↔ ∃ slide i, project.slides[i]? = some slide ∧ v ∈ check i slide := by
  simp only [eachSlide, List.mem_flatMap, Prod.exists, List.mk_mem_zipIdx_iff_getElem?]

theorem mem_each_action (check : Nat → Slide → TriggerSite → Nat → Action → List Violation) :
    v ∈ eachAction check i slide ↔
      ∃ site, site.On slide ∧ ∃ action a, site.trigger.actions[a]? = some action ∧
        v ∈ check i slide site a action := by
  simp only [eachAction, List.mem_flatMap, Prod.exists, List.mk_mem_zipIdx_iff_getElem?, mem_sites_iff]

theorem mem_of_layer :
    v ∈ ofLayer i slide j layer ↔
      (∃ id, 2 ≤ (layer.objects.map (·.id)).count id ∧ .repeatedObject i slide j layer id = v) ∨
      ∃ site : TriggerSite, site.layer = j ∧ layer.objects[site.object]? = some site.host ∧
        site.host.triggers[site.index]? = some site.trigger ∧ site.trigger.actions = [] ∧
        v = .emptyTrigger i slide site := by
  simp only [ofLayer, List.flatten_cons, List.flatten_nil, List.append_nil, List.mem_append, List.mem_map,
    mem_duplicate_ids, List.mem_flatMap, Prod.exists, List.mk_mem_zipIdx_iff_getElem?, mem_provided,
    List.isEmpty_iff]
  refine or_congr_right ⟨?_, ?_⟩
  · rintro ⟨host, k, hostThere, trigger, t, triggerThere, idle, rfl⟩
    exact ⟨⟨j, k, t, host, trigger⟩, rfl, hostThere, triggerThere, idle, rfl⟩
  · rintro ⟨site, rfl, hostThere, triggerThere, idle, rfl⟩
    exact ⟨site.host, _, hostThere, site.trigger, _, triggerThere, idle, rfl⟩

theorem mem_of_slide :
    v ∈ ofSlide i slide ↔
      (BlankText slide.title ∧ v = .blankTitle i slide) ∨
      (¬ 0 < slide.width ∧ v = .noWidth i slide) ∨
      (¬ 0 < slide.height ∧ v = .noHeight i slide) ∨
      (∃ id, 2 ≤ (slide.layers.map (·.id)).count id ∧ .repeatedLayer i slide id = v) ∨
      ∃ layer j, slide.layers[j]? = some layer ∧ v ∈ ofLayer i slide j layer := by
  simp only [ofSlide, List.flatten_cons, List.flatten_nil, List.append_nil, List.mem_append, List.mem_map,
    mem_duplicate_ids, List.mem_flatMap, Prod.exists, List.mk_mem_zipIdx_iff_getElem?, mem_provided,
    blank_iff, Validation.isPositive, Bool.not_eq_true', decide_eq_false_iff_not]

theorem mem_of_variable :
    v ∈ ofVariable project i slide site a action ↔
      ∃ target operation operand, action = .setVariable target operation operand ∧
        (∀ known ∈ project.declarations, known.id ≠ target) ∧
        v = .missingVariable i slide site a target := by
  cases action <;> simp [ofVariable, mem_provided]

theorem mem_of_navigation :
    v ∈ ofNavigation project i slide site a action ↔
      ∃ target, action = .navigateToSlide target ∧ (∀ known ∈ project.slides, known.id ≠ target) ∧
        v = .missingSlide i slide site a target := by
  cases action <;> simp [ofNavigation, mem_provided]

theorem mem_of_layer_action :
    v ∈ ofLayerAction i slide site a action ↔
      ∃ target, (action = .showLayer target ∨ action = .hideLayer target) ∧
        (∀ known ∈ slide.layers, known.id ≠ target) ∧ v = .missingLayer i slide site a target := by
  cases action <;> simp [ofLayerAction, mem_provided]

theorem mem_of_target :
    v ∈ ofTarget i slide site ↔
      ∃ target, site.trigger.target = some target ∧
        (∀ layer ∈ slide.layers, ∀ object ∈ layer.objects, object.id ≠ target) ∧
        v = .missingObject i slide site target := by
  unfold ofTarget
  cases named : site.trigger.target with
  | none => simp
  | some target =>
      have unknown : (!(slide.objects.map (·.2.id)).contains target) = true ↔
          ∀ layer ∈ slide.layers, ∀ object ∈ layer.objects, object.id ≠ target := by
        rw [Bool.not_eq_true', List.contains_eq_mem, decide_eq_false_iff_not]
        exact not_among_objects_iff slide target
      simp only [mem_provided, unknown, Option.some.injEq, exists_eq_left']

theorem mem_phases :
    v ∈ (phases project).flatten ↔ project.Violates v := by
  simp only [phases, List.flatten_cons, List.flatten_nil, List.append_nil, List.mem_append, mem_provided,
    List.mem_map, mem_duplicate_ids, mem_each_slide, mem_each_action, mem_of_slide, mem_of_layer,
    mem_of_variable, mem_of_navigation, mem_of_layer_action, mem_of_target, List.mem_flatMap, mem_sites_iff,
    blank_iff]
  -- Of each violation only one phase speaks.
  cases v with
  | emptyTrigger i slide site =>
      simp only [Project.Violates, TriggerSite.On, ← exists_and_right, and_assoc]
      simp
  | missingLayer i slide site a target => simp [Project.Violates, or_and_right, and_or_left, exists_or]
  | _ => simp [Project.Violates]

theorem diagnostics_nil_iff : project.diagnostics = [] ↔ ∀ v, ¬ project.Violates v := by
  rw [← phases_diagnostics, List.map_eq_nil_iff, List.eq_nil_iff_forall_not_mem]
  exact forall_congr' fun v => not_congr (mem_phases project v)

end Checks

section Order

variable {project : Project} {start : List Nat}

theorem ranked_provided (faulty : Bool) (v : Violation) (below : start <+: v.rank project) :
    Ranked (rank project) start (provided faulty v) := by
  cases faulty with
  | false => exact ranked_nil start
  | true => exact ranked_single start v below

theorem ranked_repeated (ids : List String) (repeated : String → Violation)
    (placed : ∀ id, (repeated id).rank project = start ++ [ids.idxOf id]) :
    Ranked (rank project) start ((duplicateIds ids).map repeated) := by
  constructor
  · refine List.pairwise_map.mpr ((duplicate_ids_ascend ids).imp fun {a b} before => ?_)
    rw [placed, placed]
    exact rank_lt_of_position start _ _ _ _ before (List.prefix_refl _) (List.prefix_refl _)
  · intro v member
    obtain ⟨id, _, rfl⟩ := List.mem_map.mp member
    rw [placed]
    exact List.prefix_append start _

theorem ranked_sites (slide : Slide) (found : TriggerSite → List Violation)
    (each : ∀ site, site.On slide →
      Ranked (rank project) (start ++ [site.layer, site.object, site.index]) (found site)) :
    Ranked (rank project) start (slide.sites.flatMap found) := by
  simp only [Slide.sites, List.flatMap_assoc, List.flatMap_map]
  refine ranked_numbered _ _ fun layer j layerThere => ?_
  refine ranked_numbered _ _ fun host k hostThere => ?_
  refine ranked_numbered _ _ fun trigger t triggerThere => ?_
  simpa using each ⟨j, k, t, host, trigger⟩ ⟨layer, layerThere, hostThere, triggerThere⟩

theorem ranked_each_slide (check : Nat → Slide → List Violation)
    (each : ∀ i slide, Ranked (rank project) (start ++ [i]) (check i slide)) :
    Ranked (rank project) start (eachSlide project check) :=
  ranked_numbered _ _ fun slide i _ => each i slide

theorem ranked_each_action (check : Nat → Slide → TriggerSite → Nat → Action → List Violation) (i : Nat)
    (slide : Slide)
    (each : ∀ site a action,
      Ranked (rank project) (start ++ [site.layer, site.object, site.index, a])
        (check i slide site a action)) :
    Ranked (rank project) start (eachAction check i slide) := by
  refine ranked_sites slide _ fun site _ => ranked_numbered _ _ fun action a _ => ?_
  simpa using each site a action

theorem ranked_of_layer (i : Nat) (slide : Slide) (j : Nat) (layer : Layer) :
    Ranked (rank project) [3, i, 4, j] (ofLayer i slide j layer) := by
  refine ranked_blocks _ fun block n there => ?_
  match n, there with
  | 0, rfl => exact ranked_repeated _ _ fun id => rfl
  | 1, rfl =>
      refine ranked_numbered _ _ fun host k _ => ranked_numbered _ _ fun trigger t _ => ?_
      exact ranked_provided _ _ (List.prefix_refl _)

theorem ranked_of_slide (i : Nat) (slide : Slide) :
    Ranked (rank project) [3, i] (ofSlide i slide) := by
  refine ranked_blocks _ fun block n there => ?_
  match n, there with
  | 0, rfl => exact ranked_provided _ _ (List.prefix_refl _)
  | 1, rfl => exact ranked_provided _ _ (List.prefix_refl _)
  | 2, rfl => exact ranked_provided _ _ (List.prefix_refl _)
  | 3, rfl => exact ranked_repeated _ _ fun id => rfl
  | 4, rfl => exact ranked_numbered _ _ fun layer j _ => ranked_of_layer i slide j layer

theorem phases_ranked (project : Project) : Ranked (rank project) [] (phases project).flatten := by
  refine ranked_blocks _ fun block n there => ?_
  match n, there with
  | 0, rfl => exact ranked_provided _ _ (List.prefix_refl _)
  | 1, rfl => exact ranked_repeated _ _ fun id => rfl
  | 2, rfl => exact ranked_repeated _ _ fun id => rfl
  | 3, rfl => exact ranked_each_slide _ ranked_of_slide
  | 4, rfl =>
      refine ranked_each_slide _ fun i slide => ranked_each_action _ i slide fun site a action => ?_
      cases action with
      | setVariable => exact ranked_provided _ _ (List.prefix_refl _)
      | _ => exact ranked_nil _
  | 5, rfl =>
      refine ranked_each_slide _ fun i slide => ranked_each_action _ i slide fun site a action => ?_
      cases action with
      | navigateToSlide => exact ranked_provided _ _ (List.prefix_refl _)
      | _ => exact ranked_nil _
  | 6, rfl =>
      refine ranked_each_slide _ fun i slide => ranked_each_action _ i slide fun site a action => ?_
      cases action with
      | showLayer | hideLayer => exact ranked_provided _ _ (List.prefix_refl _)
      | _ => exact ranked_nil _
  | 7, rfl =>
      refine ranked_each_slide _ fun i slide => ranked_sites slide _ fun site _ => ?_
      unfold ofTarget
      split
      · exact ranked_nil _
      · exact ranked_provided _ _ (List.prefix_refl _)

end Order

end Violation

end Slideshow
