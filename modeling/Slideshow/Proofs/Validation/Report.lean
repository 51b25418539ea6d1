import Slideshow.Proofs.Validation.Phases

set_option autoImplicit false

namespace Slideshow

namespace Violation

theorem quote_injective (a b : String) (same : quoteId a = quoteId b) : a = b :=
  String.append_right_inj "\"" |>.mp (String.append_left_inj "\"" |>.mp same)

theorem site_path_iff (site other : TriggerSite) (i n : Nat) :
    site.path i = other.path n ↔ i = n ∧ site.layer = other.layer ∧ site.object = other.object ∧
      site.index = other.index := by
  simp [TriggerSite.path, triggerPath, layerPath, slidePath]

theorem action_path_injective (site other : TriggerSite) (i n a b : Nat) (name : String)
    (same : actionPath i site a name = actionPath n other b name) : site.path i = other.path n ∧ a = b := by
  obtain ⟨paths, rest⟩ := List.append_inj' same rfl
  exact ⟨paths, by simpa using rest⟩

theorem slide_path_iff (i n : Nat) (name : String) :
    slidePath i ++ [.member name] = slidePath n ++ [.member name] ↔ i = n := by
  simp [slidePath]

theorem layer_path_iff (i n j m : Nat) (name : String) :
    layerPath i j ++ [.member name] = layerPath n m ++ [.member name] ↔ i = n ∧ j = m := by
  simp [layerPath, slidePath]

theorem same_site (slide : Slide) (site other : TriggerSite) (on : site.On slide) (onToo : other.On slide)
    (layers : site.layer = other.layer) (objects : site.object = other.object)
    (triggers : site.index = other.index) : site = other := by
  obtain ⟨layer, layerThere, hostThere, triggerThere⟩ := on
  obtain ⟨layerToo, layerThereToo, hostThereToo, triggerThereToo⟩ := onToo
  obtain ⟨j, k, t, host, trigger⟩ := site
  obtain ⟨j', k', t', hostToo, triggerToo⟩ := other
  cases layers; cases objects; cases triggers
  cases layerThere.symm.trans layerThereToo
  cases hostThere.symm.trans hostThereToo
  cases triggerThere.symm.trans triggerThereToo
  rfl

theorem same_place (project : Project) (i n : Nat) (slide slideToo : Slide) (site other : TriggerSite)
    (there : project.slides[i]? = some slide) (thereToo : project.slides[n]? = some slideToo)
    (on : site.On slide) (onToo : other.On slideToo) (path : site.path i = other.path n) :
    i = n ∧ slide = slideToo ∧ site = other := by
  obtain ⟨rfl, layers, objects, triggers⟩ := (site_path_iff _ _ _ _).mp path
  cases there.symm.trans thereToo
  exact ⟨rfl, rfl, same_site slide site other on onToo layers objects triggers⟩

-- What a violation speaks of is there, whether or not it is wrong.
def Placed (project : Project) : Violation → Prop
  | .blankName | .repeatedSlide _ | .repeatedVariable _ => True
  | .blankTitle i slide | .noWidth i slide | .noHeight i slide | .repeatedLayer i slide _ =>
      project.slides[i]? = some slide
  | .repeatedObject i slide j layer _ => project.slides[i]? = some slide ∧ slide.layers[j]? = some layer
  | .emptyTrigger i slide site => project.slides[i]? = some slide ∧ site.On slide
  | .missingVariable i slide site a target =>
      project.slides[i]? = some slide ∧ site.On slide ∧
        ∃ operation operand, site.trigger.actions[a]? = some (.setVariable target operation operand)
  | .missingSlide i slide site a target =>
      project.slides[i]? = some slide ∧ site.On slide ∧
        site.trigger.actions[a]? = some (.navigateToSlide target)
  | .missingLayer i slide site a target =>
      project.slides[i]? = some slide ∧ site.On slide ∧
        (site.trigger.actions[a]? = some (.showLayer target) ∨
          site.trigger.actions[a]? = some (.hideLayer target))
  | .missingObject i slide site target =>
      project.slides[i]? = some slide ∧ site.On slide ∧ site.trigger.target = some target

theorem placed_of_violates (project : Project) (v : Violation) (violated : project.Violates v) :
    v.Placed project := by
  cases v with
  | blankName | repeatedSlide | repeatedVariable => trivial
  | blankTitle | noWidth | noHeight | repeatedLayer => exact violated.1
  | repeatedObject | emptyTrigger => exact ⟨violated.1, violated.2.1⟩
  | missingVariable | missingSlide | missingLayer | missingObject =>
      exact ⟨violated.1, violated.2.1, violated.2.2.1⟩

-- The kind tells the violations of different sorts apart, the path those of different places, and the
-- message those of different ids.
theorem diagnostic_determines (project : Project) (v w : Violation) (placed : v.Placed project)
    (placedToo : w.Placed project) (same : v.diagnostic = w.diagnostic) : v = w := by
  have kinds := congrArg Diagnostic.kind same
  have paths := congrArg Diagnostic.path same
  have messages := congrArg Diagnostic.message same
  cases v with
  | blankName => cases w with
    | blankName => rfl
    | _ => cases kinds
  | repeatedSlide id => cases w with
    | repeatedSlide other =>
        exact congrArg _ (quote_injective _ _ ((String.append_right_inj _).mp messages))
    | _ => cases kinds
  | repeatedVariable id => cases w with
    | repeatedVariable other =>
        exact congrArg _ (quote_injective _ _ ((String.append_right_inj _).mp messages))
    | _ => cases kinds
  | blankTitle i slide => cases w with
    | blankTitle n other =>
        obtain rfl := (slide_path_iff _ _ _).mp paths
        cases placed.symm.trans placedToo
        rfl
    | _ => cases kinds
  | noWidth i slide => cases w with
    | noWidth n other =>
        obtain rfl := (slide_path_iff _ _ _).mp paths
        cases placed.symm.trans placedToo
        rfl
    | _ => cases kinds
  | noHeight i slide => cases w with
    | noHeight n other =>
        obtain rfl := (slide_path_iff _ _ _).mp paths
        cases placed.symm.trans placedToo
        rfl
    | _ => cases kinds
  | repeatedLayer i slide id => cases w with
    | repeatedLayer n other idToo =>
        obtain rfl := (slide_path_iff _ _ _).mp paths
        cases placed.symm.trans placedToo
        obtain rfl := quote_injective _ _ ((String.append_right_inj _).mp messages)
        rfl
    | _ => cases kinds
  | repeatedObject i slide j layer id => cases w with
    | repeatedObject n other m layerToo idToo =>
        obtain ⟨rfl, rfl⟩ := (layer_path_iff _ _ _ _ _).mp paths
        cases placed.1.symm.trans placedToo.1
        cases placed.2.symm.trans placedToo.2
        obtain rfl := quote_injective _ _ ((String.append_right_inj _).mp messages)
        rfl
    | _ => cases kinds
  | emptyTrigger i slide site => cases w with
    | emptyTrigger n other siteToo =>
        obtain ⟨rfl, rfl, rfl⟩ := same_place project _ _ _ _ _ _ placed.1 placedToo.1 placed.2
          placedToo.2 (List.append_left_injective _ paths)
        rfl
    | _ => cases kinds
  | missingVariable i slide site a target => cases w with
    | missingVariable n other siteToo b targetToo =>
        obtain ⟨path, rfl⟩ := action_path_injective _ _ _ _ _ _ _ paths
        obtain ⟨rfl, rfl, rfl⟩ := same_place project _ _ _ _ _ _ placed.1 placedToo.1 placed.2.1
          placedToo.2.1 path
        obtain ⟨_, _, named⟩ := placed.2.2
        obtain ⟨_, _, namedToo⟩ := placedToo.2.2
        cases named.symm.trans namedToo
        rfl
    | _ => cases kinds
  | missingSlide i slide site a target => cases w with
    | missingSlide n other siteToo b targetToo =>
        obtain ⟨path, rfl⟩ := action_path_injective _ _ _ _ _ _ _ paths
        obtain ⟨rfl, rfl, rfl⟩ := same_place project _ _ _ _ _ _ placed.1 placedToo.1 placed.2.1
          placedToo.2.1 path
        cases placed.2.2.symm.trans placedToo.2.2
        rfl
    | _ => cases kinds
  | missingLayer i slide site a target => cases w with
    | missingLayer n other siteToo b targetToo =>
        obtain ⟨path, rfl⟩ := action_path_injective _ _ _ _ _ _ _ paths
        obtain ⟨rfl, rfl, rfl⟩ := same_place project _ _ _ _ _ _ placed.1 placedToo.1 placed.2.1
          placedToo.2.1 path
        rcases placed.2.2 with named | named <;> rcases placedToo.2.2 with namedToo | namedToo <;>
          cases named.symm.trans namedToo <;> rfl
    | _ => cases kinds
  | missingObject i slide site target => cases w with
    | missingObject n other siteToo targetToo =>
        obtain ⟨rfl, rfl, rfl⟩ := same_place project _ _ _ _ _ _ placed.1 placedToo.1 placed.2.1
          placedToo.2.1 (List.append_left_injective _ paths)
        cases placed.2.2.symm.trans placedToo.2.2
        rfl
    | _ => cases kinds

theorem diagnostic_injective (project : Project) (v w : Violation) (violated : project.Violates v)
    (violatedToo : project.Violates w) (same : v.diagnostic = w.diagnostic) : v = w :=
  diagnostic_determines project v w (placed_of_violates project v violated)
    (placed_of_violates project w violatedToo) same

theorem reported_iff (project : Project) (v : Violation) (placed : v.Placed project) :
    v.diagnostic ∈ validate (some project) ↔ project.Violates v := by
  have reports : validate (some project) = (phases project).flatten.map diagnostic :=
    (phases_diagnostics project).symm
  rw [reports, List.mem_map]
  constructor
  · rintro ⟨w, found, same⟩
    have violated := (mem_phases project w).mp found
    rwa [← diagnostic_determines project w v (placed_of_violates project w violated) placed same]
  · intro violated
    exact ⟨v, (mem_phases project v).mpr violated, rfl⟩

end Violation

/-- The validator reports each violation once and nothing else, in the order of the ranks, and no two
of its diagnostics are equal; so it is silent exactly if nothing is violated. -/
theorem report_is_exact (project : Project) :
    ∃ violations : List Violation,
      (∀ v, v ∈ violations ↔ project.Violates v) ∧
      violations.Pairwise (fun v w => v.rank project < w.rank project) ∧
      validate (some project) = violations.map Violation.diagnostic ∧
      (validate (some project)).Nodup ∧
      (validate (some project) = [] ↔ ∀ v, ¬ project.Violates v) := by
  have reported : validate (some project) = (Violation.phases project).flatten.map Violation.diagnostic :=
    (Violation.phases_diagnostics project).symm
  have covered := Violation.mem_phases project
  have ordered := (Violation.phases_ranked project).ascending
  refine ⟨_, covered, ordered, reported, ?_, Violation.diagnostics_nil_iff project⟩
  rw [reported]
  refine List.pairwise_map.mpr (ordered.imp_of_mem fun {v w} inReport inReportToo before same => ?_)
  cases Violation.diagnostic_injective project v w ((covered v).mp inReport) ((covered w).mp inReportToo)
    same
  exact List.lt_irrefl _ before

end Slideshow
