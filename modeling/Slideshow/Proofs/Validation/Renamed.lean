import Mathlib.Data.List.Count
import Slideshow.Proofs.Playback.Renaming
import Slideshow.Proofs.Validation.Phases

set_option autoImplicit false

namespace Slideshow

def TriggerSite.renamed (site : TriggerSite) (σ : Renaming) : TriggerSite :=
  { site with host := site.host.renamed σ, trigger := site.trigger.renamed σ }

theorem nodup_of_once (ids : List String) (once : ∀ id, ¬ 2 ≤ ids.count id) : ids.Nodup :=
  List.nodup_iff_count.mpr fun id => Nat.le_of_lt_succ (Nat.lt_of_not_le (once id))

section Valid

variable {project : Project} (valid : project.diagnostics = [])
include valid

theorem slide_ids_nodup : (project.slides.map (·.id)).Nodup :=
  nodup_of_once _ fun id => (Violation.diagnostics_nil_iff project).mp valid (.repeatedSlide id)

theorem slide_index_unique (i j : Nat) (slide other : Slide) (there : project.slides[i]? = some slide)
    (thereToo : project.slides[j]? = some other) (same : slide.id = other.id) : i = j := by
  have within : i < (project.slides.map (·.id)).length := by
    rw [List.length_map]
    exact (List.getElem?_eq_some_iff.mp there).1
  refine (List.getElem?_inj within (slide_ids_nodup valid)).mp ?_
  rw [List.getElem?_map, List.getElem?_map, there, thereToo, Option.map_some, Option.map_some, same]

theorem variable_ids_nodup : (project.declarations.map (·.id)).Nodup :=
  nodup_of_once _ fun id => (Violation.diagnostics_nil_iff project).mp valid (.repeatedVariable id)

theorem layer_ids_nodup (i : Nat) (slide : Slide) (there : project.slides[i]? = some slide) :
    (slide.layers.map (·.id)).Nodup :=
  nodup_of_once _ fun id twice =>
    (Violation.diagnostics_nil_iff project).mp valid (.repeatedLayer i slide id) ⟨there, twice⟩

end Valid

theorem repeated_of_renamed (ids : List String) (rename : String → String)
    (injective : Function.Injective rename) (id : String) (twice : 2 ≤ (ids.map rename).count id) :
    ∃ old, 2 ≤ ids.count old := by
  have member : id ∈ ids.map rename := List.count_pos_iff.mp (Nat.lt_of_succ_lt twice)
  obtain ⟨old, _, rfl⟩ := List.mem_map.mp member
  rw [List.count_map_of_injective ids rename injective] at twice
  exact ⟨old, twice⟩

section Ids

variable (σ : Renaming)

theorem object_ids_renamed (layer : Layer) :
    (layer.renamed σ).objects.map (·.id) = (layer.objects.map (·.id)).map (σ.of .object) := by
  simp [Layer.renamed, SlideObject.renamed]

theorem layer_ids_renamed (slide : Slide) :
    (slide.renamed σ).layers.map (·.id) = (slide.layers.map (·.id)).map (σ.of .layer) := by
  simp [Slide.renamed, Layer.renamed]

theorem slide_ids_renamed (project : Project) :
    (project.renamed σ).slides.map (·.id) = (project.slides.map (·.id)).map (σ.of .slide) := by
  simp [Project.renamed, Slide.renamed]

theorem variable_ids_renamed (project : Project) :
    (project.renamed σ).declarations.map (·.id) =
      (project.declarations.map (·.id)).map (σ.of .variable) := by
  simp [Project.renamed, Variable.renamed]

end Ids

theorem slides_reordered {project other : Project} (reorders : project.Reorders other) :
    other.slides.Perm project.slides := by
  have first := reorders.first
  have others := reorders.others
  cases atLeft : project.slides with
  | nil =>
      cases atRight : other.slides with
      | nil => exact .refl _
      | cons slide rest => simp [atLeft, atRight] at first
  | cons slide rest =>
      cases atRight : other.slides with
      | nil => simp [atLeft, atRight] at first
      | cons twin tail =>
          simp only [atLeft, atRight, List.head?_cons, Option.some.injEq, List.tail_cons] at first others
          exact first ▸ others.cons slide

theorem site_of_renamed (σ : Renaming) (slide : Slide) (site : TriggerSite)
    (on : site.On (slide.renamed σ)) : ∃ source : TriggerSite, source.On slide ∧ source.renamed σ = site := by
  obtain ⟨j, k, t, host, trigger⟩ := site
  obtain ⟨_, layerOn, hostOn, triggerOn⟩ := on
  obtain ⟨layer, layerThere, rfl⟩ := mapped_at _ _ j _ layerOn
  obtain ⟨source, hostThere, rfl⟩ := mapped_at _ _ k _ hostOn
  obtain ⟨original, triggerThere, rfl⟩ := mapped_at _ _ t _ triggerOn
  exact ⟨⟨j, k, t, source, original⟩, ⟨layer, layerThere, hostThere, triggerThere⟩, rfl⟩

section Renamed

variable {σ : Renaming} {p q : Project}

theorem slide_of_renamed (reorders : (p.renamed σ).Reorders q) (j : Nat) (twin : Slide)
    (there : q.slides[j]? = some twin) :
    ∃ (i : Nat) (slide : Slide), p.slides[i]? = some slide ∧ slide.renamed σ = twin := by
  have member := (slides_reordered reorders).mem_iff.mp (List.mem_of_getElem? there)
  obtain ⟨slide, inProject, rfl⟩ := List.mem_map.mp member
  obtain ⟨i, stands⟩ := List.mem_iff_getElem?.mp inProject
  exact ⟨i, slide, stands, rfl⟩

theorem slide_to_renamed (reorders : (p.renamed σ).Reorders q) (slide : Slide) (member : slide ∈ p.slides) :
    slide.renamed σ ∈ q.slides :=
  (slides_reordered reorders).mem_iff.mpr (List.mem_map_of_mem member)

theorem variable_to_renamed (reorders : (p.renamed σ).Reorders q) (v : Variable)
    (member : v ∈ p.declarations) : v.renamed σ ∈ q.declarations :=
  reorders.declarations.mem_iff.mpr (List.mem_map_of_mem member)

theorem site_of_reordered (reorders : (p.renamed σ).Reorders q) (j : Nat) (twin : Slide)
    (other : TriggerSite) (there : q.slides[j]? = some twin) (on : other.On twin) :
    ∃ (i : Nat) (slide : Slide) (site : TriggerSite), p.slides[i]? = some slide ∧ site.On slide ∧
      slide.renamed σ = twin ∧ site.renamed σ = other := by
  obtain ⟨i, slide, stands, rfl⟩ := slide_of_renamed reorders j twin there
  obtain ⟨site, onSlide, same⟩ := site_of_renamed σ slide other on
  exact ⟨i, slide, site, stands, onSlide, rfl, same⟩

theorem violation_of_renamed (reorders : (p.renamed σ).Reorders q) (v : Violation)
    (violated : q.Violates v) : ∃ w, p.Violates w := by
  cases v with
  | blankName => exact ⟨.blankName, by rwa [Project.Violates, reorders.name] at violated⟩
  | repeatedSlide id =>
      rw [Project.Violates, ((slides_reordered reorders).map _).count_eq, slide_ids_renamed] at violated
      obtain ⟨old, twice⟩ := repeated_of_renamed _ _ (σ.injective _) id violated
      exact ⟨.repeatedSlide old, twice⟩
  | repeatedVariable id =>
      rw [Project.Violates, (reorders.declarations.map _).count_eq, variable_ids_renamed] at violated
      obtain ⟨old, twice⟩ := repeated_of_renamed _ _ (σ.injective _) id violated
      exact ⟨.repeatedVariable old, twice⟩
  | blankTitle j twin =>
      obtain ⟨i, slide, there, rfl⟩ := slide_of_renamed reorders j twin violated.1
      exact ⟨.blankTitle i slide, there, violated.2⟩
  | noWidth j twin =>
      obtain ⟨i, slide, there, rfl⟩ := slide_of_renamed reorders j twin violated.1
      exact ⟨.noWidth i slide, there, violated.2⟩
  | noHeight j twin =>
      obtain ⟨i, slide, there, rfl⟩ := slide_of_renamed reorders j twin violated.1
      exact ⟨.noHeight i slide, there, violated.2⟩
  | repeatedLayer j twin id =>
      obtain ⟨i, slide, there, rfl⟩ := slide_of_renamed reorders j twin violated.1
      have repeated := violated.2
      rw [layer_ids_renamed] at repeated
      obtain ⟨old, twice⟩ := repeated_of_renamed _ _ (σ.injective _) id repeated
      exact ⟨.repeatedLayer i slide old, there, twice⟩
  | repeatedObject j twin n other id =>
      obtain ⟨i, slide, there, rfl⟩ := slide_of_renamed reorders j twin violated.1
      obtain ⟨layer, layerThere, rfl⟩ := mapped_at _ _ n other violated.2.1
      have repeated := violated.2.2
      rw [object_ids_renamed] at repeated
      obtain ⟨old, twice⟩ := repeated_of_renamed _ _ (σ.injective _) id repeated
      exact ⟨.repeatedObject i slide n layer old, there, layerThere, twice⟩
  | emptyTrigger j twin other =>
      obtain ⟨i, slide, site, there, on, rfl, rfl⟩ :=
        site_of_reordered reorders j twin other violated.1 violated.2.1
      exact ⟨.emptyTrigger i slide site, there, on, List.map_eq_nil_iff.mp violated.2.2⟩
  | missingVariable j twin other a target =>
      obtain ⟨i, slide, site, there, on, rfl, rfl⟩ :=
        site_of_reordered reorders j twin other violated.1 violated.2.1
      obtain ⟨_, _, ⟨_, _, named⟩, unknown⟩ := violated
      obtain ⟨action, actionThere, same⟩ := mapped_at _ _ a _ named
      cases action with
      | setVariable old =>
          cases same
          refine ⟨.missingVariable i slide site a old, there, on, ⟨_, _, actionThere⟩, ?_⟩
          exact fun v member equal =>
            unknown _ (variable_to_renamed reorders v member) (congrArg (σ.of .variable) equal)
      | _ => cases same
  | missingSlide j twin other a target =>
      obtain ⟨i, slide, site, there, on, rfl, rfl⟩ :=
        site_of_reordered reorders j twin other violated.1 violated.2.1
      obtain ⟨_, _, named, unknown⟩ := violated
      obtain ⟨action, actionThere, same⟩ := mapped_at _ _ a _ named
      cases action with
      | navigateToSlide old =>
          cases same
          refine ⟨.missingSlide i slide site a old, there, on, actionThere, ?_⟩
          exact fun known member equal =>
            unknown _ (slide_to_renamed reorders known member) (congrArg (σ.of .slide) equal)
      | _ => cases same
  | missingLayer j twin other a target =>
      obtain ⟨i, slide, site, there, on, rfl, rfl⟩ :=
        site_of_reordered reorders j twin other violated.1 violated.2.1
      obtain ⟨_, _, named, unknown⟩ := violated
      have missing : ∀ old, σ.of .layer old = target → ∀ layer ∈ slide.layers, layer.id ≠ old := by
        rintro old rfl layer member equal
        exact unknown _ (List.mem_map_of_mem member) (congrArg (σ.of .layer) equal)
      rcases named with named | named
      · obtain ⟨action, actionThere, same⟩ := mapped_at _ _ a _ named
        cases action with
        | showLayer old =>
            refine ⟨.missingLayer i slide site a old, there, on, .inl actionThere, missing old ?_⟩
            exact Action.showLayer.inj same
        | _ => cases same
      · obtain ⟨action, actionThere, same⟩ := mapped_at _ _ a _ named
        cases action with
        | hideLayer old =>
            refine ⟨.missingLayer i slide site a old, there, on, .inr actionThere, missing old ?_⟩
            exact Action.hideLayer.inj same
        | _ => cases same
  | missingObject j twin other target =>
      obtain ⟨i, slide, site, there, on, rfl, rfl⟩ :=
        site_of_reordered reorders j twin other violated.1 violated.2.1
      obtain ⟨_, _, named, unknown⟩ := violated
      obtain ⟨old, names, rfl⟩ := Option.map_eq_some_iff.mp named
      refine ⟨.missingObject i slide site old, there, on, names, fun layer member object inLayer same => ?_⟩
      exact unknown _ (List.mem_map_of_mem member) _ (List.mem_map_of_mem inLayer)
        (congrArg (σ.of .object) same)

end Renamed

structure Project.Twin (p : Project) (σ : Renaming) (q : Project) : Prop where
  valid : p.diagnostics = []
  reorders : (p.renamed σ).Reorders q

theorem twin_valid {σ : Renaming} {p q : Project} (twin : p.Twin σ q) : q.diagnostics = [] := by
  refine (Violation.diagnostics_nil_iff q).mpr fun v violated => ?_
  obtain ⟨w, violatedToo⟩ := violation_of_renamed twin.reorders v violated
  exact (Violation.diagnostics_nil_iff p).mp twin.valid w violatedToo

end Slideshow
