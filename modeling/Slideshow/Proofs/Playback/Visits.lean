import Slideshow.Project.Build
import Slideshow.Proofs.Playback.Begun
import Slideshow.Proofs.Playback.Circumstances

set_option autoImplicit false

namespace Slideshow

namespace Player

def visitor (player : Player) : Player :=
  { start ⟨true, player.options.maxQueueSteps⟩ with project := player.project, store := player.store }

theorem visitor_of_same (left right : Player)
    (limit : left.options.maxQueueSteps = right.options.maxQueueSteps)
    (project : left.project = right.project) (store : left.store = right.store) :
    left.visitor = right.visitor := by
  rw [visitor, visitor, limit, project, store]

-- Phase, slide and layers are those of the slide entered, and with an empty queue there is no other
-- work.
theorem stand_on_visitor (index : Nat) (slide : Slide) (player : Player) (noWork : player.queue = .empty) :
    player.standOn index slide =
      (player.visitor.standOn index slide).amid player.options.validateOnLoad player.faults := by
  simp [standOn, amid, visitor, start, noWork]

theorem visit_answered (project : Project) (here : Nat) (id : String) (player : Player)
    (noWork : player.queue = .empty) (active : player.active = .ok (project, here))
    (known : id ∈ project.slides.map (·.id)) :
    ∃ index slide, project.slides[index]? = some slide ∧ project.slideIndex? id = some index ∧
      let drained := (player.visitor.standOn index slide).drain project
      player.respond (.enter id) =
        .ok ⟨.done, drained.1.amid player.options.validateOnLoad player.faults,
          .slideChanged player.currentSlideId? id :: drained.2⟩ := by
  obtain ⟨loaded, current⟩ := (active_ok_iff player project here).mp active
  cases found : project.slideIndex? id with
  | none => exact absurd known ((slide_index_none_iff project id).mp found)
  | some index =>
      obtain ⟨slide, there, same⟩ := slide_of_index project id index found
      have ready : player.ready project = player := by simp [ready, current]
      refine ⟨index, slide, there, rfl, ?_⟩
      simp only [enter_loaded project id player loaded, found, ready, enterAndDrain,
        enter_slide_at project index slide player there, stand_on_visitor index slide player noWork,
        drain_unnoticed (amid_unnoticed _ _), same]
      rfl

/-- Two sessions on one project, with the same limit and the same variables, each on some slide after a
history of its own: entering any slide leads both to the same phase, slide, layers and variables, and
brings the same events and faults, but that each tells which slide it left. -/
theorem visits_leave_no_trace (options others : Options) (history different : List Command)
    (project : Project) (here there : Nat) (id : String)
    (limit : options.maxQueueSteps = others.maxQueueSteps) :
    let left := (start options).run history
    let right := (start others).run different
    left.active = .ok (project, here) → right.active = .ok (project, there) →
      left.store = right.store → id ∈ project.slides.map (·.id) →
      ∃ arrived other,
        left.respond (.enter id) = .ok arrived ∧ right.respond (.enter id) = .ok other ∧
        arrived.player.phase = other.player.phase ∧ arrived.player.current = other.player.current ∧
        arrived.player.layers = other.player.layers ∧ arrived.player.store = other.player.store ∧
        (∃ events, arrived.events = .slideChanged left.currentSlideId? id :: events ∧
          other.events = .slideChanged right.currentSlideId? id :: events) ∧
        ∃ faults, arrived.player.faults = left.faults ++ faults ∧
          other.player.faults = right.faults ++ faults := by
  intro left right leftActive rightActive store known
  have leftSettled : left.Settled := run_keeps_settled history _ (start_settled options)
  have rightSettled : right.Settled := run_keeps_settled different _ (start_settled others)
  have leftOptions : left.options = options := run_options history _ (start_settled options)
  have rightOptions : right.options = others := run_options different _ (start_settled others)
  have visitors : left.visitor = right.visitor := by
    refine visitor_of_same left right ?_ ?_ store
    · rw [leftOptions, rightOptions, limit]
    · rw [((active_ok_iff left project here).mp leftActive).1,
        ((active_ok_iff right project there).mp rightActive).1]
  obtain ⟨i, slide, slideThere, found, arrived⟩ :=
    visit_answered project here id left leftSettled.noWork leftActive known
  obtain ⟨j, twin, twinThere, foundToo, other⟩ :=
    visit_answered project there id right rightSettled.noWork rightActive known
  cases found.symm.trans foundToo
  cases slideThere.symm.trans twinThere
  rw [visitors] at arrived
  exact ⟨_, _, arrived, other, rfl, rfl, rfl, rfl, ⟨_, rfl, rfl⟩, _, rfl, rfl⟩

def museum : Project :=
  let light := (Trigger.start "light" .onClick).showLayer "light"
  let descend := ((Trigger.start "descend" .onTimelineStart).showLayer "stairs").navigate "hall"
  ((Project.start "museum" "Museum").withSlide ((Slide.start "hall").withLayer
    ((Layer.start "light").hidden.withObject ((SlideObject.button "lamp" "Lamp").withTrigger light)))).withSlide
      ((Slide.start "attic").withLayer
        ((Layer.start "stairs").hidden.withObject ((SlideObject.button "guide" "Guide").withTrigger descend)))

theorem museum_forgets_visits :
    let left := (start ⟨true, 9⟩).run [.loadUnchecked museum, .click "lamp"]
    let right := (start ⟨false, 9⟩).run [.loadUnchecked museum, .enter "attic"]
    left.active = .ok (museum, 0) ∧ right.active = .ok (museum, 0) ∧ left.store = right.store ∧
      left.layers.isVisible? "light" = some true ∧ right.layers.isVisible? "light" = some false ∧
      ∃ arrived other,
        left.respond (.enter "attic") = .ok arrived ∧ right.respond (.enter "attic") = .ok other ∧
        arrived.player.current = other.player.current ∧ arrived.player.layers = other.player.layers ∧
        ∃ events, arrived.events = .slideChanged left.currentSlideId? "attic" :: events ∧
          other.events = .slideChanged right.currentSlideId? "attic" :: events := by
  intro left right
  have leftActive : left.active = .ok (museum, 0) := rfl
  have rightActive : right.active = .ok (museum, 0) := rfl
  have store : left.store = right.store := rfl
  have known : "attic" ∈ museum.slides.map (·.id) := by decide
  obtain ⟨arrived, other, left, right, _, current, layers, _, events, _⟩ :=
    visits_leave_no_trace ⟨true, 9⟩ ⟨false, 9⟩ [.loadUnchecked museum, .click "lamp"]
      [.loadUnchecked museum, .enter "attic"] museum 0 0 "attic" rfl leftActive rightActive store known
  exact ⟨leftActive, rightActive, store, by decide +kernel, by decide +kernel, arrived, other, left, right,
    current, layers, events⟩

end Player

end Slideshow
