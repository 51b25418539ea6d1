import Mathlib.Data.List.Induction
import Slideshow.Project.Build
import Slideshow.Proofs.Playback.Order
import Slideshow.Proofs.Playback.Refusal

set_option autoImplicit false

namespace Slideshow

section Last

variable {α β : Type} (f : α × Nat → Option β)

theorem last_found_concat (list : List α) (last : α) :
    (list ++ [last]).zipIdx.reverse.findSome? f =
      (f (last, list.length)).or (list.zipIdx.reverse.findSome? f) := by
  rw [List.zipIdx_append, List.reverse_append, List.findSome?_append]
  simp

theorem last_found (list : List α) (b : β) (found : list.zipIdx.reverse.findSome? f = some b) :
    ∃ i a, list[i]? = some a ∧ f (a, i) = some b ∧
      ∀ k c, list[k]? = some c → i < k → f (c, k) = none := by
  induction list using List.reverseRecOn with
  | nil => cases found
  | append_singleton list last ih =>
      rw [last_found_concat] at found
      cases here : f (last, list.length) with
      | some other =>
          refine ⟨list.length, last, by simp, ?_, fun k c there after => ?_⟩
          · rw [here] at found ⊢
            exact found
          · have inside := (List.getElem?_eq_some_iff.mp there).1
            simp at inside
            omega
      | none =>
          rw [here, Option.none_or] at found
          obtain ⟨i, a, there, result, later⟩ := ih found
          have inside := (List.getElem?_eq_some_iff.mp there).1
          refine ⟨i, a, by rwa [List.getElem?_append_left inside], result, fun k c thereToo after => ?_⟩
          by_cases before : k < list.length
          · rw [List.getElem?_append_left before] at thereToo
            exact later k c thereToo after
          · have bound := (List.getElem?_eq_some_iff.mp thereToo).1
            have atEnd : k = list.length := by
              simp at bound
              omega
            subst atEnd
            obtain rfl : last = c := by simpa using thereToo
            exact here

theorem last_missing_iff (list : List α) :
    list.zipIdx.reverse.findSome? f = none ↔ ∀ i a, list[i]? = some a → f (a, i) = none := by
  simp only [List.findSome?_eq_none_iff, List.mem_reverse, Prod.forall, List.mk_mem_zipIdx_iff_getElem?]
  exact forall_comm

end Last

def Reply.hit? : Reply → Option String
  | .hit object => object
  | _ => none

def ObjectPosition.Behind (position other : ObjectPosition) : Prop :=
  position.layer < other.layer ∨ position.layer = other.layer ∧ position.object < other.object

namespace Slide

def objectAt? (slide : Slide) (position : ObjectPosition) : Option SlideObject :=
  slide.layers[position.layer]?.bind (·.objects[position.object]?)

def Meets (slide : Slide) (shown : Layer → Bool) (point : Point) (position : ObjectPosition)
    (object : SlideObject) : Prop :=
  ∃ layer, slide.layers[position.layer]? = some layer ∧ shown layer = true ∧
    layer.objects[position.object]? = some object ∧ object.isAt point = true

variable (slide : Slide) (shown : Layer → Bool) (point : Point)

def hitIn (layer : Layer × Nat) : Option (ObjectPosition × SlideObject) :=
  if shown layer.1 then
    (lastIndexed? (·.isAt point) layer.1.objects).map fun found => (⟨layer.2, found.2⟩, found.1)
  else none

theorem hit_among_eq (layers : List (Layer × Nat)) :
    hitAmong? shown point layers = layers.findSome? (hitIn shown point) := by
  induction layers with
  | nil => rfl
  | cons head rest ih =>
      obtain ⟨layer, i⟩ := head
      simp only [hitAmong?, List.findSome?_cons, hitIn, ih]
      by_cases visible : shown layer = true
      · simp only [if_pos visible]
        cases lastIndexed? (·.isAt point) layer.objects <;> rfl
      · simp only [if_neg visible]

theorem last_indexed_eq {α : Type} (passes : α → Bool) (list : List α) :
    lastIndexed? passes list = list.zipIdx.reverse.findSome? (Option.guard fun entry => passes entry.1) :=
  List.find?_eq_findSome?_guard

theorem last_indexed_none_iff {α : Type} (passes : α → Bool) (list : List α) :
    lastIndexed? passes list = none ↔ ∀ (j : Nat) (a : α), list[j]? = some a → passes a = false := by
  rw [last_indexed_eq, last_missing_iff]
  simp

theorem last_indexed_last {α : Type} (passes : α → Bool) (list : List α) (a : α) (j : Nat)
    (found : lastIndexed? passes list = some (a, j)) :
    list[j]? = some a ∧ passes a = true ∧ ∀ k c, list[k]? = some c → j < k → passes c = false := by
  rw [last_indexed_eq] at found
  obtain ⟨i, b, there, result, later⟩ := last_found _ list (a, j) found
  obtain ⟨same, passed⟩ := Option.guard_eq_some_iff.mp result
  cases same
  exact ⟨there, passed, fun k c thereToo after => by simpa using later k c thereToo after⟩

theorem hit_in_none_iff (layer : Layer) (i : Nat) :
    hitIn shown point (layer, i) = none ↔ shown layer = true →
      ∀ (j : Nat) (object : SlideObject), layer.objects[j]? = some object → object.isAt point = false := by
  unfold hitIn
  by_cases visible : shown layer = true
  · simp [visible, last_indexed_none_iff]
  · simp [visible]

theorem hit_test_none_iff :
    slide.hitTest? shown point = none ↔ ∀ position object, ¬ slide.Meets shown point position object := by
  simp only [hitTest?, hit_among_eq, last_missing_iff, hit_in_none_iff]
  constructor
  · rintro nothing position object ⟨layer, there, visible, objectThere, here⟩
    exact Bool.false_ne_true ((nothing _ layer there visible _ object objectThere).symm.trans here)
  · intro nothing i layer there visible j object objectThere
    exact Bool.eq_false_iff.mpr fun here => nothing ⟨i, j⟩ object ⟨layer, there, visible, objectThere, here⟩

theorem hit_test_topmost (position : ObjectPosition) (object : SlideObject)
    (hit : slide.hitTest? shown point = some (position, object)) :
    slide.Meets shown point position object ∧ ∀ other twin, slide.Meets shown point other twin →
      other = position ∨ other.Behind position := by
  rw [hitTest?, hit_among_eq] at hit
  obtain ⟨i, layer, there, found, noLayer⟩ := last_found _ slide.layers _ hit
  have visible : shown layer = true := by
    by_contra hidden
    simp [hitIn, hidden] at found
  simp only [hitIn, if_pos visible] at found
  obtain ⟨⟨front, j⟩, last, same⟩ := Option.map_eq_some_iff.mp found
  cases same
  obtain ⟨objectThere, here, noObject⟩ := last_indexed_last _ layer.objects front j last
  refine ⟨⟨layer, there, visible, objectThere, here⟩, ?_⟩
  rintro ⟨m, n⟩ twin ⟨host, hostThere, hostVisible, twinThere, twinHere⟩
  rcases Nat.lt_trichotomy m i with below | rfl | above
  · exact .inr (.inl below)
  · cases there.symm.trans hostThere
    rcases Nat.lt_trichotomy n j with below | rfl | above
    · exact .inr (.inr ⟨rfl, below⟩)
    · exact .inl rfl
    · exact absurd ((noObject n twin twinThere above).symm.trans twinHere) Bool.false_ne_true
  · have missed := (hit_in_none_iff shown point host m).mp (noLayer m host hostThere above)
    exact absurd ((missed hostVisible n twin twinThere).symm.trans twinHere) Bool.false_ne_true

theorem located_at (id : String) (position : ObjectPosition) (located : slide.locate? id = some position) :
    ∃ object, slide.objectAt? position = some object ∧ object.id = id := by
  obtain ⟨⟨layer, i⟩, member, found⟩ := List.exists_of_findSome?_eq_some located
  obtain ⟨j, first, rfl⟩ := Option.map_eq_some_iff.mp found
  obtain ⟨inside, same, _⟩ := List.findIdx?_eq_some_iff_getElem.mp first
  refine ⟨layer.objects[j], ?_, by simpa using same⟩
  simp [objectAt?, List.mk_mem_zipIdx_iff_getElem?.mp member, inside]

theorem located_of_once (id : String) (position : ObjectPosition) (object : SlideObject)
    (there : slide.objectAt? position = some object) (same : object.id = id)
    (once : ∀ other twin, slide.objectAt? other = some twin → twin.id = id → other = position) :
    slide.locate? id = some position := by
  cases located : slide.locate? id with
  | none =>
      obtain ⟨layer, layerThere, objectThere⟩ := Option.bind_eq_some_iff.mp there
      exact absurd same ((locate_none_iff slide id).mp located layer (List.mem_of_getElem? layerThere) object
        (List.mem_of_getElem? objectThere))
  | some other =>
      obtain ⟨twin, twinThere, sameToo⟩ := located_at slide id other located
      rw [once other twin twinThere sameToo]

end Slide

namespace Player

structure ShowsAt (slide : Slide) (point : Point) (player : Player) (position : ObjectPosition)
    (object : SlideObject) : Prop where
  shown : ∃ layer, slide.layers[position.layer]? = some layer ∧
    player.layers.isVisible? layer.id = some true ∧ layer.objects[position.object]? = some object
  visible : object.visible = true
  inside : object.bounds.contains point = true

-- What firing triggers does to a player: they are run before all else, one after another, and then those
-- of the slides entered. If the limit is reached, that is reported and only the last ones are missing.
structure RunsFirst (project : Project) (triggers runs : List TriggerRef) (player : Player)
    (response : Response) : Prop where
  first : triggers.take player.options.maxQueueSteps <+: runs
  part : runs <+: due project triggers response.events
  whole : (∀ limit, Event.fault (.stepLimitExceeded limit) ∉ response.events) →
    runs = due project triggers response.events
  straight : Straight project runs (player, []) response

section Standing

variable (project : Project) (index : Nat) (slide : Slide) (player : Player)

-- Every layer of the current slide is known to the session, so what its author chose is not asked for.
theorem shows_iff (stands : player.Stands project index slide) (layer : Layer) (own : layer ∈ slide.layers) :
    player.shows layer = true ↔ player.layers.isVisible? layer.id = some true := by
  have known : layer.id ∈ player.layers.visibility.keys := (stands.layers _).mpr (List.mem_map_of_mem own)
  obtain ⟨visible, present⟩ := Option.isSome_iff_exists.mp ((IdMap.mem_keys_iff _ _).mp known)
  simp [shows, LayerState.isVisible?, present]

theorem meets_iff (stands : player.Stands project index slide) (point : Point) (position : ObjectPosition)
    (object : SlideObject) :
    slide.Meets player.shows point position object ↔ player.ShowsAt slide point position object := by
  constructor
  · rintro ⟨layer, there, shown, objectThere, here⟩
    obtain ⟨visible, inside⟩ := Bool.and_eq_true_iff.mp here
    have known := (shows_iff project index slide player stands layer (List.mem_of_getElem? there)).mp shown
    exact ⟨⟨layer, there, known, objectThere⟩, visible, inside⟩
  · rintro ⟨⟨layer, there, known, objectThere⟩, visible, inside⟩
    have shown := (shows_iff project index slide player stands layer (List.mem_of_getElem? there)).mpr known
    exact ⟨layer, there, shown, objectThere, Bool.and_eq_true_iff.mpr ⟨visible, inside⟩⟩

variable (active : player.active = .ok (project, index)) (there : project.slides[index]? = some slide)

include active there

theorem pointer_missed (point : Point) (missed : slide.hitTest? player.shows point = none) :
    player.respond (.pointerDown point) = .ok ⟨.hit none, player, []⟩ := by
  have pointed : project.pointed? index player.shows point = none := by
    simp [Project.pointed?, there, missed]
  simp only [respond, pointerDown, active, bind, Except.bind, pointed]
  rfl

theorem pointer_hit (point : Point) (position : ObjectPosition) (object : SlideObject)
    (hit : slide.hitTest? player.shows point = some (position, object)) :
    let dispatched := player.dispatch project (slide.clickTriggers index position)
    player.respond (.pointerDown point) = .ok ⟨.hit (some object.id), dispatched.1, dispatched.2⟩ := by
  have pointed : project.pointed? index player.shows point =
      some (object.id, slide.clickTriggers index position) := by
    simp [Project.pointed?, there, hit]
  simp only [respond, pointerDown, active, bind, Except.bind, pointed]
  rfl

theorem click_hit (id : String) (position : ObjectPosition) (located : slide.locate? id = some position) :
    let triggers := slide.clickTriggers index position
    let dispatched := player.dispatch project triggers
    player.respond (.click id) = .ok ⟨.fired triggers.length, dispatched.1, dispatched.2⟩ := by
  have clicked : project.clicked? index id = some (slide.clickTriggers index position) := by
    simp [Project.clicked?, there, located]
  simp only [respond, click, active, bind, Except.bind, clicked]
  rfl

theorem pointer_runs_first (point : Point) (position : ObjectPosition) (object : SlideObject)
    (response : Response) (settled : player.Settled)
    (hit : slide.hitTest? player.shows point = some (position, object))
    (answered : player.respond (.pointerDown point) = .ok response) :
    let begun := player.begun project (.pointerDown point)
    Worked project begun response ∧
      RunsFirst project (slide.clickTriggers index position) (begun.1.runs project) player response := by
  intro begun
  obtain ⟨loaded, current⟩ := (active_ok_iff player project index).mp active
  have fires : player.fires project (.pointerDown point) = slide.clickTriggers index position := by
    simp [fires_pointed project index point player current, Project.pointed?, there, hit]
  have worked := answer_worked project player (.pointerDown point) response settled loaded
    (respond_answer player _ _ answered)
  have waits := begun_waits project (.pointerDown point) player settled
  obtain ⟨later, _, ran⟩ := fires_run_first project (.pointerDown point) player settled
  rw [fires] at waits ran
  obtain ⟨part, whole, straight⟩ := worked_in_order project _ begun player response waits rfl worked
  exact ⟨worked, ran ▸ List.prefix_append _ _, part, whole, straight⟩

end Standing

/-- Between two commands of any session on a slide, a pointer clicks the object in front among those
that are shown at the point, and gives its id. What it does to the session is to run the triggers of
this object for clicks, which is also what a click on that id does if no other object of the slide has
it. If no object is shown there, nothing is changed or reported. -/
theorem pointer_clicks_topmost (options : Options) (history : List Command) (point : Point)
    (project : Project) (index : Nat)
    (active : ((start options).run history).active = .ok (project, index)) :
    let player := (start options).run history
    let begun := player.begun project (.pointerDown point)
    ∃ slide hit after events, project.slides[index]? = some slide ∧
      player.respond (.pointerDown point) = .ok ⟨.hit hit, after, events⟩ ∧
      (hit.isSome = true ↔ ∃ position object, player.ShowsAt slide point position object) ∧
      (hit = none → after = player ∧ events = []) ∧
      ∀ id, hit = some id → ∃ position object triggers,
        player.ShowsAt slide point position object ∧ object.id = id ∧
        (∀ other twin, player.ShowsAt slide point other twin →
          other = position ∨ other.Behind position) ∧
        Gathered project .onClick (fun ref => ref.slide = index ∧ position = ⟨ref.layer, ref.object⟩)
          triggers ∧
        player.dispatch project triggers = (after, events) ∧
        Worked project begun ⟨.hit hit, after, events⟩ ∧
        RunsFirst project triggers (begun.1.runs project) player ⟨.hit hit, after, events⟩ ∧
        ((∀ other twin, slide.objectAt? other = some twin → twin.id = id → other = position) →
          player.respond (.click id) = .ok ⟨.fired triggers.length, after, events⟩) := by
  intro player begun
  have settled : player.Settled := run_keeps_settled history _ (start_settled options)
  obtain ⟨loaded, current⟩ := (active_ok_iff player project index).mp active
  obtain ⟨_, slide, loadedToo, _, stands, _⟩ := settled.onSlide index current
  cases loaded.symm.trans loadedToo
  have meets := meets_iff project index slide player stands point
  cases hit : slide.hitTest? player.shows point with
  | none =>
      have nothing := (slide.hit_test_none_iff player.shows point).mp hit
      have answered := pointer_missed project index slide player active stands.there point hit
      refine ⟨slide, none, player, [], stands.there, answered, ?_, fun _ => ⟨rfl, rfl⟩, nofun⟩
      refine iff_of_false Bool.false_ne_true ?_
      rintro ⟨position, object, shown⟩
      exact nothing position object ((meets position object).mpr shown)
  | some found =>
      obtain ⟨position, object⟩ := found
      obtain ⟨met, front⟩ := slide.hit_test_topmost player.shows point position object hit
      have shown := (meets position object).mp met
      have answered := pointer_hit project index slide player active stands.there point position object hit
      refine ⟨slide, some object.id, _, _, stands.there, answered,
        iff_of_true rfl ⟨position, object, shown⟩, nofun, ?_⟩
      obtain ⟨worked, runs⟩ :=
        pointer_runs_first project index slide player active stands.there point position object _ settled hit answered
      rintro id ⟨⟩
      refine ⟨position, object, slide.clickTriggers index position, shown, rfl, fun other twin visible => ?_,
        click_triggers_gathered project index slide position stands.there, rfl, worked, runs, fun once => ?_⟩
      · exact front other twin ((meets other twin).mpr visible)
      · obtain ⟨layer, layerThere, _, objectThere, _⟩ := met
        have placed : slide.objectAt? position = some object := by
          simp [Slide.objectAt?, layerThere, objectThere]
        exact click_hit project index slide player active stands.there object.id position
          (slide.located_of_once object.id position object placed rfl once)

def desk : Project :=
  let lift := (Trigger.start "lift" .onClick).showLayer "lid"
  let count := (Trigger.start "count" .onClick).add "lifts" (.int32 1)
  ((Project.start "desk" "Desk").withSlide (((Slide.start "top").withLayer
    ((((Layer.start "sheets").withObject (SlideObject.text "paper" "Paper")).withObject
      (((SlideObject.text "note" "Note").withTrigger lift).withTrigger count)).withObject
        (SlideObject.text "draft" "Draft").hidden)).withLayer
          ((Layer.start "lid").hidden.withObject (SlideObject.image "glass" "glass.png")))).withVariable
            (.start "lifts" .number (some (.int32 0)))

theorem desk_is_clicked_in_front :
    let player := (start ⟨false, 9⟩).run [.loadUnchecked desk]
    let point : Point := ⟨10, 20⟩
    player.active = .ok (desk, 0) ∧ player.layers.isVisible? "lid" = some false ∧
      ∃ slide after events position object, desk.slides[0]? = some slide ∧
        player.respond (.pointerDown point) = .ok ⟨.hit (some "note"), after, events⟩ ∧
        player.ShowsAt slide point position object ∧ object.id = "note" ∧
        (∀ other twin, player.ShowsAt slide point other twin → other = position ∨ other.Behind position) ∧
        (player.begun desk (.pointerDown point)).1.runs desk = [⟨0, 0, 1, 0⟩, ⟨0, 0, 1, 1⟩] ∧
        after.layers.isVisible? "lid" = some true ∧ after.store.get? "lifts" = some (.int32 1) ∧
        events = [.layerChanged "lid" true,
          .variableChanged "lifts" (some (.int32 0)) (.int32 1)] := by
  intro player point
  have active : player.active = .ok (desk, 0) := rfl
  obtain ⟨slide, hit, after, events, there, answered, _, _, front⟩ :=
    pointer_clicks_topmost ⟨false, 9⟩ [.loadUnchecked desk] point desk 0 active
  have replied : (player.respond (.pointerDown point)).toOption.map (fun response =>
      (response.reply.hit?, response.events.filterMap Event.overrun?)) = some (some "note", []) := by
    decide +kernel
  have ran : (player.begun desk (.pointerDown point)).1.runs desk = [⟨0, 0, 1, 0⟩, ⟨0, 0, 1, 1⟩] := by
    decide +kernel
  rw [answered] at replied
  obtain ⟨rfl, unreported⟩ : hit = some "note" ∧ events.filterMap Event.overrun? = [] :=
    Prod.mk.inj (Option.some.inj replied)
  obtain ⟨position, object, _, shown, same, first, _, _, _, runs, _⟩ := front "note" rfl
  have straight := runs.straight
  rw [ran] at straight
  rcases straight with ⟨told, alike⟩ | ⟨limit, told, _⟩
  · exact ⟨active, rfl, slide, after, events, position, object, there, answered, shown, same, first, ran,
      congrArg (·.layers.isVisible? "lid") alike, congrArg (·.store.get? "lifts") alike, told⟩
  · refine absurd ?_ (never_overrun events unreported limit)
    obtain rfl : events = _ := told
    exact List.mem_append_right _ (List.mem_singleton_self _)

end Player

end Slideshow
