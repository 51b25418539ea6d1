import Slideshow.Proofs.NormalValues
import Slideshow.Proofs.Playback.Begun
import Slideshow.Proofs.Playback.References

set_option autoImplicit false

namespace Slideshow

-- What is known of a session by one who only hears its events.
structure Picture where
  slide : Option String
  layers : String → Option Bool
  values : String → Option (Option Value)
  faults : List Fault

def Player.picture (player : Player) : Picture where
  slide := player.currentSlideId?
  layers := player.layers.isVisible?
  values := player.store.entry?
  faults := player.faults.toList

namespace Picture

def update (project : Option Project) (picture : Picture) : Event → Picture
  | .slideChanged _ entered =>
      { picture with
        slide := some entered
        layers :=
          match project.bind (·.findSlide? entered) with
          | some slide => (LayerState.ofSlide slide).isVisible?
          | none => picture.layers }
  | .variableChanged id _ new =>
      { picture with values := fun key => if key = id then some (some new) else picture.values key }
  | .layerChanged id visible =>
      { picture with layers := fun key => if key = id then some visible else picture.layers key }
  | .fault fault => { picture with faults := picture.faults ++ [fault] }

def replay (project : Option Project) (picture : Picture) (events : List Event) : Picture :=
  events.foldl (update project) picture

-- The event says what was known before it, and something new.
def Truthful (project : Option Project) (picture : Picture) : Event → Prop
  | .slideChanged left entered => left = picture.slide ∧ (project.bind (·.findSlide? entered)).isSome
  | .variableChanged id old new => ∃ known, picture.values id = some known ∧
      Option.Rel Value.Matches known old ∧ (old == some new) = false ∧ (known == some new) = false
  | .layerChanged id visible => picture.layers id = some (!visible)
  | .fault _ => True

def Accounts (project : Option Project) (picture : Picture) : List Event → Prop
  | [] => True
  | event :: rest => picture.Truthful project event ∧ (picture.update project event).Accounts project rest

structure Shows (picture : Picture) (player : Player) : Prop where
  slide : picture.slide = player.currentSlideId?
  layers : ∀ id, picture.layers id = player.layers.isVisible? id
  values : ∀ id, Option.Rel (Option.Rel Value.Matches) (picture.values id) (player.store.entry? id)
  faults : picture.faults = player.faults.toList

-- Values that are known and values that are stored are in normal form, so equality of one with the
-- other and of that with a third tells something of the first and the third.
structure Depicts (picture : Picture) (player : Player) : Prop where
  shows : picture.Shows player
  known : ∀ id value, picture.values id = some (some value) → value.Normal
  stored : ∀ id value, player.store.entry? id = some (some value) → value.Normal

theorem accounts_append (project : Option Project) (picture : Picture) (early late : List Event) :
    picture.Accounts project (early ++ late) ↔
      picture.Accounts project early ∧ (picture.replay project early).Accounts project late := by
  induction early generalizing picture with
  | nil => simp [Accounts, replay]
  | cons event rest ih =>
      rw [List.cons_append, Accounts, Accounts, ih, and_assoc]
      rfl

theorem replay_append (project : Option Project) (picture : Picture) (early late : List Event) :
    picture.replay project (early ++ late) = (picture.replay project early).replay project late :=
  List.foldl_append

end Picture

theorem find_slide_of_index (project : Project) (index : Nat) (slide : Slide)
    (found : project.slideIndex? slide.id = some index) (there : project.slides[index]? = some slide) :
    project.findSlide? slide.id = some slide := by
  obtain ⟨inside, same, before⟩ := List.findIdx?_eq_some_iff_getElem.mp found
  obtain ⟨_, here⟩ := List.getElem?_eq_some_iff.mp there
  refine List.find?_eq_some_iff_getElem.mpr ⟨by simp, index, inside, here, fun j earlier => ?_⟩
  simpa using before j earlier

theorem is_visible_write (layers : LayerState) (target id : String) (visible before : Bool)
    (present : layers.isVisible? target = some before) :
    (layers.write target visible).isVisible? id =
      if id = target then some visible else layers.isVisible? id := by
  have written := IdMap.get?_update layers.visibility target id visible
  by_cases same : id = target
  · subst same
    rw [if_pos rfl]
    rw [show layers.visibility.get? id = some before from present, Option.map_some, if_pos rfl] at written
    exact written
  · rw [if_neg same]
    simp only [if_neg same, Option.map_id'] at written
    exact written

theorem entry_write (store : VariableStore) (target id : String) (value : Value) (old : Option Value)
    (declared : store.entry? target = some old) :
    VariableStore.entry? (store.write target value) id =
      if id = target then some (some value.normalized) else store.entry? id := by
  have written := IdMap.get?_update store.values target id (some value.normalized)
  by_cases same : id = target
  · subst same
    rw [if_pos rfl]
    rw [show store.values.get? id = some old from declared, Option.map_some, if_pos rfl] at written
    exact written
  · rw [if_neg same]
    simp only [if_neg same, Option.map_id'] at written
    exact written

namespace Player

def Accounted (project : Project) (before : Player) (events : List Event) (after : Player) : Prop :=
  before.project = some project → ∀ picture : Picture, picture.Depicts before →
    after.project = some project ∧ picture.Accounts (some project) events ∧
      (picture.replay (some project) events).Depicts after

section Steps

variable (project : Project)

theorem accounted_silent (before after : Player) (projects : after.project = before.project)
    (current : after.current = before.current)
    (layers : ∀ id, after.layers.isVisible? id = before.layers.isVisible? id)
    (store : after.store = before.store) (faults : after.faults = before.faults) :
    Accounted project before [] after := by
  intro loaded picture depicts
  have shows := depicts.shows
  have slides : after.currentSlideId? = before.currentSlideId? := by
    rw [currentSlideId?, currentSlideId?, projects, current]
  refine ⟨projects.trans loaded, trivial, ⟨shows.slide.trans slides.symm, ?_, ?_, ?_⟩, depicts.known, ?_⟩
  · exact fun id => (shows.layers id).trans (layers id).symm
  · rw [store]
    exact shows.values
  · exact shows.faults.trans (congrArg Array.toList faults.symm)
  · rw [store]
    exact depicts.stored

theorem report_accounted (fault : Fault) (player : Player) :
    Accounted project player (player.report fault).2 (player.report fault).1 := by
  intro loaded picture depicts
  have shows := depicts.shows
  refine ⟨loaded, ⟨trivial, trivial⟩, ⟨shows.slide, shows.layers, shows.values, ?_⟩, depicts.known,
    depicts.stored⟩
  simp [Picture.replay, Picture.update, report, shows.faults]

theorem stand_on_accounted (index : Nat) (slide : Slide) (player : Player)
    (there : project.slides[index]? = some slide) (first : project.slideIndex? slide.id = some index) :
    Accounted project player [.slideChanged player.currentSlideId? slide.id]
      (player.standOn index slide) := by
  intro loaded picture depicts
  have shows := depicts.shows
  have found := find_slide_of_index project index slide first there
  have stood : (player.standOn index slide).currentSlideId? = some slide.id := by
    simp [currentSlideId?, standOn, loaded, there]
  refine ⟨loaded, ⟨⟨shows.slide.symm, by simp [found]⟩, trivial⟩,
    ⟨stood.symm, ?_, shows.values, shows.faults⟩, depicts.known, depicts.stored⟩
  intro id
  simp [Picture.replay, Picture.update, found, standOn]

theorem write_layer_accounted (target : String) (visible before : Bool) (player : Player)
    (present : player.layers.isVisible? target = some before) :
    Accounted project player (if before = visible then [] else [.layerChanged target visible])
      { player with layers := player.layers.write target visible } := by
  have written := fun id => is_visible_write player.layers target id visible before present
  by_cases unchanged : before = visible
  · rw [if_pos unchanged]
    refine accounted_silent project player _ rfl rfl (fun id => ?_) rfl rfl
    rw [written]
    by_cases same : id = target
    · rw [if_pos same, same, present, unchanged]
    · rw [if_neg same]
  · rw [if_neg unchanged]
    intro loaded picture depicts
    have shows := depicts.shows
    have opposite : before = !visible := by
      cases before <;> cases visible <;> simp_all
    refine ⟨loaded, ⟨?_, trivial⟩, ⟨shows.slide, fun id => ?_, shows.values, shows.faults⟩, depicts.known,
      depicts.stored⟩
    · exact (shows.layers target).trans (opposite ▸ present)
    · rw [written, ← shows.layers id]
      rfl

theorem unreported_matches (known old : Option Value) (value : Value)
    (knownNormal : ∀ v, known = some v → v.Normal) (oldNormal : ∀ v, old = some v → v.Normal)
    (normal : value.Normal) (tells : Option.Rel Value.Matches known old)
    (unchanged : (old == some value) = true) : Option.Rel Value.Matches known (some value) := by
  cases tells with
  | none => cases unchanged
  | some matched =>
      have equal :=
        Value.matches_beq_trans (knownNormal _ rfl) (oldNormal _ rfl) normal matched unchanged
      exact .some (.inr equal)

theorem changed_differs (known old : Option Value) (value : Value)
    (knownNormal : ∀ v, known = some v → v.Normal) (oldNormal : ∀ v, old = some v → v.Normal)
    (normal : value.Normal) (tells : Option.Rel Value.Matches known old)
    (changed : (old == some value) = false) : (known == some value) = false := by
  cases tells with
  | none => rfl
  | some matched =>
      refine Bool.eq_false_iff.mpr fun same => ?_
      have equal := Value.matches_beq_euclid (knownNormal _ rfl) (oldNormal _ rfl) normal matched same
      exact Bool.eq_false_iff.mp changed equal

theorem known_of_stored (picture : Picture) (target : String) (old : Option Value) (player : Player)
    (shows : picture.Shows player) (declared : player.store.entry? target = some old) :
    ∃ known, picture.values target = some known ∧ Option.Rel Value.Matches known old := by
  have tells := shows.values target
  rw [declared] at tells
  cases present : picture.values target with
  | none =>
      rw [present] at tells
      cases tells
  | some known =>
      rw [present] at tells
      cases tells with
      | some matched => exact ⟨known, rfl, matched⟩

theorem write_stored_normal (target : String) (old : Option Value) (value : Value) (store : VariableStore)
    (declared : store.entry? target = some old)
    (stored : ∀ id v, store.entry? id = some (some v) → v.Normal) :
    ∀ id v, VariableStore.entry? (store.write target value) id = some (some v) → v.Normal := by
  intro id v present
  rw [entry_write store target id value old declared] at present
  by_cases same : id = target
  · rw [if_pos same] at present
    cases present
    exact value.normalized_normalized
  · rw [if_neg same] at present
    exact stored id v present

theorem write_accounted (target : String) (old : Option Value) (value : Value) (player : Player)
    (declared : player.store.entry? target = some old) :
    Accounted project player
      (if old == some value.normalized then [] else [.variableChanged target old value.normalized])
      { player with store := player.store.write target value } := by
  intro loaded picture depicts
  have shows := depicts.shows
  have normal : value.normalized.Normal := value.normalized_normalized
  have stored := write_stored_normal target old value player.store declared depicts.stored
  obtain ⟨known, present, tells⟩ := known_of_stored picture target old player shows declared
  have knownNormal : ∀ v, known = some v → v.Normal := fun v same =>
    depicts.known target v (same ▸ present)
  have oldNormal : ∀ v, old = some v → v.Normal := fun v same =>
    depicts.stored target v (same ▸ declared)
  cases reported : old == some value.normalized with
  | true =>
      rw [if_pos rfl]
      have matched :=
        unreported_matches known old value.normalized knownNormal oldNormal normal tells reported
      refine ⟨loaded, trivial, ⟨shows.slide, shows.layers, fun id => ?_, shows.faults⟩, depicts.known, stored⟩
      rw [entry_write player.store target id value old declared]
      by_cases same : id = target
      · rw [if_pos same, same]
        exact present ▸ .some matched
      · rw [if_neg same]
        exact shows.values id
  | false =>
      rw [if_neg Bool.false_ne_true]
      have differs := changed_differs known old value.normalized knownNormal oldNormal normal tells reported
      have heard : ∀ id,
          (picture.replay (some project) [.variableChanged target old value.normalized]).values id =
            if id = target then some (some value.normalized) else picture.values id := fun _ => rfl
      refine ⟨loaded, ⟨⟨known, present, tells, reported, differs⟩, trivial⟩,
        ⟨shows.slide, shows.layers, fun id => ?_, shows.faults⟩, fun id v knows => ?_, stored⟩
      · rw [heard, entry_write player.store target id value old declared]
        by_cases same : id = target
        · rw [if_pos same, if_pos same]
          exact .some (.some (.inl rfl))
        · rw [if_neg same, if_neg same]
          exact shows.values id
      · rw [heard] at knows
        by_cases same : id = target
        · rw [if_pos same] at knows
          cases knows
          exact normal
        · rw [if_neg same] at knows
          exact depicts.known id v knows

theorem outcome_accounted (trigger : String) (host : Nat) (action : Action) (player : Player)
    (result : Player × List Event) (outcome : Outcome project trigger host player action result) :
    Accounted project player result.2 result.1 := by
  cases outcome with
  | entered target index slide found there =>
      exact stand_on_accounted project index slide player there
        (first_index_of_slide project target index slide found there)
  | written target operation operand old value declared =>
      exact write_accounted project target old value player declared
  | shown target visible before here present =>
      exact write_layer_accounted project target visible before player present
  | elsewhere => exact accounted_silent project player player rfl rfl (fun _ => rfl) rfl rfl
  | noSlide | noVariable | refused | noLayer => exact report_accounted project _ player

theorem accounted_append (first : Player) (early : List Event) (middle : Player) (late : List Event)
    (last : Player) (start : Accounted project first early middle)
    (finish : Accounted project middle late last) : Accounted project first (early ++ late) last := by
  intro loaded picture depicts
  obtain ⟨loadedMiddle, told, depictsMiddle⟩ := start loaded picture depicts
  obtain ⟨loadedLast, toldLater, depictsLast⟩ := finish loadedMiddle _ depictsMiddle
  rw [Picture.replay_append]
  exact ⟨loadedLast, (Picture.accounts_append _ _ _ _).mpr ⟨told, toldLater⟩, depictsLast⟩

theorem accounted_traces : Traces project (Accounted project) where
  stay player := accounted_silent project player player rfl rfl (fun _ => rfl) rfl rfl
  append := accounted_append project
  act ref trigger action player result _ _ outcome :=
    outcome_accounted project trigger.id ref.slide action player result outcome
  settle index player := by
    rw [settle_frame]
    exact accounted_silent project player _ rfl rfl (fun _ => rfl) rfl rfl

theorem drop_work_accounted (player : Player) :
    Accounted project player player.dropWork.2 player.dropWork.1 := by
  rcases drop_work_cases player with ⟨_, undropped⟩ | dropped
  · rw [undropped]
    exact accounted_silent project player player rfl rfl (fun _ => rfl) rfl rfl
  · rw [dropped]
    have emptied : Accounted project player [] { player with queue := .empty } :=
      accounted_silent project player _ rfl rfl (fun _ => rfl) rfl rfl
    exact accounted_append project player [] _ _ _ emptied (report_accounted project _ _)

theorem drain_accounted (player : Player) :
    Accounted project player (player.drain project).2 (player.drain project).1 := by
  refine drain_traces project _ (accounted_traces project) ?_ (drop_work_accounted project) ?_ player
  · intro item rest player taken
    exact accounted_silent project player _ rfl rfl (fun _ => rfl) rfl rfl
  · intro player
    rw [arrive_frame]
    exact accounted_silent project player _ rfl rfl (fun _ => rfl) rfl rfl

theorem begun_accounted (command : Command) (player : Player) :
    Accounted project (player.base command) (player.begun project command).2
      (player.begun project command).1 := by
  unfold begun
  cases enters : command.enters project with
  | none => exact accounted_silent project _ _ rfl rfl (fun _ => rfl) rfl rfl
  | some index =>
      obtain ⟨slide, there, first⟩ := command_enters project command index enters
      simp only [enter_slide_at project index slide _ there]
      exact stand_on_accounted project index slide _ there first

theorem worked_accounted (command : Command) (player : Player) (response : Response)
    (worked : Worked project (player.begun project command) response) :
    Accounted project (player.base command) response.events response.player := by
  rw [worked.1, worked.2]
  exact accounted_append project _ _ _ _ _ (begun_accounted project command player)
    (drain_accounted project _)

end Steps

def Stored (player : Player) : Prop :=
  ∀ id value, player.store.entry? id = some (some value) → value.Normal

theorem seed_stored (project : Project) (player : Player) : (fresh project player).Stored := by
  intro id value present
  have member := IdMap.mem_of_get? (VariableStore.seed project).values id (some value) present
  obtain ⟨declared, _, same⟩ := List.mem_map.mp (IdMap.mem_of_list member)
  obtain ⟨_, values⟩ := Prod.mk.inj same
  obtain ⟨given, _, rfl⟩ := Option.map_eq_some_iff.mp values
  exact given.normalized_normalized

theorem anew_stored (player : Player) : player.anew.Stored := by
  unfold anew
  cases player.project with
  | none => exact nofun
  | some project => exact seed_stored project player

theorem base_stored (command : Command) (player : Player) (stored : player.Stored) :
    (player.base command).Stored := by
  cases command with
  | load project | loadUnchecked project => exact anew_stored _
  | restart => exact anew_stored player
  | stop => exact nofun
  | click | pointerDown | takeFaults => exact stored
  | enter id =>
      simp only [base]
      split
      · exact anew_stored player
      · exact stored

theorem picture_depicts (player : Player) (stored : player.Stored) : player.picture.Depicts player := by
  refine ⟨⟨rfl, fun _ => rfl, fun id => ?_, rfl⟩, stored, stored⟩
  simp only [picture]
  cases player.store.entry? id with
  | none => exact .none
  | some entry =>
      cases entry with
      | none => exact .some .none
      | some value => exact .some (.some (.inl rfl))

theorem answer_accounted (player : Player) (command : Command) (response : Response)
    (settled : player.Settled) (stored : player.Stored) (answer : Answer player command response) :
    (player.base command).picture.Accounts response.player.project response.events ∧
      ((player.base command).picture.replay response.player.project response.events).Depicts
        response.player := by
  have depicts := picture_depicts _ (base_stored command player stored)
  cases loaded : (player.base command).project with
  | none =>
      obtain ⟨unmoved, nothing⟩ := answer_unloaded player command response loaded answer
      rw [unmoved, nothing]
      exact ⟨trivial, depicts⟩
  | some project =>
      have worked := answer_worked project player command response settled loaded answer
      obtain ⟨still, accounts, shows⟩ :=
        worked_accounted project command player response worked loaded _ depicts
      rw [still]
      exact ⟨accounts, shows⟩

theorem run_stored (commands : List Command) (player : Player) (settled : player.Settled)
    (stored : player.Stored) : (player.run commands).Stored := by
  induction commands generalizing player with
  | nil => exact stored
  | cons command rest ih =>
      refine ih (player.after command) (after_settled player command settled) ?_
      unfold after
      cases answered : player.respond command with
      | error failure => exact stored
      | ok response =>
          have answer := respond_answer player command response answered
          exact (answer_accounted player command response settled stored answer).2.stored

/-- For any command of any session, each event tells of a change as it is, and all events together
tell what the session shows after the command: its slide, its layers, its faults and, but for values
that are equal, its variables. -/
theorem events_tell_all (options : Options) (history : List Command) (command : Command)
    (response : Response)
    (answered : ((Player.start options).run history).respond command = .ok response) :
    let known := (((Player.start options).run history).base command).picture
    let project := response.player.project
    known.Accounts project response.events ∧
      (known.replay project response.events).Shows response.player := by
  have settled := run_keeps_settled history _ (start_settled options)
  have stored := run_stored history (Player.start options) (start_settled options) nofun
  have answer := respond_answer _ command response answered
  obtain ⟨accounts, depicts⟩ := answer_accounted _ command response settled stored answer
  exact ⟨accounts, depicts.shows⟩

theorem carousel_tells_all :
    let player := Player.start ⟨true, 5⟩
    let known := (player.base (.loadUnchecked carousel)).picture
    let response := done (player.loadUnchecked carousel)
    player.respond (.loadUnchecked carousel) = .ok response ∧ response.events.length = 8 ∧
      known.Accounts response.player.project response.events ∧
      (known.replay response.player.project response.events).Shows response.player := by
  intro player known response
  have answered : (player.run []).respond (.loadUnchecked carousel) = .ok response := rfl
  have told := events_tell_all ⟨true, 5⟩ [] (.loadUnchecked carousel) response answered
  exact ⟨answered, by decide +kernel, told⟩

end Player

end Slideshow
