import Slideshow.Proofs.Playback.Abreast
import Slideshow.Proofs.Playback.References
import Slideshow.Proofs.Playback.Workload

set_option autoImplicit false

namespace Slideshow

namespace Player

def limited (limit : Nat) (player : Player) : Player :=
  { player with options := { player.options with maxQueueSteps := limit } }

def opening (command : Command) (player : Player) : List Event :=
  match (player.base command).project with
  | none => []
  | some project => (player.begun project command).2

noncomputable def effort (command : Command) (player : Player) : ℕ∞ :=
  match (player.base command).project with
  | none => 0
  | some project => (player.begun project command).1.workload project

def turns (command : Command) (steps : Nat) (player : Player) : List Turn :=
  match (player.base command).project with
  | none => []
  | some project => ((player.begun project command).1.work project steps).2

section Limited

variable (project : Project) (limit : Nat)

theorem limited_unseen : Unseen fun player other => other = player.limited limit where
  slide _ _ related := by rw [related]; rfl
  current _ _ related := by rw [related]; rfl
  store _ _ related := by rw [related]; rfl
  layers _ _ related := by rw [related]; rfl
  stand _ _ _ _ related := by rw [related]; rfl
  assign _ _ _ related := by rw [related]; rfl
  uncover _ _ _ related := by rw [related]; rfl
  report _ _ _ related := by rw [related]; rfl

theorem limited_aside : Aside (limited limit) where
  unseen := limited_unseen limit
  phase _ := rfl
  queue _ := rfl
  turn _ _ := rfl
  take _ _ := rfl

theorem work_limited (steps : Nat) (player : Player) :
    (player.limited limit).work project steps =
      ((player.work project steps).1.limited limit, (player.work project steps).2) :=
  work_aside (limited_aside limit) project steps player

theorem base_limited (command : Command) (player : Player) :
    (player.limited limit).base command = (player.base command).limited limit := by
  have anew : ∀ before : Player, (before.limited limit).anew = before.anew.limited limit := by
    intro before
    simp only [Player.anew, show (before.limited limit).project = before.project from rfl]
    cases before.project <;> rfl
  cases command with
  | load loaded | loadUnchecked loaded => exact anew { player with project := some loaded }
  | restart => exact anew player
  | stop | click | pointerDown | takeFaults => rfl
  | enter id =>
      simp only [base, show (player.limited limit).current = player.current from rfl]
      cases player.current with
      | none => exact anew player
      | some index => rfl

theorem begun_limited (command : Command) (player : Player) :
    (player.limited limit).begun project command =
      ((player.begun project command).1.limited limit, (player.begun project command).2) := by
  simp only [begun, base_limited]
  cases command.enters project with
  | none => rfl
  | some index => exact enter_slide_aside (limited_aside limit) project index _

theorem reply_limited (command : Command) (player : Player) :
    ((player.limited limit).respond command).map (·.reply) = (player.respond command).map (·.reply) := by
  cases command with
  | load loaded =>
      simp only [respond, load, show (player.limited limit).options.validateOnLoad =
        player.options.validateOnLoad from rfl]
      cases player.options.validateOnLoad with
      | false => rfl
      | true => cases loaded.validated <;> rfl
  | loadUnchecked | restart | stop | takeFaults => rfl
  | click id =>
      simp only [respond, click, show (player.limited limit).active = player.active from rfl]
      cases player.active with
      | error failure => rfl
      | ok place =>
          simp only [bind, Except.bind]
          cases place.1.clicked? place.2 id <;> rfl
  | pointerDown point =>
      simp only [respond, pointerDown, show (player.limited limit).active = player.active from rfl,
        show (player.limited limit).shows = player.shows from rfl]
      cases player.active with
      | error failure => rfl
      | ok place =>
          simp only [bind, Except.bind]
          cases place.1.pointed? place.2 player.shows point <;> rfl
  | enter id =>
      simp only [respond, enter, show (player.limited limit).project = player.project from rfl]
      cases player.project with
      | none => rfl
      | some loaded =>
          simp only []
          cases loaded.slideIndex? id <;> rfl

theorem limited_settled (player : Player) (settled : player.Settled) : (player.limited limit).Settled := by
  refine ⟨settled.noWork, settled.arrived, settled.idle_iff, settled.idleLayers,
    fun index current => ?_, settled.unloaded⟩
  obtain ⟨loaded, slide, same, phase, stands, declares⟩ := settled.onSlide index current
  exact ⟨loaded, slide, same, phase,
    ⟨stands.current, stands.there, stands.first, stands.layers⟩, declares⟩

theorem workload_limited_le (player : Player) (steps : Nat) :
    (player.limited limit).workload project ≤ steps ↔ player.workload project ≤ steps := by
  rw [workload_le_iff, workload_le_iff, work_limited]
  rfl

theorem drain_limited_within (player : Player) (steps : Nat) (enough : player.workload project ≤ steps)
    (within : steps ≤ limit) :
    (player.limited limit).drain project =
      ((player.work project steps).1.arrive.limited limit,
        (player.work project steps).2.flatMap (·.events)) := by
  have fits : player.workload project ≤ limit := enough.trans (Nat.cast_le.mpr within)
  rw [drain_within project _ ((workload_limited_le project limit player limit).mpr fits),
    show (player.limited limit).options.maxQueueSteps = limit from rfl, work_limited,
    work_enough project player steps limit enough within, arrive_aside (limited_aside limit)]

theorem drain_limited_beyond (player : Player) (beyond : limit < player.workload project) :
    ((player.limited limit).drain project).2 =
      (player.work project limit).2.flatMap (·.events) ++ [.fault (.stepLimitExceeded limit)] := by
  have tooMuch : limit < (player.limited limit).workload project :=
    not_le.mp fun fits => absurd ((workload_limited_le project limit player limit).mp fits)
      (not_le.mpr beyond)
  rw [drain_beyond project _ tooMuch, show (player.limited limit).options.maxQueueSteps = limit from rfl,
    work_limited]
  rfl

end Limited

section Answers

variable (project : Project) (limit : Nat) (command : Command) (player : Player) (response : Response)
variable (settled : player.Settled) (loaded : (player.base command).project = some project)
variable (answered : (player.limited limit).respond command = .ok response)

include settled loaded answered

theorem answered_worked :
    Worked project ((player.begun project command).1.limited limit, (player.begun project command).2)
      response := by
  have base : ((player.limited limit).base command).project = some project := by
    rw [base_limited]
    exact loaded
  have worked := answer_worked project (player.limited limit) command response
    (limited_settled limit player settled) base (respond_answer _ command response answered)
  rwa [begun_limited] at worked

theorem answered_within (steps : Nat)
    (enough : (player.begun project command).1.workload project ≤ steps) (within : steps ≤ limit) :
    response.player = ((player.begun project command).1.work project steps).1.arrive.limited limit ∧
      response.events = (player.begun project command).2 ++
        ((player.begun project command).1.work project steps).2.flatMap (·.events) := by
  obtain ⟨left, heard⟩ := answered_worked project limit command player response settled loaded answered
  rw [drain_limited_within project limit _ steps enough within] at left heard
  exact ⟨left, heard⟩

theorem answered_beyond (beyond : limit < (player.begun project command).1.workload project) :
    response.events = (player.begun project command).2 ++
      ((player.begun project command).1.work project limit).2.flatMap (·.events) ++
        [.fault (.stepLimitExceeded limit)] := by
  obtain ⟨_, heard⟩ := answered_worked project limit command player response settled loaded answered
  rw [heard, drain_limited_beyond project limit _ beyond, List.append_assoc]

end Answers

theorem drain_stands (project : Project) (player : Player) (stands : player.current ≠ none) :
    (player.drain project).1.current ≠ none := by
  refine drain_keeps project (·.current ≠ none) ?_ (fun _ _ _ _ stands => stands) player stands
  intro trigger host action before result outcome stands
  cases outcome with
  | entered => exact Option.some_ne_none _
  | _ => exact stands

theorem begun_stands (project : Project) (command : Command) (player : Player) (settled : player.Settled)
    (waits : (player.begun project command).1.queue.next? ≠ none) :
    (player.begun project command).1.current ≠ none := by
  cases enters : command.enters project with
  | some index =>
      obtain ⟨slide, there, _⟩ := command_enters project command index enters
      simp only [begun, enters, enter_slide_at project index slide _ there]
      exact Option.some_ne_none _
  | none =>
      intro nowhere
      have idle : player.fires project command = [] := by
        cases command with
        | click | pointerDown =>
            have current : player.current = none := by simpa only [begun, enters, base] using nowhere
            rw [fires, current]
            rfl
        | _ => exact fires_nothing project _ player fun _ => rfl
      have empty := (base_settled command player settled).1
      rw [(begun_quiet project command player settled enters idle).1, empty] at waits
      exact waits rfl

theorem beyond_waits (project : Project) (player : Player) (steps : Nat)
    (beyond : steps < player.workload project) :
    player.queue.next? ≠ none ∧ (player.work project steps).2.length = steps := by
  have unfinished := mt (workload_le_iff project player steps).mpr (not_le.mpr beyond)
  refine ⟨fun nothing => unfinished ?_, turns_of_unfinished project steps player unfinished⟩
  rw [work_nothing project steps player nothing, nothing]

theorem settled_on_slide (player : Player) (settled : player.Settled) (stands : player.current ≠ none) :
    ∃ slide, player.currentSlideId? = some slide ∧ player.phase = .active slide := by
  obtain ⟨index, current⟩ := Option.ne_none_iff_exists'.mp stands
  obtain ⟨project, slide, loaded, phase, there, _⟩ := settled.onSlide index current
  exact ⟨slide.id, by simp [currentSlideId?, loaded, current, there.there], phase⟩

section Limits

variable (project : Project) (command : Command) (player : Player) (low high : Nat) (order : low ≤ high)
variable (short long : Response) (settled : player.Settled)
variable (loaded : (player.base command).project = some project)
variable (shortAnswered : (player.limited low).respond command = .ok short)
variable (longAnswered : (player.limited high).respond command = .ok long)

include order settled loaded shortAnswered longAnswered

theorem enough_is_enough (enough : (player.begun project command).1.workload project ≤ low) :
    long.player = short.player.limited high ∧ long.events = short.events ∧
      short.events.filterMap Event.overrun? = [] := by
  obtain ⟨shortLeft, shortHeard⟩ :=
    answered_within project low command player short settled loaded shortAnswered low enough le_rfl
  obtain ⟨longLeft, longHeard⟩ :=
    answered_within project high command player long settled loaded longAnswered low enough order
  refine ⟨?_, longHeard.trans shortHeard.symm, ?_⟩
  · rw [longLeft, shortLeft]
    rfl
  · rw [shortHeard, List.filterMap_append, begun_within_limit, (work_within project low _).2,
      List.append_nil]

theorem too_little_is_cut (beyond : low < (player.begun project command).1.workload project) :
    let early := ((player.begun project command).1.work project low).2
    let front := (player.begun project command).2 ++ early.flatMap (·.events)
    early.length = low ∧ early = ((player.begun project command).1.work project high).2.take low ∧
      short.events = front ++ [.fault (.stepLimitExceeded low)] ∧ front <+: long.events ∧
      front.filterMap Event.overrun? = [] ∧ short.player.queue = .empty ∧
      ∃ slide, short.player.currentSlideId? = some slide ∧ short.player.phase = .active slide := by
  intro early front
  obtain ⟨waits, length⟩ := beyond_waits project _ low beyond
  have first := work_prefix project (player.begun project command).1 low high order
  have worked := answered_worked project low command player short settled loaded shortAnswered
  have settledAfter : short.player.Settled :=
    answer_settled _ command short (limited_settled low player settled)
      (respond_answer _ command short shortAnswered)
  refine ⟨length, ?_, answered_beyond project low command player short settled loaded shortAnswered beyond,
    ?_, ?_, settledAfter.noWork, settled_on_slide _ settledAfter ?_⟩
  · rw [← length]
    exact (List.prefix_iff_eq_take.mp first).trans (by rw [length])
  · obtain ⟨rest, all⟩ := first
    obtain ⟨_, heard⟩ := answered_worked project high command player long settled loaded longAnswered
    rw [heard, drain_eq, show ((player.begun project command).1.limited high).options.maxQueueSteps = high
      from rfl, work_limited, ← all, List.flatMap_append, List.append_assoc]
    simp only [front, List.prefix_append_right_inj]
    exact List.prefix_append _ _
  · rw [List.filterMap_append, begun_within_limit, (work_within project low _).2, List.append_nil]
  · rw [worked.1]
    exact drain_stands project _ (begun_stands project command player settled waits)

end Limits

/-- Two limits give the same answer to a command. If the lower one is enough for all of the work, they
give the same session too, and neither is reached. If it is not, the session under it does the first
turns of the other one, as many as it may, reports the limit and rests on its slide. -/
theorem limit_only_truncates (options : Options) (history : List Command) (command : Command)
    (low high : Nat) (order : low ≤ high) :
    let player := (Player.start options).run history
    let early := player.turns command low
    let front := player.opening command ++ early.flatMap (·.events)
    ((player.limited low).respond command).map (·.reply) =
        ((player.limited high).respond command).map (·.reply) ∧
      ∀ short long, (player.limited low).respond command = .ok short →
        (player.limited high).respond command = .ok long →
        (player.effort command ≤ low → long.player = short.player.limited high ∧
          long.events = short.events ∧ short.events.filterMap Event.overrun? = []) ∧
        (low < player.effort command →
          early.length = low ∧ early = (player.turns command high).take low ∧
          short.events = front ++ [.fault (.stepLimitExceeded low)] ∧ front <+: long.events ∧
          front.filterMap Event.overrun? = [] ∧ short.player.queue = .empty ∧
          ∃ slide, short.player.currentSlideId? = some slide ∧ short.player.phase = .active slide) := by
  intro player early front
  have settled : player.Settled := run_keeps_settled history _ (start_settled options)
  refine ⟨(reply_limited low command player).trans (reply_limited high command player).symm,
    fun short long shortAnswered longAnswered => ?_⟩
  simp only [early, front, opening, effort, turns]
  cases loaded : (player.base command).project with
  | none =>
      have unloaded : ∀ limit, ((player.limited limit).base command).project = none := fun limit => by
        rw [base_limited]
        exact loaded
      have shortRests := answer_unloaded _ command short (unloaded low) (respond_answer _ _ _ shortAnswered)
      have longRests := answer_unloaded _ command long (unloaded high) (respond_answer _ _ _ longAnswered)
      rw [base_limited] at shortRests longRests
      refine ⟨fun _ => ⟨?_, longRests.2.trans shortRests.2.symm, ?_⟩, fun beyond => ?_⟩
      · rw [longRests.1, shortRests.1]
        rfl
      · rw [shortRests.2, List.filterMap_nil]
      · exact absurd beyond not_lt_zero
  | some project =>
      exact ⟨enough_is_enough project command player low high order short long settled loaded shortAnswered
          longAnswered,
        too_little_is_cut project command player low high order short long settled loaded shortAnswered
          longAnswered⟩

theorem carousel_is_truncated :
    let player := Player.start ⟨true, 10000⟩
    let short := done ((player.limited 2).loadUnchecked carousel)
    let long := done ((player.limited 5).loadUnchecked carousel)
    2 ≤ 5 ∧ (player.limited 2).respond (.loadUnchecked carousel) = .ok short ∧
      (player.limited 5).respond (.loadUnchecked carousel) = .ok long ∧
      2 < player.effort (.loadUnchecked carousel) ∧
      player.turns (.loadUnchecked carousel) 2 = (player.turns (.loadUnchecked carousel) 5).take 2 ∧
      (∃ front, short.events = front ++ [.fault (.stepLimitExceeded 2)] ∧ front <+: long.events) := by
  intro player short long
  have truncated :=
    limit_only_truncates ⟨true, 10000⟩ [] (.loadUnchecked carousel) 2 5 (by decide)
  have unfinished : ((player.begun carousel (.loadUnchecked carousel)).1.work carousel 2).1.queue.next? ≠
      none := by decide +kernel
  have beyond : 2 < player.effort (.loadUnchecked carousel) :=
    not_le.mp (mt (workload_le_iff carousel _ 2).mp unfinished)
  obtain ⟨_, same, events, first, _⟩ := (truncated.2 short long rfl rfl).2 beyond
  exact ⟨by decide, rfl, rfl, beyond, same, _, events, first⟩

end Player

end Slideshow
