import Slideshow.Project.Build
import Slideshow.Proofs.Playback.Abreast
import Slideshow.Proofs.Playback.Bare
import Slideshow.Proofs.Playback.Refusal

set_option autoImplicit false

namespace Slideshow

def Event.ofLayer : Event → Bool
  | .layerChanged _ _ => true
  | _ => false

def logical (events : List Event) : List Event :=
  events.filter fun event => !event.ofLayer

theorem logical_append (events more : List Event) :
    logical (events ++ more) = logical events ++ logical more :=
  List.filter_append ..

namespace Player

def bare (player : Player) : Player :=
  { player with project := player.project.map Project.bare, layers := player.layers.bare }

def SameLogic (result other : Player × List Event) : Prop :=
  result.1.bare = other.1.bare ∧ logical result.2 = logical other.2

theorem same_logic_trans (first second third : Player × List Event) (same : SameLogic first second)
    (next : SameLogic second third) : SameLogic first third :=
  ⟨same.1.trans next.1, same.2.trans next.2⟩

theorem same_logic_symm (first second : Player × List Event) (same : SameLogic first second) :
    SameLogic second first :=
  ⟨same.1.symm, same.2.symm⟩

theorem bare_bare (player : Player) : player.bare.bare = player.bare := by
  simp [bare, Project.bare_bare, LayerState.bare_bare, Function.comp_def]

theorem current_slide_bare (player : Player) : player.bare.currentSlideId? = player.currentSlideId? := by
  simp only [currentSlideId?, bare]
  cases player.project with
  | none => rfl
  | some project =>
      cases player.current with
      | none => rfl
      | some index =>
          simp only [Option.map_some, bind, Option.bind, project.slide_at_bare]
          cases project.slides[index]? <;> rfl

section Actions

variable (project : Project) (player : Player)

theorem report_bare (fault : Fault) : SameLogic (player.bare.report fault) (player.report fault) := by
  have same := congrArg
    (fun before : Player => { before with faults := before.faults.push fault }) player.bare_bare
  exact ⟨same, rfl⟩

theorem enter_slide_bare (index : Nat) :
    SameLogic (player.bare.enterSlide project.bare index) (player.enterSlide project index) := by
  simp only [enterSlide, project.slide_at_bare, player.current_slide_bare]
  cases project.slides[index]? with
  | none => exact ⟨player.bare_bare, rfl⟩
  | some slide =>
      refine ⟨?_, rfl⟩
      simp [bare, show slide.bare.id = slide.id from rfl, LayerState.bare_of_slide, entry_work_like slide.fires_like_bare,
        Project.bare_bare, Function.comp_def]

theorem set_variable_bare (trigger target : String) (operation : SetOperation) (operand : Option Value) :
    SameLogic (player.bare.setVariable trigger target operation operand)
      (player.setVariable trigger target operation operand) := by
  simp only [setVariable, show player.bare.store = player.store from rfl]
  cases player.store.entry? target with
  | none => exact player.report_bare _
  | some old =>
      simp only []
      cases operation.apply old operand with
      | error cause => exact player.report_bare _
      | ok value =>
          refine ⟨?_, rfl⟩
          exact congrArg (fun before : Player => { before with store := before.store.write target value })
            player.bare_bare

theorem set_layer_bare (trigger : String) (host : Nat) (target : String) (visible : Bool) :
    SameLogic (player.bare.setLayer trigger host target visible)
      (player.setLayer trigger host target visible) := by
  simp only [setLayer, show player.bare.current = player.current from rfl,
    show player.bare.layers = player.layers.bare from rfl, LayerState.is_visible_bare]
  by_cases here : player.current = some host
  · simp only [if_pos here]
    cases player.layers.isVisible? target with
    | none => exact player.report_bare _
    | some before =>
        refine ⟨?_, ?_⟩
        · simp [bare, LayerState.bare_write, LayerState.bare_bare, Project.bare_bare, Function.comp_def]
        · cases before <;> cases visible <;> rfl
  · simp only [if_neg here]
    exact ⟨player.bare_bare, rfl⟩

theorem perform_bare (trigger : String) (host : Nat) (action : Action) :
    SameLogic (player.bare.perform project.bare trigger host action)
      (player.perform project trigger host action) := by
  cases action with
  | navigateToSlide target =>
      simp only [perform, project.slide_index_bare]
      cases project.slideIndex? target with
      | none => exact player.report_bare _
      | some index => exact enter_slide_bare project player index
  | setVariable target operation operand => exact set_variable_bare player trigger target operation operand
  | showLayer target => exact set_layer_bare player trigger host target true
  | hideLayer target => exact set_layer_bare player trigger host target false

theorem settle_bare (index : Nat) :
    (player.bare.settle project.bare index).bare = (player.settle project index).bare := by
  simp only [settle, project.slide_at_bare, show player.bare.current = player.current from rfl]
  cases project.slides[index]? with
  | none => exact player.bare_bare
  | some slide =>
      by_cases here : player.current = some index
      · simp only [if_pos here, Option.map_some]
        have same := congrArg
          (fun before : Player => { before with phase := .active slide.id }) player.bare_bare
        exact same
      · simp only [if_neg here, Option.map_some]
        exact player.bare_bare

theorem drop_work_bare : SameLogic player.bare.dropWork player.dropWork := by
  simp only [dropWork, show player.bare.queue = player.queue from rfl]
  cases player.queue.next? with
  | none => exact ⟨player.bare_bare, rfl⟩
  | some next => exact report_bare { player with queue := .empty } _

theorem arrive_bare : player.bare.arrive = player.arrive.bare := by
  simp only [arrive, show player.bare.phase = player.phase from rfl,
    show player.bare.current = player.current from rfl]
  cases player.phase with
  | idle | active => rfl
  | navigating slide => cases player.current <;> rfl

end Actions

section Work

variable {p q : Project} {left right : Player}

theorem told_of_bare {α : Type} (look : Player → α)
    (blind : ∀ player : Player, look player = look player.bare) (related : left.bare = right.bare) :
    look left = look right :=
  told_alike bare look blind related

theorem logic_in_step (same : p.bare = q.bare) :
    InStep p q Eq (fun player other => player.bare = other.bare)
      (fun events others => logical events = logical others) where
  triggers ref := by
    have found : (ref.resolve p).map Trigger.bare = (ref.resolve q).map Trigger.bare := by
      rw [← resolve_bare, ← resolve_bare, same]
    cases atLeft : ref.resolve p with
    | none =>
        cases atRight : ref.resolve q with
        | none => exact .none
        | some other => simp [atLeft, atRight] at found
    | some trigger =>
        cases atRight : ref.resolve q with
        | none => simp [atLeft, atRight] at found
        | some other =>
            have alike : trigger.bare = other.bare := by simpa [atLeft, atRight] using found
            obtain ⟨id, _, _, actions⟩ := (Trigger.mk.injEq ..).mp alike
            exact .some ⟨id, actions ▸ List.forall₂_same.mpr fun _ _ => rfl⟩
  silent := rfl
  append _ _ _ _ first later := by rw [logical_append, logical_append, first, later]
  act trigger host action other player others equal related := by
    subst equal
    have first := same_logic_symm _ _ (perform_bare p player trigger host action)
    rw [related, same] at first
    exact same_logic_trans _ _ _ first (perform_bare q others trigger host action)
  queue _ _ related := told_of_bare queue (fun _ => rfl) related
  take rest _ _ related := congrArg (fun player : Player => { player with queue := rest }) related
  settle index player other related := by
    rw [← settle_bare p player index, related, same, settle_bare]

theorem drop_work_logic (related : left.bare = right.bare) : SameLogic left.dropWork right.dropWork := by
  have atLeft := same_logic_symm _ _ left.drop_work_bare
  rw [related] at atLeft
  exact same_logic_trans _ _ _ atLeft right.drop_work_bare

theorem logic_beside (same : p.bare = q.bare) :
    DrainBeside p q Eq Eq (fun player other => player.bare = other.bare)
      (fun events others => logical events = logical others) where
  toWorkBeside := work_abreast (logic_in_step same)
  limit _ _ related := told_of_bare (·.options.maxQueueSteps) (fun _ => rfl) related
  drop _ _ related := drop_work_logic related
  arrive player other related := by rw [← arrive_bare, related, arrive_bare]

theorem enter_logic (same : p.bare = q.bare) (related : left.bare = right.bare) (index : Nat) :
    SameLogic (left.enterAndDrain p index) (right.enterAndDrain q index) := by
  have entered := same_logic_symm _ _ (enter_slide_bare p left index)
  rw [related, same] at entered
  exact enter_and_drain_beside (logic_beside same) index index
    (same_logic_trans _ _ _ entered (enter_slide_bare q right index))

theorem dispatch_logic (same : p.bare = q.bare) (related : left.bare = right.bare)
    (triggers : List TriggerRef) : SameLogic (left.dispatch p triggers) (right.dispatch q triggers) := by
  refine drain_beside (logic_beside same) ?_
  exact congrArg (fun player : Player =>
    { player with queue := player.queue.append (triggers.map WorkItem.fire) }) related

theorem seeded_logic (same : p.bare = q.bare) (related : left.bare = right.bare) :
    ({ left with store := .seed p } : Player).bare = ({ right with store := .seed q } : Player).bare := by
  have seeds : VariableStore.seed p = VariableStore.seed q := by
    rw [← p.seed_bare, same, q.seed_bare]
  rw [seeds]
  exact congrArg (fun player : Player => { player with store := .seed q }) related

theorem ready_logic (same : p.bare = q.bare) (related : left.bare = right.bare) :
    (left.ready p).bare = (right.ready q).bare := by
  have currents := told_of_bare (·.current.isNone) (fun _ => rfl) related
  rw [ready, ready, currents]
  by_cases idle : right.current.isNone = true
  · rw [if_pos idle, if_pos idle]
    exact seeded_logic same related
  · rw [if_neg idle, if_neg idle]
    exact related

theorem projects_of_bare (related : left.bare = right.bare) :
    (left.project = none ∧ right.project = none) ∨
      ∃ p q, left.project = some p ∧ right.project = some q ∧ p.bare = q.bare := by
  have projects : left.project.map Project.bare = right.project.map Project.bare :=
    congrArg Player.project related
  cases atLeft : left.project with
  | none =>
      cases atRight : right.project with
      | none => exact .inl ⟨rfl, rfl⟩
      | some q => simp [atLeft, atRight] at projects
  | some p =>
      cases atRight : right.project with
      | none => simp [atLeft, atRight] at projects
      | some q => exact .inr ⟨p, q, rfl, rfl, by simpa [atLeft, atRight] using projects⟩

theorem restart_logic (related : left.bare = right.bare) : SameLogic left.restart right.restart := by
  have stopped : left.stop.bare = right.stop.bare := congrArg Player.stop related
  rcases projects_of_bare related with ⟨atLeft, atRight⟩ | ⟨p, q, atLeft, atRight, same⟩
  · rw [restart_unloaded left atLeft, restart_unloaded right atRight]
    exact ⟨stopped, rfl⟩
  · have fresh : (left.fresh p).bare = (right.fresh q).bare := seeded_logic same stopped
    have slides : p.slides.isEmpty = q.slides.isEmpty := by
      rw [← p.is_empty_bare, same, q.is_empty_bare]
    rw [restart_loaded p left atLeft, restart_loaded q right atRight, slides]
    by_cases empty : q.slides.isEmpty = true
    · simp only [if_pos empty]
      exact ⟨fresh, rfl⟩
    · simp only [if_neg empty]
      exact enter_logic same fresh 0

end Work

end Player

inductive Command.SameLogic : Command → Command → Prop where
  | loadUnchecked (p q : Project) (same : p.bare = q.bare) : SameLogic (.loadUnchecked p) (.loadUnchecked q)
  | restart : SameLogic .restart .restart
  | stop : SameLogic .stop .stop
  | click (object : String) : SameLogic (.click object) (.click object)
  | enter (slide : String) : SameLogic (.enter slide) (.enter slide)
  | takeFaults : SameLogic .takeFaults .takeFaults

inductive AnswersAlike : Except Failure Response → Except Failure Response → Prop where
  | refused (failure : Failure) : AnswersAlike (.error failure) (.error failure)
  | answered (left right : Response) (reply : left.reply = right.reply)
      (same : Player.SameLogic (left.player, left.events) (right.player, right.events)) :
      AnswersAlike (.ok left) (.ok right)

namespace Player

section Commands

variable {left right : Player}

theorem click_logic (related : left.bare = right.bare) (id : String) :
    AnswersAlike (left.respond (.click id)) (right.respond (.click id)) := by
  simp only [respond, click, active, told_of_bare current (fun _ => rfl) related]
  rcases projects_of_bare related with ⟨atLeft, atRight⟩ | ⟨p, q, atLeft, atRight, same⟩
  · simp only [atLeft, atRight]
    exact .refused _
  · simp only [atLeft, atRight]
    cases right.current with
    | none => exact .refused _
    | some index =>
        have clicked : p.clicked? index id = q.clicked? index id := by
          rw [← p.clicked_bare, same, q.clicked_bare]
        simp only [bind, Except.bind, clicked]
        cases q.clicked? index id with
        | none => exact .refused _
        | some triggers => exact .answered _ _ rfl (dispatch_logic same related triggers)

theorem enter_slide_logic (related : left.bare = right.bare) (id : String) :
    AnswersAlike (left.respond (.enter id)) (right.respond (.enter id)) := by
  simp only [respond, enter]
  rcases projects_of_bare related with ⟨atLeft, atRight⟩ | ⟨p, q, atLeft, atRight, same⟩
  · simp only [atLeft, atRight]
    exact .refused _
  · have found : p.slideIndex? id = q.slideIndex? id := by
      rw [← p.slide_index_bare, same, q.slide_index_bare]
    rw [atLeft, atRight]
    simp only [found]
    cases q.slideIndex? id with
    | none => exact .refused _
    | some index =>
        have entered := enter_logic same (ready_logic same related) index
        simp only [ready, atLeft, atRight] at entered
        exact .answered _ _ rfl entered

theorem respond_logic (related : left.bare = right.bare) (command other : Command)
    (alike : command.SameLogic other) : AnswersAlike (left.respond command) (right.respond other) := by
  cases alike with
  | loadUnchecked p q same =>
      refine .answered _ _ rfl (restart_logic ?_)
      have loaded := congrArg (fun player : Player => { player with project := some p.bare }) related
      rw [bare, bare, Option.map_some, Option.map_some, ← same]
      exact loaded
  | restart => exact .answered _ _ rfl (restart_logic related)
  | stop => exact .answered _ _ rfl ⟨congrArg Player.stop related, rfl⟩
  | click id => exact click_logic related id
  | enter id => exact enter_slide_logic related id
  | takeFaults =>
      have reply := told_of_bare (·.faults.toList) (fun _ => rfl) related
      refine .answered _ _ (congrArg Reply.faults reply) ⟨?_, rfl⟩
      exact congrArg (fun player : Player => { player with faults := #[] }) related

end Commands

end Player

namespace Stage

def SameLogic (stage other : Stage) : Prop :=
  Player.SameLogic (stage.player, stage.heard) (other.player, other.heard)

theorem call_logic (stage other : Stage) (same : stage.SameLogic other) (command twin : Command)
    (alike : command.SameLogic twin) :
    (stage.call command).answer = (other.call twin).answer ∧
      (stage.call command).after.SameLogic (other.call twin).after := by
  have answers := Player.respond_logic same.1 command twin alike
  rw [call_eq, call_eq]
  generalize stage.player.respond command = left, other.player.respond twin = right at answers
  cases answers with
  | refused failure => exact ⟨rfl, same⟩
  | answered left right reply responses =>
      refine ⟨congrArg Except.ok reply, responses.1, ?_⟩
      simp only [logical_append]
      exact congrArg₂ _ same.2 responses.2

theorem calls_logic (stage other : Stage) (same : stage.SameLogic other) (commands twins : List Command)
    (alike : List.Forall₂ Command.SameLogic commands twins) :
    (stage.calls commands).map (·.answer) = (other.calls twins).map (·.answer) ∧
      (stage.after commands).SameLogic (other.after twins) := by
  obtain ⟨answers, left⟩ := calls_beside (A := Eq)
    (fun stage other command twin same alike => stage.call_logic other same command twin alike)
    stage other same commands twins alike
  rw [List.forall₂_eq_eq_eq] at answers
  exact ⟨answers, left⟩

end Stage

/-- Two sessions that are given the same commands, but on projects that differ in their presentation,
give the same answers, come to the same slides and values, record the same faults and report the same
events, but for those of layers. They differ in nothing but which layers are shown. -/
theorem presentation_never_matters (options : Options) (commands twins : List Command)
    (alike : List.Forall₂ Command.SameLogic commands twins) :
    let opened : Stage := ⟨.start options, []⟩
    let stage := opened.after commands
    let other := opened.after twins
    (opened.calls commands).map (·.answer) = (opened.calls twins).map (·.answer) ∧
      stage.player.currentSlideId? = other.player.currentSlideId? ∧
      stage.player.store = other.player.store ∧ stage.player.faults = other.player.faults ∧
      logical stage.heard = logical other.heard ∧ stage.player.bare = other.player.bare := by
  intro opened stage other
  obtain ⟨answers, players, heard⟩ := opened.calls_logic opened ⟨rfl, rfl⟩ commands twins alike
  have slides := Player.told_of_bare Player.currentSlideId?
    (fun player => player.current_slide_bare.symm) players
  have stores := Player.told_of_bare Player.store (fun _ => rfl) players
  have faults := Player.told_of_bare Player.faults (fun _ => rfl) players
  exact ⟨answers, slides, stores, faults, heard, players⟩

def bell (hidden : Bool) : Project :=
  let ring := ((Trigger.start "ring" .onClick).showLayer "set").add "rings" (.int32 1)
  let layer := (Layer.start "set").withObject ((SlideObject.button "bell" "Ring").withTrigger ring)
  ((Project.start "play" "Play").withSlide
    ((Slide.start "stage").withLayer (if hidden then layer.hidden else layer))).withVariable
      (.start "rings" .number (some (.int32 0)))

theorem bell_rings_alike :
    let opened : Stage := ⟨.start ⟨true, 5⟩, []⟩
    let stage := opened.after [.loadUnchecked (bell false), .click "bell"]
    let other := opened.after [.loadUnchecked (bell true), .click "bell"]
    (bell false).bare = (bell true).bare ∧ stage.heard.length = 2 ∧ other.heard.length = 3 ∧
      stage.player.store = other.player.store ∧ logical stage.heard = logical other.heard := by
  intro opened stage other
  have same : (bell false).bare = (bell true).bare := rfl
  have alike : List.Forall₂ Command.SameLogic [.loadUnchecked (bell false), .click "bell"]
      [.loadUnchecked (bell true), .click "bell"] :=
    .cons (.loadUnchecked _ _ same) (.cons (.click "bell") .nil)
  obtain ⟨_, _, stores, _, heard, _⟩ := presentation_never_matters ⟨true, 5⟩ _ _ alike
  exact ⟨same, by decide +kernel, by decide +kernel, stores, heard⟩

end Slideshow
