import Slideshow.Project.Build
import Slideshow.Proofs.Playback.Mirrored
import Slideshow.Proofs.Playback.Refusal

set_option autoImplicit false

namespace Slideshow

section Triggers

variable {σ : Renaming} {p q : Project} {i j : Nat} (here : SamePlace σ p q i j)
include here

theorem clicked_renamed (object : String) :
    Option.Rel (List.Forall₂ (TriggerRef.Beside (SamePlace σ p q))) (p.clicked? i object)
      (q.clicked? j (σ.of .object object)) := by
  obtain ⟨slide, there, thereToo⟩ := id here
  simp only [Project.clicked?, there, thereToo, bind, Option.bind, locate_renamed,
    click_triggers_like (fires_like_renamed σ slide)]
  cases slide.locate? object with
  | none => exact .none
  | some position => exact .some (click_triggers_beside here slide position)

theorem pointed_renamed (shown shownToo : Layer → Bool)
    (same : ∀ layer, shownToo (layer.renamed σ) = shown layer) (point : Point) :
    Option.Rel (fun hit other => other.1 = σ.of .object hit.1 ∧
        List.Forall₂ (TriggerRef.Beside (SamePlace σ p q)) hit.2 other.2)
      (p.pointed? i shown point) (q.pointed? j shownToo point) := by
  obtain ⟨slide, there, thereToo⟩ := id here
  have hit := hit_test_renamed σ slide shown shownToo point same
  simp only [Project.pointed?, there, thereToo, bind, Option.bind, hit,
    click_triggers_like (fires_like_renamed σ slide)]
  cases slide.hitTest? shown point with
  | none => exact .none
  | some hit => exact .some ⟨rfl, click_triggers_beside here slide hit.1⟩

end Triggers

inductive Command.Renamed (σ : Renaming) : Command → Command → Prop where
  | load (p q : Project) (twin : p.Twin σ q) : Renamed σ (.load p) (.load q)
  | loadUnchecked (p q : Project) (twin : p.Twin σ q) : Renamed σ (.loadUnchecked p) (.loadUnchecked q)
  | restart : Renamed σ .restart .restart
  | stop : Renamed σ .stop .stop
  | click (object : String) : Renamed σ (.click object) (.click (σ.of .object object))
  | pointerDown (point : Point) : Renamed σ (.pointerDown point) (.pointerDown point)
  | enter (slide : String) : Renamed σ (.enter slide) (.enter (σ.of .slide slide))
  | takeFaults : Renamed σ .takeFaults .takeFaults

namespace Player

inductive Matches (σ : Renaming) : Player → Player → Prop where
  | unloaded (options : Options) : Matches σ (.start options) (.start options)
  | loaded (p q : Project) (left right : Player) (twin : p.Twin σ q) (mirrors : Mirrors σ p q left right) :
      Matches σ left right

inductive AnswersRenamed (σ : Renaming) : Except Failure Response → Except Failure Response → Prop where
  | refused (failure : Failure) : AnswersRenamed σ (.error failure) (.error (failure.renamed σ))
  | answered (left right : Response) (reply : right.reply = left.reply.renamed σ)
      (players : Matches σ left.player right.player)
      (events : right.events = left.events.map (·.renamed σ)) : AnswersRenamed σ (.ok left) (.ok right)

section Commands

variable {σ : Renaming} {p q : Project} {left right : Player}

theorem answers_mirrored (twin : p.Twin σ q) (reply : Reply) (result other : Player × List Event)
    (mirrored : Mirrored σ p q result other) :
    AnswersRenamed σ (.ok ⟨reply, result.1, result.2⟩) (.ok ⟨reply.renamed σ, other.1, other.2⟩) :=
  .answered _ _ rfl (.loaded p q _ _ twin mirrored.1) mirrored.2

theorem shows_renamed (mirrors : Mirrors σ p q left right) (layer : Layer) :
    right.shows (layer.renamed σ) = left.shows layer := by
  have known : right.layers.isVisible? (σ.of .layer layer.id) = left.layers.isVisible? layer.id :=
    mirrors.layers.values layer.id
  simp only [shows, Layer.renamed, known]

theorem load_matches (matched : Matches σ left right) (twin : p.Twin σ q) :
    AnswersRenamed σ (.ok (done (left.loadUnchecked p))) (.ok (done (right.loadUnchecked q))) := by
  have kept : right.options = left.options ∧
      right.faults.toList = left.faults.toList.map (·.renamed σ) := by
    cases matched with
    | unloaded options => exact ⟨rfl, rfl⟩
    | loaded _ _ _ _ _ mirrors => exact ⟨mirrors.options, mirrors.faults⟩
  exact answers_mirrored twin .done _ _ (restart_mirrored twin rfl rfl kept.1 kept.2)

theorem load_valid (player : Player) (valid : p.diagnostics = []) :
    player.respond (.load p) = .ok (done (player.loadUnchecked p)) := by
  simp [respond, load_eq, valid, Except.map]

theorem stop_mirrored (mirrors : Mirrors σ p q left right) : Mirrors σ p q left.stop right.stop :=
  ⟨mirrors.options, mirrors.loaded, mirrors.loadedToo, rfl, .none, IdMap.renames_empty _,
    IdMap.renames_empty _, .nil, mirrors.faults⟩

theorem click_mirrored (twin : p.Twin σ q) (mirrors : Mirrors σ p q left right) (id : String) :
    AnswersRenamed σ (left.respond (.click id)) (right.respond (.click (σ.of .object id))) := by
  have current := mirrors.current
  simp only [respond, click, active, mirrors.loaded, mirrors.loadedToo]
  generalize left.current = index, right.current = other at current
  cases current with
  | none => exact .refused .noSlide
  | @some i j here =>
      have clicked := clicked_renamed here id
      simp only [bind, Except.bind]
      generalize p.clicked? i id = triggers, q.clicked? j (σ.of .object id) = others at clicked
      cases clicked with
      | none => exact .refused (.dangling .object id)
      | @some triggers others beside =>
          dsimp only
          rw [← beside.length_eq]
          exact answers_mirrored twin (.fired triggers.length) _ _
            (dispatch_mirrored twin mirrors triggers others beside)

theorem pointer_mirrored (twin : p.Twin σ q) (mirrors : Mirrors σ p q left right) (point : Point) :
    AnswersRenamed σ (left.respond (.pointerDown point)) (right.respond (.pointerDown point)) := by
  have current := mirrors.current
  simp only [respond, pointerDown, active, mirrors.loaded, mirrors.loadedToo]
  generalize left.current = index, right.current = other at current
  cases current with
  | none => exact .refused .noSlide
  | @some i j here =>
      have pointed := pointed_renamed here left.shows right.shows (shows_renamed mirrors) point
      simp only [bind, Except.bind]
      generalize p.pointed? i left.shows point = hit, q.pointed? j right.shows point = other at pointed
      cases pointed with
      | none => exact answers_mirrored twin (.hit none) (left, []) (right, []) ⟨mirrors, rfl⟩
      | @some hit other same =>
          obtain ⟨object, triggers⟩ := hit
          obtain ⟨_, others⟩ := other
          obtain ⟨rfl, beside⟩ := same
          exact answers_mirrored twin (.hit (some object)) _ _
            (dispatch_mirrored twin mirrors triggers others beside)

theorem enter_mirrored (twin : p.Twin σ q) (mirrors : Mirrors σ p q left right) (id : String) :
    AnswersRenamed σ (left.respond (.enter id)) (right.respond (.enter (σ.of .slide id))) := by
  have found := same_place_of_id twin id
  simp only [respond, enter, mirrors.loaded, mirrors.loadedToo]
  generalize p.slideIndex? id = index, q.slideIndex? (σ.of .slide id) = other at found
  cases found with
  | none => exact .refused (.dangling .slide id)
  | @some i j here =>
      have entered := enter_and_drain_mirrored twin (ready_mirrored twin mirrors) i j here
      simp only [ready, mirrors.loaded, mirrors.loadedToo] at entered
      exact answers_mirrored twin .done _ _ entered

theorem respond_mirrored (twin : p.Twin σ q) (mirrors : Mirrors σ p q left right) (command other : Command)
    (renamed : command.Renamed σ other) : AnswersRenamed σ (left.respond command) (right.respond other) := by
  have matched := Matches.loaded p q left right twin mirrors
  cases renamed with
  | load p q twin =>
      rw [load_valid left twin.valid, load_valid right (twin_valid twin)]
      exact load_matches matched twin
  | loadUnchecked p q twin => exact load_matches matched twin
  | restart =>
      have restarted := restart_mirrored twin mirrors.loaded mirrors.loadedToo mirrors.options mirrors.faults
      exact answers_mirrored twin .done _ _ restarted
  | stop => exact answers_mirrored twin .done (left.stop, []) (right.stop, []) ⟨stop_mirrored mirrors, rfl⟩
  | click id => exact click_mirrored twin mirrors id
  | pointerDown point => exact pointer_mirrored twin mirrors point
  | enter id => exact enter_mirrored twin mirrors id
  | takeFaults =>
      refine .answered _ _ (congrArg Reply.faults mirrors.faults) (.loaded p q _ _ twin ?_) rfl
      exact { mirrors with faults := rfl }

theorem respond_unloaded (options : Options) (command other : Command) (renamed : command.Renamed σ other) :
    AnswersRenamed σ ((start options).respond command) ((start options).respond other) := by
  have matched : Matches σ (start options) (start options) := .unloaded options
  cases renamed with
  | load p q twin =>
      rw [load_valid _ twin.valid, load_valid _ (twin_valid twin)]
      exact load_matches matched twin
  | loadUnchecked p q twin => exact load_matches matched twin
  | restart | stop | takeFaults => exact .answered _ _ rfl matched rfl
  | click | pointerDown | enter => exact .refused .noProject

theorem respond_matches (matched : Matches σ left right) (command other : Command)
    (renamed : command.Renamed σ other) : AnswersRenamed σ (left.respond command) (right.respond other) := by
  cases matched with
  | unloaded options => exact respond_unloaded options command other renamed
  | loaded p q _ _ twin mirrors => exact respond_mirrored twin mirrors command other renamed

end Commands

end Player

namespace Stage

def Matches (σ : Renaming) (stage other : Stage) : Prop :=
  Player.Matches σ stage.player other.player ∧ other.heard = stage.heard.map (·.renamed σ)

def renamedAnswer (σ : Renaming) : Except Failure Reply → Except Failure Reply
  | .ok reply => .ok (reply.renamed σ)
  | .error failure => .error (failure.renamed σ)

theorem call_matches (σ : Renaming) (stage other : Stage) (command twin : Command)
    (matched : Matches σ stage other) (renamed : command.Renamed σ twin) :
    renamedAnswer σ (stage.call command).answer = (other.call twin).answer ∧
      Matches σ (stage.call command).after (other.call twin).after := by
  have answers := Player.respond_matches matched.1 command twin renamed
  rw [call_eq, call_eq]
  generalize stage.player.respond command = left, other.player.respond twin = right at answers
  cases answers with
  | refused failure => exact ⟨rfl, matched⟩
  | answered left right reply players events =>
      refine ⟨congrArg Except.ok reply.symm, players, ?_⟩
      dsimp only
      rw [matched.2, events, List.map_append]

end Stage

namespace Player

structure Resembles (σ : Renaming) (left right : Player) : Prop where
  phase : right.phase = left.phase.renamed σ
  slide : right.currentSlideId? = left.currentSlideId?.map (σ.of .slide)
  store : left.store.values.Renames (σ.of .variable) right.store.values
  layers : left.layers.visibility.Renames (σ.of .layer) right.layers.visibility
  faults : right.faults.toList = left.faults.toList.map (·.renamed σ)

theorem resembles_of_matches (σ : Renaming) (left right : Player) (matched : Matches σ left right) :
    left.Resembles σ right := by
  cases matched with
  | unloaded options => exact ⟨rfl, rfl, IdMap.renames_empty _, IdMap.renames_empty _, rfl⟩
  | loaded p q _ _ twin mirrors =>
      exact ⟨mirrors.phase, current_slide_mirrored mirrors, mirrors.store, mirrors.layers, mirrors.faults⟩

end Player

/-- With new ids, and with the slides after the first one and the variables in another order, a project
that is accepted is accepted again. Sessions that are given the same commands on such projects, with the
ids in them renamed, give the same answers, come to the same slides, values, layers and faults, and report
the same events: but for the ids. -/
theorem ids_are_only_links (σ : Renaming) (options : Options) (commands twins : List Command)
    (renamed : List.Forall₂ (Command.Renamed σ) commands twins) :
    let opened : Stage := ⟨.start options, []⟩
    let stage := opened.after commands
    let other := opened.after twins
    (∀ p q : Project, p.Twin σ q → q.diagnostics = []) ∧
      (opened.calls twins).map (·.answer) =
        (opened.calls commands).map (fun call => Stage.renamedAnswer σ call.answer) ∧
      stage.player.Resembles σ other.player ∧ other.heard = stage.heard.map (·.renamed σ) := by
  intro opened stage other
  have start : Stage.Matches σ opened opened := ⟨.unloaded options, rfl⟩
  obtain ⟨answers, players, heard⟩ :=
    Stage.calls_beside (A := fun answer other => Stage.renamedAnswer σ answer = other)
      (Stage.call_matches σ) opened opened start commands twins renamed
  rw [← List.forall₂_map_left_iff, List.forall₂_eq_eq_eq, List.map_map] at answers
  exact ⟨fun p q => twin_valid, answers.symm, Player.resembles_of_matches σ _ _ players, heard⟩

def Project.turned (project : Project) : Project :=
  { project with
    slides := project.slides.take 1 ++ (project.slides.drop 1).reverse
    declarations := project.declarations.reverse }

theorem turned_reorders (project : Project) : project.Reorders project.turned where
  id := rfl
  name := rfl
  first := by cases same : project.slides <;> simp [Project.turned, same]
  others := by cases same : project.slides <;> simp [Project.turned, same, List.reverse_perm]
  declarations := List.reverse_perm _

def prefixed : Renaming where
  of kind id := kind.name ++ id
  injective _ _ _ same := (String.append_right_inj _).mp same

def house : Project :=
  let room := fun (id : String) => (Slide.start id).withLayer ((Layer.start "curtain").withObject
    ((SlideObject.button "door" "Back").withTrigger
      (((Trigger.start "visit" .onTimelineStart).add id (.int32 1)).hideLayer "curtain")))
  let hall := (Slide.start "hall").withLayer ((Layer.start "wall").withObject
    ((SlideObject.button "door" "West").withTrigger ((Trigger.start "open" .onClick).navigate "west")))
  let rooms := (((Project.start "house" "House").withSlide hall).withSlide (room "east")).withSlide (room "west")
  (rooms.withVariable (.start "east" .number (some (.int32 0)))).withVariable
    (.start "west" .number (some (.int32 0)))

theorem house_plays_alike :
    let twin := (house.renamed prefixed).turned
    let commands : List Command := [.load house, .click "door", .enter "east", .click "window"]
    let twins : List Command := [.load twin, .click "objectdoor", .enter "slideeast", .click "objectwindow"]
    let opened : Stage := ⟨.start ⟨true, 9⟩, []⟩
    List.Forall₂ (Command.Renamed prefixed) commands twins ∧ twin.diagnostics = [] ∧
      house.slideIndex? "west" = some 2 ∧ twin.slideIndex? "slidewest" = some 1 ∧
      (opened.after commands).heard.length = 7 ∧
      (opened.after twins).heard = (opened.after commands).heard.map (·.renamed prefixed) := by
  intro twin commands twins opened
  have valid : house.diagnostics = [] := by decide +kernel
  have renamed : List.Forall₂ (Command.Renamed prefixed) commands twins :=
    .cons (.load house twin ⟨valid, turned_reorders _⟩)
      (.cons (.click "door") (.cons (.enter "east") (.cons (.click "window") .nil)))
  obtain ⟨accepted, _, _, heard⟩ := ids_are_only_links prefixed ⟨true, 9⟩ commands twins renamed
  exact ⟨renamed, accepted house twin ⟨valid, turned_reorders _⟩, by decide +kernel, by decide +kernel,
    by decide +kernel, heard⟩

end Slideshow
