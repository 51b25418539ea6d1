import Slideshow.Project.Build
import Slideshow.Proofs.CommandLine.Arguments
import Slideshow.Proofs.Document.Restored
import Slideshow.Proofs.Json.OneLine
import Slideshow.Proofs.Playback.Circumstances
import Slideshow.Proofs.Playback.References
import Slideshow.Proofs.Playback.Snapshot
import Slideshow.Proofs.Text.Lines

set_option autoImplicit false

namespace Slideshow

namespace Player

theorem after_loading (project : Project) (player : Player) (command : Command)
    (loads : loadedBy player.options command = some project) :
    player.after command = (player.loadUnchecked project).1 := by
  cases command with
  | load other =>
      simp only [loadedBy, Bool.and_eq_true, Bool.not_eq_true', List.isEmpty_eq_false_iff] at loads
      split at loads
      · cases loads
      · rename_i accepted
        cases loads
        simp only [after, respond, load_eq, if_neg accepted]
        rfl
  | loadUnchecked other =>
      cases loads
      rfl
  | _ => cases loads

theorem opened_amid (settings options : Options) (first : Command) (project : Project)
    (limit : settings.maxQueueSteps = options.maxQueueSteps)
    (loads : loadedBy settings first = some project) :
    (start settings).after first =
      ((start options).loadUnchecked project).1.amid settings.validateOnLoad #[] := by
  have begun : start settings = (start options).amid settings.validateOnLoad #[] := by
    obtain ⟨checks, steps⟩ := settings
    cases limit
    rfl
  rw [after_loading project (start settings) first loads, begun, load_unchecked_amid]

theorem after_unnoticed {change : Player → Player} (unnoticed : Unnoticed change)
    (event : CommandLine.PlayEvent) (player : Player) :
    (change player).after event.command = change (player.after event.command) := by
  have answers : (change player).respond event.command = changedAnswer change (player.respond event.command) := by
    cases event with
    | click id => exact click_unnoticed unnoticed id player
    | enter id => exact enter_unnoticed unnoticed id player
  rw [after, after, answers]
  cases player.respond event.command <;> rfl

end Player

namespace CommandLine

theorem play_event_eq (event : PlayEvent) (player : Player) :
    (playEvent event player).1.stdout = [] ∧ (playEvent event player).2 = player.after event.command := by
  unfold playEvent Player.after
  cases player.respond event.command <;> exact ⟨rfl, rfl⟩

theorem play_events_cons (event : PlayEvent) (rest : List PlayEvent) (player : Player) :
    (playEvents (event :: rest) player).stdout =
      player.snapshot.text ::
        (playEvents rest ({ player with faults := #[] }.after event.command)).stdout := by
  obtain ⟨silent, next⟩ := play_event_eq event { player with faults := #[] }
  simp only [playEvents, showPlayer, Player.takeFaults, Output.append, silent, next]
  rfl

theorem play_events_shown (checks : Bool) (earlier : Array Fault) (events : List PlayEvent)
    (player : Player) :
    (playEvents events player).stdout =
      (List.range (events.length + 1)).map fun k =>
        ((player.amid checks earlier).run ((events.take k).map PlayEvent.command)).snapshot.text := by
  -- By induction on the events. The session that keeps its faults is the one that is played, amid all the
  -- faults that were taken.
  induction events generalizing earlier player with
  | nil => rfl
  | cons event rest ih =>
      let taken : Player := { player with faults := #[] }
      have kept : taken.amid checks (earlier ++ player.faults) = player.amid checks earlier := by
        simp [taken, Player.amid]
      have later := ih (earlier ++ player.faults) (taken.after event.command)
      rw [← Player.after_unnoticed (Player.amid_unnoticed checks _) event taken, kept] at later
      rw [play_events_cons, later, List.length_cons, @List.range_succ_eq_map (rest.length + 1),
        List.map_cons, List.map_map]
      rfl

def sessionAfter (settings : Options) (first : Command) (events : List PlayEvent) (k : Nat) : Player :=
  (Player.start settings).run (first :: (events.take k).map PlayEvent.command)

theorem session_after_event (settings : Options) (first : Command) (events : List PlayEvent) (k : Nat)
    (event : PlayEvent) (there : events[k]? = some event) :
    sessionAfter settings first events (k + 1) =
      (sessionAfter settings first events k).after event.command := by
  simp [sessionAfter, Player.run, List.take_add_one, there, List.foldl_append]

section Shown

variable (events : List PlayEvent) (options : Options) (project : Project)

def Playable : Prop := options.validateOnLoad = false ∨ project.diagnostics = []

theorem load_playable (playable : Playable options project) :
    (Player.start options).load project = .ok ((Player.start options).loadUnchecked project) := by
  rw [Player.load_eq, if_neg]
  rintro ⟨checks, faulty⟩
  rcases playable with free | clean
  · exact absurd (free.symm.trans checks) Bool.false_ne_true
  · exact faulty clean

theorem play_project_refused (refused : ¬ Playable options project) :
    (playProject events options project).stdout = [] := by
  have faulty : options.validateOnLoad = true ∧ project.diagnostics ≠ [] := by
    simpa [Playable, not_or] using refused
  have loaded : (Player.start options).load project = .error (.invalid project.diagnostics) := by
    rw [Player.load_eq]
    exact if_pos faulty
  simp only [playProject, loaded, Output.failed]

theorem play_project_shown (playable : Playable options project) (settings : Options) (first : Command)
    (limit : settings.maxQueueSteps = options.maxQueueSteps)
    (loads : Player.loadedBy settings first = some project) :
    (playProject events options project).stdout =
      (List.range (events.length + 1)).map fun k => (sessionAfter settings first events k).snapshot.text := by
  have shown := play_events_shown settings.validateOnLoad #[] events
    ((Player.start options).loadUnchecked project).1
  rw [← Player.opened_amid settings options first project limit loads] at shown
  simp only [playProject, load_playable options project playable, shown]
  rfl

theorem shown_one_line (snapshot : Snapshot) : Text.OneLine snapshot.text := by
  have shown : Json.NoControls snapshot.text.toList := Json.write_no_controls snapshot.toJson
  refine ⟨fun member => shown '\n' member (by decide), fun last => ?_⟩
  exact shown '\r' (List.mem_of_getLast? last) (by decide)

theorem play_project_lines :
    Text.lines (printed (playProject events options project).stdout) =
      (playProject events options project).stdout := by
  refine Text.lines_of_printed _ fun text member => ?_
  by_cases playable : Playable options project
  · rw [play_project_shown events options project playable options (.loadUnchecked project) rfl rfl] at member
    obtain ⟨k, _, rfl⟩ := List.mem_map.mp member
    exact shown_one_line _
  · rw [play_project_refused events options project playable] at member
    cases member

theorem play_project_prints_iff :
    (playProject events options project).stdout ≠ [] ↔ Playable options project := by
  by_cases playable : Playable options project
  · rw [play_project_shown events options project playable options (.loadUnchecked project) rfl rfl]
    simp [playable]
  · simp [play_project_refused events options project playable, playable]

theorem validate_succeeds_iff (path : String) :
    (validateProject path project).code = 0 ↔ project.diagnostics = [] := by
  unfold validateProject
  cases project.diagnostics <;> simp [Output.failed]

end Shown

theorem with_document (path : String) (document : Json.Source) (use : Project → Output) :
    withProject path (.contents document) use =
      match Project.decode document with
      | .error cause => .failed ("load project '" ++ path ++ "'") (reasons (.unreadable cause))
      | .ok project => use project := by
  have read : Project.ofFile path (.contents document) = (Project.decode document).mapError .unreadable := rfl
  rw [withProject, read]
  cases Project.decode document <;> rfl

/-- However its arguments are written, `play` prints lines exactly if the document can be decoded and is
not to be checked or is one with which `validate` succeeds. There is one line after loading and one after
each event: what a session shows that has loaded the project with the same limit and was given the events
up to there. An event that the session refuses repeats the line before. -/
theorem play_prints_the_session (files : String → File) (document : Json.Source) (path : String)
    (events : List PlayEvent) (unchecked : Bool) (limit : Option Nat) (input : PlayArgument)
    (arguments : List PlayArgument) (stored : files path = .contents document)
    (named : input.option = .input path)
    (spelled : Spells path events unchecked limit (arguments.map (·.option))) :
    ∃ checking playing, parse ("validate" :: input.words) = some checking ∧
      parse ("play" :: arguments.flatMap PlayArgument.words) = some playing ∧
      let lines := Text.lines (printed (answer files playing).stdout)
      (lines ≠ [] ↔ ∃ project, Project.decode document = .ok project ∧
        (unchecked = true ∨ (answer files checking).code = 0)) ∧
      ∀ project settings first, Project.decode document = .ok project → lines ≠ [] →
        settings.maxQueueSteps = limit.getD ({} : Options).maxQueueSteps →
        Player.loadedBy settings first = some project →
        let session := sessionAfter settings first events
        lines = (List.range (events.length + 1)).map (fun k => (session k).snapshot.text) ∧
          ∀ k event failure, events[k]? = some event →
            (session k).respond event.command = .error failure → lines[k + 1]? = lines[k]? := by
  refine ⟨_, _, parse_validate input named, parse_play arguments spelled, ?_⟩
  simp only [answer, stored, with_document]
  cases decoded : Project.decode document with
  | error cause => simp [Output.failed, printed, Text.lines, Text.cutLines]
  | ok project =>
      dsimp only
      rw [play_project_lines, play_project_prints_iff, validate_succeeds_iff]
      refine ⟨by simp [Playable], ?_⟩
      intro other settings first same playable limit loads
      cases same
      have shown := play_project_shown events _ project playable settings first limit loads
      refine ⟨shown, fun k event failure there refused => ?_⟩
      have within : k < events.length := (List.getElem?_eq_some_iff.mp there).1
      have repeated : sessionAfter settings first events (k + 1) = sessionAfter settings first events k := by
        rw [session_after_event settings first events k event there, Player.after, refused]
      simp [shown, within, Nat.lt_succ_of_lt within, repeated]

theorem decode_written (project : Project) (fits : project.toJson.depth ≤ Json.levelLimit)
    (unchanged : ∀ x ∈ project.floats, Json.ReadsUnchanged x) :
    Project.decode (Json.Source.ofString project.encode) = .ok project.normalized := by
  obtain ⟨result, read, same⟩ := (project_restored project Json.levelLimit).mpr ⟨fits, unchanged⟩
  rw [decode_encode, read, same]

def kiosk : Project :=
  ((Project.start "kiosk" "Kiosk").withSlide
    ((Slide.start "hall").withLayer ((Layer.start "base").withObject
      ((SlideObject.button "press:me" "Press").withTrigger
        ((Trigger.start "count" .onClick).add "presses" (.int32 1)))))).withVariable
    (.start "presses" .number (some (.int32 0)))

theorem kiosk_decoded : Project.decode (Json.Source.ofString kiosk.encode) = .ok kiosk.normalized :=
  decode_written kiosk (by decide +kernel) (by decide +kernel)

theorem kiosk_prints_its_session :
    let files := fun _ => File.contents (Json.Source.ofString kiosk.encode)
    let events := [.click "press:me", .click "nobody", .enter "hall"]
    let words := ["play", "--event=click:press:me", "--in", "kiosk.json", "--event", "click:nobody",
      "--max-queue-steps", "7", "--event", "enter:hall"]
    ∃ playing, parse words = some playing ∧
      let lines := Text.lines (printed (answer files playing).stdout)
      let shown (k : Nat) := (sessionAfter ⟨true, 7⟩ (.load kiosk.normalized) events k).snapshot
      lines.length = 4 ∧
        lines[1]? = some ("\x7b\"state\":\x7b\"state\":\"slideActive\",\"slideId\":\"hall\"\x7d," ++
          "\"currentSlideId\":\"hall\",\"variables\":\x7b\"presses\":1\x7d," ++
          "\"layers\":\x7b\"base\":true\x7d\x7d") ∧
        lines[2]? = lines[1]? ∧ lines[3]? = some (shown 3).text ∧
        (shown 0).seen ["variables", "presses"] = some (Value.int32 0).toJson.outline ∧
        (shown 3).seen ["variables", "presses"] = some (Value.int32 1).toJson.outline := by
  intro files events words
  let input : PlayArgument := ⟨.input "kiosk.json", false, ⟨by decide, .inr (by decide)⟩⟩
  let arguments : List PlayArgument :=
    [⟨.event (.click "press:me"), true, by decide⟩, input, ⟨.event (.click "nobody"), false, by decide⟩,
      ⟨.limit 7, false, by decide⟩, ⟨.event (.enter "hall"), false, by decide⟩]
  have spelled : Spells "kiosk.json" events false (some 7) (arguments.map (·.option)) :=
    ⟨rfl, rfl, rfl, rfl, by decide⟩
  obtain ⟨checking, playing, asked, played, prints, shows⟩ :=
    play_prints_the_session files _ "kiosk.json" events false (some 7) input arguments rfl rfl spelled
  have clean : kiosk.normalized.diagnostics = [] := by decide +kernel
  have succeeds : (answer files checking).code = 0 := by
    cases Option.some.inj (asked.symm.trans (parse_validate input rfl))
    simp only [answer, files, with_document, kiosk_decoded]
    exact (validate_succeeds_iff _ _).mpr clean
  have printed := prints.mpr ⟨kiosk.normalized, kiosk_decoded, .inr succeeds⟩
  obtain ⟨lines, repeated⟩ := shows kiosk.normalized ⟨true, 7⟩ (.load kiosk.normalized) kiosk_decoded printed rfl
    (by simp [Player.loadedBy, clean])
  have counted := fun k => (player_seen (sessionAfter ⟨true, 7⟩ (.load kiosk.normalized) events k)).2.2.2.1 "presses"
  refine ⟨playing, played, ?_, ?_, repeated 1 (.click "nobody") (.dangling .object "nobody") rfl ?_, ?_,
    counted 0, counted 3⟩
  · rw [lines]
    rfl
  · rw [lines]
    decide +kernel
  · rfl
  · rw [lines]
    rfl

end CommandLine

end Slideshow
