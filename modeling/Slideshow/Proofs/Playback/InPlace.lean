import Slideshow.Playback.InPlace
import Slideshow.Proofs.Playback.Session

set_option autoImplicit false

namespace Slideshow

namespace Performance

section Steps

variable {α β : Type} (stage : Stage)

theorem bind_at (first : Performance α) (next : α → Performance β) :
    (first >>= next) stage =
      match first stage with
      | .ok result after => next result after
      | .error failure after => .error failure after := by
  simp only [bind, EStateM.bind]
  cases first stage <;> rfl

theorem pure_at (result : α) : (pure result : Performance α) stage = .ok result stage := rfl

theorem look_at : look stage = .ok stage.player stage := rfl

theorem change_at (step : Player → Player × List Event) :
    change step stage = .ok () ⟨(step stage.player).1, stage.heard ++ (step stage.player).2⟩ := rfl

theorem put_at (next : Player → Player) : put next stage = .ok () ⟨next stage.player, stage.heard⟩ := by
  rw [put, change_at, List.append_nil]

theorem check_at (checked : Except Failure α) :
    check checked stage =
      match checked with
      | .ok result => .ok result stage
      | .error failure => .error failure stage := by
  cases checked <;> rfl

theorem require_at (failure : Failure) (found : Option α) :
    require failure found stage =
      match found with
      | some result => .ok result stage
      | none => .error failure stage := by
  cases found <;> rfl

theorem begin_at (project : Project) (index : Nat) :
    begin project index stage =
      .ok () ⟨(stage.player.enterAndDrain project index).1,
        stage.heard ++ (stage.player.enterAndDrain project index).2⟩ := by
  simp only [begin, bind_at, change_at, Player.enterAndDrain, List.append_assoc]

theorem restart_at :
    restart stage = .ok () ⟨stage.player.restart.1, stage.heard ++ stage.player.restart.2⟩ := by
  obtain ⟨⟨options, project, phase, current, store, layers, queue, faults⟩, heard⟩ := stage
  simp only [restart, bind_at, put_at, look_at, Player.restart, Player.stop]
  cases project with
  | none => simp only [pure_at, List.append_nil]
  | some project =>
      by_cases empty : project.slides.isEmpty = true
      · simp only [if_pos empty, bind_at, put_at, pure_at, List.append_nil]
      · simp only [if_neg empty, bind_at, put_at, begin_at]

theorem load_unchecked_at (project : Project) :
    loadUnchecked project stage =
      .ok () ⟨(stage.player.loadUnchecked project).1,
        stage.heard ++ (stage.player.loadUnchecked project).2⟩ := by
  simp only [loadUnchecked, bind_at, put_at, restart_at, Player.loadUnchecked]

theorem dispatch_at (project : Project) (triggers : List TriggerRef) :
    dispatch project triggers stage =
      .ok () ⟨(stage.player.dispatch project triggers).1,
        stage.heard ++ (stage.player.dispatch project triggers).2⟩ := by
  simp only [dispatch, bind_at, put_at, change_at, Player.dispatch]

def comesTo (stage : Stage) : Except Failure Response → EStateM.Result Failure Stage Reply
  | .ok response => .ok response.reply ⟨response.player, stage.heard ++ response.events⟩
  | .error failure => .error failure stage

theorem load_at (project : Project) :
    obey (.load project) stage = comesTo stage (stage.player.respond (.load project)) := by
  simp only [obey, load, bind_at, look_at, Player.respond, Player.load]
  by_cases checked : stage.player.options.validateOnLoad = true
  · simp only [if_pos checked, bind_at, check_at]
    cases project.validated with
    | error failure => rfl
    | ok accepted =>
        simp only [load_unchecked_at]
        rfl
  · simp only [if_neg checked, load_unchecked_at]
    rfl

theorem click_at (id : String) :
    obey (.click id) stage = comesTo stage (stage.player.respond (.click id)) := by
  simp only [obey, click, bind_at, look_at, check_at, Player.respond, Player.click]
  cases stage.player.active with
  | error failure => rfl
  | ok place =>
      obtain ⟨project, index⟩ := place
      simp only [require_at, bind, Except.bind]
      cases project.clicked? index id with
      | none => rfl
      | some triggers =>
          simp only [dispatch_at]
          rfl

theorem pointer_at (point : Point) :
    obey (.pointerDown point) stage = comesTo stage (stage.player.respond (.pointerDown point)) := by
  simp only [obey, pointerDown, bind_at, look_at, check_at, Player.respond, Player.pointerDown]
  cases stage.player.active with
  | error failure => rfl
  | ok place =>
      obtain ⟨project, index⟩ := place
      cases found : project.pointed? index stage.player.shows point with
      | none =>
          simp only [found, comesTo, bind, Except.bind, pure, Except.pure, Except.map, List.append_nil]
          rfl
      | some hit =>
          simp only [found, bind_at, dispatch_at]
          simp only [found, bind, Except.bind]
          rfl

theorem enter_at (id : String) :
    obey (.enter id) stage = comesTo stage (stage.player.respond (.enter id)) := by
  obtain ⟨⟨options, project, phase, current, store, layers, queue, faults⟩, heard⟩ := stage
  cases project with
  | none => rfl
  | some project =>
      simp only [obey, enter, bind_at, look_at, require_at, Player.respond, Player.enter]
      cases project.slideIndex? id with
      | none => rfl
      | some index =>
          by_cases idle : current.isNone = true
          · simp only [if_pos idle, bind_at, put_at, begin_at]
            rfl
          · simp only [if_neg idle, begin_at]
            rfl

theorem obey_at (command : Command) :
    obey command stage = comesTo stage (stage.player.respond command) := by
  cases command with
  | load project => exact load_at stage project
  | loadUnchecked project =>
      simp only [obey, bind_at, load_unchecked_at]
      rfl
  | restart =>
      simp only [obey, bind_at, restart_at]
      rfl
  | stop =>
      simp only [obey, bind_at, put_at, comesTo, Player.respond, List.append_nil]
      rfl
  | click id => exact click_at stage id
  | pointerDown point => exact pointer_at stage point
  | enter id => exact enter_at stage id
  | takeFaults =>
      simp only [obey, takeFaults, bind_at, look_at, put_at, comesTo, Player.respond, List.append_nil]
      rfl

end Steps
end Performance
end Slideshow
