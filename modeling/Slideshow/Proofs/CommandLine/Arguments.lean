import Slideshow.CommandLine

set_option autoImplicit false

namespace Slideshow.CommandLine

section Cut

variable (mark : Char) (before after : List Char)

theorem cut_at_mark (first : mark ∉ before) : cutAt mark (before ++ mark :: after) = some (before, after) := by
  induction before with
  | nil => simp [cutAt]
  | cons c before ih =>
      have other : c ≠ mark := fun same => first (by simp [same])
      have further := ih fun member => first (List.mem_cons_of_mem _ member)
      simp [cutAt, other, further]

theorem cut_at_missing (missing : mark ∉ before) : cutAt mark before = none := by
  induction before with
  | nil => rfl
  | cons c before ih =>
      have other : c ≠ mark := fun same => missing (by simp [same])
      have further := ih fun member => missing (List.mem_cons_of_mem _ member)
      simp [cutAt, other, further]

end Cut

namespace PlayEvent

def id : PlayEvent → String
  | .click id | .enter id => id

def kind : PlayEvent → List Char
  | .click _ => ['c', 'l', 'i', 'c', 'k']
  | .enter _ => ['e', 'n', 't', 'e', 'r']

def argument (event : PlayEvent) : String :=
  String.ofList (event.kind ++ ':' :: event.id.toList)

theorem parse_argument (event : PlayEvent) (named : event.id ≠ "") : parse event.argument = some event := by
  have cut : cutAt ':' event.argument.toList = some (event.kind, event.id.toList) := by
    rw [argument, String.toList_ofList]
    exact cut_at_mark ':' event.kind event.id.toList (by cases event <;> simp [kind])
  have chars : event.id.toList ≠ [] := fun none => named (String.toList_eq_nil_iff.mp none)
  rw [parse, cut]
  cases same : event.id.toList with
  | nil => exact absurd same chars
  | cons c rest =>
      have id : String.ofList (c :: rest) = event.id := by rw [← same, String.ofList_toList]
      cases event <;> simp [kind, id, PlayEvent.id]

end PlayEvent

theorem count_digits (n : Nat) :
    ∃ c rest, (toString n).toList = c :: rest ∧ ∀ digit ∈ c :: rest, digit.isDigit = true := by
  have chars : (toString n).toList = Nat.toDigits 10 n := Nat.toList_repr
  cases same : Nat.toDigits 10 n with
  | nil => exact absurd same Nat.toDigits_ne_nil
  | cons c rest =>
      refine ⟨c, rest, chars.trans same, fun digit member => ?_⟩
      exact Nat.isDigit_of_mem_toDigits (by decide) (by decide) (same ▸ member)

theorem parse_count (n : Nat) (fits : n < 0x10000000000000000) : parseCount (toString n) = some n := by
  obtain ⟨c, rest, chars, digits⟩ := count_digits n
  have value : (c :: rest).foldl (fun n c => n * 10 + (c.toNat - '0'.toNat)) 0 = n := by
    have denoted : Nat.ofDigitChars 10 (Nat.toDigits 10 n) 0 = n :=
      Nat.ofDigitChars_toDigits (by decide) (by decide)
    have same : Nat.toDigits 10 n = c :: rest := Nat.toList_repr.symm.trans chars
    simpa only [Nat.ofDigitChars, Nat.mul_comm, same] using denoted
  have unsigned : c ≠ '+' := fun plus => by simpa [plus] using digits c List.mem_cons_self
  have each : (c :: rest).all Char.isDigit = true := List.all_eq_true.mpr digits
  unfold parseCount
  rw [chars]
  split
  · rename_i plus
    exact absurd (List.cons.inj plus).1 unsigned
  · simp only [List.isEmpty_cons, each, Bool.not_true, Bool.or_self, Bool.false_eq_true, if_false, value,
      if_pos fits]

inductive PlayOption where
  | input (path : String)
  | event (event : PlayEvent)
  | unchecked
  | limit (steps : Nat)
  | verbose

namespace PlayOption

def name : PlayOption → String
  | .input _ => "--in"
  | .event _ => "--event"
  | .unchecked => "--unchecked"
  | .limit _ => "--max-queue-steps"
  | .verbose => "--verbose"

def value? : PlayOption → Option String
  | .input path => some path
  | .event e => some e.argument
  | .limit steps => some (toString steps)
  | .unchecked | .verbose => none

def Writable (joined : Bool) : PlayOption → Prop
  | .input path => path ≠ "" ∧ (joined = true ∨ isValue path = true)
  | .event e => e.id ≠ ""
  | .limit steps => steps < 0x10000000000000000
  | .unchecked | .verbose => True

instance (joined : Bool) : (option : PlayOption) → Decidable (option.Writable joined)
  | .input path => inferInstanceAs (Decidable (path ≠ "" ∧ (joined = true ∨ isValue path = true)))
  | .event e => inferInstanceAs (Decidable (e.id ≠ ""))
  | .limit steps => inferInstanceAs (Decidable (steps < 0x10000000000000000))
  | .unchecked | .verbose => inferInstanceAs (Decidable True)

def path? : PlayOption → Option String
  | .input path => some path
  | _ => none

def event? : PlayOption → Option PlayEvent
  | .event e => some e
  | _ => none

def limit? : PlayOption → Option Nat
  | .limit steps => some steps
  | _ => none

def isUnchecked : PlayOption → Bool
  | .unchecked => true
  | _ => false

def isVerbose : PlayOption → Bool
  | .verbose => true
  | _ => false

end PlayOption

structure PlayArgument where
  option : PlayOption
  joined : Bool := false
  writable : option.Writable joined

def PlayArgument.words (argument : PlayArgument) : List String :=
  match argument.option.value? with
  | none => [argument.option.name]
  | some value =>
      if argument.joined then [argument.option.name ++ "=" ++ value] else [argument.option.name, value]

-- The request that the options make together, after those that were read before. Only events are given
-- more than once.
structure Spells (path : String) (events : List PlayEvent) (unchecked : Bool) (limit : Option Nat)
    (options : List PlayOption) (earlier : Arguments := {}) : Prop where
  path : earlier.path.toList ++ options.filterMap PlayOption.path? = [path]
  events : earlier.events ++ options.filterMap PlayOption.event? = events
  limit : earlier.limit.toList ++ options.filterMap PlayOption.limit? = limit.toList
  unchecked : earlier.unchecked.toNat + options.countP PlayOption.isUnchecked = unchecked.toNat
  verbose : earlier.verbose.toNat + options.countP PlayOption.isVerbose ≤ 1

section Reading

variable (name value : String) (rest : List String) (earlier : Arguments)

theorem read_joined (clear : '=' ∉ name.toList) :
    readArguments ((name ++ "=" ++ value) :: rest) earlier =
      (earlier.option name value).bind (readArguments rest) := by
  have chars : (name ++ "=" ++ value).toList = name.toList ++ '=' :: value.toList := by simp
  have cut : cutAt '=' (name ++ "=" ++ value).toList = some (name.toList, value.toList) := by
    rw [chars, cut_at_mark '=' _ _ clear]
  have noEnd : name ++ "=" ++ value ≠ "--" := by
    intro same
    rw [same] at cut
    simp [cutAt] at cut
  cases rest with
  | nil =>
      rw [readArguments.eq_4 _ _ fun same _ => noEnd same, cut]
      simp only [String.ofList_toList]
      rfl
  | cons next rest =>
      rw [readArguments.eq_3 _ _ _ _ fun same _ => noEnd same, cut]
      simp only [String.ofList_toList]
      rfl

theorem read_separate (clear : '=' ∉ name.toList) (option : isFlag name = false) (plain : isValue value = true) :
    readArguments (name :: value :: rest) earlier = (earlier.option name value).bind (readArguments rest) := by
  rw [readArguments, cut_at_missing '=' _ clear]
  · simp only [option, plain, Bool.false_eq_true, if_false, if_true]
    rfl
  · simp

theorem read_flag (clear : '=' ∉ name.toList) (flag : isFlag name = true) :
    readArguments (name :: rest) earlier = (earlier.flag name).bind (readArguments rest) := by
  have noEnd : name ≠ "--" := by
    intro same
    rw [same] at flag
    exact absurd flag (by decide)
  cases rest with
  | nil =>
      rw [readArguments.eq_4 _ _ fun same _ => noEnd same, cut_at_missing '=' _ clear]
      simp only [flag, if_true]
      rfl
  | cons next rest =>
      rw [readArguments.eq_3 _ _ _ _ fun same _ => noEnd same, cut_at_missing '=' _ clear]
      simp only [flag, if_true]
      rfl

end Reading

def Arguments.take (earlier : Arguments) (option : PlayOption) : Option Arguments :=
  match option.value? with
  | none => earlier.flag option.name
  | some value => earlier.option option.name value

theorem writable_is_value (option : PlayOption) (text : String) (value : option.value? = some text)
    (writable : option.Writable false) : isValue text = true := by
  cases option with
  | input path =>
      cases value
      simpa using writable.2
  | event e =>
      cases value
      cases e <;> simp [isValue, PlayEvent.argument, PlayEvent.kind]
  | unchecked | verbose => cases value
  | limit steps =>
      cases value
      obtain ⟨c, rest, chars, digits⟩ := count_digits steps
      have unsigned : c ≠ '-' := fun minus => by simpa [minus] using digits c List.mem_cons_self
      unfold isValue
      rw [chars]
      split
      · rename_i minus
        exact absurd (List.cons.inj minus).1 unsigned
      · rfl

theorem read_argument (argument : PlayArgument) (rest : List String) (earlier : Arguments) :
    readArguments (argument.words ++ rest) earlier =
      (earlier.take argument.option).bind (readArguments rest) := by
  obtain ⟨option, joined, writable⟩ := argument
  have clear : '=' ∉ option.name.toList := by cases option <;> simp [PlayOption.name]
  cases value : option.value? with
  | none =>
      have flag : isFlag option.name = true := by cases option <;> simp_all [PlayOption.value?, isFlag, PlayOption.name]
      simp only [PlayArgument.words, Arguments.take, value]
      exact read_flag _ _ _ clear flag
  | some text =>
      simp only [PlayArgument.words, Arguments.take, value]
      cases joined with
      | true => exact read_joined _ _ _ _ clear
      | false =>
          have option : isFlag option.name = false := by
            cases option <;> first | rfl | cases value
          exact read_separate _ _ _ _ clear option (writable_is_value _ text value writable)

section Take

variable (earlier : Arguments)

theorem take_input (path : String) (fresh : earlier.path = none) (present : path ≠ "") :
    earlier.take (.input path) = some { earlier with path := some path } := by
  simp [Arguments.take, PlayOption.value?, PlayOption.name, Arguments.option, fresh, present]

theorem take_event (event : PlayEvent) (named : event.id ≠ "") :
    earlier.take (.event event) = some { earlier with events := earlier.events ++ [event] } := by
  simp [Arguments.take, PlayOption.value?, PlayOption.name, Arguments.option, event.parse_argument named]

theorem take_limit (steps : Nat) (fresh : earlier.limit = none) (fits : steps < 0x10000000000000000) :
    earlier.take (.limit steps) = some { earlier with limit := some steps } := by
  have counted : parseCount steps.repr = some steps := parse_count steps fits
  simp [Arguments.take, PlayOption.value?, PlayOption.name, Arguments.option, fresh, counted]

theorem take_unchecked (fresh : earlier.unchecked = false) :
    earlier.take .unchecked = some { earlier with unchecked := true } := by
  simp [Arguments.take, PlayOption.value?, PlayOption.name, Arguments.flag, fresh]

theorem take_verbose (fresh : earlier.verbose = false) :
    earlier.take .verbose = some { earlier with verbose := true } := by
  simp [Arguments.take, PlayOption.value?, PlayOption.name, Arguments.flag, fresh]

end Take

section Spelled

variable {path : String} {events : List PlayEvent} {unchecked : Bool} {limit : Option Nat}
  {earlier : Arguments}

theorem take_spelled (argument : PlayArgument) (options : List PlayOption)
    (spelled : Spells path events unchecked limit (argument.option :: options) earlier) :
    ∃ later, earlier.take argument.option = some later ∧
      Spells path events unchecked limit options later := by
  obtain ⟨paths, events, limits, uncheckeds, verboses⟩ := spelled
  obtain ⟨option, joined, writable⟩ := argument
  cases option with
  | input other =>
      have fresh : earlier.path = none := by
        cases given : earlier.path <;> simp [given, PlayOption.path?] at paths ⊢
      refine ⟨_, take_input earlier other fresh writable.1, ?_, events, limits, uncheckeds, verboses⟩
      simpa [PlayOption.path?, fresh] using paths
  | event e =>
      refine ⟨_, take_event earlier e writable, paths, ?_, limits, uncheckeds, verboses⟩
      simpa [PlayOption.event?] using events
  | unchecked =>
      have most := unchecked.toNat_le
      have counted : earlier.unchecked.toNat + (options.countP PlayOption.isUnchecked + 1) =
          unchecked.toNat := by
        simpa [List.countP_cons, PlayOption.isUnchecked] using uncheckeds
      have fresh : earlier.unchecked.toNat = 0 := by omega
      refine ⟨_, take_unchecked earlier (Bool.toNat_eq_zero.mp fresh), paths, events, limits, ?_, verboses⟩
      rw [Bool.toNat_true]
      omega
  | limit steps =>
      have fresh : earlier.limit = none := by
        cases given : earlier.limit <;> cases limit <;> simp [given, PlayOption.limit?] at limits ⊢
      refine ⟨_, take_limit earlier steps fresh writable, paths, events, ?_, uncheckeds, verboses⟩
      simpa [PlayOption.limit?, fresh] using limits
  | verbose =>
      have counted : earlier.verbose.toNat + (options.countP PlayOption.isVerbose + 1) ≤ 1 := by
        simpa [List.countP_cons, PlayOption.isVerbose] using verboses
      have fresh : earlier.verbose.toNat = 0 := by omega
      refine ⟨_, take_verbose earlier (Bool.toNat_eq_zero.mp fresh), paths, events, limits, uncheckeds, ?_⟩
      rw [Bool.toNat_true]
      omega

theorem read_spelled (arguments : List PlayArgument) (earlier : Arguments)
    (spelled : Spells path events unchecked limit (arguments.map (·.option)) earlier) :
    ∃ final, readArguments (arguments.flatMap PlayArgument.words) earlier = some final ∧
      Spells path events unchecked limit [] final := by
  -- By induction on the arguments, from whatever has been read: what `Spells` says is handed on.
  induction arguments generalizing earlier with
  | nil => exact ⟨earlier, readArguments.eq_1 earlier, spelled⟩
  | cons argument rest ih =>
      obtain ⟨later, taken, remaining⟩ := take_spelled argument _ spelled
      obtain ⟨final, read, done⟩ := ih later remaining
      refine ⟨final, ?_, done⟩
      rw [List.flatMap_cons, read_argument, taken, Option.bind_some, read]

theorem parse_play (arguments : List PlayArgument)
    (spelled : Spells path events unchecked limit (arguments.map (·.option))) :
    parse ("play" :: arguments.flatMap PlayArgument.words) =
      some (.play path events unchecked (limit.getD ({} : Options).maxQueueSteps)) := by
  obtain ⟨final, read, paths, said, limits, uncheckeds, _⟩ := read_spelled arguments {} spelled
  have finalPath : final.path = some path := by
    cases given : final.path <;> simp_all
  have finalLimit : final.limit = limit := by
    cases given : final.limit <;> cases limit <;> simp_all
  have finalUnchecked : final.unchecked = unchecked := by
    cases given : final.unchecked <;> cases unchecked <;> simp_all
  have finalEvents : final.events = events := by simpa using said
  simp [parse, parseCommand, read, playRequest, finalPath, finalEvents, finalUnchecked, finalLimit]

theorem parse_validate (argument : PlayArgument) (input : argument.option = .input path) :
    parse ("validate" :: argument.words) = some (.validate path) := by
  have present : path ≠ "" := by
    have writable := argument.writable
    rw [input] at writable
    exact writable.1
  have read : readArguments argument.words {} = some { path := some path } := by
    have first := read_argument argument [] {}
    rw [List.append_nil, input, take_input {} path rfl present] at first
    exact first.trans (readArguments.eq_1 _)
  simp [parse, parseCommand, read, validateRequest]

end Spelled

end Slideshow.CommandLine
