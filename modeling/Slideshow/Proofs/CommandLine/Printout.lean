import Slideshow.Proofs.CommandLine.Transcript
import Slideshow.Proofs.Validation.Phases

set_option autoImplicit false

namespace Slideshow

open Text (breaks breaks_append breaks_plain EndsPlain)

theorem breaks_count (n : Nat) : breaks n.repr = 0 := by
  obtain ⟨c, rest, chars, digits⟩ := CommandLine.count_digits n
  rw [Text.breaks_eq_zero_iff]
  intro member
  exact absurd (digits '\n' (chars ▸ member)) (by decide)

theorem breaks_quote (id : String) : breaks (quoteId id) = breaks id := by
  simp [quoteId, show breaks "\"" = 0 from rfl]

theorem breaks_path (path : List PathStep) :
    breaks (pathText path) = (path.map fun step => breaks step.text).sum := by
  rw [pathText, breaks_append, Text.breaks_join, List.map_map, show breaks "$" = 0 from rfl, Nat.zero_add]
  rfl

theorem breaks_element (n : Nat) : breaks (PathStep.element n).text = 0 := by
  simp [PathStep.text, breaks_count, show breaks "[" = 0 from rfl, show breaks "]" = 0 from rfl]

namespace Violation

def quoted : Violation → List String
  | .blankName => []
  | .repeatedSlide id | .repeatedVariable id => [id]
  | .blankTitle _ slide | .noWidth _ slide | .noHeight _ slide => [slide.id]
  | .repeatedLayer _ slide id => [slide.id, id]
  | .repeatedObject _ _ _ layer id => [layer.id, id]
  | .emptyTrigger _ _ site => [site.trigger.id, site.host.id]
  | .missingVariable _ _ site _ target | .missingSlide _ _ site _ target => [site.trigger.id, target]
  | .missingLayer _ slide site _ target => [site.trigger.id, target, slide.id]
  | .missingObject _ slide site target => [site.trigger.id, site.host.id, target, slide.id]

theorem path_unbroken (v : Violation) : breaks (pathText v.diagnostic.path) = 0 := by
  cases v <;>
    simp (disch := decide) only [breaks_path, diagnostic, slidePath, layerPath, triggerPath, TriggerSite.path,
      actionPath, List.cons_append, List.nil_append, List.map_cons, List.map_nil, List.sum_cons, List.sum_nil,
      breaks_element, breaks_plain, Nat.add_zero]

theorem message_breaks (v : Violation) : breaks v.diagnostic.message = breaks (String.join v.quoted) := by
  rw [Text.breaks_join]
  cases v <;>
    simp (disch := decide) only [diagnostic, quoted, breaks_append, breaks_quote, breaks_plain, List.map_cons,
      List.map_nil, List.sum_cons, List.sum_nil, Nat.zero_add, Nat.add_zero, Nat.add_assoc]

theorem message_ends (v : Violation) : EndsPlain v.diagnostic.message := by
  cases v with
  | blankName => rfl
  | blankTitle | noWidth | noHeight | emptyTrigger => exact Text.ends_plain_append _ _ rfl
  | _ => exact Text.ends_plain_append _ _ (Text.ends_plain_append _ "\"" rfl)

theorem text_eq (v : Violation) :
    v.diagnostic.text = pathText v.diagnostic.path ++ ": " ++ v.diagnostic.message := by
  cases v <;> rfl

theorem text_breaks (v : Violation) : breaks v.diagnostic.text = breaks (String.join v.quoted) := by
  rw [text_eq, breaks_append, breaks_append, path_unbroken, message_breaks, breaks_plain ": " rfl,
    Nat.zero_add]

theorem report_breaks (violations : List Violation) :
    breaks (String.join (violations.map (·.diagnostic.text))) =
      breaks (String.join (violations.flatMap quoted)) := by
  simp only [Text.breaks_join, List.map_map]
  induction violations with
  | nil => rfl
  | cons v rest ih =>
      rw [List.map_cons, List.sum_cons, List.flatMap_cons, List.map_append, List.sum_append, ih,
        Function.comp_apply, text_breaks, Text.breaks_join]

theorem text_one_line (v : Violation) (unbroken : ∀ id ∈ v.quoted, '\n' ∉ id.toList) :
    Text.OneLine v.diagnostic.text := by
  have joined : '\n' ∉ (String.join v.quoted).toList := by
    simpa [String.toList_join] using unbroken
  rw [← Text.breaks_eq_zero_iff, ← text_breaks, Text.breaks_eq_zero_iff] at joined
  refine ⟨joined, fun last => ?_⟩
  have ends : EndsPlain v.diagnostic.text := text_eq v ▸ Text.ends_plain_append _ _ (message_ends v)
  rw [EndsPlain, last] at ends
  exact absurd ends (by decide)

end Violation

namespace CommandLine

theorem validate_prints (path : String) (project : Project) :
    (validateProject path project).stdout = (validate (some project)).map Diagnostic.text := by
  unfold validateProject
  cases found : project.diagnostics <;> simp [validate, found]

/-- What `validate` prints of a project has a line for each violation, and one more for each line break in
an id that a diagnostic quotes. So its lines are the texts of the diagnostics exactly if no id that is
quoted has a line break; what other names and titles there are never matters. -/
theorem one_line_each_iff (files : String → File) (document : Json.Source) (path : String)
    (project : Project) (input : PlayArgument) (stored : files path = .contents document)
    (decoded : Project.decode document = .ok project) (named : input.option = .input path) :
    ∃ (request : Request) (violations : List Violation),
      parse ("validate" :: input.words) = some request ∧ (∀ v, v ∈ violations ↔ project.Violates v) ∧
      let lines := Text.lines (printed (answer files request).stdout)
      let texts := (validate (some project)).map Diagnostic.text
      texts = violations.map (·.diagnostic.text) ∧
        lines.length = violations.length + breaks (String.join (violations.flatMap Violation.quoted)) ∧
        (lines = texts ↔ ∀ v, project.Violates v → ∀ id ∈ v.quoted, '\n' ∉ id.toList) := by
  have covered := Violation.mem_phases project
  have reported : (validate (some project)).map Diagnostic.text =
      (Violation.phases project).flatten.map (·.diagnostic.text) := by
    rw [validate, ← Violation.phases_diagnostics project, List.map_map]
    rfl
  refine ⟨_, (Violation.phases project).flatten, parse_validate input named, covered, ?_⟩
  simp only [answer, stored, with_document, decoded, validate_prints, reported, true_and]
  generalize (Violation.phases project).flatten = violations at covered
  have counted := Text.count_lines_of_printed (violations.map (·.diagnostic.text))
  rw [List.length_map, Violation.report_breaks] at counted
  refine ⟨counted, fun same v violated id quoted => ?_, fun unbroken => Text.lines_of_printed _ ?_⟩
  · have none : breaks (String.join (violations.flatMap Violation.quoted)) = 0 := by
      rw [same, List.length_map] at counted
      omega
    rw [Text.breaks_eq_zero_iff, String.toList_join] at none
    exact fun broken => none (List.mem_flatMap.mpr
      ⟨id, List.mem_flatMap.mpr ⟨v, (covered v).mpr violated, quoted⟩, broken⟩)
  · intro text member
    obtain ⟨v, there, rfl⟩ := List.mem_map.mp member
    exact v.text_one_line (unbroken v ((covered v).mp there))

def foyer : Project :=
  ((Project.start "foyer" "\n").withSlide ((Slide.start "left").titled "\n")).withSlide
    ((Slide.start "right\r").sized 0 720)

def bulletin : Project :=
  (Project.start "bulletin" "Bulletin").withSlide ((Slide.start "news\nroom").titled "")

theorem foyer_prints_three_lines :
    let files := fun _ => File.contents (Json.Source.ofString foyer.encode)
    ∃ request, parse ["validate", "--in", "foyer.json"] = some request ∧
      Text.lines (printed (answer files request).stdout) =
        ["$.name: project name must be non-blank", "$.slides[0].title: slide \"left\": title must be non-blank",
          "$.slides[1].width: slide \"right\r\": width must be > 0"] := by
  intro files
  let input : PlayArgument := ⟨.input "foyer.json", false, ⟨by decide, .inr (by decide)⟩⟩
  have decoded := decode_written foyer (by decide +kernel) (by decide +kernel)
  obtain ⟨request, violations, asked, covered, texts, counted, each⟩ :=
    one_line_each_iff files _ "foyer.json" foyer.normalized input rfl decoded rfl
  have clear : ∀ v ∈ (Violation.phases foyer.normalized).flatten, ∀ id ∈ v.quoted, '\n' ∉ id.toList := by
    decide +kernel
  refine ⟨request, asked, (each.mpr fun v violated => clear v ((Violation.mem_phases _ v).mpr violated)).trans ?_⟩
  decide +kernel

theorem bulletin_prints_two_lines :
    let files := fun _ => File.contents (Json.Source.ofString bulletin.encode)
    ∃ request, parse ["validate", "--in", "bulletin.json"] = some request ∧
      Project.decode (Json.Source.ofString bulletin.encode) = .ok bulletin.normalized ∧
      (validate (some bulletin.normalized)).map Diagnostic.text =
        ["$.slides[0].title: slide \"news\nroom\": title must be non-blank"] ∧
      Text.lines (printed (answer files request).stdout) =
        ["$.slides[0].title: slide \"news", "room\": title must be non-blank"] := by
  intro files
  let input : PlayArgument := ⟨.input "bulletin.json", false, ⟨by decide, .inr (by decide)⟩⟩
  have decoded := decode_written bulletin (by decide +kernel) (by decide +kernel)
  refine ⟨_, parse_validate input rfl, decoded, by decide +kernel, ?_⟩
  simp only [answer, files, with_document, decoded, validate_prints]
  decide +kernel

end CommandLine

end Slideshow
