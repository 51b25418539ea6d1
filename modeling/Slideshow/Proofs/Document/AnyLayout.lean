import Slideshow.Proofs.Document.Settled
import Slideshow.Proofs.Document.Tagged

set_option autoImplicit false

namespace Slideshow

open Json (Entry Field Gap Listed MemberRead Members Outline Place Placed ReadError Shape Source Unrepeated
  Wording consultAll consult_step entryNames places)

theorem trigger_orderless : Trigger.shape.Orderless where
  apart := by decide
  fields := by
    simp only [Trigger.shape, List.pairwise_cons, List.forall_mem_cons, List.not_mem_nil, false_implies,
      implies_true, List.Pairwise.nil, and_true]
    and_intros
    all_goals exact fun _ _ => Json.past_of_sets _ _ _ _ fun _ _ _ => rfl
  other := fun _ _ name value _ => Json.past_skip name value _

theorem trigger_layout_free : LayoutFree Trigger.toJson Trigger.Arranged Trigger.shape.read := by
  refine layout_free_of_consulted Trigger.shape trigger_orderless rfl _ Trigger.entries (fun _ => rfl) ?_
  intro written members inner result placed shallow known
  rw [trigger_read] at known
  obtain ⟨list, listKnown, same⟩ := (Json.bind_ok_iff _ _ _).mp known
  cases same
  obtain ⟨id, event, target, inside, _⟩ := by
    simpa only [Trigger.entries, List.forall_mem_cons] using placed.found
  have named := trigger_type_read written.event inner
  refine ⟨⟨some written.id, some written.event, written.target, list⟩, ?_, rfl⟩
  apply consult_step (consult_text id)
  apply consult_step (consult_just event named)
  apply consult_step (consult_target target rfl)
  apply consult_step (consult_list_or_none action_layout_free shallow listKnown inside rfl)
  rfl

theorem object_orderless : SlideObject.shape.Orderless where
  apart := by decide
  fields := by
    simp only [SlideObject.shape, List.pairwise_cons, List.forall_mem_cons, List.not_mem_nil, false_implies,
      implies_true, List.Pairwise.nil, and_true]
    and_intros
    all_goals exact fun _ _ => Json.past_of_sets _ _ _ _ fun _ _ _ => rfl
  other := by
    simp only [SlideObject.shape, List.forall_mem_cons, List.not_mem_nil, false_implies, implies_true,
      and_true]
    and_intros
    all_goals
      intro name place _
      exact Json.past_of_sets (place.outline.json place.levels) _
        (fun json (draft : SlideObject.Draft) => { draft with others := draft.others ++ [(name, json)] }) _
        fun _ _ _ => rfl

theorem object_strays (members : List (String × Outline)) (levels : Nat) (draft : SlideObject.Draft)
    (jsons : List (String × Json)) (read : List.Forall₂ (MemberRead levels) members jsons) :
    SlideObject.shape.addStrays (places members levels) draft =
      .ok { draft with others := draft.others ++ jsons } := by
  induction read generalizing draft with
  | nil =>
      rw [List.append_nil]
      rfl
  | @cons member json members jsons first _ ih =>
      obtain ⟨name, json⟩ := json
      obtain ⟨named, known⟩ := first
      have kept : SlideObject.shape.other member.1 ⟨member.2, levels⟩ draft =
          .ok { draft with others := draft.others ++ [(name, json)] } := by
        rw [← named]
        exact (Json.bind_ok_iff _ _ _).mpr ⟨json, known, rfl⟩
      rw [places, List.map_cons, Json.Shape.addStrays, kept]
      refine (ih _).trans ?_
      simp

def isForeign (name : String) : Bool := name ∉ SlideObject.shape.names

theorem kind_names_foreign (kind : ObjectKind) : ∀ name ∈ entryNames kind.entries, isForeign name = true := by
  cases kind with
  | text content fontSize color =>
      show ∀ name ∈ ["type", "text", "fontSize", "color"], isForeign name = true
      decide
  | image path =>
      show ∀ name ∈ ["type", "sourcePath"], isForeign name = true
      decide
  | button label =>
      show ∀ name ∈ ["type", "label"], isForeign name = true
      decide

theorem kind_names_apart (kind : ObjectKind) : (entryNames kind.entries).Nodup := by
  cases kind with
  | text content fontSize color =>
      show ["type", "text", "fontSize", "color"].Nodup
      decide
  | image path =>
      show ["type", "sourcePath"].Nodup
      decide
  | button label =>
      show ["type", "label"].Nodup
      decide

theorem object_names (object : SlideObject) :
    (entryNames object.entries).Perm (SlideObject.shape.names ++ entryNames object.kind.entries) := by
  have names : entryNames object.entries =
      ["id", "name", "position", "size", "visible"] ++ entryNames object.kind.entries ++ ["triggers"] := by
    rw [entryNames, SlideObject.entries, List.map_append, List.map_append]
    rfl
  have fields : SlideObject.shape.names = ["id", "name", "position", "size", "visible"] ++ ["triggers"] := rfl
  rw [names, fields, List.append_assoc, List.append_assoc]
  exact List.perm_append_comm.append_left _

theorem object_names_apart (object : SlideObject) : (entryNames object.entries).Nodup := by
  rw [(object_names object).nodup_iff, List.nodup_append]
  refine ⟨object_orderless.apart, kind_names_apart object.kind, ?_⟩
  intro name known other inKind same
  subst same
  have foreign := kind_names_foreign object.kind name inKind
  exact of_decide_eq_true foreign known

theorem kind_placed (object : SlideObject) (members : List (String × Outline))
    (placed : Placed object.entries members) :
    Placed object.kind.entries (members.filter fun member => isForeign member.1) := by
  apply Json.placed_filter object.entries members object.kind.entries isForeign placed
  · intro entry inKind
    exact List.mem_append_left _ (List.mem_append_right _ inKind)
  · intro entry inKind
    exact kind_names_foreign object.kind entry.name (List.mem_map_of_mem inKind)
  · intro entry inEntries foreign
    have unknown : entry.name ∉ SlideObject.shape.names := of_decide_eq_true foreign
    rcases List.mem_append.mp inEntries with front | last
    · rcases List.mem_append.mp front with common | inKind
      · have named : entry.name ∈ ["id", "name", "position", "size", "visible"] := List.mem_map_of_mem common
        exact absurd (List.mem_append_left ["triggers"] named) unknown
      · exact inKind
    · have named : entry.name ∈ ["triggers"] := List.mem_map_of_mem last
      exact absurd (List.mem_append_right ["id", "name", "position", "size", "visible"] named) unknown

theorem object_fill (written : SlideObject) (members : List (String × Outline)) (levels : Nat)
    (placed : Placed written.entries members) (draft : SlideObject.Draft) (jsons : List (String × Json))
    (consulted : consultAll (places members levels) SlideObject.shape.fields SlideObject.shape.start = .ok draft)
    (read : List.Forall₂ (MemberRead levels) (members.filter fun member => isForeign member.1) jsons) :
    (Members.ofList members).fill SlideObject.shape levels [] SlideObject.shape.start =
      .ok { draft with others := draft.others ++ jsons } := by
  have known : SlideObject.shape.names ⊆ entryNames written.entries := fun name inNames =>
    (object_names written).mem_iff.mpr (List.mem_append_left _ inNames)
  rw [Json.fill_places]
  apply Json.take_all_consulted SlideObject.shape object_orderless
  · exact Json.unrepeated_places members levels _
      (Json.unrepeated_of_subset members _ _ known placed.unrepeated)
  · intro member _ _ seen
    cases seen
  · rw [Json.Shape.consulted, consulted, Json.strays_places]
    exact object_strays _ levels draft jsons read

theorem object_layout_free :
    LayoutFree SlideObject.toJson SlideObject.Arranged SlideObject.shape.readNamed := by
  intro written outline levels result arranged nested known
  obtain ⟨members, same, placed⟩ :=
    Json.arranged_placed written.entries outline (object_names_apart written) arranged
  subst same
  rw [object_read] at known
  cases levels with
  | zero => exact absurd nested (Nat.not_succ_le_zero _)
  | succ inner =>
      have shallow := Json.member_depth members inner (Nat.le_of_succ_le_succ nested)
      obtain ⟨position, positionKnown, known⟩ := (Json.bind_ok_iff _ _ _).mp known
      obtain ⟨size, sizeKnown, known⟩ := (Json.bind_ok_iff _ _ _).mp known
      obtain ⟨others, othersKnown, known⟩ := (Json.bind_ok_iff _ _ _).mp known
      obtain ⟨triggers, triggersKnown, known⟩ := (Json.bind_ok_iff _ _ _).mp known
      obtain ⟨kind, kindKnown, same⟩ := (Json.bind_ok_iff _ _ _).mp known
      cases same
      obtain ⟨jsons, read, kindFound⟩ := kind_layout_free written.kind (kind_placed written members placed)
        (fun member inside => shallow member (List.mem_of_mem_filter inside)) kind
        ((Json.bind_ok_iff _ _ _).mpr ⟨others, othersKnown, kindKnown⟩)
      obtain ⟨⟨⟨id, name, place, extent, visible, _⟩, _⟩, inside, _⟩ := by
        simpa only [SlideObject.entries, List.forall_mem_append, List.forall_mem_cons] using placed.found
      have consulted : consultAll (places members inner) SlideObject.shape.fields SlideObject.shape.start =
          .ok ⟨some written.id, some written.name, some position, some size, written.visible, triggers, []⟩ := by
        apply consult_step (consult_text id)
        apply consult_step (consult_text name)
        apply consult_step (consult_record point_layout_free shallow positionKnown place)
        apply consult_step (consult_record size_layout_free shallow sizeKnown extent)
        apply consult_step (consult_visible visible rfl)
        apply consult_step (consult_list_or_none trigger_layout_free shallow triggersKnown inside rfl)
        rfl
      have filled := object_fill written members inner placed _ jsons consulted read
      refine (Json.bind_ok_iff _ _ _).mpr ⟨_, filled, ?_⟩
      exact (Json.bind_ok_iff _ _ _).mpr ⟨_, rfl, (Json.bind_ok_iff _ _ _).mpr ⟨_, rfl,
        (Json.bind_ok_iff _ _ _).mpr ⟨_, rfl, (Json.bind_ok_iff _ _ _).mpr ⟨_, rfl,
          (Json.bind_ok_iff _ _ _).mpr ⟨kind, kindFound, rfl⟩⟩⟩⟩⟩

theorem layer_orderless : Layer.shape.Orderless where
  apart := by decide
  fields := by
    simp only [Layer.shape, List.pairwise_cons, List.forall_mem_cons, List.not_mem_nil, false_implies,
      implies_true, List.Pairwise.nil, and_true]
    and_intros
    all_goals exact fun _ _ => Json.past_of_sets _ _ _ _ fun _ _ _ => rfl
  other := fun _ _ name value _ => Json.past_skip name value _

theorem layer_layout_free : LayoutFree Layer.toJson Layer.Arranged Layer.shape.read := by
  refine layout_free_of_consulted Layer.shape layer_orderless rfl _ Layer.entries (fun _ => rfl) ?_
  intro written members inner result placed shallow known
  rw [layer_read] at known
  obtain ⟨list, listKnown, same⟩ := (Json.bind_ok_iff _ _ _).mp known
  cases same
  obtain ⟨id, name, visible, inside, _⟩ := by
    simpa only [Layer.entries, List.forall_mem_cons] using placed.found
  refine ⟨⟨some written.id, some written.name, written.visible, list⟩, ?_, rfl⟩
  apply consult_step (consult_text id)
  apply consult_step (consult_text name)
  apply consult_step (consult_visible visible rfl)
  apply consult_step (consult_list_or_none object_layout_free shallow listKnown inside rfl)
  rfl

theorem slide_orderless : Slide.shape.Orderless where
  apart := by decide
  fields := by
    simp only [Slide.shape, List.pairwise_cons, List.forall_mem_cons, List.not_mem_nil, false_implies,
      implies_true, List.Pairwise.nil, and_true]
    and_intros
    all_goals exact fun _ _ => Json.past_of_sets _ _ _ _ fun _ _ _ => rfl
  other := fun _ _ name value _ => Json.past_skip name value _

theorem slide_layout_free : LayoutFree Slide.toJson Slide.Arranged Slide.shape.read := by
  refine layout_free_of_consulted Slide.shape slide_orderless rfl _ Slide.entries (fun _ => rfl) ?_
  intro written members inner result placed shallow known
  rw [slide_read] at known
  obtain ⟨width, widthKnown, known⟩ := (Json.bind_ok_iff _ _ _).mp known
  obtain ⟨height, heightKnown, known⟩ := (Json.bind_ok_iff _ _ _).mp known
  obtain ⟨list, listKnown, same⟩ := (Json.bind_ok_iff _ _ _).mp known
  cases same
  obtain ⟨id, title, across, down, inside, _⟩ := by
    simpa only [Slide.entries, List.forall_mem_cons] using placed.found
  refine ⟨⟨some written.id, some written.title, some width, some height, list⟩, ?_, rfl⟩
  apply consult_step (consult_text id)
  apply consult_step (consult_text title)
  apply consult_step (consult_just across widthKnown)
  apply consult_step (consult_just down heightKnown)
  apply consult_step (consult_list_or_none layer_layout_free shallow listKnown inside rfl)
  rfl

theorem project_orderless : Project.shape.Orderless where
  apart := by decide
  fields := by
    simp only [Project.shape, List.pairwise_cons, List.forall_mem_cons, List.not_mem_nil, false_implies,
      implies_true, List.Pairwise.nil, and_true]
    and_intros
    all_goals exact fun _ _ => Json.past_of_sets _ _ _ _ fun _ _ _ => rfl
  other := fun _ _ name value _ => Json.past_skip name value _

theorem project_layout_free : LayoutFree Project.toJson Project.Arranged Project.shape.read := by
  refine layout_free_of_consulted Project.shape project_orderless rfl _ Project.entries (fun _ => rfl) ?_
  intro written members inner result placed shallow known
  rw [project_read] at known
  obtain ⟨list, listKnown, known⟩ := (Json.bind_ok_iff _ _ _).mp known
  obtain ⟨declarations, declarationsKnown, same⟩ := (Json.bind_ok_iff _ _ _).mp known
  cases same
  obtain ⟨id, name, inside, declared, _⟩ := by
    simpa only [Project.entries, List.forall_mem_cons] using placed.found
  refine ⟨⟨some written.id, some written.name, some list, some declarations⟩, ?_, rfl⟩
  apply consult_step (consult_text id)
  apply consult_step (consult_text name)
  apply consult_step (consult_record (list_layout_free slide_layout_free) shallow listKnown inside)
  apply consult_step (consult_record (list_layout_free variable_layout_free) shallow declarationsKnown declared)
  rfl

theorem encode_is_a_layout (project : Project) :
    project.Arranged project.toJson.wording.outline ∧
      Json.textOf [] project.toJson.wording [] = project.encode := by
  constructor
  · rw [Json.wording_outline]
    exact project_written project
  · exact Json.written_text project.toJson

/-- Decoding depends on what a document says and not on how it is laid out. Of a project whose
written text is decoded, every text decodes to the same result that has its members in another order,
blanks between its tokens, members left out that stand for a default, and others added whose names
mean nothing where they stand, if it is not nested too deep. -/
theorem layout_never_matters (project result : Project)
    (decoded : Project.decode (Source.ofString project.encode) = .ok result)
    (before after : Gap) (wording : Wording) (arranged : project.Arranged wording.outline)
    (nested : wording.outline.depth ≤ Json.levelLimit) :
    Project.decode (Source.ofString (Json.textOf before wording after)) = .ok result := by
  rw [decode_encode] at decoded
  rw [Project.decode, Json.read_whole_worded]
  exact project_layout_free project wording.outline Json.levelLimit result arranged nested decoded

section Lines

open Json (FurtherMembers Label)

def lineLabel (name : String) : Label :=
  { before := [.newline, .tab], name := Json.glyphsOf name, afterColon := [.space] }

def furtherLines : List (String × Wording) → FurtherMembers
  | [] => .close [.newline]
  | (name, value) :: rest => .next [] (lineLabel name) value (furtherLines rest)

def lines : List (String × Wording) → Wording
  | [] => .emptyObject []
  | (name, value) :: rest => .object (lineLabel name) value (furtherLines rest)

def outlines (members : List (String × Wording)) : List (String × Outline) :=
  members.map fun member => (member.1, member.2.outline)

theorem further_lines_outline (members : List (String × Wording)) :
    (furtherLines members).outline = .ofList (outlines members) := by
  induction members with
  | nil => rfl
  | cons member rest ih =>
      rw [furtherLines, FurtherMembers.outline, ih, lineLabel, Json.glyphs_string_of]
      rfl

theorem lines_outline (members : List (String × Wording)) :
    (lines members).outline = .object (.ofList (outlines members)) := by
  cases members with
  | nil => rfl
  | cons member rest =>
      rw [lines, Wording.outline, further_lines_outline, lineLabel, Json.glyphs_string_of]
      rfl

end Lines

section Backwards

def backwardsVariable : Wording :=
  lines [("value", (Json.ofInt64 5).wording), ("type", (Json.text "number").wording),
    ("name", (Json.text "total").wording), ("id", (Json.text "total").wording)]

def backwardsSlide : Wording :=
  lines [("height", (Json.ofFloat 720).wording), ("width", (Json.ofFloat 1280).wording),
    ("title", (Json.text "slide").wording), ("id", (Json.text "slide").wording)]

def backwards : Wording :=
  lines [("editor", lines [("zoom", (Json.ofInt64 2).wording)]),
    ("variables", .list [] backwardsVariable (.close [])), ("slides", .list [] backwardsSlide (.close [])),
    ("name", (Json.text "Tidy").wording), ("id", (Json.text "tidy").wording)]

theorem arranged_backwards (entries : List Entry) (members strange : List (String × Wording))
    (chosen : Json.Chosen entries (outlines members.reverse))
    (unknown : ∀ member ∈ strange, member.1 ∉ entryNames entries ∧ member.2.outline.Sound) :
    Json.Arranged entries (lines (strange ++ members)).outline := by
  refine ⟨outlines (strange ++ members), outlines members.reverse, outlines strange, lines_outline _, chosen,
    ?_, ?_⟩
  · intro member inStrange
    obtain ⟨worded, inList, same⟩ := List.mem_map.mp inStrange
    subst same
    exact unknown worded inList
  · rw [outlines, outlines, outlines, ← List.map_append]
    have moved := List.perm_append_comm.trans ((List.reverse_perm members).symm.append_right strange)
    exact moved.map _

theorem backwards_variable :
    (Variable.start "total" .number (some (.int64 5))).Arranged backwardsVariable.outline := by
  apply arranged_backwards _ _ [] ?_ (List.forall_mem_nil _)
  exact .here (Json.wording_outline _) <| .here (Json.wording_outline _) <| .here (Json.wording_outline _) <|
    .here ⟨.int64 5, rfl, Json.wording_outline _⟩ .nil

theorem backwards_slide : (Slide.start "slide").Arranged backwardsSlide.outline := by
  apply arranged_backwards _ _ [] ?_ (List.forall_mem_nil _)
  exact .here (Json.wording_outline _) <| .here (Json.wording_outline _) <| .here (Json.wording_outline _) <|
    .here (Json.wording_outline _) <| .omitted rfl .nil

theorem backwards_arranged : tidy.Arranged backwards.outline := by
  have slides : Listed Slide.Arranged tidy.slides (Wording.list [] backwardsSlide (.close [])).outline :=
    ⟨[backwardsSlide.outline], rfl, .cons backwards_slide .nil⟩
  have declarations :
      Listed Variable.Arranged tidy.declarations (Wording.list [] backwardsVariable (.close [])).outline :=
    ⟨[backwardsVariable.outline], rfl, .cons backwards_variable .nil⟩
  have zoom : (Json.ofInt64 2).wording.outline.Sound := by
    rw [Json.wording_outline]
    exact ⟨_, Number.reread_int _ _⟩
  have note : (lines [("zoom", (Json.ofInt64 2).wording)]).outline.Sound := by
    rw [lines_outline]
    exact ⟨⟨"zoom", rfl⟩, zoom, trivial⟩
  apply arranged_backwards _ _ [("editor", lines [("zoom", (Json.ofInt64 2).wording)])]
  · exact .here (Json.wording_outline _) <| .here (Json.wording_outline _) <| .here slides <|
      .here declarations .nil
  · refine List.forall_mem_singleton.mpr ⟨?_, note⟩
    show "editor" ∉ ["id", "name", "slides", "variables"]
    decide

theorem backwards_is_read_as_tidy :
    Project.decode (Source.ofString tidy.encode) = .ok tidy.normalized ∧
      Project.decode (Source.ofString (Json.textOf [.space] backwards [.newline])) = .ok tidy.normalized := by
  refine ⟨tidy_decoded, layout_never_matters tidy tidy.normalized tidy_decoded [.space] [.newline] backwards
    backwards_arranged ?_⟩
  decide +kernel

end Backwards

end Slideshow
