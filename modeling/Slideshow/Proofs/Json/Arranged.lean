import Slideshow.Proofs.Json.Fields

set_option autoImplicit false

namespace Slideshow.Json

def Elements.ofList : List Outline → Elements
  | [] => .close
  | element :: rest => .next element (.ofList rest)

def Members.ofList : List (String × Outline) → Members
  | [] => .close
  | (name, value) :: rest => .next (.ok name) value (.ofList rest)

mutual
def Outline.Sound : Outline → Prop
  | .null | .bool _ => True
  | .number value => ∃ n, value = .ok n
  | .text value => ∃ s, value = .ok s
  | .list elements => elements.Sound
  | .object members => members.Sound
  | .broken _ => False

def Elements.Sound : Elements → Prop
  | .close => True
  | .next element rest => element.Sound ∧ rest.Sound
  | .broken _ => False

def Members.Sound : Members → Prop
  | .close => True
  | .next name value rest => (∃ s, name = .ok s) ∧ value.Sound ∧ rest.Sound
  | .broken _ => False
end

mutual
def Outline.depth : Outline → Nat
  | .list elements => elements.depth + 1
  | .object members => members.depth + 1
  | _ => 0

def Elements.depth : Elements → Nat
  | .next element rest => max element.depth rest.depth
  | _ => 0

def Members.depth : Members → Nat
  | .next _ value rest => max value.depth rest.depth
  | _ => 0
end

mutual
theorem sound_skip : (outline : Outline) → outline.Sound → outline.skip = .ok ()
  | .null, _ | .bool _, _ | .number _, _ | .text _, _ => rfl
  | .list elements, sound => sound_elements_skip elements sound
  | .object members, sound => sound_members_skip members sound
  | .broken _, sound => sound.elim

theorem sound_elements_skip : (elements : Elements) → elements.Sound → elements.skip = .ok ()
  | .close, _ => rfl
  | .next element rest, sound => by
      rw [Elements.skip, sound_skip element sound.1]
      exact sound_elements_skip rest sound.2
  | .broken _, sound => sound.elim

theorem sound_members_skip : (members : Members) → members.Sound → members.skip = .ok ()
  | .close, _ => rfl
  | .next name value rest, sound => by
      rw [Members.skip, sound_skip value sound.2.1]
      exact sound_members_skip rest sound.2.2
  | .broken _, sound => sound.elim
end

mutual
theorem sound_json : (outline : Outline) → (levels : Nat) → outline.Sound → outline.depth ≤ levels →
    ∃ json, outline.json levels = .ok json
  | .null, _, _, _ => ⟨.null, rfl⟩
  | .bool b, _, _, _ => ⟨.bool b, rfl⟩
  | .number _, _, ⟨n, same⟩, _ => ⟨.number n, by rw [same]; rfl⟩
  | .text _, _, ⟨s, same⟩, _ => ⟨.text s, by rw [same]; rfl⟩
  | .list _, 0, _, shallow => by simp [Outline.depth] at shallow
  | .object _, 0, _, shallow => by simp [Outline.depth] at shallow
  | .list elements, inner + 1, sound, shallow => by
      obtain ⟨jsons, read⟩ := sound_elements_json elements inner sound (Nat.le_of_succ_le_succ shallow)
      exact ⟨.list jsons, by rw [Outline.json, opened, read]; rfl⟩
  | .object members, inner + 1, sound, shallow => by
      obtain ⟨jsons, read⟩ := sound_members_json members inner sound (Nat.le_of_succ_le_succ shallow)
      exact ⟨.object jsons, by rw [Outline.json, opened, read]; rfl⟩
  | .broken _, _, sound, _ => sound.elim

theorem sound_elements_json : (elements : Elements) → (levels : Nat) → elements.Sound →
    elements.depth ≤ levels → ∃ jsons, elements.jsons levels = .ok jsons
  | .close, _, _, _ => ⟨[], rfl⟩
  | .next element rest, levels, sound, shallow => by
      obtain ⟨here, later⟩ := Nat.max_le.mp shallow
      obtain ⟨first, read⟩ := sound_json element levels sound.1 here
      obtain ⟨others, readOthers⟩ := sound_elements_json rest levels sound.2 later
      exact ⟨first :: others, by rw [Elements.jsons, read, readOthers]; rfl⟩
  | .broken _, _, sound, _ => sound.elim

theorem sound_members_json : (members : Members) → (levels : Nat) → members.Sound →
    members.depth ≤ levels → ∃ jsons, members.jsons levels = .ok jsons
  | .close, _, _, _ => ⟨[], rfl⟩
  | .next name value rest, levels, sound, shallow => by
      obtain ⟨here, later⟩ := Nat.max_le.mp shallow
      obtain ⟨⟨s, same⟩, valueSound, restSound⟩ := sound
      obtain ⟨first, read⟩ := sound_json value levels valueSound here
      obtain ⟨others, readOthers⟩ := sound_members_json rest levels restSound later
      exact ⟨(s, first) :: others, by rw [same, Members.jsons, read, readOthers]; rfl⟩
  | .broken _, _, sound, _ => sound.elim
end

section Lists

variable (members : List (String × Outline)) (levels : Nat)

theorem member_depth (shallow : (Members.ofList members).depth ≤ levels) :
    ∀ member ∈ members, member.2.depth ≤ levels := by
  induction members with
  | nil =>
      intro member inList
      cases inList
  | cons first rest ih =>
      obtain ⟨here, later⟩ := Nat.max_le.mp shallow
      exact List.forall_mem_cons.mpr ⟨here, ih later⟩

theorem element_depth (elements : List Outline) (shallow : (Elements.ofList elements).depth ≤ levels) :
    ∀ element ∈ elements, element.depth ≤ levels := by
  induction elements with
  | nil =>
      intro element inList
      cases inList
  | cons first rest ih =>
      obtain ⟨here, later⟩ := Nat.max_le.mp shallow
      exact List.forall_mem_cons.mpr ⟨here, ih later⟩

def MemberRead (member : String × Outline) (json : String × Json) : Prop :=
  json.1 = member.1 ∧ member.2.json levels = .ok json.2

theorem jsons_of_read (jsons : List (String × Json)) (read : List.Forall₂ (MemberRead levels) members jsons) :
    (Members.ofList members).jsons levels = .ok jsons := by
  induction read with
  | nil => rfl
  | cons first _ ih =>
      obtain ⟨named, known⟩ := first
      rw [Members.ofList, Members.jsons, known, ih, ← named]
      rfl

theorem read_each (readable : ∀ member ∈ members, ∃ json, member.2.json levels = .ok json) :
    ∃ jsons, List.Forall₂ (MemberRead levels) members jsons := by
  induction members with
  | nil => exact ⟨[], .nil⟩
  | cons member rest ih =>
      obtain ⟨first, later⟩ := List.forall_mem_cons.mp readable
      obtain ⟨json, known⟩ := first
      obtain ⟨jsons, read⟩ := ih later
      exact ⟨(member.1, json) :: jsons, .cons ⟨rfl, known⟩ read⟩

theorem names_of_read (jsons : List (String × Json)) (read : List.Forall₂ (MemberRead levels) members jsons) :
    jsons.map (·.1) = members.map (·.1) := by
  induction read with
  | nil => rfl
  | cons first _ ih => rw [List.map_cons, List.map_cons, first.1, ih]

theorem lookup_of_read (jsons : List (String × Json)) (read : List.Forall₂ (MemberRead levels) members jsons)
    (name : String) (value : Outline) (found : members.lookup name = some value) :
    ∃ json, value.json levels = .ok json ∧ jsons.lookup name = some json := by
  induction read with
  | nil => cases found
  | @cons member read _ _ first _ ih =>
      obtain ⟨named, firstKnown⟩ := first
      rw [IdMap.lookup_cons_if] at found ⊢
      rw [named]
      by_cases here : name = member.1
      · rw [if_pos here] at found ⊢
        cases found
        exact ⟨read.2, firstKnown, rfl⟩
      · rw [if_neg here] at found ⊢
        exact ih found

theorem lookup_none_of_read (jsons : List (String × Json))
    (read : List.Forall₂ (MemberRead levels) members jsons) (name : String)
    (missing : members.lookup name = none) : jsons.lookup name = none := by
  apply lookup_of_not_mem
  rw [names_of_read members levels jsons read]
  intro present
  obtain ⟨member, inMembers, same⟩ := List.mem_map.mp present
  exact bne_iff_ne.mp (List.lookup_eq_none_iff.mp missing member inMembers) same.symm

theorem lookup_filter {β : Type} (members : List (String × β)) (keep : String → Bool) (name : String)
    (kept : keep name = true) :
    (members.filter fun member => keep member.1).lookup name = members.lookup name := by
  induction members with
  | nil => rfl
  | cons member rest ih =>
      obtain ⟨first, value⟩ := member
      rw [List.filter_cons]
      by_cases here : keep first = true
      · rw [if_pos here, IdMap.lookup_cons_if, IdMap.lookup_cons_if, ih]
      · have different : name ≠ first := fun same => here (same ▸ kept)
        rw [if_neg here, IdMap.lookup_cons_if, if_neg different, ih]

theorem read_filter (keep : String → Bool) (jsons : List (String × Json))
    (read : List.Forall₂ (MemberRead levels) members jsons) :
    List.Forall₂ (MemberRead levels) (members.filter fun member => keep member.1)
      (jsons.filter fun member => keep member.1) := by
  induction read with
  | nil => exact .nil
  | @cons member json _ _ first _ ih =>
      rw [List.filter_cons, List.filter_cons, first.1]
      by_cases kept : keep member.1 = true
      · rw [if_pos kept, if_pos kept]
        exact .cons first ih
      · rw [if_neg kept, if_neg kept]
        exact ih

end Lists

structure Entry where
  name : String
  stands : Outline → Prop
  optional : Prop := False

inductive Chosen : List Entry → List (String × Outline) → Prop where
  | nil : Chosen [] []
  | here {entry : Entry} {value : Outline} {entries : List Entry} {members : List (String × Outline)}
      (stands : entry.stands value) (rest : Chosen entries members) :
      Chosen (entry :: entries) ((entry.name, value) :: members)
  | omitted {entry : Entry} {entries : List Entry} {members : List (String × Outline)}
      (optional : entry.optional) (rest : Chosen entries members) : Chosen (entry :: entries) members

def entryNames (entries : List Entry) : List String := entries.map (·.name)

-- The outline of an object with these entries and any other members, in whatever order.
def Arranged (entries : List Entry) (outline : Outline) : Prop :=
  ∃ members chosen strange : List (String × Outline),
    outline = .object (.ofList members) ∧ Chosen entries chosen ∧
      (∀ member ∈ strange, member.1 ∉ entryNames entries ∧ member.2.Sound) ∧
      members.Perm (chosen ++ strange)

def Listed {α : Type} (arranged : α → Outline → Prop) (list : List α) (outline : Outline) : Prop :=
  ∃ elements : List Outline, outline = .list (.ofList elements) ∧ List.Forall₂ arranged list elements

def Entry.Found (entry : Entry) (members : List (String × Outline)) : Prop :=
  (∃ value, members.lookup entry.name = some value ∧ entry.stands value) ∨
    members.lookup entry.name = none ∧ entry.optional

structure Placed (entries : List Entry) (members : List (String × Outline)) : Prop where
  unrepeated : Unrepeated (entryNames entries) members
  found : ∀ entry ∈ entries, entry.Found members
  strange : ∀ member ∈ members, member.1 ∉ entryNames entries → member.2.Sound

section Placing

variable (entries : List Entry) (members : List (String × Outline))

theorem chosen_names (chosen : Chosen entries members) :
    (members.map (·.1)).Sublist (entryNames entries) := by
  induction chosen with
  | nil => exact List.Sublist.slnil
  | here _ _ ih => exact ih.cons_cons _
  | omitted _ _ ih => exact ih.cons _

theorem chosen_found (chosen : Chosen entries members) (apart : (entryNames entries).Nodup) :
    ∀ entry ∈ entries, (∃ value, (entry.name, value) ∈ members ∧ entry.stands value) ∨
      entry.name ∉ members.map (·.1) ∧ entry.optional := by
  induction chosen with
  | nil =>
      intro entry inEntries
      cases inEntries
  | @here first value entries members stands rest ih =>
      obtain ⟨fresh, apart⟩ := List.nodup_cons.mp apart
      intro entry inEntries
      rcases List.mem_cons.mp inEntries with same | inRest
      · subst same
        exact .inl ⟨value, List.mem_cons_self, stands⟩
      · rcases ih apart entry inRest with ⟨other, present, fits⟩ | ⟨absent, optional⟩
        · exact .inl ⟨other, List.mem_cons_of_mem _ present, fits⟩
        · refine .inr ⟨fun present => ?_, optional⟩
          rcases List.mem_cons.mp present with same | later
          · exact fresh (List.mem_map.mpr ⟨entry, inRest, same⟩)
          · exact absent later
  | @omitted first entries members optional rest ih =>
      obtain ⟨fresh, apart⟩ := List.nodup_cons.mp apart
      intro entry inEntries
      rcases List.mem_cons.mp inEntries with same | inRest
      · subst same
        exact .inr ⟨fun present => fresh ((chosen_names _ _ rest).subset present), optional⟩
      · exact ih apart entry inRest

theorem unrepeated_of_perm {β : Type} (names : List String) (left right : List (String × β))
    (perm : left.Perm right) (unrepeated : Unrepeated names right) : Unrepeated names left := by
  refine (perm.pairwise_iff ?_).mpr unrepeated
  intro a b apart same
  exact same ▸ apart same.symm

theorem unrepeated_among (chosen strange : List (String × Outline)) (picked : Chosen entries chosen)
    (apart : (entryNames entries).Nodup) (foreign : ∀ member ∈ strange, member.1 ∉ entryNames entries) :
    Unrepeated (entryNames entries) (chosen ++ strange) := by
  refine List.pairwise_append.mpr ⟨?_, ?_, ?_⟩
  · have distinct := List.pairwise_map.mp (apart.sublist (chosen_names entries chosen picked))
    exact distinct.imp fun different same => absurd same different
  · exact List.pairwise_of_forall_mem_list fun a inStrange _ _ _ => foreign a inStrange
  · intro a _ b inStrange same
    exact same ▸ foreign b inStrange

theorem arranged_placed (outline : Outline) (apart : (entryNames entries).Nodup)
    (arranged : Arranged entries outline) :
    ∃ members, outline = .object (.ofList members) ∧ Placed entries members := by
  obtain ⟨members, chosen, strange, same, picked, foreign, perm⟩ := arranged
  have unrepeated : Unrepeated (entryNames entries) members :=
    unrepeated_of_perm _ _ _ perm
      (unrepeated_among entries chosen strange picked apart fun member inStrange =>
        (foreign member inStrange).1)
  refine ⟨members, same, unrepeated, ?_, ?_⟩
  · intro entry inEntries
    have named : entry.name ∈ entryNames entries := List.mem_map_of_mem inEntries
    rcases chosen_found entries chosen picked apart entry inEntries with
      ⟨value, present, stands⟩ | ⟨absent, optional⟩
    · have inMembers := perm.mem_iff.mpr (List.mem_append_left strange present)
      exact .inl ⟨value, lookup_of_mem members _ unrepeated entry.name value named inMembers, stands⟩
    · refine .inr ⟨lookup_of_not_mem members entry.name fun present => ?_, optional⟩
      obtain ⟨member, inMembers, same⟩ := List.mem_map.mp present
      rcases List.mem_append.mp (perm.mem_iff.mp inMembers) with inChosen | inStrange
      · exact absent (List.mem_map.mpr ⟨member, inChosen, same⟩)
      · exact (foreign member inStrange).1 (same ▸ named)
  · intro member inMembers unknown
    rcases List.mem_append.mp (perm.mem_iff.mp inMembers) with inChosen | inStrange
    · exact absurd ((chosen_names entries chosen picked).subset (List.mem_map_of_mem inChosen)) unknown
    · exact (foreign member inStrange).2

theorem placed_readable (placed : Placed entries members) (levels : Nat)
    (shallow : ∀ member ∈ members, member.2.depth ≤ levels)
    (readable : ∀ entry ∈ entries, ∀ value, entry.stands value → value.depth ≤ levels →
      ∃ json, value.json levels = .ok json) :
    ∀ member ∈ members, ∃ json, member.2.json levels = .ok json := by
  intro member inMembers
  by_cases known : member.1 ∈ entryNames entries
  · have present := lookup_of_mem members _ placed.unrepeated member.1 member.2 known inMembers
    obtain ⟨entry, inEntries, named⟩ := List.mem_map.mp known
    rcases placed.found entry inEntries with ⟨value, found, stands⟩ | ⟨missing, _⟩
    · rw [named, present] at found
      cases found
      exact readable entry inEntries _ stands (shallow member inMembers)
    · rw [named, present] at missing
      cases missing
  · exact sound_json member.2 levels (placed.strange member inMembers known) (shallow member inMembers)

theorem placed_filter (others : List Entry) (keep : String → Bool) (placed : Placed entries members)
    (subset : others ⊆ entries) (kept : ∀ entry ∈ others, keep entry.name = true)
    (whole : ∀ entry ∈ entries, keep entry.name = true → entry ∈ others) :
    Placed others (members.filter fun member => keep member.1) := by
  constructor
  · have fewer := unrepeated_of_subset members (entryNames entries) (entryNames others)
      (List.map_subset _ subset) placed.unrepeated
    exact fewer.sublist List.filter_sublist
  · intro entry inOthers
    have found := placed.found entry (subset inOthers)
    rw [Entry.Found, lookup_filter members keep entry.name (kept entry inOthers)]
    exact found
  · intro member inside unknown
    obtain ⟨inMembers, keeps⟩ := List.mem_filter.mp inside
    apply placed.strange member inMembers
    intro known
    obtain ⟨entry, inEntries, named⟩ := List.mem_map.mp known
    exact unknown (List.mem_map.mpr ⟨entry, whole entry inEntries (named ▸ keeps), named⟩)

end Placing

section Reading

variable {δ α : Type} (members : List (String × Outline)) (levels : Nat)

def places : List (String × Place) := members.map fun member => (member.1, ⟨member.2, levels⟩)

theorem lookup_places (name : String) :
    (places members levels).lookup name = (members.lookup name).map (⟨·, levels⟩) :=
  IdMap.lookup_map _ name members

theorem fill_places (shape : Shape Place δ α) (seen : List String) (draft : δ) :
    (Members.ofList members).fill shape levels seen draft =
      shape.takeAll (places members levels) seen draft := by
  induction members generalizing seen draft with
  | nil => rfl
  | cons member rest ih =>
      rw [Members.ofList, Members.fill, places, List.map_cons, Shape.takeAll]
      simp only [ih]
      rfl

theorem unrepeated_places (names : List String) (unrepeated : Unrepeated names members) :
    Unrepeated names (places members levels) :=
  List.pairwise_map.mpr unrepeated

theorem skip_strays (shape : Shape Place δ α) (skips : shape.other = skipOther) (draft : δ)
    (sound : ∀ member ∈ members, member.2.Sound) :
    shape.addStrays (places members levels) draft = .ok draft := by
  induction members with
  | nil => rfl
  | cons member rest ih =>
      obtain ⟨here, later⟩ := List.forall_mem_cons.mp sound
      rw [places, List.map_cons, Shape.addStrays, skips, skipOther, sound_skip member.2 here]
      exact ih later

theorem strays_places (shape : Shape Place δ α) :
    shape.strays (places members levels) = places (members.filter fun member => member.1 ∉ shape.names) levels :=
  List.filter_map

theorem fill_placed (shape : Shape Place δ α) (orderless : shape.Orderless) (skips : shape.other = skipOther)
    (entries : List Entry) (same : entryNames entries = shape.names) (placed : Placed entries members)
    (draft result : δ) (consulted : consultAll (places members levels) shape.fields draft = .ok result) :
    (Members.ofList members).fill shape levels [] draft = .ok result := by
  have sound : ∀ member ∈ members.filter fun member => member.1 ∉ shape.names, member.2.Sound := by
    intro member kept
    obtain ⟨inMembers, unknown⟩ := List.mem_filter.mp kept
    exact placed.strange member inMembers (by simpa [same] using unknown)
  rw [fill_places]
  apply take_all_consulted shape orderless
  · exact unrepeated_places members levels _ (same ▸ placed.unrepeated)
  · intro member _ _ seen
    cases seen
  · rw [Shape.consulted, consulted, strays_places]
    exact skip_strays _ levels shape skips result sound

theorem ignore_strays (shape : Shape Json δ α) (ignores : shape.other = ignoreOther)
    (jsons : List (String × Json)) (draft : δ) : shape.addStrays jsons draft = .ok draft := by
  induction jsons with
  | nil => rfl
  | cons member rest ih =>
      rw [Shape.addStrays, ignores]
      exact ih

theorem fields_placed (shape : Shape Json δ α) (orderless : shape.Orderless)
    (ignores : shape.other = ignoreOther) (entries : List Entry) (same : entryNames entries = shape.names)
    (placed : Placed entries members) (jsons : List (String × Json))
    (read : List.Forall₂ (MemberRead levels) members jsons) (draft : δ) (result : α)
    (consulted : consultAll jsons shape.fields shape.start = .ok draft)
    (completed : shape.complete .missing draft = .ok result) :
    shape.ofFields (.named jsons) = .ok result := by
  have unrepeated := unrepeated_of_names members shape.names jsons (names_of_read members levels jsons read)
    (same ▸ placed.unrepeated)
  have taken : shape.takeAll jsons [] shape.start = .ok draft := by
    apply take_all_consulted shape orderless jsons [] unrepeated
    · intro member _ _ seen
      cases seen
    · rw [Shape.consulted, consulted]
      exact ignore_strays shape ignores _ draft
  rw [Shape.ofFields, fill_named_take_all, taken]
  exact completed

end Reading

end Slideshow.Json
