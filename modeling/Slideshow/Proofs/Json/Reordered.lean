import Mathlib.Data.List.Perm.Basic
import Slideshow.Proofs.Json.Arranged

set_option autoImplicit false

namespace Slideshow.Json

mutual
def Reordered : Json → Outline → Prop
  | .list elements, outline =>
      ∃ others : List Outline, outline = .list (.ofList others) ∧ ReorderedElements elements others
  | .object members, outline =>
      ∃ placed others : List (String × Outline),
        outline = .object (.ofList placed) ∧ placed.Perm others ∧ ReorderedMembers members others
  | json, outline => outline = json.outline

def ReorderedElements : List Json → List Outline → Prop
  | [], others => others = []
  | element :: rest, others =>
      ∃ first later, others = first :: later ∧ Reordered element first ∧ ReorderedElements rest later

def ReorderedMembers : List (String × Json) → List (String × Outline) → Prop
  | [], others => others = []
  | (name, value) :: rest, others =>
      ∃ first later, others = (name, first) :: later ∧ Reordered value first ∧ ReorderedMembers rest later
end

theorem canonical_members_map (members : List (String × Json)) :
    canonicalMembers members = members.map fun member => (member.1, member.2.canonical) := by
  induction members with
  | nil => rfl
  | cons member rest ih =>
      obtain ⟨name, value⟩ := member
      rw [canonicalMembers, ih, List.map_cons]

theorem canonical_of_perm (left right : List (String × Json)) (apart : (left.map (·.1)).Nodup)
    (perm : left.Perm right) : (Json.object left).canonical = (Json.object right).canonical := by
  have names : ((canonicalMembers left).map (·.1)).Nodup := by
    simpa [canonical_members_map, Function.comp_def] using apart
  have same : (canonicalMembers left).Perm (canonicalMembers right) := by
    rw [canonical_members_map, canonical_members_map]
    exact perm.map _
  rw [canonical, canonical, IdMap.of_list_perm _ _ names same]

theorem names_of_canonical (left right : List (String × Json))
    (same : canonicalMembers left = canonicalMembers right) : left.map (·.1) = right.map (·.1) := by
  rw [canonical_members_map, canonical_members_map] at same
  simpa [Function.comp_def] using congrArg (List.map (·.1)) same

theorem elements_of_list (elements : List Json) :
    outlineElements elements = .ofList (elements.map outline) := by
  induction elements with
  | nil => rfl
  | cons element rest ih => rw [outlineElements, ih, List.map_cons, Elements.ofList]

theorem members_of_list (members : List (String × Json)) :
    outlineMembers members = .ofList (members.map fun member => (member.1, member.2.outline)) := by
  induction members with
  | nil => rfl
  | cons member rest ih =>
      obtain ⟨name, value⟩ := member
      rw [outlineMembers, ih, List.map_cons, Members.ofList]

mutual
theorem reordered_refl : (json : Json) → Reordered json json.outline
  | .null | .bool _ | .number _ | .text _ => rfl
  | .list elements =>
      ⟨elements.map outline, by rw [outline, elements_of_list], reordered_elements_refl elements⟩
  | .object members =>
      ⟨_, _, by rw [outline, members_of_list], List.Perm.refl _, reordered_members_refl members⟩

theorem reordered_elements_refl : (elements : List Json) →
    ReorderedElements elements (elements.map outline)
  | [] => rfl
  | element :: rest =>
      ⟨element.outline, rest.map outline, rfl, reordered_refl element, reordered_elements_refl rest⟩

theorem reordered_members_refl : (members : List (String × Json)) →
    ReorderedMembers members (members.map fun member => (member.1, member.2.outline))
  | [] => rfl
  | (_, value) :: rest =>
      ⟨value.outline, _, rfl, reordered_refl value, reordered_members_refl rest⟩
end

mutual
theorem reordered_json : (json : Json) → (other : Outline) → (levels : Nat) → (read : Json) →
    json.Canonical → Reordered json other → json.outline.json levels = .ok read →
    ∃ found, other.json levels = .ok found ∧ found.canonical = read.canonical
  | .null, _, _, read, _, same, known => ⟨read, same ▸ known, rfl⟩
  | .bool _, _, _, read, _, same, known => ⟨read, same ▸ known, rfl⟩
  | .number _, _, _, read, _, same, known => ⟨read, same ▸ known, rfl⟩
  | .text _, _, _, read, _, same, known => ⟨read, same ▸ known, rfl⟩
  | .list elements, other, levels, read, sorted, reordered, known => by
      obtain ⟨others, same, reordered⟩ := reordered
      subst same
      obtain ⟨inner, deep, inside⟩ := (opened_ok_iff _ _ _).mp known
      subst deep
      obtain ⟨jsons, jsonsKnown, same⟩ := (bind_ok_iff _ _ _).mp inside
      cases same
      obtain ⟨found, read, same⟩ :=
        reordered_elements_json elements others inner jsons sorted reordered jsonsKnown
      refine ⟨.list found, by rw [Outline.json, opened, read]; rfl, ?_⟩
      rw [canonical, canonical, same]
  | .object members, other, levels, read, sorted, reordered, known => by
      obtain ⟨placed, others, same, perm, reordered⟩ := reordered
      subst same
      obtain ⟨inner, deep, inside⟩ := (opened_ok_iff _ _ _).mp known
      subst deep
      obtain ⟨jsons, jsonsKnown, same⟩ := (bind_ok_iff _ _ _).mp inside
      cases same
      obtain ⟨found, each, same⟩ :=
        reordered_members_json members others inner jsons sorted.2 reordered jsonsKnown
      obtain ⟨moved, read, permuted⟩ := List.perm_comp_forall₂ perm each
      refine ⟨.object moved, by rw [Outline.json, opened, jsons_of_read placed inner moved read]; rfl, ?_⟩
      have apart : (found.map (·.1)).Nodup := by
        have names := (members_canonical members inner jsons jsonsKnown sorted.2).1
        rw [names_of_canonical found jsons same, names]
        exact IdMap.nodup_of_ascending members sorted.1
      rw [canonical_of_perm moved found ((permuted.map _).nodup_iff.mpr apart) permuted, canonical, canonical,
        same]

theorem reordered_elements_json : (elements : List Json) → (others : List Outline) → (levels : Nat) →
    (jsons : List Json) → CanonicalList elements → ReorderedElements elements others →
    (outlineElements elements).jsons levels = .ok jsons →
    ∃ found, (Elements.ofList others).jsons levels = .ok found ∧ canonicalList found = canonicalList jsons
  | [], others, _, jsons, _, same, known => by
      cases same
      exact ⟨jsons, known, rfl⟩
  | element :: rest, others, levels, jsons, sorted, reordered, known => by
      obtain ⟨first, later, same, reordered, reorderedRest⟩ := reordered
      subst same
      obtain ⟨head, headKnown, known⟩ := (bind_ok_iff _ _ _).mp known
      obtain ⟨tail, tailKnown, same⟩ := (bind_ok_iff _ _ _).mp known
      cases same
      obtain ⟨found, read, same⟩ := reordered_json element first levels head sorted.1 reordered headKnown
      obtain ⟨others, readOthers, sameOthers⟩ :=
        reordered_elements_json rest later levels tail sorted.2 reorderedRest tailKnown
      refine ⟨found :: others, by rw [Elements.ofList, Elements.jsons, read, readOthers]; rfl, ?_⟩
      rw [canonicalList, canonicalList, same, sameOthers]

theorem reordered_members_json : (members : List (String × Json)) → (others : List (String × Outline)) →
    (levels : Nat) → (jsons : List (String × Json)) → CanonicalMembers members →
    ReorderedMembers members others → (outlineMembers members).jsons levels = .ok jsons →
    ∃ found, List.Forall₂ (MemberRead levels) others found ∧ canonicalMembers found = canonicalMembers jsons
  | [], others, _, jsons, _, same, known => by
      cases same
      cases known
      exact ⟨[], .nil, rfl⟩
  | (name, value) :: rest, others, levels, jsons, sorted, reordered, known => by
      obtain ⟨first, later, same, reordered, reorderedRest⟩ := reordered
      subst same
      obtain ⟨_, same, known⟩ := (bind_ok_iff _ _ _).mp known
      cases same
      obtain ⟨head, headKnown, known⟩ := (bind_ok_iff _ _ _).mp known
      obtain ⟨tail, tailKnown, same⟩ := (bind_ok_iff _ _ _).mp known
      cases same
      obtain ⟨found, read, same⟩ := reordered_json value first levels head sorted.1 reordered headKnown
      obtain ⟨others, readOthers, sameOthers⟩ :=
        reordered_members_json rest later levels tail sorted.2 reorderedRest tailKnown
      refine ⟨(name, found) :: others, .cons ⟨rfl, read⟩ readOthers, ?_⟩
      rw [canonicalMembers, canonicalMembers, same, sameOthers]
end

end Slideshow.Json
