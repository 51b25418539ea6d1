import Mathlib.Data.List.Nodup
import Slideshow.IdMap

set_option autoImplicit false

namespace Slideshow

namespace IdMap

variable {α : Type}

theorem lookup_cons_if (key first : String) (value : α) (rest : List (String × α)) :
    ((first, value) :: rest).lookup key = if key = first then some value else rest.lookup key := by
  by_cases same : key = first
  · simp [same]
  · simp [List.lookup_cons, same, beq_false_of_ne same]

theorem lookup_place (id key : String) (value : α) (entries : List (String × α)) :
    (place id value entries).lookup key = if key = id then some value else entries.lookup key := by
  induction entries with
  | nil => simp [place, lookup_cons_if]
  | cons head rest ih =>
      obtain ⟨first, old⟩ := head
      by_cases here : id = first
      · subst here
        by_cases same : key = id <;> simp [place, lookup_cons_if, same]
      · by_cases before : id < first
        · simp [place, lookup_cons_if, here, before]
        · rw [place, if_neg here, if_neg before, lookup_cons_if, lookup_cons_if, ih]
          by_cases same : key = id
          · subst same
            simp [here]
          · simp [same]

theorem get?_insert (map : IdMap α) (id key : String) (value : α) :
    (map.insert id value).get? key = if key = id then some value else map.get? key :=
  lookup_place id key value map.entries

theorem lookup_map {β : Type} (change : String × α → β) (key : String) (entries : List (String × α)) :
    (entries.map fun entry => (entry.1, change entry)).lookup key =
      (entries.lookup key).map fun old => change (key, old) := by
  induction entries with
  | nil => rfl
  | cons head rest ih =>
      obtain ⟨first, old⟩ := head
      rw [List.map_cons, lookup_cons_if, lookup_cons_if, ih]
      by_cases here : key = first <;> simp [here]

theorem get?_update (map : IdMap α) (id key : String) (value : α) :
    (map.update id value).get? key =
      (map.get? key).map fun old => if key = id then value else old :=
  lookup_map _ key map.entries

theorem mem_of_lookup (entries : List (String × α)) (id : String) (value : α)
    (present : entries.lookup id = some value) : (id, value) ∈ entries := by
  obtain ⟨before, after, same, _⟩ := List.lookup_eq_some_iff.mp present
  rw [same]
  exact List.mem_append_right _ List.mem_cons_self

theorem mem_of_get? (map : IdMap α) (id : String) (value : α) (present : map.get? id = some value) :
    (id, value) ∈ map.entries :=
  mem_of_lookup map.entries id value present

theorem mem_keys_iff (map : IdMap α) (id : String) : id ∈ map.keys ↔ (map.get? id).isSome := by
  simp [keys, get?]

theorem get?_eq_none_iff (map : IdMap α) (id : String) : map.get? id = none ↔ id ∉ map.keys := by
  rw [mem_keys_iff]
  cases map.get? id <;> simp

theorem mem_keys_insert (map : IdMap α) (id key : String) (value : α) :
    key ∈ (map.insert id value).keys ↔ key = id ∨ key ∈ map.keys := by
  rw [mem_keys_iff, mem_keys_iff, get?_insert]
  by_cases same : key = id <;> simp [same]

theorem mem_keys_foldl_insert (entries : List (String × α)) (map : IdMap α) (key : String) :
    key ∈ (entries.foldl (fun map entry => map.insert entry.1 entry.2) map).keys ↔
      key ∈ map.keys ∨ key ∈ entries.map (·.1) := by
  induction entries generalizing map with
  | nil => simp
  | cons head rest ih =>
      rw [List.foldl_cons, ih, mem_keys_insert, List.map_cons, List.mem_cons, or_assoc, or_left_comm]

theorem mem_keys_of_list (entries : List (String × α)) (key : String) :
    key ∈ (ofList entries).keys ↔ key ∈ entries.map (·.1) := by
  rw [ofList, mem_keys_foldl_insert]
  simp [empty, keys]

theorem get?_of_list_iff (entries : List (String × α)) (apart : (entries.map (·.1)).Nodup) (id : String)
    (value : α) : (ofList entries).get? id = some value ↔ (id, value) ∈ entries := by
  constructor
  · intro present
    exact mem_of_list (mem_of_get? _ id value present)
  · intro member
    have known : id ∈ (ofList entries).keys := (mem_keys_of_list entries id).mpr (List.mem_map_of_mem member)
    obtain ⟨found, present⟩ := Option.isSome_iff_exists.mp ((mem_keys_iff _ id).mp known)
    have same := List.inj_on_of_nodup_map apart (mem_of_list (mem_of_get? _ id found present)) member rfl
    rw [present, (Prod.mk.inj same).2]

theorem mem_of_list_iff (entries : List (String × α)) (apart : (entries.map (·.1)).Nodup) (entry : String × α) :
    entry ∈ (ofList entries).entries ↔ entry ∈ entries := by
  constructor
  · exact mem_of_list
  · intro member
    exact mem_of_get? _ entry.1 entry.2 ((get?_of_list_iff entries apart entry.1 entry.2).mpr member)

theorem nodup_of_ascending (entries : List (String × α)) (ascending : Ascending entries) :
    (entries.map (·.1)).Nodup := by
  refine List.pairwise_map.mpr (List.Pairwise.imp ?_ ascending)
  intro a b before same
  exact String.lt_irrefl a.1 (same ▸ before)

theorem of_list_perm (entries others : List (String × α)) (apart : (entries.map (·.1)).Nodup)
    (perm : entries.Perm others) : ofList entries = ofList others := by
  have othersApart : (others.map (·.1)).Nodup := (perm.map _).nodup_iff.mp apart
  have same : (ofList entries).entries.Perm (ofList others).entries := by
    rw [List.perm_ext_iff_of_nodup (nodup_of_ascending _ (ofList entries).ascending).of_map
      (nodup_of_ascending _ (ofList others).ascending).of_map]
    intro entry
    rw [mem_of_list_iff entries apart, mem_of_list_iff others othersApart, perm.mem_iff]
  apply eq_of_entries_eq
  refine same.eq_of_pairwise ?_ (ofList entries).ascending (ofList others).ascending
  intro a b _ _ before after
  exact absurd (String.lt_trans before after) (String.lt_irrefl a.1)

theorem place_last (id : String) (value : α) (entries : List (String × α))
    (after : ∀ entry ∈ entries, entry.1 < id) : place id value entries = entries ++ [(id, value)] := by
  induction entries with
  | nil => rfl
  | cons head rest ih =>
      obtain ⟨first, old⟩ := head
      have here : first < id := after (first, old) List.mem_cons_self
      have different : id ≠ first := fun same => String.lt_irrefl id (same ▸ here)
      have notBefore : ¬ id < first := fun before => String.lt_irrefl id (String.lt_trans before here)
      rw [place, if_neg different, if_neg notBefore,
        ih fun entry member => after entry (List.mem_cons_of_mem _ member)]
      rfl

theorem foldl_insert_ascending (entries : List (String × α)) (map : IdMap α)
    (ascending : Ascending (map.entries ++ entries)) :
    (entries.foldl (fun map entry => map.insert entry.1 entry.2) map).entries = map.entries ++ entries := by
  induction entries generalizing map with
  | nil => simp
  | cons head rest ih =>
      have before : ∀ entry ∈ map.entries, entry.1 < head.1 := fun entry member =>
        (List.pairwise_append.mp ascending).2.2 entry member head List.mem_cons_self
      have placed : (map.insert head.1 head.2).entries = map.entries ++ [head] :=
        place_last head.1 head.2 map.entries before
      rw [List.foldl_cons, ih (map.insert head.1 head.2) (by rw [placed]; simpa using ascending), placed]
      simp

theorem entries_of_list (entries : List (String × α)) (ascending : Ascending entries) :
    (ofList entries).entries = entries :=
  foldl_insert_ascending entries empty ascending

def fill (map : IdMap α) (value : α) : IdMap α :=
  ⟨map.entries.map fun entry => (entry.1, value), ascending_map (fun _ => value) _ map.ascending⟩

theorem get?_fill (map : IdMap α) (value : α) (id : String) :
    (map.fill value).get? id = (map.get? id).map fun _ => value :=
  lookup_map (fun _ => value) id map.entries

theorem fill_fill (map : IdMap α) (value : α) : (map.fill value).fill value = map.fill value :=
  eq_of_entries_eq (by simp [fill])

theorem fill_update (map : IdMap α) (id : String) (old value : α) :
    (map.update id old).fill value = map.fill value :=
  eq_of_entries_eq (by simp [fill, update])

theorem place_fill (id : String) (old value : α) (entries : List (String × α)) :
    (place id old entries).map (fun entry => (entry.1, value)) =
      place id value (entries.map fun entry => (entry.1, value)) := by
  induction entries with
  | nil => rfl
  | cons head rest ih =>
      obtain ⟨first, _⟩ := head
      simp only [place, List.map_cons]
      by_cases here : id = first
      · simp only [if_pos here, List.map_cons]
      · by_cases before : id < first
        · simp only [if_neg here, if_pos before, List.map_cons]
        · simp only [if_neg here, if_neg before, List.map_cons, ih]

theorem foldl_insert_fill (entries : List (String × α)) (value : α) (map : IdMap α) :
    (entries.foldl (fun map entry => map.insert entry.1 entry.2) map).fill value =
      (entries.map fun entry => (entry.1, value)).foldl (fun map entry => map.insert entry.1 entry.2)
        (map.fill value) := by
  induction entries generalizing map with
  | nil => rfl
  | cons head rest ih =>
      have placed : (map.insert head.1 head.2).fill value = (map.fill value).insert head.1 value :=
        eq_of_entries_eq (place_fill head.1 head.2 value map.entries)
      rw [List.foldl_cons, ih, placed]
      rfl

theorem fill_of_list (entries : List (String × α)) (value : α) :
    (ofList entries).fill value = ofList (entries.map fun entry => (entry.1, value)) :=
  foldl_insert_fill entries value empty

structure Renames (rename : String → String) (map other : IdMap α) : Prop where
  values : ∀ id, other.get? (rename id) = map.get? id
  ids : ∀ id ∈ other.keys, ∃ old ∈ map.keys, id = rename old

theorem renames_empty (rename : String → String) : (empty : IdMap α).Renames rename empty :=
  ⟨fun _ => rfl, fun _ member => nomatch member⟩

theorem renames_of_list (rename : String → String) (injective : Function.Injective rename)
    (entries others : List (String × α)) (apart : (entries.map (·.1)).Nodup)
    (same : others.Perm (entries.map fun entry => (rename entry.1, entry.2))) :
    (ofList entries).Renames rename (ofList others) := by
  have renamed : (others.map (·.1)).Perm ((entries.map (·.1)).map rename) := by
    simpa [Function.comp_def] using same.map (·.1)
  have othersApart : (others.map (·.1)).Nodup := renamed.nodup_iff.mpr (apart.map injective)
  constructor
  · intro id
    refine Option.ext fun value => ?_
    rw [get?_of_list_iff others othersApart, get?_of_list_iff entries apart, same.mem_iff, List.mem_map]
    constructor
    · rintro ⟨⟨old, found⟩, member, equal⟩
      obtain ⟨ids, rfl⟩ := Prod.mk.inj equal
      exact injective ids ▸ member
    · intro member
      exact ⟨_, member, rfl⟩
  · intro id member
    obtain ⟨old, known, rfl⟩ := List.mem_map.mp (renamed.mem_iff.mp ((mem_keys_of_list others id).mp member))
    exact ⟨old, (mem_keys_of_list entries old).mpr known, rfl⟩

theorem renames_update (rename : String → String) (injective : Function.Injective rename)
    (map other : IdMap α) (renames : map.Renames rename other) (id : String) (value : α) :
    (map.update id value).Renames rename (other.update (rename id) value) := by
  constructor
  · intro key
    rw [get?_update, get?_update, renames.values key]
    simp only [injective.eq_iff]
  · rw [keys_update, keys_update]
    exact renames.ids

end IdMap

end Slideshow
