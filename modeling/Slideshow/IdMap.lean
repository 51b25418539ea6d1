set_option autoImplicit false

namespace Slideshow

def Ascending {α : Type} (entries : List (String × α)) : Prop :=
  entries.Pairwise (fun a b => a.1 < b.1)

-- Code point order, strictly ascending: a map has one representation and lists itself in
-- that order.
structure IdMap (α : Type) where
  entries : List (String × α)
  ascending : Ascending entries

namespace IdMap

variable {α : Type}

def place (id : String) (value : α) : List (String × α) → List (String × α)
  | [] => [(id, value)]
  | (key, old) :: rest =>
      if id = key then (id, value) :: rest
      else if id < key then (id, value) :: (key, old) :: rest
      else (key, old) :: place id value rest

theorem mem_place (id : String) (value : α) (entries : List (String × α)) (entry : String × α)
    (member : entry ∈ place id value entries) : entry = (id, value) ∨ entry ∈ entries := by
  induction entries with
  | nil => simpa [place] using member
  | cons head rest ih =>
      obtain ⟨key, old⟩ := head
      simp only [place] at member
      split at member
      · rcases List.mem_cons.mp member with same | later
        · exact .inl same
        · exact .inr (List.mem_cons_of_mem _ later)
      · split at member
        · rcases List.mem_cons.mp member with same | later
          · exact .inl same
          · exact .inr later
        · rcases List.mem_cons.mp member with same | later
          · exact .inr (same ▸ List.mem_cons_self)
          · exact (ih later).imp_right (List.mem_cons_of_mem _)

theorem after_of_not_before (a b : String) (different : ¬ a = b) (notBefore : ¬ a < b) : b < a :=
  Decidable.byContradiction fun notAfter => different (String.le_antisymm notAfter notBefore)

theorem ascending_place (id : String) (value : α) (entries : List (String × α))
    (ascending : Ascending entries) : Ascending (place id value entries) := by
  induction entries with
  | nil => exact List.pairwise_singleton _ _
  | cons head rest ih =>
      obtain ⟨key, old⟩ := head
      obtain ⟨above, restAscending⟩ := List.pairwise_cons.mp ascending
      simp only [place]
      split
      · rename_i same
        subst same
        exact List.pairwise_cons.mpr ⟨above, restAscending⟩
      · rename_i different
        split
        · rename_i before
          refine List.pairwise_cons.mpr ⟨fun entry member => ?_, ascending⟩
          rcases List.mem_cons.mp member with same | later
          · exact same ▸ before
          · exact String.lt_trans before (above entry later)
        · rename_i notBefore
          refine List.pairwise_cons.mpr ⟨fun entry member => ?_, ih restAscending⟩
          rcases mem_place id value rest entry member with same | later
          · exact same ▸ after_of_not_before id key different notBefore
          · exact above entry later

def empty : IdMap α := ⟨[], List.Pairwise.nil⟩

def insert (map : IdMap α) (id : String) (value : α) : IdMap α :=
  ⟨place id value map.entries, ascending_place id value map.entries map.ascending⟩

-- Of several entries with one id the last one counts.
def ofList (entries : List (String × α)) : IdMap α :=
  entries.foldl (fun map entry => map.insert entry.1 entry.2) empty

theorem mem_foldl_insert {entries : List (String × α)} {map : IdMap α} {entry : String × α}
    (member : entry ∈ (entries.foldl (fun map entry => map.insert entry.1 entry.2) map).entries) :
    entry ∈ map.entries ∨ entry ∈ entries := by
  induction entries generalizing map with
  | nil => exact .inl member
  | cons head rest ih =>
      rcases ih member with inMap | inRest
      · rcases mem_place head.1 head.2 map.entries entry inMap with same | old
        · exact .inr (same ▸ List.mem_cons_self)
        · exact .inl old
      · exact .inr (List.mem_cons_of_mem _ inRest)

theorem mem_of_list {entries : List (String × α)} {entry : String × α}
    (member : entry ∈ (ofList entries).entries) : entry ∈ entries := by
  rcases mem_foldl_insert member with inEmpty | inEntries
  · cases inEmpty
  · exact inEntries

def get? (map : IdMap α) (id : String) : Option α :=
  map.entries.lookup id

def contains (map : IdMap α) (id : String) : Bool :=
  (map.get? id).isSome

def keys (map : IdMap α) : List String :=
  map.entries.map (·.1)

theorem ascending_map (change : String × α → α) (entries : List (String × α))
    (ascending : Ascending entries) :
    Ascending (entries.map fun entry => (entry.1, change entry)) := by
  unfold Ascending at ascending ⊢
  exact List.pairwise_map.mpr ascending

def update (map : IdMap α) (id : String) (value : α) : IdMap α :=
  ⟨map.entries.map fun entry => (entry.1, if entry.1 = id then value else entry.2),
    ascending_map _ _ map.ascending⟩

theorem eq_of_entries_eq {a b : IdMap α} (same : a.entries = b.entries) : a = b := by
  cases a; cases b; cases same; rfl

theorem keys_update (map : IdMap α) (id : String) (value : α) :
    (map.update id value).keys = map.keys := by
  simp [keys, update]

instance [BEq α] : BEq (IdMap α) := ⟨fun a b => a.entries == b.entries⟩

end IdMap

end Slideshow
