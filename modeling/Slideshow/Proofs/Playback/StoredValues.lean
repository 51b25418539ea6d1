import Slideshow.Proofs.CanonicalValues
import Slideshow.Proofs.Playback.Account

set_option autoImplicit false

namespace Slideshow

namespace VariableStore

def Canonical (store : VariableStore) : Prop :=
  ∀ id value, store.get? id = some value → value.Canonical ∧ value.normalized = value

def setAll (store : VariableStore) : List (String × Value) → VariableStore
  | [] => store
  | (id, value) :: rest =>
      match store.set id value with
      | .ok (_, after) => after.setAll rest
      | .error _ => store.setAll rest

theorem canonical_of_normal (store : VariableStore)
    (normal : ∀ id value, store.entry? id = some (some value) → value.Normal) : store.Canonical := by
  intro id value present
  have stored := normal id value (Option.join_eq_some_iff.mp present)
  exact ⟨(Value.normal_iff_canonical value).mp stored, stored⟩

theorem set_canonical (store after : VariableStore) (old : Option Value) (id : String) (value : Value)
    (canonical : store.Canonical) (answered : store.set id value = .ok (old, after)) :
    after.Canonical := by
  unfold set at answered
  cases declared : store.entry? id with
  | none => simp [declared] at answered
  | some entry =>
      simp only [declared] at answered
      cases answered
      apply canonical_of_normal
      refine Player.write_stored_normal id old value store declared fun other v present => ?_
      exact (canonical other v (Option.join_eq_some_iff.mpr present)).2

theorem set_all_canonical (calls : List (String × Value)) (store : VariableStore)
    (canonical : store.Canonical) : (store.setAll calls).Canonical := by
  induction calls generalizing store with
  | nil => exact canonical
  | cons call rest ih =>
      obtain ⟨id, value⟩ := call
      rw [setAll]
      split
      · rename_i old after answered
        exact ih after (set_canonical store after old id value canonical answered)
      · exact ih store canonical

end VariableStore

/-- Every value in a store that is seeded and then set any number of times, and every value that any
session stores, is in canonical form, and that is its normal form. -/
theorem stored_values_are_canonical (project : Project) (calls : List (String × Value))
    (options : Options) (commands : List Command) :
    ((VariableStore.seed project).setAll calls).Canonical ∧
      ((Player.start options).run commands).store.Canonical := by
  constructor
  · apply VariableStore.set_all_canonical
    exact VariableStore.canonical_of_normal _ (Player.seed_stored project (Player.start options))
  · apply VariableStore.canonical_of_normal
    exact Player.run_stored commands _ (Player.start_settled options) nofun

end Slideshow
