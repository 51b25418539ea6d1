import Mathlib.Data.List.Lex
import Slideshow.Validation.Validate

set_option autoImplicit false

namespace Slideshow

theorem mem_duplicate_ids (ids : List String) (id : String) :
    id ∈ duplicateIds ids ↔ 2 ≤ ids.count id := by
  simp only [duplicateIds, List.mem_filter, List.mem_eraseDups, decide_eq_true_eq]
  exact and_iff_right_of_imp fun twice => List.count_pos_iff.mp (Nat.lt_of_succ_lt twice)

theorem idx_of_cons (id head : String) (rest : List String) :
    (head :: rest).idxOf id = if head = id then 0 else rest.idxOf id + 1 := by
  by_cases same : head = id <;> simp [same]

theorem first_of_kept (ids : List String) (kept : String → Bool) (a b : String)
    (left : kept a = true) (right : kept b = true)
    (before : (ids.filter kept).idxOf a < (ids.filter kept).idxOf b) : ids.idxOf a < ids.idxOf b := by
  induction ids with
  | nil => exact before
  | cons head rest ih =>
      by_cases here : kept head = true
      · rw [List.filter_cons_of_pos here, idx_of_cons, idx_of_cons] at before
        have notSecond : head ≠ b := fun same => by simp [same] at before
        rw [idx_of_cons, idx_of_cons, if_neg notSecond]
        rw [if_neg notSecond] at before
        by_cases first : head = a
        · simp [first]
        · rw [if_neg first] at before ⊢
          exact Nat.succ_lt_succ (ih (Nat.lt_of_succ_lt_succ before))
      · rw [List.filter_cons_of_neg here] at before
        have notFirst : head ≠ a := fun same => here (same ▸ left)
        have notSecond : head ≠ b := fun same => here (same ▸ right)
        rw [idx_of_cons, idx_of_cons, if_neg notFirst, if_neg notSecond]
        exact Nat.succ_lt_succ (ih before)

theorem erase_dups_ascend : (ids : List String) →
    ids.eraseDups.Pairwise fun a b => ids.idxOf a < ids.idxOf b
  | [] => .nil
  | head :: rest => by
      have later := erase_dups_ascend (rest.filter fun id => !id == head)
      have others : ∀ id ∈ (rest.filter fun id => !id == head).eraseDups, (!id == head) = true :=
        fun id member => (List.mem_filter.mp (List.mem_eraseDups.mp member)).2
      have different : ∀ id, (!id == head) = true → head ≠ id := fun id other same => by
        simp [same] at other
      rw [List.eraseDups_cons, List.pairwise_cons]
      refine ⟨fun id member => ?_, later.imp_of_mem fun {a b} inA inB before => ?_⟩
      · rw [idx_of_cons, idx_of_cons, if_pos rfl, if_neg (different id (others id member))]
        exact Nat.succ_pos _
      · have first := others a inA
        have second := others b inB
        rw [idx_of_cons, idx_of_cons, if_neg (different a first), if_neg (different b second)]
        exact Nat.succ_lt_succ (first_of_kept rest _ a b first second before)
termination_by ids => ids.length
decreasing_by exact Nat.lt_succ_of_le (List.length_filter_le _ rest)

theorem duplicate_ids_ascend (ids : List String) :
    (duplicateIds ids).Pairwise fun a b => ids.idxOf a < ids.idxOf b :=
  (erase_dups_ascend ids).sublist List.filter_sublist

end Slideshow
