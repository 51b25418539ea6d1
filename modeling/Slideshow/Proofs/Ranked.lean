import Mathlib.Data.List.Lex

set_option autoImplicit false

namespace Slideshow

variable {α β : Type} {rank : β → List Nat}

structure Ranked (rank : β → List Nat) (start : List Nat) (list : List β) : Prop where
  ascending : list.Pairwise fun x y => rank x < rank y
  below : ∀ x ∈ list, start <+: rank x

theorem rank_lt_of_position (start a b : List Nat) (i j : Nat) (before : i < j)
    (first : start ++ [i] <+: a) (second : start ++ [j] <+: b) : a < b := by
  obtain ⟨inside, rfl⟩ := first
  obtain ⟨insideToo, rfl⟩ := second
  rw [List.append_assoc, List.append_assoc]
  exact List.Lex.append_left _ (.rel before) start

theorem ranked_nil (start : List Nat) : Ranked rank start [] :=
  ⟨.nil, by simp⟩

theorem ranked_single (start : List Nat) (x : β) (below : start <+: rank x) :
    Ranked rank start [x] :=
  ⟨List.pairwise_singleton _ _, by simpa using below⟩

theorem ranked_sublist {start : List Nat} {part whole : List β} (sublist : part.Sublist whole)
    (ranked : Ranked rank start whole) : Ranked rank start part :=
  ⟨ranked.ascending.sublist sublist, fun x member => ranked.below x (sublist.subset member)⟩

theorem positions_ascend (list : List α) : list.zipIdx.Pairwise fun x y => x.2 < y.2 := by
  rw [← List.pairwise_map (f := Prod.snd), List.zipIdx_map_snd]
  exact List.pairwise_lt_range' 1

theorem ranked_numbered {start : List Nat} (list : List α) (blocks : α × Nat → List β)
    (each : ∀ a i, list[i]? = some a → Ranked rank (start ++ [i]) (blocks (a, i))) :
    Ranked rank start (list.zipIdx.flatMap blocks) := by
  have inside : ∀ a i, (a, i) ∈ list.zipIdx → Ranked rank (start ++ [i]) (blocks (a, i)) :=
    fun a i member => each a i (List.mk_mem_zipIdx_iff_getElem?.mp member)
  constructor
  · refine List.pairwise_flatMap.mpr ⟨fun (a, i) member => (inside a i member).ascending, ?_⟩
    refine (positions_ascend list).imp_of_mem fun {first second} firstThere secondThere before => ?_
    intro x inFirst y inSecond
    exact rank_lt_of_position start _ _ _ _ before ((inside _ _ firstThere).below x inFirst)
      ((inside _ _ secondThere).below y inSecond)
  · intro x member
    obtain ⟨⟨a, i⟩, there, inBlock⟩ := List.mem_flatMap.mp member
    exact (List.prefix_append start [i]).trans ((inside a i there).below x inBlock)

theorem ranked_blocks {start : List Nat} (blocks : List (List β))
    (each : ∀ block i, blocks[i]? = some block → Ranked rank (start ++ [i]) block) :
    Ranked rank start blocks.flatten := by
  have numbered : blocks.zipIdx.flatMap (·.1) = blocks.flatten := by
    rw [List.flatMap_def, List.zipIdx_map_fst]
  rw [← numbered]
  exact ranked_numbered blocks _ each

end Slideshow
