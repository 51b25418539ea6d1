import Mathlib.Algebra.Ring.Nat
import Slideshow.CommandLine
import Slideshow.Text.Lines

set_option autoImplicit false

namespace Slideshow.Text

def OneLine (text : String) : Prop :=
  '\n' ∉ text.toList ∧ text.toList.getLast? ≠ some '\r'

theorem cut_lines_at_break (line before rest : List Char) (unbroken : '\n' ∉ line) :
    cutLines (line ++ '\n' :: rest) before = (before.reverse ++ line) :: cutLines rest [] := by
  induction line generalizing before with
  | nil => simp [cutLines]
  | cons c line ih =>
      have other : c ≠ '\n' := fun same => unbroken (by simp [same])
      have further := ih (c :: before) fun member => unbroken (List.mem_cons_of_mem _ member)
      rw [List.cons_append, cutLines, further, List.reverse_cons, List.append_assoc, List.singleton_append]
      exact other

theorem cut_lines_terminated (texts : List (List Char)) (unbroken : ∀ text ∈ texts, '\n' ∉ text) :
    cutLines (texts.flatMap (· ++ ['\n'])) [] = texts := by
  induction texts with
  | nil => rfl
  | cons text texts ih =>
      obtain ⟨first, others⟩ := List.forall_mem_cons.mp unbroken
      rw [List.flatMap_cons, List.append_assoc, List.singleton_append, cut_lines_at_break text [] _ first,
        ih others]
      rfl

theorem lines_of_printed (texts : List String) (each : ∀ text ∈ texts, OneLine text) :
    lines (CommandLine.printed texts) = texts := by
  have chars : (CommandLine.printed texts).toList =
      (texts.map String.toList).flatMap (· ++ ['\n']) := by
    simp [CommandLine.printed, String.toList_join, List.flatMap_map]
  have unbroken : ∀ text ∈ texts.map String.toList, '\n' ∉ text := by
    simpa using fun text member => (each text member).1
  have kept : ∀ text ∈ texts, String.ofList (withoutReturn text.toList) = text := by
    intro text member
    rw [withoutReturn, if_neg (each text member).2, String.ofList_toList]
  rw [lines, chars, cut_lines_terminated _ unbroken, List.map_map]
  exact (List.map_congr_left kept).trans (List.map_id' texts)

def breaks (text : String) : Nat := text.toList.count '\n'

theorem breaks_eq_zero_iff (text : String) : breaks text = 0 ↔ '\n' ∉ text.toList :=
  List.count_eq_zero

theorem breaks_plain (text : String) (plain : text.toList.all (· ≠ '\n') = true) : breaks text = 0 := by
  rw [breaks_eq_zero_iff]
  exact fun member => by simpa using List.all_eq_true.mp plain _ member

@[simp] theorem breaks_append (first second : String) : breaks (first ++ second) = breaks first + breaks second := by
  rw [breaks, String.toList_append, List.count_append]
  rfl

theorem breaks_join (texts : List String) : breaks (String.join texts) = (texts.map breaks).sum := by
  rw [breaks, String.toList_join, List.count_flatMap]
  rfl

def EndsPlain (text : String) : Prop := text.toList.getLast?.any (· ≠ '\r') = true

theorem ends_plain_append (first second : String) (ends : EndsPlain second) : EndsPlain (first ++ second) := by
  unfold EndsPlain at ends ⊢
  rw [String.toList_append, List.getLast?_append]
  cases last : second.toList.getLast? <;> simp_all

theorem count_cut_lines (line before rest : List Char) :
    (cutLines (line ++ '\n' :: rest) before).length = line.count '\n' + 1 + (cutLines rest []).length := by
  induction line generalizing before with
  | nil => simp [cutLines, Nat.add_comm]
  | cons c line ih =>
      by_cases broken : c = '\n'
      · subst broken
        simp only [List.cons_append, cutLines, List.length_cons, ih, List.count_cons_self]
        omega
      · rw [List.cons_append, cutLines, ih, List.count_cons_of_ne broken]
        exact broken

theorem count_lines_of_printed (texts : List String) :
    (lines (CommandLine.printed texts)).length = texts.length + breaks (String.join texts) := by
  have chars : (CommandLine.printed texts).toList = texts.flatMap (·.toList ++ ['\n']) := by
    simp [CommandLine.printed, String.toList_join, List.flatMap_map]
  rw [lines, List.length_map, chars, breaks_join]
  clear chars
  induction texts with
  | nil => rfl
  | cons text texts ih =>
      rw [List.flatMap_cons, List.append_assoc, List.singleton_append, count_cut_lines, ih, List.length_cons,
        List.map_cons, List.sum_cons, breaks]
      omega

end Slideshow.Text
