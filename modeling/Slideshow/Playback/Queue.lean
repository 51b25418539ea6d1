set_option autoImplicit false

namespace Slideshow

-- New elements wait in a list of their own, the last one first, until the older ones are
-- taken, so an element is moved once however long the queue is.
structure Queue (α : Type) where
  front : List α
  back : List α
deriving DecidableEq, Repr

namespace Queue

variable {α : Type}

def toList (queue : Queue α) : List α :=
  queue.front ++ queue.back.reverse

def empty : Queue α := ⟨[], []⟩

def append (queue : Queue α) (elements : List α) : Queue α :=
  { queue with back := elements.reverse ++ queue.back }

def next? (queue : Queue α) : Option (α × Queue α) :=
  match queue.front with
  | element :: rest => some (element, ⟨rest, queue.back⟩)
  | [] =>
      match queue.back.reverse with
      | element :: rest => some (element, ⟨rest, []⟩)
      | [] => none

theorem to_list_empty : (empty : Queue α).toList = [] := rfl

theorem to_list_append (queue : Queue α) (elements : List α) :
    (queue.append elements).toList = queue.toList ++ elements := by
  simp [append, toList]

theorem eq_empty_of_to_list_eq_nil (queue : Queue α) (nothing : queue.toList = []) :
    queue = empty := by
  obtain ⟨front, back⟩ := queue
  obtain ⟨noFront, noBack⟩ := List.append_eq_nil_iff.mp nothing
  cases noFront
  cases List.reverse_eq_nil_iff.mp noBack
  rfl

theorem to_list_of_next? (queue rest : Queue α) (element : α)
    (taken : queue.next? = some (element, rest)) : queue.toList = element :: rest.toList := by
  obtain ⟨front, back⟩ := queue
  cases front with
  | cons first others =>
      cases taken
      rfl
  | nil =>
      simp only [next?] at taken
      cases turned : back.reverse with
      | nil => simp [turned] at taken
      | cons first others =>
          rw [turned] at taken
          cases taken
          simp [toList, turned]

theorem eq_empty_of_next? (queue : Queue α) (nothing : queue.next? = none) : queue = empty := by
  obtain ⟨front, back⟩ := queue
  cases front with
  | cons first others => cases nothing
  | nil =>
      cases turned : back.reverse with
      | nil => exact eq_empty_of_to_list_eq_nil _ turned
      | cons first others => simp [next?, turned] at nothing

end Queue

end Slideshow
