import Mathlib.Data.List.Perm.Basic

/-!
# What is taken from a list and what is left

A pass over a queue takes some of its elements and leaves the others.  Both parts keep the
order of the queue, and together they are the queue, element by element, also where the
queue holds the same value twice.
-/

namespace Storage

universe u

variable {α : Type u}

/-- The list is cut in what is taken and what is left, each in the order of the list. -/
inductive Parts : List α → List α → List α → Prop
  | nil : Parts [] [] []
  | take {taken left whole : List α} (a : α) :
      Parts taken left whole → Parts (a :: taken) left (a :: whole)
  | leave {taken left whole : List α} (a : α) :
      Parts taken left whole → Parts taken (a :: left) (a :: whole)

namespace Parts

variable {taken left whole : List α}

/-- Nothing is taken. -/
theorem none (whole : List α) : Parts [] whole whole := by
  induction whole with
  | nil => exact .nil
  | cons a rest ih => exact .leave a ih

theorem perm (hparts : Parts taken left whole) : (taken ++ left).Perm whole := by
  induction hparts with
  | nil => exact List.Perm.refl []
  | take a _ ih => exact ih.cons a
  | leave a _ ih => exact List.perm_middle.trans (ih.cons a)

theorem left_sublist (hparts : Parts taken left whole) : left.Sublist whole := by
  induction hparts with
  | nil => exact List.Sublist.slnil
  | take a _ ih => exact ih.cons a
  | leave a _ ih => exact ih.cons_cons a

theorem count [DecidableEq α] (hparts : Parts taken left whole) (a : α) :
    taken.count a + left.count a = whole.count a := by
  rw [← List.count_append]
  exact hparts.perm.count_eq a

/-- What is left can be cut again. -/
theorem trans {taken' left' : List α} (hfirst : Parts taken left whole)
    (hsecond : Parts taken' left' left) :
    ∃ both, Parts both left' whole ∧ both.Perm (taken ++ taken') := by
  induction hfirst generalizing taken' left' with
  | nil =>
      cases hsecond
      exact ⟨[], .nil, List.Perm.refl []⟩
  | take a _ ih =>
      obtain ⟨both, hboth, hperm⟩ := ih hsecond
      exact ⟨a :: both, .take a hboth, hperm.cons a⟩
  | leave a _ ih =>
      cases hsecond with
      | take _ hrest =>
          obtain ⟨both, hboth, hperm⟩ := ih hrest
          exact ⟨a :: both, .take a hboth, (hperm.cons a).trans List.perm_middle.symm⟩
      | leave _ hrest =>
          obtain ⟨both, hboth, hperm⟩ := ih hrest
          exact ⟨both, .leave a hboth, hperm⟩

end Parts

end Storage
