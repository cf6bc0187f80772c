import Mathlib.Data.List.Basic

/-!
# Segments joined by a separator

`List.intercalate` joins segments and `List.splitOn` takes them apart again.  This module says
which letters a joined text and its segments have, and that two separators in a row leave an
empty segment between them.
-/

namespace Text

universe u

variable {α : Type u}

theorem mem_intercalate {sep : List α} {parts : List (List α)} {c : α}
    (hc : c ∈ sep.intercalate parts) : c ∈ sep ∨ ∃ part ∈ parts, c ∈ part := by
  induction parts with
  | nil => cases hc
  | cons first rest ih =>
      cases rest with
      | nil =>
          rw [List.intercalate_singleton] at hc
          exact Or.inr ⟨first, List.mem_cons_self, hc⟩
      | cons second rest =>
          rw [List.intercalate_cons_cons, List.append_assoc, List.mem_append,
            List.mem_append] at hc
          rcases hc with hfirst | hsep | hrest
          · exact Or.inr ⟨first, List.mem_cons_self, hfirst⟩
          · exact Or.inl hsep
          · refine (ih hrest).imp_right ?_
            exact fun ⟨part, hpart, hc⟩ => ⟨part, List.mem_cons_of_mem first hpart, hc⟩

/-- A text of nonempty segments ends as one of them does. -/
theorem getLast?_intercalate {sep : List α} {parts : List (List α)}
    (hparts : ∀ part ∈ parts, part ≠ []) {c : α} (hc : c ∈ (sep.intercalate parts).getLast?) :
    ∃ part ∈ parts, c ∈ part.getLast? := by
  induction parts with
  | nil => cases hc
  | cons first rest ih =>
      cases rest with
      | nil =>
          rw [List.intercalate_singleton] at hc
          exact ⟨first, List.mem_cons_self, hc⟩
      | cons second rest =>
          have hne : sep.intercalate (second :: rest) ≠ [] := by
            have hsecond : second ≠ [] :=
              hparts second (List.mem_cons_of_mem first List.mem_cons_self)
            cases rest with
            | nil => rwa [List.intercalate_singleton]
            | cons third rest =>
                rw [List.intercalate_cons_cons]
                simp [hsecond]
          rw [List.intercalate_cons_cons, List.getLast?_append_of_ne_nil _ hne] at hc
          obtain ⟨part, hpart, hlast⟩ :=
            ih (fun part hpart => hparts part (List.mem_cons_of_mem first hpart)) hc
          exact ⟨part, List.mem_cons_of_mem first hpart, hlast⟩

variable [BEq α] [LawfulBEq α]

/-- A segment has letters of the text and no separator. -/
theorem mem_splitOn {a : α} {text part : List α} (hpart : part ∈ text.splitOn a) {c : α}
    (hc : c ∈ part) : c ≠ a ∧ c ∈ text := by
  induction text generalizing part with
  | nil =>
      rw [List.splitOn_nil, List.mem_singleton] at hpart
      rw [hpart] at hc
      cases hc
  | cons b text ih =>
      rw [List.splitOn_cons_eq_if_modifyHead] at hpart
      split at hpart
      · rcases List.mem_cons.mp hpart with rfl | hrest
        · cases hc
        · exact (ih hrest hc).imp_right (List.mem_cons_of_mem b)
      · rename_i hne
        -- the letter belongs to the first segment of the rest
        cases hsplit : text.splitOn a with
        | nil => exact absurd hsplit (List.splitOn_ne_nil a text)
        | cons first rest =>
            rw [hsplit, List.modifyHead_cons] at hpart
            rcases List.mem_cons.mp hpart with rfl | hrest
            · rcases List.mem_cons.mp hc with rfl | hfirst
              · exact ⟨fun heq => hne (beq_iff_eq.mpr heq), List.mem_cons_self⟩
              · exact (ih (by rw [hsplit]; exact List.mem_cons_self) hfirst).imp_right
                  (List.mem_cons_of_mem b)
            · exact (ih (by rw [hsplit]; exact List.mem_cons_of_mem first hrest) hc).imp_right
                (List.mem_cons_of_mem b)

/-- Two separators in a row, the first one possibly in front of the text. -/
theorem nil_mem_splitOn {a : α} {text : List α} (htwice : [a, a] <:+: a :: text) :
    [] ∈ text.splitOn a := by
  obtain ⟨front, rest, heq⟩ := htwice
  cases front with
  | nil =>
      obtain ⟨_, htext⟩ := List.cons.inj heq
      rw [← htext]
      show [] ∈ ([] ++ a :: rest).splitOn a
      rw [List.splitOn_append_cons_self, List.splitOn_nil]
      exact List.mem_cons_self
  | cons b front =>
      obtain ⟨_, htext⟩ := List.cons.inj heq
      have hsplit : text = front ++ a :: ([] ++ a :: rest) := by
        rw [← htext]
        simp
      rw [hsplit, List.splitOn_append_cons_self, List.splitOn_append_cons_self, List.splitOn_nil]
      exact List.mem_append_right _ List.mem_cons_self

/-- Splitting a joined text splits its parts. -/
theorem splitOn_intercalate {a : α} {parts : List (List α)} (hparts : parts ≠ []) :
    ([a].intercalate parts).splitOn a = parts.flatMap (List.splitOn a) := by
  induction parts with
  | nil => exact absurd rfl hparts
  | cons first rest ih =>
      cases rest with
      | nil => rw [List.intercalate_singleton, List.flatMap_singleton]
      | cons second rest =>
          rw [List.intercalate_cons_cons, List.append_assoc, List.singleton_append,
            List.splitOn_append_cons_self, ih (List.cons_ne_nil second rest)]
          rfl

/-- Two lists of parts join to one text when they have the same segments. -/
theorem intercalate_eq_iff {a : α} {parts others : List (List α)} (hparts : parts ≠ [])
    (hothers : others ≠ []) :
    [a].intercalate parts = [a].intercalate others ↔
      parts.flatMap (List.splitOn a) = others.flatMap (List.splitOn a) := by
  rw [← splitOn_intercalate hparts, ← splitOn_intercalate hothers]
  constructor
  · exact congrArg (List.splitOn a)
  · intro hsame
    have hback : [a].intercalate (List.splitOn a ([a].intercalate parts)) =
        [a].intercalate parts := List.intercalate_splitOn a
    rw [← hback, hsame, List.intercalate_splitOn]

end Text
