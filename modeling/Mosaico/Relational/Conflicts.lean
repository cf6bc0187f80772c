import Mosaico.Relational.Table

/-!
# Rows in conflict

`INSERT OR REPLACE … SELECT` lets the last row of a key win, `INSERT OR IGNORE … SELECT` the
first one.  A unique index beside the key makes further rows conflict; where the index is
partial, the rows outside it conflict with none.
-/

namespace Relational

universe u v w

namespace Table

variable {ρ : Type u} {κ : Type v} {ι : Type w} {key : ρ → κ} [DecidableEq κ]

/-- `INSERT OR IGNORE` adds no other row. -/
theorem mem_of_mem_insertOrIgnore {table : Table key} {row other : ρ}
    (hother : other ∈ (table.insertOrIgnore row).rows) : other ∈ table.rows ∨ other = row := by
  cases hfind : table.find? (key row) with
  | none => exact (mem_insertOrIgnore hfind).mp hother
  | some old =>
      rw [insertOrIgnore_of_some hfind] at hother
      exact Or.inl hother

/-! ## The last row wins -/

/-- `INSERT OR REPLACE`. -/
def insertOrReplace (table : Table key) (row : ρ) : Table key :=
  (table.deleteWhere (fun old => key old = key row)).insertOrIgnore row

/-- `INSERT OR REPLACE … SELECT`. -/
def insertAllOrReplace (table : Table key) (candidates : List ρ) : Table key :=
  candidates.foldl (fun current row => current.insertOrReplace row) table

theorem find?_insertOrReplace (table : Table key) (row : ρ) (k : κ) :
    (table.insertOrReplace row).find? k = if k = key row then some row else table.find? k := by
  rw [insertOrReplace, find?_insertOrIgnore, find?_deleteWhere]
  by_cases hk : k = key row
  · subst hk
    rw [if_pos rfl, if_pos rfl]
    cases hfind : table.find? (key row) with
    | none => rfl
    | some old => simp [Option.filter, key_of_find? hfind]
  · rw [if_neg hk, if_neg hk]
    cases hfind : table.find? k with
    | none => rfl
    | some old =>
        have hne : ¬ key old = key row := by
          rw [key_of_find? hfind]
          exact hk
        simp [hne]

theorem find?_insertAllOrReplace (table : Table key) (candidates : List ρ) (k : κ) :
    (table.insertAllOrReplace candidates).find? k =
      (candidates.reverse.find? (fun row => decide (key row = k))).or (table.find? k) := by
  induction candidates generalizing table with
  | nil => rfl
  | cons row rest ih =>
      have hrest : (table.insertAllOrReplace (row :: rest)).find? k =
          ((table.insertOrReplace row).insertAllOrReplace rest).find? k := rfl
      rw [hrest, ih, find?_insertOrReplace, List.reverse_cons, List.find?_append, Option.or_assoc]
      congr 1
      by_cases hk : k = key row
      · subst hk
        simp
      · have hne : ¬ key row = k := fun heq => hk heq.symm
        simp [hk, hne]

/-! ## The first row wins -/

/-- After `INSERT OR IGNORE … SELECT` every candidate's key is taken. -/
theorem find?_insertAllOrIgnore_of_mem (table : Table key) {row : ρ} {candidates : List ρ}
    (hrow : row ∈ candidates) : (table.insertAllOrIgnore candidates).find? (key row) ≠ none := by
  obtain ⟨front, back, rfl⟩ := List.append_of_mem hrow
  let before := table.insertAllOrIgnore front
  have hsplit : table.insertAllOrIgnore (front ++ row :: back) =
      (before.insertOrIgnore row).insertAllOrIgnore back := by
    simp only [before, insertAllOrIgnore, List.foldl_append, List.foldl_cons]
  have hfind : (before.insertOrIgnore row).find? (key row) =
      some ((before.find? (key row)).getD row) := by
    rw [find?_insertOrIgnore, if_pos rfl]
  rw [hsplit, find?_insertAllOrIgnore_of_some hfind]
  exact Option.some_ne_none _

/-- The two rows have one value in a partial unique index. -/
def SameIndex (index : ρ → Option ι) (left right : ρ) : Prop :=
  ∃ value, index left = some value ∧ index right = some value

section Index

variable [DecidableEq ι]

instance (index : ρ → Option ι) (left : ρ) : DecidablePred (SameIndex index left) := fun right =>
  match hleft : index left, hright : index right with
  | some first, some second =>
      if heq : first = second then
        .isTrue ⟨first, hleft, heq ▸ hright⟩
      else
        .isFalse (by
          rintro ⟨value, hfirst, hsecond⟩
          rw [hleft] at hfirst
          rw [hright] at hsecond
          exact heq ((Option.some.inj hfirst).trans (Option.some.inj hsecond).symm))
  | none, _ => .isFalse (by
      rintro ⟨value, hfirst, _⟩
      rw [hleft] at hfirst
      cases hfirst)
  | some first, none => .isFalse (by
      rintro ⟨value, _, hsecond⟩
      rw [hright] at hsecond
      cases hsecond)

/-- `INSERT OR IGNORE` into a table with a further unique index. -/
def insertOrIgnoreIndexed (table : Table key) (index : ρ → Option ι) (row : ρ) : Table key :=
  if table.Any (SameIndex index row) then table else table.insertOrIgnore row

/-- `INSERT OR IGNORE … SELECT` into a table with a further unique index. -/
def insertAllOrIgnoreIndexed (table : Table key) (index : ρ → Option ι) (candidates : List ρ) :
    Table key :=
  candidates.foldl (fun current row => current.insertOrIgnoreIndexed index row) table

variable {index : ρ → Option ι} {table : Table key} {row other : ρ} {candidates : List ρ}

theorem mem_insertOrIgnoreIndexed_of_mem (hother : other ∈ table.rows) :
    other ∈ (table.insertOrIgnoreIndexed index row).rows := by
  rw [insertOrIgnoreIndexed]
  split_ifs
  · exact hother
  · exact mem_insertOrIgnore_of_mem hother

theorem mem_insertAllOrIgnoreIndexed_of_mem (hother : other ∈ table.rows) :
    other ∈ (table.insertAllOrIgnoreIndexed index candidates).rows := by
  induction candidates generalizing table with
  | nil => exact hother
  | cons row rest ih => exact ih (mem_insertOrIgnoreIndexed_of_mem hother)

/-- A row that is in the table afterwards was there or is new. -/
theorem mem_of_mem_insertOrIgnoreIndexed
    (hother : other ∈ (table.insertOrIgnoreIndexed index row).rows) :
    other ∈ table.rows ∨
      other = row ∧ table.find? (key row) = none ∧ ¬ table.Any (SameIndex index row) := by
  rw [insertOrIgnoreIndexed] at hother
  split_ifs at hother with hany
  · exact Or.inl hother
  · cases hfind : table.find? (key row) with
    | none =>
        rcases (mem_insertOrIgnore hfind).mp hother with hold | heq
        · exact Or.inl hold
        · exact Or.inr ⟨heq, rfl, hany⟩
    | some old =>
        rw [insertOrIgnore_of_some hfind] at hother
        exact Or.inl hother

theorem mem_of_mem_insertAllOrIgnoreIndexed
    (hother : other ∈ (table.insertAllOrIgnoreIndexed index candidates).rows) :
    other ∈ table.rows ∨ other ∈ candidates := by
  induction candidates generalizing table with
  | nil => exact Or.inl hother
  | cons row rest ih =>
      rcases ih hother with hstep | hrest
      · rcases mem_of_mem_insertOrIgnoreIndexed hstep with hold | ⟨rfl, _⟩
        · exact Or.inl hold
        · exact Or.inr List.mem_cons_self
      · exact Or.inr (List.mem_cons_of_mem row hrest)

/-- No two rows have one value in the index. -/
def IndexUnique (index : ρ → Option ι) (table : Table key) : Prop :=
  ∀ left ∈ table.rows, ∀ right ∈ table.rows, SameIndex index left right → left = right

omit [DecidableEq κ] [DecidableEq ι] in
theorem SameIndex.symm {left right : ρ} (hsame : SameIndex index left right) :
    SameIndex index right left := by
  obtain ⟨value, hleft, hright⟩ := hsame
  exact ⟨value, hright, hleft⟩

theorem IndexUnique.insertOrIgnoreIndexed (hunique : IndexUnique index table) :
    IndexUnique index (table.insertOrIgnoreIndexed index row) := by
  intro left hleft right hright hsame
  rcases mem_of_mem_insertOrIgnoreIndexed hleft with hleftOld | ⟨rfl, _, hnone⟩
  · rcases mem_of_mem_insertOrIgnoreIndexed hright with hrightOld | ⟨rfl, _, hnone⟩
    · exact hunique left hleftOld right hrightOld hsame
    · exact absurd ⟨left, hleftOld, hsame.symm⟩ hnone
  · rcases mem_of_mem_insertOrIgnoreIndexed hright with hrightOld | ⟨rfl, _, _⟩
    · exact absurd ⟨right, hrightOld, hsame⟩ hnone
    · rfl

theorem IndexUnique.insertAllOrIgnoreIndexed (hunique : IndexUnique index table) :
    IndexUnique index (table.insertAllOrIgnoreIndexed index candidates) := by
  induction candidates generalizing table with
  | nil => exact hunique
  | cons row rest ih => exact ih hunique.insertOrIgnoreIndexed

/-- A candidate is stored if nothing before it is in its way. -/
theorem mem_insertAllOrIgnoreIndexed_of_first {front back : List ρ}
    (hkey : ∀ other, other ∈ table.rows ∨ other ∈ front → key other ≠ key row)
    (hindex : ∀ other, other ∈ table.rows ∨ other ∈ front → ¬ SameIndex index row other) :
    row ∈ (table.insertAllOrIgnoreIndexed index (front ++ row :: back)).rows := by
  let before := table.insertAllOrIgnoreIndexed index front
  have hsplit : table.insertAllOrIgnoreIndexed index (front ++ row :: back) =
      (before.insertOrIgnoreIndexed index row).insertAllOrIgnoreIndexed index back := by
    simp only [before, insertAllOrIgnoreIndexed, List.foldl_append, List.foldl_cons]
  rw [hsplit]
  apply mem_insertAllOrIgnoreIndexed_of_mem
  have hfree : before.find? (key row) = none :=
    find?_eq_none_iff.mpr fun other hother =>
      hkey other (mem_of_mem_insertAllOrIgnoreIndexed hother)
  have hnone : ¬ before.Any (SameIndex index row) := by
    rintro ⟨other, hother, hsame⟩
    exact hindex other (mem_of_mem_insertAllOrIgnoreIndexed hother) hsame
  rw [insertOrIgnoreIndexed, if_neg hnone]
  exact (mem_insertOrIgnore hfree).mpr (Or.inr rfl)

end Index

end Table

end Relational
