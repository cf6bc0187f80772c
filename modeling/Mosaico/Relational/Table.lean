import Mathlib.Data.List.Nodup
import Mathlib.Data.List.Count
import Mathlib.Data.Option.Basic

/-!
# Relational tables with a primary key

A table is a finite list of rows in which no two rows share a primary key.
The key discipline is a field of the structure, so a table that violates its
primary key cannot be written down, and every statement below (update, insert
with a conflict clause, delete) rebuilds that field once.

The lookup `find?` is the view through which the rest of a development sees a
table: each statement has one equation that computes the lookup after the
statement from the lookup before it.  Invariants of the form "every row
satisfies `P`" and frame facts of the form "this column is unchanged" are then
consequences of those equations alone.
-/

namespace Relational

universe u v

/-- Rows with pairwise different primary keys. -/
structure Table {ρ : Type u} {κ : Type v} (key : ρ → κ) where
  rows : List ρ
  keysNodup : (rows.map key).Nodup

namespace Table

variable {ρ : Type u} {κ : Type v} {key : ρ → κ}

@[ext] theorem ext {left right : Table key} (hrows : left.rows = right.rows) :
    left = right := by
  cases left
  cases right
  cases hrows
  rfl

/-- The table without rows. -/
def empty : Table key where
  rows := []
  keysNodup := by simp

/-! ## Reading -/

/-- `SELECT … WHERE p`, in row order. -/
def select (table : Table key) (p : ρ → Prop) [DecidablePred p] : List ρ :=
  table.rows.filter (fun row => decide (p row))

/-- `EXISTS (SELECT … WHERE p)`. -/
def Any (table : Table key) (p : ρ → Prop) : Prop :=
  ∃ row ∈ table.rows, p row

instance (table : Table key) (p : ρ → Prop) [DecidablePred p] :
    Decidable (table.Any p) :=
  inferInstanceAs (Decidable (∃ row ∈ table.rows, p row))

/-- The number of rows a statement with the condition `p` touches. -/
def matching (table : Table key) (p : ρ → Prop) [DecidablePred p] : Nat :=
  (table.select p).length

@[simp] theorem mem_select {table : Table key} {p : ρ → Prop} [DecidablePred p]
    {row : ρ} : row ∈ table.select p ↔ row ∈ table.rows ∧ p row := by
  simp [select]

theorem matching_pos_iff {table : Table key} {p : ρ → Prop} [DecidablePred p] :
    0 < table.matching p ↔ table.Any p := by
  simp [matching, List.length_pos_iff_exists_mem, Any]

section Lookup

variable [DecidableEq κ]

/-- The row that carries a primary key. -/
def find? (table : Table key) (k : κ) : Option ρ :=
  table.rows.find? (fun row => decide (key row = k))

@[simp] theorem find?_empty (k : κ) : (empty : Table key).find? k = none := rfl

variable {table : Table key} {k : κ} {row : ρ}

theorem key_of_find? (hfind : table.find? k = some row) : key row = k := by
  have hkey := List.find?_some hfind
  simpa using hkey

theorem mem_of_find? (hfind : table.find? k = some row) : row ∈ table.rows :=
  List.mem_of_find?_eq_some hfind

private theorem find?_rows_eq_some {rows : List ρ} (hnodup : (rows.map key).Nodup)
    (hmem : row ∈ rows) :
    rows.find? (fun other => decide (key other = key row)) = some row := by
  induction rows with
  | nil => simp at hmem
  | cons head tail ih =>
      rw [List.map_cons, List.nodup_cons] at hnodup
      rcases List.mem_cons.mp hmem with rfl | htail
      · simp
      · have hne : key head ≠ key row := by
          intro heq
          exact hnodup.1 (heq ▸ List.mem_map_of_mem htail)
        rw [List.find?_cons_of_neg (by simpa using hne)]
        exact ih hnodup.2 htail

/-- The primary key identifies its row. -/
theorem find?_eq_some_iff :
    table.find? k = some row ↔ row ∈ table.rows ∧ key row = k := by
  constructor
  · intro hfind
    exact ⟨mem_of_find? hfind, key_of_find? hfind⟩
  · rintro ⟨hmem, rfl⟩
    exact find?_rows_eq_some table.keysNodup hmem

theorem mem_rows_iff :
    row ∈ table.rows ↔ table.find? (key row) = some row := by
  simp [find?_eq_some_iff]

theorem find?_eq_none_iff :
    table.find? k = none ↔ ∀ row ∈ table.rows, key row ≠ k := by
  simp [find?]

/-- A condition that fixes the primary key is decided by the keyed row. -/
theorem any_key_iff {q : ρ → Prop} :
    table.Any (fun row => key row = k ∧ q row) ↔
      ∃ row, table.find? k = some row ∧ q row := by
  constructor
  · rintro ⟨row, hmem, rfl, hq⟩
    exact ⟨row, mem_rows_iff.mp hmem, hq⟩
  · rintro ⟨row, hfind, hq⟩
    exact ⟨row, mem_of_find? hfind, key_of_find? hfind, hq⟩

omit [DecidableEq κ] in
/-- A statement that fixes the primary key touches at most one row. -/
theorem matching_key_le_one (table : Table key) (k : κ) (q : ρ → Prop)
    [DecidablePred (fun row => key row = k ∧ q row)] :
    table.matching (fun row => key row = k ∧ q row) ≤ 1 := by
  have hsub : ((table.select (fun row => key row = k ∧ q row)).map key).Nodup :=
    (List.Sublist.map key List.filter_sublist).nodup table.keysNodup
  have hall : ∀ other ∈ (table.select (fun row => key row = k ∧ q row)).map key,
      other = k := by
    intro other hother
    rw [List.mem_map] at hother
    obtain ⟨row, hrow, rfl⟩ := hother
    exact (mem_select.mp hrow).2.1
  have hreplicate := List.eq_replicate_of_mem hall
  rw [hreplicate, List.nodup_replicate, List.length_map] at hsub
  exact hsub

/-- `changes() == 1` for a statement that fixes the primary key. -/
theorem matching_key_eq_one_iff {q : ρ → Prop} [DecidablePred (fun row => key row = k ∧ q row)] :
    table.matching (fun row => key row = k ∧ q row) = 1 ↔
      ∃ row, table.find? k = some row ∧ q row := by
  rw [← any_key_iff, ← matching_pos_iff]
  have hle := table.matching_key_le_one k q
  omega

/-- A condition that only rows with key `k` meet matches one row or none. -/
theorem matching_eq_one_of_key {p : ρ → Prop} [DecidablePred p] (hp : ∀ row, p row → key row = k) :
    table.matching p = 1 ↔ ∃ row, table.find? k = some row ∧ p row := by
  have hkeyed : table.matching p = table.matching (fun row => key row = k ∧ p row) := by
    simp only [matching, select]
    congr 2
    funext row
    by_cases hrow : p row
    · simp [hrow, hp row hrow]
    · simp [hrow]
  rw [hkeyed]
  exact matching_key_eq_one_iff

end Lookup

/-! ## Writing -/

/-- `UPDATE … SET … WHERE p`.  The assignment keeps the primary key. -/
def updateWhere (table : Table key) (p : ρ → Prop) [DecidablePred p] (f : ρ → ρ)
    (hkey : ∀ row, key (f row) = key row := by intro row; cases row; rfl) : Table key where
  rows := table.rows.map (fun row => if p row then f row else row)
  keysNodup := by
    have hkeys : (table.rows.map (fun row => if p row then f row else row)).map key =
        table.rows.map key := by
      rw [List.map_map]
      apply List.map_congr_left
      intro row _
      by_cases hp : p row
      · simp [hp, hkey]
      · simp [hp]
    rw [hkeys]
    exact table.keysNodup

/-- `DELETE … WHERE p`. -/
def deleteWhere (table : Table key) (p : ρ → Prop) [DecidablePred p] : Table key where
  rows := table.rows.filter (fun row => decide (¬ p row))
  keysNodup := (List.Sublist.map key List.filter_sublist).nodup table.keysNodup

section Insert

variable [DecidableEq κ]

/-- Append a row whose key is free. -/
private def append (table : Table key) (row : ρ) (hfree : table.find? (key row) = none) :
    Table key where
  rows := table.rows ++ [row]
  keysNodup := by
    rw [List.map_append, List.nodup_append]
    refine ⟨table.keysNodup, by simp, ?_⟩
    intro left hleft right hright
    rw [List.mem_map] at hleft
    obtain ⟨other, hother, rfl⟩ := hleft
    simp only [List.map_cons, List.map_nil, List.mem_singleton] at hright
    subst hright
    exact find?_eq_none_iff.mp hfree other hother

/-- `INSERT … ON CONFLICT(key) DO UPDATE`: `merge` computes the stored row from
the conflicting one.  `INSERT OR IGNORE` is the case `merge = id`. -/
def upsert (table : Table key) (row : ρ) (merge : ρ → ρ)
    (hkey : ∀ old, key (merge old) = key old := by intro old; cases old; rfl) : Table key :=
  if hfree : table.find? (key row) = none then
    table.append row hfree
  else
    table.updateWhere (fun old => key old = key row) merge hkey

theorem rows_upsert_of_none {table : Table key} {row : ρ} {merge : ρ → ρ}
    {hkey : ∀ old, key (merge old) = key old} (hfree : table.find? (key row) = none) :
    (table.upsert row merge hkey).rows = table.rows ++ [row] := by
  rw [upsert, dif_pos hfree]
  rfl

/-- `INSERT OR IGNORE`, also `ON CONFLICT(key) DO NOTHING`. -/
def insertOrIgnore (table : Table key) (row : ρ) : Table key :=
  table.upsert row id (fun old => congrArg key (id_eq old))

/-- `INSERT OR IGNORE … SELECT`: one candidate row after the other. -/
def insertAllOrIgnore (table : Table key) (candidates : List ρ) : Table key :=
  candidates.foldl (fun current row => current.insertOrIgnore row) table

end Insert

/-! ## What a lookup sees after a statement -/

section LookupAfter

variable [DecidableEq κ]

theorem find?_updateWhere (table : Table key) (p : ρ → Prop) [DecidablePred p]
    (f : ρ → ρ) (hkey : ∀ row, key (f row) = key row) (k : κ) :
    (table.updateWhere p f hkey).find? k =
      (table.find? k).map (fun row => if p row then f row else row) := by
  simp only [find?, updateWhere, List.find?_map]
  congr 1
  apply congrArg (fun test => List.find? test table.rows)
  funext row
  by_cases hp : p row
  · simp [hp, hkey]
  · simp [hp]

theorem find?_deleteWhere (table : Table key) (p : ρ → Prop) [DecidablePred p] (k : κ) :
    (table.deleteWhere p).find? k =
      (table.find? k).filter (fun row => decide (¬ p row)) := by
  cases hfind : table.find? k with
  | none =>
      simp only [Option.filter_none, find?_eq_none_iff]
      intro row hrow
      simp only [deleteWhere, List.mem_filter] at hrow
      exact find?_eq_none_iff.mp hfind row hrow.1
  | some row =>
      have hmem := mem_of_find? hfind
      have hkey := key_of_find? hfind
      by_cases hp : p row
      · simp only [hp, not_true_eq_false, decide_false, Option.filter_some_neg,
          find?_eq_none_iff]
        intro other hother heq
        simp only [deleteWhere, List.mem_filter] at hother
        have hsame : table.find? k = some other :=
          find?_eq_some_iff.mpr ⟨hother.1, heq⟩
        rw [hfind] at hsame
        cases hsame
        simp [hp] at hother
      · rw [Option.filter_some_pos (by simp [hp]), find?_eq_some_iff]
        exact ⟨by simp [deleteWhere, hmem, hp], hkey⟩

variable {table before after : Table key} {k : κ} {row : ρ} {p Q : ρ → Prop} {R : ρ → ρ → Prop}
  {f : ρ → ρ} {hkey : ∀ row, key (f row) = key row}

/-- Deleting a key takes away the one row that carries it. -/
theorem rows_perm_deleteWhere (hfind : table.find? k = some row) :
    table.rows.Perm (row :: (table.deleteWhere (fun other => key other = k)).rows) := by
  obtain ⟨front, back, hrows⟩ := List.append_of_mem (mem_of_find? hfind)
  have hkey := key_of_find? hfind
  have hperm : table.rows.Perm (row :: (front ++ back)) := by
    rw [hrows]
    exact List.perm_middle
  have hnodup := (hperm.map key).nodup_iff.mp table.keysNodup
  rw [List.map_cons, List.nodup_cons] at hnodup
  have hkept : (table.deleteWhere (fun other => key other = k)).rows.Perm (front ++ back) := by
    refine (hperm.filter _).trans (List.Perm.of_eq ?_)
    rw [List.filter_cons_of_neg (by simpa using hkey)]
    refine List.filter_eq_self.mpr ?_
    intro other hother
    rw [decide_eq_true_eq]
    intro hsame
    exact hnodup.1 (by rw [hkey, ← hsame]; exact List.mem_map_of_mem hother)
  exact hperm.trans (List.Perm.cons row hkept.symm)

/-- A deletion keeps a row as it is, or removes one that meets the condition. -/
theorem find?_deleteWhere_cases (table : Table key) (p : ρ → Prop) [DecidablePred p] (k : κ) :
    (table.deleteWhere p).find? k = table.find? k ∨
      (table.deleteWhere p).find? k = none ∧ ∃ row, table.find? k = some row ∧ p row := by
  rw [find?_deleteWhere]
  cases hfind : table.find? k with
  | none => exact Or.inl rfl
  | some row =>
      by_cases hp : p row
      · refine Or.inr ⟨?_, row, rfl, hp⟩
        simp [Option.filter, hp]
      · refine Or.inl ?_
        simp [Option.filter, hp]

omit [DecidableEq κ] in
theorem mem_of_mem_deleteWhere [DecidablePred p]
    (hmem : row ∈ (table.deleteWhere p).rows) : row ∈ table.rows :=
  (List.mem_filter.mp hmem).1

omit [DecidableEq κ] in
theorem any_deleteWhere [DecidablePred p] {q : ρ → Prop} :
    (table.deleteWhere p).Any q ↔ table.Any (fun row => ¬ p row ∧ q row) := by
  simp [Any, deleteWhere, and_assoc]

omit [DecidableEq κ] in
theorem not_any_deleteWhere [DecidablePred p] :
    ¬ (table.deleteWhere p).Any p := by
  rw [any_deleteWhere]
  rintro ⟨row, _, hkept, hdeleted⟩
  exact hkept hdeleted

private theorem find?_append (table : Table key) (row : ρ)
    (hfree : table.find? (key row) = none) (k : κ) :
    (table.append row hfree).find? k =
      if k = key row then some row else table.find? k := by
  by_cases hk : k = key row
  · subst hk
    rw [if_pos rfl, find?_eq_some_iff]
    exact ⟨by simp [append], rfl⟩
  · rw [if_neg hk]
    have hne : ¬ key row = k := fun heq => hk heq.symm
    simp [find?, append, List.find?_append, hne]

theorem find?_upsert (table : Table key) (row : ρ) (merge : ρ → ρ)
    (hkey : ∀ old, key (merge old) = key old) (k : κ) :
    (table.upsert row merge hkey).find? k =
      if k = key row then some ((table.find? k).elim row merge) else table.find? k := by
  unfold upsert
  split
  · rename_i hfree
    rw [find?_append]
    by_cases hk : k = key row
    · subst hk
      simp [hfree]
    · simp [hk]
  · rename_i hbound
    obtain ⟨old, hold⟩ := Option.ne_none_iff_exists'.mp hbound
    rw [find?_updateWhere]
    by_cases hk : k = key row
    · subst hk
      simp [hold, key_of_find? hold]
    · rw [if_neg hk]
      cases hfind : table.find? k with
      | none => rfl
      | some other =>
          have hne : ¬ key other = key row := by
            rw [key_of_find? hfind]
            exact hk
          simp [hne]

theorem find?_insertOrIgnore (table : Table key) (row : ρ) (k : κ) :
    (table.insertOrIgnore row).find? k =
      if k = key row then some ((table.find? k).getD row) else table.find? k := by
  rw [insertOrIgnore, find?_upsert]
  cases table.find? k <;> rfl

/-- `INSERT` under a free key adds one row. -/
theorem mem_insertOrIgnore {other : ρ} (hfree : table.find? (key row) = none) :
    other ∈ (table.insertOrIgnore row).rows ↔ other ∈ table.rows ∨ other = row := by
  rw [insertOrIgnore, upsert, dif_pos hfree]
  simp [append]

/-- `INSERT OR IGNORE` keeps every row. -/
theorem mem_insertOrIgnore_of_mem {other : ρ}
    (hother : other ∈ table.rows) : other ∈ (table.insertOrIgnore row).rows := by
  rw [mem_rows_iff] at hother ⊢
  rw [find?_insertOrIgnore, hother]
  split <;> rfl

/-- `INSERT OR IGNORE` on a taken key writes nothing. -/
theorem insertOrIgnore_of_some {old : ρ}
    (hfind : table.find? (key row) = some old) : table.insertOrIgnore row = table := by
  have hbound : table.find? (key row) ≠ none := by
    rw [hfind]
    exact Option.some_ne_none old
  have hrows : (table.rows.map (fun other => if key other = key row then id other else other)) =
      table.rows := by
    simp
  rw [insertOrIgnore, upsert, dif_neg hbound]
  cases table
  simp only [updateWhere, hrows]

/-- A row that is already there survives `INSERT OR IGNORE … SELECT`. -/
theorem find?_insertAllOrIgnore_of_some {candidates : List ρ} (hfind : table.find? k = some row) :
    (table.insertAllOrIgnore candidates).find? k = some row := by
  induction candidates generalizing table with
  | nil => exact hfind
  | cons head tail ih =>
      apply ih
      rw [find?_insertOrIgnore, hfind]
      split <;> rfl

/-- A row that appears in `INSERT OR IGNORE … SELECT` is one of the candidates. -/
theorem find?_insertAllOrIgnore_of_none {candidates : List ρ} (hnone : table.find? k = none)
    (hfind : (table.insertAllOrIgnore candidates).find? k = some row) :
    row ∈ candidates := by
  induction candidates generalizing table with
  | nil =>
      rw [insertAllOrIgnore, List.foldl_nil, hnone] at hfind
      cases hfind
  | cons head tail ih =>
      by_cases hk : k = key head
      · have hhead : (table.insertOrIgnore head).find? k = some head := by
          rw [find?_insertOrIgnore, if_pos hk, hnone]
          rfl
        have hrow : ((table.insertOrIgnore head).insertAllOrIgnore tail).find? k = some head :=
          find?_insertAllOrIgnore_of_some hhead
        have heq : some row = some head := hfind.symm.trans hrow
        cases heq
        exact List.mem_cons_self
      · have htail : (table.insertOrIgnore head).find? k = none := by
          rw [find?_insertOrIgnore, if_neg hk, hnone]
        exact List.mem_cons_of_mem head (ih htail hfind)

/-! ## Row by row -/

/-- The rows of `before` and `after` correspond key by key, and corresponding
rows are related. -/
def RelatedBy (R : ρ → ρ → Prop) (before after : Table key) : Prop :=
  ∀ k, Option.Rel R (before.find? k) (after.find? k)

theorem RelatedBy.refl (hrefl : ∀ row, R row row) (table : Table key) :
    RelatedBy R table table := by
  intro k
  cases table.find? k with
  | none => exact .none
  | some row => exact .some (hrefl row)

/-- An update relates a row that it matches to the assigned row and every other
row to itself. -/
theorem RelatedBy.updateWhere (hrefl : ∀ row, R row row) [DecidablePred p]
    (hf : ∀ row ∈ table.rows, p row → R row (f row)) :
    RelatedBy R table (table.updateWhere p f hkey) := by
  intro k
  rw [find?_updateWhere]
  cases hrow : table.find? k with
  | none => exact .none
  | some row =>
      by_cases hp : p row
      · rw [Option.map_some, if_pos hp]
        exact .some (hf row (mem_of_find? hrow) hp)
      · rw [Option.map_some, if_neg hp]
        exact .some (hrefl row)

theorem RelatedBy.mono {S : ρ → ρ → Prop} (hmono : ∀ row next, R row next → S row next)
    (hrelated : RelatedBy R before after) :
    RelatedBy S before after := by
  intro k
  have hrow := hrelated k
  revert hrow
  generalize before.find? k = first
  generalize after.find? k = second
  intro hrow
  cases hrow with
  | none => exact .none
  | some hR => exact .some (hmono _ _ hR)

theorem RelatedBy.trans
    (htrans : ∀ {first second third}, R first second → R second third → R first third)
    {middle : Table key} (hfirst : RelatedBy R before middle)
    (hsecond : RelatedBy R middle after) : RelatedBy R before after := by
  intro k
  have hleft := hfirst k
  have hright := hsecond k
  revert hleft hright
  generalize before.find? k = first
  generalize middle.find? k = second
  generalize after.find? k = third
  intro hleft hright
  cases hleft with
  | none => exact hright
  | some hR =>
      cases hright with
      | some hS => exact .some (htrans hR hS)

/-! ## Frame rules -/

omit [DecidableEq κ] in
/-- An assignment that changes no matched row is no assignment. -/
theorem updateWhere_of_fixed [DecidablePred p] (hfixed : ∀ row ∈ table.rows, p row → f row = row) :
    table.updateWhere p f hkey = table := by
  have hrows : ∀ row ∈ table.rows, (if p row then f row else row) = id row := by
    intro row hrow
    by_cases hp : p row
    · rw [if_pos hp, hfixed row hrow hp, id_eq]
    · rw [if_neg hp, id_eq]
  apply ext
  exact (List.map_congr_left hrows).trans (List.map_id _)

omit [DecidableEq κ] in
/-- A deletion that matches no row is no deletion. -/
theorem deleteWhere_of_not_any [DecidablePred p]
    (hnone : ¬ table.Any p) : table.deleteWhere p = table := by
  apply ext
  apply List.filter_eq_self.mpr
  intro row hrow
  exact decide_eq_true (fun hp => hnone ⟨row, hrow, hp⟩)

omit [DecidableEq κ] in
/-- A query that matches no updated row, before or afterwards, is unchanged. -/
theorem select_updateWhere_of_disjoint {q : ρ → Prop} [DecidablePred p]
    [DecidablePred q] (hkey : ∀ row, key (f row) = key row)
    (hbefore : ∀ row, p row → ¬ q row) (hafter : ∀ row, p row → ¬ q (f row)) :
    (table.updateWhere p f hkey).select q = table.select q := by
  simp only [select, updateWhere]
  induction table.rows with
  | nil => rfl
  | cons row rest ih =>
      by_cases hp : p row
      · simp [hp, hbefore row hp, hafter row hp, ih]
      · simp [hp, List.filter_cons, ih]

/-- A projection that no matched row changes is unchanged at every key. -/
theorem map_find?_updateWhere {β : Type*} [DecidablePred p]
    (proj : ρ → β) (k : κ) (hproj : ∀ row, p row → proj (f row) = proj row) :
    ((table.updateWhere p f hkey).find? k).map proj = (table.find? k).map proj := by
  rw [find?_updateWhere, Option.map_map]
  cases table.find? k with
  | none => rfl
  | some row =>
      by_cases hp : p row
      · simp [hp, hproj row hp]
      · simp [hp]

/-- Rows that the condition does not match are unchanged. -/
theorem find?_updateWhere_of_not [DecidablePred p]
    (hnot : ∀ row, table.find? k = some row → ¬ p row) :
    (table.updateWhere p f hkey).find? k = table.find? k := by
  rw [find?_updateWhere]
  cases hfind : table.find? k with
  | none => rfl
  | some row => simp [hnot row hfind]

/-! ## Invariants of all rows -/

/-- Every row satisfies `P`. -/
def All (table : Table key) (P : ρ → Prop) : Prop :=
  ∀ row ∈ table.rows, P row

theorem All.find? {P : ρ → Prop} (hall : table.All P) (hfind : table.find? k = some row) : P row :=
  hall row (mem_of_find? hfind)

omit [DecidableEq κ] in
@[simp] theorem all_empty (P : ρ → Prop) : (empty : Table key).All P := by
  intro row hrow
  simp [empty] at hrow

omit [DecidableEq κ] in
theorem All.updateWhere {P : ρ → Prop} (hall : table.All P) [DecidablePred p]
    (hf : ∀ row, P row → p row → P (f row)) : (table.updateWhere p f hkey).All P := by
  intro row hrow
  simp only [Table.updateWhere, List.mem_map] at hrow
  obtain ⟨old, hold, rfl⟩ := hrow
  by_cases hp : p old
  · simpa [hp] using hf old (hall old hold) hp
  · simpa [hp] using hall old hold

theorem All.upsert {P : ρ → Prop} (hall : table.All P)
    {merge : ρ → ρ} {hkey : ∀ old, key (merge old) = key old} (hrow : P row)
    (hmerge : ∀ old, P old → key old = key row → P (merge old)) :
    (table.upsert row merge hkey).All P := by
  unfold Table.upsert
  split
  · intro other hother
    simp only [Table.append, List.mem_append, List.mem_singleton] at hother
    rcases hother with hother | rfl
    · exact hall other hother
    · exact hrow
  · exact hall.updateWhere hmerge

/-! ## Kinds of rows that do not appear -/

/-- Every row of the kind `Q` was there before. -/
def AddsNo (Q : ρ → Prop) (before after : Table key) : Prop :=
  after.All (fun row => Q row → row ∈ before.rows)

omit [DecidableEq κ] in
theorem AddsNo.refl (Q : ρ → Prop) (table : Table key) : AddsNo Q table table :=
  fun _ hrow _ => hrow

omit [DecidableEq κ] in
theorem AddsNo.of_eq (heq : after = before) :
    AddsNo Q before after := heq ▸ AddsNo.refl Q before

omit [DecidableEq κ] in
theorem AddsNo.of_subset (hsub : ∀ row ∈ after.rows, row ∈ before.rows) : AddsNo Q before after :=
  fun row hrow _ => hsub row hrow

omit [DecidableEq κ] in
theorem AddsNo.updateWhere (hadds : AddsNo Q before table) [DecidablePred p]
    (hf : ∀ row, p row → ¬ Q (f row)) :
    AddsNo Q before (table.updateWhere p f hkey) :=
  All.updateWhere hadds (fun row _ hp hQ => absurd hQ (hf row hp))

theorem AddsNo.upsert (hadds : AddsNo Q before table)
    {merge : ρ → ρ} {hkey : ∀ old, key (merge old) = key old} (hrow : ¬ Q row)
    (hmerge : ∀ old, key old = key row → ¬ Q (merge old)) :
    AddsNo Q before (table.upsert row merge hkey) :=
  All.upsert hadds (fun hQ => absurd hQ hrow) (fun old _ hold hQ => absurd hQ (hmerge old hold))

theorem AddsNo.insertOrIgnore (hadds : AddsNo Q before table) (hrow : ¬ Q row) :
    AddsNo Q before (table.insertOrIgnore row) :=
  All.upsert hadds (fun hQ => absurd hQ hrow) (fun _ hold _ => hold)

theorem AddsNo.insertAllOrIgnore (hadds : AddsNo Q before table) {candidates : List ρ}
    (hcandidates : ∀ row ∈ candidates, ¬ Q row) :
    AddsNo Q before (table.insertAllOrIgnore candidates) := by
  induction candidates generalizing table with
  | nil => exact hadds
  | cons row rest ih =>
      apply ih (hadds.insertOrIgnore (hcandidates row List.mem_cons_self))
      exact fun other hother => hcandidates other (List.mem_cons_of_mem row hother)

end LookupAfter

end Table

end Relational
