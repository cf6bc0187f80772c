import Mosaico.Relational.Table

/-!
# Lookups that are not by key

A query without an order that stops at its first row answers with whichever match the table
lists first.  It depends on the rows alone exactly if there is at most one match.
-/

namespace Relational.Table

universe u v

variable {ρ : Type u} {κ : Type v} {key : ρ → κ}

/-- The row with the key matches, and no other row does. -/
def Only (table : Table key) (p : ρ → Prop) (k : κ) : Prop :=
  ∃ row ∈ table.rows, p row ∧ key row = k ∧ ∀ other ∈ table.rows, p other → other = row

/-- The first match, in row order. -/
def first? (table : Table key) (p : ρ → Prop) [DecidablePred p] : Option ρ :=
  table.rows.find? (fun row => decide (p row))

variable {left right : Table key} {p : ρ → Prop} [DecidablePred p]

theorem first?_eq_head? (table : Table key) : table.first? p = (table.select p).head? := by
  rw [first?, select, List.head?_filter]

/-- Two tables of the same rows have the same matches. -/
theorem select_perm (hperm : left.rows.Perm right.rows) :
    (left.select p).Perm (right.select p) :=
  hperm.filter _

theorem any_perm (hperm : left.rows.Perm right.rows) {p : ρ → Prop} :
    left.Any p ↔ right.Any p := by
  simp only [Any, hperm.mem_iff]

theorem find?_perm [DecidableEq κ] (hperm : left.rows.Perm right.rows) (k : κ) :
    left.find? k = right.find? k := by
  refine Option.ext fun row => ?_
  rw [find?_eq_some_iff, find?_eq_some_iff, hperm.mem_iff]

/-- At most one match is found in any order. -/
theorem select_eq_of_perm (hperm : left.rows.Perm right.rows) (hone : left.matching p ≤ 1) :
    left.select p = right.select p := by
  have hselect := select_perm (p := p) hperm
  rw [matching] at hone
  cases hleft : left.select p with
  | nil =>
      rw [hleft] at hselect
      exact (List.nil_perm.mp hselect).symm
  | cons first rest =>
      cases rest with
      | nil =>
          rw [hleft] at hselect
          exact List.singleton_perm.mp hselect
      | cons second rest =>
          rw [hleft] at hone
          simp only [List.length_cons] at hone
          omega

theorem first?_perm (hperm : left.rows.Perm right.rows) (hone : left.matching p ≤ 1) :
    left.first? p = right.first? p := by
  rw [first?_eq_head?, first?_eq_head?, select_eq_of_perm hperm hone]

theorem matching_perm (hperm : left.rows.Perm right.rows) :
    left.matching p = right.matching p :=
  (select_perm hperm).length_eq

/-- The first match is the only one exactly if there are no two. -/
theorem only_iff_matching_le_one {table : Table key} {row : ρ} (hrow : row ∈ table.rows)
    (hp : p row) : table.Only p (key row) ↔ table.matching p ≤ 1 := by
  have hnodup : (table.select p).Nodup :=
    ((List.filter_sublist.map key).nodup table.keysNodup).of_map _
  constructor
  · rintro ⟨found, hfound, hpfound, _, honly⟩
    have hall : ∀ other ∈ table.select p, other = found := by
      intro other hother
      obtain ⟨hmem, hmatch⟩ := mem_select.mp hother
      exact honly other hmem hmatch
    have hreplicate := List.eq_replicate_of_mem hall
    rw [hreplicate, List.nodup_replicate] at hnodup
    exact hnodup
  · intro hone
    refine ⟨row, hrow, hp, rfl, ?_⟩
    intro other hother hmatch
    have hselected : row ∈ table.select p := mem_select.mpr ⟨hrow, hp⟩
    have hpos : 0 < table.matching p := List.length_pos_of_mem hselected
    obtain ⟨single, hsingle⟩ := List.length_eq_one_iff.mp
      (show (table.select p).length = 1 by rw [matching] at hone hpos; omega)
    have hother : other ∈ table.select p := mem_select.mpr ⟨hother, hmatch⟩
    rw [hsingle, List.mem_singleton] at hselected hother
    exact hother.trans hselected.symm

theorem mem_of_first? {table : Table key} {row : ρ} (hfirst : table.first? p = some row) :
    row ∈ table.rows ∧ p row := by
  have hp := List.find?_some hfirst
  exact ⟨List.mem_of_find?_eq_some hfirst, of_decide_eq_true hp⟩

theorem first?_eq_none_iff {table : Table key} : table.first? p = none ↔ ¬ table.Any p := by
  simp [first?, Any]

theorem matching_eq_zero_iff {table : Table key} : table.matching p = 0 ↔ ¬ table.Any p := by
  rw [← matching_pos_iff]
  omega

theorem matching_le_of_imp {table : Table key} {q : ρ → Prop} [DecidablePred q]
    (himp : ∀ row, p row → q row) : table.matching p ≤ table.matching q := by
  refine (List.monotone_filter_right _ ?_).length_le
  intro row hrow
  exact decide_eq_true (himp row (of_decide_eq_true hrow))

/-- The first match is the only one in every order exactly if there are no two. -/
theorem first?_only_iff {table : Table key} :
    (∀ row, table.first? p = some row → table.Only p (key row)) ↔ table.matching p ≤ 1 := by
  cases hfirst : table.first? p with
  | none =>
      have hzero := matching_eq_zero_iff.mpr (first?_eq_none_iff.mp hfirst)
      rw [hzero]
      simp
  | some row =>
      obtain ⟨hrow, hp⟩ := mem_of_first? hfirst
      rw [← only_iff_matching_le_one hrow hp]
      constructor
      · intro hall
        exact hall row rfl
      · rintro honly _ heq
        cases heq
        exact honly

end Relational.Table
