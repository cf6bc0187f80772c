import Mathlib.Data.List.Sort

/-!
# Ordered reads

`ORDER BY` and `sort_by` are stable sorts.  A condition selects the same rows in the same
order before and after a sort, and rows that one sort leaves equal keep the order that an
earlier sort has given them.
-/

namespace Relational

universe u

variable {ρ : Type u} {r : ρ → ρ → Prop} [DecidableRel r]

theorem filter_orderedInsert [IsTrans ρ r] (p : ρ → Bool) (a : ρ) {rows : List ρ}
    (hsorted : rows.Pairwise r) :
    (rows.orderedInsert r a).filter p =
      if p a = true then (rows.filter p).orderedInsert r a else rows.filter p := by
  induction rows with
  | nil => simp [List.filter_cons]
  | cons b rows ih =>
      obtain ⟨hb, hrows⟩ := List.pairwise_cons.mp hsorted
      rw [List.orderedInsert_cons]
      by_cases hab : r a b
      · rw [if_pos hab, List.filter_cons]
        by_cases ha : p a = true
        · rw [if_pos ha, if_pos ha]
          -- the new row stands before all rows that are left
          have hfirst : ∀ c ∈ (b :: rows).filter p, r a c := by
            intro c hc
            rcases List.mem_cons.mp (List.mem_of_mem_filter hc) with rfl | hmem
            · exact hab
            · exact IsTrans.trans a b c hab (hb c hmem)
          cases hrest : (b :: rows).filter p with
          | nil => rfl
          | cons c rest =>
              rw [List.orderedInsert_cons, if_pos (hfirst c (by rw [hrest]; exact List.mem_cons_self))]
        · rw [if_neg ha, if_neg ha]
      · rw [if_neg hab, List.filter_cons, ih hrows, List.filter_cons]
        by_cases ha : p a = true
        · by_cases hpb : p b = true
          · rw [if_pos hpb, if_pos hpb, if_pos ha, if_pos ha, List.orderedInsert_cons, if_neg hab]
          · rw [if_neg hpb, if_neg hpb, if_pos ha]
        · rw [if_neg ha, if_neg ha]

theorem filter_insertionSort [IsTrans ρ r] [Std.Total r] (p : ρ → Bool) (rows : List ρ) :
    (rows.insertionSort r).filter p = (rows.filter p).insertionSort r := by
  induction rows with
  | nil => rfl
  | cons a rows ih =>
      rw [List.insertionSort_cons, filter_orderedInsert p a (List.pairwise_insertionSort r rows),
        ih, List.filter_cons]
      split_ifs
      · rw [List.insertionSort_cons]
      · rfl

/-- The new row keeps its place among the rows that are equal to it. -/
theorem pairwise_orderedInsert [Std.Total r] [IsTrans ρ r] {s : ρ → ρ → Prop} {a : ρ}
    {rows : List ρ} (hsorted : rows.Pairwise fun b c => r b c ∧ (r c b → s b c))
    (hnew : ∀ b ∈ rows, s a b) :
    (rows.orderedInsert r a).Pairwise fun b c => r b c ∧ (r c b → s b c) := by
  induction rows with
  | nil => exact List.pairwise_singleton _ _
  | cons b rows ih =>
      obtain ⟨hb, hrows⟩ := List.pairwise_cons.mp hsorted
      rw [List.orderedInsert_cons]
      by_cases hab : r a b
      · rw [if_pos hab]
        refine List.pairwise_cons.mpr ⟨?_, hsorted⟩
        intro c hc
        refine ⟨?_, fun _ => hnew c hc⟩
        rcases List.mem_cons.mp hc with rfl | hmem
        · exact hab
        · exact IsTrans.trans a b c hab (hb c hmem).1
      · rw [if_neg hab]
        refine List.pairwise_cons.mpr
          ⟨?_, ih hrows (fun c hc => hnew c (List.mem_cons_of_mem b hc))⟩
        intro c hc
        rcases (List.mem_orderedInsert r).mp hc with rfl | hmem
        · exact ⟨(total_of r c b).resolve_left hab, fun hcb => absurd hcb hab⟩
        · exact hb c hmem

/-- A sort orders by its own relation first and by the order of its input second. -/
theorem pairwise_insertionSort [Std.Total r] [IsTrans ρ r] {s : ρ → ρ → Prop} {rows : List ρ}
    (hrows : rows.Pairwise s) :
    (rows.insertionSort r).Pairwise fun b c => r b c ∧ (r c b → s b c) := by
  induction rows with
  | nil => exact List.Pairwise.nil
  | cons a rows ih =>
      obtain ⟨ha, hrest⟩ := List.pairwise_cons.mp hrows
      rw [List.insertionSort_cons]
      exact pairwise_orderedInsert (ih hrest)
        (fun b hb => ha b ((List.mem_insertionSort r).mp hb))

end Relational
