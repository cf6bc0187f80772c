import Mathlib.Data.List.Sort
import Mathlib.Data.Prod.Lex
import Mathlib.Data.String.Basic

/-!
# Pages of an ordered read

`ORDER BY k LIMIT n` reads the first rows of a sorted list.  Where the sort key keeps the
rows apart, a row is on the page exactly if fewer than `n` rows come before it, and the page
of the newest rows is cut out of the reversed list.
-/

namespace Relational

universe u v

variable {ρ : Type u} {κ : Type v} [LinearOrder κ] {k : ρ → κ}

/-- `ORDER BY k ASC`. -/
def ascending (k : ρ → κ) (rows : List ρ) : List ρ :=
  rows.insertionSort (fun left right => k left ≤ k right)

/-- `ORDER BY k DESC`. -/
def descending (k : ρ → κ) (rows : List ρ) : List ρ :=
  rows.insertionSort (fun left right => k right ≤ k left)

/-- The rows after the `offset` first ones, at most `limit` of them. -/
def window (limit offset : Nat) (rows : List ρ) : List ρ :=
  (rows.drop offset).take limit

instance total_ascending : Std.Total (fun left right : ρ => k left ≤ k right) :=
  ⟨fun left right => le_total (k left) (k right)⟩

instance trans_ascending : IsTrans ρ (fun left right : ρ => k left ≤ k right) :=
  ⟨fun _ _ _ hfirst hsecond => le_trans hfirst hsecond⟩

instance total_descending : Std.Total (fun left right : ρ => k right ≤ k left) :=
  ⟨fun left right => le_total (k right) (k left)⟩

instance trans_descending : IsTrans ρ (fun left right : ρ => k right ≤ k left) :=
  ⟨fun _ _ _ hfirst hsecond => le_trans hsecond hfirst⟩

theorem ascending_perm (rows : List ρ) : (ascending k rows).Perm rows :=
  List.perm_insertionSort _ rows

theorem descending_perm (rows : List ρ) : (descending k rows).Perm rows :=
  List.perm_insertionSort _ rows

@[simp] theorem mem_ascending {rows : List ρ} {row : ρ} :
    row ∈ ascending k rows ↔ row ∈ rows :=
  (ascending_perm rows).mem_iff

@[simp] theorem length_ascending (rows : List ρ) : (ascending k rows).length = rows.length :=
  (ascending_perm rows).length_eq

/-! ## Strict order -/

theorem pairwise_lt_ascending {rows : List ρ} (hkeys : (rows.map k).Nodup) :
    (ascending k rows).Pairwise fun left right => k left < k right := by
  have hsorted : (ascending k rows).Pairwise fun left right => k left ≤ k right :=
    List.pairwise_insertionSort _ rows
  have hapart : (ascending k rows).Pairwise fun left right => k left ≠ k right :=
    List.pairwise_map.mp ((((ascending_perm rows).map k).nodup_iff).mpr hkeys)
  exact hsorted.imp₂ (fun _ _ hle hne => lt_of_le_of_ne hle hne) hapart

/-- Strictly sorted lists of the same rows are equal. -/
theorem eq_of_pairwise_lt {left right : List ρ}
    (hleft : left.Pairwise fun a b => k a < k b) (hright : right.Pairwise fun a b => k a < k b)
    (hmem : ∀ row, row ∈ left ↔ row ∈ right) : left = right := by
  have hnodup : ∀ rows : List ρ, (rows.Pairwise fun a b => k a < k b) → rows.Nodup := by
    intro rows hrows
    refine hrows.imp ?_
    rintro a b hlt rfl
    exact lt_irrefl _ hlt
  have hperm : left.Perm right :=
    (List.perm_ext_iff_of_nodup (hnodup left hleft) (hnodup right hright)).mpr hmem
  exact hperm.eq_of_pairwise (fun a b _ _ hab hba => absurd hab (lt_asymm hba)) hleft hright

theorem descending_eq_reverse {rows : List ρ} (hkeys : (rows.map k).Nodup) :
    descending k rows = (ascending k rows).reverse := by
  have hreversed : (descending k rows).reverse.Pairwise fun left right => k left ≤ k right :=
    List.pairwise_reverse.mpr (List.pairwise_insertionSort _ rows)
  have hperm : (descending k rows).reverse.Perm rows :=
    (List.reverse_perm _).trans (descending_perm rows)
  have hapart : (descending k rows).reverse.Pairwise fun left right => k left ≠ k right :=
    List.pairwise_map.mp (((hperm.map k).nodup_iff).mpr hkeys)
  have hstrict := hreversed.imp₂ (fun _ _ hle hne => lt_of_le_of_ne hle hne) hapart
  have heq : (descending k rows).reverse = ascending k rows :=
    eq_of_pairwise_lt hstrict (pairwise_lt_ascending hkeys)
      (fun row => by rw [hperm.mem_iff, mem_ascending])
  rw [← heq, List.reverse_reverse]

/-! ## Ranks -/

/-- How many of the rows come before `row`. -/
def rank (k : ρ → κ) (rows : List ρ) (row : ρ) : Nat :=
  (rows.filter (fun other => decide (k other < k row))).length

theorem rank_perm {left right : List ρ} (hperm : left.Perm right) (row : ρ) :
    rank k left row = rank k right row :=
  (hperm.filter _).length_eq

/-- A row is among the first `n` exactly if fewer than `n` rows come before it. -/
theorem mem_take_iff_rank {rows : List ρ} (hrows : rows.Pairwise fun a b => k a < k b)
    {n : Nat} {row : ρ} : row ∈ rows.take n ↔ row ∈ rows ∧ rank k rows row < n := by
  induction rows generalizing n with
  | nil => simp
  | cons head rest ih =>
      obtain ⟨hhead, hrest⟩ := List.pairwise_cons.mp hrows
      cases n with
      | zero => simp
      | succ n =>
          rw [List.take_succ_cons, List.mem_cons, List.mem_cons, ih hrest]
          have hcons : ∀ other, rank k (head :: rest) other =
              (if k head < k other then 1 else 0) + rank k rest other := by
            intro other
            rw [rank, List.filter_cons]
            by_cases hlt : k head < k other
            · simp only [hlt, decide_true, if_true, List.length_cons, rank]
              omega
            · simp only [hlt, decide_false, Bool.false_eq_true, if_false, rank]
              omega
          have hfirst : rank k rest head = 0 := by
            rw [rank, List.length_eq_zero_iff, List.filter_eq_nil_iff]
            intro other hother
            simpa using le_of_lt (hhead other hother)
          constructor
          · rintro (rfl | ⟨hmem, hrank⟩)
            · refine ⟨Or.inl rfl, ?_⟩
              rw [hcons, hfirst, if_neg (lt_irrefl _)]
              omega
            · refine ⟨Or.inr hmem, ?_⟩
              rw [hcons, if_pos (hhead row hmem)]
              omega
          · rintro ⟨rfl | hmem, hrank⟩
            · exact Or.inl rfl
            · rw [hcons, if_pos (hhead row hmem)] at hrank
              exact Or.inr ⟨hmem, by omega⟩

/-! ## Windows from the end -/

/-- The slice `start..end` counted from the end of the list is the window counted from its
last row. -/
theorem slice_eq_window (rows : List ρ) (limit offset : Nat) :
    (rows.take (rows.length - offset)).drop (rows.length - (limit + offset)) =
      (window limit offset rows.reverse).reverse := by
  rw [window, List.drop_reverse, List.take_reverse, List.reverse_reverse, List.length_take]
  congr 1
  omega

/-- The row at the front of a window is not among the later rows of the list, so a list
without its first row has another window there. -/
theorem window_ne_of_drop_head {head : ρ} {rows left : List ρ} (hnodup : (head :: rows).Nodup)
    (hleft : left.Sublist rows) {limit offset : Nat} (hlimit : limit ≠ 0)
    (hoffset : offset < (head :: rows).length) :
    window limit offset left ≠ window limit offset (head :: rows) := by
  intro heq
  have hsplit : (head :: rows).drop offset = (head :: rows)[offset] :: rows.drop offset := by
    rw [List.drop_eq_getElem_cons hoffset, List.drop_succ_cons]
  have hfront : (head :: rows)[offset] ∈ window limit offset left := by
    obtain ⟨rest, rfl⟩ := Nat.exists_eq_succ_of_ne_zero hlimit
    rw [heq, window, hsplit, List.take_succ_cons]
    exact List.mem_cons_self
  have hlater : (head :: rows)[offset] ∈ rows.drop offset :=
    (hleft.drop offset).subset (List.mem_of_mem_take hfront)
  have hdropped : ((head :: rows).drop offset).Nodup :=
    (List.drop_sublist offset _).nodup hnodup
  rw [hsplit] at hdropped
  exact (List.nodup_cons.mp hdropped).1 hlater

/-- Rows that are missing from a list leave a window of it as it is exactly if none of them
stands in front of the window or inside it. -/
theorem window_filter_iff {rows : List ρ} (hnodup : rows.Nodup) (keeps : ρ → Bool)
    (limit offset : Nat) :
    window limit offset (rows.filter keeps) = window limit offset rows ↔
      limit = 0 ∨ rows.length ≤ offset ∨
        ∀ row ∈ rows.take (offset + limit), keeps row = true := by
  induction rows generalizing limit offset with
  | nil => simp [window]
  | cons head rest ih =>
      have hrest := (List.nodup_cons.mp hnodup).2
      by_cases hkeep : keeps head = true
      · rw [List.filter_cons_of_pos hkeep]
        cases offset with
        | succ offset =>
            rw [Nat.succ_add]
            simpa [window, hkeep] using ih hrest limit offset
        | zero =>
            cases limit with
            | zero => simp [window]
            | succ limit =>
                have hinner := ih hrest limit 0
                simp only [window, List.drop_zero, Nat.zero_add, List.length_eq_zero_iff,
                  Nat.le_zero_eq] at hinner
                simp only [window, List.drop_zero, Nat.zero_add, List.take_succ_cons,
                  List.cons.injEq, true_and, List.forall_mem_cons, hkeep, List.length_cons,
                  Nat.le_zero_eq, Nat.succ_ne_zero, false_or, hinner]
                constructor
                · rintro (rfl | rfl | hall)
                  · simp
                  · simp
                  · exact hall
                · exact fun hall => Or.inr (Or.inr hall)
      -- A head that is dropped moves every later row forward.
      · rw [List.filter_cons_of_neg hkeep]
        constructor
        · intro heq
          by_contra hnot
          simp only [not_or, not_le] at hnot
          exact window_ne_of_drop_head hnodup List.filter_sublist hnot.1 hnot.2.1 heq
        · rintro (rfl | hlength | hall)
          · simp [window]
          · have hshort : (rest.filter keeps).length ≤ rest.length := List.length_filter_le _ _
            have hcons : (head :: rest).length = rest.length + 1 := rfl
            rw [window, window, List.drop_eq_nil_of_le (by omega),
              List.drop_eq_nil_of_le hlength]
          · cases hspan : offset + limit with
            | zero =>
                have hlimit : limit = 0 := by omega
                simp [window, hlimit]
            | succ span =>
                rw [hspan, List.take_succ_cons] at hall
                exact absurd (hall head List.mem_cons_self) hkeep

end Relational
