import Mathlib.Data.Finset.Sort

/-!
# Edits between finite sets

The edits that bring one finite set to another: what is missing is added and what is
superfluous is removed, each in the order of the keys.  The edits that are left after some
of them were applied are the edits of the set that is reached, so that a run which stops
halfway is taken up where it stopped.
-/

namespace Diff

universe u

variable {κ : Type u} [LinearOrder κ]

/-- A change of one key. -/
inductive Edit (κ : Type u) where
  | add (key : κ)
  | remove (key : κ)
  deriving DecidableEq

def Edit.apply (current : Finset κ) : Edit κ → Finset κ
  | .add key => insert key current
  | .remove key => current.erase key

/-- The edits from one set to another. -/
def edits (current desired : Finset κ) : List (Edit κ) :=
  (desired \ current).sort.map .add ++ (current \ desired).sort.map .remove

/-- Apply edits in order. -/
def applyAll (current : Finset κ) (changes : List (Edit κ)) : Finset κ :=
  changes.foldl Edit.apply current

@[simp] theorem applyAll_nil (current : Finset κ) : applyAll current [] = current := rfl

@[simp] theorem applyAll_cons (current : Finset κ) (change : Edit κ) (rest : List (Edit κ)) :
    applyAll current (change :: rest) = applyAll (change.apply current) rest := rfl

theorem add_mem_edits {current desired : Finset κ} {key : κ} :
    .add key ∈ edits current desired ↔ key ∈ desired ∧ key ∉ current := by
  simp [edits]

theorem remove_mem_edits {current desired : Finset κ} {key : κ} :
    .remove key ∈ edits current desired ↔ key ∈ current ∧ key ∉ desired := by
  simp [edits]

theorem length_edits (current desired : Finset κ) :
    (edits current desired).length = (desired \ current).card + (current \ desired).card := by
  simp [edits]

/-- Without its least key a set is listed by the rest. -/
theorem sort_erase_head {keys : Finset κ} {key : κ} {rest : List κ}
    (hsort : keys.sort = key :: rest) : (keys.erase key).sort = rest := by
  have hsorted := keys.sortedLT_sort
  rw [hsort] at hsorted
  have hnodup : (key :: rest).Nodup := hsort ▸ keys.sort_nodup _
  have hrest : rest.SortedLT := (List.pairwise_cons.mp hsorted.pairwise).2.sortedLT
  refine (keys.erase key).sortedLT_sort.eq_of_mem_iff hrest ?_
  intro other
  have hmem : other ∈ keys ↔ other ∈ key :: rest := by
    rw [← hsort, Finset.mem_sort]
  rw [Finset.mem_sort, Finset.mem_erase, hmem, List.mem_cons]
  constructor
  · rintro ⟨hne, heq | hother⟩
    · exact absurd heq hne
    · exact hother
  · intro hother
    refine ⟨?_, Or.inr hother⟩
    rintro rfl
    exact (List.nodup_cons.mp hnodup).1 hother

/-- After its first edit the rest is left. -/
theorem edits_apply {current desired : Finset κ} {change : Edit κ} {rest : List (Edit κ)}
    (hedits : edits current desired = change :: rest) :
    edits (change.apply current) desired = rest := by
  unfold edits at hedits ⊢
  cases hmissing : (desired \ current).sort with
  | cons key keys =>
      rw [hmissing, List.map_cons, List.cons_append, List.cons.injEq] at hedits
      obtain ⟨rfl, rfl⟩ := hedits
      have hkey : key ∈ desired := by
        have hmem : key ∈ (desired \ current).sort := by
          rw [hmissing]
          exact List.mem_cons_self
        exact (Finset.mem_sdiff.mp ((Finset.mem_sort _).mp hmem)).1
      -- The added key leaves the missing ones and is not superfluous.
      have hleft : desired \ insert key current = (desired \ current).erase key := by
        rw [Finset.sdiff_insert]
      have hright : insert key current \ desired = current \ desired :=
        Finset.insert_sdiff_of_mem current hkey
      rw [Edit.apply, hleft, hright, sort_erase_head hmissing]
  -- Everything desired is there, so the next edit removes a key.
  | nil =>
      have hcovered : desired \ current = ∅ := by
        rw [← Finset.sort_toFinset (desired \ current) (· ≤ ·), hmissing]
        rfl
      rw [hmissing, List.map_nil, List.nil_append] at hedits
      cases hsuperfluous : (current \ desired).sort with
      | nil =>
          rw [hsuperfluous] at hedits
          cases hedits
      | cons key keys =>
          rw [hsuperfluous, List.map_cons, List.cons.injEq] at hedits
          obtain ⟨rfl, rfl⟩ := hedits
          have hkey : key ∉ desired := by
            have hmem : key ∈ (current \ desired).sort := by
              rw [hsuperfluous]
              exact List.mem_cons_self
            exact (Finset.mem_sdiff.mp ((Finset.mem_sort _).mp hmem)).2
          have hleft : desired \ current.erase key = ∅ := by
            ext other
            have hother : other ∉ desired \ current := by
              rw [hcovered]
              exact Finset.notMem_empty other
            simp only [Finset.mem_sdiff, Finset.mem_erase, Finset.notMem_empty, iff_false,
              not_and, not_not] at hother ⊢
            intro hdesired hkept
            refine hkept ?_ (hother hdesired)
            rintro rfl
            exact hkey hdesired
          have hright : current.erase key \ desired = (current \ desired).erase key :=
            Finset.erase_sdiff_comm current desired key
          rw [Edit.apply, hleft, hright, sort_erase_head hsuperfluous, Finset.sort_empty]
          rfl

/-- The edits that are left after some of them are those of the set that was reached. -/
theorem edits_applyAll_take (current desired : Finset κ) (count : Nat) :
    edits (applyAll current ((edits current desired).take count)) desired =
      (edits current desired).drop count := by
  induction count generalizing current with
  | zero => rfl
  | succ count ih =>
      cases hedits : edits current desired with
      | nil => simpa using hedits
      | cons change rest =>
          have hrest := edits_apply hedits
          rw [List.take_succ_cons, applyAll_cons, List.drop_succ_cons, ← hrest]
          exact ih (change.apply current)

/-- Some of the edits add nothing but what is desired. -/
theorem mem_applyAll_edits_take {current desired : Finset κ} {count : Nat} {key : κ}
    (hkey : key ∈ applyAll current ((edits current desired).take count)) :
    key ∈ current ∨ key ∈ desired := by
  have hadds : ∀ other, .add other ∈ (edits current desired).take count → other ∈ desired :=
    fun other hother => (add_mem_edits.mp (List.mem_of_mem_take hother)).1
  generalize (edits current desired).take count = changes at hkey hadds
  induction changes generalizing current with
  | nil => exact Or.inl hkey
  | cons change rest ih =>
      have hrest := ih hkey (fun other hother => hadds other (List.mem_cons_of_mem _ hother))
      rcases hrest with happlied | hdesired
      · cases change with
        | add other =>
            rcases Finset.mem_insert.mp happlied with rfl | hcurrent
            · exact Or.inr (hadds key List.mem_cons_self)
            · exact Or.inl hcurrent
        | remove other => exact Or.inl (Finset.mem_of_mem_erase happlied)
      · exact Or.inr hdesired

/-- Without edits the set is the desired one. -/
theorem edits_eq_nil_iff {current desired : Finset κ} :
    edits current desired = [] ↔ current = desired := by
  constructor
  · intro hnil
    ext key
    constructor
    · intro hcurrent
      by_contra hdesired
      have hmem := remove_mem_edits.mpr ⟨hcurrent, hdesired⟩
      rw [hnil] at hmem
      cases hmem
    · intro hdesired
      by_contra hcurrent
      have hmem := add_mem_edits.mpr ⟨hdesired, hcurrent⟩
      rw [hnil] at hmem
      cases hmem
  · rintro rfl
    simp [edits]

/-- All edits together reach the desired set. -/
theorem applyAll_edits (current desired : Finset κ) :
    applyAll current (edits current desired) = desired := by
  have hleft := edits_applyAll_take current desired (edits current desired).length
  rw [List.take_length, List.drop_length] at hleft
  exact edits_eq_nil_iff.mp hleft

end Diff
