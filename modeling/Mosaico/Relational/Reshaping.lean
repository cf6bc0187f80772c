import Mosaico.Relational.Table

/-!
# Reshaping a table

What a change of schema does with the rows of a table.  `INSERT INTO … SELECT` copies every
row into a table with other columns, a join copies the rows that have a partner, and
`DELETE … WHERE rowid NOT IN (SELECT MAX(rowid) … GROUP BY …)` keeps the last row of every
group.  The rows of a table stand in the order of their row ids.
-/

namespace Relational

universe u v w x

variable {ρ : Type u} {σ : Type w} {κ : Type v} {γ : Type x}

/-! ## The last row of every group -/

/-- The rows of the kind `p` are grouped, and only the last row of each group stays. -/
def lastOfGroups (p : ρ → Prop) [DecidablePred p] (group : ρ → γ) [DecidableEq γ] :
    List ρ → List ρ
  | [] => []
  | row :: rest =>
      if p row ∧ ∃ later ∈ rest, p later ∧ group later = group row then
        lastOfGroups p group rest
      else
        row :: lastOfGroups p group rest

section LastOfGroups

variable {p : ρ → Prop} [DecidablePred p] {group : ρ → γ} [DecidableEq γ] {rows : List ρ}

theorem lastOfGroups_sublist : (lastOfGroups p group rows).Sublist rows := by
  induction rows with
  | nil => exact List.Sublist.slnil
  | cons row rest ih =>
      rw [lastOfGroups]
      split_ifs with hlater
      · exact ih.cons row
      · exact ih.cons_cons row

/-- No group loses all its rows. -/
theorem exists_mem_lastOfGroups {row : ρ} (hrow : row ∈ rows) (hp : p row) :
    ∃ last ∈ lastOfGroups p group rows, p last ∧ group last = group row := by
  induction rows generalizing row with
  | nil => exact absurd hrow List.not_mem_nil
  | cons first rest ih =>
      have hrest : ∀ other ∈ rest, p other → group other = group row →
          ∃ last ∈ lastOfGroups p group rest, p last ∧ group last = group row := by
        intro other hother hpother hgroup
        rw [← hgroup]
        exact ih hother hpother
      rw [lastOfGroups]
      rcases List.mem_cons.mp hrow with rfl | hmem
      · split_ifs with hlater
        · -- the row goes because a later one of its group is there
          obtain ⟨_, later, hmem, hplater, hgroup⟩ := hlater
          exact hrest later hmem hplater hgroup
        · exact ⟨row, List.mem_cons_self, hp, rfl⟩
      · obtain ⟨last, hlast, hfound⟩ := hrest row hmem hp rfl
        split_ifs with hlater
        · exact ⟨last, hlast, hfound⟩
        · exact ⟨last, List.mem_cons_of_mem first hlast, hfound⟩

/-- Rows of other kinds stay. -/
theorem mem_lastOfGroups_of_not {row : ρ} (hrow : row ∈ rows) (hp : ¬ p row) :
    row ∈ lastOfGroups p group rows := by
  induction rows with
  | nil => exact absurd hrow List.not_mem_nil
  | cons first rest ih =>
      rw [lastOfGroups]
      rcases List.mem_cons.mp hrow with rfl | hmem
      · rw [if_neg (fun h => hp h.1)]
        exact List.mem_cons_self
      · split_ifs with hlater
        · exact ih hmem
        · exact List.mem_cons_of_mem first (ih hmem)

/-- Two rows of one group do not both stay. -/
theorem eq_of_mem_lastOfGroups {left right : ρ} (hleft : left ∈ lastOfGroups p group rows)
    (hright : right ∈ lastOfGroups p group rows) (hpleft : p left) (hpright : p right)
    (hgroup : group left = group right) : left = right := by
  induction rows with
  | nil => exact absurd hleft List.not_mem_nil
  | cons row rest ih =>
      rw [lastOfGroups] at hleft hright
      split_ifs at hleft hright with hlater
      · exact ih hleft hright
      · -- a later row of the group of `row` contradicts that `row` stays
        have hfirst : p row → ∀ other ∈ lastOfGroups p group rest, p other →
            group other ≠ group row := by
          intro hp other hother hpother hsame
          exact hlater ⟨hp, other, lastOfGroups_sublist.subset hother, hpother, hsame⟩
        rcases List.mem_cons.mp hleft with rfl | hmem
        · rcases List.mem_cons.mp hright with rfl | hright
          · rfl
          · exact absurd hgroup.symm (hfirst hpleft right hright hpright)
        · rcases List.mem_cons.mp hright with rfl | hright
          · exact absurd hgroup (hfirst hpright left hmem hpleft)
          · exact ih hmem hright

/-- An assignment that leaves kinds and groups alone can be made before or afterwards. -/
theorem lastOfGroups_map {q : σ → Prop} [DecidablePred q] {group' : σ → γ} (f : ρ → σ)
    (hq : ∀ row, q (f row) ↔ p row) (hgroup : ∀ row, group' (f row) = group row) :
    lastOfGroups q group' (rows.map f) = (lastOfGroups p group rows).map f := by
  induction rows with
  | nil => rfl
  | cons row rest ih =>
      have hlater : (∃ later ∈ rest.map f, q later ∧ group' later = group' (f row)) ↔
          ∃ later ∈ rest, p later ∧ group later = group row := by
        constructor
        · rintro ⟨_, hmapped, hlater⟩
          obtain ⟨later, hmem, rfl⟩ := List.mem_map.mp hmapped
          rw [hq, hgroup, hgroup] at hlater
          exact ⟨later, hmem, hlater⟩
        · rintro ⟨later, hmem, hlater⟩
          refine ⟨f later, List.mem_map_of_mem hmem, ?_⟩
          rw [hq, hgroup, hgroup]
          exact hlater
      rw [List.map_cons, lastOfGroups, lastOfGroups, ih]
      simp only [hlater, hq]
      split_ifs
      · rfl
      · rfl

end LastOfGroups

namespace Table

variable {key : ρ → κ} {key' : σ → κ}

/-! ## Copies -/

/-- `INSERT INTO … SELECT … FROM table`, every row under the key it has. -/
def copy (table : Table key) (f : ρ → σ) (hkey : ∀ row, key' (f row) = key row) : Table key' where
  rows := table.rows.map f
  keysNodup := by
    have hkeys : (table.rows.map f).map key' = table.rows.map key := by
      rw [List.map_map]
      exact List.map_congr_left (fun row _ => hkey row)
    rw [hkeys]
    exact table.keysNodup

theorem find?_copy [DecidableEq κ] (table : Table key) (f : ρ → σ)
    (hkey : ∀ row, key' (f row) = key row) (k : κ) :
    (table.copy f hkey).find? k = (table.find? k).map f := by
  simp only [find?, copy, List.find?_map]
  congr 1
  apply congrArg (fun test => List.find? test table.rows)
  funext row
  simp [hkey]

theorem keys_filterMap_sublist {rows : List ρ} {f : ρ → Option σ}
    (hkey : ∀ row out, f row = some out → key' out = key row) :
    ((rows.filterMap f).map key').Sublist (rows.map key) := by
  induction rows with
  | nil => exact List.Sublist.slnil
  | cons row rest ih =>
      cases hout : f row with
      | none =>
          rw [List.filterMap_cons_none hout, List.map_cons]
          exact ih.cons (key row)
      | some out =>
          rw [List.filterMap_cons_some hout, List.map_cons, List.map_cons, hkey row out hout]
          exact ih.cons_cons (key row)

/-- `INSERT INTO … SELECT … FROM table JOIN …`: the rows that have a partner, each under the
key it has. -/
def copyJoined (table : Table key) (f : ρ → Option σ)
    (hkey : ∀ row out, f row = some out → key' out = key row) : Table key' where
  rows := table.rows.filterMap f
  keysNodup := (keys_filterMap_sublist hkey).nodup table.keysNodup

/-! ## Superseded rows -/

/-- `DELETE … WHERE p AND rowid NOT IN (SELECT MAX(rowid) … WHERE p GROUP BY group)`. -/
def deleteSuperseded (table : Table key) (p : ρ → Prop) [DecidablePred p] (group : ρ → γ)
    [DecidableEq γ] : Table key where
  rows := lastOfGroups p group table.rows
  keysNodup := (lastOfGroups_sublist.map key).nodup table.keysNodup

end Table

end Relational
