import Mosaico.Relational.Table

/-!
# Versioned rows under fencing epochs

A row carries a version, which every write raises, and the epoch of the writer.
A write advances a table when the epochs it records are among the allowed ones
of its key; what advances twice advances.  Writers that are only allowed epochs
at or above those already recorded then never move an epoch backwards.
-/

namespace Relational

open Table

universe u v

variable {ρ : Type u} {κ : Type v}

/-- What a write may do to the row of one key: keep it, insert one with an
allowed epoch, or raise its version and keep its epoch or record an allowed
one. -/
inductive Advance (version epoch : ρ → Nat) (allowed : Nat → Prop) :
    Option ρ → Option ρ → Prop
  | kept (row : Option ρ) : Advance version epoch allowed row row
  | inserted (next : ρ) (hallowed : allowed (epoch next)) :
      Advance version epoch allowed none (some next)
  | written (row next : ρ) (hversion : version row < version next)
      (hepoch : epoch next = epoch row ∨ allowed (epoch next)) :
      Advance version epoch allowed (some row) (some next)

namespace Advance

variable {version epoch : ρ → Nat} {allowed : Nat → Prop}

theorem trans {first second third : Option ρ}
    (hfirst : Advance version epoch allowed first second)
    (hsecond : Advance version epoch allowed second third) :
    Advance version epoch allowed first third := by
  cases hfirst with
  | kept => exact hsecond
  | inserted middle hmiddle =>
      cases hsecond with
      | kept => exact .inserted middle hmiddle
      | written _ next hversion hepoch =>
          rcases hepoch with hsame | hallowed
          · exact .inserted next (hsame ▸ hmiddle)
          · exact .inserted next hallowed
  | written row middle hversion hepoch =>
      cases hsecond with
      | kept => exact .written row middle hversion hepoch
      | written _ next hversion' hepoch' =>
          refine .written row next (Nat.lt_trans hversion hversion') ?_
          rcases hepoch' with hsame | hallowed
          · rcases hepoch with hfirstSame | hfirstAllowed
            · exact Or.inl (hsame.trans hfirstSame)
            · exact Or.inr (hsame ▸ hfirstAllowed)
          · exact Or.inr hallowed

/-- A row that advances is kept or has a higher version, and its epoch falls
only if a lower one is allowed. -/
theorem fenced {before after : Option ρ} {row : ρ}
    (hadvance : Advance version epoch allowed before after) (hrow : before = some row)
    (hallowed : ∀ value, allowed value → epoch row ≤ value) :
    ∃ next, after = some next ∧ epoch row ≤ epoch next ∧
      (next = row ∨ version row < version next) := by
  cases hadvance with
  | kept => exact ⟨row, hrow, Nat.le_refl _, Or.inl rfl⟩
  | inserted next hnext => cases hrow
  | written old next hversion hepoch =>
      cases hrow
      refine ⟨next, rfl, ?_, Or.inr hversion⟩
      rcases hepoch with hsame | hnext
      · exact Nat.le_of_eq hsame.symm
      · exact hallowed _ hnext

end Advance

variable {key : ρ → κ} [DecidableEq κ]

/-- Every key of the table advances. -/
def Advances (version epoch : ρ → Nat) (allowed : κ → Nat → Prop) (before after : Table key) :
    Prop :=
  ∀ k, Advance version epoch (allowed k) (before.find? k) (after.find? k)

namespace Advances

variable {version epoch : ρ → Nat} {allowed : κ → Nat → Prop} {before after : Table key}

theorem refl (table : Table key) : Advances version epoch allowed table table :=
  fun _ => .kept _

theorem of_eq (heq : after = before) : Advances version epoch allowed before after := by
  subst heq
  exact refl after

theorem trans {middle : Table key} (hfirst : Advances version epoch allowed before middle)
    (hsecond : Advances version epoch allowed middle after) :
    Advances version epoch allowed before after :=
  fun k => (hfirst k).trans (hsecond k)

theorem updateWhere {table : Table key} {p : ρ → Prop} [DecidablePred p] {f : ρ → ρ}
    {hkey : ∀ row, key (f row) = key row}
    (hversion : ∀ row, p row → version row < version (f row))
    (hepoch : ∀ row, p row → epoch (f row) = epoch row ∨ allowed (key row) (epoch (f row))) :
    Advances version epoch allowed table (table.updateWhere p f hkey) := by
  intro k
  rw [find?_updateWhere]
  cases hrow : table.find? k with
  | none => exact .kept none
  | some row =>
      by_cases hp : p row
      · rw [Option.map_some, if_pos hp]
        exact .written row (f row) (hversion row hp) (key_of_find? hrow ▸ hepoch row hp)
      · rw [Option.map_some, if_neg hp]
        exact .kept (some row)

theorem upsert {table : Table key} {row : ρ} {merge : ρ → ρ}
    {hkey : ∀ old, key (merge old) = key old} (hinsert : allowed (key row) (epoch row))
    (hversion : ∀ old, version old < version (merge old))
    (hmerge : ∀ old, allowed (key row) (epoch (merge old))) :
    Advances version epoch allowed table (table.upsert row merge hkey) := by
  intro k
  rw [find?_upsert]
  by_cases hk : k = key row
  · rw [if_pos hk]
    subst hk
    cases table.find? (key row) with
    | none => exact .inserted row hinsert
    | some old => exact .written old (merge old) (hversion old) (Or.inr (hmerge old))
  · rw [if_neg hk]
    exact .kept _

theorem insertOrIgnore {table : Table key} {row : ρ} (hinsert : allowed (key row) (epoch row)) :
    Advances version epoch allowed table (table.insertOrIgnore row) := by
  intro k
  rw [find?_insertOrIgnore]
  by_cases hk : k = key row
  · rw [if_pos hk]
    subst hk
    cases table.find? (key row) with
    | none => exact .inserted row hinsert
    | some old => exact .kept (some old)
  · rw [if_neg hk]
    exact .kept _

theorem insertAllOrIgnore {table : Table key} {candidates : List ρ}
    (hinsert : ∀ row ∈ candidates, allowed (key row) (epoch row)) :
    Advances version epoch allowed table (table.insertAllOrIgnore candidates) := by
  induction candidates generalizing table with
  | nil => exact refl table
  | cons head tail ih =>
      have hhead : Advances version epoch allowed table (table.insertOrIgnore head) :=
        insertOrIgnore (hinsert head List.mem_cons_self)
      exact hhead.trans (ih (fun row hrow => hinsert row (List.mem_cons_of_mem head hrow)))

end Advances

end Relational
