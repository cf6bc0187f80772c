import Mathlib.Data.List.Induction
import Mosaico.Transition.Run

/-!
# The latest of a list of deliveries

Deliveries carry a time and arrive in any order, some of them repeatedly.  The
latest one is held by a register that replaces its content whenever a delivery is
not older.  When deliveries of one time are the same delivery, the register holds
the delivery with the greatest time, whatever the order was.

A register inside a larger state may refuse a delivery for a reason outside of it.
It still ends with the latest delivery exactly when that one was accepted at one of
its arrivals.
-/

namespace Register

universe u

variable {ε : Type u} {time : ε → Nat}

/-- The content of the register after a delivery. -/
def replace (time : ε → Nat) (held : Option ε) (next : ε) : Option ε :=
  match held with
  | none => some next
  | some current => if time current ≤ time next then some next else some current

/-- The content of the register after a list of deliveries, in arrival order. -/
def latest (time : ε → Nat) (deliveries : List ε) : Option ε :=
  deliveries.foldl (replace time) none

/-- Deliveries of one time are repetitions of one delivery. -/
def Consistent (time : ε → Nat) (deliveries : List ε) : Prop :=
  ∀ first ∈ deliveries, ∀ second ∈ deliveries, time first = time second → first = second

theorem Consistent.of_sublist {part deliveries : List ε} (hconsistent : Consistent time deliveries)
    (hpart : ∀ delivery ∈ part, delivery ∈ deliveries) : Consistent time part :=
  fun first hfirst second hsecond htime =>
    hconsistent first (hpart first hfirst) second (hpart second hsecond) htime

@[simp] theorem latest_nil : latest time [] = none := rfl

theorem latest_concat (deliveries : List ε) (next : ε) :
    latest time (deliveries ++ [next]) = replace time (latest time deliveries) next := by
  simp [latest, List.foldl_append]

@[simp] theorem latest_eq_none_iff {deliveries : List ε} :
    latest time deliveries = none ↔ deliveries = [] := by
  induction deliveries using List.reverseRecOn with
  | nil => simp
  | append_singleton earlier next ih =>
      rw [latest_concat]
      unfold replace
      split
      · simp
      · split <;> simp

theorem mem_of_latest {deliveries : List ε} {held : ε}
    (hheld : latest time deliveries = some held) : held ∈ deliveries := by
  induction deliveries using List.reverseRecOn with
  | nil => cases hheld
  | append_singleton earlier next ih =>
      rw [latest_concat] at hheld
      unfold replace at hheld
      split at hheld
      · cases hheld
        simp
      · rename_i current hcurrent
        split at hheld
        · cases hheld
          simp
        · rw [← hcurrent] at hheld
          exact List.mem_append_left _ (ih hheld)

theorem le_of_latest {deliveries : List ε} {held : ε}
    (hheld : latest time deliveries = some held) :
    ∀ delivery ∈ deliveries, time delivery ≤ time held := by
  induction deliveries using List.reverseRecOn generalizing held with
  | nil =>
      intro delivery hdelivery
      cases hdelivery
  | append_singleton earlier next ih =>
      intro delivery hdelivery
      rw [latest_concat] at hheld
      unfold replace at hheld
      rw [List.mem_append, List.mem_singleton] at hdelivery
      split at hheld
      · rename_i hnone
        rw [latest_eq_none_iff] at hnone
        cases hheld
        rcases hdelivery with hearlier | rfl
        · rw [hnone] at hearlier
          cases hearlier
        · exact Nat.le_refl _
      · rename_i current hcurrent
        split at hheld
        · rename_i hnewer
          cases hheld
          rcases hdelivery with hearlier | rfl
          · exact Nat.le_trans (ih hcurrent delivery hearlier) hnewer
          · exact Nat.le_refl _
        · rename_i holder
          cases hheld
          rcases hdelivery with hearlier | rfl
          · exact ih hcurrent delivery hearlier
          · omega

/-- The register holds the delivery with the greatest time. -/
theorem latest_eq_some_iff {deliveries : List ε} {held : ε}
    (hconsistent : Consistent time deliveries) :
    latest time deliveries = some held ↔
      held ∈ deliveries ∧ ∀ delivery ∈ deliveries, time delivery ≤ time held := by
  constructor
  · intro hheld
    exact ⟨mem_of_latest hheld, le_of_latest hheld⟩
  · rintro ⟨hmem, hmax⟩
    cases hlatest : latest time deliveries with
    | none =>
        rw [latest_eq_none_iff] at hlatest
        rw [hlatest] at hmem
        cases hmem
    | some current =>
        have hcurrent := mem_of_latest hlatest
        have hsame : time current = time held :=
          Nat.le_antisymm (hmax current hcurrent) (le_of_latest hlatest held hmem)
        rw [hconsistent current hcurrent held hmem hsame]

/-- A delivery that is older than the content leaves it as it is. -/
theorem replace_of_older {current next : ε} (holder : time next < time current) :
    replace time (some current) next = some current := by
  simp only [replace]
  rw [if_neg (by omega)]

/-! ## Registers that refuse deliveries -/

section Gated

open Transition

variable {σ ι : Type*} {step : σ → ι → σ} {held : σ → Option ε} {delivery : ι → Option ε}
  {Admits : σ → ι → Prop}

/-- An input changes the register by a delivery it brings and the state admits, and
not otherwise. -/
structure Gated (time : ε → Nat) (step : σ → ι → σ) (held : σ → Option ε)
    (delivery : ι → Option ε) (Admits : σ → ι → Prop) : Prop where
  admitted : ∀ {state input next}, delivery input = some next → Admits state input →
    held (step state input) = replace time (held state) next
  kept : ∀ {state input}, (∀ next, delivery input = some next → ¬ Admits state input) →
    held (step state input) = held state

/-- The delivery arrives at least once in a state that admits it. -/
def Accepted (step : σ → ι → σ) (delivery : ι → Option ε) (Admits : σ → ι → Prop) (start : σ)
    (inputs : List ι) (next : ε) : Prop :=
  ∃ earlier input later, inputs = earlier ++ input :: later ∧ delivery input = some next ∧
    Admits (run step start earlier) input

theorem accepted_concat {start : σ} {inputs : List ι} {input : ι} {next : ε} :
    Accepted step delivery Admits start (inputs ++ [input]) next ↔
      Accepted step delivery Admits start inputs next ∨
        delivery input = some next ∧ Admits (run step start inputs) input := by
  constructor
  · rintro ⟨earlier, arrival, later, hinputs, hdelivery, hadmits⟩
    rcases List.eq_nil_or_concat later with rfl | ⟨between, last, rfl⟩
    · obtain ⟨rfl, hlast⟩ := List.append_inj' hinputs rfl
      cases hlast
      exact Or.inr ⟨hdelivery, hadmits⟩
    · rw [List.concat_eq_append, ← List.cons_append, ← List.append_assoc] at hinputs
      obtain ⟨rfl, -⟩ := List.append_inj' hinputs rfl
      exact Or.inl ⟨earlier, arrival, between, rfl, hdelivery, hadmits⟩
  · rintro (⟨earlier, arrival, later, rfl, hdelivery, hadmits⟩ | ⟨hdelivery, hadmits⟩)
    · exact ⟨earlier, arrival, later ++ [input], by simp, hdelivery, hadmits⟩
    · exact ⟨inputs, input, [], rfl, hdelivery, hadmits⟩

theorem Accepted.mem {start : σ} {inputs : List ι} {next : ε}
    (haccepted : Accepted step delivery Admits start inputs next) :
    next ∈ inputs.filterMap delivery := by
  obtain ⟨earlier, input, later, rfl, hdelivery, -⟩ := haccepted
  rw [List.mem_filterMap]
  exact ⟨input, by simp, hdelivery⟩

/-- What the register holds was accepted, and nothing later was. -/
theorem Gated.held_run (hgated : Gated time step held delivery Admits) {start : σ}
    (hstart : held start = none) (inputs : List ι) :
    (∀ current, held (run step start inputs) = some current →
        Accepted step delivery Admits start inputs current) ∧
      ∀ next, Accepted step delivery Admits start inputs next →
        ∃ current, held (run step start inputs) = some current ∧ time next ≤ time current := by
  induction inputs using List.reverseRecOn with
  | nil =>
      constructor
      · intro current hcurrent
        rw [run_nil, hstart] at hcurrent
        cases hcurrent
      · rintro next ⟨earlier, input, later, hinputs, -⟩
        simp at hinputs
  | append_singleton inputs input ih =>
      obtain ⟨horigin, hbound⟩ := ih
      rw [run_append, run_cons, run_nil]
      simp only [accepted_concat]
      -- An admitted delivery replaces what is held, unless that is newer.
      by_cases harrives : ∃ next, delivery input = some next ∧ Admits (run step start inputs) input
      · obtain ⟨next, hnext, hadmits⟩ := harrives
        rw [hgated.admitted hnext hadmits]
        unfold replace
        cases hheld : held (run step start inputs) with
        | none =>
            constructor
            · intro current hcurrent
              cases hcurrent
              exact Or.inr ⟨hnext, hadmits⟩
            · rintro other (hother | ⟨hother, -⟩)
              · obtain ⟨current, hcurrent, -⟩ := hbound other hother
                rw [hheld] at hcurrent
                cases hcurrent
              · rw [hnext] at hother
                cases hother
                exact ⟨next, rfl, Nat.le_refl _⟩
        | some before =>
            dsimp only
            constructor
            · intro current hcurrent
              split at hcurrent
              · cases hcurrent
                exact Or.inr ⟨hnext, hadmits⟩
              · cases hcurrent
                exact Or.inl (horigin before hheld)
            · rintro other (hother | ⟨hother, -⟩)
              · obtain ⟨current, hcurrent, hle⟩ := hbound other hother
                rw [hheld] at hcurrent
                cases hcurrent
                split
                · rename_i hnewer
                  exact ⟨next, rfl, Nat.le_trans hle hnewer⟩
                · exact ⟨before, rfl, hle⟩
              · rw [hnext] at hother
                cases hother
                split
                · exact ⟨next, rfl, Nat.le_refl _⟩
                · rename_i holder
                  exact ⟨before, rfl, by omega⟩
      · have hkept : held (step (run step start inputs) input) = held (run step start inputs) :=
          hgated.kept (fun next hnext hadmits => harrives ⟨next, hnext, hadmits⟩)
        rw [hkept]
        constructor
        · intro current hcurrent
          exact Or.inl (horigin current hcurrent)
        · rintro next (hnext | ⟨hnext, hadmits⟩)
          · exact hbound next hnext
          · exact absurd ⟨next, hnext, hadmits⟩ harrives

/-- The register ends with the latest delivery iff that one was accepted. -/
theorem Gated.holds_latest_iff (hgated : Gated time step held delivery Admits) {start : σ}
    (hstart : held start = none) {inputs : List ι}
    (hconsistent : Consistent time (inputs.filterMap delivery)) :
    held (run step start inputs) = latest time (inputs.filterMap delivery) ↔
      ∀ newest, latest time (inputs.filterMap delivery) = some newest →
        Accepted step delivery Admits start inputs newest := by
  obtain ⟨horigin, hbound⟩ := hgated.held_run hstart inputs
  constructor
  · intro hholds newest hnewest
    rw [hnewest] at hholds
    exact horigin newest hholds
  · intro haccepted
    cases hnewest : latest time (inputs.filterMap delivery) with
    | none =>
        cases hheld : held (run step start inputs) with
        | none => rfl
        | some current =>
            have hmem := (horigin current hheld).mem
            rw [latest_eq_none_iff] at hnewest
            rw [hnewest] at hmem
            cases hmem
    | some newest =>
        obtain ⟨current, hcurrent, hle⟩ := hbound newest (haccepted newest hnewest)
        have hmem := (horigin current hcurrent).mem
        have hsame : time current = time newest :=
          Nat.le_antisymm (le_of_latest hnewest current hmem) hle
        rw [hcurrent, hconsistent current hmem newest (mem_of_latest hnewest) hsame]

end Gated

end Register
