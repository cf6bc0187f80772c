import Mathlib.Data.List.Perm.Basic
import Mosaico.Transition.Run

/-!
# Inputs in another order

When the inputs of a run commute, their order does not matter.  When each of them is also
absorbed by its own repetition, only the set of the inputs matters, and the run may be
replaced by any other one over the same set.
-/

namespace Transition

universe u v

variable {σ : Type u} {ι : Type v} {step : σ → ι → σ}

/-- The inputs commute in every state. -/
def Commuting (step : σ → ι → σ) (inputs : List ι) : Prop :=
  ∀ first ∈ inputs, ∀ second ∈ inputs, ∀ state,
    step (step state first) second = step (step state second) first

/-- A repetition of an input changes nothing. -/
def Idempotent (step : σ → ι → σ) (inputs : List ι) : Prop :=
  ∀ input ∈ inputs, ∀ state, step (step state input) input = step state input

theorem run_eq_of_perm {inputs reordered : List ι} (hcommuting : Commuting step inputs)
    (hperm : inputs.Perm reordered) (start : σ) :
    run step start inputs = run step start reordered :=
  hperm.foldl_eq' (fun first hfirst second hsecond state =>
    hcommuting first hfirst second hsecond state) start

/-- A repetition at the end of a run is absorbed. -/
theorem run_concat_of_mem {inputs : List ι} (hcommuting : Commuting step inputs)
    (hidempotent : Idempotent step inputs) {input : ι} (hinput : input ∈ inputs) (start : σ) :
    run step start (inputs ++ [input]) = run step start inputs := by
  obtain ⟨front, back, hsplit⟩ := List.append_of_mem hinput
  have hperm : inputs.Perm (front ++ back ++ [input]) := by
    rw [hsplit]
    exact List.perm_middle.trans (List.perm_append_singleton input (front ++ back)).symm
  rw [run_append, run_eq_of_perm hcommuting hperm, run_append, run_cons, run_nil, run_cons,
    run_nil, hidempotent input hinput]

theorem run_append_of_subset {inputs repeated : List ι} (hcommuting : Commuting step inputs)
    (hidempotent : Idempotent step inputs) (hrepeated : repeated ⊆ inputs) (start : σ) :
    run step start (inputs ++ repeated) = run step start inputs := by
  induction repeated using List.reverseRecOn with
  | nil => rw [List.append_nil]
  | append_singleton earlier input ih =>
      have hearlier : earlier ⊆ inputs :=
        fun other hother => hrepeated (List.mem_append_left _ hother)
      have hinput : input ∈ inputs := hrepeated (by simp)
      rw [← List.append_assoc, run_append, ih hearlier, ← run_append]
      exact run_concat_of_mem hcommuting hidempotent hinput start

/-- Runs over the same set of inputs end in the same state. -/
theorem run_eq_of_mem_iff {inputs others : List ι} (hcommuting : Commuting step inputs)
    (hidempotent : Idempotent step inputs)
    (hothers : ∀ input, input ∈ others ↔ input ∈ inputs) (start : σ) :
    run step start others = run step start inputs := by
  have hcommuting' : Commuting step others := fun first hfirst second hsecond =>
    hcommuting first ((hothers first).mp hfirst) second ((hothers second).mp hsecond)
  have hidempotent' : Idempotent step others := fun input hinput =>
    hidempotent input ((hothers input).mp hinput)
  have hforward : inputs ⊆ others := fun input hinput => (hothers input).mpr hinput
  have hbackward : others ⊆ inputs := fun input hinput => (hothers input).mp hinput
  have hboth : Commuting step (others ++ inputs) := by
    intro first hfirst second hsecond
    have hmem : ∀ input ∈ others ++ inputs, input ∈ inputs := by
      intro input hinput
      rcases List.mem_append.mp hinput with hother | hinput
      · exact hbackward hother
      · exact hinput
    exact hcommuting first (hmem first hfirst) second (hmem second hsecond)
  calc run step start others
      = run step start (others ++ inputs) :=
        (run_append_of_subset hcommuting' hidempotent' hforward start).symm
    _ = run step start (inputs ++ others) := run_eq_of_perm hboth List.perm_append_comm start
    _ = run step start inputs := run_append_of_subset hcommuting hidempotent hbackward start

/-- An input that absorbs what came before it decides a run that ends with it. -/
theorem run_concat_of_absorbing {inputs : List ι} {last : ι}
    (habsorbing : ∀ input ∈ inputs, ∀ state, step (step state input) last = step state last)
    (start : σ) : run step start (inputs ++ [last]) = step start last := by
  induction inputs using List.reverseRecOn with
  | nil => rfl
  | append_singleton earlier input ih =>
      have hearlier : ∀ other ∈ earlier, ∀ state,
          step (step state other) last = step state last :=
        fun other hother => habsorbing other (List.mem_append_left _ hother)
      have hinput := habsorbing input (by simp) (run step start earlier)
      calc run step start (earlier ++ [input] ++ [last])
          = step (step (run step start earlier) input) last := by simp [run]
        _ = step (run step start earlier) last := hinput
        _ = run step start (earlier ++ [last]) := by simp [run]
        _ = step start last := ih hearlier

end Transition
