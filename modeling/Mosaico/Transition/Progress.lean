import Mosaico.Transition.Run

/-!
# Progress along a finite run

A goal is ranked by how many helpful inputs it still needs.  If every admissible input
keeps the rank and a helpful one lowers it, a run with enough helpful inputs reaches the
goal at one of its prefixes, whatever else it does in between.
-/

namespace Transition

universe u v

variable {σ : Type u} {ι : Type v} {step : σ → ι → σ} {helpful : ι → Bool}
  {admissible : ι → Prop} {Ranked : σ → Nat → Prop}

/-- The progress rule.  `Ranked state rank` says that the goal is at most `rank` helpful
inputs away; rank zero is the goal itself. -/
theorem exists_prefix_of_rank
    (hkeep : ∀ state input rank, Ranked state (rank + 1) → admissible input →
      helpful input = false → Ranked (step state input) (rank + 1))
    (hlower : ∀ state input rank, Ranked state (rank + 1) → admissible input →
      helpful input = true → ∃ less, less ≤ rank ∧ Ranked (step state input) less)
    {start : σ} {rank : Nat} (hstart : Ranked start rank) {inputs : List ι}
    (hinputs : ∀ input ∈ inputs, admissible input) (henough : rank ≤ inputs.countP helpful) :
    ∃ elapsed, elapsed <+: inputs ∧ Ranked (run step start elapsed) 0 := by
  induction inputs generalizing start rank with
  | nil =>
      obtain rfl : rank = 0 := Nat.le_zero.mp henough
      exact ⟨[], List.prefix_refl [], hstart⟩
  | cons input rest ih =>
      cases rank with
      | zero => exact ⟨[], List.nil_prefix, hstart⟩
      | succ rank =>
          have hadmissible := hinputs input List.mem_cons_self
          have hrest : ∀ later ∈ rest, admissible later :=
            fun later hlater => hinputs later (List.mem_cons_of_mem input hlater)
          cases hhelpful : helpful input with
          | false =>
              rw [List.countP_cons_of_neg (by simp [hhelpful])] at henough
              obtain ⟨elapsed, hprefix, hgoal⟩ :=
                ih (hkeep start input rank hstart hadmissible hhelpful) hrest henough
              exact ⟨input :: elapsed, List.cons_prefix_cons.mpr ⟨rfl, hprefix⟩, hgoal⟩
          | true =>
              rw [List.countP_cons_of_pos hhelpful] at henough
              obtain ⟨less, hless, hnext⟩ := hlower start input rank hstart hadmissible hhelpful
              obtain ⟨elapsed, hprefix, hgoal⟩ := ih hnext hrest (by omega)
              exact ⟨input :: elapsed, List.cons_prefix_cons.mpr ⟨rfl, hprefix⟩, hgoal⟩

end Transition
