import Mathlib.Order.WellFounded
import Mosaico.Transition.Run

/-!
# Progress under a fair schedule

A schedule is an endless sequence of moves.  It is fair to a task if the task
moves again and again.  The rule of the module proves that a goal is reached: a
rank never grows until then, and in each state there is a task whose next move
makes it smaller, the same task for as long as the rank stays.
-/

namespace Concurrent

open Transition

universe u v w z

variable {σ : Type u} {ι : Type v} {τ : Type w}

/-- The state before the move at `time`. -/
def stateAt (step : σ → ι → σ) (start : σ) (schedule : Nat → ι) : Nat → σ
  | 0 => start
  | time + 1 => step (stateAt step start schedule time) (schedule time)

/-- Some move of the kind comes at or after every time. -/
def Recurs (schedule : Nat → ι) (kind : ι → Prop) : Prop :=
  ∀ time, ∃ later, time ≤ later ∧ kind (schedule later)

variable {step : σ → ι → σ} {start : σ} {schedule : Nat → ι}

/-- The states of a schedule are those that runs reach. -/
theorem stateAt_eq_run (time : Nat) :
    stateAt step start schedule time = run step start ((List.range time).map schedule) := by
  induction time with
  | zero => rfl
  | succ time ih =>
      rw [List.range_succ, List.map_append, run_append, ← ih]
      rfl

/-- What each move keeps holds from then on. -/
theorem stateAt_invariant {I : σ → Prop} (hkeep : ∀ state move, I state → I (step state move))
    {time later : Nat} (hle : time ≤ later) (hnow : I (stateAt step start schedule time)) :
    I (stateAt step start schedule later) := by
  induction later, hle using Nat.le_induction with
  | base => exact hnow
  | succ later hle ih => exact hkeep _ _ ih

/-- A rank and the task that makes it smaller. -/
structure Progress {ρ : Type z} [LT ρ] (step : σ → ι → σ) (moves : τ → ι → Prop)
    (I goal : σ → Prop) (rank : σ → ρ) (helpful : σ → τ) : Prop where
  keep : ∀ state move, I state → I (step state move)
  steady : ∀ state move, I state → ¬ goal state →
    goal (step state move) ∨ rank (step state move) < rank state ∨
      (rank (step state move) = rank state ∧ helpful (step state move) = helpful state)
  help : ∀ state move, I state → ¬ goal state → moves (helpful state) move →
    goal (step state move) ∨ rank (step state move) < rank state

section Rule

variable {ρ : Type z} [LT ρ] {moves : τ → ι → Prop} {I goal : σ → Prop} {rank : σ → ρ}
  {helpful : σ → τ}

/-- Until the helpful task moves, either it stays the helpful one or the goal or a smaller rank is
reached. -/
theorem Progress.wait (hprogress : Progress step moves I goal rank helpful) {time : Nat}
    (hnow : I (stateAt step start schedule time)) {later : Nat} (hle : time ≤ later) :
    (∃ between, time ≤ between ∧ (goal (stateAt step start schedule between) ∨
        rank (stateAt step start schedule between) < rank (stateAt step start schedule time))) ∨
      (rank (stateAt step start schedule later) = rank (stateAt step start schedule time) ∧
        helpful (stateAt step start schedule later) =
          helpful (stateAt step start schedule time)) := by
  induction later, hle using Nat.le_induction with
  | base => exact Or.inr ⟨rfl, rfl⟩
  | succ later hle ih =>
      rcases ih with hreached | ⟨hrank, hhelpful⟩
      · exact Or.inl hreached
      · by_cases hgoal : goal (stateAt step start schedule later)
        · exact Or.inl ⟨later, hle, Or.inl hgoal⟩
        · have hlater := stateAt_invariant hprogress.keep hle hnow
          rcases hprogress.steady _ (schedule later) hlater hgoal with hnext | hless | hsame
          · exact Or.inl ⟨later + 1, by omega, Or.inl hnext⟩
          · rw [hrank] at hless
            exact Or.inl ⟨later + 1, by omega, Or.inr hless⟩
          · exact Or.inr ⟨hsame.1.trans hrank, hsame.2.trans hhelpful⟩

/-- Under a schedule that is fair to every task the goal is reached. -/
theorem Progress.eventually [WellFoundedLT ρ]
    (hprogress : Progress step moves I goal rank helpful)
    (hfair : ∀ task, Recurs schedule (moves task)) (time : Nat)
    (hnow : I (stateAt step start schedule time)) :
    ∃ later, time ≤ later ∧ goal (stateAt step start schedule later) := by
  induction hrank : rank (stateAt step start schedule time) using WellFoundedLT.induction
    generalizing time with
  | ind current ih =>
      subst hrank
      have hsmaller : (∃ between, time ≤ between ∧
          (goal (stateAt step start schedule between) ∨
            rank (stateAt step start schedule between) <
              rank (stateAt step start schedule time))) →
          ∃ later, time ≤ later ∧ goal (stateAt step start schedule later) := by
        rintro ⟨between, hle, hgoal | hless⟩
        · exact ⟨between, hle, hgoal⟩
        · obtain ⟨later, hlater, hgoal⟩ :=
            ih _ hless between (stateAt_invariant hprogress.keep hle hnow) rfl
          exact ⟨later, hle.trans hlater, hgoal⟩
      -- Wait for the next move of the task that helps now.
      obtain ⟨turn, hturn, hmoves⟩ := hfair (helpful (stateAt step start schedule time)) time
      rcases hprogress.wait hnow hturn with hreached | ⟨hrank, hhelpful⟩
      · exact hsmaller hreached
      · by_cases hgoal : goal (stateAt step start schedule turn)
        · exact ⟨turn, hturn, hgoal⟩
        · refine hsmaller ⟨turn + 1, by omega, ?_⟩
          rw [← hhelpful] at hmoves
          rw [← hrank]
          exact hprogress.help _ _ (stateAt_invariant hprogress.keep hturn hnow) hgoal hmoves

end Rule

end Concurrent
