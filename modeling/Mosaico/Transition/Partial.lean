import Mathlib.Data.List.Induction
import Mathlib.Order.Basic

/-!
# Runs of systems whose steps can fail

A step gives the next state, or none when the system cannot take it.  A run
folds the steps over a list of inputs and fails with the first of them.

The rules speak of the states that a run reaches on its way.  A relation that
every step respects relates the states of one run, and a property that a step
keeps exactly when it meets a guard holds all along a run exactly if every step
of it meets the guard.
-/

namespace Transition

section Partial

variable {σ ι : Type} {step : σ → ι → Option σ} {start last : σ} {inputs : List ι}

theorem foldlM_append_eq_some {first second : List ι} :
    (first ++ second).foldlM step start = some last ↔
      ∃ middle, first.foldlM step start = some middle ∧ second.foldlM step middle = some last := by
  simp [List.foldlM_append, Option.bind_eq_some_iff]

theorem foldlM_concat_eq_some {first : List ι} {input : ι} :
    (first ++ [input]).foldlM step start = some last ↔
      ∃ middle, first.foldlM step start = some middle ∧ step middle input = some last := by
  simp [List.foldlM_append, Option.bind_eq_some_iff]

/-- A reflexive and transitive relation between a state and the next relates the
ends of a run. -/
theorem foldlM_relates {R : σ → σ → Prop} (hrefl : ∀ state, R state state)
    (htrans : ∀ {first second third}, R first second → R second third → R first third)
    (hstep : ∀ {state input next}, step state input = some next → R state next)
    (hrun : inputs.foldlM step start = some last) : R start last := by
  induction inputs using List.reverseRecOn generalizing last with
  | nil =>
      cases hrun
      exact hrefl start
  | append_singleton earlier input ih =>
      obtain ⟨middle, hearlier, hlast⟩ := foldlM_concat_eq_some.mp hrun
      exact htrans (ih hearlier) (hstep hlast)

/-- Such a relation relates any two states that a run reaches, in one order or the
other. -/
theorem foldlM_relates_prefixes {R : σ → σ → Prop} (hrefl : ∀ state, R state state)
    (htrans : ∀ {first second third}, R first second → R second third → R first third)
    (hstep : ∀ {state input next}, step state input = some next → R state next)
    {first second : List ι} (hfirst : first <+: inputs) (hsecond : second <+: inputs)
    {earlier later : σ} (hearlier : first.foldlM step start = some earlier)
    (hlater : second.foldlM step start = some later) : R earlier later ∨ R later earlier := by
  rcases List.prefix_or_prefix_of_prefix hfirst hsecond with ⟨rest, rfl⟩ | ⟨rest, rfl⟩
  · obtain ⟨middle, hmiddle, hrest⟩ := foldlM_append_eq_some.mp hlater
    cases hearlier.symm.trans hmiddle
    exact Or.inl (foldlM_relates hrefl htrans hstep hrest)
  · obtain ⟨middle, hmiddle, hrest⟩ := foldlM_append_eq_some.mp hearlier
    cases hlater.symm.trans hmiddle
    exact Or.inr (foldlM_relates hrefl htrans hstep hrest)

/-- The invariant rule for runs whose steps can fail. -/
theorem foldlM_invariant {I : σ → Prop} (hstart : I start)
    (hstep : ∀ {state input next}, I state → step state input = some next → I next)
    (hrun : inputs.foldlM step start = some last) : I last :=
  foldlM_relates (R := fun state next => I state → I next) (fun _ => id)
    (fun hfirst hsecond => hsecond ∘ hfirst) (fun hnext hI => hstep hI hnext) hrun hstart

/-! ## Systems seen through a view -/

section Views

variable {τ κ : Type} {viewStep : τ → κ → Option τ} {view : σ → τ}

/-- Some run of the system leads from one state to the other. -/
def Leads (step : σ → ι → Option σ) (earlier later : σ) : Prop :=
  ∃ inputs : List ι, inputs.foldlM step earlier = some later

theorem Leads.refl (state : σ) : Leads step state state := ⟨[], rfl⟩

theorem Leads.single (input : ι) {state next : σ} (hstep : step state input = some next) :
    Leads step state next := by
  refine ⟨[input], ?_⟩
  simpa using hstep

theorem Leads.trans {first second third : σ} (hfirst : Leads step first second)
    (hsecond : Leads step second third) : Leads step first third := by
  obtain ⟨earlier, hearlier⟩ := hfirst
  obtain ⟨later, hlater⟩ := hsecond
  exact ⟨earlier ++ later, foldlM_append_eq_some.mpr ⟨second, hearlier, hlater⟩⟩

/-- When each step leads the view along a second system, each run does. -/
theorem foldlM_simulates
    (hstep : ∀ {state input next}, step state input = some next →
      Leads viewStep (view state) (view next))
    (hrun : inputs.foldlM step start = some last) : Leads viewStep (view start) (view last) :=
  foldlM_relates (R := fun state next => Leads viewStep (view state) (view next))
    (fun state => Leads.refl (view state)) Leads.trans hstep hrun

end Views

/-! ## What is fixed while a count stays -/

section Counts

variable {κ α : Type} [PartialOrder κ] {count : σ → κ} {view : σ → α}

/-- The count does not decrease, and the view is the same as long as the count is. -/
def FixedWhile (count : σ → κ) (view : σ → α) (earlier later : σ) : Prop :=
  count earlier ≤ count later ∧ (count earlier = count later → view later = view earlier)

theorem FixedWhile.refl (state : σ) : FixedWhile count view state state :=
  ⟨le_refl _, fun _ => rfl⟩

theorem FixedWhile.trans {first second third : σ} (hfirst : FixedWhile count view first second)
    (hsecond : FixedWhile count view second third) : FixedWhile count view first third := by
  refine ⟨le_trans hfirst.1 hsecond.1, ?_⟩
  intro hsame
  -- the count between the two is squeezed
  have hmiddle : count first = count second := le_antisymm hfirst.1 (hsame ▸ hsecond.1)
  rw [hsecond.2 (hmiddle ▸ hsame), hfirst.2 hmiddle]

end Counts

/-! ## All along a run -/

/-- Every state that the run reaches has the property. -/
def Always (step : σ → ι → Option σ) (start : σ) (inputs : List ι) (I : σ → Prop) : Prop :=
  ∀ elapsed, elapsed <+: inputs → ∀ current, elapsed.foldlM step start = some current → I current

/-- Every step that the run takes meets the guard in the state in which it is taken. -/
def EachStep (step : σ → ι → Option σ) (start : σ) (inputs : List ι) (guard : σ → ι → Prop) :
    Prop :=
  ∀ elapsed input, elapsed ++ [input] <+: inputs → ∀ current next,
    elapsed.foldlM step start = some current → step current input = some next →
      guard current input

/-- When a step keeps `I` exactly if it meets the guard, `I` holds all along a run
exactly if every step meets the guard.  `J` is an invariant that every step keeps. -/
theorem always_iff_eachStep {I J : σ → Prop} {guard : σ → ι → Prop} (hI : I start)
    (hJ : J start) (hkeep : ∀ {state input next}, J state → step state input = some next → J next)
    (hstep : ∀ {state input next}, J state → I state → step state input = some next →
      (I next ↔ guard state input)) :
    Always step start inputs I ↔ EachStep step start inputs guard := by
  constructor
  · intro hall elapsed input hprefix current next hcurrent hnext
    have hbefore : I current :=
      hall elapsed ((List.prefix_append _ _).trans hprefix) current hcurrent
    have hafter : I next := hall _ hprefix next (foldlM_concat_eq_some.mpr ⟨current, hcurrent, hnext⟩)
    exact (hstep (foldlM_invariant hJ hkeep hcurrent) hbefore hnext).mp hafter
  · intro hguarded elapsed
    induction elapsed using List.reverseRecOn with
    | nil =>
        intro _ current hcurrent
        cases hcurrent
        exact hI
    | append_singleton earlier input ih =>
        intro hprefix next hrun
        obtain ⟨current, hcurrent, hnext⟩ := foldlM_concat_eq_some.mp hrun
        have hbefore : I current :=
          ih ((List.prefix_append _ _).trans hprefix) current hcurrent
        have hguard := hguarded earlier input hprefix current next hcurrent hnext
        exact (hstep (foldlM_invariant hJ hkeep hcurrent) hbefore hnext).mpr hguard

end Partial

end Transition
