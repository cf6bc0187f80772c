import Mathlib.Data.List.Induction

/-!
# Runs of deterministic labelled systems

A system is a state type, an input type and a total step function.  A run folds
the step over a list of inputs.  The two rules of the module are the ones every
safety argument about runs uses: an invariant kept by each step holds after each
run, and an invariant kept by each step that meets a guard holds after each run
all of whose steps meet it.

The second half is about atomic operations, which either fail and leave the
state as it was or succeed with a value and a new state.
-/

namespace Transition

universe u v w

section Runs

variable {σ : Type u} {ι : Type v}

/-- The state after a list of inputs. -/
def run (step : σ → ι → σ) (start : σ) (inputs : List ι) : σ :=
  inputs.foldl step start

@[simp] theorem run_nil (step : σ → ι → σ) (start : σ) : run step start [] = start := rfl

@[simp] theorem run_cons (step : σ → ι → σ) (start : σ) (input : ι) (rest : List ι) :
    run step start (input :: rest) = run step (step start input) rest := rfl

theorem run_append (step : σ → ι → σ) (start : σ) (first second : List ι) :
    run step start (first ++ second) = run step (run step start first) second := by
  simp [run]

/-- The system that only keeps its inputs. -/
theorem run_concat (past inputs : List ι) :
    run (fun past input => past ++ [input]) past inputs = past ++ inputs := by
  induction inputs generalizing past with
  | nil => simp
  | cons input rest ih => rw [run_cons, ih, List.append_assoc, List.singleton_append]

variable {step : σ → ι → σ} {start : σ} {I J : σ → Prop} {inputs : List ι} {guard : σ → ι → Prop}

/-- The invariant rule for runs. -/
theorem run_invariant (hstart : I start)
    (hstep : ∀ state input, I state → I (step state input)) (inputs : List ι) :
    I (run step start inputs) := by
  induction inputs generalizing start with
  | nil => exact hstart
  | cons input rest ih => exact ih (hstep start input hstart)

/-- A run that loses a property loses it at one of its steps. -/
theorem exists_exit {P : σ → Prop} (hstart : P start) (hend : ¬ P (run step start inputs)) :
    ∃ before input after, inputs = before ++ input :: after ∧
      P (run step start before) ∧ ¬ P (step (run step start before) input) := by
  induction inputs generalizing start with
  | nil => exact absurd hstart hend
  | cons input rest ih =>
      by_cases hnext : P (step start input)
      · obtain ⟨before, later, after, rfl, hbefore, hexit⟩ := ih hnext hend
        exact ⟨input :: before, later, after, rfl, hbefore, hexit⟩
      · exact ⟨[], input, rest, rfl, hstart, hnext⟩

/-- A property that a run acquires has a last step that acquired it: from then
on it held without a break. -/
theorem exists_last_entry {P : σ → Prop} (hstart : ¬ P start) (hend : P (run step start inputs)) :
    ∃ before input after, inputs = before ++ input :: after ∧
      ¬ P (run step start before) ∧
      ∀ elapsed, elapsed <+: after → P (run step start (before ++ input :: elapsed)) := by
  induction inputs using List.reverseRecOn with
  | nil => exact absurd hend hstart
  | append_singleton earlier last ih =>
      by_cases hearlier : P (run step start earlier)
      · obtain ⟨before, input, after, rfl, hbefore, hsince⟩ := ih hearlier
        refine ⟨before, input, after ++ [last], by simp, hbefore, ?_⟩
        intro elapsed helapsed
        rcases List.prefix_concat_iff.mp helapsed with heq | hprefix
        · rw [heq, ← List.cons_append, ← List.append_assoc]
          exact hend
        · exact hsince elapsed hprefix
      · refine ⟨earlier, last, [], rfl, hearlier, ?_⟩
        intro elapsed helapsed
        rw [List.prefix_nil.mp helapsed]
        exact hend

/-- Every step of the run meets the guard in the state in which it is taken. -/
def Guarded (step : σ → ι → σ) (guard : σ → ι → Prop) : σ → List ι → Prop
  | _, [] => True
  | state, input :: rest => guard state input ∧ Guarded step guard (step state input) rest

theorem guarded_append {first second : List ι} :
    Guarded step guard start (first ++ second) ↔
      Guarded step guard start first ∧ Guarded step guard (run step start first) second := by
  induction first generalizing start with
  | nil => simp [Guarded]
  | cons input rest ih => simp [Guarded, ih, and_assoc]

theorem guarded_and {first second : σ → ι → Prop} (hfirst : Guarded step first start inputs)
    (hsecond : Guarded step second start inputs) :
    Guarded step (fun state input => first state input ∧ second state input) start inputs := by
  induction inputs generalizing start with
  | nil => trivial
  | cons input rest ih =>
      exact ⟨⟨hfirst.1, hsecond.1⟩, ih hfirst.2 hsecond.2⟩

theorem guarded_mono {first second : σ → ι → Prop}
    (hmono : ∀ state input, first state input → second state input)
    (hguarded : Guarded step first start inputs) : Guarded step second start inputs := by
  induction inputs generalizing start with
  | nil => trivial
  | cons input rest ih => exact ⟨hmono start input hguarded.1, ih hguarded.2⟩

/-- Under an invariant that every admissible input keeps, two guards that agree step by step
agree on the run. -/
theorem guarded_congr {first second : σ → ι → Prop} {admissible : ι → Prop}
    (hinputs : ∀ input ∈ inputs, admissible input) (hJ : J start)
    (hkeep : ∀ state input, J state → admissible input → J (step state input))
    (hstep : ∀ state input, J state → (first state input ↔ second state input)) :
    Guarded step first start inputs ↔ Guarded step second start inputs := by
  induction inputs generalizing start with
  | nil => exact Iff.rfl
  | cons input rest ih =>
      have hadmissible := hinputs input List.mem_cons_self
      have hrest : ∀ later ∈ rest, admissible later :=
        fun later hlater => hinputs later (List.mem_cons_of_mem input hlater)
      exact and_congr (hstep start input hJ) (ih hrest (hkeep start input hJ hadmissible))

/-- A guard on the view is met by the same runs in both systems. -/
theorem guarded_view {τ : Type*} {step : σ → ι → σ} {viewStep : τ → ι → τ} {view : σ → τ}
    (hview : ∀ state input, view (step state input) = viewStep (view state) input)
    {guard : τ → ι → Prop} {start : σ} {inputs : List ι} :
    Guarded step (fun state input => guard (view state) input) start inputs ↔
      Guarded viewStep guard (view start) inputs := by
  induction inputs generalizing start with
  | nil => exact Iff.rfl
  | cons input rest ih =>
      rw [Guarded, Guarded, ih, hview]

/-- The invariant rule for runs whose steps meet a guard. -/
theorem guarded_run_invariant (hstart : I start)
    (hstep : ∀ state input, I state → guard state input → I (step state input))
    (hguarded : Guarded step guard start inputs) :
    I (run step start inputs) := by
  induction inputs generalizing start with
  | nil => exact hstart
  | cons input rest ih => exact ih (hstep start input hstart hguarded.1) hguarded.2

/-- When a step keeps `I` exactly if it meets the guard, `I` holds all along a run
exactly if every step meets the guard.  `J` is an invariant that every step
keeps; `admissible` restricts the inputs. -/
theorem forall_prefix_iff_guarded {admissible : ι → Prop}
    (hinputs : ∀ input ∈ inputs, admissible input) (hI : I start) (hJ : J start)
    (hkeep : ∀ state input, J state → admissible input → J (step state input))
    (hstep : ∀ state input, J state → admissible input → I state →
      (I (step state input) ↔ guard state input)) :
    (∀ elapsed, elapsed <+: inputs → I (run step start elapsed)) ↔
      Guarded step guard start inputs := by
  induction inputs generalizing start with
  | nil =>
      constructor
      · intro _
        trivial
      · intro _ elapsed helapsed
        rw [List.prefix_nil.mp helapsed]
        exact hI
  | cons input rest ih =>
      have hadmissible := hinputs input List.mem_cons_self
      have hrest : ∀ later ∈ rest, admissible later :=
        fun later hlater => hinputs later (List.mem_cons_of_mem input hlater)
      constructor
      · intro hall
        have hnext : I (step start input) := hall [input] (by simp)
        refine ⟨(hstep start input hJ hadmissible hI).mp hnext, ?_⟩
        rw [← ih hrest hnext (hkeep start input hJ hadmissible)]
        intro elapsed helapsed
        exact hall (input :: elapsed) (List.cons_prefix_cons.mpr ⟨rfl, helapsed⟩)
      · rintro ⟨hguard, hguarded⟩ elapsed helapsed
        have hnext : I (step start input) := (hstep start input hJ hadmissible hI).mpr hguard
        cases elapsed with
        | nil => exact hI
        | cons first later =>
            obtain ⟨rfl, hlater⟩ := List.cons_prefix_cons.mp helapsed
            exact (ih hrest hnext (hkeep start first hJ hadmissible)).mpr hguarded later hlater

/-- A property that fails after every step that misses the guard holds all along a
run only if every step meets it. -/
theorem guarded_of_forall_prefix (hstep : ∀ state input, I (step state input) → guard state input)
    (hall : ∀ elapsed, elapsed <+: inputs → I (run step start elapsed)) :
    Guarded step guard start inputs := by
  induction inputs generalizing start with
  | nil => trivial
  | cons input rest ih =>
      refine ⟨hstep start input (hall [input] (by simp)), ih ?_⟩
      intro elapsed helapsed
      exact hall (input :: elapsed) (List.cons_prefix_cons.mpr ⟨rfl, helapsed⟩)

/-- A run whose steps either leave a view alone or apply one and the same idempotent write
to it applies the write once or not at all. -/
theorem run_writes (step : σ → ι → σ) {α : Type w} (view : σ → α) (write : α → α)
    (hits : ι → Prop) [DecidablePred hits] (hidem : ∀ value, write (write value) = write value)
    (hkeep : ∀ state input, J state → J (step state input))
    (hstep : ∀ state input, J state →
      view (step state input) = if hits input then write (view state) else view state)
    (hJ : J start) (inputs : List ι) :
    view (run step start inputs) =
      if ∃ input ∈ inputs, hits input then write (view start) else view start := by
  induction inputs generalizing start with
  | nil => simp
  | cons input rest ih =>
      rw [run_cons, ih (hkeep start input hJ), hstep start input hJ]
      by_cases hinput : hits input
      · simp [hinput, hidem]
      · simp [hinput]

/-- When a step obeys a law exactly if it meets the guard, every step of a run
obeys it exactly if every step meets the guard. -/
theorem forall_step_iff_guarded {step : σ → ι → σ} {guard : σ → ι → Prop}
    {law : σ → ι → σ → Prop} {J : σ → Prop} {start : σ} {inputs : List ι} (hJ : J start)
    (hkeep : ∀ state input, J state → J (step state input))
    (hstep : ∀ state input, J state → (law state input (step state input) ↔ guard state input)) :
    (∀ before input after, inputs = before ++ input :: after →
      law (run step start before) input (step (run step start before) input)) ↔
      Guarded step guard start inputs := by
  induction inputs generalizing start with
  | nil =>
      constructor
      · intro _
        trivial
      · intro _ before input after heq
        simp at heq
  | cons first rest ih =>
      have hrest := ih (hkeep start first hJ)
      constructor
      · intro hall
        refine ⟨(hstep start first hJ).mp (hall [] first rest rfl), hrest.mp ?_⟩
        intro before input after heq
        exact hall (first :: before) input after (by rw [heq, List.cons_append])
      · rintro ⟨hguard, hguarded⟩ before input after heq
        cases before with
        | nil =>
            rw [List.nil_append, List.cons.injEq] at heq
            obtain ⟨rfl, rfl⟩ := heq
            exact (hstep start first hJ).mpr hguard
        | cons other earlier =>
            rw [List.cons_append, List.cons.injEq] at heq
            obtain ⟨rfl, heq⟩ := heq
            exact hrest.mpr hguarded earlier input after heq

/-- A run meets a guard if each of its steps does. -/
theorem guarded_iff_forall_step :
    Guarded step guard start inputs ↔
      ∀ before input after, inputs = before ++ input :: after →
        guard (run step start before) input := by
  let law := fun (state : σ) (input : ι) (_ : σ) => guard state input
  have hstep : ∀ state input, True → (law state input (step state input) ↔ guard state input) :=
    fun _ _ _ => Iff.rfl
  exact (forall_step_iff_guarded trivial (fun _ _ _ => trivial) hstep).symm

instance decidableGuarded (step : σ → ι → σ) (guard : σ → ι → Prop)
    [∀ state input, Decidable (guard state input)] :
    ∀ (start : σ) (inputs : List ι), Decidable (Guarded step guard start inputs)
  | _, [] => inferInstanceAs (Decidable True)
  | start, input :: rest =>
      have := decidableGuarded step guard (step start input) rest
      inferInstanceAs (Decidable (_ ∧ _))

end Runs

section Atomic

variable {σ : Type u} {ε : Type v} {α β : Type w}

/-- The state an atomic operation leaves behind. -/
def commit (outcome : Except ε (α × σ)) (before : σ) : σ :=
  match outcome with
  | .ok result => result.2
  | .error _ => before

@[simp] theorem commit_ok (result : α × σ) (before : σ) :
    commit (.ok result : Except ε (α × σ)) before = result.2 := rfl

@[simp] theorem commit_error (error : ε) (before : σ) :
    commit (.error error : Except ε (α × σ)) before = before := rfl

/-- The operation succeeded and reports a change. -/
def changed (outcome : Except ε (Bool × σ)) : Bool :=
  match outcome with
  | .ok (reported, _) => reported
  | .error _ => false

theorem changed_iff {outcome : Except ε (Bool × σ)} :
    changed outcome = true ↔ ∃ after, outcome = .ok (true, after) := by
  constructor
  · intro hchanged
    unfold changed at hchanged
    split at hchanged
    · exact ⟨_, by rw [hchanged]⟩
    · cases hchanged
  · rintro ⟨after, rfl⟩
    rfl

/-- The operation succeeded and found something. -/
def yields {α : Type*} (outcome : Except ε (Option α × σ)) : Bool :=
  match outcome with
  | .ok (found, _) => found.isSome
  | .error _ => false

theorem yields_iff {α : Type*} {outcome : Except ε (Option α × σ)} :
    yields outcome = true ↔ ∃ value after, outcome = .ok (some value, after) := by
  constructor
  · intro hyields
    unfold yields at hyields
    split at hyields
    · obtain ⟨value, rfl⟩ := Option.isSome_iff_exists.mp hyields
      exact ⟨value, _, rfl⟩
    · cases hyields
  · rintro ⟨value, after, rfl⟩
    rfl

/-- What holds before a failing operation and after a successful one holds of
the state an operation leaves behind. -/
theorem commit_invariant {outcome : Except ε (α × σ)} {before : σ} {I : σ → Prop}
    (hbefore : I before) (hok : ∀ value after, outcome = .ok (value, after) → I after) :
    I (commit outcome before) := by
  cases houtcome : outcome with
  | error error => exact hbefore
  | ok result => exact hok result.1 result.2 houtcome

/-- Fail with `error` unless the condition holds. -/
def ensure (condition : Prop) [Decidable condition] (error : ε) : Except ε Unit :=
  if condition then .ok () else .error error

theorem mapError_eq_ok {ε ε' α : Type} {f : ε → ε'} {outcome : Except ε α} {value : α} :
    outcome.mapError f = .ok value ↔ outcome = .ok value := by
  cases outcome with
  | error error | ok found => simp [Except.mapError]

@[simp] theorem ensure_eq_ok {condition : Prop} [Decidable condition] {error : ε}
    {value : Unit} : ensure condition error = .ok value ↔ condition := by
  unfold ensure
  by_cases hcondition : condition
  · simp [hcondition]
  · simp [hcondition]

@[simp] theorem pure_eq_ok {first second : α} :
    (pure first : Except ε α) = .ok second ↔ first = second := by
  constructor
  · intro heq
    cases heq
    rfl
  · rintro rfl
    rfl

@[simp] theorem throw_ne_ok {error : ε} {value : α} :
    (throw error : Except ε α) ≠ .ok value := by
  intro heq
  cases heq

/-- A sequence of fallible computations succeeds when both parts do. -/
@[simp] theorem bind_eq_ok {first : Except ε α} {next : α → Except ε β} {value : β} :
    (first >>= next) = .ok value ↔ ∃ middle, first = .ok middle ∧ next middle = .ok value := by
  cases first with
  | error error =>
      constructor
      · intro herror
        cases herror
      · rintro ⟨_, hfirst, _⟩
        cases hfirst
  | ok middle =>
      constructor
      · intro hnext
        exact ⟨middle, rfl, hnext⟩
      · rintro ⟨_, hfirst, hnext⟩
        cases hfirst
        exact hnext

/-- A law about the failures of an operation that leaves a state behind in either
case. -/
theorem forall_error_iff {α σ : Type*} {outcome : Except ε α × σ} {Q : σ → Prop} :
    (∀ error after, outcome = (.error error, after) → Q after) ↔
      (∃ value, outcome.1 = .ok value) ∨ Q outcome.2 := by
  obtain ⟨result, final⟩ := outcome
  cases result with
  | error error =>
      constructor
      · intro hall
        exact Or.inr (hall error final rfl)
      · rintro (⟨value, hvalue⟩ | hQ) failure after heq
        · cases hvalue
        · cases heq
          exact hQ
  | ok value =>
      constructor
      · intro _
        exact Or.inl ⟨value, rfl⟩
      · intro _ error after heq
        cases heq

/-- A computation that succeeds on every row. -/
theorem mapM_eq_pure_map {m : Type → Type} [Monad m] [LawfulMonad m] {ρ : Type*} {α : Type}
    {compute : ρ → m α} {f : ρ → α} {rows : List ρ}
    (hrows : ∀ row ∈ rows, compute row = pure (f row)) :
    rows.mapM compute = pure (rows.map f) := by
  induction rows with
  | nil => simp
  | cons row rest ih =>
      rw [List.mapM_cons, hrows row List.mem_cons_self,
        ih (fun other hother => hrows other (List.mem_cons_of_mem row hother))]
      simp

variable {ρ : Type*} {compute : ρ → Except ε α} {rows : List ρ}

/-- A traversal succeeds when every element does. -/
theorem exists_mapM_eq_ok :
    (∃ results, rows.mapM compute = .ok results) ↔
      ∀ row ∈ rows, ∃ result, compute row = .ok result := by
  induction rows with
  | nil => simp
  | cons row rest ih =>
      simp only [List.mapM_cons, bind_eq_ok, pure_eq_ok, List.forall_mem_cons, ← ih]
      constructor
      · rintro ⟨results, result, hrow, others, hrest, _⟩
        exact ⟨⟨result, hrow⟩, others, hrest⟩
      · rintro ⟨⟨result, hrow⟩, others, hrest⟩
        exact ⟨_, result, hrow, others, hrest, rfl⟩

theorem isOk_mapM (compute : ρ → Except ε α) (rows : List ρ) :
    (rows.mapM compute).isOk = rows.all fun row => (compute row).isOk := by
  induction rows with
  | nil => rfl
  | cons row rest ih =>
      rw [List.mapM_cons, List.all_cons, ← ih]
      cases compute row with
      | error error => rfl
      | ok result =>
          cases rest.mapM compute with
          | error error | ok results => rfl

theorem length_of_mapM {results : List α} (hok : rows.mapM compute = .ok results) :
    results.length = rows.length := by
  induction rows generalizing results with
  | nil =>
      cases hok
      rfl
  | cons row rest ih =>
      simp only [List.mapM_cons, bind_eq_ok, pure_eq_ok] at hok
      obtain ⟨first, _, others, hothers, rfl⟩ := hok
      rw [List.length_cons, List.length_cons, ih hothers]

/-- Every result of a successful traversal is the result of an element. -/
theorem mem_mapM_ok {results : List α} (hok : rows.mapM compute = .ok results)
    {result : α} (hresult : result ∈ results) :
    ∃ row ∈ rows, compute row = .ok result := by
  induction rows generalizing results with
  | nil =>
      cases hok
      cases hresult
  | cons row rest ih =>
      simp only [List.mapM_cons, bind_eq_ok, pure_eq_ok] at hok
      obtain ⟨first, hfirst, others, hothers, rfl⟩ := hok
      rcases List.mem_cons.mp hresult with rfl | hlater
      · exact ⟨row, List.mem_cons_self, hfirst⟩
      · obtain ⟨other, hother, hcompute⟩ := ih hothers hlater
        exact ⟨other, List.mem_cons_of_mem row hother, hcompute⟩

/-- Every element of a successful traversal has its result. -/
theorem exists_mem_mapM_ok {results : List α} (hok : rows.mapM compute = .ok results)
    {row : ρ} (hrow : row ∈ rows) :
    ∃ result ∈ results, compute row = .ok result := by
  induction rows generalizing results with
  | nil => cases hrow
  | cons head rest ih =>
      simp only [List.mapM_cons, bind_eq_ok, pure_eq_ok] at hok
      obtain ⟨first, hfirst, others, hothers, rfl⟩ := hok
      rcases List.mem_cons.mp hrow with rfl | hlater
      · exact ⟨first, List.mem_cons_self, hfirst⟩
      · obtain ⟨result, hresult, hcompute⟩ := ih hothers hlater
        exact ⟨result, List.mem_cons_of_mem first hresult, hcompute⟩

/-! ## Scripts

A script runs several operations under one lock.  It stops at the first failure,
and what it wrote before that stays written. -/

abbrev Script (ε σ α : Type) := ExceptT ε (StateM σ) α

namespace Script

/-- One atomic operation of a script. -/
def attempt {ε σ α : Type} (operation : σ → Except ε (α × σ)) :
    Script ε σ α := fun state =>
  match operation state with
  | .ok (value, after) => (.ok value, after)
  | .error error => (.error error, state)

/-- A fallible computation beside the state. -/
def lift {ε σ α : Type} (outcome : Except ε α) : Script ε σ α := fun state => (outcome, state)

/-- The script leaves every state related to the one it found. -/
def Within {ε σ α : Type} (R : σ → σ → Prop) (script : Script ε σ α) :
    Prop :=
  ∀ state, R state (script state).2

variable {ε σ α β : Type} {R : σ → σ → Prop}

theorem within_pure (hrefl : ∀ state, R state state) (value : α) :
    Within R (pure value : Script ε σ α) := hrefl

theorem within_throw (hrefl : ∀ state, R state state) (error : ε) :
    Within R (throw error : Script ε σ α) := hrefl

theorem within_attempt (operation : σ → Except ε (α × σ))
    (hcommit : ∀ state, R state (commit (operation state) state)) :
    Within R (attempt operation) := by
  intro state
  have hstate := hcommit state
  show R state (attempt operation state).2
  unfold attempt
  cases hoperation : operation state with
  | error error | ok result =>
      rw [hoperation] at hstate
      exact hstate

variable {script : Script ε σ α} {state after : σ} {value : α}

theorem within_bind (htrans : ∀ {first second third}, R first second → R second third →
      R first third) {next : α → Script ε σ β}
    (hscript : script.Within R) (hnext : ∀ value, (next value).Within R) :
    (script >>= next).Within R := by
  intro state
  have hfirst : R state (script state).2 := hscript state
  have hstep : (script >>= next) state =
      ExceptT.bindCont next (script state).1 (script state).2 := rfl
  rw [hstep]
  cases hresult : script state with
  | mk result middle =>
      rw [hresult] at hfirst
      cases result with
      | ok value => exact htrans hfirst (hnext value middle)
      | error error => exact hfirst

/-- A script continues with what its first part returned, or stops at its failure. -/
theorem bind_apply (script : Script ε σ α) (next : α → Script ε σ β) (state : σ) :
    (script >>= next) state =
      match script state with
      | (.ok value, after) => next value after
      | (.error error, after) => (.error error, after) := by
  have hstep : (script >>= next) state =
      ExceptT.bindCont next (script state).1 (script state).2 := rfl
  rw [hstep]
  cases script state with
  | mk result after =>
      cases result with
      | ok value | error error => rfl

/-! The successful runs of the constructs of a script. -/

theorem bind_ok_iff {next : α → Script ε σ β} {value : β} :
    (script >>= next) state = (.ok value, after) ↔
      ∃ first middle, script state = (.ok first, middle) ∧
        next first middle = (.ok value, after) := by
  rw [bind_apply]
  cases script state with
  | mk result middle =>
      cases result with
      | ok first =>
          constructor
          · intro hnext
            exact ⟨first, middle, rfl, hnext⟩
          · rintro ⟨_, _, hfirst, hnext⟩
            cases hfirst
            exact hnext
      | error error =>
          constructor
          · intro herror
            cases herror
          · rintro ⟨_, _, hfirst, _⟩
            cases hfirst

theorem pure_ok_iff {first : α} :
    (pure first : Script ε σ α) state = (.ok value, after) ↔ first = value ∧ state = after := by
  constructor
  · intro heq
    cases heq
    exact ⟨rfl, rfl⟩
  · rintro ⟨rfl, rfl⟩
    rfl

theorem get_ok_iff {value : σ} :
    (get : Script ε σ σ) state = (.ok value, after) ↔ state = value ∧ state = after := by
  constructor
  · intro heq
    cases heq
    exact ⟨rfl, rfl⟩
  · rintro ⟨rfl, rfl⟩
    rfl

theorem throw_not_ok {error : ε} :
    ¬ (throw error : Script ε σ α) state = (.ok value, after) := by
  intro heq
  cases heq

theorem lift_ok_iff {outcome : Except ε α} :
    lift outcome state = (.ok value, after) ↔ outcome = .ok value ∧ state = after := by
  constructor
  · intro heq
    cases heq
    exact ⟨rfl, rfl⟩
  · rintro ⟨rfl, rfl⟩
    rfl

theorem attempt_ok_iff {operation : σ → Except ε (α × σ)} :
    attempt operation state = (.ok value, after) ↔ operation state = .ok (value, after) := by
  unfold attempt
  cases operation state with
  | ok result =>
      constructor
      · intro heq
        cases heq
        rfl
      · intro heq
        cases heq
        rfl
  | error error =>
      constructor
      · intro heq
        cases heq
      · intro heq
        cases heq

/-- Run a script as one transaction: a failure rolls back what it wrote. -/
def transaction (script : Script ε σ α) : Script ε σ α := fun state =>
  match script state with
  | (.ok value, after) => (.ok value, after)
  | (.error error, _) => (.error error, state)

theorem transaction_of_error {error : ε} (herror : (transaction script state).1 = .error error) :
    (transaction script state).2 = state := by
  unfold transaction at herror ⊢
  cases houtcome : script state with
  | mk result after =>
      rw [houtcome] at herror
      cases result with
      | ok value => cases herror
      | error error => rfl

theorem transaction_ok_iff :
    transaction script state = (.ok value, after) ↔ script state = (.ok value, after) := by
  unfold transaction
  cases script state with
  | mk result middle =>
      cases result with
      | ok other => rfl
      | error error =>
          constructor
          · intro heq
            cases heq
          · intro heq
            cases heq

end Script

end Atomic

end Transition
