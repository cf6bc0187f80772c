import Mosaico.Transition.Run

/-!
# Programs of statements

A program runs statements one after the other against a state, and what it runs next
depends on what the earlier ones returned.  A statement is atomic: it succeeds, or it
fails and changes nothing.  The program stops at the first failure.

A statement can fail by itself, and from outside at any place in the program.  Whether
the writes before the failure survive is the difference between a program whose
statements commit one by one and one that runs in a transaction.
-/

namespace Transition

/-- Statements, each of which decides what follows it. -/
inductive Program (ε σ α : Type) : Type 1 where
  | done (value : α)
  | refused (error : ε)
  | statement {β : Type} (execute : σ → Except ε (β × σ)) (next : β → Program ε σ α)

/-- The place of a failure from outside, counted in statements from here on. -/
inductive Fault (ε : Type) where
  | never
  | after (statements : Nat) (error : ε)

namespace Fault

variable {ε : Type}

/-- The failure of the next statement. -/
def now : Fault ε → Option ε
  | .after 0 error => some error
  | _ => none

/-- The fault as the statement after the next one sees it. -/
def later : Fault ε → Fault ε
  | .after (statements + 1) error => .after statements error
  | _ => .never

@[simp] theorem now_never : (never : Fault ε).now = none := rfl

@[simp] theorem later_never : (never : Fault ε).later = never := rfl

@[simp] theorem now_zero (error : ε) : (after 0 error).now = some error := rfl

@[simp] theorem now_succ (statements : Nat) (error : ε) :
    (after (statements + 1) error).now = none := rfl

@[simp] theorem later_succ (statements : Nat) (error : ε) :
    (after (statements + 1) error).later = after statements error := rfl

/-- No statement from the place `first` on and before the place `last` fails. -/
def Outside (fault : Fault ε) (first last : Nat) : Prop :=
  match fault with
  | .never => True
  | .after statements _ => statements < first ∨ last ≤ statements

/-- The next statement does not fail, and the others of a block do not. -/
theorem Outside.uncons {fault : Fault ε} {last : Nat} (houtside : fault.Outside 0 (last + 1)) :
    fault.now = none ∧ fault.later.Outside 0 last := by
  cases fault with
  | never => exact ⟨rfl, trivial⟩
  | after statements error =>
      cases statements with
      | zero => exact absurd houtside (by simp [Outside])
      | succ statements =>
          refine ⟨rfl, ?_⟩
          simp only [Outside, later_succ] at houtside ⊢
          omega

/-- Either the next statement fails, or a later block is as far away as one statement
less. -/
theorem Outside.shift {fault : Fault ε} {first last : Nat}
    (houtside : fault.Outside (first + 1) (last + 1)) :
    (∃ error, fault.now = some error) ∨ fault.now = none ∧ fault.later.Outside first last := by
  cases fault with
  | never => exact Or.inr ⟨rfl, trivial⟩
  | after statements error =>
      cases statements with
      | zero => exact Or.inl ⟨error, rfl⟩
      | succ statements =>
          refine Or.inr ⟨rfl, ?_⟩
          simp only [Outside, later_succ] at houtside ⊢
          omega

theorem not_outside {fault : Fault ε} {first last : Nat} (hinside : ¬ fault.Outside first last) :
    ∃ statements error, fault = .after statements error ∧ first ≤ statements ∧
      statements < last := by
  cases fault with
  | never => exact absurd trivial hinside
  | after statements error =>
      refine ⟨statements, error, rfl, ?_⟩
      simp only [Outside] at hinside
      omega

/-- The second statement does not fail. -/
theorem later_now_iff {fault : Fault ε} (hnow : fault.now = none) :
    fault.later.now = none ↔ fault.Outside 1 2 := by
  constructor
  · intro hlater
    by_contra hinside
    obtain ⟨statements, error, rfl, hfirst, hlast⟩ := not_outside hinside
    obtain rfl : statements = 1 := by omega
    cases hlater
  · intro houtside
    obtain ⟨_, hsecond⟩ := houtside.shift.resolve_left (by simp [hnow])
    exact hsecond.uncons.1

end Fault

namespace Program

variable {ε σ α β : Type}

/-! ## Construction -/

protected def bind : Program ε σ α → (α → Program ε σ β) → Program ε σ β
  | .done value, following => following value
  | .refused error, _ => .refused error
  | .statement execute next, following =>
      .statement execute (fun value => (next value).bind following)

instance : Monad (Program ε σ) where
  pure := .done
  bind := Program.bind

/-- A statement that reads. -/
def read (answer : σ → β) : Program ε σ β :=
  .statement (fun state => .ok (answer state, state)) .done

@[simp] theorem pure_eq (value : α) : (pure value : Program ε σ α) = .done value := rfl

@[simp] theorem done_bind (value : α) (following : α → Program ε σ β) :
    (.done value : Program ε σ α) >>= following = following value := rfl

@[simp] theorem statement_bind {γ : Type} (execute : σ → Except ε (γ × σ))
    (next : γ → Program ε σ α) (following : α → Program ε σ β) :
    .statement execute next >>= following =
      .statement execute (fun value => next value >>= following) := rfl

/-! ## Execution -/

/-- Run the statements, each committed by itself. -/
def run : Program ε σ α → Fault ε → σ → Except ε α × σ
  | .done value, _, state => (.ok value, state)
  | .refused error, _, state => (.error error, state)
  | .statement execute next, fault, state =>
      match fault.now with
      | some error => (.error error, state)
      | none =>
          match execute state with
          | .ok (value, after) => (next value).run fault.later after
          | .error error => (.error error, state)

/-- Run the statements in one transaction, whose commit can fail as well. -/
def runTransaction (program : Program ε σ α) (fault : Fault ε) (commitFails : Option ε)
    (state : σ) : Except ε α × σ :=
  match program.run fault state, commitFails with
  | (.ok value, after), none => (.ok value, after)
  | (.ok _, _), some error => (.error error, state)
  | (.error error, _), _ => (.error error, state)

@[simp] theorem run_done (value : α) (fault : Fault ε) (state : σ) :
    (.done value : Program ε σ α).run fault state = (.ok value, state) := rfl

@[simp] theorem run_refused (error : ε) (fault : Fault ε) (state : σ) :
    (.refused error : Program ε σ α).run fault state = (.error error, state) := rfl

theorem run_now {execute : σ → Except ε (β × σ)} {next : β → Program ε σ α} {fault : Fault ε}
    {state : σ} {error : ε} (hnow : fault.now = some error) :
    (.statement execute next : Program ε σ α).run fault state = (.error error, state) := by
  simp only [run, hnow]

theorem run_ok {execute : σ → Except ε (β × σ)} {next : β → Program ε σ α} {fault : Fault ε}
    {state after : σ} {value : β} (hnow : fault.now = none)
    (hexecute : execute state = .ok (value, after)) :
    (.statement execute next : Program ε σ α).run fault state =
      (next value).run fault.later after := by
  simp only [run, hnow, hexecute]

theorem run_error {execute : σ → Except ε (β × σ)} {next : β → Program ε σ α} {fault : Fault ε}
    {state : σ} {error : ε} (hnow : fault.now = none) (hexecute : execute state = .error error) :
    (.statement execute next : Program ε σ α).run fault state = (.error error, state) := by
  simp only [run, hnow, hexecute]

/-- What a program makes of its result meets no fault. -/
theorem run_map (program : Program ε σ α) (make : α → β) (fault : Fault ε) (state : σ) :
    (program >>= fun value => pure (make value)).run fault state =
      ((program.run fault state).1.map make, (program.run fault state).2) := by
  induction program generalizing fault state with
  | done value | refused error => rfl
  | statement execute next ih =>
      rw [statement_bind]
      cases hnow : fault.now with
      | some error =>
          rw [run_now hnow, run_now hnow]
          rfl
      | none =>
          cases hexecute : execute state with
          | ok result =>
              obtain ⟨value, after⟩ := result
              rw [run_ok hnow hexecute, run_ok hnow hexecute]
              exact ih value fault.later after
          | error error =>
              rw [run_error hnow hexecute, run_error hnow hexecute]
              rfl

/-! ## All or nothing -/

/-- The run returns what it would without the fault and leaves that state, or it fails
and leaves the state as it was. -/
def AllOrNothing (outcome faultless : Except ε α × σ) (state : σ) : Prop :=
  match outcome.1 with
  | .ok _ => outcome = faultless
  | .error _ => outcome.2 = state

/-- A program that succeeds has met no fault. -/
theorem run_of_ok {program : Program ε σ α} {fault : Fault ε} {state after : σ} {value : α}
    (hok : program.run fault state = (.ok value, after)) :
    program.run .never state = (.ok value, after) := by
  induction program generalizing fault state with
  | done other => exact hok
  | refused error => cases hok
  | statement execute next ih =>
      cases hnow : fault.now with
      | some error =>
          rw [run_now hnow] at hok
          cases hok
      | none =>
          cases hexecute : execute state with
          | ok result =>
              obtain ⟨first, middle⟩ := result
              rw [run_ok hnow hexecute] at hok
              rw [run_ok rfl hexecute]
              exact ih first hok
          | error error =>
              rw [run_error hnow hexecute] at hok
              cases hok

/-- A run is all or nothing exactly if a failing one leaves the state as it was. -/
theorem allOrNothing_iff {program : Program ε σ α} {fault : Fault ε} {state : σ} :
    AllOrNothing (program.run fault state) (program.run .never state) state ↔
      ∀ error after, program.run fault state = (.error error, after) → after = state := by
  unfold AllOrNothing
  cases houtcome : program.run fault state with
  | mk result after =>
      cases result with
      | ok value => simp [run_of_ok houtcome]
      | error error => simp

/-- In a transaction every program is all or nothing, wherever it fails. -/
theorem runTransaction_allOrNothing (program : Program ε σ α) (fault : Fault ε)
    (commitFails : Option ε) (state : σ) :
    AllOrNothing (program.runTransaction fault commitFails state)
      (program.runTransaction .never none state) state := by
  unfold AllOrNothing runTransaction
  cases houtcome : program.run fault state with
  | mk result after =>
      cases result with
      | error error => rfl
      | ok value =>
          cases commitFails with
          | some error => rfl
          | none => simp [run_of_ok houtcome]

/-- Whatever happens, a failing run leaves the state as it was, and a successful one
has met no fault. -/
def Atomic (program : Program ε σ α) (fault : Fault ε) : Prop :=
  ∀ state, AllOrNothing (program.run fault state) (program.run .never state) state

theorem atomic_iff {program : Program ε σ α} {fault : Fault ε} :
    program.Atomic fault ↔ ∀ state error after,
      program.run fault state = (.error error, after) → after = state :=
  forall_congr' fun _ => allOrNothing_iff

end Program

end Transition
