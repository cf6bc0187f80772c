import Mosaico.Transition.Run

/-!
# Interleaved tasks over a shared state

A task is a sequential program whose atomic steps read and write a state that it
shares with other tasks; between two of its steps anything may happen to that
state.  A pool runs any number of tasks, takes up new ones, and interferes on its
own account, in any order.

The proof rule is the rely one.  `R` bounds what anybody does to the shared
state in one step, and a task `Meets` a postcondition when each of its steps stays
within `R` and whatever `R` does between its steps leaves its final answer true.
A guard on the labels of the steps restricts the runs a statement is about.
-/

namespace Concurrent

open Transition

/-- A task has finished with an answer, or is about to take an atomic step.  A
step has a label, and an input that the task does not control. -/
inductive Task (Λ σ ι α : Type) where
  | done (answer : α)
  | step (label : Λ) (effect : ι → σ → σ) (next : ι → σ → Task Λ σ ι α)

namespace Task

variable {Λ σ ι α β : Type}

/-- One atomic operation on the shared state, and what follows its result. -/
def call (label : Λ) (operation : ι → σ → β × σ) (rest : β → Task Λ σ ι α) : Task Λ σ ι α :=
  .step label (fun input state => (operation input state).2)
    (fun input state => rest (operation input state).1)

/-- One atomic read of the shared state. -/
def read (label : Λ) (query : ι → σ → β) (rest : β → Task Λ σ ι α) : Task Λ σ ι α :=
  .step label (fun _ state => state) (fun input state => rest (query input state))

/-- One atomic operation that may fail, and then changes nothing. -/
def attempt {ε : Type} (label : Λ) (operation : ι → σ → Except ε (β × σ))
    (rest : Except ε β → Task Λ σ ι α) : Task Λ σ ι α :=
  .step label (fun input state => commit (operation input state) state)
    (fun input state => rest ((operation input state).map Prod.fst))

/-- From `state` on, each step of the task whose label passes the guard keeps `I`
and stays within `R`, and its answer will satisfy `Q`, whatever happens within `R`
in between. -/
def Meets (I : σ → Prop) (R : σ → σ → Prop) (G : Λ → σ → Prop) (Q : α → σ → Prop) :
    Task Λ σ ι α → σ → Prop
  | .done answer, state => Q answer state
  | .step label effect next, state =>
      ∀ current, R state current → I current → G label current → ∀ input,
        I (effect input current) ∧ R current (effect input current) ∧
          (next input current).Meets I R G Q (effect input current)

/-- Run a task by itself; the inputs are what the outside gives its steps. -/
def runAlone : Task Λ σ ι α → (Nat → ι) → σ → α × σ
  | .done answer, _, state => (answer, state)
  | .step _ effect next, inputs, state =>
      (next (inputs 0) state).runAlone (fun index => inputs (index + 1)) (effect (inputs 0) state)

/-- The answer of a task that has finished. -/
def answer? : Task Λ σ ι α → Option α
  | .done answer => some answer
  | .step _ _ _ => none

theorem eq_done_of_answer? {task : Task Λ σ ι α} {answer : α}
    (hanswer : task.answer? = some answer) : task = .done answer := by
  cases task with
  | done given => exact congrArg Task.done (Option.some.inj hanswer)
  | step label effect next => cases hanswer

section Rules

variable {I : σ → Prop} {R : σ → σ → Prop} {G : Λ → σ → Prop} {Q : α → σ → Prop}

/-- Interference within `R` does not disturb a task. -/
theorem Meets.stable {task : Task Λ σ ι α} {before after : σ}
    (htrans : ∀ {first second third}, R first second → R second third → R first third)
    (hQ : ∀ answer first second, R first second → Q answer first → Q answer second)
    (hmeets : task.Meets I R G Q before) (hR : R before after) : task.Meets I R G Q after := by
  cases task with
  | done answer => exact hQ answer before after hR hmeets
  | step label effect next =>
      intro current hcurrent
      exact hmeets current (htrans hR hcurrent)

theorem meets_call {label : Λ} {operation : ι → σ → β × σ} {rest : β → Task Λ σ ι α}
    {state : σ}
    (hcall : ∀ current, R state current → I current → G label current → ∀ input result after,
      operation input current = (result, after) →
        I after ∧ R current after ∧ (rest result).Meets I R G Q after) :
    (call label operation rest).Meets I R G Q state := by
  intro current hR hI hG input
  exact hcall current hR hI hG input _ _ rfl

theorem meets_read {label : Λ} {query : ι → σ → β} {rest : β → Task Λ σ ι α} {state : σ}
    (hrefl : ∀ state, R state state)
    (hread : ∀ current, R state current → I current → G label current → ∀ input,
      (rest (query input current)).Meets I R G Q current) :
    (read label query rest).Meets I R G Q state := by
  intro current hR hI hG input
  exact ⟨hI, hrefl current, hread current hR hI hG input⟩

theorem meets_attempt {ε : Type} {label : Λ} {operation : ι → σ → Except ε (β × σ)}
    {rest : Except ε β → Task Λ σ ι α} {state : σ} (hrefl : ∀ state, R state state)
    (hok : ∀ current, R state current → I current → G label current → ∀ input value after,
      operation input current = .ok (value, after) →
        I after ∧ R current after ∧ (rest (.ok value)).Meets I R G Q after)
    (herror : ∀ current, R state current → I current → ∀ error,
      (rest (.error error)).Meets I R G Q current) :
    (attempt label operation rest).Meets I R G Q state := by
  intro current hR hI hG input
  dsimp only
  cases hoperation : operation input current with
  | error error => exact ⟨hI, hrefl current, herror current hR hI error⟩
  | ok result => exact hok current hR hI hG input result.1 result.2 hoperation

end Rules

end Task

/-! ## Pools -/

/-- The shared state and the tasks, finished ones included. -/
structure Pool (Λ σ ι α : Type) where
  shared : σ
  tasks : List (Task Λ σ ι α)

/-- What happens to a pool next. -/
inductive Event (ε ρ ι : Type) where
  | interfere (event : ε)
  | spawn (request : ρ)
  | advance (index : Nat) (input : ι)
  deriving DecidableEq

namespace Pool

variable {Λ σ ι α ε ρ : Type}

/-- A pool without tasks. -/
def fresh (shared : σ) : Pool Λ σ ι α := ⟨shared, []⟩

/-- One event.  An advance of a task that has finished, or of none, changes
nothing. -/
def step (interfere : σ → ε → σ) (start : ρ → Task Λ σ ι α) (pool : Pool Λ σ ι α) :
    Event ε ρ ι → Pool Λ σ ι α
  | .interfere event => { pool with shared := interfere pool.shared event }
  | .spawn request => { pool with tasks := pool.tasks ++ [start request] }
  | .advance index input =>
      match pool.tasks[index]? with
      | some (.step _ effect next) =>
          { shared := effect input pool.shared
            tasks := pool.tasks.set index (next input pool.shared) }
      | _ => pool

/-- The next step of the task passes the guard. -/
def nextPasses (G : Λ → σ → Prop) (state : σ) : Option (Task Λ σ ι α) → Prop
  | some (.step label _ _) => G label state
  | _ => True

instance (G : Λ → σ → Prop) [∀ label state, Decidable (G label state)] (state : σ) :
    ∀ task : Option (Task Λ σ ι α), Decidable (nextPasses G state task)
  | some (.step label _ _) => inferInstanceAs (Decidable (G label state))
  | some (.done _) | none => inferInstanceAs (Decidable True)

/-- The step that the event is about passes the guard. -/
def Passes (G : Λ → σ → Prop) (pool : Pool Λ σ ι α) : Event ε ρ ι → Prop
  | .advance index _ => nextPasses G pool.shared pool.tasks[index]?
  | _ => True

instance (G : Λ → σ → Prop) [∀ label state, Decidable (G label state)]
    (pool : Pool Λ σ ι α) : ∀ event : Event ε ρ ι, Decidable (pool.Passes G event)
  | .interfere _ | .spawn _ => inferInstanceAs (Decidable True)
  | .advance _ _ => inferInstanceAs (Decidable (nextPasses _ _ _))

theorem passes_and {first second : Λ → σ → Prop} {pool : Pool Λ σ ι α} {event : Event ε ρ ι}
    (hfirst : pool.Passes first event) (hsecond : pool.Passes second event) :
    pool.Passes (fun label state => first label state ∧ second label state) event := by
  cases event with
  | interfere event | spawn request => trivial
  | advance index input =>
      simp only [Passes] at hfirst hsecond ⊢
      cases htask : pool.tasks[index]? with
      | none => trivial
      | some task =>
          rw [htask] at hfirst hsecond
          cases task with
          | done answer => trivial
          | step label effect next => exact ⟨hfirst, hsecond⟩

/-- The interference that the event is about is admitted. -/
def Admits (H : σ → ε → Prop) (pool : Pool Λ σ ι α) : Event ε ρ ι → Prop
  | .interfere event => H pool.shared event
  | _ => True

instance (H : σ → ε → Prop) [∀ state event, Decidable (H state event)]
    (pool : Pool Λ σ ι α) : ∀ event : Event ε ρ ι, Decidable (pool.Admits H event)
  | .interfere _ => inferInstanceAs (Decidable (H _ _))
  | .spawn _ | .advance _ _ => inferInstanceAs (Decidable True)

/-- Every task of the pool has finished. -/
def Settled (pool : Pool Λ σ ι α) : Prop :=
  ∀ task ∈ pool.tasks, task.answer?.isSome

instance (pool : Pool Λ σ ι α) : Decidable pool.Settled :=
  inferInstanceAs (Decidable (∀ task ∈ _, _))

/-- Some task of the pool has finished with this answer. -/
def Answered (pool : Pool Λ σ ι α) (answer : α) : Prop :=
  .done answer ∈ pool.tasks

theorem answered_of_answer? {pool : Pool Λ σ ι α} {index : Nat} {answer : α}
    (hanswer : pool.tasks[index]?.bind Task.answer? = some answer) : pool.Answered answer := by
  obtain ⟨task, hindex, hdone⟩ := Option.bind_eq_some_iff.mp hanswer
  rw [Task.eq_done_of_answer? hdone] at hindex
  exact List.mem_of_getElem? hindex

/-- An answer stays given. -/
theorem Answered.step {interfere : σ → ε → σ} {start : ρ → Task Λ σ ι α} {pool : Pool Λ σ ι α}
    {answer : α} (hanswer : pool.Answered answer) (event : Event ε ρ ι) :
    (pool.step interfere start event).Answered answer := by
  cases event with
  | interfere event => exact hanswer
  | spawn request => exact List.mem_append_left _ hanswer
  | advance index input =>
      simp only [Pool.step]
      split
      · rename_i label effect next hindex
        obtain ⟨position, hposition⟩ := List.mem_iff_getElem?.mp hanswer
        have hother : index ≠ position := by
          intro heq
          rw [heq, hposition] at hindex
          cases hindex
        exact List.mem_of_getElem? ((List.getElem?_set_ne hother).trans hposition)
      · exact hanswer

theorem Answered.run {interfere : σ → ε → σ} {start : ρ → Task Λ σ ι α} {pool : Pool Λ σ ι α}
    {answer : α} (hanswer : pool.Answered answer) (events : List (Event ε ρ ι)) :
    (Transition.run (Pool.step interfere start) pool events).Answered answer :=
  run_invariant (I := fun pool : Pool Λ σ ι α => pool.Answered answer) hanswer
    (fun _ event hbefore => hbefore.step event) events

section Runs

variable {I : σ → Prop} {R : σ → σ → Prop} {G : Λ → σ → Prop} {Q : α → σ → Prop}
  {H : σ → ε → Prop} {interfere : σ → ε → σ} {start : ρ → Task Λ σ ι α}

/-- The invariant of a pool: each task meets its postcondition from here on. -/
structure Sound (I : σ → Prop) (R : σ → σ → Prop) (G : Λ → σ → Prop) (Q : α → σ → Prop)
    (pool : Pool Λ σ ι α) : Prop where
  shared : I pool.shared
  tasks : ∀ task ∈ pool.tasks, task.Meets I R G Q pool.shared

theorem Sound.fresh {shared : σ} (hI : I shared) :
    (Pool.fresh shared : Pool Λ σ ι α).Sound I R G Q where
  shared := hI
  tasks := by
    intro task htask
    cases htask

section Rely

variable (hrefl : ∀ state, R state state)
  (htrans : ∀ {first second third}, R first second → R second third → R first third)
  (hQ : ∀ answer first second, R first second → Q answer first → Q answer second)
  (hinterfere : ∀ state event, I state → H state event →
    I (interfere state event) ∧ R state (interfere state event))
  (hstart : ∀ request state, I state → (start request).Meets I R G Q state)
include hrefl htrans hQ hinterfere hstart

/-- One event that passes the guards keeps the pool sound. -/
theorem Sound.step {pool : Pool Λ σ ι α} {event : Event ε ρ ι}
    (hsound : pool.Sound I R G Q) (hpasses : pool.Passes G event)
    (hadmits : pool.Admits H event) :
    (pool.step interfere start event).Sound I R G Q := by
  cases event with
  | interfere event =>
      obtain ⟨hI, hR⟩ := hinterfere pool.shared event hsound.shared hadmits
      refine ⟨hI, ?_⟩
      intro task htask
      exact (hsound.tasks task htask).stable htrans hQ hR
  | spawn request =>
      refine ⟨hsound.shared, ?_⟩
      intro task htask
      rcases List.mem_append.mp htask with hold | hnew
      · exact hsound.tasks task hold
      · rw [List.mem_singleton.mp hnew]
        exact hstart request pool.shared hsound.shared
  | advance index input =>
      have hpassed : nextPasses G pool.shared pool.tasks[index]? := hpasses
      simp only [Pool.step]
      split
      · rename_i label effect next hindex
        rw [hindex] at hpassed
        have hmeets := hsound.tasks _ (List.mem_of_getElem? hindex)
        obtain ⟨hI, hR, hnext⟩ :=
          hmeets pool.shared (hrefl pool.shared) hsound.shared hpassed input
        refine ⟨hI, ?_⟩
        intro task htask
        rcases List.mem_or_eq_of_mem_set htask with hother | rfl
        · exact (hsound.tasks task hother).stable htrans hQ hR
        · exact hnext
      · exact hsound

/-- The rely rule for runs: every answer of a guarded run is true in every state
after it was given. -/
theorem Sound.run_admitted {pool : Pool Λ σ ι α} {events : List (Event ε ρ ι)}
    (hsound : pool.Sound I R G Q)
    (hguarded : Guarded (Pool.step interfere start)
      (fun pool event => pool.Passes G event ∧ pool.Admits H event) pool events) :
    (Transition.run (Pool.step interfere start) pool events).Sound I R G Q :=
  guarded_run_invariant hsound
    (fun _ _ hbefore hguard =>
      hbefore.step hrefl htrans hQ hinterfere hstart hguard.1 hguard.2) hguarded

/-- A guarded run stays within `R`, as each of its steps does. -/
theorem Sound.run_within {pool : Pool Λ σ ι α} {events : List (Event ε ρ ι)}
    (hsound : pool.Sound I R G Q)
    (hguarded : Guarded (Pool.step interfere start)
      (fun pool event => pool.Passes G event ∧ pool.Admits H event) pool events) :
    R pool.shared (Transition.run (Pool.step interfere start) pool events).shared := by
  induction events generalizing pool with
  | nil => exact hrefl pool.shared
  | cons event rest ih =>
      obtain ⟨⟨hpasses, hadmits⟩, hrest⟩ := hguarded
      have hnext := ih (hsound.step hrefl htrans hQ hinterfere hstart hpasses hadmits) hrest
      refine htrans ?_ hnext
      cases event with
      | interfere event => exact (hinterfere pool.shared event hsound.shared hadmits).2
      | spawn request => exact hrefl pool.shared
      | advance index input =>
          have hpassed : nextPasses G pool.shared pool.tasks[index]? := hpasses
          simp only [Pool.step]
          split
          · rename_i label effect next hindex
            rw [hindex] at hpassed
            have hmeets := hsound.tasks _ (List.mem_of_getElem? hindex)
            exact (hmeets pool.shared (hrefl pool.shared) hsound.shared hpassed input).2.1
          · exact hrefl pool.shared

end Rely

/-- The rely rule when any interference is admitted. -/
theorem Sound.run {pool : Pool Λ σ ι α} {events : List (Event ε ρ ι)}
    (hrefl : ∀ state, R state state)
    (htrans : ∀ {first second third}, R first second → R second third → R first third)
    (hQ : ∀ answer first second, R first second → Q answer first → Q answer second)
    (hinterfere : ∀ state event, I state → I (interfere state event) ∧ R state (interfere state event))
    (hstart : ∀ request state, I state → (start request).Meets I R G Q state)
    (hsound : pool.Sound I R G Q)
    (hguarded : Guarded (Pool.step interfere start) (Passes G) pool events) :
    (Transition.run (Pool.step interfere start) pool events).Sound I R G Q := by
  apply guarded_run_invariant hsound _ hguarded
  intro before event hbefore hpasses
  have hadmits : before.Admits (fun _ _ => True) event := by
    cases event with
    | interfere event | spawn request | advance index input => trivial
  exact hbefore.step hrefl htrans hQ (fun state event hI _ => hinterfere state event hI) hstart
    hpasses hadmits

theorem Sound.answer {pool : Pool Λ σ ι α} {answer : α} (hsound : pool.Sound I R G Q)
    (hanswer : pool.Answered answer) : Q answer pool.shared :=
  hsound.tasks _ hanswer

end Runs

end Pool

end Concurrent
