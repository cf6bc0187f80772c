import Mosaico.State.StopEdges

/-!
# Native turns

What the daemon knows about the turns it starts itself over an RPC transport: the
ledger of attempts, durable and keyed by an increasing id, and the running turn
of each child, which the child's updates keep current.
-/

namespace Mosaico

open Relational Transition

/-! ## The ledger of attempts -/

inductive NativeTurnDeliveryKind where
  | inboxEvent
  | spawnPrompt
  deriving DecidableEq, Repr

inductive NativeTurnOutcome where
  | started
  | completed
  | failed
  | interrupted
  | rejectedBeforeStart
  | childExited
  | unknownReconciled
  deriving DecidableEq, Repr

structure NativeTurnAttempt where
  id : Nat
  pubkey : String
  runtimeGeneration : Nat
  deliveryKind : NativeTurnDeliveryKind
  deliveryEventId : String
  nativeThreadId : String
  nativeTurnId : String
  outcome : NativeTurnOutcome
  startedAt : Nat
  finishedAt : Nat
  deriving DecidableEq, Repr

/-- The native turn has no recorded outcome yet. -/
def NativeTurnAttempt.Open (attempt : NativeTurnAttempt) : Prop :=
  attempt.outcome = .started ∧ attempt.finishedAt = 0

instance (attempt : NativeTurnAttempt) : Decidable attempt.Open :=
  inferInstanceAs (Decidable (_ ∧ _))

structure NewNativeTurnAttempt where
  pubkey : String
  runtimeGeneration : Nat
  deliveryKind : NativeTurnDeliveryKind
  deliveryEventId : String
  nativeThreadId : String
  startedAt : Nat
  deriving DecidableEq

/-- The table and the sequence of its ids. -/
structure AttemptLedger where
  attempts : Table NativeTurnAttempt.id
  lastId : Nat

inductive LedgerError where
  | store (error : StoreError)
  | finishAsStarted
  deriving DecidableEq, Repr

namespace AttemptLedger

def empty : AttemptLedger where
  attempts := Table.empty
  lastId := 0

/-- The `CHECK` constraints of a new row. -/
def admits (row : NewNativeTurnAttempt) : Prop :=
  0 < row.runtimeGeneration ∧ row.nativeThreadId ≠ "" ∧ 0 < row.startedAt ∧
    (row.deliveryKind = .inboxEvent ↔ row.deliveryEventId ≠ "")

instance : DecidablePred admits := fun _ => inferInstanceAs (Decidable (_ ∧ _))

def startNativeTurnAttempt (ledger : AttemptLedger) (row : NewNativeTurnAttempt) :
    Except LedgerError (Nat × AttemptLedger) := do
  (bindParams [row.runtimeGeneration, row.startedAt]).mapError LedgerError.store
  ensure (admits row) (.store (.constraintViolation "native_turn_attempts"))
  return (ledger.lastId + 1,
    { attempts := ledger.attempts.insertOrIgnore
        { id := ledger.lastId + 1
          pubkey := row.pubkey
          runtimeGeneration := row.runtimeGeneration
          deliveryKind := row.deliveryKind
          deliveryEventId := row.deliveryEventId
          nativeThreadId := row.nativeThreadId
          nativeTurnId := ""
          outcome := .started
          startedAt := row.startedAt
          finishedAt := 0 }
      lastId := ledger.lastId + 1 })

/-- The condition of a finish. -/
def isOpenAttempt (id : Nat) (pubkey : String) (generation : Nat) (row : NativeTurnAttempt) :
    Prop :=
  row.id = id ∧ row.pubkey = pubkey ∧ row.runtimeGeneration = generation ∧ row.Open

instance (id : Nat) (pubkey : String) (generation : Nat) :
    DecidablePred (isOpenAttempt id pubkey generation) := fun _ =>
  inferInstanceAs (Decidable (_ ∧ _))

/-- Record the outcome of an open attempt, once. -/
def finishNativeTurnAttempt (ledger : AttemptLedger) (id : Nat) (pubkey : String)
    (generation : Nat) (nativeTurnId : String) (outcome : NativeTurnOutcome)
    (finishedAt : Nat) : Except LedgerError (Bool × AttemptLedger) := do
  ensure (outcome ≠ .started) .finishAsStarted
  (bindParams [generation, finishedAt]).mapError LedgerError.store
  ensure (ledger.attempts.Any (isOpenAttempt id pubkey generation) → 0 < finishedAt)
    (.store (.constraintViolation "native_turn_attempts"))
  return (decide (ledger.attempts.matching (isOpenAttempt id pubkey generation) = 1),
    { ledger with
      attempts := ledger.attempts.updateWhere (isOpenAttempt id pubkey generation)
        (fun row => { row with
          nativeTurnId := nativeTurnId
          outcome := outcome
          finishedAt := finishedAt }) })

/-- The ids of the attempts come from the sequence. -/
def Numbered (ledger : AttemptLedger) : Prop :=
  ∀ id row, ledger.attempts.find? id = some row → id ≤ ledger.lastId

theorem empty_numbered : empty.Numbered := by
  intro id row hfind
  cases hfind

/-- `after` is a later state of the ledger.  An attempt that was there keeps its
session, and is open only as long as nothing has touched it. -/
structure Extends (before after : AttemptLedger) : Prop where
  numbered : before.Numbered → after.Numbered
  lastId_le : before.lastId ≤ after.lastId
  attempts : ∀ id row, after.attempts.find? id = some row → id ≤ before.lastId →
    ∃ old, before.attempts.find? id = some old ∧ row.pubkey = old.pubkey ∧
      row.runtimeGeneration = old.runtimeGeneration ∧ (row.Open → old.Open)

theorem Extends.refl (ledger : AttemptLedger) : ledger.Extends ledger where
  numbered := id
  lastId_le := Nat.le_refl _
  attempts := fun _ row hfind _ => ⟨row, hfind, rfl, rfl, id⟩

theorem extends_of_start {ledger after : AttemptLedger} {new : NewNativeTurnAttempt} {id : Nat}
    (hok : ledger.startNativeTurnAttempt new = .ok (id, after)) : ledger.Extends after := by
  simp only [startNativeTurnAttempt, bind_eq_ok, pure_eq_ok, Prod.mk.injEq] at hok
  obtain ⟨_, _, _, _, _, rfl⟩ := hok
  refine ⟨?_, Nat.le_succ _, ?_⟩
  · intro hnumbered k row hfind
    dsimp only at hfind ⊢
    rw [Table.find?_insertOrIgnore] at hfind
    split at hfind
    · rename_i hkey
      exact Nat.le_of_eq hkey
    · exact Nat.le_succ_of_le (hnumbered k row hfind)
  · intro k row hfind hold
    have hother : k ≠ ledger.lastId + 1 := by omega
    dsimp only at hfind
    rw [Table.find?_insertOrIgnore, if_neg hother] at hfind
    exact ⟨row, hfind, rfl, rfl, fun hopen => hopen⟩

/-- The attempt that a start adds. -/
theorem find?_of_start {ledger after : AttemptLedger} {new : NewNativeTurnAttempt} {id : Nat}
    (hnumbered : ledger.Numbered)
    (hok : ledger.startNativeTurnAttempt new = .ok (id, after)) :
    id ≤ after.lastId ∧ ∃ row, after.attempts.find? id = some row ∧ row.pubkey = new.pubkey ∧
      row.runtimeGeneration = new.runtimeGeneration := by
  simp only [startNativeTurnAttempt, bind_eq_ok, pure_eq_ok, Prod.mk.injEq] at hok
  obtain ⟨_, _, _, _, rfl, rfl⟩ := hok
  have hfree : ledger.attempts.find? (ledger.lastId + 1) = none := by
    cases hfind : ledger.attempts.find? (ledger.lastId + 1) with
    | none => rfl
    | some row =>
        have hbound := hnumbered _ row hfind
        omega
  refine ⟨Nat.le_refl _, ?_⟩
  dsimp only
  rw [Table.find?_insertOrIgnore, if_pos rfl, hfree]
  exact ⟨_, rfl, rfl, rfl⟩

/-- A finished attempt is not open any more. -/
theorem extends_of_finish {ledger after : AttemptLedger} {id generation finishedAt : Nat}
    {pubkey nativeTurnId : String} {outcome : NativeTurnOutcome} {changed : Bool}
    (hok : ledger.finishNativeTurnAttempt id pubkey generation nativeTurnId outcome finishedAt =
      .ok (changed, after)) : ledger.Extends after := by
  simp only [finishNativeTurnAttempt, bind_eq_ok, ensure_eq_ok, pure_eq_ok, Prod.mk.injEq] at hok
  obtain ⟨_, houtcome, _, _, _, _, _, rfl⟩ := hok
  have hold : ∀ k row, (ledger.attempts.updateWhere (isOpenAttempt id pubkey generation)
      (fun row => { row with
        nativeTurnId := nativeTurnId
        outcome := outcome
        finishedAt := finishedAt })).find? k = some row →
      ∃ old, ledger.attempts.find? k = some old ∧ row.pubkey = old.pubkey ∧
        row.runtimeGeneration = old.runtimeGeneration ∧ (row.Open → old.Open) := by
    intro k row hfind
    rw [Table.find?_updateWhere] at hfind
    obtain ⟨old, hold, hupdated⟩ := Option.map_eq_some_iff.mp hfind
    split at hupdated
    · subst hupdated
      exact ⟨old, hold, rfl, rfl, fun hopen => absurd hopen.1 houtcome⟩
    · subst hupdated
      exact ⟨old, hold, rfl, rfl, fun hopen => hopen⟩
  refine ⟨?_, Nat.le_refl _, ?_⟩
  · intro hnumbered k row hfind
    obtain ⟨old, hfound, _⟩ := hold k row hfind
    exact hnumbered k old hfound
  · intro k row hfind _
    exact hold k row hfind

end AttemptLedger

/-! ## The running turn of a child -/

/-- How a delivery must be dispatched, given the running turn. -/
inductive SteerState where
  /-- A turn is running and its id is known. -/
  | ready (turnId : String)
  /-- A turn is running but its id has not been observed yet. -/
  | awaitingId
  | idle
  deriving DecidableEq, Repr

structure AcpRuntime where
  turnId : Option String
  turnActive : Bool
  deriving DecidableEq, Repr

namespace AcpRuntime

def fresh : AcpRuntime where
  turnId := none
  turnActive := false

def isTurnEnd (method : String) : Bool := decide (method = "turn/completed")

/-- Fold one notification into the runtime.  `turnId` is the turn id that its
parameters carry. -/
def noteUpdate (runtime : AcpRuntime) (method : String) (turnId : Option String) : AcpRuntime :=
  if isTurnEnd method then { turnId := none, turnActive := false }
  else match turnId with
    | some id => { turnId := some id, turnActive := true }
    | none => runtime

def markTurnStarted (runtime : AcpRuntime) : AcpRuntime :=
  { runtime with turnActive := true }

def markTurnFinished (_runtime : AcpRuntime) : AcpRuntime :=
  { turnId := none, turnActive := false }

def steerState (runtime : AcpRuntime) : SteerState :=
  match runtime.turnActive, runtime.turnId with
  | true, some id => .ready id
  | true, none => .awaitingId
  | false, _ => .idle

end AcpRuntime

end Mosaico
