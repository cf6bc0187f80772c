import Mosaico.State.Sessions

/-!
# Lifecycle edges and deadlines

The reducer for persisted runtime lifecycle edges: presentation edges of the
terminal supervisor, turn starts and ends, the idle deadline, and the two-phase
idle eviction.  Each operation is one conditional `UPDATE`, so its definition
names the condition (`…Applies`) and the assignment (`…Edge`) of that statement.
-/

namespace Mosaico

open Relational

namespace Session

/-! ## Row assignments -/

/-- `CASE WHEN armed THEN since+600 ELSE 0 END`. -/
def idleDeadlineIf (armed : Prop) [Decidable armed] (since : Nat) : Nat :=
  if armed then Rust.saturatingAdd since headlessIdleTimeoutSecs else 0

def presentationEdge (row : Session) (attachmentEpoch : Nat)
    (presentation : PresentationState) (instant : Nat) : Session :=
  { row with
    presentationState := presentation
    attachmentEpoch := attachmentEpoch
    idleSince :=
      if presentation = .headless ∧ row.workState = .idle then instant else 0
    idleDeadline :=
      idleDeadlineIf (presentation = .headless ∧ row.workState = .idle) instant }

def presentationLost (row : Session) (instant : Nat) : Session :=
  { row with
    presentationState := .unavailable
    idleSince := 0
    idleDeadline := 0
    stateChangedAt := instant }

/-- A turn start on a working session repeats the turn that is already open. -/
def turnStarted (row : Session) (instant : Nat) : Session :=
  { row with
    turnStartedAt := if row.workState = .idle then instant else row.turnStartedAt
    workState := .working
    turnCount := row.turnCount + if row.workState = .idle then 1 else 0
    stateChangedAt := if row.workState = .idle then instant else row.stateChangedAt
    idleSince := 0
    idleDeadline := 0 }

def turnEnded (row : Session) (instant : Nat) : Session :=
  { row with
    busySeconds := row.busySeconds +
      if 0 < row.turnStartedAt then instant - row.turnStartedAt else 0
    workState := .idle
    turnStartedAt := 0
    stateChangedAt := instant
    idleSince := if row.presentationState = .headless then instant else 0
    idleDeadline := idleDeadlineIf (row.presentationState = .headless) instant }

/-- The idle clock, not armed. -/
def disarmIdle (row : Session) : Session :=
  { row with
    idleSince := 0
    idleDeadline := 0 }

theorem pubkey_disarmIdle (row : Session) : row.disarmIdle.pubkey = row.pubkey := rfl

def evictionReserved (row : Session) (now : Nat) : Session :=
  { row with
    runtimeState := .stopping
    lifecycleEpoch := row.lifecycleEpoch + 1
    idleSince := 0
    idleDeadline := 0
    stoppedAt := now
    stopReason := some .idleEvicted
    stateChangedAt := now }

def evictionCancelled (row : Session) (attachmentEpoch : Nat)
    (presentation : PresentationState) (instant : Nat) : Session :=
  { row with
    runtimeState := .running
    presentationState := presentation
    stopReason := none
    attachmentEpoch := attachmentEpoch
    lifecycleEpoch := row.lifecycleEpoch + 1
    stoppedAt := 0
    stateChangedAt := instant
    idleSince := if presentation = .headless then instant else 0
    idleDeadline := idleDeadlineIf (presentation = .headless) instant }

end Session

/-- The inbox row still needs the recipient's runtime: it waits for delivery or
its prompt echo is outstanding. -/
def InboxRow.isOutstandingFor (row : InboxRow) (pubkey : String) : Prop :=
  row.targetPubkey = pubkey ∧ (row.state = .pending ∨ row.state = .injected)

instance (row : InboxRow) (pubkey : String) : Decidable (row.isOutstandingFor pubkey) :=
  inferInstanceAs (Decidable (_ ∧ _))

namespace Store

/-- Some inbox row of the pubkey is pending or injected. -/
def hasOutstanding (store : Store) (pubkey : String) : Prop :=
  store.inbox.Any (fun row => row.isOutstandingFor pubkey)

instance (store : Store) (pubkey : String) : Decidable (store.hasOutstanding pubkey) :=
  inferInstanceAs (Decidable (Table.Any _ _))

/-! ## Presentation -/

def presentationEdgeApplies (pubkey : String) (generation attachmentEpoch : Nat)
    (row : Session) : Prop :=
  isRunningGeneration pubkey generation row ∧
    (row.attachmentEpoch < attachmentEpoch ∨
      (row.attachmentEpoch = attachmentEpoch ∧ row.presentationState = .unavailable))

instance (pubkey : String) (generation attachmentEpoch : Nat) :
    DecidablePred (presentationEdgeApplies pubkey generation attachmentEpoch) := fun _ =>
  inferInstanceAs (Decidable (_ ∧ _))

/-- The instant is bound only for a headless edge; a headed edge binds zero and
the bare timeout. -/
def applySessionPresentationEdge (store : Store) (pubkey : String)
    (generation attachmentEpoch : Nat) (presentation : PresentationState) (instant : Nat) :
    Except StoreError (Bool × Store) := do
  let idleSince := if presentation = .headless then instant else 0
  bindParams [generation, attachmentEpoch, idleSince,
    Rust.saturatingAdd idleSince headlessIdleTimeoutSecs]
  return store.updateSessions (presentationEdgeApplies pubkey generation attachmentEpoch)
    (fun row => row.presentationEdge attachmentEpoch presentation instant)

/-- Persist loss of presentation observability without inventing an attachment
edge.  The expected epoch prevents a failed old probe from hiding a newer
attach/detach transition. -/
def markSessionPresentationUnavailable (store : Store) (pubkey : String)
    (generation attachmentEpoch instant : Nat) : Except StoreError (Bool × Store) := do
  bindParams [generation, attachmentEpoch, instant]
  return store.updateSessions
    (fun row => isRunningGeneration pubkey generation row ∧
      row.attachmentEpoch = attachmentEpoch)
    (fun row => row.presentationLost instant)

/-! ## Turns -/

def applySessionTurnStarted (store : Store) (pubkey : String) (generation instant : Nat) :
    Except StoreError (Bool × Store) := do
  bindParams [generation, instant]
  return store.updateSessions (isRunningGeneration pubkey generation)
    (fun row => row.turnStarted instant)

/-- A turn end consumes every outstanding prompt echo of the pubkey in the same
transaction. -/
def applySessionTurnEnded (store : Store) (pubkey : String) (generation instant : Nat) :
    Except StoreError (Bool × Store) := do
  bindParams [generation, instant, Rust.saturatingAdd instant headlessIdleTimeoutSecs]
  let (changed, ended) := store.updateSessions
    (fun row => isRunningGeneration pubkey generation row ∧ row.workState = .working)
    (fun row => row.turnEnded instant)
  if changed then
    return (true, { ended with
      inbox := ended.inbox.updateWhere
        (fun row => row.targetPubkey = pubkey ∧ row.state = .injected)
        (fun row => { row with state := .echoConsumed }) })
  else
    return (false, ended)

def cancelSessionIdleDeadlineForDelivery (store : Store) (pubkey : String)
    (generation : Nat) : Except StoreError (Bool × Store) := do
  bindParams [generation]
  return store.updateSessions (isRunningGeneration pubkey generation) Session.disarmIdle

/-! ## Idle eviction -/

/-- The row is due for eviction at `now`, the inbox aside. -/
def evictionDue (now : Nat) (row : Session) : Prop :=
  row.runtimeState = .running ∧ row.presentationState = .headless ∧ row.workState = .idle ∧
    0 < row.idleDeadline ∧ row.idleDeadline ≤ now

instance (now : Nat) : DecidablePred (evictionDue now) := fun _ =>
  inferInstanceAs (Decidable (_ ∧ _))

def listDueIdleEvictions (store : Store) (now : Nat) : Except StoreError (List Session) := do
  bindParams [now]
  let due := store.sessions.select (fun row =>
    evictionDue now row ∧ ¬ store.hasOutstanding row.pubkey)
  return (due.insertionSort (fun left right => left.pubkey ≤ right.pubkey)).insertionSort
    (fun left right => left.idleDeadline ≤ right.idleDeadline)

def evictionApplies (store : Store) (pubkey : String)
    (generation lifecycleEpoch attachmentEpoch now : Nat) (row : Session) : Prop :=
  row.pubkey = pubkey ∧ row.runtimeGeneration = generation ∧
    row.lifecycleEpoch = lifecycleEpoch ∧ row.attachmentEpoch = attachmentEpoch ∧
    evictionDue now row ∧ ¬ store.hasOutstanding row.pubkey

instance (store : Store) (pubkey : String)
    (generation lifecycleEpoch attachmentEpoch now : Nat) :
    DecidablePred (store.evictionApplies pubkey generation lifecycleEpoch attachmentEpoch now) :=
  fun _ => inferInstanceAs (Decidable (_ ∧ _))

def reserveDueIdleEviction (store : Store) (pubkey : String)
    (generation lifecycleEpoch attachmentEpoch now : Nat) :
    Except StoreError (Option Session × Store) := do
  bindParams [generation, lifecycleEpoch, attachmentEpoch, now]
  let (changed, after) := store.updateSessions
    (store.evictionApplies pubkey generation lifecycleEpoch attachmentEpoch now)
    (fun row => row.evictionReserved now)
  if changed then return (after.getSession pubkey, after) else return (none, after)

def evictionCancelApplies (pubkey : String)
    (generation stoppingLifecycleEpoch attachmentEpoch : Nat)
    (presentation : PresentationState) (row : Session) : Prop :=
  row.pubkey = pubkey ∧ row.runtimeGeneration = generation ∧ row.runtimeState = .stopping ∧
    row.lifecycleEpoch = stoppingLifecycleEpoch ∧
    (row.attachmentEpoch < attachmentEpoch ∨
      (presentation = .unavailable ∧ row.attachmentEpoch = attachmentEpoch))

instance (pubkey : String) (generation stoppingLifecycleEpoch attachmentEpoch : Nat)
    (presentation : PresentationState) :
    DecidablePred (evictionCancelApplies pubkey generation stoppingLifecycleEpoch
      attachmentEpoch presentation) := fun _ =>
  inferInstanceAs (Decidable (_ ∧ _))

def cancelIdleEvictionOnPresentationChange (store : Store) (pubkey : String)
    (generation stoppingLifecycleEpoch attachmentEpoch : Nat)
    (presentation : PresentationState) (instant : Nat) :
    Except StoreError (Bool × Store) := do
  bindParams [generation, stoppingLifecycleEpoch, attachmentEpoch, instant,
    Rust.saturatingAdd instant headlessIdleTimeoutSecs]
  return store.updateSessions
    (evictionCancelApplies pubkey generation stoppingLifecycleEpoch attachmentEpoch presentation)
    (fun row => row.evictionCancelled attachmentEpoch presentation instant)

def finalizeRuntimeStoppedIfEpoch (store : Store) (pubkey : String)
    (generation stoppingLifecycleEpoch : Nat) (reason : StopReason) (stoppedAt : Nat) :
    Except StoreError (Option Session × Store) := do
  bindParams [generation, stoppingLifecycleEpoch, stoppedAt]
  let (changed, stopped) := store.updateSessions
    (fun row => row.pubkey = pubkey ∧ row.runtimeGeneration = generation ∧
      row.runtimeState = .stopping ∧ row.lifecycleEpoch = stoppingLifecycleEpoch)
    (fun row => row.stopped reason stoppedAt) (Session.pubkey_stopped reason stoppedAt)
  if changed then
    match stopped.getSession pubkey with
    | none => throw .noRow
    | some row =>
        let after ← (stopped.markHandleStoppedAt pubkey stoppedAt).retainInTransaction pubkey
          row.lifecycleEpoch (Rust.saturatingAdd stoppedAt stoppedStandingRetentionSecs)
          stoppedAt
        return (after.getSession pubkey, after)
  else
    return (none, store)

end Store

end Mosaico
