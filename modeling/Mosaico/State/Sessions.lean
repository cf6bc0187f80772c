import Mosaico.State.SessionStanding

/-!
# Durable sessions and runtime incarnations

Reservation of the sole running incarnation of a pubkey, the writes of the
columns that carry no lifecycle meaning, and the stop of a running incarnation.
-/

namespace Mosaico

open Relational Transition

/-! ## Admission checks -/

/-- The harness named by an already trimmed text is known. -/
def knownHarness (trimmed : String) : Bool :=
  Harness.fromStr trimmed ≠ .unknown && (Harness.fromStr trimmed).asStr == trimmed

/-- The checks that depend on where the endpoint facts came from. -/
def validateProvenance (facts : AdmittedRuntimeFacts) : Except StoreError Unit :=
  if facts.endpointProvenance = "launch" then do
    ensure (facts.claimedHarness = "") .launchForbidsClaimedHarness
    ensure (¬ Rust.isBlank facts.bundle) .launchRequiresBundle
    ensure (facts.transport ≠ "") .launchRequiresTransport
  else if facts.endpointProvenance = "hook" then do
    let claimed := Rust.trim facts.claimedHarness
    ensure (claimed ≠ "") .hookRequiresClaimedHarness
    ensure (knownHarness claimed) (.unknownClaimedHarness claimed)
    ensure (facts.bundle = "") .hookForbidsBundle
  else
    throw (.unknownProvenance facts.endpointProvenance)

def validateRuntimeFacts (r : RegisterSession) (facts : AdmittedRuntimeFacts) :
    Except StoreError Unit := do
  let observed := Rust.trim facts.observedHarness
  ensure (observed ≠ "") .missingObservedHarness
  ensure (knownHarness observed) (.unknownObservedHarness observed)
  ensure (r.observedHarness = observed)
    (.mismatchedObservedHarness r.observedHarness observed)
  ensure (facts.transport ∈ ["", "pty", "acp", "app-server"])
    (.unknownTransport facts.transport)
  validateProvenance facts

namespace Session

/-! ## Row assignments -/

/-- The row of a pubkey that registers for the first time. -/
def registered (r : RegisterSession) (facts : AdmittedRuntimeFacts) (generation : Nat) :
    Session :=
  { Session.defaults r.pubkey generation r.now with
    agentSlug := r.agentSlug
    channelH := r.channelH
    observedHarness := facts.observedHarness
    claimedHarness := facts.claimedHarness
    admittedBundle := facts.bundle
    admittedTransport := facts.transport
    endpointProvenance := facts.endpointProvenance
    childPid := r.childPid
    lastSeen := r.now
    stateChangedAt := r.now }

/-- A launch overrides the endpoint facts, and a hook never overrides those of
a launch. -/
def admittedFact (old : Session) (facts : AdmittedRuntimeFacts) (offered current : String) :
    String :=
  if facts.endpointProvenance = "launch" then offered
  else if old.endpointProvenance = "launch" then current
  else offered

/-- The row of a stopped pubkey that registers again. -/
def relaunched (r : RegisterSession) (facts : AdmittedRuntimeFacts) (generation : Nat)
    (old : Session) : Session :=
  { old with
    runtimeGeneration := generation
    agentSlug := r.agentSlug
    channelH := r.channelH
    observedHarness := old.admittedFact facts facts.observedHarness old.observedHarness
    claimedHarness := if facts.claimedHarness ≠ "" then facts.claimedHarness
      else old.claimedHarness
    admittedBundle := old.admittedFact facts facts.bundle old.admittedBundle
    admittedTransport := old.admittedFact facts facts.transport old.admittedTransport
    endpointProvenance :=
      old.admittedFact facts facts.endpointProvenance old.endpointProvenance
    childPid := r.childPid
    runtimeState := .running
    presentationState := .unavailable
    workState := .idle
    lifecycleEpoch := old.lifecycleEpoch + 1
    attachmentEpoch := 0
    idleSince := 0
    idleDeadline := 0
    stoppedAt := 0
    stopReason := none
    createdAt := r.now
    lastSeen := r.now
    turnStartedAt := 0
    stateChangedAt := r.now }

/-- The seconds of the turn that a stop interrupts. -/
def interruptedSeconds (row : Session) (stoppedAt : Nat) : Nat :=
  if row.workState = .working ∧ 0 < row.turnStartedAt then stoppedAt - row.turnStartedAt else 0

/-- The assignment shared by every transition into `stopped`. -/
def stopped (row : Session) (reason : StopReason) (stoppedAt : Nat) : Session :=
  { row with
    runtimeState := .stopped
    presentationState := .unavailable
    workState := .idle
    lifecycleEpoch := row.lifecycleEpoch + 1
    idleSince := 0
    idleDeadline := 0
    busySeconds := row.busySeconds + row.interruptedSeconds stoppedAt
    stoppedAt := stoppedAt
    stopReason := some reason
    turnStartedAt := 0
    stateChangedAt := stoppedAt }

theorem pubkey_stopped (reason : StopReason) (stoppedAt : Nat) (row : Session) :
    (row.stopped reason stoppedAt).pubkey = row.pubkey := rfl

end Session

def headlessIdleTimeoutSecs : Nat := 10 * 60

def stoppedStandingRetentionSecs : Nat := 60 * 60

namespace Store

/-! ## Reservation -/

/-- Stopping runtimes still own their pubkey; only stopped runtimes advance the
generation, and revoked recovery authority can never be relaunched. -/
def nextGeneration (store : Store) (pubkey : String) : Except StoreError Nat :=
  match store.getSession pubkey with
  | none => return 1
  | some row => do
      ensure (row.runtimeState = .stopped) (.activeRuntime pubkey)
      ensure (row.recoveryState ≠ .revoked) (.recoveryRevoked pubkey)
      ensure (row.runtimeGeneration + 1 ≤ Rust.u64Max) .generationExhausted
      return row.runtimeGeneration + 1

/-- `INSERT OR IGNORE` of the route and, unless the pair has standing already,
of its `absent` standing at the session's current lifecycle epoch. -/
def grantRouteAndInitializeStanding (store : Store) (registration : RegisterSession) : Store :=
  let routed := { store with
    sessionChannels := store.sessionChannels.insertOrIgnore
      { pubkey := registration.pubkey
        channelH := registration.channelH
        grantedAt := registration.now } }
  match store.getSession registration.pubkey with
  | none => routed
  | some row =>
      { routed with
        sessionStanding := store.sessionStanding.insertOrIgnore
          (SessionStanding.absentRow registration.pubkey registration.channelH
            row.lifecycleEpoch registration.now) }

/-- The writes of an admitted reservation. -/
def admitRuntime (store : Store) (r : RegisterSession) (facts : AdmittedRuntimeFacts)
    (generation : Nat) : Store :=
  let inserted := { store with
    sessions := store.sessions.upsert (Session.registered r facts generation)
      (Session.relaunched r facts generation) }
  let routed := if Rust.isBlank r.channelH then inserted
    else inserted.grantRouteAndInitializeStanding r
  routed.markHandleLive r.pubkey r.now

/-- Reserve the sole running incarnation together with its admitted facts. -/
def reserveSessionWithFacts (store : Store) (r : RegisterSession)
    (facts : AdmittedRuntimeFacts) : Except StoreError (Nat × Store) := do
  ensure (¬ Rust.isBlank r.pubkey) .emptyPubkey
  validateRuntimeFacts r facts
  let generation ← store.nextGeneration r.pubkey
  bindParams [generation, r.now]
  return (generation, store.admitRuntime r facts generation)

/-! ## Columns without lifecycle meaning -/

/-- Record a hook host claim without changing launch/process-observed facts. -/
def recordClaimedHarness (store : Store) (pubkey claimedHarness : String) :
    Except StoreError (Unit × Store) :=
  if claimedHarness = "" then return ((), store)
  else return ((), { store with
    sessions := store.sessions.updateWhere (fun row => row.pubkey = pubkey)
      (fun row => { row with claimedHarness := claimedHarness }) })

def touchSession (store : Store) (pubkey : String) (lastSeen : Nat) :
    Except StoreError (Unit × Store) := do
  bindParams [lastSeen]
  let touched := { store with
    sessions := store.sessions.updateWhere (fun row => row.pubkey = pubkey)
      (fun row => { row with lastSeen := lastSeen }) }
  return ((), touched.touchHandleForPubkey pubkey lastSeen)

/-- `now` is the wall clock the source reads. -/
def bindRuntimeProcess (store : Store) (pubkey : String) (runtimeGeneration : Nat)
    (childPid : Option Int) (now : Nat) : Except StoreError (Bool × Store) := do
  bindParams [runtimeGeneration, now]
  let bound := fun row : Session => row.pubkey = pubkey ∧
    row.runtimeGeneration = runtimeGeneration ∧ row.runtimeState = .running ∧
    row.recoveryState ≠ .revoked
  let after : Store := { store with
    sessions := store.sessions.updateWhere bound
      (fun row => { row with childPid := childPid, lastSeen := now }) }
  return (decide (0 < store.sessions.matching bound), after)

/-- Persist the caller-declared title used by local and relay status views. -/
def setSessionTitle (store : Store) (pubkey title : String) :
    Except StoreError (Unit × Store) :=
  return ((), { store with
    sessions := store.sessions.updateWhere (fun row => row.pubkey = pubkey)
      (fun row => { row with title := title }) })

/-! ## Updates of the session table -/

/-- The condition `pubkey=?1 AND runtime_generation=?2 AND
runtime_state='running'` shared by the lifecycle statements. -/
def isRunningGeneration (pubkey : String) (generation : Nat) (row : Session) : Prop :=
  row.pubkey = pubkey ∧ row.runtimeGeneration = generation ∧ row.runtimeState = .running

instance (pubkey : String) (generation : Nat) :
    DecidablePred (isRunningGeneration pubkey generation) := fun _ =>
  inferInstanceAs (Decidable (_ ∧ _))

/-- `UPDATE sessions SET assign WHERE applies` together with
`changes() == 1`. -/
def updateSessions (store : Store) (applies : Session → Prop) [DecidablePred applies]
    (assign : Session → Session)
    (hkey : ∀ row, (assign row).pubkey = row.pubkey := by intro row; cases row; rfl) : Bool × Store :=
  (decide (store.sessions.matching applies = 1),
    { store with sessions := store.sessions.updateWhere applies assign hkey })

/-! ## Stopping -/

/-- How long the relay membership of a stopped session is retained. -/
def retainUntil (reason : StopReason) (stoppedAt : Nat) : Nat :=
  if reason = .attachedCleanExit ∨ reason = .revoked then stoppedAt
  else Rust.saturatingAdd stoppedAt stoppedStandingRetentionSecs

def markRuntimeStoppedIfGeneration (store : Store) (pubkey : String) (generation : Nat)
    (reason : StopReason) (stoppedAt : Nat) : Except StoreError (Bool × Store) := do
  bindParams [generation, stoppedAt]
  let (changed, stopped) := store.updateSessions (isRunningGeneration pubkey generation)
    (fun row => row.stopped reason stoppedAt)
  if changed then
    match stopped.getSession pubkey with
    | none => throw .noRow
    | some row =>
        let after ← (stopped.markHandleStoppedAt pubkey row.lastSeen).retainInTransaction
          pubkey row.lifecycleEpoch (retainUntil reason stoppedAt) stoppedAt
        return (true, after)
  else
    return (false, stopped)

end Store

end Mosaico
