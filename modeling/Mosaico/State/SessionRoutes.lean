import Mosaico.State.SessionLifecycle

/-!
# Session routes and relay admissions

Exact-session channel affinity, and the commit of a relay admission that was
confirmed outside the store: an admission carries the runtime generation and the
lifecycle epoch under which it was requested, and a completion that no longer
owns the session turns into durable cleanup work.
-/

namespace Mosaico

open Relational

/-- What became of a confirmed relay admission. -/
inductive ConfirmedAdmissionCommit where
  | committed
  | cleanupDue (standing : SessionStanding)
  | superseded
  deriving DecidableEq, Repr

/-- The part of that answer the cleanup transaction decides. -/
inductive PendingAdmissionOutcome where
  | cleanupDue
  | superseded
  deriving DecidableEq, Repr

namespace Store

/-! ## Routes -/

def grantSessionRoute (store : Store) (pubkey channelH : String) (grantedAt : Nat) :
    Except StoreError (Unit × Store) :=
  if Rust.isBlank channelH then return ((), store)
  else do
    bindParams [grantedAt]
    return ((), { store with
      sessionChannels := store.sessionChannels.insertOrIgnore
        { pubkey := pubkey, channelH := channelH, grantedAt := grantedAt } })

def revokeSessionRoute (store : Store) (pubkey channelH : String) :
    Except StoreError (Bool × Store) :=
  let route := fun row : SessionChannel => row.pubkey = pubkey ∧ row.channelH = channelH
  return (decide (store.sessionChannels.Any route),
    { store with sessionChannels := store.sessionChannels.deleteWhere route })

def hasSessionRoute (store : Store) (pubkey channelH : String) : Bool :=
  (store.sessionChannels.find? (pubkey, channelH)).isSome

/-- The routes of a session, oldest grant first. -/
def listSessionRoutes (store : Store) (pubkey : String) : List (String × Nat) :=
  (((store.routesOf pubkey).insertionSort
      (fun left right => left.channelH ≤ right.channelH)).insertionSort
    (fun left right => left.grantedAt ≤ right.grantedAt)).map
    (fun route => (route.channelH, route.grantedAt))

def revokeRouteAndMarkAbsent (store : Store) (pubkey channelH : String) (now : Nat) :
    Except StoreError (Bool × Store) := do
  bindParams [now]
  let (removed, routed) ← store.revokeSessionRoute pubkey channelH
  match store.getSession pubkey with
  | none => return (removed, routed)
  | some session =>
      return (removed, { routed with
        sessionStanding := routed.sessionStanding.upsert
          (SessionStanding.absentRow pubkey channelH session.lifecycleEpoch now)
          (fun row => row.rewrite .absent 0 session.lifecycleEpoch now) })

/-! ## Admissions -/

/-- The exact running lifecycle still owns the admission. -/
def ownsAdmission (store : Store) (pubkey : String) (runtimeGeneration lifecycleEpoch : Nat) :
    Prop :=
  store.sessions.Any (fun session => session.pubkey = pubkey ∧
    session.runtimeGeneration = runtimeGeneration ∧
    session.lifecycleEpoch = lifecycleEpoch ∧ session.runtimeState = .running ∧
    session.recoveryState ≠ .revoked)

instance (store : Store) (pubkey : String) (runtimeGeneration lifecycleEpoch : Nat) :
    Decidable (store.ownsAdmission pubkey runtimeGeneration lifecycleEpoch) :=
  inferInstanceAs (Decidable (Table.Any _ _))

/-- A `member` row that another lifecycle epoch wrote. -/
def hasOtherMember (store : Store) (pubkey channelH : String) (lifecycleEpoch : Nat) : Prop :=
  store.sessionStanding.Any (fun row => row.pubkey = pubkey ∧ row.channelH = channelH ∧
    row.state = .member ∧ row.sessionLifecycleEpoch ≠ lifecycleEpoch)

instance (store : Store) (pubkey channelH : String) (lifecycleEpoch : Nat) :
    Decidable (store.hasOtherMember pubkey channelH lifecycleEpoch) :=
  inferInstanceAs (Decidable (Table.Any _ _))

/-- `INSERT … 'retained' … ON CONFLICT DO UPDATE`, due at once. -/
def upsertCleanup (store : Store) (pubkey channelH : String) (lifecycleEpoch now : Nat) :
    Store :=
  { store with
    sessionStanding := store.sessionStanding.upsert
      { pubkey := pubkey
        channelH := channelH
        state := .retained
        retainUntil := now
        standingEpoch := 1
        sessionLifecycleEpoch := lifecycleEpoch
        updatedAt := now }
      (fun row => row.rewrite .retained now lifecycleEpoch now) }

def scheduleCleanupInTransaction (store : Store) (pubkey channelH : String)
    (lifecycleEpoch now : Nat) : Except StoreError (PendingAdmissionOutcome × Store) :=
  if store.hasOtherMember pubkey channelH lifecycleEpoch then
    return (.superseded, store)
  else do
    bindParams [now]
    return (.cleanupDue, store.upsertCleanup pubkey channelH lifecycleEpoch now)

def finishAdmissionOutcome (store : Store) (pubkey channelH : String)
    (outcome : PendingAdmissionOutcome) : Except StoreError (ConfirmedAdmissionCommit × Store) :=
  match outcome with
  | .cleanupDue =>
      match store.getSessionStanding pubkey channelH with
      | some row => return (.cleanupDue row, store)
      | none => throw .cleanupRowDisappeared
  | .superseded => return (.superseded, store)

def commitConfirmedSessionAdmission (store : Store) (pubkey channelH : String)
    (runtimeGeneration lifecycleEpoch now : Nat) :
    Except StoreError (ConfirmedAdmissionCommit × Store) := do
  bindParams [runtimeGeneration, lifecycleEpoch]
  if store.ownsAdmission pubkey runtimeGeneration lifecycleEpoch then
    bindParams [now]
    let routed := { store with
      sessionChannels := store.sessionChannels.upsert
        { pubkey := pubkey, channelH := channelH, grantedAt := now }
        (fun route => { route with grantedAt := now }) }
    return (.committed, routed.upsertMember pubkey channelH lifecycleEpoch now)
  else
    let (outcome, after) ←
      store.scheduleCleanupInTransaction pubkey channelH lifecycleEpoch now
    after.finishAdmissionOutcome pubkey channelH outcome

/-- The exact admission is durably present. -/
def admissionCommitted (store : Store) (pubkey channelH : String)
    (runtimeGeneration lifecycleEpoch : Nat) : Prop :=
  store.ownsAdmission pubkey runtimeGeneration lifecycleEpoch ∧
    store.hasSessionRoute pubkey channelH = true ∧
    store.sessionStanding.Any (fun row => row.pubkey = pubkey ∧ row.channelH = channelH ∧
      row.state = .member ∧ row.sessionLifecycleEpoch = lifecycleEpoch)

instance (store : Store) (pubkey channelH : String) (runtimeGeneration lifecycleEpoch : Nat) :
    Decidable (store.admissionCommitted pubkey channelH runtimeGeneration lifecycleEpoch) :=
  inferInstanceAs (Decidable (_ ∧ _))

/-- Persist compensation for relay admission whose primary commit failed. -/
def scheduleConfirmedAdmissionCleanup (store : Store) (pubkey channelH : String)
    (runtimeGeneration lifecycleEpoch now : Nat) :
    Except StoreError (ConfirmedAdmissionCommit × Store) := do
  bindParams [runtimeGeneration, lifecycleEpoch]
  if store.admissionCommitted pubkey channelH runtimeGeneration lifecycleEpoch then
    return (.committed, store)
  else
    let (outcome, after) ←
      store.scheduleCleanupInTransaction pubkey channelH lifecycleEpoch now
    after.finishAdmissionOutcome pubkey channelH outcome

end Store

end Mosaico
