import Mathlib.Data.List.Sort
import Mosaico.State.Store

/-!
# Session standing

The writes of the `session_standing` table that are not part of a relay
admission.  Every write raises `standing_epoch` by one; the lifecycle epoch
that a row records is the one of the session transition that wrote it.
-/

namespace Mosaico

open Relational

namespace SessionStanding

/-- The row inserted for a route that has no standing yet. -/
def absentRow (pubkey channelH : String) (lifecycleEpoch now : Nat) : SessionStanding where
  pubkey := pubkey
  channelH := channelH
  state := .absent
  retainUntil := 0
  standingEpoch := 1
  sessionLifecycleEpoch := lifecycleEpoch
  updatedAt := now

/-- `SET state=…, retain_until=…, standing_epoch=standing_epoch+1,
session_lifecycle_epoch=…, updated_at=…`. -/
def rewrite (row : SessionStanding) (state : StandingState)
    (retainUntil lifecycleEpoch now : Nat) : SessionStanding :=
  { row with
    state := state
    retainUntil := retainUntil
    standingEpoch := row.standingEpoch + 1
    sessionLifecycleEpoch := lifecycleEpoch
    updatedAt := now }

@[simp] theorem rewrite_standingEpoch (row : SessionStanding) (state : StandingState)
    (retainUntil lifecycleEpoch now : Nat) :
    (row.rewrite state retainUntil lifecycleEpoch now).standingEpoch =
      row.standingEpoch + 1 := rfl

end SessionStanding

namespace Store

def getSessionStanding (store : Store) (pubkey channelH : String) : Option SessionStanding :=
  store.sessionStanding.find? (pubkey, channelH)

def listSessionStanding (store : Store) (pubkey : String) : List SessionStanding :=
  (store.sessionStanding.select (fun row => row.pubkey = pubkey)).insertionSort
    (fun left right => left.channelH ≤ right.channelH)

/-- The routes of a session, in table order. -/
def routesOf (store : Store) (pubkey : String) : List SessionChannel :=
  store.sessionChannels.select (fun route => route.pubkey = pubkey)

/-- Give every route of the session without standing an `absent` row. -/
def initializeStanding (store : Store) (pubkey : String) (lifecycleEpoch now : Nat) : Store :=
  { store with
    sessionStanding := store.sessionStanding.insertAllOrIgnore
      ((store.routesOf pubkey).map (fun route =>
        SessionStanding.absentRow route.pubkey route.channelH lifecycleEpoch now)) }

/-- Move every `member` row of the session to `retained`. -/
def retainMembers (store : Store) (pubkey : String)
    (lifecycleEpoch retainUntil now : Nat) : Store :=
  { store with
    sessionStanding := store.sessionStanding.updateWhere
      (fun row => row.pubkey = pubkey ∧ row.state = .member)
      (fun row => row.rewrite .retained retainUntil lifecycleEpoch now) }

def retainInTransaction (store : Store) (pubkey : String)
    (lifecycleEpoch retainUntil now : Nat) : Except StoreError Store := do
  bindParams [retainUntil, now]
  return (store.initializeStanding pubkey lifecycleEpoch now).retainMembers
    pubkey lifecycleEpoch retainUntil now

/-- The session row qualifies as the owner of a relay admission. -/
def runningUnrevoked (store : Store) (pubkey : String) (lifecycleEpoch : Nat) : Prop :=
  store.sessions.Any (fun session => session.pubkey = pubkey ∧
    session.runtimeState = .running ∧ session.lifecycleEpoch = lifecycleEpoch ∧
    session.recoveryState ≠ .revoked)

instance (store : Store) (pubkey : String) (lifecycleEpoch : Nat) :
    Decidable (store.runningUnrevoked pubkey lifecycleEpoch) :=
  inferInstanceAs (Decidable (Table.Any _ _))

/-- `INSERT … 'member' … ON CONFLICT DO UPDATE`. -/
def upsertMember (store : Store) (pubkey channelH : String) (lifecycleEpoch now : Nat) :
    Store :=
  { store with
    sessionStanding := store.sessionStanding.upsert
      { pubkey := pubkey
        channelH := channelH
        state := .member
        retainUntil := 0
        standingEpoch := 1
        sessionLifecycleEpoch := lifecycleEpoch
        updatedAt := now }
      (fun row => row.rewrite .member 0 lifecycleEpoch now) }

/-- Apply confirmed relay admission only while the same running lifecycle
still owns the request. -/
def markSessionStandingMemberIfRunning (store : Store) (pubkey channelH : String)
    (expectedLifecycleEpoch now : Nat) : Except StoreError (Option Nat × Store) := do
  bindParams [expectedLifecycleEpoch, now]
  if store.runningUnrevoked pubkey expectedLifecycleEpoch then
    let after := store.upsertMember pubkey channelH expectedLifecycleEpoch now
    match after.getSessionStanding pubkey channelH with
    | some row => return (some row.standingEpoch, after)
    | none => throw .noRow
  else
    return (none, store)

/-- Move every currently-member route to retained standing, fenced by the
stopped session lifecycle that created the one-hour deadline. -/
def retainStoppedSessionRoutes (store : Store) (pubkey : String)
    (expectedLifecycleEpoch retainUntil now : Nat) :
    Except StoreError (Option (List SessionStanding) × Store) := do
  bindParams [expectedLifecycleEpoch]
  if store.sessions.Any (fun session => session.pubkey = pubkey ∧
      session.runtimeState = .stopped ∧ session.lifecycleEpoch = expectedLifecycleEpoch) then
    let after ← store.retainInTransaction pubkey expectedLifecycleEpoch retainUntil now
    return (some (after.listSessionStanding pubkey), after)
  else
    return (none, store)

def markSessionStandingAbsentIfEpoch (store : Store) (pubkey channelH : String)
    (expectedState : StandingState) (standingEpoch sessionLifecycleEpoch now : Nat) :
    Except StoreError (Bool × Store) := do
  bindParams [standingEpoch, sessionLifecycleEpoch, now]
  let owned := fun row : SessionStanding => row.key = (pubkey, channelH) ∧
    row.state = expectedState ∧ row.standingEpoch = standingEpoch ∧
    row.sessionLifecycleEpoch = sessionLifecycleEpoch
  let after : Store :=
    { store with
      sessionStanding := store.sessionStanding.updateWhere owned
        (fun row => row.rewrite .absent 0 row.sessionLifecycleEpoch now) }
  return (decide (store.sessionStanding.matching owned = 1), after)

end Store

end Mosaico
