import Mosaico.Relational.Table
import Mosaico.State.Types
import Mosaico.Transition.Run

/-!
# The store

The tables of the local database that the modelled operations read and write.
Every public operation has a result `Except StoreError (α × Store)`: it either
fails, and then nothing has been written, or it returns a value and the next
store.  In the source this is an immediate transaction or a single statement.

A `u64` parameter of a statement is bound through `i64`; `bindParams` is the
failure of that conversion.
-/

namespace Mosaico

open Relational Transition

/-- The local database. -/
structure Store where
  sessions : Table Session.pubkey
  sessionChannels : Table SessionChannel.key
  sessionStanding : Table SessionStanding.key
  sessionLocators : Table SessionLocator.key
  sessionSigners : Table SessionSigner.pubkey
  handleLeases : Table HandleLease.handle
  mcpActorAliases : Table McpActorAlias.actorKey
  inbox : Table InboxRow.key
  eventClaims : Table EventClaim.key

/-- A freshly opened database. -/
def Store.empty : Store where
  sessions := Table.empty
  sessionChannels := Table.empty
  sessionStanding := Table.empty
  sessionLocators := Table.empty
  sessionSigners := Table.empty
  handleLeases := Table.empty
  mcpActorAliases := Table.empty
  inbox := Table.empty
  eventClaims := Table.empty

/-- Why a store operation fails. -/
inductive StoreError where
  /-- An integer parameter is above `i64::MAX`. -/
  | parameterOutOfRange
  | constraintViolation (table : String)
  | noRow
  | emptyPubkey
  | activeRuntime (pubkey : String)
  | recoveryRevoked (pubkey : String)
  | generationExhausted
  | missingObservedHarness
  | unknownObservedHarness (observed : String)
  | mismatchedObservedHarness (registered observed : String)
  | unknownTransport (transport : String)
  | launchForbidsClaimedHarness
  | launchRequiresBundle
  | launchRequiresTransport
  | hookRequiresClaimedHarness
  | unknownClaimedHarness (claimed : String)
  | hookForbidsBundle
  | unknownProvenance (provenance : String)
  | unknownLocatorKind (kind : String)
  | locatorWithoutSession
  | nativeResumeUnknownPubkey (pubkey : String)
  | nativeClaimUnknownPubkey (pubkey : String)
  | nativeLocatorOwned (pubkey : String)
  | actorIdentityChanged (actorKey : String)
  | actorStopping
  | actorRevoked
  | cleanupRowDisappeared
  deriving DecidableEq, Repr

/-- The text of an error.  `debug` is Rust's `{:?}` rendering of a string. -/
def StoreError.text (debug : String → String) : StoreError → String
  | .parameterOutOfRange => "out of range integral type conversion attempted"
  | .constraintViolation table => "constraint failed: " ++ table
  | .noRow => "Query returned no rows"
  | .emptyPubkey => "session pubkey must not be empty"
  | .activeRuntime pubkey => "pubkey " ++ pubkey ++ " already has an active runtime"
  | .recoveryRevoked pubkey => "pubkey " ++ pubkey ++ " recovery authority is revoked"
  | .generationExhausted => "runtime generation exhausted"
  | .missingObservedHarness => "runtime facts require observed_harness"
  | .unknownObservedHarness observed =>
      "runtime facts contain unknown observed_harness " ++ debug observed
  | .mismatchedObservedHarness registered observed =>
      "registration observed_harness " ++ debug registered ++
        " does not match admitted facts " ++ debug observed
  | .unknownTransport transport =>
      "runtime facts contain unknown transport " ++ debug transport
  | .launchForbidsClaimedHarness => "launch runtime facts forbid claimed_harness"
  | .launchRequiresBundle => "launch runtime facts require bundle"
  | .launchRequiresTransport => "launch runtime facts require transport"
  | .hookRequiresClaimedHarness => "hook runtime facts require claimed_harness"
  | .unknownClaimedHarness claimed =>
      "runtime facts contain unknown claimed_harness " ++ debug claimed
  | .hookForbidsBundle => "hook runtime facts forbid bundle"
  | .unknownProvenance provenance =>
      "runtime facts require endpoint_provenance launch or hook, got " ++ debug provenance
  | .unknownLocatorKind kind => "unknown session locator kind " ++ debug kind
  | .locatorWithoutSession => "session locator has no session"
  | .nativeResumeUnknownPubkey pubkey =>
      "cannot bind native resume locator for unknown pubkey " ++ pubkey
  | .nativeClaimUnknownPubkey pubkey =>
      "cannot claim native locator for unknown pubkey " ++ pubkey
  | .nativeLocatorOwned pubkey =>
      "pubkey " ++ pubkey ++ " already owns a native resume locator"
  | .actorIdentityChanged actorKey => "MCP actor identity changed for " ++ actorKey
  | .actorStopping => "MCP actor is currently stopping; retry the call"
  | .actorRevoked => "MCP actor recovery is revoked"
  | .cleanupRowDisappeared => "scheduled admission cleanup row disappeared"

/-- Bind the integer parameters of a statement. -/
def bindParams (params : List Nat) : Except StoreError Unit :=
  if params.all (fun param => param ≤ Rust.i64Max) then .ok ()
  else .error .parameterOutOfRange

@[simp] theorem bindParams_eq_ok {params : List Nat} {value : Unit} :
    bindParams params = .ok value ↔ ∀ param ∈ params, param ≤ Rust.i64Max := by
  cases value
  unfold bindParams
  split
  · rename_i hall
    simpa using hall
  · rename_i hall
    simpa using hall

theorem bindParams_eq_error {params : List Nat}
    (hbound : ¬ ∀ param ∈ params, param ≤ Rust.i64Max) :
    bindParams params = .error .parameterOutOfRange := by
  unfold bindParams
  rw [if_neg]
  simpa using hbound

namespace Store

/-! ## Handle leases -/

/-- `UPDATE handle_leases SET live=1, last_active_at=?2 WHERE pubkey=?1`. -/
def markHandleLive (store : Store) (pubkey : String) (now : Nat) : Store :=
  { store with
    handleLeases := store.handleLeases.updateWhere (fun lease => lease.pubkey = pubkey)
      (fun lease => { lease with live := true, lastActiveAt := now }) }

/-- `UPDATE handle_leases SET live=0, last_active_at=MAX(last_active_at, ?2)
WHERE pubkey=?1`. -/
def markHandleStoppedAt (store : Store) (pubkey : String) (stoppedAt : Nat) : Store :=
  { store with
    handleLeases := store.handleLeases.updateWhere (fun lease => lease.pubkey = pubkey)
      (fun lease =>
        { lease with live := false, lastActiveAt := max lease.lastActiveAt stoppedAt }) }

def touchHandleForPubkey (store : Store) (pubkey : String) (lastSeen : Nat) : Store :=
  { store with
    handleLeases := store.handleLeases.updateWhere
      (fun lease => lease.live = true ∧ lease.pubkey = pubkey)
      (fun lease => { lease with lastActiveAt := lastSeen }) }

/-! ## Session lookup -/

def getSession (store : Store) (pubkey : String) : Option Session :=
  store.sessions.find? pubkey

def sessionExists (store : Store) (pubkey : String) : Bool :=
  (store.getSession pubkey).isSome

end Store

end Mosaico
