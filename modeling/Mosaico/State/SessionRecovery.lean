import Mosaico.State.SessionLifecycle

/-!
# Destruction of exact-session recovery authority

Two phases: a durable fence that prohibits another reservation, and the
finalization after the process termination is confirmed.
-/

namespace Mosaico

open Relational

namespace Store

/-- Durably prohibit another runtime reservation for this exact generation.
Runtime locators, signers, and routes remain intact. -/
def revokeSessionRecoveryIfGeneration (store : Store) (pubkey : String)
    (runtimeGeneration : Nat) : Except StoreError (Bool × Store) := do
  bindParams [runtimeGeneration]
  return store.updateSessions
    (fun row => row.pubkey = pubkey ∧ row.runtimeGeneration = runtimeGeneration)
    (fun row => { row with recoveryState := .revoked })

/-- Every standing row of a finalized revocation is due at once. -/
def expireStanding (store : Store) (pubkey : String) (lifecycleEpoch now : Nat) : Store :=
  { store with
    sessionStanding := store.sessionStanding.updateWhere (fun row => row.pubkey = pubkey)
      (fun row => row.rewrite
        (if row.state = .absent then .absent else .retained)
        (if row.state = .absent then 0 else now) lifecycleEpoch now) }

/-- The locators, the signer and the routes of the pubkey are deleted. -/
def forgetPubkey (store : Store) (pubkey : String) : Store :=
  { store with
    sessionLocators := store.sessionLocators.deleteWhere (fun row => row.pubkey = pubkey)
    sessionSigners := store.sessionSigners.deleteWhere (fun row => row.pubkey = pubkey)
    sessionChannels := store.sessionChannels.deleteWhere (fun row => row.pubkey = pubkey) }

/-- Finalize an already-revoked generation after its process termination is
confirmed.  This is idempotent with respect to the revoked state, so a failed or
interrupted first attempt can finish on retry. -/
def finalizeSessionRecoveryRevocation (store : Store) (pubkey : String)
    (runtimeGeneration now : Nat) : Except StoreError (Bool × Store) := do
  bindParams [runtimeGeneration, now]
  let (changed, stopped) := store.updateSessions
    (fun row => row.pubkey = pubkey ∧ row.runtimeGeneration = runtimeGeneration ∧
      row.recoveryState = .revoked)
    (fun row => row.stopped .revoked now)
  if changed then
    match stopped.getSession pubkey with
    | none => throw .noRow
    | some row =>
        let standing := ((stopped.markHandleStoppedAt pubkey now).initializeStanding pubkey
          row.lifecycleEpoch now).expireStanding pubkey row.lifecycleEpoch now
        return (true, standing.forgetPubkey pubkey)
  else
    return (false, store)

end Store

end Mosaico
