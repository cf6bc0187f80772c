import Mosaico.State.SessionRecovery

/-!
# Typed runtime locators

Locators are never identities: every row resolves directly to the session
pubkey.  The native resume locator is the durable one, and its presence is
repeated in the `recovery_state` column of the session it points to.
-/

namespace Mosaico

open Relational Transition

def locatorNativeResume : String := "native_resume"
def locatorPty : String := "pty"
def locatorAcp : String := "acp"
def locatorAppServer : String := "app_server"
def locatorPid : String := "pid"

def validateLocatorKind (locatorKind : String) : Except StoreError Unit :=
  ensure (locatorKind ∈
      [locatorNativeResume, locatorPty, locatorAcp, locatorAppServer, locatorPid])
    (.unknownLocatorKind locatorKind)

/-- The kinds through which the daemon can deliver to a running session. -/
def isDeliveryKind (locatorKind : String) : Bool :=
  locatorKind ∈ [locatorPty, locatorAcp, locatorAppServer]

namespace Store

/-! ## Reading -/

/-- The pubkey owns a native resume locator. -/
def hasNativeResume (store : Store) (pubkey : String) : Prop :=
  store.sessionLocators.Any (fun row =>
    row.pubkey = pubkey ∧ row.locatorKind = locatorNativeResume)

instance (store : Store) (pubkey : String) : Decidable (store.hasNativeResume pubkey) :=
  inferInstanceAs (Decidable (Table.Any _ _))

def resolvePubkeyByLocator (store : Store) (harness locatorKind locatorValue : String) :
    Except StoreError (Option String) := do
  validateLocatorKind locatorKind
  return (store.sessionLocators.find? (harness, locatorKind, locatorValue)).map
    SessionLocator.pubkey

def locatorsForPubkey (store : Store) (pubkey : String) : List SessionLocator :=
  (store.sessionLocators.select (fun row => row.pubkey = pubkey)).insertionSort
    (fun left right => right.createdAt ≤ left.createdAt)

/-! ## Session writes that follow a locator -/

/-- `UPDATE sessions SET recovery_state='ready' WHERE pubkey=?1`. -/
def markReady (store : Store) (pubkey : String) : Store :=
  { store with
    sessions := store.sessions.updateWhere (fun row => row.pubkey = pubkey)
      (fun row => { row with recoveryState := .ready }) }

/-- A changed delivery path is a public transition of an idle running
session. -/
def touchIdleRunning (store : Store) (pubkey : String) (generation instant : Nat) : Store :=
  { store with
    sessions := store.sessions.updateWhere
      (fun row => isRunningGeneration pubkey generation row ∧ row.workState = .idle)
      (fun row => { row with stateChangedAt := instant }) }

/-! ## Writing -/

/-- The put opens a delivery path the running generation did not have. -/
def addsDeliveryPath (store : Store) (harness locatorKind pubkey : String)
    (generation : Nat) : Prop :=
  isDeliveryKind locatorKind = true ∧
    ¬ store.sessionLocators.Any (fun row => row.pubkey = pubkey ∧ row.harness = harness ∧
      row.locatorKind = locatorKind ∧ row.runtimeGeneration = generation)

instance (store : Store) (harness locatorKind pubkey : String) (generation : Nat) :
    Decidable (store.addsDeliveryPath harness locatorKind pubkey generation) :=
  inferInstanceAs (Decidable (_ ∧ _))

/-- The rows a put replaces: every native resume locator of the pubkey, or the
pubkey's endpoint of the same harness and kind. -/
def replacedByPut (harness locatorKind pubkey : String) (row : SessionLocator) : Prop :=
  row.pubkey = pubkey ∧ row.locatorKind = locatorKind ∧
    (locatorKind = locatorNativeResume ∨ row.harness = harness)

instance (harness locatorKind pubkey : String) :
    DecidablePred (replacedByPut harness locatorKind pubkey) := fun _ =>
  inferInstanceAs (Decidable (_ ∧ _))

/-- The upsert moves a locator value that another pubkey holds. -/
def writeLocator (store : Store) (harness locatorKind locatorValue pubkey : String)
    (locatorGeneration createdAt : Nat) : Store :=
  { store with
    sessionLocators :=
      (store.sessionLocators.deleteWhere (replacedByPut harness locatorKind pubkey)).upsert
        { harness := harness
          locatorKind := locatorKind
          locatorValue := locatorValue
          pubkey := pubkey
          runtimeGeneration := locatorGeneration
          createdAt := createdAt }
        (fun row => { row with
          pubkey := pubkey
          runtimeGeneration := locatorGeneration
          createdAt := createdAt }) }

def putSessionLocator (store : Store) (harness locatorKind locatorValue pubkey : String)
    (createdAt : Nat) : Except StoreError (Unit × Store) := do
  validateLocatorKind locatorKind
  match store.getSession pubkey with
  | none => throw .locatorWithoutSession
  | some session =>
      if locatorKind = locatorNativeResume then
        ensure (session.recoveryState ≠ .revoked) (.recoveryRevoked pubkey)
        bindParams [createdAt]
        let written := store.writeLocator harness locatorKind locatorValue pubkey 0 createdAt
        return ((), written.markReady pubkey)
      else
        bindParams [createdAt]
        let generation := session.runtimeGeneration
        let written :=
          store.writeLocator harness locatorKind locatorValue pubkey generation createdAt
        if store.addsDeliveryPath harness locatorKind pubkey generation then
          return ((), written.touchIdleRunning pubkey generation createdAt)
        else
          return ((), written)

/-- Bind or rotate the one harness-native resume locator for a pubkey. -/
def setNativeResumeLocator (store : Store) (pubkey harness nativeResume : String)
    (now : Nat) : Except StoreError (Unit × Store) := do
  ensure (store.sessionExists pubkey = true) (.nativeResumeUnknownPubkey pubkey)
  store.putSessionLocator harness locatorNativeResume nativeResume pubkey now

/-- Claim an unowned native locator without ever stealing an existing mapping.
Returns the authoritative owner, which is `pubkey` when this call won the
claim. -/
def claimNativeResumeLocator (store : Store) (pubkey harness nativeResume : String)
    (now : Nat) : Except StoreError (String × Store) :=
  match store.getSession pubkey with
  | none => throw (.nativeClaimUnknownPubkey pubkey)
  | some session => do
      ensure (session.recoveryState ≠ .revoked) (.recoveryRevoked pubkey)
      match store.sessionLocators.find? (harness, locatorNativeResume, nativeResume) with
      | some held => return (held.pubkey, store)
      | none =>
          ensure (¬ store.hasNativeResume pubkey) (.nativeLocatorOwned pubkey)
          bindParams [now]
          let inserted := { store with
            sessionLocators := store.sessionLocators.insertOrIgnore
              { harness := harness
                locatorKind := locatorNativeResume
                locatorValue := nativeResume
                pubkey := pubkey
                runtimeGeneration := 0
                createdAt := now } }
          return (pubkey, inserted.markReady pubkey)

/-! ## Clearing -/

def clearLocatorKind (store : Store) (pubkey locatorKind : String) :
    Except StoreError (Unit × Store) := do
  validateLocatorKind locatorKind
  let cleared := { store with
    sessionLocators := store.sessionLocators.deleteWhere
      (fun row => row.pubkey = pubkey ∧ row.locatorKind = locatorKind) }
  if locatorKind = locatorNativeResume then
    return ((), { cleared with
      sessions := cleared.sessions.updateWhere
        (fun row => row.pubkey = pubkey ∧ row.recoveryState = .ready)
        (fun row => { row with recoveryState := .pending }) })
  else
    return ((), cleared)

/-- The endpoint of the session's own harness; `now` is the wall clock the
source reads. -/
def clearRuntimeLocatorIfGeneration (store : Store) (pubkey locatorKind : String)
    (runtimeGeneration now : Nat) : Except StoreError (Bool × Store) := do
  validateLocatorKind locatorKind
  bindParams [runtimeGeneration]
  let cleared := fun row : SessionLocator => row.pubkey = pubkey ∧
    row.locatorKind = locatorKind ∧ row.runtimeGeneration = runtimeGeneration ∧
    store.sessions.Any (fun session =>
      session.pubkey = pubkey ∧ session.observedHarness = row.harness)
  let removed := decide (store.sessionLocators.Any cleared)
  let after : Store :=
    { store with sessionLocators := store.sessionLocators.deleteWhere cleared }
  if removed = true ∧ isDeliveryKind locatorKind = true then
    bindParams [now]
    return (removed, after.touchIdleRunning pubkey runtimeGeneration now)
  else
    return (removed, after)

def clearSessionLocatorKind (store : Store) (pubkey harness locatorKind : String) :
    Except StoreError (Unit × Store) := do
  validateLocatorKind locatorKind
  return ((), { store with
    sessionLocators := store.sessionLocators.deleteWhere (fun row =>
      row.pubkey = pubkey ∧ row.harness = harness ∧ row.locatorKind = locatorKind) })

end Store

end Mosaico
