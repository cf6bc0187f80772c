import Mosaico.Runtime.Lookups

/-!
# Hosted endpoints

How the daemon reaches the runtime of a session: the admitted transport says
which kind of locator it owns, and the locator of the session's generation says
which endpoint that is.
-/

namespace Mosaico

open Relational Transition

/-- The transport of an admitted session; every other text is no hosted one. -/
def TransportKind.parse (text : String) : Option TransportKind :=
  if text = "pty" then some .pty
  else if text = "acp" then some .acp
  else if text = "app-server" then some .appServer
  else none

/-- The hosted endpoint of a session. -/
inductive HostedEndpoint where
  | unhosted
  | unavailable (kind : TransportKind)
  | resolved (kind : TransportKind) (endpointId : String)
  deriving DecidableEq, Repr

namespace Store

/-- The locator of the session's own harness. -/
def runtimeLocatorForSession (store : Store) (pubkey : String) (runtimeGeneration : Nat)
    (locatorKind : String) : Except StoreError (Option SessionLocator) := do
  validateLocatorKind locatorKind
  bindParams [runtimeGeneration]
  return (store.sessionLocators.select (fun row => row.pubkey = pubkey ∧
    row.runtimeGeneration = runtimeGeneration ∧ row.locatorKind = locatorKind ∧
    store.sessions.Any (fun session =>
      session.pubkey = pubkey ∧ session.observedHarness = row.harness))).head?

def hostedEndpointFor (store : Store) (session : Session) : Except StoreError HostedEndpoint :=
  match TransportKind.parse session.admittedTransport with
  | none => return .unhosted
  | some kind => do
      match ← store.runtimeLocatorForSession session.pubkey session.runtimeGeneration
          kind.locatorKind with
      | none => return .unavailable kind
      | some locator => return .resolved kind locator.locatorValue

def listRunningSessions (store : Store) : List Session :=
  (store.sessions.select (fun row => row.runtimeState = .running)).insertionSort
    (fun left right => right.createdAt ≤ left.createdAt)

def listStoppingSessions (store : Store) : List Session :=
  (store.sessions.select (fun row => row.runtimeState = .stopping)).insertionSort
    (fun left right => left.pubkey ≤ right.pubkey)

end Store

end Mosaico
