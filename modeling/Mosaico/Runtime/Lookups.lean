import Mosaico.Fabric.Roots

/-!
# Sessions behind runtime locators

Four lookups decide by a runtime locator which session a caller, a starting
process or a supervisor report belongs to.  A locator row records the runtime
generation it was written for and outlives it, so a lookup is sound when it
compares the two.  Three of them join the row with the session; the lookup of a
process id does not.
-/

namespace Mosaico

open Relational Transition

/-- How a hosted runtime is reached. -/
inductive TransportKind where
  | pty
  | acp
  | appServer
  deriving DecidableEq, Repr

def TransportKind.locatorKind : TransportKind → String
  | .pty => locatorPty
  | .acp => locatorAcp
  | .appServer => locatorAppServer

/-- `Some(text)` with a text that is not empty. -/
def nonEmpty (value : Option String) : Option String :=
  value.filter (fun text => text ≠ "")

/-- The row is durable or was written for the session's current generation. -/
def SessionLocator.RecordedFor (row : SessionLocator) (session : Session) : Prop :=
  row.runtimeGeneration = 0 ∨ row.runtimeGeneration = session.runtimeGeneration

instance (row : SessionLocator) (session : Session) : Decidable (row.RecordedFor session) :=
  inferInstanceAs (Decidable (_ ∨ _))

namespace Store

/-! ## Lookups in the locator table -/

/-- The session of the row runs in the generation of the row. -/
def reachesRunning (store : Store) (row : SessionLocator) : Prop :=
  store.sessions.Any (fun session => session.pubkey = row.pubkey ∧
    session.runtimeState = .running ∧ row.RecordedFor session)

instance (store : Store) : DecidablePred store.reachesRunning := fun _ =>
  inferInstanceAs (Decidable (Table.Any _ _))

def newestLocator (rows : List SessionLocator) : Option SessionLocator :=
  (rows.insertionSort (fun left right => right.createdAt ≤ left.createdAt)).head?

def runningSessionForLocator (store : Store) (harness : Option String)
    (locatorKind locatorValue : String) : Except StoreError (Option Session) := do
  validateLocatorKind locatorKind
  let found := match harness with
    | some harness => (store.sessionLocators.select (fun row => row.harness = harness ∧
        row.locatorKind = locatorKind ∧ row.locatorValue = locatorValue ∧
        store.reachesRunning row)).head?
    | none => newestLocator (store.sessionLocators.select (fun row =>
        row.locatorKind = locatorKind ∧ row.locatorValue = locatorValue ∧
        store.reachesRunning row))
  return found.bind (fun row => store.getSession row.pubkey)

def sessionForRuntimeLocator (store : Store) (locatorKind locatorValue : String) :
    Except StoreError (Option Session) := do
  validateLocatorKind locatorKind
  match newestLocator (store.sessionLocators.select (fun row =>
      row.locatorKind = locatorKind ∧ row.locatorValue = locatorValue ∧
      0 < row.runtimeGeneration)) with
  | none => return none
  | some row =>
      return (store.getSession row.pubkey).filter
        (fun session => session.runtimeGeneration = row.runtimeGeneration)

end Store

/-! ## Requests -/

/-- Why a session is not resolved. -/
inductive ResolutionError where
  | store (error : StoreError)
  | ancestry (error : AncestryError)
  | invalidPubkey
  | endpointWithoutKind
  | kindWithoutEndpoint
  | unknownPublicSession (selector : String)
  | outsideSession
  deriving DecidableEq, Repr

/-- The text of an error.  `debug` is Rust's `{:?}` rendering of a string. -/
def ResolutionError.text (debug : String → String) : ResolutionError → String
  | .store error => error.text debug
  | .ancestry error => error.text debug
  | .invalidPubkey => "session_start pubkey must be hex or npub"
  | .endpointWithoutKind => "session_start endpoint requires explicit endpoint_kind"
  | .kindWithoutEndpoint => "session_start endpoint_kind requires an endpoint"
  | .unknownPublicSession selector =>
      "unknown public session " ++ debug selector ++ "; use an npub, hex pubkey, or handle"
  | .outsideSession =>
      "must run inside a registered mosaico session or pass an npub, hex pubkey, or handle"

/-- What a starting process says about the session it belongs to. -/
structure SessionStartParams where
  pubkey : Option String
  harnessSession : Option String
  watchPid : Option Int32
  ptySession : Option String
  endpointKind : Option TransportKind
  resumeId : Option String
  deriving DecidableEq

/-- What a caller says about the session it acts for. -/
structure CallerAnchor where
  explicit : Option String
  ptySession : Option String
  harnessSession : Option String
  watchPid : Option Int32
  harness : Option String
  deriving DecidableEq

/-- The selectors that are no locators: the public key of a text, and the session
a public selector names. -/
structure PublicNames where
  normalizePubkey : String → Option String
  resolvePublicSession : Store → String → Except StoreError (Option Session)

/-- The hosted endpoint of a starting process. -/
def SessionStartParams.hostedEndpoint (params : SessionStartParams) :
    Except ResolutionError (Option (String × TransportKind)) :=
  match nonEmpty params.ptySession, params.endpointKind with
  | some endpoint, some kind => .ok (some (endpoint, kind))
  | some _, none => .error .endpointWithoutKind
  | none, some _ => .error .kindWithoutEndpoint
  | none, none => .ok none

/-- A locator that outranks the process id is given, whether or not it resolves. -/
def SessionStartParams.hasStrongerLocator (params : SessionStartParams) : Bool :=
  (nonEmpty params.ptySession).isSome || (nonEmpty params.resumeId).isSome ||
    (nonEmpty params.harnessSession).isSome

namespace Store

/-- The pubkey of a native resume id or of a process id. -/
def lookupPubkey (store : Store) (harness locatorKind : String) (value : Option String) :
    Except ResolutionError (Option String) :=
  match nonEmpty value with
  | none => .ok none
  | some value =>
      (store.resolvePubkeyByLocator harness locatorKind value).mapError ResolutionError.store

/-- The pubkey of the hosted endpoint. -/
def endpointPubkey (store : Store) (params : SessionStartParams) :
    Except ResolutionError (Option String) := do
  match ← params.hostedEndpoint with
  | none => return none
  | some (endpoint, kind) =>
      let session ← (store.runningSessionForLocator none kind.locatorKind endpoint).mapError
        ResolutionError.store
      return session.map Session.pubkey

/-- The existing identity a starting process takes over. -/
def resolveExistingPubkey (store : Store) (names : PublicNames) (params : SessionStartParams)
    (harness : String) : Except ResolutionError (Option String) :=
  match nonEmpty params.pubkey with
  | some pubkey =>
      match names.normalizePubkey pubkey with
      | some normalized => .ok (some normalized)
      | none => .error .invalidPubkey
  | none => do
      let endpoint ← store.endpointPubkey params
      let resumed ← store.lookupPubkey harness locatorNativeResume params.resumeId
      let native ← store.lookupPubkey harness locatorNativeResume params.harnessSession
      let resolved := (endpoint.or resumed).or native
      if resolved.isSome || params.hasStrongerLocator then
        return resolved
      else
        store.lookupPubkey harness locatorPid (params.watchPid.map toString)

/-- `.ok().flatten()`. -/
def answered (outcome : Except StoreError (Option Session)) : Option Session :=
  outcome.toOption.join

/-- The session of a caller that names none explicitly: its hosted terminal, its
native session, then its watched process. -/
def anchoredSession (store : Store) (anchor : CallerAnchor) : Option Session :=
  let pty := (nonEmpty anchor.ptySession).bind (fun endpoint =>
    answered (store.runningSessionForLocator none locatorPty endpoint))
  let native := (nonEmpty anchor.harnessSession).bind (fun native =>
    (nonEmpty anchor.harness).bind (fun harness =>
      answered (store.runningSessionForLocator (some (Harness.fromStr harness).asStr)
        locatorNativeResume native)))
  let watched := anchor.watchPid.bind (fun pid => anchor.harness.bind (fun harness =>
    answered (store.runningSessionForLocator (some (Harness.fromStr harness).asStr)
      locatorPid (toString pid))))
  (pty.or native).or watched

def resolveSessionInner (store : Store) (names : PublicNames) (anchor : CallerAnchor) :
    Except ResolutionError Session :=
  match nonEmpty anchor.explicit with
  | some selector => do
      match ← (names.resolvePublicSession store selector).mapError ResolutionError.store with
      | some session => return session
      | none => throw (.unknownPublicSession selector)
  | none =>
      match store.anchoredSession anchor with
      | some session => .ok session
      | none => .error .outsideSession

end Store

namespace Database

/-- The running session of the same agent and workspace that holds the process id
of a starting process. -/
def conflictingPidRuntime (db : Database) (newPubkey agentSlug harness : String)
    (watchPid : Option Int32) (newWorkRoot : String) :
    Except ResolutionError (Option Session) :=
  match watchPid with
  | none => .ok none
  | some pid => do
      let holder ← (db.store.resolvePubkeyByLocator harness locatorPid
        (toString pid)).mapError ResolutionError.store
      match holder with
      | none => return none
      | some oldPubkey =>
          if oldPubkey = newPubkey then return none else
          match db.store.getSession oldPubkey with
          | none => return none
          | some old =>
              if old.runtimeState ≠ .running ∨ old.agentSlug ≠ agentSlug then return none
              else do
                let root ← (db.rootForChannel old.channelH).mapError ResolutionError.ancestry
                if root = newWorkRoot then return some old else return none

end Database

end Mosaico
