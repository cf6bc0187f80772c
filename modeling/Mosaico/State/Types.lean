import Mosaico.Rust.Core

/-!
# Rows of the durable state

The closed vocabularies of the session lifecycle, the session row with all its
columns, and the rows of the tables that the session operations write next to
it.  Text columns whose values the schema closes with a `CHECK` are inductive
types; all other text columns are strings, and integer columns are natural
numbers.
-/

namespace Mosaico

/-! ## Closed vocabularies -/

inductive RuntimeState where
  | running
  | stopping
  | stopped
  deriving DecidableEq, Repr

inductive PresentationState where
  | unavailable
  | headed
  | headless
  deriving DecidableEq, Repr

inductive WorkState where
  | idle
  | working
  deriving DecidableEq, Repr

inductive RecoveryState where
  | pending
  | ready
  | revoked
  deriving DecidableEq, Repr

inductive StopReason where
  | unknown
  | attachedCleanExit
  | idleEvicted
  | headlessExit
  | crash
  | operatorKill
  | revoked
  | superseded
  deriving DecidableEq, Repr

inductive StandingState where
  | member
  | retained
  | absent
  deriving DecidableEq, Repr

/-- The delivery states of an inbox row. -/
inductive InboxState where
  | pending
  | delivered
  | injected
  | echoConsumed
  deriving DecidableEq, Repr

/-- The states of an idempotency claim. -/
inductive ClaimState where
  | pending
  | processing
  | completed
  deriving DecidableEq, Repr

/-! ## Harness vocabulary -/

inductive Harness where
  | claudeCode
  | codex
  | opencode
  | grok
  | goose
  | hermes
  | unknown
  deriving DecidableEq, Repr

def Harness.asStr : Harness → String
  | .claudeCode => "claude-code"
  | .codex => "codex"
  | .opencode => "opencode"
  | .grok => "grok"
  | .goose => "goose"
  | .hermes => "hermes"
  | .unknown => "unknown"

def Harness.fromStr (s : String) : Harness :=
  if s = "claude-code" then .claudeCode
  else if s = "codex" then .codex
  else if s = "opencode" then .opencode
  else if s = "grok" then .grok
  else if s = "goose" then .goose
  else if s = "hermes" then .hermes
  else .unknown

/-! ## Session rows -/

/-- One durable agent session and its current runtime incarnation.

Runtime generation fences process callbacks.  Lifecycle and attachment epochs
independently fence persisted timers and supervisor presentation events. -/
structure Session where
  pubkey : String
  runtimeGeneration : Nat
  agentSlug : String
  channelH : String
  workRoot : String
  readinessParent : String
  observedHarness : String
  claimedHarness : String
  admittedBundle : String
  admittedTransport : String
  endpointProvenance : String
  childPid : Option Int
  runtimeState : RuntimeState
  presentationState : PresentationState
  workState : WorkState
  recoveryState : RecoveryState
  lifecycleEpoch : Nat
  attachmentEpoch : Nat
  idleSince : Nat
  idleDeadline : Nat
  stoppedAt : Nat
  stopReason : Option StopReason
  turnCount : Nat
  busySeconds : Nat
  createdAt : Nat
  lastSeen : Nat
  turnStartedAt : Nat
  seenCursor : Nat
  title : String
  stateChangedAt : Nat
  deriving DecidableEq, Repr

theorem Session.pubkey_moved (channelH : String) (row : Session) :
    Session.pubkey { row with channelH := channelH } = row.pubkey := rfl

/-- The column defaults of the `sessions` table; `pubkey`,
`runtime_generation` and `created_at` have none and are supplied. -/
def Session.defaults (pubkey : String) (runtimeGeneration createdAt : Nat) : Session where
  pubkey := pubkey
  runtimeGeneration := runtimeGeneration
  agentSlug := ""
  channelH := ""
  workRoot := ""
  readinessParent := ""
  observedHarness := ""
  claimedHarness := ""
  admittedBundle := ""
  admittedTransport := ""
  endpointProvenance := ""
  childPid := none
  runtimeState := .running
  presentationState := .unavailable
  workState := .idle
  recoveryState := .pending
  lifecycleEpoch := 1
  attachmentEpoch := 0
  idleSince := 0
  idleDeadline := 0
  stoppedAt := 0
  stopReason := none
  turnCount := 0
  busySeconds := 0
  createdAt := createdAt
  lastSeen := 0
  turnStartedAt := 0
  seenCursor := 0
  title := ""
  stateChangedAt := 0

/-- What a caller registers for a new runtime incarnation. -/
structure RegisterSession where
  pubkey : String
  observedHarness : String
  agentSlug : String
  channelH : String
  childPid : Option Int
  now : Nat
  deriving DecidableEq, Repr

/-- Immutable runtime facts admitted alongside a session generation. -/
structure AdmittedRuntimeFacts where
  observedHarness : String
  claimedHarness : String
  bundle : String
  transport : String
  endpointProvenance : String
  deriving DecidableEq, Repr

/-! ## Rows written next to the session -/

/-- Routing affinity of a session to a channel. -/
structure SessionChannel where
  pubkey : String
  channelH : String
  grantedAt : Nat
  deriving DecidableEq, Repr

def SessionChannel.key (row : SessionChannel) : String × String :=
  (row.pubkey, row.channelH)

theorem SessionChannel.key_granted (grantedAt : Nat) (row : SessionChannel) :
    SessionChannel.key { row with grantedAt := grantedAt } = row.key := rfl

/-- Fabric standing of a session in a channel. -/
structure SessionStanding where
  pubkey : String
  channelH : String
  state : StandingState
  retainUntil : Nat
  standingEpoch : Nat
  sessionLifecycleEpoch : Nat
  updatedAt : Nat
  deriving DecidableEq, Repr

def SessionStanding.key (row : SessionStanding) : String × String :=
  (row.pubkey, row.channelH)

/-- A typed host-local locator that points to a session pubkey.  The
generation is zero for durable recovery locators. -/
structure SessionLocator where
  harness : String
  locatorKind : String
  locatorValue : String
  pubkey : String
  runtimeGeneration : Nat
  createdAt : Nat
  deriving DecidableEq, Repr

def SessionLocator.key (row : SessionLocator) : String × String × String :=
  (row.harness, row.locatorKind, row.locatorValue)

structure SessionSigner where
  pubkey : String
  signerSalt : String
  deriving DecidableEq, Repr

structure HandleLease where
  handle : String
  pubkey : String
  agentSlug : String
  leasedAt : Nat
  lastActiveAt : Nat
  live : Bool
  deriving DecidableEq, Repr

structure McpActorAlias where
  actorKey : String
  actorKind : String
  pubkey : String
  createdAt : Nat
  lastSeen : Nat
  deriving DecidableEq, Repr

theorem McpActorAlias.actorKey_seen (lastSeen : Nat) (row : McpActorAlias) :
    McpActorAlias.actorKey { row with lastSeen := lastSeen } = row.actorKey := rfl

/-- One inbound event addressed to one local agent pubkey. -/
structure InboxRow where
  eventId : String
  targetPubkey : String
  state : InboxState
  fromPubkey : String
  channelH : String
  body : String
  createdAt : Nat
  deliveredAt : Nat
  deriving DecidableEq, Repr

def InboxRow.key (row : InboxRow) : String × String :=
  (row.eventId, row.targetPubkey)

theorem InboxRow.key_inState (state : InboxState) (row : InboxRow) :
    InboxRow.key { row with state := state } = row.key := rfl

/-- An idempotency claim on an event. -/
structure EventClaim where
  eventId : String
  claimKey : String
  state : ClaimState
  fromPubkey : String
  channelH : String
  body : String
  createdAt : Nat
  updatedAt : Nat
  deriving DecidableEq, Repr

def EventClaim.key (row : EventClaim) : String × String :=
  (row.eventId, row.claimKey)

end Mosaico
