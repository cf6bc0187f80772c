import Mosaico.State.Inbox
import Mosaico.State.Locators
import Mosaico.State.McpActors
import Mosaico.State.SessionContext

/-!
# Runs of store operations

The alphabet of the modelled store operations, grouped by what they write, and
the total step function that runs one of them.  A failing operation leaves the
store as it was, so every list of operations with any arguments is a run.

Clients interleave at the granularity of these operations: the store is behind
one lock, and what happens between two operations of one client (a relay round
trip, a prompt delivery) is another client's list of operations.
-/

namespace Mosaico

open Transition

/-- Operations that move a session through its lifecycle. -/
inductive LifecycleOp where
  | reserveSessionWithFacts (r : RegisterSession) (facts : AdmittedRuntimeFacts)
  | applySessionPresentationEdge (pubkey : String) (generation attachmentEpoch : Nat)
      (presentation : PresentationState) (instant : Nat)
  | markSessionPresentationUnavailable (pubkey : String)
      (generation attachmentEpoch instant : Nat)
  | applySessionTurnStarted (pubkey : String) (generation instant : Nat)
  | applySessionTurnEnded (pubkey : String) (generation instant : Nat)
  | cancelSessionIdleDeadlineForDelivery (pubkey : String) (generation : Nat)
  | reserveDueIdleEviction (pubkey : String)
      (generation lifecycleEpoch attachmentEpoch now : Nat)
  | cancelIdleEvictionOnPresentationChange (pubkey : String)
      (generation stoppingLifecycleEpoch attachmentEpoch : Nat)
      (presentation : PresentationState) (instant : Nat)
  | finalizeRuntimeStoppedIfEpoch (pubkey : String)
      (generation stoppingLifecycleEpoch : Nat) (reason : StopReason) (stoppedAt : Nat)
  | markRuntimeStoppedIfGeneration (pubkey : String) (generation : Nat)
      (reason : StopReason) (stoppedAt : Nat)
  | revokeSessionRecoveryIfGeneration (pubkey : String) (runtimeGeneration : Nat)
  | finalizeSessionRecoveryRevocation (pubkey : String) (runtimeGeneration now : Nat)
  | reserveMcpActorSession (pubkey agentSlug channel : String) (now : Nat)
  | activateMcpActor (actorKey pubkey : String) (now : Nat)
  deriving DecidableEq

/-- Operations of the inbox clients. -/
inductive InboxOp where
  | enqueueInbox (eventId targetPubkey fromPubkey channelH body : String) (createdAt : Nat)
  | claimPendingForPubkey (targetPubkey : String) (now : Nat)
  | claimPendingEventIdsForPubkey (eventIds : List String) (targetPubkey : String) (now : Nat)
  | reenqueuePending (eventIds : List String) (targetPubkey : String)
  | markInjectedForEcho (eventIds : List String) (targetPubkey : String) (now : Nat)
  | consumeInjectedEcho (eventIds : List String) (targetPubkey : String)
  deriving DecidableEq

/-- Operations on runtime locators. -/
inductive LocatorOp where
  | putSessionLocator (harness locatorKind locatorValue pubkey : String) (createdAt : Nat)
  | setNativeResumeLocator (pubkey harness nativeResume : String) (now : Nat)
  | claimNativeResumeLocator (pubkey harness nativeResume : String) (now : Nat)
  | clearLocatorKind (pubkey locatorKind : String)
  | clearRuntimeLocatorIfGeneration (pubkey locatorKind : String)
      (runtimeGeneration now : Nat)
  | clearSessionLocatorKind (pubkey harness locatorKind : String)
  deriving DecidableEq

/-- Operations on routes and relay standing. -/
inductive StandingOp where
  | grantSessionRoute (pubkey channelH : String) (grantedAt : Nat)
  | revokeSessionRoute (pubkey channelH : String)
  | revokeRouteAndMarkAbsent (pubkey channelH : String) (now : Nat)
  | commitConfirmedSessionAdmission (pubkey channelH : String)
      (runtimeGeneration lifecycleEpoch now : Nat)
  | scheduleConfirmedAdmissionCleanup (pubkey channelH : String)
      (runtimeGeneration lifecycleEpoch now : Nat)
  | markSessionStandingMemberIfRunning (pubkey channelH : String)
      (expectedLifecycleEpoch now : Nat)
  | retainStoppedSessionRoutes (pubkey : String)
      (expectedLifecycleEpoch retainUntil now : Nat)
  | markSessionStandingAbsentIfEpoch (pubkey channelH : String)
      (expectedState : StandingState) (standingEpoch sessionLifecycleEpoch now : Nat)
  deriving DecidableEq

/-- Operations on columns without lifecycle meaning. -/
inductive ContextOp where
  | recordClaimedHarness (pubkey claimedHarness : String)
  | touchSession (pubkey : String) (lastSeen : Nat)
  | bindRuntimeProcess (pubkey : String) (runtimeGeneration : Nat) (childPid : Option Int)
      (now : Nat)
  | setSessionTitle (pubkey title : String)
  | setSessionChannel (pubkey channelH : String) (now : Nat)
  | setSessionContext (pubkey channelH workRoot readinessParent : String) (now : Nat)
  | advanceCursorIfCurrent (pubkey : String) (expected seenCursor : Nat)
  | bindMcpActor (actorKey actorKind pubkey : String) (now : Nat)
  deriving DecidableEq

/-- One operation of the store. -/
inductive StoreOp where
  | lifecycle (op : LifecycleOp)
  | inbox (op : InboxOp)
  | locator (op : LocatorOp)
  | standing (op : StandingOp)
  | context (op : ContextOp)
  deriving DecidableEq

/-- A launch of a session of `pubkey` in the root channel. -/
def launchOf (pubkey : String) (now : Nat) : StoreOp :=
  .lifecycle (.reserveSessionWithFacts
    { pubkey := pubkey
      observedHarness := "codex"
      agentSlug := "codex"
      channelH := "root"
      childPid := none
      now := now }
    { observedHarness := "codex"
      claimedHarness := ""
      bundle := "codex-pty"
      transport := "pty"
      endpointProvenance := "launch" })

namespace Store

def lifecycleStep (store : Store) : LifecycleOp → Store
  | .reserveSessionWithFacts r facts => commit (store.reserveSessionWithFacts r facts) store
  | .applySessionPresentationEdge pubkey generation attachmentEpoch presentation instant =>
      commit (store.applySessionPresentationEdge pubkey generation attachmentEpoch presentation
        instant) store
  | .markSessionPresentationUnavailable pubkey generation attachmentEpoch instant =>
      commit (store.markSessionPresentationUnavailable pubkey generation attachmentEpoch instant)
        store
  | .applySessionTurnStarted pubkey generation instant =>
      commit (store.applySessionTurnStarted pubkey generation instant) store
  | .applySessionTurnEnded pubkey generation instant =>
      commit (store.applySessionTurnEnded pubkey generation instant) store
  | .cancelSessionIdleDeadlineForDelivery pubkey generation =>
      commit (store.cancelSessionIdleDeadlineForDelivery pubkey generation) store
  | .reserveDueIdleEviction pubkey generation lifecycleEpoch attachmentEpoch now =>
      commit (store.reserveDueIdleEviction pubkey generation lifecycleEpoch attachmentEpoch now)
        store
  | .cancelIdleEvictionOnPresentationChange pubkey generation stoppingLifecycleEpoch
      attachmentEpoch presentation instant =>
      commit (store.cancelIdleEvictionOnPresentationChange pubkey generation
        stoppingLifecycleEpoch attachmentEpoch presentation instant) store
  | .finalizeRuntimeStoppedIfEpoch pubkey generation stoppingLifecycleEpoch reason stoppedAt =>
      commit (store.finalizeRuntimeStoppedIfEpoch pubkey generation stoppingLifecycleEpoch reason
        stoppedAt) store
  | .markRuntimeStoppedIfGeneration pubkey generation reason stoppedAt =>
      commit (store.markRuntimeStoppedIfGeneration pubkey generation reason stoppedAt) store
  | .revokeSessionRecoveryIfGeneration pubkey runtimeGeneration =>
      commit (store.revokeSessionRecoveryIfGeneration pubkey runtimeGeneration) store
  | .finalizeSessionRecoveryRevocation pubkey runtimeGeneration now =>
      commit (store.finalizeSessionRecoveryRevocation pubkey runtimeGeneration now) store
  | .reserveMcpActorSession pubkey agentSlug channel now =>
      commit (store.reserveMcpActorSession pubkey agentSlug channel now) store
  | .activateMcpActor actorKey pubkey now =>
      commit (store.activateMcpActor actorKey pubkey now) store

def inboxStep (store : Store) : InboxOp → Store
  | .enqueueInbox eventId targetPubkey fromPubkey channelH body createdAt =>
      commit (store.enqueueInbox eventId targetPubkey fromPubkey channelH body createdAt) store
  | .claimPendingForPubkey targetPubkey now =>
      commit (store.claimPendingForPubkey targetPubkey now) store
  | .claimPendingEventIdsForPubkey eventIds targetPubkey now =>
      commit (store.claimPendingEventIdsForPubkey eventIds targetPubkey now) store
  | .reenqueuePending eventIds targetPubkey =>
      commit (store.reenqueuePending eventIds targetPubkey) store
  | .markInjectedForEcho eventIds targetPubkey now =>
      commit (store.markInjectedForEcho eventIds targetPubkey now) store
  | .consumeInjectedEcho eventIds targetPubkey =>
      commit (store.consumeInjectedEcho eventIds targetPubkey) store

def locatorStep (store : Store) : LocatorOp → Store
  | .putSessionLocator harness locatorKind locatorValue pubkey createdAt =>
      commit (store.putSessionLocator harness locatorKind locatorValue pubkey createdAt) store
  | .setNativeResumeLocator pubkey harness nativeResume now =>
      commit (store.setNativeResumeLocator pubkey harness nativeResume now) store
  | .claimNativeResumeLocator pubkey harness nativeResume now =>
      commit (store.claimNativeResumeLocator pubkey harness nativeResume now) store
  | .clearLocatorKind pubkey locatorKind =>
      commit (store.clearLocatorKind pubkey locatorKind) store
  | .clearRuntimeLocatorIfGeneration pubkey locatorKind runtimeGeneration now =>
      commit (store.clearRuntimeLocatorIfGeneration pubkey locatorKind runtimeGeneration now)
        store
  | .clearSessionLocatorKind pubkey harness locatorKind =>
      commit (store.clearSessionLocatorKind pubkey harness locatorKind) store

def standingStep (store : Store) : StandingOp → Store
  | .grantSessionRoute pubkey channelH grantedAt =>
      commit (store.grantSessionRoute pubkey channelH grantedAt) store
  | .revokeSessionRoute pubkey channelH =>
      commit (store.revokeSessionRoute pubkey channelH) store
  | .revokeRouteAndMarkAbsent pubkey channelH now =>
      commit (store.revokeRouteAndMarkAbsent pubkey channelH now) store
  | .commitConfirmedSessionAdmission pubkey channelH runtimeGeneration lifecycleEpoch now =>
      commit (store.commitConfirmedSessionAdmission pubkey channelH runtimeGeneration
        lifecycleEpoch now) store
  | .scheduleConfirmedAdmissionCleanup pubkey channelH runtimeGeneration lifecycleEpoch now =>
      commit (store.scheduleConfirmedAdmissionCleanup pubkey channelH runtimeGeneration
        lifecycleEpoch now) store
  | .markSessionStandingMemberIfRunning pubkey channelH expectedLifecycleEpoch now =>
      commit (store.markSessionStandingMemberIfRunning pubkey channelH expectedLifecycleEpoch now)
        store
  | .retainStoppedSessionRoutes pubkey expectedLifecycleEpoch retainUntil now =>
      commit (store.retainStoppedSessionRoutes pubkey expectedLifecycleEpoch retainUntil now)
        store
  | .markSessionStandingAbsentIfEpoch pubkey channelH expectedState standingEpoch
      sessionLifecycleEpoch now =>
      commit (store.markSessionStandingAbsentIfEpoch pubkey channelH expectedState standingEpoch
        sessionLifecycleEpoch now) store

def contextStep (store : Store) : ContextOp → Store
  | .recordClaimedHarness pubkey claimedHarness =>
      commit (store.recordClaimedHarness pubkey claimedHarness) store
  | .touchSession pubkey lastSeen => commit (store.touchSession pubkey lastSeen) store
  | .bindRuntimeProcess pubkey runtimeGeneration childPid now =>
      commit (store.bindRuntimeProcess pubkey runtimeGeneration childPid now) store
  | .setSessionTitle pubkey title => commit (store.setSessionTitle pubkey title) store
  | .setSessionChannel pubkey channelH now =>
      commit (store.setSessionChannel pubkey channelH now) store
  | .setSessionContext pubkey channelH workRoot readinessParent now =>
      commit (store.setSessionContext pubkey channelH workRoot readinessParent now) store
  | .advanceCursorIfCurrent pubkey expected seenCursor =>
      commit (store.advanceCursorIfCurrent pubkey expected seenCursor) store
  | .bindMcpActor actorKey actorKind pubkey now =>
      (store.bindMcpActor actorKey actorKind pubkey now).2

/-- Run one operation. -/
def step (store : Store) : StoreOp → Store
  | .lifecycle op => store.lifecycleStep op
  | .inbox op => store.inboxStep op
  | .locator op => store.locatorStep op
  | .standing op => store.standingStep op
  | .context op => store.contextStep op

end Store

end Mosaico
