import Mosaico.Concurrent.Crews
import Mosaico.Delivery.NativeTurns
import Mosaico.Delivery.Policy
import Mosaico.Runtime.Endpoints

/-!
# The doorbell

A doorbell scan walks over the running sessions, and hands the pending mentions of
each one to its endpoint.  What it hands to an RPC child starts or steers a native
turn, which the daemon tracks until it ends.  The program points below are the
places where a scan, a delivery or a tracked turn lets go of every lock; between
two of them any other party, client or child may act.

`applied`, `results` and the `answered` parties are history: they record which turn
starts were applied, what the children sent, and which texts they took.
-/

namespace Mosaico

open Relational Transition Concurrent

/-! ## State -/

/-- An RPC child, as long as somebody holds its handle. -/
structure RpcChild where
  kind : TransportKind
  nativeId : String
  registered : Bool
  alive : Bool
  runtime : AcpRuntime
  deriving DecidableEq

/-- How a native call ended. -/
inductive TurnResult where
  | completed
  | failed
  | interrupted
  | rejectedBeforeStart
  | childExited
  | unknownReconciled
  deriving DecidableEq, Repr

def TurnResult.outcome : TurnResult → NativeTurnOutcome
  | .completed => .completed
  | .failed => .failed
  | .interrupted => .interrupted
  | .rejectedBeforeStart => .rejectedBeforeStart
  | .childExited => .childExited
  | .unknownReconciled => .unknownReconciled

structure ManagedTurnResult where
  nativeTurnId : String
  result : TurnResult
  deriving DecidableEq, Repr

structure DeliveryState where
  store : Store
  ledger : AttemptLedger
  applied : List Nat
  /-- The debounce map. -/
  lastInjection : String → Option Nat
  children : String → Option RpcChild
  /-- The PTY supervisors that accept a connection. -/
  terminals : String → Bool
  /-- The native calls made so far. -/
  calls : Nat
  results : Nat → Option ManagedTurnResult

namespace DeliveryState

def fresh : DeliveryState where
  store := Store.empty
  ledger := AttemptLedger.empty
  applied := []
  lastInjection := fun _ => none
  children := fun _ => none
  terminals := fun _ => false
  calls := 0
  results := fun _ => none

def isLive (state : DeliveryState) (kind : TransportKind) (endpointId : String) : Bool :=
  match kind with
  | .pty => state.terminals endpointId
  | kind => (state.children endpointId).any (fun child =>
      child.registered && child.alive && decide (child.kind = kind))

def setStore (state : DeliveryState) (store : Store) : DeliveryState :=
  { state with store := store }

/-- Change the runtime of a child. -/
def updateRuntime (state : DeliveryState) (endpointId : String) (f : AcpRuntime → AcpRuntime) :
    DeliveryState :=
  { state with
    children := Function.update state.children endpointId
      ((state.children endpointId).map (fun child => { child with runtime := f child.runtime })) }

def steerState (state : DeliveryState) (endpointId : String) : Option SteerState :=
  (state.children endpointId).map (fun child => child.runtime.steerState)

def messageInjectDebounceSecs : Nat := 20

def pruneDebounce (state : DeliveryState) (activePubkeys : List String) (now : Nat) :
    DeliveryState :=
  { state with
    lastInjection := fun pubkey => (state.lastInjection pubkey).filter (fun last =>
      pubkey ∈ activePubkeys ∧ now - last < messageInjectDebounceSecs) }

def recordMessageInjection (state : DeliveryState) (pubkey : String) (now : Nat) : DeliveryState :=
  { state with lastInjection := Function.update state.lastInjection pubkey (some now) }

end DeliveryState

/-! ## Parties -/

/-- What a delivery carries along. -/
structure Job where
  pubkey : String
  generation : Nat
  kind : TransportKind
  endpointId : String
  /-- The planned events, and from the claim on the claimed ones. -/
  eventIds : List String
  deliveryKind : NativeTurnDeliveryKind
  force : Bool
  /-- The sessions the scan visits afterwards. -/
  rest : List Session
  deriving DecidableEq

def Job.keys (job : Job) : List (String × String) :=
  job.eventIds.map (fun eventId => (eventId, job.pubkey))

inductive Completion where
  | externallyObserved
  | managed (nativeThreadId : String) (call : Nat)
  | managedSteer
  deriving DecidableEq

inductive Party where
  /-- A scan that has not listed the sessions yet. -/
  | ringing
  | visiting (rest : List Session)
  | resolving (rec : Session) (eventIds : List String) (rest : List Session)
  | probing (job : Job)
  | deciding (job : Job) (live : Bool)
  | clearing (job : Job)
  | injecting (job : Job)
  | claiming (job : Job)
  | delivering (job : Job)
  /-- The steer state of an app-server child has been read. -/
  | dispatching (job : Job) (nativeId : String) (steer : SteerState)
  | reopening (job : Job)
  | finalizing (job : Job) (completion : Completion)
  | tracking (job : Job) (completion : Completion)
  | starting (job : Job) (attemptId call startedAt : Nat)
  | refusing (job : Job) (attemptId : Nat)
  | recording (job : Job)
  /-- A debounced scan that sleeps before it rings again. -/
  | retrying (pubkey : String)
  /-- `inject_pending_messages_pty`, before it has read the inbox. -/
  | forcing (rec : Session) (endpointId : String)
  /-- A prompt or turn start in flight. -/
  | calling (endpointId : String) (call : Nat) (keys : List (String × String))
  | steering (endpointId turnId : String) (keys : List (String × String))
  | gating (endpointId : String) (keys : List (String × String))
  /-- The harness has taken or refused the text. -/
  | answered (keys : List (String × String)) (accepted : Bool)
  /-- A tracked turn. -/
  | awaiting (pubkey : String) (generation attemptId call : Nat)
  | closing (pubkey : String) (generation attemptId : Nat) (result : ManagedTurnResult)
  | ending (pubkey : String) (generation : Nat)
  deriving DecidableEq

/-- What the outside contributes to one step. -/
structure Outside where
  now : Nat
  /-- The read, the terminal or the database fails. -/
  failed : Bool
  /-- How a native call ends. -/
  answer : ManagedTurnResult
  /-- The harness takes the steer. -/
  accepted : Bool
  timedOut : Bool
  deriving DecidableEq

abbrev DeliveryMove := Move DeliveryState Party

namespace Party

/-- Move on without letting anybody join. -/
def goto (state : DeliveryState) (next : Party) : DeliveryMove := ⟨state, next, []⟩

def scanFact (state : DeliveryState) (job : Job) (live : Bool) (now : Nat) : DeliveryScanFact where
  pubkey := job.pubkey
  pendingEventIds := job.eventIds
  endpointId := some job.endpointId
  endpointLive := live
  lastInjectedAt := state.lastInjection job.pubkey
  debounceSecs := DeliveryState.messageInjectDebounceSecs
  force := job.force
  instant := now

/-- A delivery that failed: its rows are rolled back, a spawn prompt is dropped. -/
def deliveryFailed (state : DeliveryState) (job : Job) : DeliveryMove :=
  match job.deliveryKind with
  | .inboxEvent => goto state (.reopening job)
  | .spawnPrompt => goto state (.visiting job.rest)

/-- Fire a prompt or a turn start and leave its completion to a task. -/
def fireCall (state : DeliveryState) (job : Job) (nativeId : String) : DeliveryMove :=
  let started := state.updateRuntime job.endpointId AcpRuntime.markTurnStarted
  ⟨{ started with calls := state.calls + 1 }, .finalizing job (.managed nativeId state.calls),
    [.calling job.endpointId state.calls job.keys]⟩

/-- `deliver`, up to the reading of the steer state. -/
def deliver (input : Outside) (state : DeliveryState) (job : Job) : DeliveryMove :=
  match job.kind with
  | .pty =>
      if input.failed = true ∨ state.isLive .pty job.endpointId = false then deliveryFailed state job
      else ⟨state, .finalizing job .externallyObserved, [.answered job.keys true]⟩
  | kind =>
      match state.children job.endpointId with
      | none => deliveryFailed state job
      | some child =>
          if child.registered = false ∨ child.kind ≠ kind then deliveryFailed state job
          else if kind = .acp then fireCall state job child.nativeId
          else goto state (.dispatching job child.nativeId child.runtime.steerState)

/-- The dispatch of an app-server delivery. -/
def dispatch (state : DeliveryState) (job : Job) (nativeId : String) : SteerState → DeliveryMove
  | .ready turnId => ⟨state, .finalizing job .managedSteer,
      [.steering job.endpointId turnId job.keys]⟩
  | .awaitingId => ⟨state, .finalizing job .managedSteer, [.gating job.endpointId job.keys]⟩
  | .idle => fireCall state job nativeId

/-- The effect that the policy decides on. -/
def applyEffect (state : DeliveryState) (job : Job) : Option DeliveryEffect → DeliveryMove
  | some (.inject _ _ _) => goto state (.injecting job)
  | some (.retryAfter pubkey _) =>
      if job.force = true then goto state (.visiting job.rest)
      else ⟨state, .visiting job.rest, [.retrying pubkey]⟩
  | some (.clearDeadEndpoint _) =>
      if job.force = true then goto state (.visiting job.rest) else goto state (.clearing job)
  | none => goto state (.visiting job.rest)

/-- Claim the planned rows.  The rows that are still there always render, as only an
empty list has no text. -/
def claim (input : Outside) (state : DeliveryState) (job : Job) : DeliveryMove :=
  match state.store.claimPendingEventIdsForPubkey job.eventIds job.pubkey input.now with
  | .error _ => goto state (.visiting job.rest)
  | .ok (rows, after) =>
      if rows = [] then goto (state.setStore after) (.visiting job.rest)
      else goto (state.setStore after) (.delivering { job with
        eventIds := rows.map InboxRow.eventId })

/-- Post-delivery bookkeeping.  The session of a spawn prompt is only looked up now. -/
def finalize (input : Outside) (state : DeliveryState) (job : Job) (completion : Completion) :
    DeliveryMove :=
  match job.deliveryKind with
  | .inboxEvent =>
      match state.store.markInjectedForEcho job.eventIds job.pubkey input.now with
      | .error _ => goto state (.visiting job.rest)
      | .ok (_, after) => goto (state.setStore after) (.tracking job completion)
  | .spawnPrompt =>
      match state.store.getSession job.pubkey with
      | none => goto state (.visiting job.rest)
      | some rec => goto state (.tracking { job with
          generation := rec.runtimeGeneration } completion)

/-- `managed_turn::track`, up to the attempt. -/
def track (input : Outside) (state : DeliveryState) (job : Job) : Completion → DeliveryMove
  | .externallyObserved => goto state (.recording job)
  | .managedSteer => goto state (.recording job)
  | .managed nativeThreadId call =>
      match state.ledger.startNativeTurnAttempt
        { pubkey := job.pubkey
          runtimeGeneration := job.generation
          deliveryKind := job.deliveryKind
          deliveryEventId := job.eventIds.getLastD ""
          nativeThreadId := nativeThreadId
          startedAt := input.now } with
      | .error _ => goto state (.visiting job.rest)
      | .ok (attemptId, ledger) =>
          goto { state with ledger := ledger } (.starting job attemptId call input.now)

/-- The lifecycle start of a tracked turn. -/
def applyStart (state : DeliveryState) (job : Job) (attemptId call startedAt : Nat) :
    DeliveryMove :=
  match state.store.applySessionTurnStarted job.pubkey job.generation startedAt with
  | .error _ => goto state (.visiting job.rest)
  | .ok (false, after) => goto (state.setStore after) (.refusing job attemptId)
  | .ok (true, after) =>
      ⟨{ state.setStore after with applied := attemptId :: state.applied }, .recording job,
        [.awaiting job.pubkey job.generation attemptId call]⟩

/-- Persist the outcome of an attempt; an error is only logged. -/
def persistOutcome (input : Outside) (state : DeliveryState) (pubkey : String)
    (generation attemptId : Nat) (nativeTurnId : String) (outcome : NativeTurnOutcome) :
    DeliveryState :=
  { state with
    ledger := commit (state.ledger.finishNativeTurnAttempt attemptId pubkey generation nativeTurnId
      outcome input.now) state.ledger }

/-- The lifecycle end of a tracked turn rings the doorbell. -/
def finishLifecycle (input : Outside) (state : DeliveryState) (pubkey : String)
    (generation : Nat) : DeliveryMove :=
  match state.store.applySessionTurnEnded pubkey generation input.now with
  | .error _ => goto state (.visiting [])
  | .ok (false, after) => goto (state.setStore after) (.visiting [])
  | .ok (true, after) => goto (state.setStore after) .ringing

/-- A steer that waits for the id of the running turn. -/
def gate (input : Outside) (state : DeliveryState) (endpointId : String)
    (keys : List (String × String)) : DeliveryMove :=
  match state.steerState endpointId with
  | some (.ready turnId) => goto state (.steering endpointId turnId keys)
  | some .awaitingId =>
      if input.timedOut = true then goto state (.answered keys false)
      else goto state (.gating endpointId keys)
  | some .idle => goto state (.answered keys false)
  | none => goto state (.answered keys false)

/-- One step of a party. -/
def act (input : Outside) (state : DeliveryState) : Party → DeliveryMove
  | .ringing =>
      if input.failed = true then goto state (.visiting [])
      else
        let sessions := state.store.listRunningSessions
        goto (state.pruneDebounce (sessions.map Session.pubkey) input.now) (.visiting sessions)
  | .visiting [] => goto state (.visiting [])
  | .visiting (rec :: rest) =>
      if input.failed = true then goto state (.visiting rest)
      else match state.store.peekPendingForPubkey rec.pubkey with
        | [] => goto state (.visiting rest)
        | row :: rows => goto state (.resolving rec ((row :: rows).map InboxRow.eventId) rest)
  | .resolving rec eventIds rest =>
      if input.failed = true then goto state (.visiting rest)
      else match state.store.hostedEndpointFor rec with
        | .ok (.resolved kind endpointId) => goto state (.probing
            { pubkey := rec.pubkey
              generation := rec.runtimeGeneration
              kind := kind
              endpointId := endpointId
              eventIds := eventIds
              deliveryKind := .inboxEvent
              force := false
              rest := rest })
        -- without an endpoint the policy defers, and nothing is scheduled
        | _ => goto state (.visiting rest)
  | .probing job => goto state (.deciding job (state.isLive job.kind job.endpointId))
  | .deciding job live => applyEffect state job (scanFact state job live input.now).effects.head?
  | .clearing job =>
      goto (state.setStore (commit (state.store.clearRuntimeLocatorIfGeneration job.pubkey
        job.kind.locatorKind job.generation input.now) state.store)) (.visiting job.rest)
  | .injecting job =>
      if state.isLive job.kind job.endpointId = true then goto state (.claiming job)
      else goto state (.visiting job.rest)
  | .claiming job => claim input state job
  | .delivering job => deliver input state job
  | .dispatching job nativeId steer => dispatch state job nativeId steer
  | .reopening job =>
      goto (state.setStore (commit (state.store.reenqueuePending job.eventIds job.pubkey)
        state.store)) (.visiting job.rest)
  | .finalizing job completion => finalize input state job completion
  | .tracking job completion => track input state job completion
  | .starting job attemptId call startedAt => applyStart state job attemptId call startedAt
  | .refusing job attemptId =>
      goto (persistOutcome input state job.pubkey job.generation attemptId "" .unknownReconciled)
        (.visiting job.rest)
  | .recording job =>
      match job.deliveryKind with
      | .inboxEvent => goto (state.recordMessageInjection job.pubkey input.now) (.visiting job.rest)
      | .spawnPrompt => goto state (.visiting job.rest)
  | .retrying _ => goto state .ringing
  | .forcing rec endpointId =>
      match state.store.peekPendingForPubkey rec.pubkey with
      | [] => goto state (.visiting [])
      | row :: rows => goto state (.probing
          { pubkey := rec.pubkey
            generation := rec.runtimeGeneration
            kind := .pty
            endpointId := endpointId
            eventIds := (row :: rows).map InboxRow.eventId
            deliveryKind := .inboxEvent
            force := true
            rest := [] })
  | .calling endpointId call keys =>
      let finished := state.updateRuntime endpointId AcpRuntime.markTurnFinished
      goto { finished with results := Function.update state.results call (some input.answer) }
        (.answered keys (decide (input.answer.result ≠ .rejectedBeforeStart)))
  | .steering _ _ keys => goto state (.answered keys input.accepted)
  | .gating endpointId keys => gate input state endpointId keys
  | .answered keys accepted => goto state (.answered keys accepted)
  | .awaiting pubkey generation attemptId call =>
      match state.results call with
      | none => goto state (.awaiting pubkey generation attemptId call)
      | some result => goto state (.closing pubkey generation attemptId result)
  | .closing pubkey generation attemptId result =>
      goto (persistOutcome input state pubkey generation attemptId result.nativeTurnId
        result.result.outcome) (.ending pubkey generation)
  | .ending pubkey generation => finishLifecycle input state pubkey generation

end Party

/-! ## What a step does -/

namespace Party

/-- The store operation of a step. -/
def operation (input : Outside) : Party → Option StoreOp
  | .clearing job => some (.locator (.clearRuntimeLocatorIfGeneration job.pubkey
      job.kind.locatorKind job.generation input.now))
  | .claiming job => some (.inbox (.claimPendingEventIdsForPubkey job.eventIds job.pubkey
      input.now))
  | .reopening job => some (.inbox (.reenqueuePending job.eventIds job.pubkey))
  | .finalizing job _ =>
      match job.deliveryKind with
      | .inboxEvent => some (.inbox (.markInjectedForEcho job.eventIds job.pubkey input.now))
      | .spawnPrompt => none
  | .starting job _ _ startedAt => some (.lifecycle (.applySessionTurnStarted job.pubkey
      job.generation startedAt))
  | .ending pubkey generation => some (.lifecycle (.applySessionTurnEnded pubkey generation
      input.now))
  | _ => none

variable {input : Outside} {state : DeliveryState}

theorem deliveryFailed_shared (job : Job) : (deliveryFailed state job).shared = state := by
  unfold deliveryFailed
  split
  · rfl
  · rfl

/-- A delivery touches nothing but the children and the calls. -/
theorem deliver_kept (job : Job) :
    (deliver input state job).shared.store = state.store ∧
      (deliver input state job).shared.ledger = state.ledger ∧
      (deliver input state job).shared.applied = state.applied := by
  unfold deliver
  split
  · split
    · rw [deliveryFailed_shared]
      exact ⟨rfl, rfl, rfl⟩
    · exact ⟨rfl, rfl, rfl⟩
  · split
    · rw [deliveryFailed_shared]
      exact ⟨rfl, rfl, rfl⟩
    · split
      · rw [deliveryFailed_shared]
        exact ⟨rfl, rfl, rfl⟩
      · split
        · exact ⟨rfl, rfl, rfl⟩
        · exact ⟨rfl, rfl, rfl⟩

theorem dispatch_kept (job : Job) (nativeId : String) (steer : SteerState) :
    (dispatch state job nativeId steer).shared.store = state.store ∧
      (dispatch state job nativeId steer).shared.ledger = state.ledger ∧
      (dispatch state job nativeId steer).shared.applied = state.applied := by
  cases steer with
  | ready turnId | awaitingId | idle => exact ⟨rfl, rfl, rfl⟩

theorem applyEffect_shared (job : Job) (effect : Option DeliveryEffect) :
    (applyEffect state job effect).shared = state := by
  unfold applyEffect
  split
  · rfl
  · split
    · rfl
    · rfl
  · split
    · rfl
    · rfl
  · rfl

theorem gate_shared (endpointId : String) (keys : List (String × String)) :
    (gate input state endpointId keys).shared = state := by
  unfold gate
  split
  · rfl
  · split
    · rfl
    · rfl
  · rfl
  · rfl

/-- Every step applies at most one operation to the store. -/
theorem act_store (party : Party) :
    (party.act input state).shared.store =
      (party.operation input).elim state.store state.store.step := by
  cases party with
  | ringing | injecting job | recording job | forcing rec endpointId
  | awaiting pubkey generation attemptId call =>
      simp only [act, operation]
      split
      · rfl
      · rfl
  | visiting rest =>
      cases rest with
      | nil => rfl
      | cons rec rest =>
          simp only [act, operation]
          split
          · rfl
          · split
            · rfl
            · rfl
  | resolving rec eventIds rest =>
      simp only [act, operation]
      split
      · rfl
      · split
        · rfl
        · rfl
  | probing job => rfl
  | deciding job live =>
      simp only [act, operation, applyEffect_shared]
      rfl
  | clearing job => rfl
  -- The writes that can be refused leave the store as a step does that is refused.
  | claiming job =>
      simp only [act, operation, claim, Option.elim, Store.step, Store.inboxStep]
      split
      · rename_i hclaim
        rw [hclaim]
        rfl
      · rename_i hclaim
        rw [hclaim]
        split
        · rfl
        · rfl
  | delivering job => exact (deliver_kept job).1
  | dispatching job nativeId steer => exact (dispatch_kept job nativeId steer).1
  | reopening job => rfl
  | finalizing job completion =>
      simp only [act, operation, finalize]
      split
      · simp only [Option.elim, Store.step, Store.inboxStep]
        split
        · rename_i hmark
          rw [hmark]
          rfl
        · rename_i hmark
          rw [hmark]
          rfl
      · split
        · rfl
        · rfl
  | tracking job completion =>
      simp only [act, operation]
      unfold track
      split
      · rfl
      · rfl
      · split
        · rfl
        · rfl
  | starting job attemptId call startedAt =>
      simp only [act, operation, applyStart, Option.elim, Store.step, Store.lifecycleStep]
      split
      · rename_i hstart
        rw [hstart]
        rfl
      · rename_i hstart
        rw [hstart]
        rfl
      · rename_i hstart
        rw [hstart]
        rfl
  | refusing job attemptId => rfl
  | retrying pubkey => rfl
  | calling endpointId call keys | steering endpointId turnId keys => rfl
  | gating endpointId keys =>
      simp only [act, operation, gate_shared]
      rfl
  | answered keys accepted => rfl
  | closing pubkey generation attemptId result => rfl
  | ending pubkey generation =>
      simp only [act, operation, finishLifecycle, Option.elim, Store.step, Store.lifecycleStep]
      split
      · rename_i hend
        rw [hend]
        rfl
      · rename_i hend
        rw [hend]
        rfl
      · rename_i hend
        rw [hend]
        rfl

end Party

/-! ## The doorbell among its clients -/

/-- Operations that other clients of the store apply on their own: none of them makes
an inbox row pending, or belongs to a delivery. -/
def StoreOp.ByClient : StoreOp → Prop
  | .inbox (.enqueueInbox _ _ _ _ _ _) => False
  | .inbox (.reenqueuePending _ _) => False
  | .inbox (.markInjectedForEcho _ _ _) => False
  | .inbox (.claimPendingEventIdsForPubkey _ _ _) => False
  | _ => True

structure ClientOp where
  op : StoreOp
  byClient : op.ByClient

/-- Nothing fails, and every call completes. -/
def plainly (now : Nat) : Outside where
  now := now
  failed := false
  answer := ⟨"turn", .completed⟩
  accepted := true
  timedOut := false

/-- A launch of a session of `pubkey` over a hosted transport. -/
def launchOver (transport pubkey : String) (now : Nat) : ClientOp where
  op := .lifecycle (.reserveSessionWithFacts
    { pubkey := pubkey
      observedHarness := "codex"
      agentSlug := "codex"
      channelH := "root"
      childPid := none
      now := now }
    { observedHarness := "codex"
      claimedHarness := ""
      bundle := "codex"
      transport := transport
      endpointProvenance := "launch" })
  byClient := trivial

inductive DeliveryEvent where
  /-- The party at `index` takes its next step. -/
  | act (index : Nat) (input : Outside)
  /-- `ring_doorbells`. -/
  | ring
  /-- A mention arrives, and the doorbell is rung. -/
  | enqueue (eventId targetPubkey fromPubkey channelH body : String) (createdAt : Nat)
  /-- A hosted endpoint is bound to a session, and the doorbell is rung. -/
  | bindEndpoint (harness : String) (kind : TransportKind) (endpointId pubkey : String)
      (createdAt : Nat)
  | client (change : ClientOp)
  /-- `inject_pending_messages_pty`. -/
  | ptySend (rec : Session) (endpointId : String)
  /-- `deliver_spawn_prompt`. -/
  | spawnPrompt (pubkey : String) (kind : TransportKind) (endpointId : String)
  /-- An RPC child is opened; endpoint ids are not used twice. -/
  | openChild (endpointId : String) (kind : TransportKind) (nativeId : String)
  | childDies (endpointId : String)
  | childReaped (endpointId : String)
  | childUpdate (endpointId method : String) (turnId : Option String)
  | terminal (endpointId : String) (live : Bool)

abbrev Deliveries := Crew DeliveryState Party

namespace Deliveries

def fresh : Deliveries := ⟨DeliveryState.fresh, []⟩

/-- Apply an operation of the store. -/
def apply (crew : Deliveries) (op : StoreOp) : Deliveries :=
  { crew with shared := crew.shared.setStore (crew.shared.store.step op) }

def updateChild (crew : Deliveries) (endpointId : String) (f : RpcChild → RpcChild) : Deliveries :=
  { crew with
    shared := { crew.shared with
      children := Function.update crew.shared.children endpointId
        ((crew.shared.children endpointId).map f) } }

def openChild (crew : Deliveries) (endpointId : String) (kind : TransportKind)
    (nativeId : String) : Deliveries :=
  if (crew.shared.children endpointId).isSome then crew
  else { crew with
    shared := { crew.shared with
      children := Function.update crew.shared.children endpointId (some
        { kind := kind
          nativeId := nativeId
          registered := true
          alive := true
          runtime := AcpRuntime.fresh }) } }

/-- A spawn prompt has no rows and no session yet. -/
def spawnPrompt (pubkey : String) (kind : TransportKind) (endpointId : String) : Party :=
  .delivering
    { pubkey := pubkey
      generation := 0
      kind := kind
      endpointId := endpointId
      eventIds := []
      deliveryKind := .spawnPrompt
      force := false
      rest := [] }

def step (crew : Deliveries) : DeliveryEvent → Deliveries
  | .act index input => crew.advance Party.act index input
  | .ring => crew.join .ringing
  | .enqueue eventId targetPubkey fromPubkey channelH body createdAt =>
      (crew.apply (.inbox (.enqueueInbox eventId targetPubkey fromPubkey channelH body
        createdAt))).join .ringing
  | .bindEndpoint harness kind endpointId pubkey createdAt =>
      (crew.apply (.locator (.putSessionLocator harness kind.locatorKind endpointId pubkey
        createdAt))).join .ringing
  | .client change => crew.apply change.op
  | .ptySend rec endpointId => crew.join (.forcing rec endpointId)
  | .spawnPrompt pubkey kind endpointId => crew.join (spawnPrompt pubkey kind endpointId)
  | .openChild endpointId kind nativeId => crew.openChild endpointId kind nativeId
  | .childDies endpointId =>
      crew.updateChild endpointId (fun child => { child with alive := false })
  | .childReaped endpointId =>
      crew.updateChild endpointId (fun child => { child with registered := false })
  | .childUpdate endpointId method turnId => crew.updateChild endpointId (fun child =>
      { child with runtime := child.runtime.noteUpdate method turnId })
  | .terminal endpointId live =>
      { crew with
        shared := { crew.shared with
          terminals := Function.update crew.shared.terminals endpointId live } }

/-- The store operation of an event. -/
def operation (crew : Deliveries) : DeliveryEvent → Option StoreOp
  | .act index input => crew.parties[index]?.bind (Party.operation input)
  | .enqueue eventId targetPubkey fromPubkey channelH body createdAt =>
      some (.inbox (.enqueueInbox eventId targetPubkey fromPubkey channelH body createdAt))
  | .bindEndpoint harness kind endpointId pubkey createdAt =>
      some (.locator (.putSessionLocator harness kind.locatorKind endpointId pubkey createdAt))
  | .client change => some change.op
  | _ => none

theorem step_store (crew : Deliveries) (event : DeliveryEvent) :
    (Deliveries.step crew event).shared.store =
      (Deliveries.operation crew event).elim crew.shared.store crew.shared.store.step := by
  cases event with
  | act index input =>
      simp only [step, operation]
      cases hindex : crew.parties[index]? with
      | none =>
          rw [Crew.advance_of_none hindex]
          rfl
      | some party =>
          rw [Crew.advance_of_some hindex]
          exact Party.act_store party
  | openChild endpointId kind nativeId =>
      simp only [step, operation, openChild]
      split
      · rfl
      · rfl
  | ring | enqueue eventId targetPubkey fromPubkey channelH body createdAt
  | bindEndpoint harness kind endpointId pubkey createdAt | client change | ptySend rec endpointId
  | spawnPrompt pubkey kind endpointId | childDies endpointId | childReaped endpointId
  | childUpdate endpointId method turnId | terminal endpointId live => rfl

end Deliveries

end Mosaico
