import Mosaico.Concurrent.Tasks
import Mosaico.Runtime.Lookups
import Mosaico.State.StopEdges

/-!
# Session starts

A session start finds or prepares the identity of a starting process, reserves a
runtime generation for it or takes over the one that runs, records the runtime
and starts its engine.  It decides early, from the row and the engine map, whether
the session runs already; until its engine is started, a guard stops the
generation when the start fails.

A start holds no lock between its steps, and anything outside of the daemon's
state may fail it at each of them.
-/

namespace Mosaico

open Relational Transition Concurrent

/-! ## The daemon's state -/

/-- The database and the engines of the daemon. -/
structure DaemonState where
  database : Database
  /-- The generation of the engine handle that a pubkey has. -/
  engines : String → Option Nat
  /-- The engine tasks that were spawned, newest first. -/
  spawned : List (String × Nat)

namespace DaemonState

def fresh : DaemonState where
  database := Database.empty
  engines := fun _ => none
  spawned := []

def store (state : DaemonState) : Store := state.database.store

def setStore (state : DaemonState) (store : Store) : DaemonState :=
  { state with database := { state.database with store := store } }

@[simp] theorem setStore_store (state : DaemonState) (store : Store) :
    (state.setStore store).store = store := rfl

@[simp] theorem setStore_engines (state : DaemonState) (store : Store) :
    (state.setStore store).engines = state.engines := rfl

@[simp] theorem setStore_spawned (state : DaemonState) (store : Store) :
    (state.setStore store).spawned = state.spawned := rfl

/-- The engine may be started: the map holds no engine of this generation or of a
later one. -/
def StartsEngine (state : DaemonState) (pubkey : String) (generation : Nat) : Prop :=
  ∀ previous, state.engines pubkey = some previous → previous < generation

instance (state : DaemonState) (pubkey : String) (generation : Nat) :
    Decidable (state.StartsEngine pubkey generation) :=
  inferInstanceAs (Decidable (∀ previous, _ = some previous → _))

/-- The engine map part of `spawn_session`.  An older engine is replaced. -/
def spawnSession (state : DaemonState) (pubkey : String) (generation : Nat) :
    Bool × DaemonState :=
  if state.StartsEngine pubkey generation then
    (true, { state with
      engines := Function.update state.engines pubkey (some generation)
      spawned := (pubkey, generation) :: state.spawned })
  else (false, state)

/-- An engine has ended, and its task takes its own handle out of the map. -/
def engineExited (state : DaemonState) (pubkey : String) (generation : Nat) : DaemonState :=
  if state.engines pubkey = some generation then
    { state with engines := Function.update state.engines pubkey none }
  else state

end DaemonState

/-! ## Requests -/

/-- What the outside does to one step. -/
structure StartReply where
  now : Nat
  /-- A file, a key, the relay or the caller fails the step. -/
  failure : Option String
  /-- The public key prepared for a process without a session. -/
  prepared : String
  deriving DecidableEq

/-- A step that touches the engines or stops a generation, or any other. -/
inductive StartLabel where
  | other
  | observe (pubkey : String) (generation : Nat)
  | retire (pubkey : String) (generation : Nat)
  | startEngine (pubkey : String) (generation : Nat)
  | release (pubkey : String) (generation : Nat)
  deriving DecidableEq

/-- Why a session start fails. -/
inductive StartError where
  | missingAgent
  | resolution (error : ResolutionError)
  | store (error : StoreError)
  | noPersistedSession (pubkey : String)
  | agentMismatch (pubkey existing claimed : String)
  | generationInactive (generation : Nat) (pubkey : String)
  | disappearedBeforeLocators
  | disappearedBeforeReadiness
  | engineActive (pubkey : String)
  | outside (text : String)
  deriving DecidableEq, Repr

/-- The text of an error.  `debug` is Rust's `{:?}` rendering of a string. -/
def StartError.text (debug : String → String) : StartError → String
  | .missingAgent => "session_start requires an agent slug"
  | .resolution error => error.text debug
  | .store error => error.text debug
  | .noPersistedSession pubkey => "session_start pubkey " ++ pubkey ++ " has no persisted session"
  | .agentMismatch pubkey existing claimed =>
      "pubkey " ++ pubkey ++ " belongs to agent " ++ debug existing ++ ", not " ++ debug claimed
  | .generationInactive generation pubkey =>
      "runtime generation " ++ toString generation ++ " for " ++ pubkey ++ " is no longer active"
  | .disappearedBeforeLocators => "reserved session disappeared before locator binding"
  | .disappearedBeforeReadiness => "reserved session disappeared before channel readiness"
  | .engineActive pubkey => "pubkey " ++ pubkey ++ " already has an active runtime"
  | .outside text => text

inductive StartAnswer where
  | started (pubkey : String) (generation : Nat)
  | failed (error : StartError)
  deriving DecidableEq

abbrev StartTask := Task StartLabel DaemonState StartReply StartAnswer

/-- A request after its parameters were parsed and its facts were checked. -/
structure StartRequest where
  params : SessionStartParams
  agent : String
  channel : Option String
  workRoot : String
  facts : AdmittedRuntimeFacts
  deriving DecidableEq

/-- What the configuration and the public names contribute. -/
structure StartEnvironment where
  names : PublicNames
  perSessionRooms : Bool
  sessionRoomId : String → String

/-! ## Channel and parent -/

/-- The channel of the session, and the parent of a room of its own. -/
def StartEnvironment.startChannel (env : StartEnvironment) (request : StartRequest)
    (pubkey : String) : String × Option String :=
  match nonEmpty request.channel with
  | some channel => (channel, none)
  | none =>
      if env.perSessionRooms ∧ request.workRoot ≠ "" then
        (env.sessionRoomId pubkey, some request.workRoot)
      else (request.workRoot, none)

def effectiveParentHint (relayParent pendingParent : Option String) (channel : String) :
    Option String :=
  match relayParent with
  | some parent => if parent = "" then none else some parent
  | none => pendingParent.filter (fun parent => parent ≠ "" ∧ parent ≠ channel)

namespace Database

def channelParent (db : Database) (channelH : String) : Option String :=
  (db.channels.find? channelH).map Channel.parent

/-- The parent of the newest reservation of the channel. -/
def channelResolutionParent (db : Database) (channelH : String) : Option String :=
  (((db.resolutionIntents.select (fun intent => intent.channelH = channelH)).insertionSort
    (fun left right => right.createdAt ≤ left.createdAt)).head?).map ResolutionIntent.parent

def sessionParentHint (db : Database) (channel workRoot : String) (roomParent : Option String)
    (existing : Option Session) : String :=
  let held := ((existing.filter (fun session => session.channelH = channel)).map
    Session.readinessParent).filter (fun parent => parent ≠ "")
  let workspace := if channel ≠ workRoot ∧ workRoot ≠ "" then some workRoot else none
  let pending := ((roomParent.or (db.channelResolutionParent channel)).or held).or workspace
  (effectiveParentHint (db.channelParent channel) pending channel).getD ""

end Database

/-! ## Steps -/

namespace StartTask

/-- One read of the state, or a failure outside of it. -/
def tryRead {β : Type} (label : StartLabel)
    (query : StartReply → DaemonState → Except StartError β)
    (rest : Except StartError β → StartTask) : StartTask :=
  .read label (fun reply state =>
    match reply.failure with
    | some text => .error (.outside text)
    | none => query reply state) rest

/-- One operation of the store, or a failure outside of it. -/
def tryStore {β : Type} (label : StartLabel)
    (operation : StartReply → Store → Except StoreError (β × Store))
    (rest : Except StartError β → StartTask) : StartTask :=
  .attempt label (fun reply state =>
    match reply.failure with
    | some text => .error (.outside text)
    | none =>
        match operation reply state.store with
        | .ok (value, after) => .ok (value, state.setStore after)
        | .error error => .error (StartError.store error)) rest

/-- The guard of a reservation: the generation is stopped when the start fails. -/
def release (pubkey : String) (generation : Nat) (error : StartError) : StartTask :=
  .call (.release pubkey generation) (fun reply state =>
    ((), state.setStore (commit (state.store.markRuntimeStoppedIfGeneration pubkey generation
      .unknown reply.now) state.store))) fun _ => .done (.failed error)

/-- The start returns its error, and its guard, if armed, is dropped. -/
def abandon (armed : Bool) (pubkey : String) (generation : Nat) (error : StartError) :
    StartTask :=
  if armed then release pubkey generation error else .done (.failed error)

/-- Stop the generation that the process id is taken from. -/
def retireConflicting (request : StartRequest) (agent pubkey : String) (rest : StartTask) :
    StartTask :=
  tryRead .other (fun _ state => (state.database.conflictingPidRuntime pubkey agent
      request.facts.observedHarness request.params.watchPid request.workRoot).mapError
      StartError.resolution) fun
    | .error error => .done (.failed error)
    | .ok none => rest
    | .ok (some old) =>
        tryStore (.retire old.pubkey old.runtimeGeneration)
          (fun reply store => store.markRuntimeStoppedIfGeneration old.pubkey
            old.runtimeGeneration .superseded reply.now) fun
          | .error error => .done (.failed error)
          | .ok _ => rest

/-- The generation of a running session is taken over; any other is reserved. -/
def reserveGeneration (request : StartRequest) (agent pubkey channel : String) (now : Nat)
    (existing : Option Session) (rest : Except StartError Nat → StartTask) : StartTask :=
  let reserve := tryStore .other (fun _ store => store.reserveSessionWithFacts
    { pubkey := pubkey
      observedHarness := request.facts.observedHarness
      agentSlug := agent
      channelH := channel
      childPid := request.params.watchPid.map Int32.toInt
      now := now } request.facts) rest
  match existing with
  | none => reserve
  | some session =>
      if session.agentSlug ≠ agent then
        rest (.error (.agentMismatch pubkey session.agentSlug agent))
      else if session.runtimeState = .running then rest (.ok session.runtimeGeneration)
      else reserve

/-- One operation of the store within a script. -/
def write {β : Type} (operation : Store → Except StoreError (β × Store)) :
    Script StartError Store β :=
  Script.attempt (fun store => (operation store).mapError StartError.store)

def bindEndpoint (request : StartRequest) (harness pubkey : String) (now : Nat) :
    Script StartError Store Unit :=
  match request.params.hostedEndpoint with
  | .error error => throw (.resolution error)
  | .ok none => pure ()
  | .ok (some (endpoint, kind)) =>
      write (fun store => store.putSessionLocator harness kind.locatorKind endpoint pubkey now)

def bindNative (request : StartRequest) (harness pubkey : String) (now : Nat) :
    Script StartError Store Unit :=
  match (nonEmpty request.params.resumeId).or (nonEmpty request.params.harnessSession) with
  | none => pure ()
  | some native => write (fun store => store.setNativeResumeLocator pubkey harness native now)

def bindPid (request : StartRequest) (harness pubkey : String) (now : Nat) :
    Script StartError Store Unit :=
  match request.params.watchPid with
  | none => pure ()
  | some pid => write (fun store =>
      store.putSessionLocator harness locatorPid (toString pid) pubkey now)

def bindLocators (request : StartRequest) (harness pubkey : String) (now : Nat) :
    Script StartError Store Unit := do
  bindEndpoint request harness pubkey now
  bindNative request harness pubkey now
  bindPid request harness pubkey now

/-- Record the process of a generation that is still active. -/
def bindProcess (request : StartRequest) (pubkey : String) (generation clock : Nat) :
    Script StartError Store Unit := do
  let bound ← write (fun store => store.bindRuntimeProcess pubkey generation
    (request.params.watchPid.map Int32.toInt) clock)
  if bound then pure () else throw (.generationInactive generation pubkey)

/-- Bind the locators under the harness that was admitted. -/
def bindAdmitted (request : StartRequest) (pubkey : String) (now : Nat) :
    Script StartError Store Unit := do
  match ← write (fun store => .ok (store.getSession pubkey, store)) with
  | none => throw .disappearedBeforeLocators
  | some session => bindLocators request session.observedHarness pubkey now

/-- The writes that record the runtime, under one lock.  `clock` is the time the
statements read themselves. -/
def recordRuntime (request : StartRequest) (pubkey channel readinessParent : String)
    (generation now clock : Nat) : Script StartError Store Unit := do
  write (fun store => store.setSessionContext pubkey channel request.workRoot readinessParent clock)
  bindProcess request pubkey generation clock
  write (fun store => store.recordClaimedHarness pubkey request.facts.claimedHarness)
  bindAdmitted request pubkey now

/-- Start the engine; the caller's guard is disarmed when it has started. -/
def startEngine (pubkey : String) (generation : Nat) : StartTask :=
  .call (.startEngine pubkey generation) (fun _ state => state.spawnSession pubkey generation) fun
    | true => .done (.started pubkey generation)
    | false => release pubkey generation (.engineActive pubkey)

/-- From the reservation on. -/
def runReserved (request : StartRequest) (pubkey channel readinessParent : String)
    (now : Nat) (alreadyRunning : Bool) (generation : Nat) : StartTask :=
  .call .other (fun reply state =>
    match reply.failure with
    | some text => (Except.error (StartError.outside text), state)
    | none =>
        let (outcome, after) := recordRuntime request pubkey channel readinessParent generation now
          reply.now state.store
        (outcome, state.setStore after)) fun
    | .error error => abandon (!alreadyRunning) pubkey generation error
    | .ok _ => tryRead .other (fun _ _ => .ok ()) fun
        | .error error => abandon (!alreadyRunning) pubkey generation error
        | .ok _ =>
            if alreadyRunning then .done (.started pubkey generation)
            else tryRead .other (fun _ state =>
                match state.store.getSession pubkey with
                | none => .error .disappearedBeforeReadiness
                | some _ => .ok ()) fun
              | .error error => release pubkey generation error
              | .ok _ => startEngine pubkey generation

/-- From the session the pubkey has before the start. -/
def startExisting (env : StartEnvironment) (request : StartRequest) (agent pubkey : String)
    (existing : Option Session) (alreadyRunning : Bool) : StartTask :=
  let (resolved, roomParent) := env.startChannel request pubkey
  let channel := if alreadyRunning then (existing.map Session.channelH).getD resolved
    else resolved
  tryRead .other (fun reply state => .ok (reply.now,
      state.database.sessionParentHint channel request.workRoot roomParent existing)) fun
    | .error error => .done (.failed error)
    | .ok (now, readinessParent) =>
        reserveGeneration request agent pubkey channel now existing fun
          | .error error => .done (.failed error)
          | .ok generation =>
              runReserved request pubkey channel readinessParent now alreadyRunning generation

/-- From the identity on. -/
def startAs (env : StartEnvironment) (request : StartRequest) (agent pubkey : String) :
    StartTask :=
  retireConflicting request agent pubkey <|
    tryRead .other (fun _ state => .ok (state.store.getSession pubkey)) fun
      | .error error => .done (.failed error)
      | .ok none => startExisting env request agent pubkey none false
      | .ok (some session) =>
          if session.runtimeState = .running then
            .read (.observe pubkey session.runtimeGeneration)
              (fun _ state => (state.engines pubkey).isSome)
              fun alreadyRunning =>
                startExisting env request agent pubkey (some session) alreadyRunning
          else startExisting env request agent pubkey (some session) false

/-- `rpc_session_start_inner`. -/
def sessionStart (env : StartEnvironment) (request : StartRequest) : StartTask :=
  if Rust.isBlank request.agent then .done (.failed .missingAgent)
  else tryRead .other (fun _ state => (state.store.resolveExistingPubkey env.names request.params
      request.facts.observedHarness).mapError StartError.resolution) fun
    | .error error => .done (.failed error)
    | .ok none => tryRead .other (fun reply _ => .ok reply.prepared) fun
        | .error error => .done (.failed error)
        | .ok prepared => startAs env request request.agent prepared
    | .ok (some pubkey) => tryRead .other (fun _ state =>
          match state.store.getSession pubkey with
          | none => .error (.noPersistedSession pubkey)
          | some session => .ok session.agentSlug) fun
        | .error error => .done (.failed error)
        | .ok agent => startAs env request agent pubkey

end StartTask

/-! ## The starts together -/

/-- What else happens to the daemon's state. -/
inductive DaemonEvent where
  /-- An operation of any client of the store. -/
  | store (op : StoreOp)
  /-- The relay caches change. -/
  | materialize (db : Database)
  | engineExited (pubkey : String) (generation : Nat)

def DaemonState.interfere (state : DaemonState) : DaemonEvent → DaemonState
  | .store op => state.setStore (state.store.step op)
  | .materialize db => { state with database := { db with store := state.store } }
  | .engineExited pubkey generation => state.engineExited pubkey generation

abbrev StartEvent := Concurrent.Event DaemonEvent StartRequest StartReply

def startStep (env : StartEnvironment) :
    Pool StartLabel DaemonState StartReply StartAnswer → StartEvent →
      Pool StartLabel DaemonState StartReply StartAnswer :=
  Pool.step DaemonState.interfere (StartTask.sessionStart env)

end Mosaico
