import Mosaico.Concurrent.Tasks
import Mosaico.State.SessionContext

/-!
# Join, leave and switch

The three requests by which an agent moves its own session between channels.  Each reads the
session row once, asks the relay, and writes the store in critical sections of its own.  The
standing lane is the mutex under which a request admits the session to a channel or removes it
from one; the row is read and the active channel is set outside the lane.
-/

namespace Mosaico

open Relational Transition Concurrent

/-- What the outside world answers to one step. -/
structure ChannelAnswer where
  now : Nat
  /-- The channel that a reference resolves to, created on the way if the request creates. -/
  target : Option String
  /-- The roster of the relay, fetched anew, lists the session. -/
  isMember : Bool
  /-- The relay confirms an admission or a removal. -/
  confirmed : Bool
  /-- The subscriptions are brought up to date. -/
  synced : Bool
  deriving DecidableEq

/-- What a step is about to do: take the lane, take the route of a channel away, or anything
else. -/
inductive ChannelLabel where
  | takeLane
  | revoke (channelH : String)
  | other
  deriving DecidableEq

/-- The answer of a request. -/
inductive ChannelReply where
  | joined (channel activeChannel : String)
  | left (channel : String) (left : Bool)
  | switched (prevChannel channel : String)
  /-- `cannot leave the active channel; switch to another channel first`. -/
  | leavesActive
  /-- The reference names no channel, or several. -/
  | unresolved
  | failed
  deriving DecidableEq

/-- The store and the mutex of the standing lane. -/
structure LanedStore where
  store : Store
  laneHeld : Bool

abbrev ChannelTask := Task ChannelLabel LanedStore ChannelAnswer ChannelReply

namespace Store

/-- `set_active_session_channel`: what the caller learns, and the store.  The two writes of
`set_session_channel` share no transaction. -/
def setActiveSessionChannel (store : Store) (pubkey newChannel : String) (now : Nat) :
    Bool × Store :=
  match store.getSession pubkey with
  | none => (false, store)
  | some current =>
      if current.runtimeState ≠ .running ∨ current.recoveryState = .revoked ∨
          store.hasSessionRoute pubkey newChannel = false then
        (false, store)
      else
        let moved : Store := { store with
          sessions := store.sessions.updateWhere (fun row => row.pubkey = pubkey)
            (fun row => { row with channelH := newChannel }) (Session.pubkey_moved newChannel) }
        match moved.grantSessionRoute pubkey newChannel now with
        | .ok (_, after) => (true, after)
        | .error _ => (false, moved)

end Store

namespace ChannelTask

/-! ## Steps -/

def query {β : Type} (question : ChannelAnswer → Store → β) (rest : β → ChannelTask) :
    ChannelTask :=
  .read .other (fun answer state => question answer state.store) rest

/-- One operation on the store. -/
def write {β : Type} (label : ChannelLabel)
    (operation : ChannelAnswer → Store → Except StoreError (β × Store))
    (rest : Except StoreError β → ChannelTask) : ChannelTask :=
  .attempt label (fun answer state => (operation answer state.store).map
    (fun result => (result.1, { state with store := result.2 }))) rest

/-- `let _lane = state.standing_sync.lock().await`. -/
def takeLane (rest : ChannelTask) : ChannelTask :=
  .step .takeLane (fun _ state => { state with laneHeld := true }) (fun _ _ => rest)

/-- The guard of the lane is dropped. -/
def dropLane (rest : ChannelTask) : ChannelTask :=
  .step .other (fun _ state => { state with laneHeld := false }) (fun _ _ => rest)

/-! ## Admission -/

def compensateDueAdmission (due : SessionStanding) (rest : ChannelTask) : ChannelTask :=
  query (fun answer _ => answer.confirmed) fun
    | false => rest
    | true => write .other (fun answer store => store.markSessionStandingAbsentIfEpoch
        due.pubkey due.channelH due.state due.standingEpoch due.sessionLifecycleEpoch
        answer.now) fun _ => rest

/-- The admission is recorded, or the request gives up. -/
def commitConfirmedAdmission (rec : Session) (channel : String) (rest : Bool → ChannelTask) :
    ChannelTask :=
  write .other (fun answer store => store.commitConfirmedSessionAdmission rec.pubkey channel
      rec.runtimeGeneration rec.lifecycleEpoch answer.now) fun
    | .ok .committed => rest true
    | .ok .superseded => rest false
    | .ok (.cleanupDue due) => compensateDueAdmission due (rest false)
    | .error _ => write .other (fun answer store => store.scheduleConfirmedAdmissionCleanup
        rec.pubkey channel rec.runtimeGeneration rec.lifecycleEpoch answer.now) fun
        | .ok .committed => rest true
        | .ok .superseded => rest false
        | .ok (.cleanupDue due) => compensateDueAdmission due (rest false)
        | .error _ => rest false

def ensureJoinable (rec : Session) (channel : String) (rest : Bool → ChannelTask) :
    ChannelTask :=
  let commit := commitConfirmedAdmission rec channel fun recorded => dropLane (rest recorded)
  takeLane (query (fun answer _ => answer.isMember) fun
    | true => commit
    | false => query (fun answer _ => answer.confirmed) fun
        | false => dropLane (rest false)
        | true => commit)

/-! ## Requests -/

/-- `resolve_caller`, and the channel that the reference names in its subtree. -/
def resolveCaller (pubkey : String) (rest : Session → String → ChannelTask) : ChannelTask :=
  query (fun _ store => store.getSession pubkey) fun
    | none => .done .failed
    | some rec => query (fun answer _ => answer.target) fun
        | none => .done .unresolved
        | some channel => rest rec channel

def channelJoin (pubkey : String) : ChannelTask :=
  resolveCaller pubkey fun rec channel => ensureJoinable rec channel fun
    | false => .done .failed
    | true => query (fun answer _ => answer.synced) fun
        | false => .done .failed
        | true => .done (.joined channel rec.channelH)

def channelLeave (pubkey : String) : ChannelTask :=
  resolveCaller pubkey fun rec channel =>
    if channel = rec.channelH then .done .leavesActive
    else query (fun _ store => store.hasSessionRoute rec.pubkey channel) fun
      | false => .done (.left channel false)
      | true => takeLane (query (fun answer _ => answer.confirmed) fun
          | false => dropLane (.done .failed)
          | true => write (.revoke channel) (fun answer store =>
              store.revokeRouteAndMarkAbsent rec.pubkey channel answer.now) fun outcome =>
                dropLane (.done (.left channel (outcome.toOption.getD false))))

/-- What a switch does after the new channel is active. -/
def leavePrevious (rec : Session) (newChannel : String) : ChannelTask :=
  if rec.channelH = newChannel then .done (.switched rec.channelH newChannel)
  else takeLane (query (fun answer _ => answer.confirmed) fun
    | false => dropLane (.done (.switched rec.channelH newChannel))
    | true => write (.revoke rec.channelH) (fun answer store =>
        store.revokeRouteAndMarkAbsent rec.pubkey rec.channelH answer.now) fun
        | .error _ => dropLane (.done .failed)
        | .ok _ => dropLane (.done (.switched rec.channelH newChannel)))

def channelSwitch (pubkey : String) : ChannelTask :=
  resolveCaller pubkey fun rec newChannel => ensureJoinable rec newChannel fun
    | false => .done .failed
    | true => query (fun answer _ => answer.synced) fun
        | false => .done .failed
        | true => .call .other (fun answer state =>
            let outcome :=
              state.store.setActiveSessionChannel rec.pubkey newChannel answer.now
            (outcome.1, { state with store := outcome.2 })) fun
            | false => .done .failed
            | true => leavePrevious rec newChannel

end ChannelTask

/-! ## The daemon -/

inductive ChannelRequest where
  | join
  | leave
  | switch
  deriving DecidableEq

def ChannelRequest.task (pubkey : String) : ChannelRequest → ChannelTask
  | .join => ChannelTask.channelJoin pubkey
  | .leave => ChannelTask.channelLeave pubkey
  | .switch => ChannelTask.channelSwitch pubkey

abbrev ChannelPool := Pool ChannelLabel LanedStore ChannelAnswer ChannelReply

/-- A request arrives, or a request takes its next step. -/
abbrev ChannelEvent := Concurrent.Event Empty ChannelRequest ChannelAnswer

/-- A task waits for the lane while another one holds it. -/
def LaneIsFree (label : ChannelLabel) (state : LanedStore) : Prop :=
  label = .takeLane → state.laneHeld = false

instance (label : ChannelLabel) (state : LanedStore) : Decidable (LaneIsFree label state) :=
  inferInstanceAs (Decidable (_ → _))

/-- One event among the requests of the session.  A step that has to wait changes nothing. -/
def channelStep (pubkey : String) (pool : ChannelPool) (event : ChannelEvent) : ChannelPool :=
  if pool.Passes LaneIsFree event then
    pool.step (fun state _ => state) (ChannelRequest.task pubkey) event
  else pool

end Mosaico
