import Mosaico.Concurrent.Tasks
import Mosaico.Lifecycle.RowInvariant
import Mosaico.Pty.Clients
import Mosaico.Runtime.Endpoints
import Mosaico.Runtime.PidLocators

/-!
# How a runtime generation ends

The parties that end a generation of a session, or take such an end back: the
exit reports of PTY supervisors, the explicit kill, the idle eviction with its
two phases, and the edges that the presentation of the terminal makes.  Each of
them reads the session once, works on that snapshot, and writes the store in
steps of its own, with round trips to a supervisor or process in between.
-/

namespace Mosaico

open Relational Transition Concurrent

/-- What the outside world answers to one step: the wall clock, and the supervisor
or process the step talks to. -/
structure Reply where
  now : Nat
  /-- `KILL_IF_HEADLESS`, or nothing when the control channel fails. -/
  conditionalKill : Option ConditionalKillOutcome
  /-- The runtime was asked to stop and its exit was confirmed in time. -/
  exitConfirmed : Bool
  /-- The tracked process is alive. -/
  processAlive : Bool
  /-- The presentation that the supervisor reports, if it can be reached. -/
  observation : Option PresentationSnapshot
  deriving DecidableEq

/-- What a step is about to write: the stop that an exit report or a kill will
answer for, or anything else. -/
inductive EndLabel where
  | reportEnd (session : Session)
  | killEnd (session : Session)
  | other

/-- Why a report or a kill gives no answer. -/
inductive EndError where
  | store (error : StoreError)
  | stoppedSessionDisappeared
  deriving DecidableEq, Repr

/-- What a party reports when it is through. -/
inductive EndAnswer where
  /-- `supervisor_exited` returned for the session it located. -/
  | supervisorExited (located : Option Session) (outcome : Except EndError Bool)
  /-- `rpc_session_kill` answered for the session it selected. -/
  | sessionKill (session : Session) (ended : Bool)
  | killFailed (error : EndError)
  /-- A round of the coordinator, whose outcome is only logged. -/
  | finished

abbrev EndTask := Task EndLabel Store Reply EndAnswer

namespace EndTask

/-! ## Shared steps -/

/-- `clear_runtime_locator_if_generation`. -/
def clearRuntimeLocator (session : Session) (locatorKind : String)
    (rest : Except StoreError Bool → EndTask) : EndTask :=
  .attempt .other (fun reply store => store.clearRuntimeLocatorIfGeneration session.pubkey
    locatorKind session.runtimeGeneration reply.now) rest

/-- Stop the generation of the snapshot and read the stopped row back. -/
def stopGeneration (label : EndLabel) (session : Session) (reason : StopReason)
    (stoppedAt : Reply → Nat) (rest : Except EndError Bool → EndTask) : EndTask :=
  .attempt label (fun reply store => store.markRuntimeStoppedIfGeneration session.pubkey
      session.runtimeGeneration reason (stoppedAt reply)) fun
    | .error error => rest (.error (.store error))
    | .ok false => rest (.ok false)
    | .ok true => .read .other (fun _ store => store.getSession session.pubkey) fun
        | none => rest (.error .stoppedSessionDisappeared)
        | some _ => rest (.ok true)

/-- Persist that the runtime could not be controlled. -/
def recordControlUnavailable (session : Session) (rest : Except StoreError Bool → EndTask) :
    EndTask :=
  match session.runtimeState with
  | .running => .attempt .other (fun reply store => store.markSessionPresentationUnavailable
      session.pubkey session.runtimeGeneration session.attachmentEpoch reply.now) rest
  | .stopping => .attempt .other (fun reply store =>
      store.cancelIdleEvictionOnPresentationChange session.pubkey session.runtimeGeneration
        session.lifecycleEpoch session.attachmentEpoch .unavailable reply.now) rest
  | .stopped => rest (.ok false)

/-- Apply a presentation snapshot to the session that was read. -/
def applyPresentation (session : Session) (snapshot : PresentationSnapshot)
    (rest : Except StoreError Bool → EndTask) : EndTask :=
  let presentation : PresentationState := if snapshot.isHeadless then .headless else .headed
  match session.runtimeState with
  | .running => .attempt .other (fun _ store => store.applySessionPresentationEdge
      session.pubkey session.runtimeGeneration snapshot.attachmentEpoch presentation
      snapshot.changedAt) rest
  | .stopping => .attempt .other (fun _ store =>
      store.cancelIdleEvictionOnPresentationChange session.pubkey session.runtimeGeneration
        session.lifecycleEpoch snapshot.attachmentEpoch presentation snapshot.changedAt) rest
  | .stopped => rest (.ok false)

/-! ## Exit reports -/

/-- The reason of a supervisor's exit. -/
def exitReason (childSuccess : Option Bool) (presentation : PresentationSnapshot) : StopReason :=
  match childSuccess, decide (0 < presentation.attachedClients) with
  | some true, true => .attachedCleanExit
  | some false, _ => .crash
  | none, _ => .crash
  | some true, false => .headlessExit

def clearAndReturn (session : Session) (stopped : Bool) : EndTask :=
  clearRuntimeLocator session locatorPty fun
    | .error error => .done (.supervisorExited (some session) (.error (.store error)))
    | .ok _ => .done (.supervisorExited (some session) (.ok stopped))

def supervisorExited (ptyId : String) (childSuccess : Option Bool)
    (presentation : PresentationSnapshot) (exitedAt : Nat) : EndTask :=
  .read .other (fun _ store => store.sessionForRuntimeLocator locatorPty ptyId) fun
    | .error error => .done (.supervisorExited none (.error (.store error)))
    | .ok none => .done (.supervisorExited none (.ok false))
    | .ok (some session) =>
        if session.runtimeState = .stopping ∧ session.stopReason = some .idleEvicted then
          .attempt (.reportEnd session) (fun _ store => store.finalizeRuntimeStoppedIfEpoch
              session.pubkey session.runtimeGeneration session.lifecycleEpoch .idleEvicted
              exitedAt) fun
            | .error error => .done (.supervisorExited (some session) (.error (.store error)))
            | .ok stopped => clearAndReturn session stopped.isSome
        else if session.runtimeState = .stopped then
          clearAndReturn session false
        else
          stopGeneration (.reportEnd session) session (exitReason childSuccess presentation)
            (fun _ => exitedAt) fun
            | .error error => .done (.supervisorExited (some session) (.error error))
            | .ok stopped => clearAndReturn session stopped

/-! ## The explicit kill -/

/-- Terminate the runtime of the snapshot; the result tells whether its exit was
confirmed and its locator cleared. -/
def terminateExplicit (session : Session) (rest : Bool → EndTask) : EndTask :=
  if session.runtimeState = .stopped then rest true
  else .read .other (fun _ store => store.hostedEndpointFor session) fun
    | .error _ => rest false
    | .ok (.unavailable _) => rest false
    | .ok .unhosted => .read .other (fun reply _ => reply.exitConfirmed) rest
    | .ok (.resolved kind _) => .read .other (fun reply _ => reply.exitConfirmed) fun
        | false => rest false
        | true => clearRuntimeLocator session kind.locatorKind fun
            | .error _ => rest false
            | .ok _ => rest true

/-- Fence the recovery of the current generation.  The source retries until the
fence holds; a task that runs out of `attempts` has not answered. -/
def revokeCurrentGeneration (pubkey : String) (rest : Session → EndTask) : Nat → EndTask
  | 0 => .done .finished
  | attempts + 1 => .read .other (fun _ store => store.getSession pubkey) fun
      | none => .done .finished
      | some current => .attempt .other (fun _ store =>
          store.revokeSessionRecoveryIfGeneration pubkey current.runtimeGeneration) fun
          | .error error => .done (.killFailed (.store error))
          | .ok false => revokeCurrentGeneration pubkey rest attempts
          | .ok true => .read .other (fun _ store => store.getSession pubkey) fun
              | none => .done .finished
              | some fenced =>
                  if fenced.runtimeGeneration = current.runtimeGeneration ∧
                      fenced.recoveryState = .revoked then rest fenced
                  else revokeCurrentGeneration pubkey rest attempts

def forgetSession (pubkey : String) (attempts : Nat) : EndTask :=
  revokeCurrentGeneration pubkey (fun current => terminateExplicit current fun
    | false => .done (.sessionKill current false)
    | true => .attempt .other (fun reply store => store.finalizeSessionRecoveryRevocation
        current.pubkey current.runtimeGeneration reply.now) fun
        | .error error => .done (.killFailed (.store error))
        | .ok finalized => .done (.sessionKill current finalized)) attempts

def sessionKill (pubkey : String) (forget : Bool) (attempts : Nat) : EndTask :=
  .read .other (fun _ store => store.getSession pubkey) fun
    | none => .done .finished
    | some session =>
        if forget = true then forgetSession session.pubkey attempts
        else terminateExplicit session fun
          | false => .done (.sessionKill session false)
          | true => stopGeneration (.killEnd session) session .operatorKill Reply.now fun
              | .error error => .done (.killFailed error)
              | .ok true => .done (.sessionKill session true)
              | .ok false => .read .other (fun _ store => store.getSession session.pubkey)
                  fun current => .done (.sessionKill session (current.any (fun row =>
                    decide (row.runtimeGeneration = session.runtimeGeneration ∧
                      row.runtimeState ≠ .running))))

/-! ## The idle eviction -/

/-- Nothing is left to do, or the error is logged: the row is read and not written. -/
def ensureNotStuckStopping (session : Session) : EndTask :=
  .read .other (fun _ store => store.getSession session.pubkey) fun _ => .done .finished

/-- The runtime is gone: finalize the reserved stop. -/
def finalizeEviction (stopping : Session) (locatorKind : Option String) : EndTask :=
  .attempt .other (fun reply store => store.finalizeRuntimeStoppedIfEpoch stopping.pubkey
      stopping.runtimeGeneration stopping.lifecycleEpoch .idleEvicted reply.now) fun
    | .error _ => .done .finished
    | .ok none => .done .finished
    | .ok (some stopped) => clearRuntimeLocator stopped (locatorKind.getD locatorPid)
        fun _ => .done .finished

/-- The conditional kill and what follows its outcome. -/
def finishIdleEviction (stopping : Session) : EndTask :=
  .read .other (fun _ store => store.hostedEndpointFor stopping) fun
    | .error _ => ensureNotStuckStopping stopping
    | .ok (.resolved .pty _) => .read .other (fun reply _ => reply.conditionalKill) fun
        | some (.killed _) => finalizeEviction stopping (some locatorPty)
        | some (.presentationChanged presentation) =>
            applyPresentation stopping presentation fun
              | .ok true => .done .finished
              | _ => ensureNotStuckStopping stopping
        | none => recordControlUnavailable stopping fun _ => ensureNotStuckStopping stopping
    | .ok (.resolved kind _) => .read .other (fun reply _ => reply.exitConfirmed) fun
        | true => finalizeEviction stopping (some kind.locatorKind)
        | false => ensureNotStuckStopping stopping
    | .ok (.unavailable _) =>
        recordControlUnavailable stopping fun _ => ensureNotStuckStopping stopping
    | .ok .unhosted => .read .other (fun reply _ => reply.processAlive) fun
        | true => recordControlUnavailable stopping fun _ => ensureNotStuckStopping stopping
        | false => finalizeEviction stopping none

/-- One candidate of a round of evictions. -/
def evictOne (pubkey : String) : EndTask :=
  .read .other (fun reply store => ((store.listDueIdleEvictions reply.now).toOption.getD []).find?
      (fun candidate => candidate.pubkey = pubkey)) fun
    | none => .done .finished
    | some candidate => .attempt .other (fun reply store => store.reserveDueIdleEviction
        candidate.pubkey candidate.runtimeGeneration candidate.lifecycleEpoch
        candidate.attachmentEpoch reply.now) fun
        | .ok (some stopping) => finishIdleEviction stopping
        | _ => .done .finished

/-- One session of a round over the stopping ones. -/
def reconcileStopping (pubkey : String) : EndTask :=
  .read .other (fun _ store => store.listStoppingSessions.find?
      (fun session => session.pubkey = pubkey)) fun
    | none => .done .finished
    | some session => finishIdleEviction session

/-! ## Presentation edges -/

def presentationChanged (ptyId : String) (presentation : PresentationSnapshot) : EndTask :=
  .read .other (fun _ store => store.sessionForRuntimeLocator locatorPty ptyId) fun
    | .ok (some session) => applyPresentation session presentation fun _ => .done .finished
    | _ => .done .finished

/-- One session of a round over the running ones. -/
def reconcilePresentation (pubkey : String) : EndTask :=
  .read .other (fun _ store => store.listRunningSessions.find?
      (fun session => session.pubkey = pubkey)) fun
    | none => .done .finished
    | some session => .read .other (fun _ store => store.locatorsForPubkey pubkey) fun locators =>
        let current := locators.filter (fun locator =>
          decide (locator.runtimeGeneration = session.runtimeGeneration))
        if current.any (fun locator => decide (locator.locatorKind = locatorPty)) then
          .read .other (fun reply _ => (reply.observation, reply.processAlive)) fun
            | (some observation, _) =>
                applyPresentation session observation fun _ => .done .finished
            | (none, true) => recordControlUnavailable session fun _ => .done .finished
            | (none, false) =>
                stopGeneration .other session .crash Reply.now fun _ => .done .finished
        else if current.any (fun locator => decide (locator.locatorKind ∈
              [locatorAcp, locatorAppServer])) = true ∧
            session.presentationState ≠ .headless then
          .attempt .other (fun reply store => store.applySessionPresentationEdge session.pubkey
              session.runtimeGeneration (Rust.saturatingAdd session.attachmentEpoch 1) .headless
              reply.now) fun _ => .done .finished
        else .done .finished

end EndTask

/-! ## The parties together -/

/-- What a party is asked to do. -/
inductive EndRequest where
  | supervisorExited (ptyId : String) (childSuccess : Option Bool)
      (presentation : PresentationSnapshot) (exitedAt : Nat)
  | sessionKill (pubkey : String) (forget : Bool) (attempts : Nat)
  | evictOne (pubkey : String)
  | reconcileStopping (pubkey : String)
  | presentationChanged (ptyId : String) (presentation : PresentationSnapshot)
  | reconcilePresentation (pubkey : String)
  deriving DecidableEq

def EndRequest.task : EndRequest → EndTask
  | .supervisorExited ptyId childSuccess presentation exitedAt =>
      EndTask.supervisorExited ptyId childSuccess presentation exitedAt
  | .sessionKill pubkey forget attempts => EndTask.sessionKill pubkey forget attempts
  | .evictOne pubkey => EndTask.evictOne pubkey
  | .reconcileStopping pubkey => EndTask.reconcileStopping pubkey
  | .presentationChanged ptyId presentation => EndTask.presentationChanged ptyId presentation
  | .reconcilePresentation pubkey => EndTask.reconcilePresentation pubkey

/-- The parties, with any operation of any other client of the store in between. -/
abbrev EndEvent := Concurrent.Event StoreOp EndRequest Reply

def endStep : Pool EndLabel Store Reply EndAnswer → EndEvent → Pool EndLabel Store Reply EndAnswer :=
  Pool.step Store.step EndRequest.task

end Mosaico
