import Mosaico.Transition.Run

/-!
# Starting, replacing and stopping the daemon

Clients, daemons and the `daemon stop` command are processes that share two files: the
socket `daemon.sock` and the lock file `daemon.lock`.  The lock file is never removed, and
the operating system drops the lock of a process that ends.  A socket file outlives the
process that bound it; a connection succeeds only while that process listens.

Each step of a process is one system call or one exchange of the handshake.  The steps of
all processes interleave in any order, and any process may be killed between two of its
steps.
-/

namespace Mosaico

namespace Daemon

open Transition

/-! ## The handshake -/

inductive HandshakeDecision where
  | ready
  | askOlderDaemonToExit
  | daemonTooNew (daemonProtocol clientProtocol : Nat)
  deriving DecidableEq, Repr

def compareProtocols (daemonProtocol clientProtocol : Nat) : HandshakeDecision :=
  match compare daemonProtocol clientProtocol with
  | .eq => .ready
  | .lt => .askOlderDaemonToExit
  | .gt => .daemonTooNew daemonProtocol clientProtocol

theorem compareProtocols_eq_ready {daemonProtocol clientProtocol : Nat}
    (hready : compareProtocols daemonProtocol clientProtocol = .ready) :
    daemonProtocol = clientProtocol := by
  unfold compareProtocols at hready
  cases hcompare : compare daemonProtocol clientProtocol with
  | eq => exact Nat.compare_eq_eq.mp hcompare
  | lt | gt => simp [hcompare] at hready

theorem compareProtocols_eq_askOlderDaemonToExit {daemonProtocol clientProtocol : Nat}
    (hask : compareProtocols daemonProtocol clientProtocol = .askOlderDaemonToExit) :
    daemonProtocol < clientProtocol := by
  unfold compareProtocols at hask
  cases hcompare : compare daemonProtocol clientProtocol with
  | eq | gt => simp [hcompare] at hask
  | lt => exact Nat.compare_eq_lt.mp hcompare

/-! ## Processes -/

/-- `Client::connect_or_spawn`, or the synchronous `call`, whose probe is a `ping`. -/
inductive ClientKind where
  | async
  | blocking
  deriving DecidableEq, Repr

/-- Why a daemon left its main loop. -/
inductive ExitCause where
  | signal
  | shutdownRpc (client : Nat)
  | newerClient (client : Nat)
  deriving DecidableEq, Repr

/-- Where a process stands, between two of its steps.  `left` counts the iterations of the
connect loop that remain. -/
inductive Phase where
  -- `connect_or_spawn` and `call`
  | connecting (client : ClientKind) (left : Nat)
  | greeted (client : ClientKind) (left daemon : Nat)
  | connected (daemon : Nat)
  | failed
  -- `spawn_daemon_if_absent` and `spawn_if_absent`
  | probing (client : ClientKind) (left : Nat)
  | acquiring (client : ClientKind) (left : Nat)
  | checkingSocket (client : ClientKind) (left : Nat)
  | reclaiming (client : ClientKind) (left : Nat)
  | spawning (client : ClientKind) (left : Nat)
  | unlocking (client : ClientKind) (left child : Nat)
  | watching (client : ClientKind) (left : Nat) (child : Option Nat)
  | polling (client : ClientKind) (left : Nat) (child : Option Nat)
  -- `connect_running`
  | hookConnecting
  | hookGreeted (daemon : Nat)
  -- `daemon stop` and `daemon restart`
  | requestingShutdown (restart : Bool)
  | confirmingExit (restart : Bool)
  | exitConfirmed (restart : Bool)
  | stopped
  -- `lifecycle::run`
  | starting
  | checkingStale
  | removingStale
  | binding
  | opening
  | accepting
  | serving
  | draining (cause : ExitCause)
  | cleaning
  | closing
  | ending (success : Bool)
  | exited (success : Bool)
  | killed
  deriving DecidableEq, Repr

namespace Phase

/-- The process holds the lock on `daemon.lock`. -/
def holdsLock : Phase → Bool
  | checkingSocket _ _ | reclaiming _ _ | spawning _ _ | unlocking _ _ _ => true
  | exitConfirmed _ => true
  | checkingStale | removingStale | binding | opening | accepting | serving => true
  | draining _ | cleaning | closing => true
  | _ => false

/-- The process has bound the socket and has not yet removed it. -/
def listens : Phase → Bool
  | opening | accepting | serving | draining _ | cleaning => true
  | _ => false

/-- A connection to the process is accepted and greeted.  A connection made while the
daemon drains may just have been accepted before the accept loop was aborted. -/
def answers : Phase → Bool
  | accepting | serving | draining _ => true
  | _ => false

/-- The process has ended. -/
def ended : Phase → Bool
  | exited _ | killed => true
  | _ => false

theorem holdsLock_of_listens {phase : Phase} (hlistens : phase.listens = true) :
    phase.holdsLock = true := by
  cases phase <;> simp_all [listens, holdsLock]

end Phase

structure Process where
  protocol : Nat
  phase : Phase
  deriving DecidableEq, Repr

/-- What a client asks of a daemon on the wire. -/
inductive Request where
  | pleaseExit
  | shutdown
  deriving DecidableEq, Repr

structure Message where
  request : Request
  client : Nat
  daemon : Nat
  deriving DecidableEq, Repr

/-- The shared files, the requests in flight, and the processes in the order in which they
were started. -/
structure Machine where
  lock : Option Nat
  socket : Option Nat
  messages : List Message
  processes : List Process
  deriving DecidableEq, Repr

/-- What the outside world answers to one step. -/
structure Answer where
  /-- The system call succeeds, the peer answers in time, the signal arrives. -/
  ok : Bool
  /-- The deadline of the loop has passed. -/
  expired : Bool
  /-- The response to the shutdown request arrives. -/
  replied : Bool
  deriving DecidableEq, Repr

/-- What a step does besides moving its process on. -/
inductive Effect where
  | none
  | acquire
  | release
  | unlink
  | bind
  | spawn
  | send (request : Request) (daemon : Nat)
  deriving DecidableEq, Repr

namespace Machine

/-- No process runs, and no socket file was left behind. -/
def empty : Machine := ⟨.none, .none, [], []⟩

def phaseOf (machine : Machine) (pid : Nat) : Option Phase :=
  (machine.processes[pid]?).map Process.phase

def protocolOf (machine : Machine) (pid : Nat) : Nat :=
  ((machine.processes[pid]?).map Process.protocol).getD 0

/-- The daemon that completes a handshake on the socket path. -/
def greeter (machine : Machine) (answer : Answer) : Option Nat :=
  if answer.ok then
    machine.socket.filter fun daemon => (machine.phaseOf daemon).any Phase.answers
  else .none

/-! ## Clients -/

/-- `probe_handshake` of the async client, `daemon_answers_ping` of the blocking one.  A
ping to an older daemon asks it to exit. -/
def probe (machine : Machine) (self : Process) (client : ClientKind) (answer : Answer) :
    Bool × Effect :=
  match machine.greeter answer with
  | .none => (false, .none)
  | some daemon =>
      match client with
      | .async => (true, .none)
      | .blocking =>
          match compareProtocols (machine.protocolOf daemon) self.protocol with
          | .ready => (true, .none)
          | .askOlderDaemonToExit => (false, .send .pleaseExit daemon)
          | .daemonTooNew _ _ => (false, .none)

/-- What the welcome of `daemon` makes of a client that may spawn. -/
def decide (machine : Machine) (self : Process) (client : ClientKind) (left daemon : Nat)
    (answer : Answer) : Phase × Effect :=
  match compareProtocols (machine.protocolOf daemon) self.protocol with
  | .ready => (.connected daemon, .none)
  | .askOlderDaemonToExit =>
      (.probing client left, if answer.ok then .send .pleaseExit daemon else .none)
  | .daemonTooNew _ _ => (.failed, .none)

def clientStep (machine : Machine) (self : Process) (answer : Answer) : Phase × Effect :=
  match self.phase with
  | .connecting _ 0 => (.failed, .none)
  | .connecting client (left + 1) =>
      match machine.greeter answer with
      | some daemon => (.greeted client left daemon, .none)
      | .none => (.probing client left, .none)
  | .greeted client left daemon => machine.decide self client left daemon answer
  | .probing client left =>
      if answer.expired then (.watching client left .none, .none)
      else
        match machine.probe self client answer with
        | (true, effect) => (.connecting client left, effect)
        | (false, effect) => (.acquiring client left, effect)
  | .acquiring client left =>
      if !answer.ok then (.failed, .none)
      else if machine.lock.isNone then (.checkingSocket client left, .acquire)
      else (.probing client left, .none)
  | .checkingSocket client left =>
      if machine.socket.isSome then (.reclaiming client left, .none)
      else (.spawning client left, .none)
  | .reclaiming client left =>
      (.spawning client left, if answer.ok then .unlink else .none)
  | .spawning client left =>
      if answer.ok then (.unlocking client left machine.processes.length, .spawn)
      else (.failed, .release)
  | .unlocking client left child => (.watching client left (some child), .release)
  | .watching client left child =>
      if answer.expired then (.failed, .none)
      else
        match machine.probe self client answer with
        | (true, effect) => (.connecting client left, effect)
        | (false, effect) => (.polling client left child, effect)
  | .polling client left .none => (.watching client left .none, .none)
  | .polling client left (some child) =>
      -- `poll_spawned_child`: a child that exits in success lost the race for the lock.
      match machine.phaseOf child with
      | some (.exited true) => (.watching client left .none, .none)
      | some (.exited false) => (.failed, .none)
      | some .killed => (.failed, .none)
      | _ => (.watching client left (some child), .none)
  | .hookConnecting =>
      match machine.greeter answer with
      | some daemon => (.hookGreeted daemon, .none)
      | .none => (.failed, .none)
  | .hookGreeted daemon =>
      match compareProtocols (machine.protocolOf daemon) self.protocol with
      | .ready => (.connected daemon, .none)
      | _ => (.failed, .none)
  | phase => (phase, .none)

/-! ## `daemon stop` and `daemon restart` -/

/-- What follows when `request_shutdown` finds it safe to start a replacement. -/
def shutdownDone : Bool → Phase
  | true => .connecting .async 5
  | false => .stopped

/-- What follows when the exit could not be confirmed: `stop` ignores that. -/
def shutdownUnconfirmed : Bool → Phase
  | true => .failed
  | false => .stopped

def stopStep (machine : Machine) (self : Process) (answer : Answer) : Phase × Effect :=
  match self.phase with
  | .requestingShutdown restart =>
      match machine.greeter answer with
      | .none => (shutdownDone restart, .none)
      | some daemon =>
          match compareProtocols (machine.protocolOf daemon) self.protocol with
          | .ready =>
              (if answer.replied then .confirmingExit restart else shutdownDone restart,
                .send .shutdown daemon)
          | .askOlderDaemonToExit => (shutdownDone restart, .send .pleaseExit daemon)
          | .daemonTooNew _ _ => (shutdownDone restart, .none)
  | .confirmingExit restart =>
      if !answer.ok then (shutdownUnconfirmed restart, .none)
      else if machine.lock.isNone then (.exitConfirmed restart, .acquire)
      else if answer.expired then (shutdownUnconfirmed restart, .none)
      else (.confirmingExit restart, .none)
  | .exitConfirmed restart => (shutdownDone restart, .release)
  | phase => (phase, .none)

/-! ## The daemon -/

def daemonStep (machine : Machine) (self : Process) (answer : Answer) : Phase × Effect :=
  match self.phase with
  | .starting =>
      if !answer.ok then (.exited false, .none)
      else if machine.lock.isNone then (.checkingStale, .acquire)
      else (.exited true, .none)
  | .checkingStale =>
      if machine.socket.isSome then (.removingStale, .none) else (.binding, .none)
  | .removingStale => (.binding, if answer.ok then .unlink else .none)
  | .binding =>
      -- A file at the path makes the bind fail.
      if answer.ok && machine.socket.isNone then (.opening, .bind) else (.ending false, .release)
  | .opening =>
      -- Configuration, store and relay host.  A failure leaves the socket file behind.
      if answer.ok then (.accepting, .none) else (.ending false, .release)
  | .accepting => (.serving, .none)
  | .serving => (if answer.ok then .draining .signal else .serving, .none)
  | .draining _ => (.cleaning, .none)
  | .cleaning => (.closing, if answer.ok then .unlink else .none)
  | .closing => (.ending true, .release)
  | .ending success => (.exited success, .none)
  | phase => (phase, .none)

/-! ## Steps of the machine -/

/-- The next phase of a process and what its step does. -/
def next (machine : Machine) (self : Process) (answer : Answer) : Phase × Effect :=
  match self.phase with
  | .requestingShutdown _ | .confirmingExit _ | .exitConfirmed _ | .stopped =>
      machine.stopStep self answer
  | .starting | .checkingStale | .removingStale | .binding | .opening | .accepting | .serving
  | .draining _ | .cleaning | .closing | .ending _ | .exited _ | .killed =>
      machine.daemonStep self answer
  | _ => machine.clientStep self answer

/-- What the effect of a step of process `pid` makes of the shared files. -/
def applyEffect (machine : Machine) (pid : Nat) (self : Process) : Effect → Machine
  | .none => machine
  | .acquire => { machine with lock := some pid }
  | .release => { machine with lock := .none }
  | .unlink => { machine with socket := .none }
  | .bind => { machine with socket := some pid }
  | .spawn => { machine with processes := machine.processes ++ [⟨self.protocol, .starting⟩] }
  | .send request daemon =>
      { machine with messages := machine.messages ++ [⟨request, pid, daemon⟩] }

def setPhase (machine : Machine) (pid : Nat) (self : Process) (phase : Phase) : Machine :=
  { machine with processes := machine.processes.set pid ⟨self.protocol, phase⟩ }

def advance (machine : Machine) (pid : Nat) (answer : Answer) : Machine :=
  match machine.processes[pid]? with
  | .none => machine
  | some self =>
      let (phase, effect) := machine.next self answer
      (machine.setPhase pid self phase).applyEffect pid self effect

/-- The process is killed; the operating system drops its lock. -/
def kill (machine : Machine) (pid : Nat) : Machine :=
  match machine.processes[pid]? with
  | .none => machine
  | some self =>
      if self.phase.ended then machine
      else
        let killed := machine.setPhase pid self .killed
        if machine.lock = some pid then { killed with lock := .none } else killed

/-- A daemon reads a request.  Its main loop is notified only if it waits there; a newer
client's request to exit is read as such only on a connection that said so. -/
def deliver (machine : Machine) (index : Nat) : Machine :=
  match machine.messages[index]? with
  | .none => machine
  | some message =>
      let rest := { machine with messages := machine.messages.eraseIdx index }
      match machine.processes[message.daemon]? with
      | some ⟨protocol, .serving⟩ =>
          let self : Process := ⟨protocol, .serving⟩
          match message.request with
          | .shutdown => rest.setPhase message.daemon self (.draining (.shutdownRpc message.client))
          | .pleaseExit =>
              if protocol < machine.protocolOf message.client then
                rest.setPhase message.daemon self (.draining (.newerClient message.client))
              else rest
      | _ => rest

end Machine

/-- How a process starts: a client, a hook, the stop command, or a daemon by hand. -/
inductive Entry where
  | client (kind : ClientKind)
  | hook
  | stop (restart : Bool)
  | daemon
  deriving DecidableEq, Repr

def Entry.phase : Entry → Phase
  | .client kind => .connecting kind 5
  | .hook => .hookConnecting
  | .stop restart => .requestingShutdown restart
  | .daemon => .starting

/-- What happens to the machine next. -/
inductive Event where
  | launch (entry : Entry) (protocol : Nat)
  | advance (pid : Nat) (answer : Answer)
  | deliver (message : Nat)
  | kill (pid : Nat)
  deriving DecidableEq, Repr

namespace Machine

def step (machine : Machine) : Event → Machine
  | .launch entry protocol =>
      { machine with processes := machine.processes ++ [⟨protocol, entry.phase⟩] }
  | .advance pid answer => machine.advance pid answer
  | .deliver message => machine.deliver message
  | .kill pid => machine.kill pid

/-- The machine after a list of events. -/
def after (events : List Event) : Machine := run step empty events

end Machine

end Daemon

end Mosaico
