import Mosaico.Daemon.Ownership
import Mosaico.Transition.Progress

/-!
# The holder of the lock comes up

Once a daemon holds the lock, no interleaving with other clients, daemons and crashes keeps
it from serving on the socket path, whatever socket file an earlier daemon left there.  And
no crash leaves the lock behind.
-/

namespace Mosaico

namespace Daemon

open Transition

/-- How many steps a daemon that holds the lock is away from its main loop. -/
def Phase.stepsToServe : Phase → Option Nat
  | .checkingStale => some 5
  | .removingStale => some 4
  | .binding => some 3
  | .opening => some 2
  | .accepting => some 1
  | .serving => some 0
  | _ => none

namespace Machine

/-- A daemon that has the lock is on its way to its main loop; nothing is in the way of its
bind. -/
structure Rising (pid : Nat) (machine : Machine) (rank : Nat) : Prop where
  owned : Owned machine
  rising : ∃ process, machine.processes[pid]? = some process ∧
    process.phase.stepsToServe = some rank ∧
    (process.phase = .binding → machine.socket = none)

variable {machine : Machine} {pid : Nat}

theorem holdsLock_of_stepsToServe {phase : Phase} {rank : Nat}
    (hrank : phase.stepsToServe = some rank) : phase.holdsLock = true := by
  cases phase <;> simp_all [Phase.stepsToServe, Phase.holdsLock]

/-! ## What the others can do -/

/-- A step of another process leaves a process as it is. -/
theorem getElem?_advance_of_ne {other : Nat} {process : Process} (answer : Answer)
    (hprocess : machine.processes[pid]? = some process) (hne : other ≠ pid) :
    (machine.advance other answer).processes[pid]? = some process := by
  unfold advance
  cases hother : machine.processes[other]? with
  | none => exact hprocess
  | some self =>
      dsimp only
      rcases machine.next self answer with ⟨phase, effect⟩
      have hset : (machine.processes.set other ⟨self.protocol, phase⟩)[pid]? = some process := by
        rw [List.getElem?_set_ne hne, hprocess]
      cases effect with
      | spawn =>
          have hlt := lt_of_getElem?_eq_some hset
          exact (List.getElem?_append_left hlt).trans hset
      | none | acquire | release | unlink | bind | send request daemon => exact hset

/-- While a process holds the lock, no other writes the socket. -/
theorem Owned.socket_advance_of_ne (howned : Owned machine) {other : Nat} {process : Process}
    (answer : Answer) (hprocess : machine.processes[pid]? = some process)
    (hholds : process.phase.holdsLock = true) (hne : other ≠ pid) :
    (machine.advance other answer).socket = machine.socket := by
  unfold advance
  cases hself : machine.processes[other]? with
  | none => rfl
  | some self =>
      have hlawful := lawful_next machine self answer
      have hfree : self.phase.holdsLock ≠ true :=
        fun hself' => hne (howned.exclusive.unique hself hprocess hself' hholds)
      dsimp only
      rcases hnext : machine.next self answer with ⟨phase, effect⟩
      rw [hnext] at hlawful
      cases effect with
      | unlink | bind => exact absurd hlawful.1 hfree
      | none | acquire | release | spawn | send request daemon => rfl

theorem getElem?_kill_of_ne {other : Nat} {process : Process}
    (hprocess : machine.processes[pid]? = some process) (hne : other ≠ pid) :
    (machine.kill other).processes[pid]? = some process := by
  unfold kill
  cases machine.processes[other]? with
  | none => exact hprocess
  | some self =>
      have hset : (machine.processes.set other ⟨self.protocol, .killed⟩)[pid]? = some process := by
        rw [List.getElem?_set_ne hne, hprocess]
      dsimp only
      split
      · exact hprocess
      · split
        · exact hset
        · exact hset

/-- A request reaches only a daemon in its main loop. -/
theorem getElem?_deliver {process : Process} (index : Nat)
    (hprocess : machine.processes[pid]? = some process) (hphase : process.phase ≠ .serving) :
    (machine.deliver index).processes[pid]? = some process := by
  unfold deliver
  cases machine.messages[index]? with
  | none => exact hprocess
  | some message =>
      dsimp only
      split
      · next protocol hdaemon =>
          have hne : message.daemon ≠ pid := by
            rintro rfl
            rw [hprocess] at hdaemon
            exact hphase (congrArg Process.phase (Option.some.inj hdaemon))
          have hset (phase : Phase) :
              (machine.processes.set message.daemon ⟨protocol, phase⟩)[pid]? = some process := by
            rw [List.getElem?_set_ne hne, hprocess]
          cases message.request with
          | shutdown => exact hset _
          | pleaseExit =>
              dsimp only
              split
              · exact hset _
              · exact hprocess
      · exact hprocess

/-! ## The daemon's own steps -/

/-- Its own step takes a daemon whose system calls succeed one step closer. -/
theorem Rising.advance {rank : Nat} {answer : Answer} (hrising : Rising pid machine (rank + 1))
    (hok : answer.ok = true) :
    ∃ less, less ≤ rank ∧ Rising pid (machine.advance pid answer) less := by
  have howned := owned_advance hrising.owned pid answer
  obtain ⟨⟨protocol, phase⟩, hprocess, hrank, hbinding⟩ := hrising.rising
  have hset (after : Phase) :
      (machine.processes.set pid ⟨protocol, after⟩)[pid]? = some ⟨protocol, after⟩ :=
    List.getElem?_set_self (lt_of_getElem?_eq_some hprocess)
  unfold Machine.advance at howned ⊢
  rw [hprocess] at howned ⊢
  cases phase with
  | checkingStale =>
      obtain rfl : rank = 4 := by simpa [Phase.stepsToServe] using hrank.symm
      cases hsocket : machine.socket with
      | none =>
          simp only [next, daemonStep, hsocket, Option.isSome_none] at howned ⊢
          exact ⟨3, by omega, howned, _, hset _, rfl, fun _ => hsocket⟩
      | some stale =>
          simp only [next, daemonStep, hsocket, Option.isSome_some] at howned ⊢
          exact ⟨4, by omega, howned, _, hset _, rfl, fun h => by cases h⟩
  | removingStale =>
      obtain rfl : rank = 3 := by simpa [Phase.stepsToServe] using hrank.symm
      simp only [next, daemonStep, hok] at howned ⊢
      exact ⟨3, by omega, howned, _, hset _, rfl, fun _ => rfl⟩
  | binding =>
      obtain rfl : rank = 2 := by simpa [Phase.stepsToServe] using hrank.symm
      simp only [next, daemonStep, hok, hbinding rfl] at howned ⊢
      exact ⟨2, by omega, howned, _, hset _, rfl, fun h => by cases h⟩
  | opening =>
      obtain rfl : rank = 1 := by simpa [Phase.stepsToServe] using hrank.symm
      simp only [next, daemonStep, hok] at howned ⊢
      exact ⟨1, by omega, howned, _, hset _, rfl, fun h => by cases h⟩
  | accepting =>
      obtain rfl : rank = 0 := by simpa [Phase.stepsToServe] using hrank.symm
      simp only [next, daemonStep] at howned ⊢
      exact ⟨0, by omega, howned, _, hset _, rfl, fun h => by cases h⟩
  | _ => simp [Phase.stepsToServe] at hrank

/-! ## Coming up -/

/-- What a run must not do to daemon `pid` while it comes up. -/
def Undisturbed (pid : Nat) : Event → Prop
  | .advance actor answer => actor = pid → answer.ok = true
  | .kill victim => victim ≠ pid
  | _ => True

def stepsOf (pid : Nat) : Event → Bool
  | .advance actor _ => actor == pid
  | _ => false

/-- Whatever the others do, a daemon on its way keeps what it has reached. -/
theorem Rising.others {rank : Nat} {event : Event} (hrising : Rising pid machine (rank + 1))
    (hundisturbed : Undisturbed pid event) (hother : stepsOf pid event = false) :
    Rising pid (machine.step event) (rank + 1) := by
  have howned := owned_step hrising.owned event
  obtain ⟨process, hprocess, hrank, hbinding⟩ := hrising.rising
  have hholds := holdsLock_of_stepsToServe hrank
  refine ⟨howned, process, ?_, hrank, ?_⟩
  · cases event with
    | launch entry protocol =>
        exact (List.getElem?_append_left (lt_of_getElem?_eq_some hprocess)).trans hprocess
    | advance actor answer =>
        exact getElem?_advance_of_ne answer hprocess (by simpa [stepsOf] using hother)
    | kill victim => exact getElem?_kill_of_ne hprocess hundisturbed
    | deliver index =>
        refine getElem?_deliver index hprocess (fun hserving => ?_)
        simp [hserving, Phase.stepsToServe] at hrank
  · intro hphase
    cases event with
    | launch entry protocol => exact hbinding hphase
    | advance actor answer =>
        have hne : actor ≠ pid := by simpa [stepsOf] using hother
        exact (hrising.owned.socket_advance_of_ne answer hprocess hholds hne).trans
          (hbinding hphase)
    | kill victim => exact (socket_kill victim).trans (hbinding hphase)
    | deliver index => exact (socket_deliver index).trans (hbinding hphase)

/-- A daemon that has taken the lock serves on the socket path after five of its own steps,
in whatever order other processes start, run, exchange requests and crash meanwhile. -/
theorem holder_comes_up (events later : List Event) (pid : Nat) (process : Process)
    (hprocess : (after events).processes[pid]? = some process)
    (hphase : process.phase = .checkingStale)
    (hundisturbed : ∀ event ∈ later, Undisturbed pid event)
    (hsteps : 5 ≤ later.countP (stepsOf pid)) :
    ∃ elapsed, elapsed <+: later ∧
      (after (events ++ elapsed)).phaseOf pid = some .serving ∧
      (after (events ++ elapsed)).lock = some pid ∧
      (after (events ++ elapsed)).socket = some pid := by
  have hstart : Rising pid (after events) 5 :=
    ⟨owned_after events, process, hprocess, by rw [hphase]; rfl, by rw [hphase]; exact nofun⟩
  have hkeep (state : Machine) (event : Event) (rank : Nat)
      (hrising : Rising pid state (rank + 1)) (hevent : Undisturbed pid event)
      (hother : stepsOf pid event = false) : Rising pid (state.step event) (rank + 1) :=
    hrising.others hevent hother
  have hlower (state : Machine) (event : Event) (rank : Nat)
      (hrising : Rising pid state (rank + 1)) (hevent : Undisturbed pid event)
      (hown : stepsOf pid event = true) :
      ∃ less, less ≤ rank ∧ Rising pid (state.step event) less := by
    cases event with
    | advance actor answer =>
        obtain rfl : actor = pid := by simpa [stepsOf] using hown
        exact hrising.advance (hevent rfl)
    | launch entry protocol | deliver index | kill victim => cases hown
  obtain ⟨elapsed, hprefix, howned, served, hserved, hrank, -⟩ :=
    exists_prefix_of_rank hkeep hlower hstart hundisturbed hsteps
  have happend : run step (after events) elapsed = after (events ++ elapsed) :=
    (run_append step empty events elapsed).symm
  rw [happend] at howned hserved
  have hserving : served.phase = .serving := by
    cases hcase : served.phase <;> simp_all [Phase.stepsToServe]
  refine ⟨elapsed, hprefix, ?_, ?_, ?_⟩
  · rw [phaseOf, hserved]
    exact congrArg some hserving
  · exact howned.lock_of_holds hserved (by rw [hserving]; rfl)
  · exact howned.bound pid served hserved (by rw [hserving]; rfl)

/-! ## After a crash -/

/-- The lock belongs to a process that is alive. -/
theorem Owned.alive (howned : Owned machine) (hlock : machine.lock = some pid) :
    ∃ process, machine.processes[pid]? = some process ∧ process.phase.holdsLock = true := by
  have hlt := howned.listed pid hlock
  have hprocess := List.getElem?_eq_getElem hlt
  exact ⟨_, hprocess, (howned.exclusive pid _ hprocess).mpr hlock⟩

theorem Owned.lock_kill (howned : Owned machine) (hlock : machine.lock = some pid) :
    (machine.kill pid).lock = none := by
  obtain ⟨process, hprocess, hholds⟩ := howned.alive hlock
  have halive : process.phase.ended = false := by
    cases hphase : process.phase <;> simp_all [Phase.holdsLock, Phase.ended]
  simp [kill, hprocess, halive, hlock]

/-- The holder of the lock, if there is one, is killed. -/
def crash (machine : Machine) : List Event :=
  match machine.lock with
  | none => []
  | some pid => [.kill pid]

theorem lock_crash (events : List Event) :
    (after (events ++ crash (after events))).lock = none := by
  unfold crash
  cases hlock : (after events).lock with
  | none => simpa using hlock
  | some pid =>
      rw [after, run_append]
      exact (owned_after events).lock_kill hlock

/-- A daemon that is started while the lock is free takes it. -/
theorem launch_takes_lock (protocol : Nat) {answer : Answer} (hlock : machine.lock = none)
    (hok : answer.ok = true) :
    (run step machine [.launch .daemon protocol,
        .advance machine.processes.length answer]).processes[machine.processes.length]? =
      some ⟨protocol, .checkingStale⟩ := by
  simp [step, advance, next, daemonStep, hok, hlock, Entry.phase, setPhase, applyEffect]

/-- No crash wedges the daemon.  After any run, whatever process holds the lock may die
between any two of its steps: a daemon that is started next takes the lock and serves on the
socket path, in whatever order the other processes go on. -/
theorem restart_after_crash (events later : List Event) (protocol : Nat) (answer : Answer)
    (pid : Nat) (hpid : pid = (after (events ++ crash (after events))).processes.length)
    (hok : answer.ok = true) (hundisturbed : ∀ event ∈ later, Undisturbed pid event)
    (hsteps : 5 ≤ later.countP (stepsOf pid)) :
    ∃ elapsed, elapsed <+: later ∧
      (after (events ++ crash (after events) ++ [.launch .daemon protocol, .advance pid answer] ++
        elapsed)).phaseOf pid = some .serving ∧
      (after (events ++ crash (after events) ++ [.launch .daemon protocol, .advance pid answer] ++
        elapsed)).socket = some pid := by
  have hlock := lock_crash events
  generalize events ++ crash (after events) = crashed at hpid hlock ⊢
  subst hpid
  have hlaunched : (after (crashed ++ [.launch .daemon protocol,
      .advance (after crashed).processes.length answer])).processes[(after crashed).processes.length]?
        = some ⟨protocol, .checkingStale⟩ := by
    rw [after, run_append]
    exact launch_takes_lock protocol hlock hok
  obtain ⟨elapsed, hprefix, hserving, -, hsocket⟩ :=
    holder_comes_up _ later _ _ hlaunched rfl hundisturbed hsteps
  exact ⟨elapsed, hprefix, hserving, hsocket⟩

def succeeds : Answer := ⟨true, false, true⟩

/-- A daemon takes the lock and dies before it binds; the next one comes up. -/
theorem restart_after_crash_before_bind :
    ∃ elapsed, elapsed <+: List.replicate 5 (Event.advance 1 succeeds) ∧
      (after ([.launch .daemon 68, .advance 0 succeeds] ++
        crash (after [.launch .daemon 68, .advance 0 succeeds]) ++
        [.launch .daemon 68, .advance 1 succeeds] ++ elapsed)).phaseOf 1 = some .serving ∧
      (after ([.launch .daemon 68, .advance 0 succeeds] ++
        crash (after [.launch .daemon 68, .advance 0 succeeds]) ++
        [.launch .daemon 68, .advance 1 succeeds] ++ elapsed)).socket = some 1 := by
  refine restart_after_crash [.launch .daemon 68, .advance 0 succeeds]
    (List.replicate 5 (.advance 1 succeeds)) 68 succeeds 1 (by decide) rfl ?_ (by decide)
  intro event hevent
  rw [List.eq_of_mem_replicate hevent]
  exact fun _ => rfl

end Machine

end Daemon

end Mosaico
