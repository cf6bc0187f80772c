import Mosaico.Daemon.Ownership

/-!
# Clients and daemons of different versions

A client stays connected only to a daemon of its own protocol, and only a client of a newer
protocol makes a daemon leave for a re-exec.  Requests are read by the daemon long after they
were sent, so what they rest on has to be known of the messages in flight.
-/

namespace Mosaico

namespace Daemon

open Transition

namespace Machine

variable {machine : Machine} {self : Process} {answer : Answer}

/-! ## What the phases and messages of a step rest on -/

/-- What a process in `phase` knows of the others. -/
def Knows (machine : Machine) (protocol : Nat) : Phase → Prop
  | .greeted _ _ daemon => daemon < machine.processes.length
  | .hookGreeted daemon => daemon < machine.processes.length
  | .connected daemon =>
      daemon < machine.processes.length ∧ machine.protocolOf daemon = protocol
  | .draining (.newerClient client) =>
      client < machine.processes.length ∧ protocol < machine.protocolOf client
  | _ => True

/-- What holds of a message on its way from `client`. -/
def Justified (machine : Machine) (message : Message) : Prop :=
  message.daemon < machine.processes.length ∧ message.client < machine.processes.length ∧
    (message.request = .pleaseExit →
      machine.protocolOf message.daemon < machine.protocolOf message.client)

/-- What holds of the effect of a step of a process. -/
def JustifiedEffect (machine : Machine) (protocol : Nat) : Effect → Prop
  | .send .pleaseExit daemon =>
      daemon < machine.processes.length ∧ machine.protocolOf daemon < protocol
  | .send .shutdown daemon => daemon < machine.processes.length
  | _ => True

theorem lt_length_of_greeter {daemon : Nat} (hgreeter : machine.greeter answer = some daemon) :
    daemon < machine.processes.length := by
  unfold greeter at hgreeter
  split at hgreeter
  · have hanswers := (Option.filter_eq_some_iff.mp hgreeter).2
    rw [phaseOf] at hanswers
    cases hprocess : machine.processes[daemon]? with
    | none => simp [hprocess] at hanswers
    | some process => exact lt_of_getElem?_eq_some hprocess
  · cases hgreeter

theorem justified_probe (machine : Machine) (self : Process) (answer : Answer)
    (client : ClientKind) :
    JustifiedEffect machine self.protocol (machine.probe self client answer).2 := by
  rcases probe_effect machine self answer client with
    heffect | ⟨daemon, heffect, hgreeter, holder⟩
  · rw [heffect]
    trivial
  · rw [heffect]
    exact ⟨lt_length_of_greeter hgreeter, holder⟩

theorem knows_clientStep (hknows : Knows machine self.protocol self.phase) :
    Knows machine self.protocol (machine.clientStep self answer).1 ∧
      JustifiedEffect machine self.protocol (machine.clientStep self answer).2 := by
  have hprobe (client : ClientKind) :=
    justified_probe machine self answer client
  rcases self with ⟨protocol, phase⟩
  unfold clientStep
  -- A client learns of a daemon by its greeting, and of its protocol by the decision.
  cases phase with
  | connecting client left =>
      cases left with
      | zero => exact ⟨trivial, trivial⟩
      | succ left =>
          dsimp only
          cases hgreeter : machine.greeter answer with
          | none => exact ⟨trivial, trivial⟩
          | some daemon => exact ⟨lt_length_of_greeter hgreeter, trivial⟩
  | greeted client left daemon =>
      simp only [decide]
      split
      · next hready => exact ⟨⟨hknows, compareProtocols_eq_ready hready⟩, trivial⟩
      · next hask =>
          refine ⟨trivial, ?_⟩
          dsimp only
          split
          · exact ⟨hknows, compareProtocols_eq_askOlderDaemonToExit hask⟩
          · trivial
      · exact ⟨trivial, trivial⟩
  | probing client left =>
      have hjustified := hprobe client
      dsimp only
      rcases hresult : machine.probe ⟨protocol, .probing client left⟩ client answer with
        ⟨answered, effect⟩
      rw [hresult] at hjustified
      split
      · exact ⟨trivial, trivial⟩
      · cases answered <;> exact ⟨trivial, hjustified⟩
  | watching client left child =>
      have hjustified := hprobe client
      dsimp only
      rcases hresult : machine.probe ⟨protocol, .watching client left child⟩ client answer with
        ⟨answered, effect⟩
      rw [hresult] at hjustified
      split
      · exact ⟨trivial, trivial⟩
      · cases answered <;> exact ⟨trivial, hjustified⟩
  | acquiring client left =>
      dsimp only
      split
      · exact ⟨trivial, trivial⟩
      · split <;> exact ⟨trivial, trivial⟩
  | checkingSocket client left | spawning client left =>
      dsimp only; split <;> exact ⟨trivial, trivial⟩
  | reclaiming client left =>
      refine ⟨trivial, ?_⟩
      dsimp only
      split <;> trivial
  | polling client left child =>
      cases child with
      | none => exact ⟨trivial, trivial⟩
      | some child => dsimp only; split <;> exact ⟨trivial, trivial⟩
  | hookConnecting =>
      dsimp only
      cases hgreeter : machine.greeter answer with
      | none => exact ⟨trivial, trivial⟩
      | some daemon => exact ⟨lt_length_of_greeter hgreeter, trivial⟩
  | hookGreeted daemon =>
      dsimp only
      split
      · next hready => exact ⟨⟨hknows, compareProtocols_eq_ready hready⟩, trivial⟩
      · exact ⟨trivial, trivial⟩
  | _ => exact ⟨hknows, trivial⟩

theorem knows_shutdownDone (protocol : Nat) (restart : Bool) :
    Knows machine protocol (shutdownDone restart) := by
  cases restart <;> exact trivial

theorem knows_shutdownUnconfirmed (protocol : Nat) (restart : Bool) :
    Knows machine protocol (shutdownUnconfirmed restart) := by
  cases restart <;> exact trivial

theorem knows_stopStep (hknows : Knows machine self.protocol self.phase) :
    Knows machine self.protocol (machine.stopStep self answer).1 ∧
      JustifiedEffect machine self.protocol (machine.stopStep self answer).2 := by
  rcases self with ⟨protocol, phase⟩
  unfold stopStep
  cases phase with
  | requestingShutdown restart =>
      dsimp only
      cases hgreeter : machine.greeter answer with
      | none => exact ⟨knows_shutdownDone protocol restart, trivial⟩
      | some daemon =>
          have hlt := lt_length_of_greeter hgreeter
          dsimp only
          split
          · refine ⟨?_, hlt⟩
            dsimp only
            split
            · trivial
            · exact knows_shutdownDone protocol restart
          · next hask =>
              exact ⟨knows_shutdownDone protocol restart, hlt,
                compareProtocols_eq_askOlderDaemonToExit hask⟩
          · exact ⟨knows_shutdownDone protocol restart, trivial⟩
  | confirmingExit restart =>
      dsimp only
      split
      · exact ⟨knows_shutdownUnconfirmed protocol restart, trivial⟩
      · split
        · exact ⟨trivial, trivial⟩
        · split
          · exact ⟨knows_shutdownUnconfirmed protocol restart, trivial⟩
          · exact ⟨trivial, trivial⟩
  | exitConfirmed restart => exact ⟨knows_shutdownDone protocol restart, trivial⟩
  | _ => exact ⟨hknows, trivial⟩

theorem knows_daemonStep (hknows : Knows machine self.protocol self.phase) :
    Knows machine self.protocol (machine.daemonStep self answer).1 ∧
      JustifiedEffect machine self.protocol (machine.daemonStep self answer).2 := by
  rcases self with ⟨protocol, phase⟩
  unfold daemonStep
  cases phase with
  | starting =>
      dsimp only
      split
      · exact ⟨trivial, trivial⟩
      · split <;> exact ⟨trivial, trivial⟩
  | checkingStale | binding | opening => dsimp only; split <;> exact ⟨trivial, trivial⟩
  | removingStale | cleaning =>
      refine ⟨trivial, ?_⟩
      dsimp only
      split <;> trivial
  | serving =>
      refine ⟨?_, trivial⟩
      dsimp only
      split <;> trivial
  | connected daemon | greeted client left daemon | hookGreeted daemon => exact ⟨hknows, trivial⟩
  | _ => exact ⟨trivial, trivial⟩

/-- A step of a process rests on the handshake it has made. -/
theorem knows_next (answer : Answer) (hknows : Knows machine self.protocol self.phase) :
    Knows machine self.protocol (machine.next self answer).1 ∧
      JustifiedEffect machine self.protocol (machine.next self answer).2 := by
  unfold next
  split
  all_goals first
    | exact knows_stopStep hknows
    | exact knows_daemonStep hknows
    | exact knows_clientStep hknows

/-! ## Later machines -/

/-- The table only grows, and a process keeps its binary. -/
structure Extends (before after : Machine) : Prop where
  length_le : before.processes.length ≤ after.processes.length
  protocol : ∀ pid, pid < before.processes.length → after.protocolOf pid = before.protocolOf pid

theorem Knows.extend {before after : Machine} {protocol : Nat} {phase : Phase}
    (hextends : Extends before after) (hknows : Knows before protocol phase) :
    Knows after protocol phase := by
  cases phase with
  | greeted client left daemon | hookGreeted daemon =>
      exact Nat.lt_of_lt_of_le hknows hextends.length_le
  | connected daemon =>
      exact ⟨Nat.lt_of_lt_of_le hknows.1 hextends.length_le,
        (hextends.protocol daemon hknows.1).trans hknows.2⟩
  | draining cause =>
      cases cause with
      | newerClient client =>
          refine ⟨Nat.lt_of_lt_of_le hknows.1 hextends.length_le, ?_⟩
          rw [hextends.protocol client hknows.1]
          exact hknows.2
      | signal | shutdownRpc client => trivial
  | _ => trivial

theorem Justified.extend {before after : Machine} {message : Message}
    (hextends : Extends before after) (hjustified : Justified before message) :
    Justified after message := by
  obtain ⟨hdaemon, hclient, hexit⟩ := hjustified
  refine ⟨Nat.lt_of_lt_of_le hdaemon hextends.length_le,
    Nat.lt_of_lt_of_le hclient hextends.length_le, fun hrequest => ?_⟩
  rw [hextends.protocol _ hdaemon, hextends.protocol _ hclient]
  exact hexit hrequest

theorem protocolOf_eq {pid : Nat} {process : Process}
    (hprocess : machine.processes[pid]? = some process) :
    machine.protocolOf pid = process.protocol := by
  simp [protocolOf, hprocess]

theorem extends_setPhase {pid : Nat} (hself : machine.processes[pid]? = some self)
    (phase : Phase) : Extends machine (machine.setPhase pid self phase) where
  length_le := by simp [setPhase]
  protocol := by
    intro other hlt
    by_cases heq : other = pid
    · subst heq
      have hset : (machine.processes.set other ⟨self.protocol, phase⟩)[other]? =
          some ⟨self.protocol, phase⟩ := List.getElem?_set_self hlt
      simp only [protocolOf, setPhase, hset, hself, Option.map_some]
    · have hset : (machine.processes.set pid ⟨self.protocol, phase⟩)[other]? =
          machine.processes[other]? := List.getElem?_set_ne (Ne.symm heq)
      simp only [protocolOf, setPhase, hset]

theorem extends_append (machine : Machine) (process : Process) :
    Extends machine { machine with processes := machine.processes ++ [process] } where
  length_le := by simp
  protocol := by
    intro other hlt
    simp only [protocolOf, List.getElem?_append_left hlt]

/-! ## The invariant -/

structure Agreed (machine : Machine) : Prop where
  knows : ∀ process ∈ machine.processes, Knows machine process.protocol process.phase
  justified : ∀ message ∈ machine.messages, Justified machine message

theorem agreed_empty : Agreed empty where
  knows := by simp [empty]
  justified := by simp [empty]

/-- One process moves to a phase that rests on what it knows. -/
theorem Agreed.move (hagreed : Agreed machine) {pid : Nat}
    (hself : machine.processes[pid]? = some self) {phase : Phase}
    (hknows : Knows machine self.protocol phase) : Agreed (machine.setPhase pid self phase) := by
  have hextends := extends_setPhase hself phase
  refine ⟨?_, fun message hmessage => (hagreed.justified message hmessage).extend hextends⟩
  intro process hprocess
  rcases List.mem_or_eq_of_mem_set hprocess with hold | rfl
  · exact (hagreed.knows process hold).extend hextends
  · exact hknows.extend hextends

theorem Agreed.join (hagreed : Agreed machine) {process : Process}
    (hknows : ∀ found : Machine, Knows found process.protocol process.phase) :
    Agreed { machine with processes := machine.processes ++ [process] } := by
  have hextends := extends_append machine process
  refine ⟨?_, fun message hmessage => (hagreed.justified message hmessage).extend hextends⟩
  intro found hfound
  rcases List.mem_append.mp hfound with hold | hnew
  · exact (hagreed.knows found hold).extend hextends
  · obtain rfl := List.mem_singleton.mp hnew
    exact hknows _

theorem agreed_advance (hagreed : Agreed machine) (pid : Nat) (answer : Answer) :
    Agreed (machine.advance pid answer) := by
  unfold advance
  cases hself : machine.processes[pid]? with
  | none => exact hagreed
  | some self =>
      have hnextKnows := knows_next answer
        (hagreed.knows self (List.mem_of_getElem? hself))
      dsimp only
      rcases hnext : machine.next self answer with ⟨phase, effect⟩
      rw [hnext] at hnextKnows
      have hextends := extends_setPhase hself phase
      have hmoved := hagreed.move hself hnextKnows.1
      cases effect with
      | spawn => exact hmoved.join (fun _ => trivial)
      | send request daemon =>
          refine ⟨hmoved.knows, ?_⟩
          intro message hmessage
          rcases List.mem_append.mp hmessage with hold | hnew
          · exact hmoved.justified message hold
          · obtain rfl := List.mem_singleton.mp hnew
            have hclient := lt_of_getElem?_eq_some hself
            have hsent : Justified machine ⟨request, pid, daemon⟩ := by
              cases request with
              | shutdown => exact ⟨hnextKnows.2, hclient, nofun⟩
              | pleaseExit =>
                  refine ⟨hnextKnows.2.1, hclient, fun _ => ?_⟩
                  rw [protocolOf_eq hself]
                  exact hnextKnows.2.2
            have hlater := hsent.extend hextends
            exact ⟨hlater.1, hlater.2.1, hlater.2.2⟩
      | none => exact hmoved
      | acquire | release | unlink | bind => exact ⟨hmoved.knows, hmoved.justified⟩

theorem agreed_kill (hagreed : Agreed machine) (pid : Nat) : Agreed (machine.kill pid) := by
  unfold kill
  cases hself : machine.processes[pid]? with
  | none => exact hagreed
  | some self =>
      have hmoved : Agreed (machine.setPhase pid self .killed) := hagreed.move hself trivial
      dsimp only
      split
      · exact hagreed
      · split
        · exact ⟨hmoved.knows, hmoved.justified⟩
        · exact hmoved

theorem agreed_deliver (hagreed : Agreed machine) (index : Nat) :
    Agreed (machine.deliver index) := by
  unfold deliver
  cases hmessage : machine.messages[index]? with
  | none => exact hagreed
  | some message =>
      have hjustified := hagreed.justified message (List.mem_of_getElem? hmessage)
      have hrest : Agreed { machine with messages := machine.messages.eraseIdx index } :=
        ⟨hagreed.knows, fun other hother =>
          hagreed.justified other (List.mem_of_mem_eraseIdx hother)⟩
      dsimp only
      split
      · next protocol hdaemon =>
          cases message.request with
          | shutdown => exact hrest.move hdaemon trivial
          | pleaseExit =>
              dsimp only
              split
              · next holder => exact hrest.move hdaemon ⟨hjustified.2.1, holder⟩
              · exact hrest
      · exact hrest

theorem agreed_step (hagreed : Agreed machine) (event : Event) : Agreed (machine.step event) := by
  cases event with
  | launch entry protocol =>
      refine hagreed.join (fun _ => ?_)
      cases entry with
      | client kind | hook | stop restart | daemon => trivial
  | advance pid answer => exact agreed_advance hagreed pid answer
  | deliver message => exact agreed_deliver hagreed message
  | kill pid => exact agreed_kill hagreed pid

theorem agreed_after (events : List Event) : Agreed (after events) :=
  run_invariant agreed_empty (fun _ event hagreed => agreed_step hagreed event) events

/-- In every state of every run a connected client and its daemon speak one protocol, a
request to exit is on its way only to a daemon older than its client, and a daemon drains
for a re-exec only because of a newer client. -/
theorem protocols_agree (events : List Event) :
    (∀ (pid daemon : Nat), (after events).phaseOf pid = some (.connected daemon) →
      (after events).protocolOf daemon = (after events).protocolOf pid) ∧
    (∀ message ∈ (after events).messages, message.request = .pleaseExit →
      (after events).protocolOf message.daemon < (after events).protocolOf message.client) ∧
    (∀ (pid client : Nat), (after events).phaseOf pid = some (.draining (.newerClient client)) →
      (after events).protocolOf pid < (after events).protocolOf client) := by
  have hagreed := agreed_after events
  have hphase {pid : Nat} {phase : Phase} (hpid : (after events).phaseOf pid = some phase) :
      Knows (after events) ((after events).protocolOf pid) phase := by
    obtain ⟨process, hprocess, rfl⟩ := Option.map_eq_some_iff.mp hpid
    rw [protocolOf_eq hprocess]
    exact hagreed.knows process (List.mem_of_getElem? hprocess)
  refine ⟨?_, ?_, ?_⟩
  · intro pid daemon hpid
    exact (hphase hpid).2
  · intro message hmessage
    exact (hagreed.justified message hmessage).2.2
  · intro pid client hpid
    exact (hphase hpid).2

end Machine

end Daemon

end Mosaico
