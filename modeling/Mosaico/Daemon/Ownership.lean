import Mosaico.Concurrent.Exclusive
import Mosaico.Daemon.Startup

/-!
# One owner of the socket and the store

Every step that writes a shared file is taken under the lock, so in each reachable state at
most one process is between taking and dropping the lock, and a listening daemon finds its
own socket at the path.
-/

namespace Mosaico

namespace Daemon

open Transition Concurrent

/-! ## What one step does to the lock and the socket -/

/-- How the effect of a step fits the phases before and after it. -/
def Lawful (machine : Machine) (before after : Phase) : Effect → Prop
  | .none => after.holdsLock = before.holdsLock ∧ (after.listens = true → before.listens = true)
  | .acquire => machine.lock = none ∧ after.holdsLock = true ∧ after.listens = false
  | .release => before.holdsLock = true ∧ after.holdsLock = false
  | .unlink => before.holdsLock = true ∧ after.holdsLock = true ∧ after.listens = false ∧
      (before.listens = true → before = .cleaning)
  | .bind => before.holdsLock = true ∧ after = .opening
  | .spawn => before.holdsLock = true ∧ after.holdsLock = true ∧ after.listens = false
  | .send _ _ => before.holdsLock = false ∧ after.holdsLock = false

theorem listens_eq_false_of_holdsLock {phase : Phase} (hholds : phase.holdsLock = false) :
    phase.listens = false := by
  cases hlistens : phase.listens with
  | false => rfl
  | true => rw [Phase.holdsLock_of_listens hlistens] at hholds; cases hholds

namespace Machine

variable {machine : Machine} {self : Process} {answer : Answer}

/-- A probe sends at most a request to exit, and that to an older daemon. -/
theorem probe_effect (machine : Machine) (self : Process) (answer : Answer)
    (client : ClientKind) :
    (machine.probe self client answer).2 = .none ∨
      ∃ daemon, (machine.probe self client answer).2 = .send .pleaseExit daemon ∧
        machine.greeter answer = some daemon ∧ machine.protocolOf daemon < self.protocol := by
  unfold probe
  cases hgreeter : machine.greeter answer with
  | none => exact .inl rfl
  | some daemon =>
      cases client with
      | async => exact .inl rfl
      | blocking =>
          dsimp only
          split
          · exact .inl rfl
          · next hask =>
              exact .inr ⟨daemon, rfl, rfl, compareProtocols_eq_askOlderDaemonToExit hask⟩
          · exact .inl rfl

/-- A step that goes on from a probe without the lock fits. -/
theorem lawful_probe {before found lost : Phase} (client : ClientKind)
    (hbefore : before.holdsLock = false) (hfound : found.holdsLock = false)
    (hlost : lost.holdsLock = false) :
    Lawful machine before
      (match machine.probe self client answer with
        | (true, effect) => (found, effect)
        | (false, effect) => (lost, effect)).1
      (match machine.probe self client answer with
        | (true, effect) => (found, effect)
        | (false, effect) => (lost, effect)).2 := by
  have heffect := probe_effect machine self answer client
  rcases hprobe : machine.probe self client answer with ⟨answered, effect⟩
  rw [hprobe] at heffect
  have hfoundListens := listens_eq_false_of_holdsLock hfound
  have hlostListens := listens_eq_false_of_holdsLock hlost
  rcases heffect with rfl | ⟨daemon, rfl, -⟩
  · cases answered <;> simp [Lawful, hbefore, hfound, hlost, hfoundListens, hlostListens]
  · cases answered <;> simp [Lawful, hbefore, hfound, hlost]

theorem lawful_clientStep : Lawful machine self.phase (machine.clientStep self answer).1
    (machine.clientStep self answer).2 := by
  unfold clientStep
  rcases self with ⟨protocol, phase⟩
  cases phase with
  | connecting client left =>
      cases left with
      | zero => simp [Lawful, Phase.holdsLock, Phase.listens]
      | succ left =>
          dsimp only
          cases machine.greeter answer <;> simp [Lawful, Phase.holdsLock, Phase.listens]
  | greeted client left daemon =>
      simp only [decide]
      split
      · simp [Lawful, Phase.holdsLock, Phase.listens]
      · split <;> simp [Lawful, Phase.holdsLock, Phase.listens]
      · simp [Lawful, Phase.holdsLock, Phase.listens]
  | probing client left | watching client left child =>
      dsimp only
      split
      · simp [Lawful, Phase.holdsLock, Phase.listens]
      · exact lawful_probe client rfl rfl rfl
  | acquiring client left =>
      dsimp only
      split
      · simp [Lawful, Phase.holdsLock, Phase.listens]
      · split
        · next hlock => simp_all [Lawful, Phase.holdsLock, Phase.listens]
        · simp [Lawful, Phase.holdsLock, Phase.listens]
  | checkingSocket client left | reclaiming client left | spawning client left
  | hookGreeted daemon =>
      dsimp only
      split <;> simp [Lawful, Phase.holdsLock, Phase.listens]
  | polling client left child =>
      cases child with
      | none => simp [Lawful, Phase.holdsLock, Phase.listens]
      | some child =>
          dsimp only
          split <;> simp [Lawful, Phase.holdsLock, Phase.listens]
  | hookConnecting =>
      dsimp only
      cases machine.greeter answer <;> simp [Lawful, Phase.holdsLock, Phase.listens]
  | _ => simp [Lawful, Phase.holdsLock, Phase.listens]

theorem shutdownDone_holdsLock (restart : Bool) : (shutdownDone restart).holdsLock = false := by
  cases restart <;> rfl

theorem shutdownUnconfirmed_holdsLock (restart : Bool) :
    (shutdownUnconfirmed restart).holdsLock = false := by
  cases restart <;> rfl

theorem lawful_stopStep : Lawful machine self.phase (machine.stopStep self answer).1
    (machine.stopStep self answer).2 := by
  unfold stopStep
  rcases self with ⟨protocol, phase⟩
  cases phase with
  | requestingShutdown restart =>
      have hdone := shutdownDone_holdsLock restart
      have hfree := listens_eq_false_of_holdsLock hdone
      dsimp only
      cases machine.greeter answer with
      | none => simp_all [Lawful, Phase.holdsLock]
      | some daemon =>
          dsimp only
          split
          · cases answer.replied <;> simp_all [Lawful, Phase.holdsLock]
          · simp_all [Lawful, Phase.holdsLock]
          · simp_all [Lawful, Phase.holdsLock]
  | confirmingExit restart =>
      have hdone := shutdownUnconfirmed_holdsLock restart
      have hfree := listens_eq_false_of_holdsLock hdone
      dsimp only
      split
      · simp_all [Lawful, Phase.holdsLock]
      · split
        · simp_all [Lawful, Phase.holdsLock, Phase.listens]
        · split <;> simp_all [Lawful, Phase.holdsLock, Phase.listens]
  | exitConfirmed restart =>
      exact ⟨rfl, shutdownDone_holdsLock restart⟩
  | _ => exact ⟨rfl, id⟩

theorem lawful_daemonStep : Lawful machine self.phase (machine.daemonStep self answer).1
    (machine.daemonStep self answer).2 := by
  unfold daemonStep
  rcases self with ⟨protocol, phase⟩
  cases phase with
  | starting =>
      dsimp only
      split
      · simp [Lawful, Phase.holdsLock, Phase.listens]
      · split
        · simp_all [Lawful, Phase.holdsLock, Phase.listens]
        · simp [Lawful, Phase.holdsLock, Phase.listens]
  | checkingStale | removingStale | opening | serving | cleaning =>
      dsimp only; split <;> simp [Lawful, Phase.holdsLock, Phase.listens]
  | binding => dsimp only; split <;> simp [Lawful, Phase.holdsLock]
  | _ => simp [Lawful, Phase.holdsLock, Phase.listens]

/-- Every step of every process fits its phases. -/
theorem lawful_next (machine : Machine) (self : Process) (answer : Answer) :
    Lawful machine self.phase (machine.next self answer).1
    (machine.next self answer).2 := by
  unfold next
  split
  · exact lawful_stopStep
  · exact lawful_stopStep
  · exact lawful_stopStep
  · exact lawful_stopStep
  all_goals first
    | exact lawful_daemonStep
    | exact lawful_clientStep

/-! ## The table of processes -/

theorem getElem?_set_eq_some {α : Type*} {items : List α} {index other : Nat} {item found : α}
    (hfound : (items.set index item)[other]? = some found) :
    (other = index ∧ found = item) ∨ (other ≠ index ∧ items[other]? = some found) := by
  rw [List.getElem?_set] at hfound
  split at hfound
  · next heq =>
      split at hfound
      · exact .inl ⟨heq.symm, (Option.some.inj hfound).symm⟩
      · cases hfound
  · next hne => exact .inr ⟨fun heq => hne heq.symm, hfound⟩

theorem getElem?_concat_eq_some {α : Type*} {items : List α} {other : Nat} {item found : α}
    (hfound : (items ++ [item])[other]? = some found) :
    (other = items.length ∧ found = item) ∨ items[other]? = some found := by
  rcases Nat.lt_or_ge other items.length with hlt | hge
  · rw [List.getElem?_append_left hlt] at hfound
    exact .inr hfound
  · rw [List.getElem?_append_right hge, List.getElem?_singleton] at hfound
    split at hfound
    · next hzero => exact .inl ⟨by omega, (Option.some.inj hfound).symm⟩
    · cases hfound

theorem lt_of_getElem?_eq_some {α : Type*} {items : List α} {index : Nat} {item : α}
    (hitem : items[index]? = some item) : index < items.length :=
  (List.getElem?_eq_some_iff.mp hitem).1

/-! ## The invariant -/

def Holder (process : Process) : Prop := process.phase.holdsLock = true

/-- The lock knows its holder, and a listening daemon finds its socket at the path. -/
structure Owned (machine : Machine) : Prop where
  exclusive : Exclusive Holder machine.lock machine.processes
  listed : Listed machine.lock machine.processes
  bound : ∀ pid process, machine.processes[pid]? = some process →
    process.phase.listens = true → machine.socket = some pid

theorem owned_empty : Owned empty where
  exclusive := Exclusive.empty
  listed := Listed.none
  bound := by
    intro pid process hprocess
    simp [empty] at hprocess

theorem Owned.lock_of_holds (howned : Owned machine) {pid : Nat} {process : Process}
    (hprocess : machine.processes[pid]? = some process)
    (hholds : process.phase.holdsLock = true) : machine.lock = some pid :=
  (howned.exclusive pid process hprocess).mp hholds

/-- While one process holds the lock no other listens. -/
theorem Owned.not_listens_of_ne (howned : Owned machine) {pid other : Nat}
    {process found : Process} (hprocess : machine.processes[pid]? = some process)
    (hholds : process.phase.holdsLock = true) (hne : other ≠ pid)
    (hfound : machine.processes[other]? = some found) : found.phase.listens = false := by
  cases hlistens : found.phase.listens with
  | false => rfl
  | true =>
      have hother : Holder found := Phase.holdsLock_of_listens hlistens
      exact absurd hother (howned.exclusive.not_holds_of_ne hprocess hfound hholds hne)

/-- A party that is new to the table holds nothing. -/
theorem Owned.join (howned : Owned machine) {process : Process}
    (hholds : process.phase.holdsLock = false) :
    Owned { machine with processes := machine.processes ++ [process] } where
  exclusive := by
    have hfree : ¬ Holder process := by
      rw [Holder, hholds]
      exact Bool.false_ne_true
    exact howned.exclusive.join howned.listed hfree
  listed := howned.listed.of_length_le (by simp)
  bound := by
    intro pid found hfound hlistens
    rcases getElem?_concat_eq_some hfound with ⟨-, rfl⟩ | hold
    · rw [listens_eq_false_of_holdsLock hholds] at hlistens
      cases hlistens
    · exact howned.bound pid found hold hlistens

/-- A move that leaves the shared files alone. -/
theorem Owned.move (howned : Owned machine) {pid : Nat} {before : Process} {phase : Phase}
    (hbefore : machine.processes[pid]? = some before)
    (hholds : phase.holdsLock = before.phase.holdsLock)
    (hlistens : phase.listens = true → before.phase.listens = true) :
    Owned (machine.setPhase pid before phase) where
  exclusive := howned.exclusive.keep hbefore (by rw [Holder, Holder, hholds])
  listed := howned.listed.of_length_le (by simp [setPhase])
  bound := by
    intro other found hfound hfoundListens
    rcases getElem?_set_eq_some hfound with ⟨rfl, rfl⟩ | ⟨-, hold⟩
    · exact howned.bound other before hbefore (hlistens hfoundListens)
    · exact howned.bound other found hold hfoundListens

/-- The holder drops the lock. -/
theorem Owned.drop (howned : Owned machine) {pid : Nat} {before : Process} {phase : Phase}
    (hlock : machine.lock = some pid) (hholds : phase.holdsLock = false) :
    Owned { machine.setPhase pid before phase with lock := none } where
  exclusive := by
    have hexclusive := howned.exclusive
    rw [hlock] at hexclusive
    exact hexclusive.release (by rw [Holder, hholds]; exact Bool.false_ne_true)
  listed := Listed.none
  bound := by
    intro other found hfound hlistens
    rcases getElem?_set_eq_some hfound with ⟨rfl, rfl⟩ | ⟨-, hold⟩
    · rw [listens_eq_false_of_holdsLock hholds] at hlistens
      cases hlistens
    · exact howned.bound other found hold hlistens

/-- The socket is written by the holder of the lock, and only the holder may listen. -/
theorem Owned.writeSocket (howned : Owned machine) {pid : Nat} {before : Process} {phase : Phase}
    {socket : Option Nat} (hbefore : machine.processes[pid]? = some before)
    (hholdsBefore : before.phase.holdsLock = true) (hholds : phase.holdsLock = true)
    (hlistens : phase.listens = true → socket = some pid) :
    Owned { machine.setPhase pid before phase with socket := socket } where
  exclusive := by
    refine howned.exclusive.keep hbefore ?_
    rw [Holder, Holder, hholds, hholdsBefore]
  listed := howned.listed.of_length_le (by simp [setPhase])
  bound := by
    intro other found hfound hfoundListens
    rcases getElem?_set_eq_some hfound with ⟨rfl, rfl⟩ | ⟨hne, hold⟩
    · exact hlistens hfoundListens
    · rw [howned.not_listens_of_ne hbefore hholdsBefore hne hold] at hfoundListens
      cases hfoundListens

theorem owned_advance (howned : Owned machine) (pid : Nat) (answer : Answer) :
    Owned (machine.advance pid answer) := by
  unfold advance
  cases hself : machine.processes[pid]? with
  | none => exact howned
  | some self =>
      have hlawful := lawful_next machine self answer
      dsimp only
      rcases hnext : machine.next self answer with ⟨phase, effect⟩
      rw [hnext] at hlawful
      cases effect with
      | none => exact howned.move hself hlawful.1 hlawful.2
      | acquire =>
          obtain ⟨hfree, hholds, hlistens⟩ := hlawful
          have hexclusive := howned.exclusive
          rw [hfree] at hexclusive
          refine ⟨hexclusive.acquire hholds, Listed.some ?_, ?_⟩
          · show pid < (machine.processes.set pid ⟨self.protocol, phase⟩).length
            rw [List.length_set]
            exact lt_of_getElem?_eq_some hself
          · intro other found hfound hfoundListens
            rcases getElem?_set_eq_some hfound with ⟨rfl, rfl⟩ | ⟨-, hold⟩
            · rw [hlistens] at hfoundListens
              cases hfoundListens
            · exact howned.bound other found hold hfoundListens
      | release => exact howned.drop (howned.lock_of_holds hself hlawful.1) hlawful.2
      | unlink =>
          obtain ⟨hbefore, hafter, hlistens, -⟩ := hlawful
          exact howned.writeSocket hself hbefore hafter (by simp [hlistens])
      | bind =>
          obtain ⟨hbefore, hopening⟩ := hlawful
          exact howned.writeSocket hself hbefore (by rw [hopening]; rfl) (fun _ => rfl)
      | spawn =>
          obtain ⟨hbefore, hafter, hlistens⟩ := hlawful
          have hmoved : Owned (machine.setPhase pid self phase) :=
            howned.move hself (by rw [hafter, hbefore]) (by simp [hlistens])
          exact hmoved.join rfl
      | send request daemon =>
          obtain ⟨hbefore, hafter⟩ := hlawful
          have hmoved : Owned (machine.setPhase pid self phase) :=
            howned.move hself (by rw [hafter, hbefore])
              (by simp [listens_eq_false_of_holdsLock hafter])
          exact ⟨hmoved.exclusive, hmoved.listed, hmoved.bound⟩

theorem owned_kill (howned : Owned machine) (pid : Nat) : Owned (machine.kill pid) := by
  unfold kill
  cases hself : machine.processes[pid]? with
  | none => exact howned
  | some self =>
      dsimp only
      split
      · exact howned
      · split
        · next hlock => exact howned.drop hlock rfl
        · next hlock =>
            have hfree : self.phase.holdsLock = false := by
              rw [← Bool.not_eq_true]
              exact fun hholds => hlock (howned.lock_of_holds hself hholds)
            exact howned.move hself (by rw [hfree]; rfl) (by simp [Phase.listens])

theorem owned_deliver (howned : Owned machine) (index : Nat) : Owned (machine.deliver index) := by
  unfold deliver
  cases machine.messages[index]? with
  | none => exact howned
  | some message =>
      have hrest : Owned { machine with messages := machine.messages.eraseIdx index } :=
        ⟨howned.exclusive, howned.listed, howned.bound⟩
      dsimp only
      split
      · next protocol hdaemon =>
          cases message.request with
          | shutdown => exact hrest.move hdaemon rfl (fun _ => rfl)
          | pleaseExit =>
              dsimp only
              split
              · exact hrest.move hdaemon rfl (fun _ => rfl)
              · exact hrest
      · exact hrest

theorem owned_step (howned : Owned machine) (event : Event) : Owned (machine.step event) := by
  cases event with
  | launch entry protocol =>
      exact howned.join (by cases entry with | client _ => rfl | hook => rfl | stop _ => rfl
                                               | daemon => rfl)
  | advance pid answer => exact owned_advance howned pid answer
  | deliver message => exact owned_deliver howned message
  | kill pid => exact owned_kill howned pid

theorem owned_after (events : List Event) : Owned (after events) :=
  run_invariant owned_empty (fun _ event howned => owned_step howned event) events

/-! ## Who takes the path away -/

theorem socket_kill (pid : Nat) : (machine.kill pid).socket = machine.socket := by
  unfold kill
  cases machine.processes[pid]? with
  | none => rfl
  | some self =>
      dsimp only
      split
      · rfl
      · split <;> rfl

theorem socket_deliver (index : Nat) : (machine.deliver index).socket = machine.socket := by
  unfold deliver
  cases machine.messages[index]? with
  | none => rfl
  | some message =>
      dsimp only
      split
      · cases message.request with
        | shutdown => rfl
        | pleaseExit => dsimp only; split <;> rfl
      · rfl

/-- In an owned machine only the clean-up of a listening daemon takes its path away. -/
theorem Owned.unlinked (howned : Owned machine) {pid : Nat} {process : Process} {event : Event}
    (hprocess : machine.processes[pid]? = some process) (hlistens : process.phase.listens = true)
    (hgone : (machine.step event).socket ≠ some pid) :
    process.phase = .cleaning ∧ ∃ answer, event = .advance pid answer := by
  have hsocket := howned.bound pid process hprocess hlistens
  have hholds := Phase.holdsLock_of_listens hlistens
  cases event with
  | launch entry protocol => exact absurd hsocket hgone
  | deliver message => exact absurd ((socket_deliver message).trans hsocket) hgone
  | kill other => exact absurd ((socket_kill other).trans hsocket) hgone
  | advance actor answer =>
      change (machine.advance actor answer).socket ≠ some pid at hgone
      unfold advance at hgone
      cases hself : machine.processes[actor]? with
      | none =>
          rw [hself] at hgone
          exact absurd hsocket hgone
      | some self =>
          have hlawful := lawful_next machine self answer
          rw [hself] at hgone
          dsimp only at hgone
          rcases hnext : machine.next self answer with ⟨phase, effect⟩
          rw [hnext] at hlawful hgone
          have hactor : self.phase.holdsLock = true → actor = pid := fun hself' =>
            howned.exclusive.unique hself hprocess hself' hholds
          cases effect with
          | none | acquire | release | spawn | send request daemon => exact absurd hsocket hgone
          | bind =>
              exact absurd (congrArg some (hactor hlawful.1)) hgone
          | unlink =>
              obtain rfl := hactor hlawful.1
              obtain rfl : self = process := Option.some.inj (hself.symm.trans hprocess)
              exact ⟨hlawful.2.2.2 hlistens, answer, rfl⟩

/-- In every state of every run at most one process is between taking and dropping the lock;
a daemon that listens is that process and finds its own socket at the path; and no event
takes the path from a listening daemon but its own clean-up. -/
theorem single_owner (events : List Event) :
    (∀ (first second : Nat) (p q : Process), (after events).processes[first]? = some p →
      (after events).processes[second]? = some q → p.phase.holdsLock = true →
      q.phase.holdsLock = true → first = second) ∧
    (∀ (pid : Nat) (process : Process), (after events).processes[pid]? = some process →
      process.phase.listens = true →
        (after events).lock = some pid ∧ (after events).socket = some pid) ∧
    (∀ (pid : Nat) (process : Process) (event : Event),
      (after events).processes[pid]? = some process →
      process.phase.listens = true → (after (events ++ [event])).socket ≠ some pid →
        process.phase = .cleaning ∧ ∃ answer, event = .advance pid answer) := by
  have howned := owned_after events
  refine ⟨?_, ?_, ?_⟩
  · intro first second p q hp hq hfirst hsecond
    exact howned.exclusive.unique hp hq hfirst hsecond
  · intro pid process hprocess hlistens
    exact ⟨howned.lock_of_holds hprocess (Phase.holdsLock_of_listens hlistens),
      howned.bound pid process hprocess hlistens⟩
  · intro pid process event hprocess hlistens hgone
    refine howned.unlinked hprocess hlistens ?_
    rwa [after, run_append] at hgone

end Machine

end Daemon

end Mosaico
