import Mosaico.Pty.Clients

/-!
# The accept loop of a PTY supervisor

The supervisor answers one connection at a time: it polls the child, accepts a
connection, handles its one request and polls again.  A request that ends the
child ends the loop, at the latest at the next poll.

The threads of the attached clients and the output pump run beside the loop; they
share the client set with it, each step of theirs being one critical section.
-/

namespace Mosaico

open Transition

/-- Where the accept loop is. -/
inductive AcceptPhase where
  /-- About to poll the child. -/
  | polling
  /-- The poll found the child running; the loop waits for a connection. -/
  | accepting
  /-- The loop was left and the socket removed. -/
  | ended
  deriving DecidableEq, Repr

structure Supervisor where
  clients : ClientSet
  childAlive : Bool
  phase : AcceptPhase
  deriving DecidableEq, Repr

/-- A request of a connection.  `confirmed` says that the termination of the child
was confirmed and `replied` that the answer could be written. -/
inductive SupervisorRequest where
  | attach (client now : Nat)
  | started
  | presentation
  | killIfHeadless (expectedEpoch : Nat) (confirmed replied : Bool)
  | kill (confirmed : Bool)
  /-- A request that concerns neither the clients nor the life of the child, an
  invalid one, or no connection at all. -/
  | other
  deriving DecidableEq

inductive SupervisorEvent where
  | poll
  | request (request : SupervisorRequest)
  | acceptFails
  /-- The reader thread of a client ended. -/
  | detach (client now : Nat)
  | fanout (unwritable : List Nat) (now : Nat)
  | childExits
  deriving DecidableEq

namespace Supervisor

def start (now : Nat) : Supervisor where
  clients := ClientSet.new now
  childAlive := true
  phase := .polling

/-- The loop is left once the child is known to have ended. -/
def childEnded (supervisor : Supervisor) (known : Bool) : Supervisor :=
  { supervisor with
    childAlive := false
    phase := if known then .ended else .polling }

/-- The predicate of the conditional kill holds, so the child is terminated. -/
def KillsAt (supervisor : Supervisor) (expectedEpoch : Nat) : Prop :=
  supervisor.phase = .accepting ∧
    ∃ presentation, supervisor.clients.killIfHeadless expectedEpoch = .killed presentation

def handleClient (supervisor : Supervisor) : SupervisorRequest → Option Supervisor
  | .attach client now =>
      (supervisor.clients.attachClient client now).map (fun clients =>
        { supervisor with clients := clients, phase := .polling })
  | .started =>
      if supervisor.childAlive then some { supervisor with phase := .polling }
      else some (supervisor.childEnded true)
  | .killIfHeadless expectedEpoch confirmed replied =>
      match supervisor.clients.killIfHeadless expectedEpoch with
      | .killed _ =>
          -- a termination that is not confirmed is an error, and the loop goes on
          if confirmed then some (supervisor.childEnded replied)
          else some { supervisor with phase := .polling }
      | .presentationChanged _ => some { supervisor with phase := .polling }
  | .kill confirmed =>
      if confirmed then some (supervisor.childEnded true)
      else some { supervisor with phase := .polling }
  | .presentation | .other => some { supervisor with phase := .polling }

/-- One event.  There is no next state when the attachment epoch is exhausted: the
panic poisons the client set for every thread. -/
def step (supervisor : Supervisor) : SupervisorEvent → Option Supervisor
  | .poll =>
      if supervisor.phase = .polling then
        some { supervisor with
          phase := if supervisor.childAlive then .accepting else .ended }
      else some supervisor
  | .request request =>
      if supervisor.phase = .accepting then supervisor.handleClient request
      else some supervisor
  | .acceptFails =>
      if supervisor.phase = .accepting then some { supervisor with phase := .ended }
      else some supervisor
  | .detach client now =>
      (supervisor.clients.detachClient client now).map (fun clients =>
        { supervisor with clients := clients })
  | .fanout unwritable now =>
      (supervisor.clients.fanout unwritable now).map (fun clients =>
        { supervisor with clients := clients })
  | .childExits => some { supervisor with childAlive := false }

def runEvents (supervisor : Supervisor) (events : List SupervisorEvent) : Option Supervisor :=
  events.foldlM step supervisor

variable {supervisor last : Supervisor} {events : List SupervisorEvent}

theorem runEvents_append {first second : List SupervisorEvent} :
    supervisor.runEvents (first ++ second) = some last ↔
      ∃ middle, supervisor.runEvents first = some middle ∧
        middle.runEvents second = some last :=
  foldlM_append_eq_some

/-! ## Every event is at most one event of the client set -/

theorem handleClient_clients {next : Supervisor} {request : SupervisorRequest}
    (hhandle : supervisor.handleClient request = some next) :
    Leads ClientSet.step supervisor.clients next.clients := by
  cases request with
  | attach client now =>
      simp only [handleClient, Option.map_eq_some_iff] at hhandle
      obtain ⟨clients, hattach, rfl⟩ := hhandle
      exact Leads.single (ClientEvent.attach client now) hattach
  | started | kill confirmed =>
      simp only [handleClient] at hhandle
      split at hhandle <;> cases hhandle <;> exact Leads.refl _
  | killIfHeadless expectedEpoch confirmed replied =>
      simp only [handleClient] at hhandle
      split at hhandle
      · split at hhandle <;> cases hhandle <;> exact Leads.refl _
      · cases hhandle
        exact Leads.refl _
  | presentation | other => cases hhandle; exact Leads.refl _

theorem step_clients {next : Supervisor} {event : SupervisorEvent}
    (hstep : supervisor.step event = some next) :
    Leads ClientSet.step supervisor.clients next.clients := by
  cases event with
  | poll | acceptFails =>
      simp only [step] at hstep
      split at hstep <;> cases hstep <;> exact Leads.refl _
  | request request =>
      simp only [step] at hstep
      split at hstep
      · exact handleClient_clients hstep
      · cases hstep
        exact Leads.refl _
  | detach client now =>
      simp only [step, Option.map_eq_some_iff] at hstep
      obtain ⟨clients, hdetach, rfl⟩ := hstep
      exact Leads.single (ClientEvent.detach client now) hdetach
  | fanout unwritable now =>
      simp only [step, Option.map_eq_some_iff] at hstep
      obtain ⟨clients, hfanout, rfl⟩ := hstep
      exact Leads.single (ClientEvent.fanout unwritable now) hfanout
  | childExits => cases hstep; exact Leads.refl _

/-- A run of the supervisor is a run of its client set. -/
theorem runEvents_clients (hrun : supervisor.runEvents events = some last) :
    ∃ clientEvents, supervisor.clients.runEvents clientEvents = some last.clients :=
  foldlM_simulates step_clients hrun

/-- The epoch never decreases, and while it stays the same so do the clients. -/
theorem runEvents_epoch (hrun : supervisor.runEvents events = some last) :
    supervisor.clients.attachmentEpoch ≤ last.clients.attachmentEpoch ∧
      (supervisor.clients.attachmentEpoch = last.clients.attachmentEpoch →
        last.clients.entries = supervisor.clients.entries) := by
  obtain ⟨clientEvents, hclients⟩ := runEvents_clients hrun
  exact ClientSet.entries_eq_of_epoch_eq hclients

/-! ## The conditional kill -/

/-- A fenced kill finds no client, and none was attached at any moment since the
state whose epoch it remembers. -/
theorem killsAt_headless {earlier later : Supervisor} (hrun : earlier.runEvents events = some later)
    (hkills : later.KillsAt earlier.clients.snapshot.attachmentEpoch)
    {elapsed : List SupervisorEvent} (helapsed : elapsed <+: events) {current : Supervisor}
    (hcurrent : earlier.runEvents elapsed = some current) : current.clients.entries = [] := by
  obtain ⟨_, presentation, hkilled⟩ := hkills
  obtain ⟨remaining, rfl⟩ := helapsed
  obtain ⟨middle, hmiddle, hremaining⟩ := runEvents_append.mp hrun
  rw [hcurrent] at hmiddle
  cases hmiddle
  obtain ⟨hlower, hsame⟩ := runEvents_epoch hcurrent
  obtain ⟨hupper, -⟩ := runEvents_epoch hremaining
  unfold ClientSet.killIfHeadless at hkilled
  split at hkilled
  · rename_i hfence
    have hepoch : later.clients.attachmentEpoch = earlier.clients.attachmentEpoch := hfence.2
    obtain ⟨clientEvents, hclients⟩ := runEvents_clients hrun
    have hempty : earlier.clients.entries = [] := by
      rw [← (ClientSet.entries_eq_of_epoch_eq hclients).2 hepoch.symm]
      exact List.length_eq_zero_iff.mp hfence.1
    rw [hsame (by omega), hempty]
  · cases hkilled

/-- The child is known to have ended and nobody is attached. -/
structure Finished (supervisor : Supervisor) : Prop where
  child : supervisor.childAlive = false
  phase : supervisor.phase ≠ .accepting
  entries : supervisor.clients.entries = []

theorem finished_retain {keep : Nat → Bool} {now : Nat}
    {clients : ClientSet} (hempty : supervisor.clients.entries = [])
    (hretain : supervisor.clients.retain keep now = some clients) : clients.entries = [] := by
  rw [(ClientSet.retain_effect hretain).1, hempty, List.filter_nil]

theorem finished_step {next : Supervisor} {event : SupervisorEvent}
    (hfinished : supervisor.Finished) (hstep : supervisor.step event = some next) :
    next.Finished := by
  obtain ⟨hchild, hphase, hempty⟩ := hfinished
  cases event with
  | poll =>
      simp only [step, hchild] at hstep
      split at hstep
      · cases hstep
        exact ⟨rfl, by simp, hempty⟩
      · cases hstep
        exact ⟨hchild, hphase, hempty⟩
  | request request | acceptFails =>
      simp only [step, if_neg hphase] at hstep
      cases hstep
      exact ⟨hchild, hphase, hempty⟩
  | detach client now =>
      simp only [step, Option.map_eq_some_iff] at hstep
      obtain ⟨clients, hdetach, rfl⟩ := hstep
      exact ⟨hchild, hphase, finished_retain hempty hdetach⟩
  | fanout unwritable now =>
      simp only [step, Option.map_eq_some_iff] at hstep
      obtain ⟨clients, hfanout, rfl⟩ := hstep
      exact ⟨hchild, hphase, finished_retain hempty hfanout⟩
  | childExits =>
      cases hstep
      exact ⟨rfl, hphase, hempty⟩

theorem finished_runEvents
    (hfinished : supervisor.Finished) (hrun : supervisor.runEvents events = some last) :
    last.Finished :=
  foldlM_invariant hfinished finished_step hrun

/-- An accepted kill leaves the supervisor finished, answered or not. -/
theorem finished_of_kill {killed : Supervisor} {expectedEpoch : Nat} {replied : Bool}
    (hkills : supervisor.KillsAt expectedEpoch)
    (hstep : supervisor.step (.request (.killIfHeadless expectedEpoch true replied)) =
      some killed) : killed.Finished := by
  obtain ⟨hphase, presentation, hkilled⟩ := hkills
  simp only [step, if_pos hphase, handleClient, hkilled, if_true, Option.some.injEq] at hstep
  subst hstep
  have hempty : supervisor.clients.entries = [] := by
    unfold ClientSet.killIfHeadless at hkilled
    split at hkilled
    · rename_i hfence
      exact List.length_eq_zero_iff.mp hfence.1
    · cases hkilled
  refine ⟨rfl, ?_, hempty⟩
  cases replied <;> simp [childEnded]

/-- In every run of a supervisor the attachment epoch never decreases and two
snapshots with the same epoch describe the same clients.  A conditional kill
terminates the child only if no client is attached and none was attached at any
moment since the snapshot whose epoch it names, and once it is accepted no client
is ever attached again. -/
theorem attachment_fenced {earlier later : Supervisor} {events : List SupervisorEvent}
    (hrun : earlier.runEvents events = some later) :
    earlier.clients.snapshot.attachmentEpoch ≤ later.clients.snapshot.attachmentEpoch ∧
      (earlier.clients.snapshot.attachmentEpoch = later.clients.snapshot.attachmentEpoch →
        later.clients.entries = earlier.clients.entries) ∧
      ∀ expectedEpoch, earlier.clients.snapshot.attachmentEpoch = expectedEpoch →
        later.KillsAt expectedEpoch →
        (∀ elapsed, elapsed <+: events → ∀ current, earlier.runEvents elapsed = some current →
          current.clients.entries = []) ∧
        ∀ replied killed,
          later.step (.request (.killIfHeadless expectedEpoch true replied)) = some killed →
          ∀ after final, killed.runEvents after = some final →
            final.clients.entries = [] ∧ final.phase ≠ .accepting := by
  obtain ⟨hmono, hsame⟩ := runEvents_epoch hrun
  refine ⟨hmono, hsame, ?_⟩
  rintro expectedEpoch rfl hkills
  constructor
  · intro elapsed helapsed current hcurrent
    exact killsAt_headless hrun hkills helapsed hcurrent
  · intro replied killed hkill after final hfinal
    have hfinished := finished_runEvents (finished_of_kill hkills hkill) hfinal
    exact ⟨hfinished.entries, hfinished.phase⟩

/-- A client attaches and is dropped by the output pump; the kill that remembers the
epoch of the snapshot after that meets nobody. -/
theorem attachment_fenced_after_drop :
    let earlier : Supervisor := ⟨⟨[], 2, 6⟩, true, .polling⟩
    (start 0).runEvents [.poll, .request (.attach 1 5), .fanout [1] 6] = some earlier ∧
      ∀ current, earlier.runEvents [.poll] = some current → current.clients.entries = [] := by
  intro earlier
  have hrun : earlier.runEvents [.poll, .detach 1 7] =
      some ⟨⟨[], 2, 7⟩, true, .accepting⟩ := by decide
  have hkills := ((attachment_fenced hrun).2.2 2 rfl ⟨rfl, _, rfl⟩).1
  exact ⟨by decide, hkills [.poll] (by simp)⟩

end Supervisor

end Mosaico
