import Mosaico.State.Operations
import Mosaico.Transition.Partial

/-!
# The attached clients of a PTY supervisor

The supervisor counts every attachment and detachment in `attachment_epoch` and
stamps its state with `changed_at`, which terminal output refreshes as well.  The
conditional kill is fenced by the epoch of the snapshot that justified it.
-/

namespace Mosaico

open Transition

structure PresentationSnapshot where
  attachedClients : Nat
  attachmentEpoch : Nat
  changedAt : Nat
  deriving DecidableEq, Repr

def PresentationSnapshot.isHeadless (snapshot : PresentationSnapshot) : Prop :=
  snapshot.attachedClients = 0

instance (snapshot : PresentationSnapshot) : Decidable snapshot.isHeadless :=
  inferInstanceAs (Decidable (_ = _))

inductive ConditionalKillOutcome where
  | killed (presentation : PresentationSnapshot)
  | presentationChanged (presentation : PresentationSnapshot)
  deriving DecidableEq, Repr

/-- Clients are told apart by the identity of their connection. -/
structure ClientSet where
  entries : List Nat
  attachmentEpoch : Nat
  changedAt : Nat
  deriving DecidableEq, Repr

/-- What happens to the client set; `now` is the clock the supervisor reads. -/
inductive ClientEvent where
  | attach (client now : Nat)
  | detach (client now : Nat)
  /-- Terminal output is written to every client, and clients that cannot take
  it are dropped. -/
  | fanout (unwritable : List Nat) (now : Nat)
  deriving DecidableEq

namespace ClientSet

def new (now : Nat) : ClientSet := ⟨[], 0, now⟩

def snapshot (clients : ClientSet) : PresentationSnapshot where
  attachedClients := clients.entries.length
  attachmentEpoch := clients.attachmentEpoch
  changedAt := clients.changedAt

/-- `checked_add`: the supervisor panics when the epoch is exhausted. -/
def advanceEpoch (clients : ClientSet) (transitions now : Nat) : Option ClientSet :=
  if clients.attachmentEpoch + transitions ≤ Rust.u64Max then
    some { clients with
      attachmentEpoch := clients.attachmentEpoch + transitions
      changedAt := now }
  else none

/-- `entries.retain(keep)` followed by the epoch advance. -/
def retain (clients : ClientSet) (keep : Nat → Bool) (now : Nat) : Option ClientSet :=
  let kept := clients.entries.filter keep
  { clients with entries := kept }.advanceEpoch (clients.entries.length - kept.length) now

def attachClient (clients : ClientSet) (client now : Nat) : Option ClientSet :=
  { clients with entries := clients.entries ++ [client] }.advanceEpoch 1 now

def detachClient (clients : ClientSet) (client now : Nat) : Option ClientSet :=
  clients.retain (fun entry => decide (entry ≠ client)) now

def fanout (clients : ClientSet) (unwritable : List Nat) (now : Nat) : Option ClientSet :=
  clients.retain (fun entry => decide (entry ∉ unwritable)) now

/-- The predicate and the kill are one critical section. -/
def killIfHeadless (clients : ClientSet) (expectedEpoch : Nat) : ConditionalKillOutcome :=
  if clients.snapshot.isHeadless ∧ clients.snapshot.attachmentEpoch = expectedEpoch then
    .killed clients.snapshot
  else .presentationChanged clients.snapshot

def step (clients : ClientSet) : ClientEvent → Option ClientSet
  | .attach client now => clients.attachClient client now
  | .detach client now => clients.detachClient client now
  | .fanout unwritable now => clients.fanout unwritable now

/-- The client set after a list of events, unless the supervisor panicked. -/
def runEvents (clients : ClientSet) (events : List ClientEvent) : Option ClientSet :=
  events.foldlM step clients

/-! ## The epoch counts the transitions -/

theorem eq_of_advanceEpoch {clients next : ClientSet} {transitions now : Nat}
    (hadvance : clients.advanceEpoch transitions now = some next) :
    next = { clients with
      attachmentEpoch := clients.attachmentEpoch + transitions
      changedAt := now } := by
  simp only [advanceEpoch, Option.ite_none_right_eq_some, Option.some.injEq] at hadvance
  exact hadvance.2.symm

/-- The removed clients are counted, and an epoch that stays means that nobody was
removed. -/
theorem retain_effect {clients next : ClientSet} {keep : Nat → Bool} {now : Nat}
    (hretain : clients.retain keep now = some next) :
    next.entries = clients.entries.filter keep ∧ next.changedAt = now ∧
      clients.attachmentEpoch ≤ next.attachmentEpoch ∧
      (clients.attachmentEpoch = next.attachmentEpoch → next.entries = clients.entries) := by
  cases eq_of_advanceEpoch hretain
  refine ⟨rfl, rfl, Nat.le_add_right _ _, ?_⟩
  intro hsame
  -- nothing was removed, so the filter kept the whole list
  have hle := List.length_filter_le keep clients.entries
  have hlength : (clients.entries.filter keep).length = clients.entries.length := by
    dsimp only at hsame
    omega
  exact List.filter_sublist.eq_of_length hlength

theorem mem_of_retain {clients next : ClientSet} {keep : Nat → Bool} {now : Nat}
    (hretain : clients.retain keep now = some next) {client : Nat}
    (hclient : client ∈ next.entries) : client ∈ clients.entries := by
  rw [(retain_effect hretain).1] at hclient
  exact (List.mem_filter.mp hclient).1

theorem attachClient_effect {clients next : ClientSet} {client now : Nat}
    (hattach : clients.attachClient client now = some next) :
    next.entries = clients.entries ++ [client] ∧ next.changedAt = now ∧
      next.attachmentEpoch = clients.attachmentEpoch + 1 := by
  cases eq_of_advanceEpoch hattach
  exact ⟨rfl, rfl, rfl⟩

/-- An event keeps the set or raises the epoch. -/
theorem step_entries_or_epoch {clients next : ClientSet} {event : ClientEvent}
    (hstep : clients.step event = some next) :
    FixedWhile attachmentEpoch entries clients next := by
  cases event with
  | attach client now =>
      obtain ⟨-, -, hepoch⟩ := attachClient_effect hstep
      refine ⟨by omega, ?_⟩
      intro hsame
      omega
  | detach client now | fanout unwritable now => exact (retain_effect hstep).2.2

/-- Between two snapshots of one epoch nobody attached or detached. -/
theorem entries_eq_of_epoch_eq {clients later : ClientSet} {events : List ClientEvent}
    (hrun : clients.runEvents events = some later) :
    FixedWhile attachmentEpoch entries clients later :=
  foldlM_relates FixedWhile.refl FixedWhile.trans step_entries_or_epoch hrun

end ClientSet

end Mosaico
