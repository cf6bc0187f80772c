import Mosaico.Pty.Clients
import Mosaico.Transition.Partial

/-!
# The time a presentation snapshot reports

Beside the attachment epoch a snapshot carries `changed_at`, and the daemon
counts the idle time of a headless session from it.  One helper advances both,
and it is also called when a detachment or a fan-out removed nobody: then the
epoch stays and the time moves.

The client set is run here next to the time of its last transition.  The main
result says in which runs the two agree.
-/

namespace Mosaico

open Transition

/-- The clock reading of the critical section. -/
def ClientEvent.now : ClientEvent → Nat
  | .attach _ now => now
  | .detach _ now => now
  | .fanout _ now => now

namespace ClientSet

/-- The event finds nobody to add or to remove. -/
def Idle (clients : ClientSet) : ClientEvent → Prop
  | .attach _ _ => False
  | .detach client _ => client ∉ clients.entries
  | .fanout unwritable _ => ∀ entry ∈ clients.entries, entry ∉ unwritable

instance decidableIdle (clients : ClientSet) : ∀ event, Decidable (clients.Idle event)
  | .attach _ _ => inferInstanceAs (Decidable False)
  | .detach client _ => inferInstanceAs (Decidable (client ∉ clients.entries))
  | .fanout unwritable _ =>
      inferInstanceAs (Decidable (∀ entry ∈ clients.entries, entry ∉ unwritable))

/-- Every event stamps the set, whether it changes it or not. -/
theorem step_changedAt {clients next : ClientSet} {event : ClientEvent}
    (hstep : clients.step event = some next) : next.changedAt = event.now := by
  cases event with
  | attach client now => exact (attachClient_effect hstep).2.1
  | detach client now | fanout unwritable now => exact (retain_effect hstep).2.1

theorem step_entries_eq_iff {clients next : ClientSet} {event : ClientEvent}
    (hstep : clients.step event = some next) :
    next.entries = clients.entries ↔ clients.Idle event := by
  cases event with
  | attach client now =>
      rw [(attachClient_effect hstep).1]
      simp [Idle]
  | detach client now =>
      rw [(retain_effect hstep).1, List.filter_eq_self]
      simp only [Idle, decide_eq_true_eq]
      exact List.forall_mem_ne'
  | fanout unwritable now =>
      rw [(retain_effect hstep).1, List.filter_eq_self]
      simp only [Idle, decide_eq_true_eq]

end ClientSet

/-! ## The time of the last transition -/

/-- A client set and the time of the last event that attached or removed somebody. -/
structure Watched where
  clients : ClientSet
  transitionAt : Nat
  deriving DecidableEq, Repr

namespace Watched

/-- A fresh client set dates from its creation. -/
def new (now : Nat) : Watched := ⟨ClientSet.new now, now⟩

def step (watched : Watched) (event : ClientEvent) : Option Watched :=
  (watched.clients.step event).map fun next =>
    { clients := next
      transitionAt :=
        if next.entries = watched.clients.entries then watched.transitionAt else event.now }

def runEvents (watched : Watched) (events : List ClientEvent) : Option Watched :=
  events.foldlM step watched

theorem step_eq_some {watched next : Watched} {event : ClientEvent}
    (hstep : watched.step event = some next) :
    watched.clients.step event = some next.clients ∧
      next.transitionAt =
        if watched.clients.Idle event then watched.transitionAt else event.now := by
  simp only [step, Option.map_eq_some_iff] at hstep
  obtain ⟨clients, hclients, rfl⟩ := hstep
  refine ⟨hclients, ?_⟩
  simp only [ClientSet.step_entries_eq_iff hclients]

/-- The stamp is the time of the last transition. -/
def Stamped (watched : Watched) : Prop :=
  watched.clients.snapshot.changedAt = watched.transitionAt

/-- An event that removes nobody happens in the second that is stamped already. -/
def Punctual (watched : Watched) (event : ClientEvent) : Prop :=
  watched.clients.Idle event → event.now = watched.clients.changedAt

/-- A step keeps the stamp right exactly if it is punctual. -/
theorem step_stamped_iff {watched next : Watched} {event : ClientEvent}
    (hstamped : watched.Stamped) (hstep : watched.step event = some next) :
    next.Stamped ↔ watched.Punctual event := by
  obtain ⟨hclients, htransition⟩ := step_eq_some hstep
  have hbefore : watched.clients.changedAt = watched.transitionAt := hstamped
  show next.clients.changedAt = next.transitionAt ↔ _
  rw [ClientSet.step_changedAt hclients, htransition, Punctual, hbefore]
  -- the step stamps its own time; without a transition that has to be the old stamp
  split
  · rename_i hidle
    exact ⟨fun heq _ => heq, fun hpunctual => hpunctual hidle⟩
  · rename_i hbusy
    exact ⟨fun _ hidle => absurd hidle hbusy, fun _ => rfl⟩

/-- While the epoch stays there is no transition. -/
theorem step_transition_or_epoch {watched next : Watched} {event : ClientEvent}
    (hstep : watched.step event = some next) :
    FixedWhile (·.clients.attachmentEpoch) transitionAt watched next := by
  obtain ⟨hclients, htransition⟩ := step_eq_some hstep
  obtain ⟨hmono, hkept⟩ := ClientSet.step_entries_or_epoch hclients
  refine ⟨hmono, ?_⟩
  intro hsame
  rw [htransition, if_pos ((ClientSet.step_entries_eq_iff hclients).mp (hkept hsame))]

end Watched

/-! ## Snapshots of one run -/

/-- What a reader of snapshots takes `changed_at` for, in every state of a run. -/
structure DatesTransitions (created : Nat) (events : List ClientEvent) : Prop where
  sameEpoch : ∀ first second, first <+: events → second <+: events → ∀ earlier later,
    (Watched.new created).runEvents first = some earlier →
    (Watched.new created).runEvents second = some later →
    earlier.clients.snapshot.attachmentEpoch = later.clients.snapshot.attachmentEpoch →
    earlier.clients.snapshot.changedAt = later.clients.snapshot.changedAt
  lastTransition : ∀ elapsed, elapsed <+: events → ∀ current,
    (Watched.new created).runEvents elapsed = some current →
    current.clients.snapshot.changedAt = current.transitionAt
  outputKeeps : ∀ elapsed unwritable now, elapsed ++ [.fanout unwritable now] <+: events →
    ∀ current next, (Watched.new created).runEvents elapsed = some current →
    current.step (.fanout unwritable now) = some next →
    next.clients.entries = current.clients.entries →
    next.clients.snapshot.changedAt = current.clients.snapshot.changedAt

/-- Two snapshots of a run that report the same epoch report the same time, this is
the time of the last transition and output alone does not move it, exactly if every
detachment and every fan-out that removes nobody happens in the second of the last
stamp. -/
theorem datesTransitions_iff (created : Nat) (events : List ClientEvent) :
    DatesTransitions created events ↔
      ∀ elapsed event, elapsed ++ [event] <+: events → ∀ current next,
        (Watched.new created).runEvents elapsed = some current →
        current.step event = some next →
        current.clients.Idle event → event.now = current.clients.changedAt := by
  have hstamped : Always Watched.step (Watched.new created) events Watched.Stamped ↔
      EachStep Watched.step (Watched.new created) events Watched.Punctual :=
    always_iff_eachStep (J := fun _ => True) rfl trivial (fun _ _ => trivial)
      (fun _ hbefore hstep => Watched.step_stamped_iff hbefore hstep)
  constructor
  · intro hdates
    exact hstamped.mp hdates.lastTransition
  · intro hpunctual
    have hall := hstamped.mpr hpunctual
    refine ⟨?_, hall, ?_⟩
    · intro first second hfirst hsecond earlier later hearlier hlater hepoch
      -- one of the two is reached from the other, with no transition between them
      have htimes : later.transitionAt = earlier.transitionAt := by
        rcases foldlM_relates_prefixes FixedWhile.refl FixedWhile.trans
          Watched.step_transition_or_epoch hfirst hsecond hearlier hlater with hfixed | hfixed
        · exact hfixed.2 hepoch
        · exact (hfixed.2 hepoch.symm).symm
      rw [hall first hfirst earlier hearlier, hall second hsecond later hlater, htimes]
    · intro elapsed unwritable now hprefix current next hcurrent hstep hentries
      have hclients := (Watched.step_eq_some hstep).1
      have hidle := (ClientSet.step_entries_eq_iff hclients).mp hentries
      have hnow := hpunctual elapsed _ hprefix current next hcurrent hstep hidle
      exact (ClientSet.step_changedAt hclients).trans hnow

/-- A client attaches and leaves again; the program then prints once more, with nobody
attached. -/
def printsHeadless : List ClientEvent :=
  [.attach 1 5, .detach 1 6, .fanout [] 600]

/-- The output moves the time of a headless snapshot whose epoch it does not move. -/
theorem printsHeadless_restamped :
    (ClientSet.new 0).runEvents (printsHeadless.take 2) = some ⟨[], 2, 6⟩ ∧
      (ClientSet.new 0).runEvents printsHeadless = some ⟨[], 2, 600⟩ ∧
      ¬ DatesTransitions 0 printsHeadless := by
  refine ⟨by decide, by decide, ?_⟩
  intro hdates
  have hsame := hdates.sameEpoch (printsHeadless.take 2) printsHeadless (List.take_prefix _ _)
    List.prefix_rfl ⟨⟨[], 2, 6⟩, 6⟩ ⟨⟨[], 2, 600⟩, 6⟩ (by decide) (by decide) rfl
  exact absurd hsame (by decide)

end Mosaico
