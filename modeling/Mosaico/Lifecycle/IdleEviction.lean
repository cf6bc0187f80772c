import Mosaico.Lifecycle.IdleClock
import Mosaico.Pty.Clients

/-!
# Idle eviction

A timed run pairs every operation with the wall clock of its step and remembers,
for every session, when it was last active and when an inbox row last waited for
it.  An eviction is sound when both lie a whole timeout back.

That is an invariant of the idle clocks: an armed clock started no earlier than
the last activity, as long as no step sets a clock behind the last use and no
inbox client settles the last outstanding row under a clock that started before
(`TimedStep.Settles`).
-/

namespace Mosaico

open Relational Transition

/-! ## Timed runs -/

/-- An operation and the wall clock at which it runs. -/
structure TimedStep where
  now : Nat
  op : StoreOp
  deriving DecidableEq

/-- The store, the wall clock and the last use of every session so far. -/
structure IdleSystem where
  store : Store
  clock : Nat
  lastActive : String → Nat
  lastWaiting : String → Nat

namespace IdleSystem

def empty : IdleSystem := ⟨Store.empty, 0, fun _ => 0, fun _ => 0⟩

/-- What the step saw of the activity of a session. -/
def activeAt (system : IdleSystem) (timed : TimedStep) (pubkey : String) : Nat :=
  activeInstant system.store timed.now timed.op (system.store.step timed.op) pubkey

/-- What the step saw of the outstanding inbox rows of a session. -/
def waitingAt (system : IdleSystem) (timed : TimedStep) (pubkey : String) : Nat :=
  waitingInstant system.store timed.now (system.store.step timed.op) pubkey

def step (system : IdleSystem) (timed : TimedStep) : IdleSystem where
  store := system.store.step timed.op
  clock := timed.now
  lastActive := fun pubkey => max (system.lastActive pubkey) (system.activeAt timed pubkey)
  lastWaiting := fun pubkey => max (system.lastWaiting pubkey) (system.waitingAt timed pubkey)

/-- An idle window that starts at `since` contains no activity, and outstanding
rows only as far as they still are or lie a timeout back. -/
def Quiet (system : IdleSystem) (pubkey : String) (since now : Nat) : Prop :=
  system.lastActive pubkey ≤ since ∧
    (system.store.hasOutstanding pubkey ∨ system.lastWaiting pubkey ≤ since ∨
      system.lastWaiting pubkey + headlessIdleTimeoutSecs ≤ now)

instance (system : IdleSystem) (pubkey : String) (since now : Nat) :
    Decidable (system.Quiet pubkey since now) :=
  inferInstanceAs (Decidable (_ ∧ _))

end IdleSystem

/-- The operation settles every outstanding row of the session. -/
def Store.SettledBy (store : Store) (op : StoreOp) (pubkey : String) : Prop :=
  store.hasOutstanding pubkey ∧ ∀ row ∈ store.inbox.rows, row.isOutstandingFor pubkey →
    op.Claims row ∨ (row.state = .injected ∧ op.ConsumesEcho store row.key)

instance (store : Store) (op : StoreOp) (pubkey : String) :
    Decidable (store.SettledBy op pubkey) :=
  inferInstanceAs (Decidable (_ ∧ _))

/-- The wall clock does not go backwards, and the step reads it. -/
def TimedStep.OnTime (system : IdleSystem) (timed : TimedStep) : Prop :=
  system.clock ≤ timed.now ∧ timed.op.InstantsAt timed.now

/-- The step leaves every idle clock behind the last use of its session alone: a
headless snapshot that arms a clock is as recent as the last use, and the last
outstanding row is not settled under a clock that started before. -/
def TimedStep.Settles (system : IdleSystem) (timed : TimedStep) : Prop :=
  ∀ row ∈ system.store.sessions.rows,
    (∀ instant ∈ timed.op.rearmInstant row, system.Quiet row.pubkey instant timed.now) ∧
    (0 < row.idleDeadline → row.idleSince < timed.now →
      ¬ system.store.SettledBy timed.op row.pubkey)

instance (system : IdleSystem) : DecidablePred (TimedStep.OnTime system) := fun _ =>
  inferInstanceAs (Decidable (_ ∧ _))

instance (system : IdleSystem) : DecidablePred (TimedStep.Settles system) := fun _ =>
  inferInstanceAs (Decidable (∀ row ∈ _, _))

/-! ## One step -/

theorem Store.settledBy_of_not_outstanding {store : Store} {op : StoreOp} {pubkey : String}
    (hbefore : store.hasOutstanding pubkey) (hafter : ¬ (store.step op).hasOutstanding pubkey) :
    store.SettledBy op pubkey := by
  refine ⟨hbefore, ?_⟩
  intro row hrow hout
  have hstep := Store.outstanding_step op (Table.mem_rows_iff.mp hrow) hout
  exact hstep.resolve_left hafter

theorem Store.settledBy_notEdge {store : Store} {op : StoreOp} {pubkey other : String}
    {edge : PresentationState × Nat} (hedge : op.acceptedEdge store other = some edge) :
    ¬ store.SettledBy op pubkey := by
  rintro ⟨⟨row, hrow, hout⟩, hall⟩
  have hsettled := hall row hrow hout
  unfold StoreOp.acceptedEdge at hedge
  split at hedge
  · rcases hsettled with hclaims | ⟨_, hecho⟩
    · exact hclaims.elim
    · exact hecho.elim
  · rcases hsettled with hclaims | ⟨_, hecho⟩
    · exact hclaims.elim
    · exact hecho.elim
  · cases hedge

namespace IdleSystem

/-- The invariant of timed runs. -/
structure Sound (system : IdleSystem) : Prop where
  rows : system.store.sessions.All Session.LifecycleInvariant
  active_le : ∀ pubkey, system.lastActive pubkey ≤ system.clock
  waiting_le : ∀ pubkey, system.lastWaiting pubkey ≤ system.clock
  /-- The window of an armed clock is quiet. -/
  armed : ∀ pubkey row, system.store.sessions.find? pubkey = some row → 0 < row.idleDeadline →
    system.Quiet pubkey row.idleSince system.clock

theorem empty_sound : empty.Sound where
  rows := Table.all_empty _
  active_le := fun _ => Nat.le_refl 0
  waiting_le := fun _ => Nat.le_refl 0
  armed := by
    intro pubkey row hfind
    cases hfind

variable {system : IdleSystem} {timed : TimedStep} {pubkey : String}

/-- A step that finds and leaves the session idle and headless, with the clock it
had, sees no activity. -/
theorem activeAt_kept {row next : Session} (hfind : system.store.sessions.find? pubkey = some row)
    (hnext : (system.store.step timed.op).sessions.find? pubkey = some next)
    (hidle : row.workState = .idle) (hheadless : row.presentationState = .headless)
    (hsame : row.SameLifecycle next) (hedge : timed.op.acceptedEdge system.store pubkey = none)
    (hlost : ¬ timed.op.LosesPresentation system.store pubkey) :
    system.activeAt timed pubkey = 0 := by
  have hgeneration : (system.store.step timed.op).generationOf pubkey =
      system.store.generationOf pubkey := by
    simp only [Store.generationOf, Store.getSession, hfind, hnext, Option.map_some,
      hsame.runtimeGeneration]
  have hafter : next.workState = .idle := hsame.workState.trans hidle
  unfold activeAt activeInstant
  rw [if_neg, hedge]
  · exact if_neg (fun hattached => Store.not_attached hfind hheadless hattached.1)
  · rintro (hworking | hworking | hchanged | hloses)
    · exact Store.not_working hfind hidle hworking
    · exact Store.not_working hnext hafter hworking
    · exact hchanged hgeneration
    · exact hlost hloses

/-- A step that accepts a headless snapshot for an idle session sees no activity
after the instant of the snapshot. -/
theorem activeAt_edge {row next : Session} {instant : Nat}
    (hfind : system.store.sessions.find? pubkey = some row)
    (hnext : (system.store.step timed.op).sessions.find? pubkey = some next)
    (hidle : row.workState = .idle) (hafter : next.workState = .idle)
    (hgeneration : next.runtimeGeneration = row.runtimeGeneration)
    (hedge : timed.op.acceptedEdge system.store pubkey = some (.headless, instant)) :
    system.activeAt timed pubkey ≤ instant := by
  have hsame : (system.store.step timed.op).generationOf pubkey =
      system.store.generationOf pubkey := by
    simp only [Store.generationOf, Store.getSession, hfind, hnext, Option.map_some, hgeneration]
  unfold activeAt activeInstant
  rw [if_neg, hedge]
  · dsimp only
    split
    · exact Nat.le_refl instant
    · exact Nat.zero_le instant
  · rintro (hworking | hworking | hchanged | hloses)
    · exact Store.not_working hfind hidle hworking
    · exact Store.not_working hnext hafter hworking
    · exact hchanged hsame
    · unfold StoreOp.LosesPresentation at hloses
      split at hloses
      · rename_i heq
        rw [heq] at hedge
        cases hedge
      · exact hloses

theorem waitingAt_zero (hbefore : ¬ system.store.hasOutstanding pubkey)
    (hafter : ¬ (system.store.step timed.op).hasOutstanding pubkey) :
    system.waitingAt timed pubkey = 0 :=
  if_neg (fun hor => hor.elim hbefore hafter)

/-- The window of a clock that is armed after the step is quiet. -/
theorem step_quiet (hsystem : system.Sound)
    (hontime : timed.OnTime system) (hsettles : timed.Settles system)
    {next : Session} (hnext : (system.store.step timed.op).sessions.find? pubkey = some next)
    (harmed : 0 < next.idleDeadline) :
    (system.step timed).Quiet pubkey next.idleSince timed.now := by
  obtain ⟨hclock, hinstants⟩ := hontime
  have hrows := Store.step_lifecycleInvariant timed.op hsystem.rows
  have hidleNext := ((hrows.find? hnext).armed harmed).2.2.1
  have hactive := hsystem.active_le pubkey
  have hwaiting := hsystem.waiting_le pubkey
  have hstepActive : system.activeAt timed pubkey ≤ timed.now := activeInstant_le hinstants
  have hstepWaiting : system.waitingAt timed pubkey ≤ timed.now := waitingInstant_le _ _ _ _
  simp only [Quiet, step]
  cases Store.step_armedBy hinstants hsystem.rows hnext harmed with
  | fresh hsince =>
      -- both maxima are bounded by the wall clock
      refine ⟨by omega, Or.inr (Or.inl (by omega))⟩
  | edge row instant hfind hrearms hidle hgeneration hedge hsince =>
      have hkey : row.pubkey = pubkey := Table.key_of_find? hfind
      have hquiet := (hsettles row (Table.mem_of_find? hfind)).1 instant hrearms
      rw [hkey] at hquiet
      have hedgeActive := activeAt_edge hfind hnext hidle hidleNext hgeneration hedge
      have hquietActive := hquiet.1
      refine ⟨by omega, ?_⟩
      by_cases hafter : (system.store.step timed.op).hasOutstanding pubkey
      · exact Or.inl hafter
      · have hbefore : ¬ system.store.hasOutstanding pubkey := fun hbefore =>
          Store.settledBy_notEdge hedge (Store.settledBy_of_not_outstanding hbefore hafter)
        rw [waitingAt_zero hbefore hafter, Nat.max_zero, hsince]
        exact Or.inr (hquiet.2.resolve_left hbefore)
  | kept row hfind hsame hedge hlost =>
      have hkey : row.pubkey = pubkey := Table.key_of_find? hfind
      have hsince := hsame.idleSince
      have hrow : 0 < row.idleDeadline := by rw [← hsame.idleDeadline]; exact harmed
      obtain ⟨_, hheadless, hidle, _⟩ := (hsystem.rows.find? hfind).armed hrow
      have hquiet := hsystem.armed pubkey row hfind hrow
      have hquietActive := hquiet.1
      rw [activeAt_kept hfind hnext hidle hheadless hsame hedge hlost]
      refine ⟨by omega, ?_⟩
      by_cases hafter : (system.store.step timed.op).hasOutstanding pubkey
      · exact Or.inl hafter
      · by_cases hbefore : system.store.hasOutstanding pubkey
        · -- the last row is settled, so the clock started in this very step
          have hsettled := Store.settledBy_of_not_outstanding hbefore hafter
          have hguard := (hsettles row (Table.mem_of_find? hfind)).2 hrow
          rw [hkey] at hguard
          have hstarted : timed.now ≤ row.idleSince := by
            by_contra hlate
            exact hguard (by omega) hsettled
          exact Or.inr (Or.inl (by omega))
        · rw [waitingAt_zero hbefore hafter]
          rcases hquiet.2.resolve_left hbefore with hsinceOk | hlong
          · exact Or.inr (Or.inl (by omega))
          · exact Or.inr (Or.inr (by omega))

theorem step_sound (hsystem : system.Sound)
    (hontime : timed.OnTime system) (hsettles : timed.Settles system) :
    (system.step timed).Sound where
  rows := Store.step_lifecycleInvariant timed.op hsystem.rows
  active_le := fun pubkey =>
    Nat.max_le.mpr ⟨Nat.le_trans (hsystem.active_le pubkey) hontime.1,
      activeInstant_le hontime.2⟩
  waiting_le := fun pubkey =>
    Nat.max_le.mpr ⟨Nat.le_trans (hsystem.waiting_le pubkey) hontime.1,
      waitingInstant_le _ _ _ _⟩
  armed := fun _ _ hnext harmed => step_quiet hsystem hontime hsettles hnext harmed

/-! ## Whole runs -/

/-- The last use of a session never moves back. -/
theorem lastUse_mono (system : IdleSystem) (steps : List TimedStep) (pubkey : String) :
    system.lastActive pubkey ≤ (run step system steps).lastActive pubkey ∧
      system.lastWaiting pubkey ≤ (run step system steps).lastWaiting pubkey := by
  refine run_invariant (I := fun later : IdleSystem =>
    system.lastActive pubkey ≤ later.lastActive pubkey ∧
      system.lastWaiting pubkey ≤ later.lastWaiting pubkey) ⟨Nat.le_refl _, Nat.le_refl _⟩ ?_ steps
  intro later timed hlater
  exact ⟨Nat.le_trans hlater.1 (Nat.le_max_left _ _),
    Nat.le_trans hlater.2 (Nat.le_max_left _ _)⟩

/-- The last use bounds what every single step saw. -/
theorem seen_le_lastUse {steps before later : List TimedStep}
    (hsteps : steps = before ++ timed :: later) (pubkey : String) :
    (run step empty before).activeAt timed pubkey ≤ (run step empty steps).lastActive pubkey ∧
      (run step empty before).waitingAt timed pubkey ≤
        (run step empty steps).lastWaiting pubkey := by
  have hmono := lastUse_mono ((run step empty before).step timed) later pubkey
  rw [hsteps, run_append, run_cons]
  exact ⟨Nat.le_trans (Nat.le_max_right _ _) hmono.1,
    Nat.le_trans (Nat.le_max_right _ _) hmono.2⟩

/-- In the state after `steps` the session is headless and idle without outstanding
rows, and it has been so for a whole timeout up to `now`: no earlier step saw it
active, or saw a row wait for it, inside that window. -/
structure IdleFor (steps : List TimedStep) (pubkey : String) (now : Nat) : Prop where
  current : ∃ row, (run step empty steps).store.getSession pubkey = some row ∧
    row.runtimeState = .running ∧ row.presentationState = .headless ∧ row.workState = .idle ∧
    row.idleSince + headlessIdleTimeoutSecs ≤ now
  settled : ¬ (run step empty steps).store.hasOutstanding pubkey
  inactive : ∀ before timed later, steps = before ++ timed :: later →
    (run step empty before).activeAt timed pubkey + headlessIdleTimeoutSecs ≤ now
  undisturbed : ∀ before timed later, steps = before ++ timed :: later →
    (run step empty before).waitingAt timed pubkey + headlessIdleTimeoutSecs ≤ now

theorem reserveDueIdleEviction_some {store after : Store}
    {generation lifecycleEpoch attachmentEpoch now : Nat} {reserved : Session}
    (hok : store.reserveDueIdleEviction pubkey generation lifecycleEpoch attachmentEpoch now =
      .ok (some reserved, after)) :
    now ≤ Rust.i64Max ∧ ∃ row, store.sessions.find? pubkey = some row ∧
      store.evictionApplies pubkey generation lifecycleEpoch attachmentEpoch now row := by
  simp only [Store.reserveDueIdleEviction, bind_eq_ok, bindParams_eq_ok, Store.updateSessions,
    decide_eq_true_eq] at hok
  obtain ⟨_, hbound, hok⟩ := hok
  refine ⟨hbound now (by simp), ?_⟩
  split at hok
  · rename_i hone
    exact (Table.matching_eq_one_of_key (fun _ happlies => happlies.1)).mp hone
  · simp only [pure_eq_ok, Prod.mk.injEq] at hok
    cases hok.1

/-- A reserved eviction is sound when the idle clocks are. -/
theorem idleFor_of_sound {steps : List TimedStep} (hsound : (run step empty steps).Sound)
    {generation lifecycleEpoch attachmentEpoch now : Nat}
    {reserved : Session} {after : Store} (hnow : (run step empty steps).clock ≤ now)
    (hok : (run step empty steps).store.reserveDueIdleEviction pubkey generation lifecycleEpoch
      attachmentEpoch now = .ok (some reserved, after)) : IdleFor steps pubkey now := by
  obtain ⟨hbound, row, hfind, hkey, _, _, _, hdue, hsettled⟩ := reserveDueIdleEviction_some hok
  obtain ⟨hrunning, hheadless, hidle, harmed, hdeadline⟩ := hdue
  rw [hkey] at hsettled
  have hformula := ((hsound.rows.find? hfind).armed harmed).2.2.2
  have hexact : row.idleDeadline = row.idleSince + headlessIdleTimeoutSecs := by
    rw [hformula]
    apply Rust.saturatingAdd_le_i64Max
    omega
  obtain ⟨hactive, hwaiting⟩ := hsound.armed pubkey row hfind harmed
  have hwaited := hwaiting.resolve_left hsettled
  have hlastWaiting :
      (run step empty steps).lastWaiting pubkey + headlessIdleTimeoutSecs ≤ now := by
    rcases hwaited with hsince | hlong
    · omega
    · omega
  constructor
  · exact ⟨row, hfind, hrunning, hheadless, hidle, by omega⟩
  · exact hsettled
  · intro before timed later hsteps
    have hseen := (seen_le_lastUse hsteps pubkey).1
    omega
  · intro before timed later hsteps
    have hseen := (seen_le_lastUse hsteps pubkey).2
    omega

/-- In a run on a wall clock whose steps all settle, every armed idle clock
started no earlier than the last activity of its session, and every eviction that
can be reserved afterwards ends a whole timeout without use. -/
theorem run_idleEviction_sound {steps : List TimedStep}
    (hontime : Guarded step (fun system timed => timed.OnTime system) empty steps)
    (hsettles : Guarded step (fun system timed => timed.Settles system) empty steps) :
    (∀ row ∈ (run step empty steps).store.sessions.rows, 0 < row.idleDeadline →
      (run step empty steps).lastActive row.pubkey ≤ row.idleSince) ∧
    ∀ pubkey generation lifecycleEpoch attachmentEpoch now reserved after,
      (run step empty steps).clock ≤ now →
      (run step empty steps).store.reserveDueIdleEviction pubkey generation lifecycleEpoch
        attachmentEpoch now = .ok (some reserved, after) →
      IdleFor steps pubkey now := by
  have hsound : (run step empty steps).Sound := by
    refine guarded_run_invariant empty_sound ?_ (guarded_and hontime hsettles)
    intro system timed hsystem hguard
    exact step_sound hsystem hguard.1 hguard.2
  constructor
  · intro row hrow harmed
    exact (hsound.armed row.pubkey row (Table.mem_rows_iff.mp hrow) harmed).1
  · intro pubkey generation lifecycleEpoch attachmentEpoch now reserved after hnow hok
    exact idleFor_of_sound hsound hnow hok

/-- A session whose terminal is left at 10 works from 13 to 20 and is evicted 600
seconds later. -/
def settledRun : List TimedStep :=
  [⟨1, launchOf "pk" 1⟩,
    ⟨12, .lifecycle (.applySessionPresentationEdge "pk" 1 2 .headless 10)⟩,
    ⟨13, .lifecycle (.applySessionTurnStarted "pk" 1 13)⟩,
    ⟨20, .lifecycle (.applySessionTurnEnded "pk" 1 20)⟩]

theorem run_idleEviction_sound_settled : IdleFor settledRun "pk" 620 := by
  have hyields : yields ((run step empty settledRun).store.reserveDueIdleEviction
      "pk" 1 1 2 620) = true := by decide
  obtain ⟨reserved, after, hok⟩ := yields_iff.mp hyields
  have hontime : Guarded step (fun system timed => timed.OnTime system) empty settledRun := by
    decide
  have hsettles : Guarded step (fun system timed => timed.Settles system) empty settledRun := by
    decide
  exact (run_idleEviction_sound hontime hsettles).2 "pk" 1 1 2 620 reserved after (by decide) hok

/-- The same terminal, last written to at 1990, cannot be probed at 1995.  The turn
ends at 2000, and the snapshot that is observed afterwards still says 1990. -/
def staleSnapshotRun : List TimedStep :=
  [⟨1, launchOf "pk" 1⟩,
    ⟨12, .lifecycle (.applySessionPresentationEdge "pk" 1 2 .headless 10)⟩,
    ⟨13, .lifecycle (.applySessionTurnStarted "pk" 1 13)⟩,
    ⟨1995, .lifecycle (.markSessionPresentationUnavailable "pk" 1 2 1995)⟩,
    ⟨2000, .lifecycle (.applySessionTurnEnded "pk" 1 2000)⟩,
    ⟨2005, .lifecycle (.applySessionPresentationEdge "pk" 1 2 .headless 1990)⟩]

/-- The supervisor's snapshot is 1990 because terminal output refreshes the time of
the last transition, and re-applying it starts the idle window before the end of
the turn: the session is evicted 590 seconds after it. -/
theorem idleEviction_not_sound :
    ((ClientSet.new 1).runEvents [.attach 7 5, .detach 7 10, .fanout [] 1990]).map
        ClientSet.snapshot = some ⟨0, 2, 1990⟩ ∧
      ¬ ∀ steps pubkey generation lifecycleEpoch attachmentEpoch now reserved after,
        Guarded step (fun system timed => timed.OnTime system) empty steps →
        (run step empty steps).clock ≤ now →
        (run step empty steps).store.reserveDueIdleEviction pubkey generation lifecycleEpoch
          attachmentEpoch now = .ok (some reserved, after) →
        IdleFor steps pubkey now := by
  refine ⟨by decide, ?_⟩
  intro hclaim
  have hyields : yields ((run step empty staleSnapshotRun).store.reserveDueIdleEviction
      "pk" 1 1 2 2590) = true := by decide
  obtain ⟨reserved, after, hok⟩ := yields_iff.mp hyields
  have hontime : Guarded step (fun system timed => timed.OnTime system) empty
      staleSnapshotRun := by decide
  have hidle := hclaim _ _ _ _ _ _ _ _ hontime (by decide) hok
  have hended := hidle.inactive (staleSnapshotRun.take 4)
    ⟨2000, .lifecycle (.applySessionTurnEnded "pk" 1 2000)⟩ (staleSnapshotRun.drop 5) rfl
  have hseen : (run step empty (staleSnapshotRun.take 4)).activeAt
      ⟨2000, .lifecycle (.applySessionTurnEnded "pk" 1 2000)⟩ "pk" = 2000 := by decide
  rw [hseen] at hended
  exact absurd hended (by decide)

end IdleSystem

end Mosaico
