import Mosaico.Lifecycle.RowInvariant
import Mosaico.State.InboxEdges

/-!
# The idle clock

A headless session is evicted after ten minutes without use.  Its idle clock is
set by the supervisor's snapshots, by the end of a turn and by the activation of
a remote actor, and each of them reads the time from a different source.

This module says when a session is in use and which operations set an idle
clock; `ArmedBy` lists them with the start of the idle window that they choose.
-/

namespace Mosaico

open Relational Transition

/-! ## Use of a session -/

namespace Store

/-- A turn of the session is open. -/
def Working (store : Store) (pubkey : String) : Prop :=
  store.sessions.Any (fun row => row.pubkey = pubkey ∧ row.workState = .working)

/-- A terminal is attached, as far as the store knows. -/
def Attached (store : Store) (pubkey : String) : Prop :=
  store.sessions.Any (fun row => row.pubkey = pubkey ∧ row.presentationState = .headed)

def generationOf (store : Store) (pubkey : String) : Option Nat :=
  (store.getSession pubkey).map Session.runtimeGeneration

instance (store : Store) (pubkey : String) : Decidable (store.Working pubkey) :=
  inferInstanceAs (Decidable (Table.Any _ _))

instance (store : Store) (pubkey : String) : Decidable (store.Attached pubkey) :=
  inferInstanceAs (Decidable (Table.Any _ _))

variable {store : Store} {pubkey : String}

theorem working_iff :
    store.Working pubkey ↔
      ∃ row, store.sessions.find? pubkey = some row ∧ row.workState = .working :=
  Table.any_key_iff

theorem attached_iff :
    store.Attached pubkey ↔
      ∃ row, store.sessions.find? pubkey = some row ∧ row.presentationState = .headed :=
  Table.any_key_iff

theorem not_working {row : Session}
    (hfind : store.sessions.find? pubkey = some row) (hidle : row.workState = .idle) :
    ¬ store.Working pubkey := by
  rw [working_iff]
  rintro ⟨other, hother, hworking⟩
  rw [hfind] at hother
  cases hother
  rw [hidle] at hworking
  cases hworking

theorem not_attached {row : Session} (hfind : store.sessions.find? pubkey = some row)
    (hheadless : row.presentationState = .headless) : ¬ store.Attached pubkey := by
  rw [attached_iff]
  rintro ⟨other, hother, hheaded⟩
  rw [hfind] at hother
  cases hother
  rw [hheadless] at hheaded
  cases hheaded

end Store

/-- The session loses its presentation: a probe of its terminal failed. -/
def StoreOp.LosesPresentation (store : Store) (pubkey : String) : StoreOp → Prop
  | .lifecycle (.markSessionPresentationUnavailable target generation attachmentEpoch instant) =>
      pubkey = target ∧ changed (store.markSessionPresentationUnavailable target generation
        attachmentEpoch instant) = true
  | _ => False

instance (store : Store) (pubkey : String) :
    DecidablePred (StoreOp.LosesPresentation store pubkey) := fun op => by
  unfold StoreOp.LosesPresentation
  split <;> infer_instance

/-- The presentation and the instant of an edge that the session accepts. -/
def StoreOp.acceptedEdge (store : Store) (pubkey : String) :
    StoreOp → Option (PresentationState × Nat)
  | .lifecycle (.applySessionPresentationEdge target generation attachmentEpoch presentation
      instant) =>
      if pubkey = target ∧ changed (store.applySessionPresentationEdge target generation
        attachmentEpoch presentation instant) = true then some (presentation, instant) else none
  | .lifecycle (.cancelIdleEvictionOnPresentationChange target generation
      stoppingLifecycleEpoch attachmentEpoch presentation instant) =>
      if pubkey = target ∧ changed (store.cancelIdleEvictionOnPresentationChange target generation
        stoppingLifecycleEpoch attachmentEpoch presentation instant) = true then
        some (presentation, instant)
      else none
  | _ => none

/-- The last instant at which one step at `now` saw the session working, starting
or attached, or zero.  A terminal that an edge reports as gone was attached until
the instant of the edge, and one whose probe fails until `now`. -/
def activeInstant (before : Store) (now : Nat) (op : StoreOp) (after : Store)
    (pubkey : String) : Nat :=
  if before.Working pubkey ∨ after.Working pubkey ∨
      after.generationOf pubkey ≠ before.generationOf pubkey ∨
      op.LosesPresentation before pubkey then
    now
  else
    match op.acceptedEdge before pubkey with
    | some (presentation, instant) =>
        if before.Attached pubkey ∨ presentation ≠ .headless then instant else 0
    | none => if before.Attached pubkey ∧ ¬ after.Attached pubkey then now else 0

/-- `now` when the session had an outstanding inbox row before or after the
step, and zero otherwise. -/
def waitingInstant (before : Store) (now : Nat) (after : Store) (pubkey : String) : Nat :=
  if before.hasOutstanding pubkey ∨ after.hasOutstanding pubkey then now else 0

/-! ## Instants -/

/-- Instants of turns, starts and scans are the wall clock; a snapshot was taken
before it is applied. -/
def StoreOp.InstantsAt (now : Nat) : StoreOp → Prop
  | .lifecycle (.reserveSessionWithFacts r _) => r.now = now
  | .lifecycle (.applySessionPresentationEdge _ _ _ _ instant) => instant ≤ now
  | .lifecycle (.markSessionPresentationUnavailable _ _ _ instant) => instant = now
  | .lifecycle (.applySessionTurnStarted _ _ instant) => instant = now
  | .lifecycle (.applySessionTurnEnded _ _ instant) => instant = now
  | .lifecycle (.reserveDueIdleEviction _ _ _ _ scan) => scan = now
  | .lifecycle (.cancelIdleEvictionOnPresentationChange _ _ _ _ _ instant) => instant ≤ now
  | .lifecycle (.reserveMcpActorSession _ _ _ instant) => instant = now
  | .lifecycle (.activateMcpActor _ _ instant) => instant = now
  | _ => True

instance (now : Nat) : DecidablePred (StoreOp.InstantsAt now) := fun op => by
  cases op with
  | lifecycle op => cases op <;> (dsimp only [StoreOp.InstantsAt]; infer_instance)
  | _ => exact inferInstanceAs (Decidable True)

theorem acceptedEdge_instant_le {store : Store} {op : StoreOp} {now instant : Nat}
    {pubkey : String} {presentation : PresentationState} (hinstants : op.InstantsAt now)
    (hedge : op.acceptedEdge store pubkey = some (presentation, instant)) : instant ≤ now := by
  unfold StoreOp.acceptedEdge at hedge
  split at hedge
  · split at hedge
    · cases hedge
      exact hinstants
    · cases hedge
  · split at hedge
    · cases hedge
      exact hinstants
    · cases hedge
  · cases hedge

theorem activeInstant_le {before after : Store} {now : Nat} {op : StoreOp} {pubkey : String}
    (hinstants : op.InstantsAt now) : activeInstant before now op after pubkey ≤ now := by
  unfold activeInstant
  split
  · exact Nat.le_refl now
  · split
    · rename_i presentation instant hedge
      split
      · exact acceptedEdge_instant_le hinstants hedge
      · exact Nat.zero_le now
    · split
      · exact Nat.le_refl now
      · exact Nat.zero_le now

theorem waitingInstant_le (before : Store) (now : Nat) (after : Store) (pubkey : String) :
    waitingInstant before now after pubkey ≤ now := by
  unfold waitingInstant
  split
  · exact Nat.le_refl now
  · exact Nat.zero_le now

/-! ## Who sets an idle clock -/

/-- The start of the idle window when the row accepts a headless snapshot that
arms its clock. -/
def StoreOp.rearmInstant (row : Session) : StoreOp → Option Nat
  | .lifecycle (.applySessionPresentationEdge pubkey generation attachmentEpoch presentation
      instant) =>
      if Store.presentationEdgeApplies pubkey generation attachmentEpoch row ∧
          presentation = .headless ∧ row.workState = .idle then some instant
      else none
  | .lifecycle (.cancelIdleEvictionOnPresentationChange pubkey generation
      stoppingLifecycleEpoch attachmentEpoch presentation instant) =>
      if Store.evictionCancelApplies pubkey generation stoppingLifecycleEpoch attachmentEpoch
          presentation row ∧ presentation = .headless then some instant
      else none
  | _ => none

/-- How the idle clock of the row `next` came to be armed after a step at `now`. -/
inductive ArmedBy (store : Store) (op : StoreOp) (now : Nat) (pubkey : String)
    (next : Session) : Prop
  /-- By a headless snapshot; the window starts at its instant. -/
  | edge (row : Session) (instant : Nat) (hfind : store.sessions.find? pubkey = some row)
      (hrearms : op.rearmInstant row = some instant) (hidle : row.workState = .idle)
      (hgeneration : next.runtimeGeneration = row.runtimeGeneration)
      (hedge : op.acceptedEdge store pubkey = some (.headless, instant))
      (hsince : next.idleSince = instant)
  /-- By the end of a turn or the activation of an actor; the window starts now. -/
  | fresh (hsince : next.idleSince = now)
  /-- It was armed before. -/
  | kept (row : Session) (hfind : store.sessions.find? pubkey = some row)
      (hsame : row.SameLifecycle next) (hedge : op.acceptedEdge store pubkey = none)
      (hlost : ¬ op.LosesPresentation store pubkey)

namespace Store

variable {store : Store} {pubkey : String} {now : Nat} {next : Session}

theorem presentationEdge_armedBy {target : String}
    {generation attachmentEpoch instant : Nat} {presentation : PresentationState}
    (harmed : 0 < next.idleDeadline)
    (hnext : (store.lifecycleStep (.applySessionPresentationEdge target generation
      attachmentEpoch presentation instant)).sessions.find? pubkey = some next) :
    ArmedBy store (.lifecycle (.applySessionPresentationEdge target generation attachmentEpoch
      presentation instant)) now pubkey next := by
  rcases commit_updateSessions_find? store _
    (presentationEdgeApplies target generation attachmentEpoch)
    (fun row => row.presentationEdge attachmentEpoch presentation instant) (fun _ => rfl)
    (fun row happlies => happlies.1.1) pubkey with
    ⟨htarget, hchanged, row, hfind, happlies, hassigned⟩ | ⟨hunchanged, hsame⟩
  · cases hassigned.symm.trans hnext
    have hcondition : presentation = .headless ∧ row.workState = .idle := by
      by_contra hnot
      simp [Session.presentationEdge, Session.idleDeadlineIf, hnot] at harmed
    refine .edge row instant hfind (if_pos ⟨happlies, hcondition⟩) hcondition.2 rfl ?_
      (if_pos hcondition)
    rw [← hcondition.1]
    exact if_pos ⟨htarget, hchanged⟩
  · refine .kept next (hsame.symm.trans hnext) (.refl next) (if_neg ?_) (fun hlost => hlost)
    rintro ⟨htarget, hchanged⟩
    exact Bool.false_ne_true ((hunchanged htarget).symm.trans hchanged)

theorem evictionCancel_armedBy {target : String}
    {generation stoppingLifecycleEpoch attachmentEpoch instant : Nat}
    {presentation : PresentationState}
    (hstore : store.sessions.All Session.LifecycleInvariant) (harmed : 0 < next.idleDeadline)
    (hnext : (store.lifecycleStep (.cancelIdleEvictionOnPresentationChange target generation
      stoppingLifecycleEpoch attachmentEpoch presentation instant)).sessions.find? pubkey =
      some next) :
    ArmedBy store (.lifecycle (.cancelIdleEvictionOnPresentationChange target generation
      stoppingLifecycleEpoch attachmentEpoch presentation instant)) now pubkey next := by
  rcases commit_updateSessions_find? store _
    (evictionCancelApplies target generation stoppingLifecycleEpoch attachmentEpoch presentation)
    (fun row => row.evictionCancelled attachmentEpoch presentation instant) (fun _ => rfl)
    (fun row happlies => happlies.1) pubkey with
    ⟨htarget, hchanged, row, hfind, happlies, hassigned⟩ | ⟨hunchanged, hsame⟩
  · cases hassigned.symm.trans hnext
    have hcondition : presentation = .headless := by
      by_contra hnot
      simp [Session.evictionCancelled, Session.idleDeadlineIf, hnot] at harmed
    have hidle := ((hstore.find? hfind).stopping happlies.2.2.1).1
    refine .edge row instant hfind (if_pos ⟨happlies, hcondition⟩) hidle rfl ?_
      (if_pos hcondition)
    rw [← hcondition]
    exact if_pos ⟨htarget, hchanged⟩
  · refine .kept next (hsame.symm.trans hnext) (.refl next) (if_neg ?_) (fun hlost => hlost)
    rintro ⟨htarget, hchanged⟩
    exact Bool.false_ne_true ((hunchanged htarget).symm.trans hchanged)

theorem presentationUnavailable_armedBy {target : String} {generation attachmentEpoch instant : Nat}
    (harmed : 0 < next.idleDeadline)
    (hnext : (store.lifecycleStep (.markSessionPresentationUnavailable target generation
      attachmentEpoch instant)).sessions.find? pubkey = some next) :
    ArmedBy store (.lifecycle (.markSessionPresentationUnavailable target generation
      attachmentEpoch instant)) now pubkey next := by
  rcases commit_updateSessions_find? store _
    (fun row => isRunningGeneration target generation row ∧
      row.attachmentEpoch = attachmentEpoch)
    (fun row => row.presentationLost instant) (fun _ => rfl)
    (fun row happlies => happlies.1.1) pubkey with
    ⟨htarget, hchanged, row, hfind, happlies, hassigned⟩ | ⟨hunchanged, hsame⟩
  · cases hassigned.symm.trans hnext
    exact absurd harmed (Nat.lt_irrefl 0)
  · refine .kept next (hsame.symm.trans hnext) (.refl next) rfl ?_
    rintro ⟨htarget, hchanged⟩
    exact Bool.false_ne_true ((hunchanged htarget).symm.trans hchanged)

/-- The remaining lifecycle operations arm a clock at their own instant or not at
all. -/
private theorem rewritten_armedBy {op : LifecycleOp}
    {row : Session} (hinstants : StoreOp.InstantsAt now (.lifecycle op))
    (hfind : store.sessions.find? pubkey = some row) (hop : op.Rewrites store row next)
    (harmed : 0 < next.idleDeadline)
    (hedge : StoreOp.acceptedEdge store pubkey (.lifecycle op) = none)
    (hlost : ¬ StoreOp.LosesPresentation store pubkey (.lifecycle op))
    (hnotEdge : ∀ target generation attachmentEpoch presentation instant,
      op ≠ .applySessionPresentationEdge target generation attachmentEpoch presentation instant)
    (hnotCancel : ∀ target generation stoppingLifecycleEpoch attachmentEpoch presentation instant,
      op ≠ .cancelIdleEvictionOnPresentationChange target generation stoppingLifecycleEpoch
        attachmentEpoch presentation instant) :
    ArmedBy store (.lifecycle op) now pubkey next := by
  -- Every other rewrite clears the deadline.
  have hdisarmed : next.idleDeadline = 0 → ArmedBy store (.lifecycle op) now pubkey next :=
    fun hzero => absurd harmed (by omega)
  cases op with
  | reserveSessionWithFacts r facts => exact hdisarmed (by rw [hop.2.2.2]; rfl)
  | applySessionPresentationEdge target generation attachmentEpoch presentation instant =>
      exact absurd rfl (hnotEdge _ _ _ _ _)
  | markSessionPresentationUnavailable target generation attachmentEpoch instant =>
      exact hdisarmed (by rw [hop.2.2]; rfl)
  | applySessionTurnStarted target generation instant
  | cancelSessionIdleDeadlineForDelivery target generation
  | reserveDueIdleEviction target generation lifecycleEpoch attachmentEpoch scan
  | markRuntimeStoppedIfGeneration target generation reason stoppedAt =>
      exact hdisarmed (by rw [hop.2]; rfl)
  | applySessionTurnEnded target generation instant =>
      obtain ⟨_, _, rfl⟩ := hop
      have hheadless : row.presentationState = .headless := by
        by_contra hnot
        simp [Session.turnEnded, Session.idleDeadlineIf, hnot] at harmed
      have hinstant : instant = now := hinstants
      rw [← hinstant]
      exact .fresh (if_pos hheadless)
  | cancelIdleEvictionOnPresentationChange target generation stoppingLifecycleEpoch
      attachmentEpoch presentation instant => exact absurd rfl (hnotCancel _ _ _ _ _ _)
  | finalizeRuntimeStoppedIfEpoch target generation stoppingLifecycleEpoch reason stoppedAt =>
      exact hdisarmed (by rw [hop.2.2.2.2]; rfl)
  | revokeSessionRecoveryIfGeneration target runtimeGeneration =>
      obtain ⟨_, _, rfl⟩ := hop
      exact .kept row hfind ⟨rfl, rfl, rfl, rfl, rfl, rfl, rfl, rfl, rfl, rfl, rfl⟩ hedge hlost
  | finalizeSessionRecoveryRevocation target runtimeGeneration stoppedAt =>
      exact hdisarmed (by rw [hop.2.2.2]; rfl)
  | reserveMcpActorSession target agentSlug channel instant => exact hop.elim
  | activateMcpActor actorKey target instant =>
      obtain ⟨_, _, _, rfl⟩ := hop
      exact .fresh hinstants

/-- How any idle clock came to be armed after a step. -/
theorem step_armedBy {op : StoreOp} (hinstants : op.InstantsAt now)
    (hstore : store.sessions.All Session.LifecycleInvariant)
    (hnext : (store.step op).sessions.find? pubkey = some next)
    (harmed : 0 < next.idleDeadline) : ArmedBy store op now pubkey next := by
  have hchange := step_sessionChange store op pubkey
  rw [hnext] at hchange
  generalize hlater : some next = later at hchange
  cases op with
  | lifecycle op =>
      -- The operations that carry a presentation edge or lose one have lemmas of their own.
      by_cases hguarded : (∃ target generation attachmentEpoch presentation instant,
          op = .applySessionPresentationEdge target generation attachmentEpoch presentation
            instant) ∨
        (∃ target generation stoppingLifecycleEpoch attachmentEpoch presentation instant,
          op = .cancelIdleEvictionOnPresentationChange target generation stoppingLifecycleEpoch
            attachmentEpoch presentation instant) ∨
        ∃ target generation attachmentEpoch instant,
          op = .markSessionPresentationUnavailable target generation attachmentEpoch instant
      · rcases hguarded with ⟨_, _, _, _, _, rfl⟩ | ⟨_, _, _, _, _, _, rfl⟩ | ⟨_, _, _, _, rfl⟩
        · exact presentationEdge_armedBy harmed hnext
        · exact evictionCancel_armedBy hstore harmed hnext
        · exact presentationUnavailable_armedBy harmed hnext
      · simp only [not_or, not_exists] at hguarded
        obtain ⟨hnotEdge, hnotCancel, hnotLost⟩ := hguarded
        have hedge : StoreOp.acceptedEdge store pubkey (.lifecycle op) = none := by
          cases op with
          | applySessionPresentationEdge => exact absurd rfl (hnotEdge _ _ _ _ _)
          | cancelIdleEvictionOnPresentationChange => exact absurd rfl (hnotCancel _ _ _ _ _ _)
          | _ => rfl
        have hlost : ¬ StoreOp.LosesPresentation store pubkey (.lifecycle op) := by
          cases op with
          | markSessionPresentationUnavailable => exact absurd rfl (hnotLost _ _ _ _)
          | _ => exact fun hlost => hlost
        cases hchange with
        | kept => exact .kept next hlater.symm (.refl next) hedge hlost
        | rewritten row _ hfind hrewrites =>
            cases hlater
            exact rewritten_armedBy hinstants hfind hrewrites harmed hedge hlost hnotEdge
              hnotCancel
        | created _ hfree hkey hcreates =>
            cases hlater
            cases op with
            | reserveSessionWithFacts r facts =>
                rw [show next = Session.registered r facts 1 from hcreates] at harmed
                exact absurd harmed (Nat.lt_irrefl 0)
            | reserveMcpActorSession target agentSlug channel instant =>
                refine .fresh ?_
                rw [show next = Session.mcpActor target agentSlug channel instant from hcreates]
                exact hinstants
            | _ => exact hcreates.elim
  | inbox op =>
      cases hchange with
      | kept => exact .kept next hlater.symm (.refl next) rfl (fun hlost => hlost)
      | rewritten row _ hfind hrewrites =>
          cases hlater
          cases op with
          -- Mail disarms the clock.
          | enqueueInbox eventId targetPubkey fromPubkey channelH body createdAt =>
              rw [hrewrites.2.2.2] at harmed
              exact absurd harmed (Nat.lt_irrefl 0)
          | _ => exact hrewrites.elim
      | created _ hfree hkey hcreates => exact hcreates.elim
  | locator op =>
      cases hchange with
      | kept => exact .kept next hlater.symm (.refl next) rfl (fun hlost => hlost)
      | rewritten row _ hfind hrewrites =>
          cases hlater
          exact .kept row hfind hrewrites rfl (fun hlost => hlost)
      | created _ hfree hkey hcreates => exact hcreates.elim
  | standing op =>
      cases hchange with
      | kept => exact .kept next hlater.symm (.refl next) rfl (fun hlost => hlost)
      | rewritten row _ hfind hrewrites => exact hrewrites.elim
      | created _ hfree hkey hcreates => exact hcreates.elim
  | context op =>
      cases hchange with
      | kept => exact .kept next hlater.symm (.refl next) rfl (fun hlost => hlost)
      | rewritten row _ hfind hrewrites =>
          cases hlater
          exact .kept row hfind hrewrites.1 rfl (fun hlost => hlost)
      | created _ hfree hkey hcreates => exact hcreates.elim

end Store

end Mosaico
