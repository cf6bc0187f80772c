import Mosaico.State.SessionEdges

/-!
# What a lifecycle operation leaves alone

Half of the lifecycle operations are one update of the session table.  The
others touch the inbox (a turn end), the routes and the standing (a reservation,
a stop, a revocation) or the locators (a finalized revocation), and nothing
else.
-/

namespace Mosaico

open Relational Transition

namespace Store

/-- Nothing but the session table differs, among the tables the development
speaks about. -/
structure SameOutsideSessions (before after : Store) : Prop where
  sessionChannels : after.sessionChannels = before.sessionChannels
  sessionStanding : after.sessionStanding = before.sessionStanding
  sessionLocators : after.sessionLocators = before.sessionLocators
  inbox : after.inbox = before.inbox

theorem SameOutsideSessions.refl (store : Store) : SameOutsideSessions store store :=
  ⟨rfl, rfl, rfl, rfl⟩

/-- A guarded single statement on the session table. -/
theorem commit_updateSessions_same (store : Store) (params : List Nat)
    (applies : Session → Prop) [DecidablePred applies] (assign : Session → Session)
    (hkey : ∀ row, (assign row).pubkey = row.pubkey) :
    SameOutsideSessions store (commit (do
      bindParams params
      return store.updateSessions applies assign hkey) store) := by
  apply commit_invariant (I := SameOutsideSessions store) (.refl store)
  intro changed after hok
  simp only [bind_eq_ok, pure_eq_ok, updateSessions, Prod.mk.injEq] at hok
  obtain ⟨_, _, _, rfl⟩ := hok
  exact ⟨rfl, rfl, rfl, rfl⟩

/-- The lifecycle operations that are one update of the session table. -/
def updatesSessionsOnly : LifecycleOp → Bool
  | .applySessionPresentationEdge _ _ _ _ _ => true
  | .markSessionPresentationUnavailable _ _ _ _ => true
  | .applySessionTurnStarted _ _ _ => true
  | .cancelSessionIdleDeadlineForDelivery _ _ => true
  | .reserveDueIdleEviction _ _ _ _ _ => true
  | .cancelIdleEvictionOnPresentationChange _ _ _ _ _ _ => true
  | .revokeSessionRecoveryIfGeneration _ _ => true
  | .activateMcpActor _ _ _ => true
  | _ => false

theorem lifecycleStep_sameOutsideSessions (store : Store) {op : LifecycleOp}
    (hop : updatesSessionsOnly op = true) :
    SameOutsideSessions store (store.lifecycleStep op) := by
  cases op with
  | applySessionPresentationEdge pubkey generation attachmentEpoch presentation instant
  | markSessionPresentationUnavailable pubkey generation attachmentEpoch instant
  | applySessionTurnStarted pubkey generation instant
  | cancelSessionIdleDeadlineForDelivery pubkey generation
  | cancelIdleEvictionOnPresentationChange pubkey generation stoppingLifecycleEpoch attachmentEpoch presentation instant
  | revokeSessionRecoveryIfGeneration pubkey runtimeGeneration =>
      exact commit_updateSessions_same store _ _ _ _
  | reserveDueIdleEviction pubkey generation lifecycleEpoch attachmentEpoch now =>
      apply commit_invariant (I := SameOutsideSessions store) (.refl store)
      intro reserved after hok
      simp only [reserveDueIdleEviction, bind_eq_ok, updateSessions,
        decide_eq_true_eq] at hok
      obtain ⟨_, _, hok⟩ := hok
      split at hok
      · simp only [pure_eq_ok, Prod.mk.injEq] at hok
        exact hok.2 ▸ ⟨rfl, rfl, rfl, rfl⟩
      · simp only [pure_eq_ok, Prod.mk.injEq] at hok
        exact hok.2 ▸ ⟨rfl, rfl, rfl, rfl⟩
  | activateMcpActor actorKey pubkey now =>
      apply commit_invariant (I := SameOutsideSessions store) (.refl store)
      intro value after hok
      unfold activateMcpActor at hok
      split at hok
      · cases hok
      · simp only [bind_eq_ok, pure_eq_ok, Prod.mk.injEq] at hok
        obtain ⟨_, _, _, _, _, _, _, rfl⟩ := hok
        exact ⟨rfl, rfl, rfl, rfl⟩
  | reserveSessionWithFacts r facts | applySessionTurnEnded pubkey generation instant
  | markRuntimeStoppedIfGeneration pubkey generation reason stoppedAt
  | finalizeSessionRecoveryRevocation pubkey runtimeGeneration now
  | reserveMcpActorSession pubkey agentSlug channel now => cases hop
  | finalizeRuntimeStoppedIfEpoch pubkey generation stoppingLifecycleEpoch reason stoppedAt =>
      cases hop

/-! ## The operations with a larger footprint -/

theorem admitRuntime_same (store : Store) (r : RegisterSession) (facts : AdmittedRuntimeFacts)
    (generation : Nat) :
    (store.admitRuntime r facts generation).inbox = store.inbox ∧
      (store.admitRuntime r facts generation).sessionLocators = store.sessionLocators := by
  unfold admitRuntime grantRouteAndInitializeStanding markHandleLive
  dsimp only
  split
  · exact ⟨rfl, rfl⟩
  · split
    · exact ⟨rfl, rfl⟩
    · exact ⟨rfl, rfl⟩

theorem finalizeRuntimeStoppedIfEpoch_same {store after : Store} {pubkey : String}
    {generation stoppingLifecycleEpoch stoppedAt : Nat} {reason : StopReason}
    {stopped : Option Session}
    (hok : store.finalizeRuntimeStoppedIfEpoch pubkey generation stoppingLifecycleEpoch reason
      stoppedAt = .ok (stopped, after)) :
    after.inbox = store.inbox ∧ after.sessionLocators = store.sessionLocators := by
  simp only [finalizeRuntimeStoppedIfEpoch, bind_eq_ok, updateSessions,
    decide_eq_true_eq] at hok
  obtain ⟨_, _, hok⟩ := hok
  split at hok
  · split at hok
    · cases hok
    · simp only [bind_eq_ok, pure_eq_ok, Prod.mk.injEq] at hok
      obtain ⟨_, hretained, _, rfl⟩ := hok
      have hsame := retainInTransaction_same hretained
      exact ⟨hsame.inbox, hsame.sessionLocators⟩
  · simp only [pure_eq_ok, Prod.mk.injEq] at hok
    exact hok.2 ▸ ⟨rfl, rfl⟩

theorem markRuntimeStoppedIfGeneration_same {store after : Store} {pubkey : String}
    {generation stoppedAt : Nat} {reason : StopReason} {changed : Bool}
    (hok : store.markRuntimeStoppedIfGeneration pubkey generation reason stoppedAt =
      .ok (changed, after)) :
    after.inbox = store.inbox ∧ after.sessionLocators = store.sessionLocators := by
  simp only [markRuntimeStoppedIfGeneration, bind_eq_ok, updateSessions,
    decide_eq_true_eq] at hok
  obtain ⟨_, _, hok⟩ := hok
  split at hok
  · split at hok
    · cases hok
    · simp only [bind_eq_ok, pure_eq_ok, Prod.mk.injEq] at hok
      obtain ⟨_, hretained, _, rfl⟩ := hok
      have hsame := retainInTransaction_same hretained
      exact ⟨hsame.inbox, hsame.sessionLocators⟩
  · simp only [pure_eq_ok, Prod.mk.injEq] at hok
    exact hok.2 ▸ ⟨rfl, rfl⟩

theorem finalizeSessionRecoveryRevocation_inbox {store after : Store} {pubkey : String}
    {runtimeGeneration now : Nat} {changed : Bool}
    (hok : store.finalizeSessionRecoveryRevocation pubkey runtimeGeneration now =
      .ok (changed, after)) : after.inbox = store.inbox := by
  simp only [finalizeSessionRecoveryRevocation, bind_eq_ok, updateSessions,
    decide_eq_true_eq] at hok
  obtain ⟨_, _, hok⟩ := hok
  split at hok
  · split at hok
    · cases hok
    · simp only [pure_eq_ok, Prod.mk.injEq] at hok
      exact hok.2 ▸ rfl
  · simp only [pure_eq_ok, Prod.mk.injEq] at hok
    exact hok.2 ▸ rfl

theorem applySessionTurnEnded_sessionLocators {store after : Store} {pubkey : String}
    {generation instant : Nat} {changed : Bool}
    (hok : store.applySessionTurnEnded pubkey generation instant = .ok (changed, after)) :
    after.sessionLocators = store.sessionLocators := by
  simp only [applySessionTurnEnded, bind_eq_ok, updateSessions, decide_eq_true_eq] at hok
  obtain ⟨_, _, hok⟩ := hok
  split at hok
  · simp only [pure_eq_ok, Prod.mk.injEq] at hok
    exact hok.2 ▸ rfl
  · simp only [pure_eq_ok, Prod.mk.injEq] at hok
    exact hok.2 ▸ rfl

theorem reserveMcpActorSession_same {store after : Store} {pubkey agentSlug channel : String}
    {now : Nat} {value : Unit}
    (hok : store.reserveMcpActorSession pubkey agentSlug channel now = .ok (value, after)) :
    after.inbox = store.inbox ∧ after.sessionLocators = store.sessionLocators ∧
      after.sessionStanding = store.sessionStanding := by
  simp only [reserveMcpActorSession, bind_eq_ok] at hok
  obtain ⟨_, _, _, _, hok⟩ := hok
  have hsame := grantSessionRoute_same hok
  have hstanding := grantSessionRoute_sessionStanding hok
  exact ⟨hsame.inbox, hsame.sessionLocators, hstanding⟩

/-- Among the lifecycle operations only a turn end touches the inbox. -/
theorem lifecycleStep_inbox (store : Store) (op : LifecycleOp) :
    (store.lifecycleStep op).inbox = store.inbox ∨
      ∃ pubkey generation instant, op = .applySessionTurnEnded pubkey generation instant := by
  cases hop : updatesSessionsOnly op with
  | true => exact Or.inl (lifecycleStep_sameOutsideSessions store hop).inbox
  | false =>
      let kept := fun after : Store => after.inbox = store.inbox
      cases op with
      | reserveSessionWithFacts r facts =>
          refine Or.inl (commit_invariant (I := kept) rfl ?_)
          intro generation after hok
          obtain ⟨_, rfl⟩ := reserveSessionWithFacts_ok hok
          exact (admitRuntime_same store r facts generation).1
      | applySessionTurnEnded pubkey generation instant => exact Or.inr ⟨_, _, _, rfl⟩
      | finalizeRuntimeStoppedIfEpoch pubkey generation stoppingLifecycleEpoch reason
          stoppedAt =>
          exact Or.inl (commit_invariant (I := kept) rfl
            (fun _ _ hok => (finalizeRuntimeStoppedIfEpoch_same hok).1))
      | markRuntimeStoppedIfGeneration pubkey generation reason stoppedAt =>
          exact Or.inl (commit_invariant (I := kept) rfl
            (fun _ _ hok => (markRuntimeStoppedIfGeneration_same hok).1))
      | finalizeSessionRecoveryRevocation pubkey runtimeGeneration now =>
          exact Or.inl (commit_invariant (I := kept) rfl
            (fun _ _ hok => finalizeSessionRecoveryRevocation_inbox hok))
      | reserveMcpActorSession pubkey agentSlug channel now =>
          exact Or.inl (commit_invariant (I := kept) rfl
            (fun _ _ hok => (reserveMcpActorSession_same hok).1))
      | _ => cases hop

/-- Among the lifecycle operations only a finalized revocation touches the
locators. -/
theorem lifecycleStep_sessionLocators (store : Store) (op : LifecycleOp) :
    (store.lifecycleStep op).sessionLocators = store.sessionLocators ∨
      ∃ pubkey runtimeGeneration now,
        op = .finalizeSessionRecoveryRevocation pubkey runtimeGeneration now := by
  cases hop : updatesSessionsOnly op with
  | true => exact Or.inl (lifecycleStep_sameOutsideSessions store hop).sessionLocators
  | false =>
      let kept := fun after : Store => after.sessionLocators = store.sessionLocators
      cases op with
      | reserveSessionWithFacts r facts =>
          refine Or.inl (commit_invariant (I := kept) rfl ?_)
          intro generation after hok
          obtain ⟨_, rfl⟩ := reserveSessionWithFacts_ok hok
          exact (admitRuntime_same store r facts generation).2
      | applySessionTurnEnded pubkey generation instant =>
          exact Or.inl (commit_invariant (I := kept) rfl
            (fun _ _ hok => applySessionTurnEnded_sessionLocators hok))
      | finalizeRuntimeStoppedIfEpoch pubkey generation stoppingLifecycleEpoch reason
          stoppedAt =>
          exact Or.inl (commit_invariant (I := kept) rfl
            (fun _ _ hok => (finalizeRuntimeStoppedIfEpoch_same hok).2))
      | markRuntimeStoppedIfGeneration pubkey generation reason stoppedAt =>
          exact Or.inl (commit_invariant (I := kept) rfl
            (fun _ _ hok => (markRuntimeStoppedIfGeneration_same hok).2))
      | finalizeSessionRecoveryRevocation pubkey runtimeGeneration now =>
          exact Or.inr ⟨_, _, _, rfl⟩
      | reserveMcpActorSession pubkey agentSlug channel now =>
          exact Or.inl (commit_invariant (I := kept) rfl
            (fun _ _ hok => (reserveMcpActorSession_same hok).2.1))
      | _ => cases hop

end Store

end Mosaico
