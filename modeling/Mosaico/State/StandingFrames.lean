import Mosaico.State.Operations

/-!
# What routes and standing leave alone

The operations on routes and relay standing write `session_channels` and
`session_standing` only.  The same holds of the standing writes that a session
transition performs inside its own transaction.
-/

namespace Mosaico

open Relational Transition

namespace Store

/-- The tables that routes and standing do not concern are the same. -/
structure SameOutsideStanding (before after : Store) : Prop where
  sessions : after.sessions = before.sessions
  sessionLocators : after.sessionLocators = before.sessionLocators
  mcpActorAliases : after.mcpActorAliases = before.mcpActorAliases
  inbox : after.inbox = before.inbox

theorem SameOutsideStanding.refl (store : Store) : SameOutsideStanding store store :=
  ⟨rfl, rfl, rfl, rfl⟩

theorem retainInTransaction_same {store after : Store} {pubkey : String}
    {lifecycleEpoch retainUntil now : Nat}
    (hok : store.retainInTransaction pubkey lifecycleEpoch retainUntil now = .ok after) :
    SameOutsideStanding store after := by
  simp only [retainInTransaction, bind_eq_ok, pure_eq_ok] at hok
  obtain ⟨_, _, rfl⟩ := hok
  exact ⟨rfl, rfl, rfl, rfl⟩

theorem grantSessionRoute_same {store after : Store} {pubkey channelH : String}
    {grantedAt : Nat} {value : Unit}
    (hok : store.grantSessionRoute pubkey channelH grantedAt = .ok (value, after)) :
    SameOutsideStanding store after := by
  unfold grantSessionRoute at hok
  split at hok
  · simp only [pure_eq_ok, Prod.mk.injEq] at hok
    exact hok.2 ▸ .refl store
  · simp only [bind_eq_ok, pure_eq_ok, Prod.mk.injEq] at hok
    obtain ⟨_, _, _, rfl⟩ := hok
    exact ⟨rfl, rfl, rfl, rfl⟩

theorem grantSessionRoute_sessionStanding {store after : Store} {pubkey channelH : String}
    {grantedAt : Nat} {value : Unit}
    (hok : store.grantSessionRoute pubkey channelH grantedAt = .ok (value, after)) :
    after.sessionStanding = store.sessionStanding := by
  unfold grantSessionRoute at hok
  split at hok
  · simp only [pure_eq_ok, Prod.mk.injEq] at hok
    rw [hok.2]
  · simp only [bind_eq_ok, pure_eq_ok, Prod.mk.injEq] at hok
    obtain ⟨_, _, _, rfl⟩ := hok
    rfl

theorem scheduleCleanupInTransaction_same {store after : Store}
    {pubkey channelH : String} {lifecycleEpoch now : Nat} {outcome : PendingAdmissionOutcome}
    (hok : store.scheduleCleanupInTransaction pubkey channelH lifecycleEpoch now =
      .ok (outcome, after)) : SameOutsideStanding store after := by
  unfold scheduleCleanupInTransaction at hok
  split at hok
  · simp only [pure_eq_ok, Prod.mk.injEq] at hok
    exact hok.2 ▸ .refl store
  · simp only [bind_eq_ok, pure_eq_ok, Prod.mk.injEq] at hok
    obtain ⟨_, _, _, rfl⟩ := hok
    exact ⟨rfl, rfl, rfl, rfl⟩

/-- The answer of a cleanup is read from the store it was written to. -/
theorem finishAdmissionOutcome_store {store after : Store} {pubkey channelH : String}
    {outcome : PendingAdmissionOutcome} {answer : ConfirmedAdmissionCommit}
    (hok : store.finishAdmissionOutcome pubkey channelH outcome = .ok (answer, after)) :
    after = store := by
  unfold finishAdmissionOutcome at hok
  split at hok
  · split at hok
    · simp only [pure_eq_ok, Prod.mk.injEq] at hok
      exact hok.2.symm
    · cases hok
  · simp only [pure_eq_ok, Prod.mk.injEq] at hok
    exact hok.2.symm

/-- The operations on routes and standing touch nothing else. -/
theorem standingStep_same (store : Store) (op : StandingOp) :
    SameOutsideStanding store (store.standingStep op) := by
  cases op with
  | grantSessionRoute pubkey channelH grantedAt =>
      exact commit_invariant (I := SameOutsideStanding store) (.refl store)
        (fun _ _ => grantSessionRoute_same)
  | revokeSessionRoute pubkey channelH => exact ⟨rfl, rfl, rfl, rfl⟩
  | revokeRouteAndMarkAbsent pubkey channelH now =>
      apply commit_invariant (I := SameOutsideStanding store) (.refl store)
      intro removed after hok
      simp only [revokeRouteAndMarkAbsent, revokeSessionRoute, bind_eq_ok, pure_eq_ok] at hok
      obtain ⟨_, _, _, rfl, hok⟩ := hok
      split at hok
      · simp only [pure_eq_ok, Prod.mk.injEq] at hok
        exact hok.2 ▸ ⟨rfl, rfl, rfl, rfl⟩
      · simp only [pure_eq_ok, Prod.mk.injEq] at hok
        exact hok.2 ▸ ⟨rfl, rfl, rfl, rfl⟩
  | commitConfirmedSessionAdmission pubkey channelH runtimeGeneration lifecycleEpoch now =>
      apply commit_invariant (I := SameOutsideStanding store) (.refl store)
      intro answer after hok
      simp only [commitConfirmedSessionAdmission, bind_eq_ok] at hok
      obtain ⟨_, _, hok⟩ := hok
      split at hok
      · simp only [bind_eq_ok, pure_eq_ok, Prod.mk.injEq] at hok
        obtain ⟨_, _, _, rfl⟩ := hok
        exact ⟨rfl, rfl, rfl, rfl⟩
      · simp only [bind_eq_ok] at hok
        obtain ⟨_, hcleanup, hfinish⟩ := hok
        rw [finishAdmissionOutcome_store hfinish]
        exact scheduleCleanupInTransaction_same hcleanup
  | scheduleConfirmedAdmissionCleanup pubkey channelH runtimeGeneration lifecycleEpoch now =>
      apply commit_invariant (I := SameOutsideStanding store) (.refl store)
      intro answer after hok
      simp only [scheduleConfirmedAdmissionCleanup, bind_eq_ok] at hok
      obtain ⟨_, _, hok⟩ := hok
      split at hok
      · simp only [pure_eq_ok, Prod.mk.injEq] at hok
        exact hok.2 ▸ .refl store
      · simp only [bind_eq_ok] at hok
        obtain ⟨_, hcleanup, hfinish⟩ := hok
        rw [finishAdmissionOutcome_store hfinish]
        exact scheduleCleanupInTransaction_same hcleanup
  | markSessionStandingMemberIfRunning pubkey channelH expectedLifecycleEpoch now =>
      apply commit_invariant (I := SameOutsideStanding store) (.refl store)
      intro epoch after hok
      simp only [markSessionStandingMemberIfRunning, bind_eq_ok] at hok
      obtain ⟨_, _, hok⟩ := hok
      split at hok
      · split at hok
        · simp only [pure_eq_ok, Prod.mk.injEq] at hok
          exact hok.2 ▸ ⟨rfl, rfl, rfl, rfl⟩
        · cases hok
      · simp only [pure_eq_ok, Prod.mk.injEq] at hok
        exact hok.2 ▸ .refl store
  | retainStoppedSessionRoutes pubkey expectedLifecycleEpoch retainUntil now =>
      apply commit_invariant (I := SameOutsideStanding store) (.refl store)
      intro rows after hok
      simp only [retainStoppedSessionRoutes, bind_eq_ok] at hok
      obtain ⟨_, _, hok⟩ := hok
      split at hok
      · simp only [bind_eq_ok, pure_eq_ok, Prod.mk.injEq] at hok
        obtain ⟨_, hretained, _, rfl⟩ := hok
        exact retainInTransaction_same hretained
      · simp only [pure_eq_ok, Prod.mk.injEq] at hok
        exact hok.2 ▸ .refl store
  | markSessionStandingAbsentIfEpoch pubkey channelH expectedState standingEpoch
      sessionLifecycleEpoch now =>
      apply commit_invariant (I := SameOutsideStanding store) (.refl store)
      intro changed after hok
      simp only [markSessionStandingAbsentIfEpoch, bind_eq_ok, pure_eq_ok,
        Prod.mk.injEq] at hok
      obtain ⟨_, _, _, rfl⟩ := hok
      exact ⟨rfl, rfl, rfl, rfl⟩

end Store

end Mosaico
