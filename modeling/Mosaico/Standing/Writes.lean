import Mosaico.Relational.Versioned
import Mosaico.State.LifecycleFrames
import Mosaico.State.SessionFrames

/-!
# Standing writes of the current lifecycle

Apart from the completion of a relay admission, a write of relay standing
records the lifecycle epoch that the session has when the write commits, and
raises the standing epoch.  `step_standingAdvances` says so for every operation.
-/

namespace Mosaico

open Relational Transition

/-- The operation completes a relay admission. -/
def StoreOp.isAdmission : StoreOp → Bool
  | .standing (.commitConfirmedSessionAdmission _ _ _ _ _) => true
  | .standing (.scheduleConfirmedAdmissionCleanup _ _ _ _ _) => true
  | _ => false

namespace Store

/-- The standing table advances to epochs among the allowed ones. -/
def StandingAdvances (allowed : String × String → Nat → Prop) (before after : Store) : Prop :=
  Advances SessionStanding.standingEpoch SessionStanding.sessionLifecycleEpoch allowed
    before.sessionStanding after.sessionStanding

/-- The lifecycle epoch of the session that a standing key belongs to. -/
def CurrentEpoch (store : Store) (k : String × String) (epoch : Nat) : Prop :=
  ∃ session, store.sessions.find? k.1 = some session ∧ session.lifecycleEpoch = epoch

/-! ## Single statements -/

section Statements

variable {allowed : String × String → Nat → Prop} {store : Store} {pubkey : String}
  {lifecycleEpoch : Nat}

theorem initializeStanding_advances (now : Nat)
    (hallowed : ∀ channelH, allowed (pubkey, channelH) lifecycleEpoch) :
    StandingAdvances allowed store (store.initializeStanding pubkey lifecycleEpoch now) := by
  apply Advances.insertAllOrIgnore
  intro row hrow
  obtain ⟨route, hroute, rfl⟩ := List.mem_map.mp hrow
  have howner : route.pubkey = pubkey := (Table.mem_select.mp hroute).2
  show allowed (route.pubkey, route.channelH) lifecycleEpoch
  rw [howner]
  exact hallowed route.channelH

theorem retainMembers_advances (retainUntil now : Nat)
    (hallowed : ∀ channelH, allowed (pubkey, channelH) lifecycleEpoch) :
    StandingAdvances allowed store
      (store.retainMembers pubkey lifecycleEpoch retainUntil now) := by
  dsimp only [StandingAdvances, retainMembers]
  apply Advances.updateWhere
  · intro row _
    exact Nat.lt_succ_self _
  · rintro row ⟨rfl, _⟩
    exact Or.inr (hallowed row.channelH)

theorem expireStanding_advances (now : Nat)
    (hallowed : ∀ channelH, allowed (pubkey, channelH) lifecycleEpoch) :
    StandingAdvances allowed store (store.expireStanding pubkey lifecycleEpoch now) := by
  dsimp only [StandingAdvances, expireStanding]
  apply Advances.updateWhere
  · intro row _
    exact Nat.lt_succ_self _
  · rintro row rfl
    exact Or.inr (hallowed row.channelH)

theorem upsertMember_advances {channelH : String} (now : Nat)
    (hallowed : allowed (pubkey, channelH) lifecycleEpoch) :
    StandingAdvances allowed store (store.upsertMember pubkey channelH lifecycleEpoch now) := by
  apply Advances.upsert
  · exact hallowed
  · intro old
    exact Nat.lt_succ_self _
  · intro old
    exact hallowed

theorem upsertCleanup_advances {channelH : String} (now : Nat)
    (hallowed : allowed (pubkey, channelH) lifecycleEpoch) :
    StandingAdvances allowed store (store.upsertCleanup pubkey channelH lifecycleEpoch now) := by
  apply Advances.upsert
  · exact hallowed
  · intro old
    exact Nat.lt_succ_self _
  · intro old
    exact hallowed

theorem retainInTransaction_advances {after : Store} {retainUntil now : Nat}
    (hallowed : ∀ channelH, allowed (pubkey, channelH) lifecycleEpoch)
    (hok : store.retainInTransaction pubkey lifecycleEpoch retainUntil now = .ok after) :
    StandingAdvances allowed store after := by
  simp only [retainInTransaction, bind_eq_ok, pure_eq_ok] at hok
  obtain ⟨_, _, rfl⟩ := hok
  exact (initializeStanding_advances now hallowed).trans
    (retainMembers_advances retainUntil now hallowed)

end Statements

/-! ## Session transitions -/

/-- Routes granted to a session inherit its lifecycle epoch. -/
theorem currentEpoch_of_session {store : Store} {pubkey : String} {session : Session}
    (hfind : store.getSession pubkey = some session) (channelH : String) :
    store.CurrentEpoch (pubkey, channelH) session.lifecycleEpoch :=
  ⟨session, hfind, rfl⟩

theorem admitRuntime_advances (store : Store) (r : RegisterSession)
    (facts : AdmittedRuntimeFacts) (generation : Nat) :
    StandingAdvances (store.admitRuntime r facts generation).CurrentEpoch store
      (store.admitRuntime r facts generation) := by
  have hsessions := admitRuntime_sessions store r facts generation
  unfold admitRuntime grantRouteAndInitializeStanding at hsessions ⊢
  dsimp only at hsessions ⊢
  split
  · exact Advances.refl _
  · split
    · exact Advances.refl _
    · rename_i row hrow
      apply Advances.insertOrIgnore
      exact ⟨row, hrow, rfl⟩

theorem retainAfterStop_advances {store stopped after : Store} {pubkey : String}
    {session : Session} {retainUntil now : Nat}
    (hok : stopped.retainInTransaction pubkey session.lifecycleEpoch retainUntil now =
      .ok after)
    (hstopped : stopped.sessionStanding = store.sessionStanding)
    (hfind : stopped.getSession pubkey = some session) :
    StandingAdvances after.CurrentEpoch store after := by
  have hsessions := (retainInTransaction_same hok).sessions
  have hadvances : StandingAdvances after.CurrentEpoch stopped after := by
    refine retainInTransaction_advances (fun channelH => ⟨session, ?_, rfl⟩) hok
    rw [hsessions]
    exact hfind
  exact (Advances.of_eq hstopped).trans hadvances

theorem finalizeRuntimeStoppedIfEpoch_advances {store after : Store} {pubkey : String}
    {generation stoppingLifecycleEpoch stoppedAt : Nat} {reason : StopReason}
    {stopped : Option Session}
    (hok : store.finalizeRuntimeStoppedIfEpoch pubkey generation stoppingLifecycleEpoch reason
      stoppedAt = .ok (stopped, after)) :
    StandingAdvances after.CurrentEpoch store after := by
  simp only [finalizeRuntimeStoppedIfEpoch, bind_eq_ok, updateSessions, decide_eq_true_eq] at hok
  obtain ⟨_, _, hok⟩ := hok
  split at hok
  · split at hok
    · cases hok
    · rename_i session hfind
      simp only [bind_eq_ok, pure_eq_ok, Prod.mk.injEq] at hok
      obtain ⟨_, hretained, _, rfl⟩ := hok
      exact retainAfterStop_advances hretained rfl hfind
  · simp only [pure_eq_ok, Prod.mk.injEq] at hok
    obtain ⟨_, rfl⟩ := hok
    exact Advances.refl _

theorem markRuntimeStoppedIfGeneration_advances {store after : Store} {pubkey : String}
    {generation stoppedAt : Nat} {reason : StopReason} {changed : Bool}
    (hok : store.markRuntimeStoppedIfGeneration pubkey generation reason stoppedAt =
      .ok (changed, after)) :
    StandingAdvances after.CurrentEpoch store after := by
  simp only [markRuntimeStoppedIfGeneration, bind_eq_ok, updateSessions, decide_eq_true_eq] at hok
  obtain ⟨_, _, hok⟩ := hok
  split at hok
  · split at hok
    · cases hok
    · rename_i session hfind
      simp only [bind_eq_ok, pure_eq_ok, Prod.mk.injEq] at hok
      obtain ⟨_, hretained, _, rfl⟩ := hok
      exact retainAfterStop_advances hretained rfl hfind
  · simp only [pure_eq_ok, Prod.mk.injEq] at hok
    obtain ⟨_, rfl⟩ := hok
    exact Advances.refl _

theorem finalizeSessionRecoveryRevocation_advances {store after : Store} {pubkey : String}
    {runtimeGeneration now : Nat} {changed : Bool}
    (hok : store.finalizeSessionRecoveryRevocation pubkey runtimeGeneration now =
      .ok (changed, after)) :
    StandingAdvances after.CurrentEpoch store after := by
  simp only [finalizeSessionRecoveryRevocation, bind_eq_ok, updateSessions,
    decide_eq_true_eq] at hok
  obtain ⟨_, _, hok⟩ := hok
  split at hok
  · split at hok
    · cases hok
    · rename_i session hfind
      simp only [pure_eq_ok, Prod.mk.injEq] at hok
      obtain ⟨_, rfl⟩ := hok
      exact (initializeStanding_advances now (fun channelH => ⟨session, hfind, rfl⟩)).trans
        (expireStanding_advances now (fun channelH => ⟨session, hfind, rfl⟩))
  · simp only [pure_eq_ok, Prod.mk.injEq] at hok
    obtain ⟨_, rfl⟩ := hok
    exact Advances.refl _

theorem lifecycleStep_standingAdvances (store : Store) (op : LifecycleOp) :
    StandingAdvances (store.lifecycleStep op).CurrentEpoch store (store.lifecycleStep op) := by
  cases hop : updatesSessionsOnly op with
  | true => exact Advances.of_eq (lifecycleStep_sameOutsideSessions store hop).sessionStanding
  | false =>
      let kept := fun after : Store => StandingAdvances after.CurrentEpoch store after
      have hrefl : kept store := Advances.refl _
      cases op with
      | reserveSessionWithFacts r facts =>
          apply commit_invariant (I := kept) hrefl
          intro generation after hok
          obtain ⟨_, rfl⟩ := reserveSessionWithFacts_ok hok
          exact admitRuntime_advances store r facts generation
      | applySessionTurnEnded pubkey generation instant =>
          apply commit_invariant (I := kept) hrefl
          intro changed after hok
          simp only [applySessionTurnEnded, bind_eq_ok, updateSessions, decide_eq_true_eq] at hok
          obtain ⟨_, _, hok⟩ := hok
          split at hok
          · simp only [pure_eq_ok, Prod.mk.injEq] at hok
            exact hok.2 ▸ Advances.refl _
          · simp only [pure_eq_ok, Prod.mk.injEq] at hok
            exact hok.2 ▸ Advances.refl _
      | finalizeRuntimeStoppedIfEpoch pubkey generation stoppingLifecycleEpoch reason stoppedAt =>
          exact commit_invariant (I := kept) hrefl
            (fun _ _ => finalizeRuntimeStoppedIfEpoch_advances)
      | markRuntimeStoppedIfGeneration pubkey generation reason stoppedAt =>
          exact commit_invariant (I := kept) hrefl
            (fun _ _ => markRuntimeStoppedIfGeneration_advances)
      | finalizeSessionRecoveryRevocation pubkey runtimeGeneration now =>
          exact commit_invariant (I := kept) hrefl
            (fun _ _ => finalizeSessionRecoveryRevocation_advances)
      | reserveMcpActorSession pubkey agentSlug channel now =>
          apply commit_invariant (I := kept) hrefl
          intro value after hok
          exact Advances.of_eq (reserveMcpActorSession_same hok).2.2
      | _ => cases hop

/-! ## Routes and standing -/

theorem standingStep_standingAdvances (store : Store) {op : StandingOp}
    (hop : StoreOp.isAdmission (.standing op) = false) :
    StandingAdvances store.CurrentEpoch store (store.standingStep op) := by
  let kept := StandingAdvances store.CurrentEpoch store
  have hrefl : kept store := Advances.refl _
  cases op with
  | grantSessionRoute pubkey channelH grantedAt =>
      apply commit_invariant (I := kept) hrefl
      intro value after hok
      exact Advances.of_eq (grantSessionRoute_sessionStanding hok)
  | revokeSessionRoute pubkey channelH => exact Advances.refl _
  | revokeRouteAndMarkAbsent pubkey channelH now =>
      apply commit_invariant (I := kept) hrefl
      intro removed after hok
      simp only [revokeRouteAndMarkAbsent, revokeSessionRoute, bind_eq_ok, pure_eq_ok] at hok
      obtain ⟨_, _, _, rfl, hok⟩ := hok
      split at hok
      · simp only [pure_eq_ok, Prod.mk.injEq] at hok
        exact hok.2 ▸ Advances.refl _
      · rename_i session hfind
        simp only [pure_eq_ok, Prod.mk.injEq] at hok
        obtain ⟨_, rfl⟩ := hok
        have hcurrent := currentEpoch_of_session hfind channelH
        apply Advances.upsert
        · exact hcurrent
        · intro old
          exact Nat.lt_succ_self _
        · intro old
          exact hcurrent
  | commitConfirmedSessionAdmission pubkey channelH runtimeGeneration lifecycleEpoch now
  | scheduleConfirmedAdmissionCleanup pubkey channelH runtimeGeneration lifecycleEpoch now =>
      cases hop
  | markSessionStandingMemberIfRunning pubkey channelH expectedLifecycleEpoch now =>
      apply commit_invariant (I := kept) hrefl
      intro epoch after hok
      simp only [markSessionStandingMemberIfRunning, bind_eq_ok] at hok
      obtain ⟨_, _, hok⟩ := hok
      split at hok
      · rename_i hrunning
        obtain ⟨session, hfind, _, hepoch, _⟩ := Table.any_key_iff.mp hrunning
        split at hok
        · simp only [pure_eq_ok, Prod.mk.injEq] at hok
          obtain ⟨_, rfl⟩ := hok
          exact upsertMember_advances now ⟨session, hfind, hepoch⟩
        · cases hok
      · simp only [pure_eq_ok, Prod.mk.injEq] at hok
        exact hok.2 ▸ hrefl
  | retainStoppedSessionRoutes pubkey expectedLifecycleEpoch retainUntil now =>
      apply commit_invariant (I := kept) hrefl
      intro rows after hok
      simp only [retainStoppedSessionRoutes, bind_eq_ok] at hok
      obtain ⟨_, _, hok⟩ := hok
      split at hok
      · rename_i hstopped
        obtain ⟨session, hfind, _, hepoch⟩ := Table.any_key_iff.mp hstopped
        simp only [bind_eq_ok, pure_eq_ok, Prod.mk.injEq] at hok
        obtain ⟨_, hretained, _, rfl⟩ := hok
        exact retainInTransaction_advances (fun channelH => ⟨session, hfind, hepoch⟩) hretained
      · simp only [pure_eq_ok, Prod.mk.injEq] at hok
        exact hok.2 ▸ hrefl
  | markSessionStandingAbsentIfEpoch pubkey channelH expectedState standingEpoch
      sessionLifecycleEpoch now =>
      apply commit_invariant (I := kept) hrefl
      intro changed after hok
      simp only [markSessionStandingAbsentIfEpoch, bind_eq_ok, pure_eq_ok, Prod.mk.injEq] at hok
      obtain ⟨_, _, _, rfl⟩ := hok
      dsimp only [kept, StandingAdvances]
      apply Advances.updateWhere
      · intro row _
        exact Nat.lt_succ_self _
      · intro row _
        exact Or.inl rfl

/-! ## Every operation but the completions -/

theorem step_standingAdvances (store : Store) {op : StoreOp} (hop : op.isAdmission = false) :
    StandingAdvances (store.step op).CurrentEpoch store (store.step op) := by
  cases op with
  | lifecycle op => exact lifecycleStep_standingAdvances store op
  | inbox op => exact Advances.of_eq (inboxStep_same store op).1.sessionStanding
  | locator op => exact Advances.of_eq (locatorStep_effect store op).sessionStanding
  | standing op =>
      have hsessions : (store.step (.standing op)).CurrentEpoch = store.CurrentEpoch := by
        funext k epoch
        rw [CurrentEpoch, step, (standingStep_same store op).sessions]
        rfl
      rw [hsessions]
      exact standingStep_standingAdvances store hop
  | context op => exact Advances.of_eq (contextStep_effect store op).sessionStanding

end Store

end Mosaico
