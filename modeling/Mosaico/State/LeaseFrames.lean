import Mosaico.State.StopEdges

/-!
# What the store operations do to leases and signers

Apart from the allocation of a handle, a lease is written by the operations that
launch a session, that stop one and that touch one.  Each of them writes the leases
of one pubkey in one statement and keeps their handles.  Signers are only ever
deleted, by the finalization of a revocation.
-/

namespace Mosaico

open Relational Transition

namespace Store

/-! ## Operations without a lease -/

/-- The leases and the signers are the same. -/
structure SameLeases (before after : Store) : Prop where
  handleLeases : after.handleLeases = before.handleLeases
  sessionSigners : after.sessionSigners = before.sessionSigners

theorem SameLeases.refl (store : Store) : SameLeases store store := ⟨rfl, rfl⟩

variable {store after : Store} {pubkey : String} {value : Unit} {now generation : Nat}
  {op : StoreOp}

theorem SameLeases.commit {α : Type} {outcome : Except StoreError (α × Store)}
    (hok : ∀ value after, outcome = .ok (value, after) → SameLeases store after) :
    SameLeases store (commit outcome store) :=
  commit_invariant (I := SameLeases store) (.refl store) hok

theorem grantSessionRoute_sameLeases {channelH : String} {grantedAt : Nat}
    (hok : store.grantSessionRoute pubkey channelH grantedAt = .ok (value, after)) :
    SameLeases store after := by
  unfold grantSessionRoute at hok
  split at hok
  · simp only [pure_eq_ok, Prod.mk.injEq] at hok
    exact hok.2 ▸ .refl store
  · simp only [bind_eq_ok, pure_eq_ok, Prod.mk.injEq] at hok
    obtain ⟨_, _, _, rfl⟩ := hok
    exact ⟨rfl, rfl⟩

theorem retainInTransaction_sameLeases {lifecycleEpoch retainUntil : Nat}
    (hok : store.retainInTransaction pubkey lifecycleEpoch retainUntil now = .ok after) :
    SameLeases store after := by
  simp only [retainInTransaction, bind_eq_ok, pure_eq_ok] at hok
  obtain ⟨_, _, rfl⟩ := hok
  exact ⟨rfl, rfl⟩

theorem scheduleCleanupInTransaction_sameLeases
    {channelH : String} {lifecycleEpoch : Nat} {outcome : PendingAdmissionOutcome}
    (hok : store.scheduleCleanupInTransaction pubkey channelH lifecycleEpoch now =
      .ok (outcome, after)) : SameLeases store after := by
  unfold scheduleCleanupInTransaction at hok
  split at hok
  · simp only [pure_eq_ok, Prod.mk.injEq] at hok
    exact hok.2 ▸ .refl store
  · simp only [bind_eq_ok, pure_eq_ok, Prod.mk.injEq] at hok
    obtain ⟨_, _, _, rfl⟩ := hok
    exact ⟨rfl, rfl⟩

theorem standingStep_sameLeases (store : Store) (op : StandingOp) :
    SameLeases store (store.standingStep op) := by
  cases op with
  | grantSessionRoute pubkey channelH grantedAt =>
      exact SameLeases.commit (fun _ _ => grantSessionRoute_sameLeases)
  | revokeSessionRoute pubkey channelH => exact ⟨rfl, rfl⟩
  | revokeRouteAndMarkAbsent pubkey channelH now =>
      refine SameLeases.commit (fun removed after hok => ?_)
      simp only [revokeRouteAndMarkAbsent, revokeSessionRoute, bind_eq_ok, pure_eq_ok] at hok
      obtain ⟨_, _, _, rfl, hok⟩ := hok
      split at hok
      · simp only [pure_eq_ok, Prod.mk.injEq] at hok
        exact hok.2 ▸ ⟨rfl, rfl⟩
      · simp only [pure_eq_ok, Prod.mk.injEq] at hok
        exact hok.2 ▸ ⟨rfl, rfl⟩
  | commitConfirmedSessionAdmission pubkey channelH runtimeGeneration lifecycleEpoch now =>
      refine SameLeases.commit (fun answer after hok => ?_)
      simp only [commitConfirmedSessionAdmission, bind_eq_ok] at hok
      obtain ⟨_, _, hok⟩ := hok
      split at hok
      · simp only [bind_eq_ok, pure_eq_ok, Prod.mk.injEq] at hok
        obtain ⟨_, _, _, rfl⟩ := hok
        exact ⟨rfl, rfl⟩
      · simp only [bind_eq_ok] at hok
        obtain ⟨_, hcleanup, hfinish⟩ := hok
        rw [finishAdmissionOutcome_store hfinish]
        exact scheduleCleanupInTransaction_sameLeases hcleanup
  | scheduleConfirmedAdmissionCleanup pubkey channelH runtimeGeneration lifecycleEpoch now =>
      refine SameLeases.commit (fun answer after hok => ?_)
      simp only [scheduleConfirmedAdmissionCleanup, bind_eq_ok] at hok
      obtain ⟨_, _, hok⟩ := hok
      split at hok
      · simp only [pure_eq_ok, Prod.mk.injEq] at hok
        exact hok.2 ▸ .refl store
      · simp only [bind_eq_ok] at hok
        obtain ⟨_, hcleanup, hfinish⟩ := hok
        rw [finishAdmissionOutcome_store hfinish]
        exact scheduleCleanupInTransaction_sameLeases hcleanup
  | markSessionStandingMemberIfRunning pubkey channelH expectedLifecycleEpoch now =>
      refine SameLeases.commit (fun epoch after hok => ?_)
      simp only [markSessionStandingMemberIfRunning, bind_eq_ok] at hok
      obtain ⟨_, _, hok⟩ := hok
      split at hok
      · split at hok
        · simp only [pure_eq_ok, Prod.mk.injEq] at hok
          exact hok.2 ▸ ⟨rfl, rfl⟩
        · cases hok
      · simp only [pure_eq_ok, Prod.mk.injEq] at hok
        exact hok.2 ▸ .refl store
  | retainStoppedSessionRoutes pubkey expectedLifecycleEpoch retainUntil now =>
      refine SameLeases.commit (fun rows after hok => ?_)
      simp only [retainStoppedSessionRoutes, bind_eq_ok] at hok
      obtain ⟨_, _, hok⟩ := hok
      split at hok
      · simp only [bind_eq_ok, pure_eq_ok, Prod.mk.injEq] at hok
        obtain ⟨_, hretained, _, rfl⟩ := hok
        exact retainInTransaction_sameLeases hretained
      · simp only [pure_eq_ok, Prod.mk.injEq] at hok
        exact hok.2 ▸ .refl store
  | markSessionStandingAbsentIfEpoch pubkey channelH expectedState standingEpoch
      sessionLifecycleEpoch now =>
      refine SameLeases.commit (fun changed after hok => ?_)
      simp only [markSessionStandingAbsentIfEpoch, bind_eq_ok, pure_eq_ok,
        Prod.mk.injEq] at hok
      obtain ⟨_, _, _, rfl⟩ := hok
      exact ⟨rfl, rfl⟩

theorem claimEach_sameLeases (store : Store) (targetPubkey : String) (now : Nat)
    (eventIds : List String) :
    SameLeases store (store.claimEach targetPubkey now eventIds).2 := by
  induction eventIds generalizing store with
  | nil => exact .refl store
  | cons eventId rest ih =>
      simp only [claimEach, claimRows]
      obtain ⟨hleases, hsigners⟩ := ih _
      exact ⟨hleases, hsigners⟩

theorem inboxStep_sameLeases (store : Store) (op : InboxOp) :
    SameLeases store (store.inboxStep op) := by
  cases op with
  | enqueueInbox eventId targetPubkey fromPubkey channelH body createdAt =>
      refine SameLeases.commit (fun fresh after hok => ?_)
      simp only [enqueueInbox, bind_eq_ok] at hok
      obtain ⟨_, _, hok⟩ := hok
      split at hok
      · simp only [pure_eq_ok, Prod.mk.injEq] at hok
        exact hok.2 ▸ ⟨rfl, rfl⟩
      · simp only [pure_eq_ok, Prod.mk.injEq] at hok
        exact hok.2 ▸ ⟨rfl, rfl⟩
  | claimPendingForPubkey targetPubkey now =>
      refine SameLeases.commit (fun claimed after hok => ?_)
      simp only [claimPendingForPubkey, bind_eq_ok, pure_eq_ok, claimRows, Prod.mk.injEq] at hok
      obtain ⟨_, _, _, rfl⟩ := hok
      exact ⟨rfl, rfl⟩
  | claimPendingEventIdsForPubkey eventIds targetPubkey now =>
      refine SameLeases.commit (fun claimed after hok => ?_)
      simp only [claimPendingEventIdsForPubkey, bind_eq_ok, pure_eq_ok, Prod.mk.injEq] at hok
      obtain ⟨_, _, _, rfl⟩ := hok
      exact claimEach_sameLeases store targetPubkey now eventIds
  | reenqueuePending eventIds targetPubkey | consumeInjectedEcho eventIds targetPubkey =>
      exact ⟨rfl, rfl⟩
  | markInjectedForEcho eventIds targetPubkey now =>
      refine SameLeases.commit (fun value after hok => ?_)
      simp only [markInjectedForEcho, bind_eq_ok, pure_eq_ok, Prod.mk.injEq] at hok
      obtain ⟨_, _, _, rfl⟩ := hok
      exact ⟨rfl, rfl⟩

theorem locatorStep_sameLeases (store : Store) (op : LocatorOp) :
    SameLeases store (store.locatorStep op) := by
  have hwrite := locatorStep_write store op
  generalize store.locatorStep op = after at hwrite ⊢
  cases hwrite with
  | locators | readied | touched | unreadied => exact ⟨rfl, rfl⟩

/-- A guarded single statement on the session table. -/
theorem commit_updateSessions_sameLeases (store : Store) (params : List Nat)
    (applies : Session → Prop) [DecidablePred applies] (assign : Session → Session)
    (hkey : ∀ row, (assign row).pubkey = row.pubkey) :
    SameLeases store (commit (do
      bindParams params
      return store.updateSessions applies assign hkey) store) := by
  refine SameLeases.commit (fun changed after hok => ?_)
  simp only [bind_eq_ok, pure_eq_ok, updateSessions, Prod.mk.injEq] at hok
  obtain ⟨_, _, _, rfl⟩ := hok
  exact ⟨rfl, rfl⟩

/-! ## Operations that write leases -/

/-- The session of the pubkey is running or stopping. -/
def InUse (store : Store) (pubkey : String) : Prop :=
  ∃ row, store.sessions.find? pubkey = some row ∧
    (row.runtimeState = .running ∨ row.runtimeState = .stopping)

/-- The session of the pubkey has stopped. -/
def StoppedSession (store : Store) (pubkey : String) : Prop :=
  ∃ row, store.sessions.find? pubkey = some row ∧ row.runtimeState = .stopped

theorem StoppedSession.not_inUse
    (hstopped : store.StoppedSession pubkey) : ¬ store.InUse pubkey := by
  obtain ⟨row, hfind, hstate⟩ := hstopped
  rintro ⟨other, hother, hused⟩
  rw [hfind, Option.some.injEq] at hother
  subst hother
  rw [hstate] at hused
  rcases hused with hused | hused <;> cases hused

theorem inUse_or_stopped {row : Session} (hfind : store.sessions.find? pubkey = some row) :
    store.InUse pubkey ∨ store.StoppedSession pubkey := by
  cases hstate : row.runtimeState with
  | running => exact Or.inl ⟨row, hfind, Or.inl hstate⟩
  | stopping => exact Or.inl ⟨row, hfind, Or.inr hstate⟩
  | stopped => exact Or.inr ⟨row, hfind, hstate⟩

theorem reserveSessionWithFacts_inUse {r : RegisterSession} {facts : AdmittedRuntimeFacts}
    (hok : store.reserveSessionWithFacts r facts = .ok (generation, after)) :
    after.InUse r.pubkey := by
  obtain ⟨_, rfl⟩ := reserveSessionWithFacts_ok hok
  rw [InUse, admitRuntime_sessions, Table.find?_upsert]
  refine ⟨_, if_pos rfl, Or.inl ?_⟩
  cases store.sessions.find? r.pubkey <;> rfl

theorem reserveMcpActorSession_inUse {agentSlug channel : String}
    (hok : store.reserveMcpActorSession pubkey agentSlug channel now = .ok (value, after)) :
    after.InUse pubkey := by
  obtain ⟨hfree, hsessions⟩ := reserveMcpActorSession_ok hok
  rw [InUse, hsessions, Table.find?_insertOrIgnore, hfree]
  exact ⟨_, if_pos rfl, Or.inl rfl⟩

theorem activateMcpActor_inUse {actorKey : String}
    (hok : store.activateMcpActor actorKey pubkey now = .ok (value, after)) :
    after.InUse pubkey := by
  unfold activateMcpActor getSession at hok
  cases hrow : store.sessions.find? pubkey with
  | none =>
      rw [hrow] at hok
      cases hok
  | some row =>
      rw [hrow] at hok
      simp only [bind_eq_ok, pure_eq_ok, Prod.mk.injEq] at hok
      obtain ⟨_, _, _, _, _, _, _, rfl⟩ := hok
      dsimp only [InUse, markHandleLive]
      rw [Table.find?_updateWhere, hrow, Option.map_some]
      exact ⟨_, congrArg some (if_pos (Table.key_of_find? hrow)), Or.inl rfl⟩

/-- The operation finalizes the revocation of the pubkey, whose session is revoked at the
generation it names. -/
def Forgets (store : Store) (pubkey : String) (op : StoreOp) : Prop :=
  ∃ generation now, op = .lifecycle (.finalizeSessionRecoveryRevocation pubkey generation now) ∧
    ∃ row, store.sessions.find? pubkey = some row ∧ row.runtimeGeneration = generation ∧
      row.recoveryState = .revoked

/-- The instant from which a stop of the session counts its leases: that of the stop, but
for an unconditional one the last sight of the session. -/
def LifecycleOp.CountsFrom (store : Store) (pubkey : String) (instant : Nat) : LifecycleOp → Prop
  | .finalizeRuntimeStoppedIfEpoch other _ _ _ stoppedAt => other = pubkey ∧ stoppedAt = instant
  | .markRuntimeStoppedIfGeneration other generation _ _ =>
      other = pubkey ∧ ∃ row, store.sessions.find? pubkey = some row ∧
        isRunningGeneration pubkey generation row ∧ row.lastSeen = instant
  | .finalizeSessionRecoveryRevocation other _ now => other = pubkey ∧ now = instant
  | _ => False

def StoreOp.CountsFrom (store : Store) (pubkey : String) (instant : Nat) : StoreOp → Prop
  | .lifecycle op => LifecycleOp.CountsFrom store pubkey instant op
  | _ => False

/-- One operation writes the leases of at most one pubkey, and only a finalized
revocation deletes its signer. -/
inductive LeaseWrite (store : Store) (op : StoreOp) (after : Store) : Prop
  | kept (hsame : SameLeases store after)
  | touched (pubkey : String) (lastSeen : Nat)
      (hleases : after.handleLeases = (store.touchHandleForPubkey pubkey lastSeen).handleLeases)
      (hsigners : after.sessionSigners = store.sessionSigners)
  | renewed (pubkey : String) (now : Nat)
      (hleases : after.handleLeases = (store.markHandleLive pubkey now).handleLeases)
      (hused : after.InUse pubkey)
      (hsigners : after.sessionSigners = store.sessionSigners)
  | stopped (pubkey : String) (stoppedAt : Nat)
      (hleases : after.handleLeases = (store.markHandleStoppedAt pubkey stoppedAt).handleLeases)
      (hstopped : after.StoppedSession pubkey)
      (hsigners : after.sessionSigners = store.sessionSigners ∨
        store.Forgets pubkey op ∧
          after.sessionSigners = store.sessionSigners.deleteWhere (fun row => row.pubkey = pubkey))
      (hinstant : StoreOp.CountsFrom store pubkey stoppedAt op)

theorem contextStep_leaseWrite (store : Store) (op : ContextOp) :
    LeaseWrite store (.context op) (store.contextStep op) := by
  cases op with
  | recordClaimedHarness pubkey claimedHarness =>
      refine .kept (SameLeases.commit (fun value after hok => ?_))
      unfold recordClaimedHarness at hok
      split at hok
      · simp only [pure_eq_ok, Prod.mk.injEq] at hok
        exact hok.2 ▸ .refl store
      · simp only [pure_eq_ok, Prod.mk.injEq] at hok
        exact hok.2 ▸ ⟨rfl, rfl⟩
  | touchSession pubkey lastSeen =>
      apply commit_invariant (I := LeaseWrite store _) (.kept (.refl store))
      intro value after hok
      simp only [touchSession, bind_eq_ok, pure_eq_ok, Prod.mk.injEq] at hok
      obtain ⟨_, _, _, rfl⟩ := hok
      exact .touched pubkey lastSeen rfl rfl
  | bindRuntimeProcess pubkey runtimeGeneration childPid now =>
      refine .kept (SameLeases.commit (fun value after hok => ?_))
      simp only [bindRuntimeProcess, bind_eq_ok, pure_eq_ok, Prod.mk.injEq] at hok
      obtain ⟨_, _, _, rfl⟩ := hok
      exact ⟨rfl, rfl⟩
  | setSessionTitle pubkey title => exact .kept ⟨rfl, rfl⟩
  | setSessionChannel pubkey channelH now
  | setSessionContext pubkey channelH workRoot readinessParent now =>
      refine .kept (SameLeases.commit (fun value after hok => ?_))
      have hsame := grantSessionRoute_sameLeases hok
      exact ⟨hsame.handleLeases, hsame.sessionSigners⟩
  | advanceCursorIfCurrent pubkey expected seenCursor =>
      exact .kept (commit_updateSessions_sameLeases store _ _ _ _)
  | bindMcpActor actorKey actorKind pubkey now =>
      apply LeaseWrite.kept
      simp only [contextStep, bindMcpActor]
      split
      · exact .refl store
      · split
        · split <;> exact ⟨rfl, rfl⟩
        · split
          · exact .refl store
          · split <;> exact ⟨rfl, rfl⟩

theorem admitRuntime_leases (store : Store) (r : RegisterSession) (facts : AdmittedRuntimeFacts)
    (generation : Nat) :
    (store.admitRuntime r facts generation).handleLeases =
        (store.markHandleLive r.pubkey r.now).handleLeases ∧
      (store.admitRuntime r facts generation).sessionSigners = store.sessionSigners := by
  unfold admitRuntime grantRouteAndInitializeStanding markHandleLive
  dsimp only
  split
  · exact ⟨rfl, rfl⟩
  · split <;> exact ⟨rfl, rfl⟩

/-- A finalized stop ends the leases of its session. -/
theorem finalizeRuntimeStoppedIfEpoch_leases
    {stoppingLifecycleEpoch stoppedAt : Nat} {reason : StopReason} {stopped : Option Session}
    (hok : store.finalizeRuntimeStoppedIfEpoch pubkey generation stoppingLifecycleEpoch reason
      stoppedAt = .ok (stopped, after)) :
    after = store ∨ after.StoppedSession pubkey ∧
      after.handleLeases = (store.markHandleStoppedAt pubkey stoppedAt).handleLeases ∧
      after.sessionSigners = store.sessionSigners := by
  rcases finalizeRuntimeStoppedIfEpoch_spec hok with
    ⟨row, _, _, rfl, hafter⟩ | ⟨_, rfl, _⟩
  · simp only [finalizeRuntimeStoppedIfEpoch, bind_eq_ok, updateSessions,
      decide_eq_true_eq] at hok
    obtain ⟨_, _, hok⟩ := hok
    split at hok
    · split at hok
      · cases hok
      · simp only [bind_eq_ok, pure_eq_ok, Prod.mk.injEq] at hok
        obtain ⟨_, hretained, _, rfl⟩ := hok
        have hsame := retainInTransaction_sameLeases hretained
        exact Or.inr ⟨⟨_, hafter, rfl⟩, hsame.handleLeases, hsame.sessionSigners⟩
    · simp only [pure_eq_ok, Prod.mk.injEq] at hok
      cases hok.1
  · exact Or.inl rfl

/-- So does an unconditional one. -/
theorem markRuntimeStoppedIfGeneration_leases
    {stoppedAt : Nat} {reason : StopReason} {changed : Bool}
    (hok : store.markRuntimeStoppedIfGeneration pubkey generation reason stoppedAt =
      .ok (changed, after)) :
    SameLeases store after ∧ (∀ k, after.sessions.find? k = store.sessions.find? k) ∨
      after.StoppedSession pubkey ∧
        (∃ row, store.sessions.find? pubkey = some row ∧
          isRunningGeneration pubkey generation row ∧
          after.handleLeases = (store.markHandleStoppedAt pubkey row.lastSeen).handleLeases) ∧
        after.sessionSigners = store.sessionSigners := by
  have hspec := markRuntimeStoppedIfGeneration_spec hok
  simp only [markRuntimeStoppedIfGeneration, bind_eq_ok, updateSessions,
    decide_eq_true_eq] at hok
  obtain ⟨_, _, hok⟩ := hok
  split at hok
  · split at hok
    · cases hok
    · rename_i stopped hstopped
      simp only [bind_eq_ok, pure_eq_ok, Prod.mk.injEq] at hok
      obtain ⟨_, hretained, rfl, rfl⟩ := hok
      rcases hspec with ⟨_, row, hrow, hrunning, hafter⟩ | ⟨hchanged, _⟩
      · have hsame := retainInTransaction_sameLeases hretained
        have hseen : stopped.lastSeen = row.lastSeen := by
          dsimp only [getSession] at hstopped
          rw [Table.find?_updateWhere, hrow, Option.map_some, if_pos hrunning] at hstopped
          rw [← Option.some.inj hstopped]
          rfl
        exact Or.inr ⟨⟨_, hafter, rfl⟩, ⟨row, hrow, hrunning, hseen ▸ hsame.handleLeases⟩,
          hsame.sessionSigners⟩
      · cases hchanged
  · simp only [pure_eq_ok, Prod.mk.injEq] at hok
    obtain ⟨rfl, rfl⟩ := hok
    rcases hspec with ⟨hchanged, _⟩ | ⟨_, _, hsame⟩
    · cases hchanged
    · exact Or.inl ⟨⟨rfl, rfl⟩, hsame⟩

theorem finalizeSessionRecoveryRevocation_leaseWrite {changed : Bool}
    (hok : store.finalizeSessionRecoveryRevocation pubkey generation now = .ok (changed, after)) :
    LeaseWrite store (.lifecycle (.finalizeSessionRecoveryRevocation pubkey generation now))
      after := by
  rcases finalize_cases hok with ⟨_, rfl⟩ |
    ⟨row, lifecycleEpoch, rfl, hfind, hrevoked, rfl, hgeneration⟩
  · exact .kept (.refl _)
  · refine .stopped pubkey now rfl ⟨row.stopped .revoked now, ?_, rfl⟩
      (Or.inr ⟨⟨generation, now, rfl, row, hfind, hgeneration, hrevoked⟩, rfl⟩) ⟨rfl, rfl⟩
    have hkey : row.pubkey = pubkey := Table.key_of_find? hfind
    dsimp only [forgetPubkey, expireStanding, initializeStanding, markHandleStoppedAt]
    rw [Table.find?_updateWhere, hfind, Option.map_some]
    exact congrArg some (if_pos ⟨hkey, hgeneration, hrevoked⟩)

theorem activateMcpActor_leases {actorKey : String}
    (hok : store.activateMcpActor actorKey pubkey now = .ok (value, after)) :
    after.handleLeases = (store.markHandleLive pubkey now).handleLeases ∧
      after.sessionSigners = store.sessionSigners := by
  unfold activateMcpActor at hok
  split at hok
  · cases hok
  · simp only [bind_eq_ok, pure_eq_ok, Prod.mk.injEq] at hok
    obtain ⟨_, _, _, _, _, _, _, rfl⟩ := hok
    exact ⟨rfl, rfl⟩

theorem reserveMcpActorSession_sameLeases {agentSlug channel : String}
    (hok : store.reserveMcpActorSession pubkey agentSlug channel now = .ok (value, after)) :
    SameLeases store after := by
  simp only [reserveMcpActorSession, bind_eq_ok] at hok
  obtain ⟨_, _, _, _, hok⟩ := hok
  have hsame := grantSessionRoute_sameLeases hok
  exact ⟨hsame.handleLeases, hsame.sessionSigners⟩

theorem lifecycleStep_leaseWrite (store : Store) (op : LifecycleOp) :
    LeaseWrite store (.lifecycle op) (store.lifecycleStep op) := by
  have hsame : LeaseWrite store (.lifecycle op) store := .kept (.refl store)
  cases op with
  | reserveSessionWithFacts r facts =>
      apply commit_invariant (I := LeaseWrite store _) hsame
      intro generation after hok
      have hused := reserveSessionWithFacts_inUse hok
      obtain ⟨_, rfl⟩ := reserveSessionWithFacts_ok hok
      obtain ⟨hleases, hsigners⟩ := admitRuntime_leases store r facts generation
      exact .renewed r.pubkey r.now hleases hused hsigners
  | applySessionPresentationEdge pubkey generation attachmentEpoch presentation instant
  | markSessionPresentationUnavailable pubkey generation attachmentEpoch instant
  | applySessionTurnStarted pubkey generation instant
  | cancelSessionIdleDeadlineForDelivery pubkey generation
  | cancelIdleEvictionOnPresentationChange pubkey generation stoppingLifecycleEpoch attachmentEpoch presentation instant
  | revokeSessionRecoveryIfGeneration pubkey runtimeGeneration =>
      exact .kept (commit_updateSessions_sameLeases store _ _ _ _)
  | applySessionTurnEnded pubkey generation instant =>
      refine .kept (SameLeases.commit (fun changed after hok => ?_))
      simp only [applySessionTurnEnded, bind_eq_ok, updateSessions, decide_eq_true_eq] at hok
      obtain ⟨_, _, hok⟩ := hok
      split at hok
      · simp only [pure_eq_ok, Prod.mk.injEq] at hok
        exact hok.2 ▸ ⟨rfl, rfl⟩
      · simp only [pure_eq_ok, Prod.mk.injEq] at hok
        exact hok.2 ▸ ⟨rfl, rfl⟩
  | reserveDueIdleEviction pubkey generation lifecycleEpoch attachmentEpoch now =>
      refine .kept (SameLeases.commit (fun reserved after hok => ?_))
      simp only [reserveDueIdleEviction, bind_eq_ok, updateSessions, decide_eq_true_eq] at hok
      obtain ⟨_, _, hok⟩ := hok
      split at hok
      · simp only [pure_eq_ok, Prod.mk.injEq] at hok
        exact hok.2 ▸ ⟨rfl, rfl⟩
      · simp only [pure_eq_ok, Prod.mk.injEq] at hok
        exact hok.2 ▸ ⟨rfl, rfl⟩
  | finalizeRuntimeStoppedIfEpoch pubkey generation stoppingLifecycleEpoch reason stoppedAt =>
      apply commit_invariant (I := LeaseWrite store _) hsame
      intro stopped after hok
      rcases finalizeRuntimeStoppedIfEpoch_leases hok with rfl | ⟨hstopped, hleases, hsigners⟩
      · exact hsame
      · exact .stopped pubkey stoppedAt hleases hstopped (Or.inl hsigners) ⟨rfl, rfl⟩
  | markRuntimeStoppedIfGeneration pubkey generation reason stoppedAt =>
      apply commit_invariant (I := LeaseWrite store _) hsame
      intro changed after hok
      rcases markRuntimeStoppedIfGeneration_leases hok with
        ⟨hkept, _⟩ | ⟨hstopped, ⟨row, hrow, hrunning, hleases⟩, hsigners⟩
      · exact .kept hkept
      · exact .stopped pubkey row.lastSeen hleases hstopped (Or.inl hsigners)
          ⟨rfl, row, hrow, hrunning, rfl⟩
  | finalizeSessionRecoveryRevocation pubkey runtimeGeneration now =>
      exact commit_invariant (I := LeaseWrite store _) hsame
        (fun _ _ => finalizeSessionRecoveryRevocation_leaseWrite)
  | reserveMcpActorSession pubkey agentSlug channel now =>
      exact .kept (SameLeases.commit (fun _ _ => reserveMcpActorSession_sameLeases))
  | activateMcpActor actorKey pubkey now =>
      apply commit_invariant (I := LeaseWrite store _) hsame
      intro value after hok
      obtain ⟨hleases, hsigners⟩ := activateMcpActor_leases hok
      exact .renewed pubkey now hleases (activateMcpActor_inUse hok) hsigners

/-- What every operation of the store does to the leases and the signers. -/
theorem step_leaseWrite (store : Store) (op : StoreOp) :
    LeaseWrite store op (store.step op) := by
  cases op with
  | lifecycle op => exact lifecycleStep_leaseWrite store op
  | inbox op => exact .kept (inboxStep_sameLeases store op)
  | locator op => exact .kept (locatorStep_sameLeases store op)
  | standing op => exact .kept (standingStep_sameLeases store op)
  | context op => exact contextStep_leaseWrite store op

/-! ## Launches -/

/-- The operation launches the session of the pubkey, if it succeeds. -/
def LifecycleOp.Launches (pubkey : String) : LifecycleOp → Prop
  | .reserveSessionWithFacts r _ => r.pubkey = pubkey
  | .reserveMcpActorSession other _ _ _ => other = pubkey
  | .activateMcpActor _ other _ => other = pubkey
  | _ => False

def StoreOp.Launches (pubkey : String) : StoreOp → Prop
  | .lifecycle op => LifecycleOp.Launches pubkey op
  | _ => False

theorem rewrites_launches {row next : Session}
    (hop : op.Rewrites store row next) (hstopped : row.runtimeState = .stopped)
    (hnext : next.runtimeState ≠ .stopped) : StoreOp.Launches row.pubkey op := by
  cases op with
  | lifecycle op =>
      cases op with
      | reserveSessionWithFacts r facts | activateMcpActor actorKey pubkey now => exact hop.1.symm
      | applySessionPresentationEdge =>
          exact absurd (hop.1.1.2.2.symm.trans hstopped) (by decide)
      | markSessionPresentationUnavailable | applySessionTurnStarted | applySessionTurnEnded
      | cancelSessionIdleDeadlineForDelivery =>
          exact absurd (hop.1.2.2.symm.trans hstopped) (by decide)
      | reserveDueIdleEviction =>
          exact absurd (hop.1.2.2.2.2.1.1.symm.trans hstopped) (by decide)
      | cancelIdleEvictionOnPresentationChange =>
          exact absurd (hop.1.2.2.1.symm.trans hstopped) (by decide)
      | finalizeRuntimeStoppedIfEpoch => rw [hop.2.2.2.2] at hnext; exact absurd rfl hnext
      | markRuntimeStoppedIfGeneration => rw [hop.2] at hnext; exact absurd rfl hnext
      | revokeSessionRecoveryIfGeneration => rw [hop.2.2] at hnext; exact absurd hstopped hnext
      | finalizeSessionRecoveryRevocation => rw [hop.2.2.2] at hnext; exact absurd rfl hnext
      | reserveMcpActorSession => exact hop.elim
  | inbox op =>
      cases op with
      | enqueueInbox => exact absurd (hop.2.2.1.symm.trans hstopped) (by decide)
      | _ => exact hop.elim
  | locator op => rw [hop.runtimeState] at hnext; exact absurd hstopped hnext
  | standing op => exact hop.elim
  | context op => rw [hop.1.runtimeState] at hnext; exact absurd hstopped hnext

theorem creates_launches {next : Session} (hop : op.Creates next) :
    StoreOp.Launches next.pubkey op := by
  cases op with
  | lifecycle op =>
      cases op with
      | reserveSessionWithFacts r facts | reserveMcpActorSession pubkey agentSlug channel now =>
          rw [hop]; rfl
      | _ => exact hop.elim
  | inbox op | locator op | standing op | context op => exact hop.elim

/-- A session in use after an operation was in use before, or the operation launched it. -/
theorem inUse_of_step (hused : (store.step op).InUse pubkey) :
    store.InUse pubkey ∨ StoreOp.Launches pubkey op := by
  obtain ⟨next, hnext, hstate⟩ := hused
  have hchange := step_sessionChange store op pubkey
  rw [hnext] at hchange
  have hrunning : next.runtimeState ≠ .stopped := by
    rcases hstate with hstate | hstate <;> rw [hstate] <;> decide
  generalize hafter : some next = after at hchange
  cases hchange with
  | kept => exact Or.inl ⟨next, hafter.symm, hstate⟩
  | rewritten row other hfind hrewrites =>
      cases hafter
      rcases inUse_or_stopped hfind with hinUse | ⟨found, hfound, hstopped⟩
      · exact Or.inl hinUse
      · rw [hfind, Option.some.injEq] at hfound
        subst hfound
        rw [← Table.key_of_find? hfind]
        exact Or.inr (rewrites_launches hrewrites hstopped hrunning)
  | created other hfree hkey hcreates =>
      cases hafter
      rw [← hkey]
      exact Or.inr (creates_launches hcreates)

/-- A launch makes the leases of its pubkey live.  The first session of an MCP actor is
launched without a write of the leases. -/
theorem launched_leases (hlaunches : StoreOp.Launches pubkey op) :
    store.step op = store ∨
      (∃ now, (store.step op).handleLeases = (store.markHandleLive pubkey now).handleLeases) ∨
      (store.sessions.find? pubkey = none ∧ (store.step op).handleLeases = store.handleLeases) := by
  cases op with
  | lifecycle op =>
      cases op with
      | reserveSessionWithFacts r facts =>
          obtain rfl : r.pubkey = pubkey := hlaunches
          show commit (store.reserveSessionWithFacts r facts) store = store ∨ _
          cases hok : store.reserveSessionWithFacts r facts with
          | error error => exact Or.inl rfl
          | ok result =>
              obtain ⟨generation, after⟩ := result
              refine Or.inr (Or.inl ⟨r.now, ?_⟩)
              show (commit (store.reserveSessionWithFacts r facts) store).handleLeases = _
              rw [hok, commit_ok, (reserveSessionWithFacts_ok hok).2]
              exact (admitRuntime_leases store r facts generation).1
      | activateMcpActor actorKey other now =>
          obtain rfl : other = pubkey := hlaunches
          show commit (store.activateMcpActor actorKey other now) store = store ∨ _
          cases hok : store.activateMcpActor actorKey other now with
          | error error => exact Or.inl rfl
          | ok result =>
              refine Or.inr (Or.inl ⟨now, ?_⟩)
              show (commit (store.activateMcpActor actorKey other now) store).handleLeases = _
              rw [hok, commit_ok]
              exact (activateMcpActor_leases hok).1
      | reserveMcpActorSession other agentSlug channel now =>
          obtain rfl : other = pubkey := hlaunches
          show commit (store.reserveMcpActorSession other agentSlug channel now) store = store ∨ _
          cases hok : store.reserveMcpActorSession other agentSlug channel now with
          | error error => exact Or.inl rfl
          | ok result =>
              refine Or.inr (Or.inr ⟨(reserveMcpActorSession_ok hok).1, ?_⟩)
              show (commit (store.reserveMcpActorSession other agentSlug channel now)
                store).handleLeases = _
              rw [hok, commit_ok]
              exact (reserveMcpActorSession_sameLeases hok).handleLeases
      | _ => exact hlaunches.elim
  | inbox op | locator op | standing op | context op => exact hlaunches.elim

/-! ## Ends -/

/-- The operation stops the session of the pubkey, if it applies. -/
def LifecycleOp.Stops (pubkey : String) : LifecycleOp → Prop
  | .finalizeRuntimeStoppedIfEpoch other _ _ _ _ => other = pubkey
  | .markRuntimeStoppedIfGeneration other _ _ _ => other = pubkey
  | .finalizeSessionRecoveryRevocation other _ _ => other = pubkey
  | _ => False

def StoreOp.Stops (pubkey : String) : StoreOp → Prop
  | .lifecycle op => LifecycleOp.Stops pubkey op
  | _ => False

theorem rewrites_stops {row next : Session}
    (hop : op.Rewrites store row next) (hused : row.runtimeState ≠ .stopped)
    (hstopped : next.runtimeState = .stopped) : StoreOp.Stops row.pubkey op := by
  cases op with
  | lifecycle op =>
      cases op with
      | reserveSessionWithFacts r facts => exact absurd hop.2.1 hused
      | finalizeRuntimeStoppedIfEpoch | finalizeSessionRecoveryRevocation => exact hop.1.symm
      | markRuntimeStoppedIfGeneration => exact hop.1.1.symm
      | revokeSessionRecoveryIfGeneration | markSessionPresentationUnavailable
      | applySessionTurnEnded =>
          rw [hop.2.2] at hstopped
          exact absurd hstopped hused
      | applySessionPresentationEdge | applySessionTurnStarted
      | cancelSessionIdleDeadlineForDelivery =>
          rw [hop.2] at hstopped
          exact absurd hstopped hused
      | reserveDueIdleEviction | cancelIdleEvictionOnPresentationChange =>
          rw [hop.2] at hstopped
          cases hstopped
      | reserveMcpActorSession => exact hop.elim
      | activateMcpActor =>
          rw [hop.2.2.2] at hstopped
          cases hstopped
  | inbox op =>
      cases op with
      | enqueueInbox =>
          rw [hop.2.2.2] at hstopped
          exact absurd hstopped hused
      | _ => exact hop.elim
  | locator op =>
      rw [hop.runtimeState] at hstopped
      exact absurd hstopped hused
  | standing op => exact hop.elim
  | context op =>
      rw [hop.1.runtimeState] at hstopped
      exact absurd hstopped hused

/-- The sessions are as they were, or the leases of the pubkey have ended. -/
def KeptOrEnded (store : Store) (pubkey : String) (after : Store) : Prop :=
  (∀ k, after.sessions.find? k = store.sessions.find? k) ∨
    ∃ stoppedAt, after.handleLeases = (store.markHandleStoppedAt pubkey stoppedAt).handleLeases

/-- An operation that stops a session and changes it ends its leases. -/
theorem stops_leases
    (hstops : StoreOp.Stops pubkey op) : store.KeptOrEnded pubkey (store.step op) := by
  cases op with
  | lifecycle op =>
      cases op with
      | finalizeRuntimeStoppedIfEpoch other generation stoppingLifecycleEpoch reason stoppedAt =>
          obtain rfl : other = pubkey := hstops
          apply commit_invariant (I := store.KeptOrEnded other)
          · exact Or.inl (fun _ => rfl)
          · intro stopped after hok
            rcases finalizeRuntimeStoppedIfEpoch_leases hok with rfl | ⟨_, hleases, _⟩
            · exact Or.inl (fun _ => rfl)
            · exact Or.inr ⟨_, hleases⟩
      | markRuntimeStoppedIfGeneration other generation reason stoppedAt =>
          obtain rfl : other = pubkey := hstops
          apply commit_invariant (I := store.KeptOrEnded other)
          · exact Or.inl (fun _ => rfl)
          · intro changed after hok
            rcases markRuntimeStoppedIfGeneration_leases hok with
              ⟨_, hsame⟩ | ⟨_, ⟨_, _, _, hleases⟩, _⟩
            · exact Or.inl hsame
            · exact Or.inr ⟨_, hleases⟩
      | finalizeSessionRecoveryRevocation other generation now =>
          obtain rfl : other = pubkey := hstops
          apply commit_invariant (I := store.KeptOrEnded other)
          · exact Or.inl (fun _ => rfl)
          · intro changed after hok
            rcases finalize_cases hok with ⟨_, rfl⟩ | ⟨_, _, _, _, _, rfl, _⟩
            · exact Or.inl (fun _ => rfl)
            · exact Or.inr ⟨_, rfl⟩
      | _ => exact hstops.elim
  | inbox op | locator op | standing op | context op => exact hstops.elim

/-- When a session leaves use, its leases end. -/
theorem leases_of_end (hused : store.InUse pubkey) (hended : ¬ (store.step op).InUse pubkey) :
    ∃ stoppedAt, (store.step op).handleLeases =
      (store.markHandleStoppedAt pubkey stoppedAt).handleLeases := by
  obtain ⟨row, hrow, hstate⟩ := hused
  obtain ⟨next, hnext, hchange⟩ := step_session op hrow
  obtain ⟨found, hfound, hstopped⟩ := (inUse_or_stopped hnext).resolve_left hended
  rw [hnext, Option.some.injEq] at hfound
  subst hfound
  have hrunning : row.runtimeState ≠ .stopped := by
    rcases hstate with hstate | hstate <;> rw [hstate] <;> decide
  rcases hchange with rfl | hrewrites
  · exact absurd hstopped hrunning
  · have hstops := rewrites_stops hrewrites hrunning hstopped
    rw [Table.key_of_find? hrow] at hstops
    rcases stops_leases hstops with hsame | hleases
    · rw [hsame, hrow, Option.some.injEq] at hnext
      subst hnext
      exact absurd hstopped hrunning
    · exact hleases

end Store

end Mosaico
