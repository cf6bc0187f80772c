import Mosaico.State.SessionEdges

/-!
# Every change of the session table

Most operations leave the `sessions` table alone or write only columns without
lifecycle meaning.  With those frame facts, `step_sessionChange` says that
`StoreOp.Rewrites` and `StoreOp.Creates` are all that ever happens to a session
row, and the invariants of the lifecycle are proved from these two definitions
without unfolding an operation again.
-/

namespace Mosaico

open Relational Transition

namespace Store

/-! ## Operations that leave the session table alone -/

/-- The tables that the inbox clients do not concern are the same. -/
structure SameOutsideInbox (before after : Store) : Prop where
  sessionChannels : after.sessionChannels = before.sessionChannels
  sessionStanding : after.sessionStanding = before.sessionStanding
  sessionLocators : after.sessionLocators = before.sessionLocators

theorem claimEach_same (store : Store) (targetPubkey : String) (now : Nat)
    (eventIds : List String) :
    SameOutsideInbox store (store.claimEach targetPubkey now eventIds).2 ∧
      (store.claimEach targetPubkey now eventIds).2.sessions = store.sessions := by
  induction eventIds generalizing store with
  | nil => exact ⟨⟨rfl, rfl, rfl⟩, rfl⟩
  | cons eventId rest ih =>
      simp only [claimEach, claimRows]
      obtain ⟨hsame, hsessions⟩ := ih _
      exact ⟨⟨hsame.sessionChannels, hsame.sessionStanding, hsame.sessionLocators⟩, hsessions⟩

/-- The inbox clients touch, next to the ledger, only the recipient's session,
and that only when a new row arrives. -/
theorem inboxStep_same (store : Store) (op : InboxOp) :
    SameOutsideInbox store (store.inboxStep op) ∧
      ((store.inboxStep op).sessions = store.sessions ∨
        ∃ eventId targetPubkey fromPubkey channelH body createdAt,
          op = .enqueueInbox eventId targetPubkey fromPubkey channelH body createdAt) := by
  let kept := fun after : Store =>
    SameOutsideInbox store after ∧ after.sessions = store.sessions
  have hsame : kept store := ⟨⟨rfl, rfl, rfl⟩, rfl⟩
  cases op with
  | enqueueInbox eventId targetPubkey fromPubkey channelH body createdAt =>
      refine ⟨?_, Or.inr ⟨_, _, _, _, _, _, rfl⟩⟩
      apply commit_invariant (I := SameOutsideInbox store) hsame.1
      intro fresh after hok
      simp only [enqueueInbox, bind_eq_ok] at hok
      obtain ⟨_, _, hok⟩ := hok
      split at hok
      · simp only [pure_eq_ok, Prod.mk.injEq] at hok
        exact hok.2 ▸ ⟨rfl, rfl, rfl⟩
      · simp only [pure_eq_ok, Prod.mk.injEq] at hok
        exact hok.2 ▸ ⟨rfl, rfl, rfl⟩
  | claimPendingForPubkey targetPubkey now =>
      refine And.imp_right Or.inl (commit_invariant (I := kept) hsame ?_)
      intro claimed after hok
      simp only [claimPendingForPubkey, bind_eq_ok, pure_eq_ok, claimRows,
        Prod.mk.injEq] at hok
      obtain ⟨_, _, _, rfl⟩ := hok
      exact ⟨⟨rfl, rfl, rfl⟩, rfl⟩
  | claimPendingEventIdsForPubkey eventIds targetPubkey now =>
      refine And.imp_right Or.inl (commit_invariant (I := kept) hsame ?_)
      intro claimed after hok
      simp only [claimPendingEventIdsForPubkey, bind_eq_ok, pure_eq_ok, Prod.mk.injEq] at hok
      obtain ⟨_, _, _, rfl⟩ := hok
      exact claimEach_same store targetPubkey now eventIds
  | reenqueuePending eventIds targetPubkey | consumeInjectedEcho eventIds targetPubkey =>
      exact ⟨⟨rfl, rfl, rfl⟩, Or.inl rfl⟩
  | markInjectedForEcho eventIds targetPubkey now =>
      refine And.imp_right Or.inl (commit_invariant (I := kept) hsame ?_)
      intro value after hok
      simp only [markInjectedForEcho, bind_eq_ok, pure_eq_ok, Prod.mk.injEq] at hok
      obtain ⟨_, _, _, rfl⟩ := hok
      exact ⟨⟨rfl, rfl, rfl⟩, rfl⟩

/-! ## Operations that keep the lifecycle columns -/

/-- Two rows agree on the lifecycle and on the recovery state. -/
def SameLifecycleAndRecovery (row next : Session) : Prop :=
  row.SameLifecycle next ∧ next.recoveryState = row.recoveryState

theorem SameLifecycleAndRecovery.refl (row : Session) : SameLifecycleAndRecovery row row :=
  ⟨Session.SameLifecycle.refl row, rfl⟩

/-- What an operation on columns without lifecycle meaning can change. -/
structure ContextEffect (before after : Store) : Prop where
  sessions : before.sessions.RelatedBy SameLifecycleAndRecovery after.sessions
  sessionStanding : after.sessionStanding = before.sessionStanding
  sessionLocators : after.sessionLocators = before.sessionLocators
  inbox : after.inbox = before.inbox

theorem ContextEffect.refl (store : Store) : ContextEffect store store :=
  ⟨Table.RelatedBy.refl SameLifecycleAndRecovery.refl store.sessions, rfl, rfl, rfl⟩

/-- A route grant after a context write keeps the effect of the write. -/
theorem ContextEffect.grant {before middle after : Store} {pubkey channelH : String}
    {grantedAt : Nat} {value : Unit} (hwrite : ContextEffect before middle)
    (hok : middle.grantSessionRoute pubkey channelH grantedAt = .ok (value, after)) :
    ContextEffect before after := by
  have hsame := grantSessionRoute_same hok
  refine ⟨?_, ?_, ?_, ?_⟩
  · rw [hsame.sessions]
    exact hwrite.sessions
  · rw [grantSessionRoute_sessionStanding hok]
    exact hwrite.sessionStanding
  · rw [hsame.sessionLocators]
    exact hwrite.sessionLocators
  · rw [hsame.inbox]
    exact hwrite.inbox

theorem contextStep_effect (store : Store) (op : ContextOp) :
    ContextEffect store (store.contextStep op) := by
  cases op with
  | recordClaimedHarness pubkey claimedHarness =>
      apply commit_invariant (I := ContextEffect store) (.refl store)
      intro value after hok
      unfold recordClaimedHarness at hok
      split at hok
      · simp only [pure_eq_ok, Prod.mk.injEq] at hok
        exact hok.2 ▸ .refl store
      · simp only [pure_eq_ok, Prod.mk.injEq] at hok
        obtain ⟨_, rfl⟩ := hok
        refine ⟨?_, rfl, rfl, rfl⟩
        dsimp only
        exact Table.RelatedBy.updateWhere SameLifecycleAndRecovery.refl
          (fun row _ _ => ⟨⟨rfl, rfl, rfl, rfl, rfl, rfl, rfl, rfl, rfl, rfl, rfl⟩, rfl⟩)
  | touchSession pubkey lastSeen =>
      apply commit_invariant (I := ContextEffect store) (.refl store)
      intro value after hok
      simp only [touchSession, bind_eq_ok, pure_eq_ok, Prod.mk.injEq] at hok
      obtain ⟨_, _, _, rfl⟩ := hok
      refine ⟨?_, rfl, rfl, rfl⟩
      dsimp only [touchHandleForPubkey]
      exact Table.RelatedBy.updateWhere SameLifecycleAndRecovery.refl
        (fun row _ _ => ⟨⟨rfl, rfl, rfl, rfl, rfl, rfl, rfl, rfl, rfl, rfl, rfl⟩, rfl⟩)
  | bindRuntimeProcess pubkey runtimeGeneration childPid now =>
      apply commit_invariant (I := ContextEffect store) (.refl store)
      intro value after hok
      simp only [bindRuntimeProcess, bind_eq_ok, pure_eq_ok, Prod.mk.injEq] at hok
      obtain ⟨_, _, _, rfl⟩ := hok
      refine ⟨?_, rfl, rfl, rfl⟩
      dsimp only
      exact Table.RelatedBy.updateWhere SameLifecycleAndRecovery.refl
        (fun row _ _ => ⟨⟨rfl, rfl, rfl, rfl, rfl, rfl, rfl, rfl, rfl, rfl, rfl⟩, rfl⟩)
  | setSessionTitle pubkey title =>
      show ContextEffect store (commit (store.setSessionTitle pubkey title) store)
      apply commit_invariant (I := ContextEffect store) (.refl store)
      intro value after hok
      simp only [setSessionTitle, pure_eq_ok, Prod.mk.injEq] at hok
      obtain ⟨_, rfl⟩ := hok
      refine ⟨?_, rfl, rfl, rfl⟩
      dsimp only
      exact Table.RelatedBy.updateWhere SameLifecycleAndRecovery.refl
        (fun row _ _ => ⟨⟨rfl, rfl, rfl, rfl, rfl, rfl, rfl, rfl, rfl, rfl, rfl⟩, rfl⟩)
  | setSessionChannel pubkey channelH now
  | setSessionContext pubkey channelH workRoot readinessParent now =>
      apply commit_invariant (I := ContextEffect store) (.refl store)
      intro value after hok
      refine ContextEffect.grant ?_ hok
      refine ⟨?_, rfl, rfl, rfl⟩
      dsimp only
      exact Table.RelatedBy.updateWhere SameLifecycleAndRecovery.refl
        (fun row _ _ => ⟨⟨rfl, rfl, rfl, rfl, rfl, rfl, rfl, rfl, rfl, rfl, rfl⟩, rfl⟩)
  | advanceCursorIfCurrent pubkey expected seenCursor =>
      apply commit_invariant (I := ContextEffect store) (.refl store)
      intro value after hok
      simp only [advanceCursorIfCurrent, bind_eq_ok, pure_eq_ok, updateSessions,
        Prod.mk.injEq] at hok
      obtain ⟨_, _, _, rfl⟩ := hok
      refine ⟨?_, rfl, rfl, rfl⟩
      dsimp only
      exact Table.RelatedBy.updateWhere SameLifecycleAndRecovery.refl
        (fun row _ _ => ⟨⟨rfl, rfl, rfl, rfl, rfl, rfl, rfl, rfl, rfl, rfl, rfl⟩, rfl⟩)
  | bindMcpActor actorKey actorKind pubkey now =>
      simp only [contextStep, bindMcpActor]
      split
      · exact .refl store
      · split
        · split
          · exact .refl store
          · exact ⟨Table.RelatedBy.refl SameLifecycleAndRecovery.refl store.sessions,
              rfl, rfl, rfl⟩
        · split
          · exact .refl store
          · split
            · exact ⟨Table.RelatedBy.refl SameLifecycleAndRecovery.refl store.sessions,
                rfl, rfl, rfl⟩
            · exact ⟨Table.RelatedBy.refl SameLifecycleAndRecovery.refl store.sessions,
                rfl, rfl, rfl⟩

/-! ## Locator operations -/

section Writes

variable {store after : Store} {harness locatorKind locatorValue nativeResume pubkey owner : String}
  {createdAt now : Nat} {value : Unit}

/-- A put upserts one row, and readies the recovery of the session or shows its new path. -/
theorem putSessionLocator_ok
    (hok : store.putSessionLocator harness locatorKind locatorValue pubkey createdAt =
      .ok (value, after)) :
    ∃ session, store.getSession pubkey = some session ∧ createdAt ≤ Rust.i64Max ∧
      (locatorKind = locatorNativeResume ∧ session.recoveryState ≠ .revoked ∧
          after = (store.writeLocator harness locatorKind locatorValue pubkey 0
            createdAt).markReady pubkey ∨
        locatorKind ≠ locatorNativeResume ∧
          (after = (store.writeLocator harness locatorKind locatorValue pubkey
              session.runtimeGeneration createdAt).touchIdleRunning pubkey
                session.runtimeGeneration createdAt ∨
            after = store.writeLocator harness locatorKind locatorValue pubkey
              session.runtimeGeneration createdAt)) := by
  simp only [putSessionLocator, bind_eq_ok] at hok
  obtain ⟨_, _, hok⟩ := hok
  split at hok
  · cases hok
  rename_i session hsession
  split at hok <;> rename_i hkind
  · simp only [bind_eq_ok, ensure_eq_ok, bindParams_eq_ok, List.mem_singleton, forall_eq,
      pure_eq_ok, Prod.mk.injEq] at hok
    obtain ⟨_, hrevoked, _, hbound, _, rfl⟩ := hok
    exact ⟨session, hsession, hbound, Or.inl ⟨hkind, hrevoked, rfl⟩⟩
  · simp only [bind_eq_ok, bindParams_eq_ok, List.mem_singleton, forall_eq] at hok
    obtain ⟨_, hbound, hok⟩ := hok
    refine ⟨session, hsession, hbound, Or.inr ⟨hkind, ?_⟩⟩
    split at hok
    · simp only [pure_eq_ok, Prod.mk.injEq] at hok
      exact Or.inl hok.2.symm
    · simp only [pure_eq_ok, Prod.mk.injEq] at hok
      exact Or.inr hok.2.symm

/-- A claim names the holder of the locator, or binds a locator that nobody holds. -/
theorem claimNativeResumeLocator_ok
    (hok : store.claimNativeResumeLocator pubkey harness nativeResume now = .ok (owner, after)) :
    ∃ session, store.getSession pubkey = some session ∧ session.recoveryState ≠ .revoked ∧
      ((∃ held, store.sessionLocators.find? (harness, locatorNativeResume, nativeResume) =
          some held ∧ owner = held.pubkey ∧ after = store) ∨
        store.sessionLocators.find? (harness, locatorNativeResume, nativeResume) = none ∧
          ¬ store.hasNativeResume pubkey ∧ now ≤ Rust.i64Max ∧ owner = pubkey ∧
          after = markReady { store with
            sessionLocators := store.sessionLocators.insertOrIgnore
              ⟨harness, locatorNativeResume, nativeResume, pubkey, 0, now⟩ } pubkey) := by
  unfold claimNativeResumeLocator at hok
  split at hok
  · cases hok
  rename_i session hsession
  simp only [bind_eq_ok, ensure_eq_ok] at hok
  obtain ⟨_, hrevoked, hok⟩ := hok
  refine ⟨session, hsession, hrevoked, ?_⟩
  split at hok
  · rename_i held hheld
    simp only [pure_eq_ok, Prod.mk.injEq] at hok
    exact Or.inl ⟨held, hheld, hok.1.symm, hok.2.symm⟩
  · rename_i hfree
    simp only [bind_eq_ok, ensure_eq_ok, bindParams_eq_ok, List.mem_singleton, forall_eq,
      pure_eq_ok, Prod.mk.injEq] at hok
    obtain ⟨_, hunowned, _, hbound, rfl, rfl⟩ := hok
    exact Or.inr ⟨hfree, hunowned, hbound, rfl, rfl⟩

/-- What a locator operation writes: its own table, and at most one column of the sessions. -/
inductive LocatorWrite (before : Store) : Store → Prop
  | locators (locators : Table SessionLocator.key) :
      LocatorWrite before { before with sessionLocators := locators }
  | readied (locators : Table SessionLocator.key) (pubkey : String) :
      LocatorWrite before (markReady { before with sessionLocators := locators } pubkey)
  | touched (locators : Table SessionLocator.key) (pubkey : String) (generation instant : Nat) :
      LocatorWrite before
        (touchIdleRunning { before with sessionLocators := locators } pubkey generation instant)
  | unreadied (locators : Table SessionLocator.key) (pubkey : String) :
      LocatorWrite before { before with
        sessionLocators := locators
        sessions := before.sessions.updateWhere
          (fun row => row.pubkey = pubkey ∧ row.recoveryState = .ready)
          (fun row => { row with recoveryState := .pending }) }

theorem LocatorWrite.refl (store : Store) : LocatorWrite store store :=
  .locators store.sessionLocators

theorem putSessionLocator_write
    (hok : store.putSessionLocator harness locatorKind locatorValue pubkey createdAt =
      .ok (value, after)) : LocatorWrite store after := by
  obtain ⟨session, -, -, ⟨-, -, rfl⟩ | ⟨-, rfl | rfl⟩⟩ := putSessionLocator_ok hok
  · exact .readied _ pubkey
  · exact .touched _ pubkey session.runtimeGeneration createdAt
  · exact .locators _

theorem locatorStep_write (store : Store) (op : LocatorOp) :
    LocatorWrite store (store.locatorStep op) := by
  cases op with
  | putSessionLocator harness locatorKind locatorValue pubkey createdAt =>
      exact commit_invariant (I := LocatorWrite store) (.refl store)
        (fun _ _ => putSessionLocator_write)
  | setNativeResumeLocator pubkey harness nativeResume now =>
      apply commit_invariant (I := LocatorWrite store) (.refl store)
      intro value after hok
      simp only [setNativeResumeLocator, bind_eq_ok] at hok
      obtain ⟨_, _, hok⟩ := hok
      exact putSessionLocator_write hok
  -- A locator that is held already is not written.
  | claimNativeResumeLocator pubkey harness nativeResume now =>
      apply commit_invariant (I := LocatorWrite store) (.refl store)
      intro owner after hok
      obtain ⟨_, _, _, ⟨_, _, _, rfl⟩ | ⟨_, _, _, _, rfl⟩⟩ := claimNativeResumeLocator_ok hok
      · exact .refl _
      · exact .readied _ pubkey
  | clearLocatorKind pubkey locatorKind =>
      apply commit_invariant (I := LocatorWrite store) (.refl store)
      intro value after hok
      simp only [clearLocatorKind, bind_eq_ok] at hok
      obtain ⟨_, _, hok⟩ := hok
      split at hok
      · cases hok
        exact .unreadied _ pubkey
      · cases hok
        exact .locators _
  | clearRuntimeLocatorIfGeneration pubkey locatorKind runtimeGeneration now =>
      apply commit_invariant (I := LocatorWrite store) (.refl store)
      intro removed after hok
      simp only [clearRuntimeLocatorIfGeneration, bind_eq_ok] at hok
      obtain ⟨_, _, _, _, hok⟩ := hok
      split at hok
      · simp only [bind_eq_ok, pure_eq_ok, Prod.mk.injEq] at hok
        obtain ⟨_, _, _, rfl⟩ := hok
        exact .touched _ pubkey runtimeGeneration now
      · cases hok
        exact .locators _
  | clearSessionLocatorKind pubkey harness locatorKind =>
      apply commit_invariant (I := LocatorWrite store) (.refl store)
      intro value after hok
      simp only [clearSessionLocatorKind, bind_eq_ok, pure_eq_ok, Prod.mk.injEq] at hok
      obtain ⟨_, _, _, rfl⟩ := hok
      exact .locators _

/-- What a locator operation can change. -/
structure LocatorEffect (before after : Store) : Prop where
  sessions : before.sessions.RelatedBy Session.SameLifecycle after.sessions
  sessionChannels : after.sessionChannels = before.sessionChannels
  sessionStanding : after.sessionStanding = before.sessionStanding
  inbox : after.inbox = before.inbox

theorem LocatorWrite.effect (hwrite : LocatorWrite store after) : LocatorEffect store after := by
  cases hwrite with
  | locators =>
      exact ⟨Table.RelatedBy.refl Session.SameLifecycle.refl store.sessions, rfl, rfl, rfl⟩
  | readied | touched | unreadied =>
      refine ⟨?_, rfl, rfl, rfl⟩
      dsimp only [markReady, touchIdleRunning]
      exact Table.RelatedBy.updateWhere Session.SameLifecycle.refl
        (fun row _ _ => ⟨rfl, rfl, rfl, rfl, rfl, rfl, rfl, rfl, rfl, rfl, rfl⟩)

end Writes

theorem locatorStep_effect (store : Store) (op : LocatorOp) :
    LocatorEffect store (store.locatorStep op) :=
  (locatorStep_write store op).effect

/-! ## Every operation -/

/-- A rewriting operation, in the form of `SessionChange`. -/
private theorem commit_change {α : Type} {store : Store}
    {outcome : Except StoreError (α × Store)} {op : StoreOp}
    {applies : Session → Prop} {assign : Session → Session} {k : String}
    (hok : ∀ value after, outcome = .ok (value, after) →
      SessionsRewritten store after applies assign)
    (hop : ∀ row, applies row → op.Rewrites store row (assign row)) :
    SessionChange store op k ((commit outcome store).sessions.find? k) := by
  cases houtcome : outcome with
  | error error => exact .kept
  | ok result =>
      apply SessionChange.of_related (hok result.1 result.2 houtcome k)
      rintro row next (rfl | ⟨happlies, rfl⟩)
      · exact Or.inl rfl
      · exact Or.inr (hop row happlies)

private theorem reserve_change {store after : Store} {r : RegisterSession}
    {facts : AdmittedRuntimeFacts} {generation : Nat}
    (hok : store.reserveSessionWithFacts r facts = .ok (generation, after)) (k : String) :
    SessionChange store (.lifecycle (.reserveSessionWithFacts r facts)) k
      (after.sessions.find? k) := by
  obtain ⟨hgeneration, rfl⟩ := reserveSessionWithFacts_ok hok
  have horigin := nextGeneration_ok hgeneration
  rw [admitRuntime_sessions, Table.find?_upsert]
  by_cases hk : k = (Session.registered r facts generation).pubkey
  · rw [if_pos hk]
    have hk' : k = r.pubkey := hk
    rcases horigin with ⟨hfree, rfl⟩ | ⟨row, hrow, hstopped, hrevoked, rfl⟩
    · rw [← hk'] at hfree
      rw [hfree]
      exact .created _ hfree hk'.symm rfl
    · rw [← hk'] at hrow
      rw [hrow]
      exact .rewritten row _ hrow
        ⟨(Table.key_of_find? hrow).trans hk', hstopped, hrevoked, rfl⟩
  · rw [if_neg hk]
    exact .kept

private theorem lifecycle_change (store : Store) (op : LifecycleOp) (k : String) :
    SessionChange store (.lifecycle op) k ((store.lifecycleStep op).sessions.find? k) := by
  cases op with
  | reserveSessionWithFacts r facts =>
      apply commit_invariant (I := fun after : Store =>
        SessionChange store _ k (after.sessions.find? k)) .kept
      intro generation after hok
      exact reserve_change hok k
  | applySessionPresentationEdge pubkey generation attachmentEpoch presentation instant
  | applySessionTurnStarted pubkey generation instant
  | cancelSessionIdleDeadlineForDelivery pubkey generation
  | cancelIdleEvictionOnPresentationChange pubkey generation stoppingLifecycleEpoch attachmentEpoch presentation instant =>
      refine commit_change (fun _ _ => updateSessions_ok) ?_
      intro row happlies
      exact ⟨happlies, rfl⟩
  | markSessionPresentationUnavailable pubkey generation attachmentEpoch instant
  | revokeSessionRecoveryIfGeneration pubkey runtimeGeneration =>
      refine commit_change (fun _ _ => updateSessions_ok) ?_
      intro row happlies
      exact ⟨happlies.1, happlies.2, rfl⟩
  | applySessionTurnEnded pubkey generation instant =>
      refine commit_change (fun _ _ => applySessionTurnEnded_ok) ?_
      intro row happlies
      exact ⟨happlies.1, happlies.2, rfl⟩
  | reserveDueIdleEviction pubkey generation lifecycleEpoch attachmentEpoch now =>
      refine commit_change (fun _ _ => reserveDueIdleEviction_ok) ?_
      intro row happlies
      exact ⟨happlies, rfl⟩
  | finalizeRuntimeStoppedIfEpoch pubkey generation stoppingLifecycleEpoch reason stoppedAt =>
      refine commit_change (fun _ _ => finalizeRuntimeStoppedIfEpoch_ok) ?_
      rintro row ⟨hkey, hgeneration, hstopping, hepoch⟩
      exact ⟨hkey, hgeneration, hstopping, hepoch, rfl⟩
  | markRuntimeStoppedIfGeneration pubkey generation reason stoppedAt =>
      refine commit_change (fun _ _ => markRuntimeStoppedIfGeneration_ok) ?_
      intro row happlies
      exact ⟨happlies, rfl⟩
  | finalizeSessionRecoveryRevocation pubkey runtimeGeneration now =>
      refine commit_change (fun _ _ => finalizeSessionRecoveryRevocation_ok) ?_
      rintro row ⟨hkey, hgeneration, hrevoked⟩
      exact ⟨hkey, hgeneration, hrevoked, rfl⟩
  | reserveMcpActorSession pubkey agentSlug channel now =>
      apply commit_invariant (I := fun after : Store =>
        SessionChange store _ k (after.sessions.find? k)) .kept
      intro value after hok
      obtain ⟨hfree, hsessions⟩ := reserveMcpActorSession_ok hok
      rw [hsessions, Table.find?_insertOrIgnore]
      by_cases hk : k = (Session.mcpActor pubkey agentSlug channel now).pubkey
      · have hk' : k = pubkey := hk
        subst hk'
        rw [if_pos hk, hfree]
        exact .created _ hfree rfl rfl
      · rw [if_neg hk]
        exact .kept
  | activateMcpActor actorKey pubkey now =>
      refine commit_change (fun _ _ => activateMcpActor_ok) ?_
      rintro row ⟨hkey, hstopping, hrevoked⟩
      exact ⟨hkey, hstopping, hrevoked, rfl⟩

/-- What every lookup in the session table yields after an operation. -/
theorem step_sessionChange (store : Store) (op : StoreOp) (k : String) :
    SessionChange store op k ((store.step op).sessions.find? k) := by
  cases op with
  | lifecycle op => exact lifecycle_change store op k
  | inbox op =>
      rcases (inboxStep_same store op).2 with
        hsessions | ⟨eventId, targetPubkey, fromPubkey, channelH, body, createdAt, rfl⟩
      · exact .of_eq (by rw [step, hsessions])
      · refine commit_change (fun _ _ => enqueueInbox_ok) ?_
        rintro row ⟨hfresh, hkey, hrunning⟩
        exact ⟨hfresh, hkey, hrunning, rfl⟩
  | locator op =>
      exact .of_related ((locatorStep_effect store op).sessions k)
        (fun _ _ hsame => Or.inr hsame)
  | standing op => exact .of_eq (by rw [step, (standingStep_same store op).sessions])
  | context op =>
      exact .of_related ((contextStep_effect store op).sessions k)
        (fun _ _ hsame => Or.inr hsame)

end Store

end Mosaico
