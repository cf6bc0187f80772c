import Mosaico.State.SessionFrames

/-!
# What a stop reports

The two operations that end a runtime generation answer whether they did.  The
lemmas of this module read the row before and after off that answer, for the
pubkey the operation is about.
-/

namespace Mosaico

open Relational Transition

namespace Store

variable {store after : Store} {pubkey : String} {generation : Nat}

/-- A guarded update of one pubkey reports a change exactly when it finds its row. -/
theorem matching_one_iff {applies : Session → Prop}
    [DecidablePred applies] (hpubkey : ∀ row, applies row → row.pubkey = pubkey) :
    store.sessions.matching applies = 1 ↔
      ∃ row, store.sessions.find? pubkey = some row ∧ applies row :=
  Table.matching_eq_one_of_key hpubkey

theorem isRunningGeneration_pubkey (row : Session)
    (hrow : isRunningGeneration pubkey generation row) : row.pubkey = pubkey :=
  hrow.1

/-- The answer of a stop: the running generation is stopped, or there was none and
no session changes. -/
theorem markRuntimeStoppedIfGeneration_spec {stoppedAt : Nat} {reason : StopReason} {changed : Bool}
    (hok : store.markRuntimeStoppedIfGeneration pubkey generation reason stoppedAt =
      .ok (changed, after)) :
    (changed = true ∧ ∃ row, store.sessions.find? pubkey = some row ∧
        isRunningGeneration pubkey generation row ∧
        after.sessions.find? pubkey = some (row.stopped reason stoppedAt)) ∨
      (changed = false ∧ (∀ row, store.sessions.find? pubkey = some row →
          ¬ isRunningGeneration pubkey generation row) ∧
        ∀ k, after.sessions.find? k = store.sessions.find? k) := by
  have hmatching : store.sessions.matching (isRunningGeneration pubkey generation) = 1 ↔
      ∃ row, store.sessions.find? pubkey = some row ∧ isRunningGeneration pubkey generation row :=
    matching_one_iff isRunningGeneration_pubkey
  simp only [markRuntimeStoppedIfGeneration, bind_eq_ok, updateSessions,
    decide_eq_true_eq] at hok
  obtain ⟨_, _, hok⟩ := hok
  split at hok
  · rename_i hone
    obtain ⟨row, hfind, hrunning⟩ := hmatching.mp hone
    split at hok
    · cases hok
    · simp only [bind_eq_ok, pure_eq_ok, Prod.mk.injEq] at hok
      obtain ⟨_, hretained, rfl, rfl⟩ := hok
      refine Or.inl ⟨rfl, row, hfind, hrunning, ?_⟩
      rw [(retainInTransaction_same hretained).sessions]
      dsimp only [markHandleStoppedAt]
      rw [Table.find?_updateWhere, hfind, Option.map_some, if_pos hrunning]
  · rename_i hnone
    simp only [pure_eq_ok, Prod.mk.injEq] at hok
    obtain ⟨rfl, rfl⟩ := hok
    have hunmatched : ∀ row, store.sessions.find? pubkey = some row →
        ¬ isRunningGeneration pubkey generation row :=
      fun row hfind hrunning => hnone (hmatching.mpr ⟨row, hfind, hrunning⟩)
    refine Or.inr ⟨rfl, hunmatched, ?_⟩
    intro k
    have hkept : ∀ row, store.sessions.find? k = some row →
        ¬ isRunningGeneration pubkey generation row := by
      intro row hfind hrunning
      have hk : k = pubkey := (Table.key_of_find? hfind).symm.trans hrunning.1
      exact hunmatched row (hk ▸ hfind) hrunning
    dsimp only
    exact Table.find?_updateWhere_of_not hkept

/-- The stopping generation that a finalized eviction is about. -/
def isStoppingEpoch (pubkey : String) (generation stoppingLifecycleEpoch : Nat)
    (row : Session) : Prop :=
  row.pubkey = pubkey ∧ row.runtimeGeneration = generation ∧ row.runtimeState = .stopping ∧
    row.lifecycleEpoch = stoppingLifecycleEpoch

instance (pubkey : String) (generation stoppingLifecycleEpoch : Nat) :
    DecidablePred (isStoppingEpoch pubkey generation stoppingLifecycleEpoch) := fun _ =>
  inferInstanceAs (Decidable (_ ∧ _))

/-- The answer of a finalized eviction: the stopping epoch is stopped, or there was
none and nothing changes. -/
theorem finalizeRuntimeStoppedIfEpoch_spec
    {stoppingLifecycleEpoch stoppedAt : Nat} {reason : StopReason} {stopped : Option Session}
    (hok : store.finalizeRuntimeStoppedIfEpoch pubkey generation stoppingLifecycleEpoch reason
      stoppedAt = .ok (stopped, after)) :
    (∃ row, store.sessions.find? pubkey = some row ∧
        isStoppingEpoch pubkey generation stoppingLifecycleEpoch row ∧
        stopped = some (row.stopped reason stoppedAt) ∧
        after.sessions.find? pubkey = some (row.stopped reason stoppedAt)) ∨
      (stopped = none ∧ after = store ∧ ∀ row, store.sessions.find? pubkey = some row →
        ¬ isStoppingEpoch pubkey generation stoppingLifecycleEpoch row) := by
  have hmatching : store.sessions.matching
        (isStoppingEpoch pubkey generation stoppingLifecycleEpoch) = 1 ↔
      ∃ row, store.sessions.find? pubkey = some row ∧
        isStoppingEpoch pubkey generation stoppingLifecycleEpoch row :=
    matching_one_iff (fun _ hrow => hrow.1)
  simp only [finalizeRuntimeStoppedIfEpoch, bind_eq_ok, updateSessions,
    decide_eq_true_eq] at hok
  obtain ⟨_, _, hok⟩ := hok
  split at hok
  · rename_i hone
    obtain ⟨row, hfind, hstopping⟩ := hmatching.mp hone
    split at hok
    · cases hok
    · simp only [bind_eq_ok, pure_eq_ok, Prod.mk.injEq] at hok
      obtain ⟨final, hretained, hstopped, rfl⟩ := hok
      have hfound : final.sessions.find? pubkey = some (row.stopped reason stoppedAt) := by
        rw [(retainInTransaction_same hretained).sessions]
        dsimp only [markHandleStoppedAt]
        rw [Table.find?_updateWhere, hfind, Option.map_some]
        exact congrArg some (if_pos hstopping)
      exact Or.inl ⟨row, hfind, hstopping, hstopped.symm.trans hfound, hfound⟩
  · rename_i hnone
    simp only [pure_eq_ok, Prod.mk.injEq] at hok
    obtain ⟨rfl, rfl⟩ := hok
    exact Or.inr ⟨rfl, rfl, fun row hfind hstopping => hnone (hmatching.mpr ⟨row, hfind, hstopping⟩)⟩

/-- A finalization changes nothing, or it stops the revoked row and writes the tables
that follow it. -/
theorem finalize_cases {now : Nat} {changed : Bool}
    (hok : store.finalizeSessionRecoveryRevocation pubkey generation now = .ok (changed, after)) :
    (changed = false ∧ after = store) ∨
      ∃ row lifecycleEpoch, changed = true ∧ store.sessions.find? pubkey = some row ∧
        row.recoveryState = .revoked ∧
        after = (((({ store with
          sessions := store.sessions.updateWhere
            (fun row => row.pubkey = pubkey ∧ row.runtimeGeneration = generation ∧
              row.recoveryState = .revoked)
            (fun row => row.stopped .revoked now) } : Store).markHandleStoppedAt pubkey
          now).initializeStanding pubkey lifecycleEpoch now).expireStanding pubkey lifecycleEpoch
          now).forgetPubkey pubkey ∧
        row.runtimeGeneration = generation := by
  have hmatching : store.sessions.matching (fun row => row.pubkey = pubkey ∧
        row.runtimeGeneration = generation ∧ row.recoveryState = .revoked) = 1 ↔
      ∃ row, store.sessions.find? pubkey = some row ∧ row.pubkey = pubkey ∧
        row.runtimeGeneration = generation ∧ row.recoveryState = .revoked :=
    matching_one_iff (fun _ hrow => hrow.1)
  simp only [finalizeSessionRecoveryRevocation, bind_eq_ok, updateSessions,
    decide_eq_true_eq] at hok
  obtain ⟨_, _, hok⟩ := hok
  split at hok
  · rename_i hone
    obtain ⟨row, hfind, _, hgeneration, hrevoked⟩ := hmatching.mp hone
    split at hok
    · cases hok
    · rename_i stopped hstopped
      simp only [pure_eq_ok, Prod.mk.injEq] at hok
      obtain ⟨rfl, rfl⟩ := hok
      exact Or.inr ⟨row, stopped.lifecycleEpoch, rfl, hfind, hrevoked, rfl, hgeneration⟩
  · simp only [pure_eq_ok, Prod.mk.injEq] at hok
    exact Or.inl ⟨hok.1.symm, hok.2.symm⟩

/-- The answer of a finalized revocation: the revoked generation is stopped and
every locator of the pubkey is deleted, or nothing changes. -/
theorem finalizeSessionRecoveryRevocation_spec {runtimeGeneration now : Nat} {changed : Bool}
    (hok : store.finalizeSessionRecoveryRevocation pubkey runtimeGeneration now =
      .ok (changed, after)) :
    (changed = false ∧ after = store) ∨
      (changed = true ∧
        after.sessionLocators =
          store.sessionLocators.deleteWhere (fun row => row.pubkey = pubkey) ∧
        ∃ row, store.sessions.find? pubkey = some row ∧
          row.runtimeGeneration = runtimeGeneration ∧
          after.sessions.find? pubkey = some (row.stopped .revoked now)) := by
  have hmatching : store.sessions.matching (fun row => row.pubkey = pubkey ∧
        row.runtimeGeneration = runtimeGeneration ∧ row.recoveryState = .revoked) = 1 ↔
      ∃ row, store.sessions.find? pubkey = some row ∧ row.pubkey = pubkey ∧
        row.runtimeGeneration = runtimeGeneration ∧ row.recoveryState = .revoked :=
    matching_one_iff (fun _ hrow => hrow.1)
  simp only [finalizeSessionRecoveryRevocation, bind_eq_ok, updateSessions,
    decide_eq_true_eq] at hok
  obtain ⟨_, _, hok⟩ := hok
  split at hok
  · rename_i hone
    obtain ⟨row, hfind, hrevoked⟩ := hmatching.mp hone
    split at hok
    · cases hok
    · simp only [pure_eq_ok, Prod.mk.injEq] at hok
      obtain ⟨rfl, rfl⟩ := hok
      refine Or.inr ⟨rfl, rfl, row, hfind, hrevoked.2.1, ?_⟩
      dsimp only [forgetPubkey, expireStanding, initializeStanding, markHandleStoppedAt]
      rw [Table.find?_updateWhere, hfind, Option.map_some]
      exact congrArg some (if_pos hrevoked)
  · simp only [pure_eq_ok, Prod.mk.injEq] at hok
    exact Or.inl ⟨hok.1.symm, hok.2.symm⟩

/-! ## Sessions persist -/

/-- Sessions never disappear: a step keeps or rewrites them. -/
theorem step_session (op : StoreOp) {k : String} {row : Session}
    (hfind : store.sessions.find? k = some row) :
    ∃ next, (store.step op).sessions.find? k = some next ∧
      (next = row ∨ op.Rewrites store row next) := by
  have hchange := step_sessionChange store op k
  generalize hafter : (store.step op).sessions.find? k = after at hchange
  cases hchange with
  | kept => exact ⟨row, hfind, Or.inl rfl⟩
  | rewritten old next hold hrewrites =>
      rw [hfind] at hold
      cases hold
      exact ⟨next, rfl, Or.inr hrewrites⟩
  | created next hfree =>
      rw [hfind] at hfree
      cases hfree

end Store

/-! ## Which operations begin or end a generation -/

variable {store : Store} {row next : Session} {op : StoreOp}

/-- Only a reservation and the activation of an actor begin a generation, and only
after the last one has stopped. -/
theorem StoreOp.rewrites_runtimeGeneration (hop : op.Rewrites store row next)
    (hnew : next.runtimeGeneration ≠ row.runtimeGeneration) :
    row.runtimeState = .stopped ∧
      ((∃ r facts, op = .lifecycle (.reserveSessionWithFacts r facts) ∧
          r.pubkey = row.pubkey) ∨
        ∃ actorKey now, op = .lifecycle (.activateMcpActor actorKey row.pubkey now)) := by
  cases op with
  | lifecycle op =>
      cases op with
      | reserveSessionWithFacts r facts =>
          exact ⟨hop.2.1, Or.inl ⟨r, facts, rfl, hop.1.symm⟩⟩
      | activateMcpActor actorKey pubkey now =>
          obtain ⟨rfl, _, _, rfl⟩ := hop
          refine ⟨?_, Or.inr ⟨actorKey, now, rfl⟩⟩
          by_cases hstopped : row.runtimeState = .stopped
          · exact hstopped
          · exact absurd (by simp [Session.mcpActivated, hstopped]) hnew
      | applySessionPresentationEdge | applySessionTurnStarted
      | cancelSessionIdleDeadlineForDelivery | reserveDueIdleEviction
      | cancelIdleEvictionOnPresentationChange | markRuntimeStoppedIfGeneration =>
          exact absurd (by rw [hop.2]; rfl) hnew
      | markSessionPresentationUnavailable | applySessionTurnEnded =>
          exact absurd (by rw [hop.2.2]; rfl) hnew
      | finalizeRuntimeStoppedIfEpoch => exact absurd (by rw [hop.2.2.2.2]; rfl) hnew
      | revokeSessionRecoveryIfGeneration => exact absurd (by rw [hop.2.2]) hnew
      | finalizeSessionRecoveryRevocation => exact absurd (by rw [hop.2.2.2]; rfl) hnew
      | reserveMcpActorSession => exact hop.elim
  | inbox op =>
      cases op with
      | enqueueInbox => exact absurd (by rw [hop.2.2.2]; rfl) hnew
      | _ => exact hop.elim
  | locator op => exact absurd hop.runtimeGeneration hnew
  | standing op => exact hop.elim
  | context op => exact absurd hop.1.runtimeGeneration hnew

/-- Three operations end a generation. -/
inductive StoreOp.Ends (pubkey : String) : StoreOp → Prop
  | stop (generation : Nat) (reason : StopReason) (stoppedAt : Nat) :
      Ends pubkey (.lifecycle (.markRuntimeStoppedIfGeneration pubkey generation reason stoppedAt))
  | evict (generation stoppingLifecycleEpoch : Nat) (reason : StopReason) (stoppedAt : Nat) :
      Ends pubkey (.lifecycle (.finalizeRuntimeStoppedIfEpoch pubkey generation
        stoppingLifecycleEpoch reason stoppedAt))
  | revoke (runtimeGeneration now : Nat) :
      Ends pubkey (.lifecycle (.finalizeSessionRecoveryRevocation pubkey runtimeGeneration now))

theorem StoreOp.rewrites_stopped
    (hop : op.Rewrites store row next) (hlive : row.runtimeState ≠ .stopped)
    (hstopped : next.runtimeState = .stopped) : op.Ends row.pubkey := by
  have hkept : ∀ kept : Session, next = kept → kept.runtimeState ≠ .stopped → False :=
    fun kept heq hne => hne (heq ▸ hstopped)
  cases op with
  | lifecycle op =>
      cases op with
      | reserveSessionWithFacts r facts => exact (hlive hop.2.1).elim
      | applySessionPresentationEdge | applySessionTurnStarted
      | cancelSessionIdleDeadlineForDelivery => exact (hkept _ hop.2 hlive).elim
      | markSessionPresentationUnavailable | applySessionTurnEnded
      | revokeSessionRecoveryIfGeneration => exact (hkept _ hop.2.2 hlive).elim
      | reserveDueIdleEviction => exact (hkept _ hop.2 (by simp [Session.evictionReserved])).elim
      | cancelIdleEvictionOnPresentationChange =>
          exact (hkept _ hop.2 (by simp [Session.evictionCancelled])).elim
      | finalizeRuntimeStoppedIfEpoch pubkey generation epoch reason stoppedAt =>
          obtain ⟨rfl, _⟩ := hop
          exact .evict generation epoch reason stoppedAt
      | markRuntimeStoppedIfGeneration pubkey generation reason stoppedAt =>
          obtain ⟨⟨rfl, _⟩, _⟩ := hop
          exact .stop generation reason stoppedAt
      | finalizeSessionRecoveryRevocation pubkey runtimeGeneration now =>
          obtain ⟨rfl, _⟩ := hop
          exact .revoke runtimeGeneration now
      | reserveMcpActorSession => exact hop.elim
      | activateMcpActor => exact (hkept _ hop.2.2.2 (by simp [Session.mcpActivated])).elim
  | inbox op =>
      cases op with
      | enqueueInbox => exact (hkept _ hop.2.2.2 hlive).elim
      | _ => exact hop.elim
  | locator op => exact (hlive (hop.runtimeState.symm.trans hstopped)).elim
  | standing op => exact hop.elim
  | context op => exact (hlive (hop.1.runtimeState.symm.trans hstopped)).elim

/-! ## Stop requests -/

/-- The operation asks for the end of a running generation. -/
def StoreOp.RequestsStop (pubkey : String) (generation : Nat) : StoreOp → Prop
  | .lifecycle (.markRuntimeStoppedIfGeneration target ended _ _) =>
      target = pubkey ∧ ended = generation
  | .lifecycle (.reserveDueIdleEviction target ended _ _ _) =>
      target = pubkey ∧ ended = generation
  | .lifecycle (.finalizeSessionRecoveryRevocation target ended _) =>
      target = pubkey ∧ ended = generation
  | _ => False

instance (pubkey : String) (generation : Nat) : DecidablePred (StoreOp.RequestsStop pubkey generation)
  | .lifecycle op =>
      match op with
      | .markRuntimeStoppedIfGeneration _ _ _ _ => inferInstanceAs (Decidable (_ ∧ _))
      | .reserveDueIdleEviction _ _ _ _ _ => inferInstanceAs (Decidable (_ ∧ _))
      | .finalizeSessionRecoveryRevocation _ _ _ => inferInstanceAs (Decidable (_ ∧ _))
      | .reserveSessionWithFacts _ _ | .applySessionPresentationEdge _ _ _ _ _
      | .markSessionPresentationUnavailable _ _ _ _ | .applySessionTurnStarted _ _ _
      | .applySessionTurnEnded _ _ _ | .cancelSessionIdleDeadlineForDelivery _ _
      | .cancelIdleEvictionOnPresentationChange _ _ _ _ _ _
      | .finalizeRuntimeStoppedIfEpoch _ _ _ _ _ | .revokeSessionRecoveryIfGeneration _ _
      | .reserveMcpActorSession _ _ _ _ | .activateMcpActor _ _ _ =>
          inferInstanceAs (Decidable False)
  | .inbox _ | .locator _ | .standing _ | .context _ => inferInstanceAs (Decidable False)

/-- Only a stop request takes a running row out of its generation. -/
theorem StoreOp.rewrites_running
    (hop : op.Rewrites store row next) (hrunning : row.runtimeState = .running)
    (hstop : ¬ op.RequestsStop row.pubkey row.runtimeGeneration) :
    next.runtimeGeneration = row.runtimeGeneration ∧ next.runtimeState = .running := by
  have hlive : row.runtimeState ≠ .stopped := by simp [hrunning]
  have hkept : ∀ kept : Session, next = kept → kept.runtimeGeneration = row.runtimeGeneration →
      kept.runtimeState = .running →
      next.runtimeGeneration = row.runtimeGeneration ∧ next.runtimeState = .running := by
    intro kept heq hgeneration hstate
    rw [heq]
    exact ⟨hgeneration, hstate⟩
  cases op with
  | lifecycle op =>
      cases op with
      | reserveSessionWithFacts r facts => exact absurd hop.2.1 hlive
      | applySessionPresentationEdge | applySessionTurnStarted
      | cancelSessionIdleDeadlineForDelivery => exact hkept _ hop.2 rfl hrunning
      | markSessionPresentationUnavailable | applySessionTurnEnded
      | revokeSessionRecoveryIfGeneration => exact hkept _ hop.2.2 rfl hrunning
      | reserveDueIdleEviction | markRuntimeStoppedIfGeneration =>
          exact absurd ⟨hop.1.1.symm, hop.1.2.1.symm⟩ hstop
      | cancelIdleEvictionOnPresentationChange =>
          rw [hop.1.2.2.1] at hrunning
          cases hrunning
      | finalizeRuntimeStoppedIfEpoch =>
          rw [hop.2.2.1] at hrunning
          cases hrunning
      | finalizeSessionRecoveryRevocation =>
          exact absurd ⟨hop.1.symm, hop.2.1.symm⟩ hstop
      | reserveMcpActorSession => exact hop.elim
      | activateMcpActor actorKey pubkey now =>
          refine hkept _ hop.2.2.2 ?_ rfl
          simp [Session.mcpActivated, hlive]
  | inbox op =>
      cases op with
      | enqueueInbox => exact hkept _ hop.2.2.2 rfl hrunning
      | _ => exact hop.elim
  | locator op => exact ⟨hop.runtimeGeneration, hop.runtimeState.trans hrunning⟩
  | standing op => exact hop.elim
  | context op => exact ⟨hop.1.runtimeGeneration, hop.1.runtimeState.trans hrunning⟩

namespace Store

/-- The session runs in the generation. -/
def RunsIn (store : Store) (pubkey : String) (generation : Nat) : Prop :=
  ∃ row, store.getSession pubkey = some row ∧ row.runtimeGeneration = generation ∧
    row.runtimeState = .running

instance (store : Store) (pubkey : String) (generation : Nat) :
    Decidable (store.RunsIn pubkey generation) :=
  inferInstanceAs (Decidable (∃ row, store.getSession pubkey = some row ∧ _))

theorem RunsIn.unique {store : Store} {pubkey : String} {first second : Nat}
    (hfirst : store.RunsIn pubkey first) (hsecond : store.RunsIn pubkey second) :
    first = second := by
  obtain ⟨row, hrow, rfl, _⟩ := hfirst
  obtain ⟨other, hother, rfl, _⟩ := hsecond
  rw [hrow] at hother
  cases hother
  rfl

/-- A running generation goes on until its stop is requested. -/
theorem RunsIn.step {store : Store} {pubkey : String} {generation : Nat} {op : StoreOp}
    (hruns : store.RunsIn pubkey generation) (hstop : ¬ op.RequestsStop pubkey generation) :
    (store.step op).RunsIn pubkey generation := by
  obtain ⟨row, hrow, rfl, hrunning⟩ := hruns
  have hkey : row.pubkey = pubkey := Table.key_of_find? hrow
  obtain ⟨next, hnext, hchange⟩ := step_session op hrow
  rcases hchange with rfl | hrewrites
  · exact ⟨next, hnext, rfl, hrunning⟩
  · obtain ⟨hgeneration, hstate⟩ :=
      StoreOp.rewrites_running hrewrites hrunning (hkey ▸ hstop)
    exact ⟨next, hnext, hgeneration, hstate⟩

end Store

/-! ## Generations are left for good -/

/-- `next` is a later row of the session: a later generation, or the same one, which
stays stopped once it is. -/
def Session.Precedes (row next : Session) : Prop :=
  row.runtimeGeneration < next.runtimeGeneration ∨
    (row.runtimeGeneration = next.runtimeGeneration ∧
      (row.runtimeState = .stopped → next.runtimeState = .stopped))

theorem Session.Precedes.refl (row : Session) : row.Precedes row :=
  Or.inr ⟨rfl, id⟩

theorem Session.Precedes.trans {first second third : Session} (hfirst : first.Precedes second)
    (hsecond : second.Precedes third) : first.Precedes third := by
  rcases hfirst with hless | ⟨heq, hstopped⟩
  · left
    rcases hsecond with hlater | ⟨hsame, _⟩
    · omega
    · omega
  · rcases hsecond with hlater | ⟨hsame, hstays⟩
    · left
      omega
    · right
      exact ⟨heq.trans hsame, fun hrow => hstays (hstopped hrow)⟩

theorem StoreOp.rewrites_precedes (hop : op.Rewrites store row next) : row.Precedes next := by
  by_cases hnew : next.runtimeGeneration = row.runtimeGeneration
  · refine Or.inr ⟨hnew.symm, ?_⟩
    intro hstopped
    have hnot : ∀ state, row.runtimeState = state → state ≠ .stopped → next.runtimeState = .stopped :=
      fun state heq hne => absurd (heq.symm.trans hstopped) hne
    cases op with
    | lifecycle op =>
        cases op with
        | reserveSessionWithFacts r facts =>
            rw [hop.2.2.2] at hnew
            exact absurd hnew (Nat.succ_ne_self _)
        | activateMcpActor actorKey pubkey now =>
            rw [hop.2.2.2] at hnew
            simp [Session.mcpActivated, hstopped] at hnew
        | applySessionPresentationEdge => exact hnot _ hop.1.1.2.2 (by decide)
        | markSessionPresentationUnavailable | applySessionTurnStarted | applySessionTurnEnded
        | cancelSessionIdleDeadlineForDelivery | markRuntimeStoppedIfGeneration =>
            exact hnot _ hop.1.2.2 (by decide)
        | reserveDueIdleEviction => exact hnot _ hop.1.2.2.2.2.1.1 (by decide)
        | cancelIdleEvictionOnPresentationChange => exact hnot _ hop.1.2.2.1 (by decide)
        | finalizeRuntimeStoppedIfEpoch => exact hnot _ hop.2.2.1 (by decide)
        | revokeSessionRecoveryIfGeneration => rw [hop.2.2]; exact hstopped
        | finalizeSessionRecoveryRevocation => rw [hop.2.2.2]; rfl
        | reserveMcpActorSession => exact hop.elim
    | inbox op =>
        cases op with
        | enqueueInbox => exact hnot _ hop.2.2.1 (by decide)
        | _ => exact hop.elim
    | locator op => exact hop.runtimeState.trans hstopped
    | standing op => exact hop.elim
    | context op => exact hop.1.runtimeState.trans hstopped
  · left
    obtain ⟨_, ⟨r, facts, rfl, _⟩ | ⟨actorKey, now, rfl⟩⟩ :=
      StoreOp.rewrites_runtimeGeneration hop hnew
    · rw [hop.2.2.2]
      exact Nat.lt_succ_self _
    · rw [hop.2.2.2] at hnew ⊢
      simp only [Session.mcpActivated] at hnew ⊢
      omega

namespace Store

/-- Every session of `before` has a later row in `after`. -/
def Precedes (before after : Store) : Prop :=
  ∀ k row, before.sessions.find? k = some row →
    ∃ next, after.sessions.find? k = some next ∧ row.Precedes next

theorem Precedes.refl (store : Store) : store.Precedes store :=
  fun _ row hfind => ⟨row, hfind, .refl row⟩

theorem Precedes.trans {first second third : Store} (hfirst : first.Precedes second)
    (hsecond : second.Precedes third) : first.Precedes third := by
  intro k row hfind
  obtain ⟨middle, hmiddle, hearlier⟩ := hfirst k row hfind
  obtain ⟨last, hlast, hlater⟩ := hsecond k middle hmiddle
  exact ⟨last, hlast, hearlier.trans hlater⟩

theorem step_precedes (store : Store) (op : StoreOp) : store.Precedes (store.step op) := by
  intro k row hfind
  obtain ⟨next, hnext, hchange⟩ := step_session op hfind
  refine ⟨next, hnext, ?_⟩
  rcases hchange with rfl | hrewrites
  · exact .refl next
  · exact StoreOp.rewrites_precedes hrewrites

/-- The generation is over: the session is stopped in it, or has a later one. -/
def Ended (store : Store) (pubkey : String) (generation : Nat) : Prop :=
  ∃ row, store.sessions.find? pubkey = some row ∧
    (generation < row.runtimeGeneration ∨
      (row.runtimeGeneration = generation ∧ row.runtimeState = .stopped))

/-- No operation brings a generation back that is over. -/
theorem Ended.later {before after : Store} {pubkey : String} {generation : Nat}
    (hended : before.Ended pubkey generation) (hlater : before.Precedes after) :
    after.Ended pubkey generation := by
  obtain ⟨row, hfind, hover⟩ := hended
  obtain ⟨next, hnext, hprecedes⟩ := hlater pubkey row hfind
  refine ⟨next, hnext, ?_⟩
  rcases hprecedes with hless | ⟨heq, hstays⟩
  · left
    rcases hover with hlater' | ⟨hsame, _⟩
    · omega
    · omega
  · rcases hover with hlater' | ⟨hsame, hstopped⟩
    · left
      omega
    · right
      exact ⟨heq.symm.trans hsame, hstays hstopped⟩

end Store

end Mosaico
