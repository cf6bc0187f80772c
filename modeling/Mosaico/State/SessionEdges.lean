import Mosaico.State.StandingFrames

/-!
# What one operation does to a session row

`StoreOp.Rewrites` lists, operation by operation, the guard under which a session
row is rewritten and the row it becomes; `StoreOp.Creates` lists the rows that
appear.  The lemmas of this module read both off the operations that move a
session through its lifecycle; the operations that do not are the subject of the
next module.
-/

namespace Mosaico

open Relational Transition

/-- The columns that take part in the lifecycle are the same. -/
structure Session.SameLifecycle (row next : Session) : Prop where
  pubkey : next.pubkey = row.pubkey
  runtimeGeneration : next.runtimeGeneration = row.runtimeGeneration
  runtimeState : next.runtimeState = row.runtimeState
  presentationState : next.presentationState = row.presentationState
  workState : next.workState = row.workState
  lifecycleEpoch : next.lifecycleEpoch = row.lifecycleEpoch
  attachmentEpoch : next.attachmentEpoch = row.attachmentEpoch
  idleSince : next.idleSince = row.idleSince
  idleDeadline : next.idleDeadline = row.idleDeadline
  stopReason : next.stopReason = row.stopReason
  turnStartedAt : next.turnStartedAt = row.turnStartedAt

theorem Session.SameLifecycle.refl (row : Session) : row.SameLifecycle row :=
  ⟨rfl, rfl, rfl, rfl, rfl, rfl, rfl, rfl, rfl, rfl, rfl⟩

/-- A lifecycle operation rewrites `row` to `next`. -/
def LifecycleOp.Rewrites (store : Store) (row next : Session) : LifecycleOp → Prop
  | .reserveSessionWithFacts r facts =>
      row.pubkey = r.pubkey ∧ row.runtimeState = .stopped ∧ row.recoveryState ≠ .revoked ∧
        next = row.relaunched r facts (row.runtimeGeneration + 1)
  | .applySessionPresentationEdge pubkey generation attachmentEpoch presentation instant =>
      Store.presentationEdgeApplies pubkey generation attachmentEpoch row ∧
        next = row.presentationEdge attachmentEpoch presentation instant
  | .markSessionPresentationUnavailable pubkey generation attachmentEpoch instant =>
      Store.isRunningGeneration pubkey generation row ∧
        row.attachmentEpoch = attachmentEpoch ∧ next = row.presentationLost instant
  | .applySessionTurnStarted pubkey generation instant =>
      Store.isRunningGeneration pubkey generation row ∧ next = row.turnStarted instant
  | .applySessionTurnEnded pubkey generation instant =>
      Store.isRunningGeneration pubkey generation row ∧ row.workState = .working ∧
        next = row.turnEnded instant
  | .cancelSessionIdleDeadlineForDelivery pubkey generation =>
      Store.isRunningGeneration pubkey generation row ∧ next = row.disarmIdle
  | .reserveDueIdleEviction pubkey generation lifecycleEpoch attachmentEpoch now =>
      store.evictionApplies pubkey generation lifecycleEpoch attachmentEpoch now row ∧
        next = row.evictionReserved now
  | .cancelIdleEvictionOnPresentationChange pubkey generation stoppingLifecycleEpoch
      attachmentEpoch presentation instant =>
      Store.evictionCancelApplies pubkey generation stoppingLifecycleEpoch attachmentEpoch
          presentation row ∧
        next = row.evictionCancelled attachmentEpoch presentation instant
  | .finalizeRuntimeStoppedIfEpoch pubkey generation stoppingLifecycleEpoch reason stoppedAt =>
      row.pubkey = pubkey ∧ row.runtimeGeneration = generation ∧
        row.runtimeState = .stopping ∧ row.lifecycleEpoch = stoppingLifecycleEpoch ∧
        next = row.stopped reason stoppedAt
  | .markRuntimeStoppedIfGeneration pubkey generation reason stoppedAt =>
      Store.isRunningGeneration pubkey generation row ∧ next = row.stopped reason stoppedAt
  | .revokeSessionRecoveryIfGeneration pubkey runtimeGeneration =>
      row.pubkey = pubkey ∧ row.runtimeGeneration = runtimeGeneration ∧
        next = { row with recoveryState := .revoked }
  | .finalizeSessionRecoveryRevocation pubkey runtimeGeneration now =>
      row.pubkey = pubkey ∧ row.runtimeGeneration = runtimeGeneration ∧
        row.recoveryState = .revoked ∧ next = row.stopped .revoked now
  | .reserveMcpActorSession _ _ _ _ => False
  | .activateMcpActor _ pubkey now =>
      row.pubkey = pubkey ∧ row.runtimeState ≠ .stopping ∧ row.recoveryState ≠ .revoked ∧
        next = row.mcpActivated now

/-- Only the arrival of a new inbox row touches the recipient's session. -/
def InboxOp.Rewrites (store : Store) (row next : Session) : InboxOp → Prop
  | .enqueueInbox eventId targetPubkey _ _ _ _ =>
      store.inbox.find? (eventId, targetPubkey) = none ∧ row.pubkey = targetPubkey ∧
        row.runtimeState = .running ∧ next = row.disarmIdle
  | _ => False

/-- An operation rewrites `row` to `next`. -/
def StoreOp.Rewrites (store : Store) (row next : Session) : StoreOp → Prop
  | .lifecycle op => op.Rewrites store row next
  | .inbox op => op.Rewrites store row next
  | .locator _ => row.SameLifecycle next
  | .standing _ => False
  | .context _ => row.SameLifecycle next ∧ next.recoveryState = row.recoveryState

/-- An operation creates the session row `next`. -/
def StoreOp.Creates (next : Session) : StoreOp → Prop
  | .lifecycle (.reserveSessionWithFacts r facts) => next = Session.registered r facts 1
  | .lifecycle (.reserveMcpActorSession pubkey agentSlug channel now) =>
      next = Session.mcpActor pubkey agentSlug channel now
  | _ => False

/-- No rewrite lowers the lifecycle epoch of a session. -/
theorem StoreOp.rewrites_lifecycleEpoch_le {store : Store} {row next : Session} {op : StoreOp}
    (hop : op.Rewrites store row next) : row.lifecycleEpoch ≤ next.lifecycleEpoch := by
  cases op with
  | lifecycle op =>
      cases op with
      | reserveSessionWithFacts | finalizeSessionRecoveryRevocation =>
          rw [hop.2.2.2]; exact Nat.le_succ _
      | applySessionPresentationEdge | applySessionTurnStarted
      | cancelSessionIdleDeadlineForDelivery => rw [hop.2]; exact Nat.le_refl _
      | markSessionPresentationUnavailable | applySessionTurnEnded =>
          rw [hop.2.2]; exact Nat.le_refl _
      | reserveDueIdleEviction | cancelIdleEvictionOnPresentationChange =>
          rw [hop.2]; exact Nat.le_succ _
      | finalizeRuntimeStoppedIfEpoch => rw [hop.2.2.2.2]; exact Nat.le_succ _
      | markRuntimeStoppedIfGeneration => rw [hop.2]; exact Nat.le_succ _
      | revokeSessionRecoveryIfGeneration => rw [hop.2.2]
      | reserveMcpActorSession => exact hop.elim
      | activateMcpActor => rw [hop.2.2.2]; exact Nat.le_add_right _ _
  | inbox op =>
      cases op with
      | enqueueInbox => rw [hop.2.2.2]; exact Nat.le_refl _
      | _ => exact hop.elim
  | locator op => exact Nat.le_of_eq hop.lifecycleEpoch.symm
  | standing op => exact hop.elim
  | context op => exact Nat.le_of_eq hop.1.lifecycleEpoch.symm

/-- What the lookup of pubkey `k` yields after an operation.  Session rows never
disappear. -/
inductive SessionChange (store : Store) (op : StoreOp) (k : String) : Option Session → Prop
  | kept : SessionChange store op k (store.sessions.find? k)
  | rewritten (row next : Session) (hfind : store.sessions.find? k = some row)
      (hrewrites : op.Rewrites store row next) : SessionChange store op k (some next)
  | created (next : Session) (hfree : store.sessions.find? k = none) (hkey : next.pubkey = k)
      (hcreates : op.Creates next) : SessionChange store op k (some next)

theorem SessionChange.of_eq {store : Store} {op : StoreOp} {k : String}
    {next : Option Session} (heq : next = store.sessions.find? k) :
    SessionChange store op k next :=
  heq ▸ .kept

/-- A table that corresponds row by row holds kept and rewritten rows only. -/
theorem SessionChange.of_related {store : Store} {op : StoreOp} {k : String}
    {next : Option Session} {R : Session → Session → Prop}
    (hrelated : Option.Rel R (store.sessions.find? k) next)
    (hrewrites : ∀ row next, R row next → next = row ∨ op.Rewrites store row next) :
    SessionChange store op k next := by
  generalize hfind : store.sessions.find? k = found at hrelated
  cases hrelated with
  | none => exact .of_eq hfind.symm
  | some hR =>
      rcases hrewrites _ _ hR with rfl | hop
      · exact .of_eq hfind.symm
      · exact .rewritten _ _ hfind hop

namespace Store

/-! ## Single statements -/

/-- A row is kept or, when the condition matches it, assigned. -/
def KeptOrAssigned (applies : Session → Prop) (assign : Session → Session)
    (row next : Session) : Prop :=
  next = row ∨ (applies row ∧ next = assign row)

/-- Every session row is kept or assigned. -/
def SessionsRewritten (before after : Store) (applies : Session → Prop)
    (assign : Session → Session) : Prop :=
  before.sessions.RelatedBy (KeptOrAssigned applies assign) after.sessions

variable {after store : Store} {pubkey : String} {generation now : Nat}

theorem SessionsRewritten.of_eq {before : Store} {applies : Session → Prop}
    {assign : Session → Session} (heq : after.sessions = before.sessions) :
    SessionsRewritten before after applies assign := by
  rw [SessionsRewritten, heq]
  exact Table.RelatedBy.refl (R := KeptOrAssigned applies assign) (fun _ => Or.inl rfl)
    before.sessions

theorem SessionsRewritten.of_updateWhere {before : Store} {applies : Session → Prop}
    [DecidablePred applies] {assign : Session → Session}
    (hkey : ∀ row, (assign row).pubkey = row.pubkey)
    (heq : after.sessions = before.sessions.updateWhere applies assign hkey) :
    SessionsRewritten before after applies assign := by
  rw [SessionsRewritten, heq]
  apply Table.RelatedBy.updateWhere
  · intro row
    exact Or.inl rfl
  · intro row _ happlies
    exact Or.inr ⟨happlies, rfl⟩

/-- A guarded single statement, as most lifecycle operations are. -/
theorem updateSessions_ok {params : List Nat}
    {applies : Session → Prop} [DecidablePred applies] {assign : Session → Session}
    {hkey : ∀ row, (assign row).pubkey = row.pubkey} {changed : Bool}
    (hok : (do
      bindParams params
      return store.updateSessions applies assign hkey) = .ok (changed, after)) :
    SessionsRewritten store after applies assign := by
  simp only [bind_eq_ok, pure_eq_ok, updateSessions, Prod.mk.injEq] at hok
  obtain ⟨_, _, _, rfl⟩ := hok
  exact SessionsRewritten.of_updateWhere hkey rfl

/-- A guarded single statement on one pubkey: either it reports its change and
assigns the row of that pubkey, or the lookup of `k` yields what it did. -/
theorem commit_updateSessions_find? (store : Store) (params : List Nat)
    (applies : Session → Prop) [DecidablePred applies] (assign : Session → Session)
    (hkey : ∀ row, (assign row).pubkey = row.pubkey)
    (hpubkey : ∀ row, applies row → row.pubkey = pubkey) (k : String) :
    let outcome := do
      bindParams params
      return store.updateSessions applies assign hkey
    (k = pubkey ∧ changed outcome = true ∧
        ∃ row, store.sessions.find? k = some row ∧ applies row ∧
          (commit outcome store).sessions.find? k = some (assign row)) ∨
      ((k = pubkey → changed outcome = false) ∧
        (commit outcome store).sessions.find? k = store.sessions.find? k) := by
  intro outcome
  cases houtcome : outcome with
  | error error => exact Or.inr ⟨fun _ => rfl, rfl⟩
  | ok result =>
      simp only [outcome, bind_eq_ok, pure_eq_ok, updateSessions] at houtcome
      obtain ⟨_, _, rfl⟩ := houtcome
      have hmatching : store.sessions.matching applies = 1 ↔
          ∃ row, store.sessions.find? pubkey = some row ∧ applies row :=
        Table.matching_eq_one_of_key hpubkey
      simp only [changed, commit_ok]
      by_cases hmine : k = pubkey ∧ store.sessions.matching applies = 1
      · obtain ⟨rfl, hone⟩ := hmine
        obtain ⟨row, hfind, happlies⟩ := hmatching.mp hone
        refine Or.inl ⟨rfl, decide_eq_true hone, row, hfind, happlies, ?_⟩
        rw [Table.find?_updateWhere, hfind, Option.map_some, if_pos happlies]
      · refine Or.inr ⟨fun hk => decide_eq_false (fun hone => hmine ⟨hk, hone⟩), ?_⟩
        apply Table.find?_updateWhere_of_not
        intro row hfind happlies
        have hk : k = pubkey := (Table.key_of_find? hfind).symm.trans (hpubkey row happlies)
        exact hmine ⟨hk, hmatching.mpr ⟨row, hk ▸ hfind, happlies⟩⟩

/-! ## Whole operations -/

theorem nextGeneration_ok (hok : store.nextGeneration pubkey = .ok generation) :
    (store.sessions.find? pubkey = none ∧ generation = 1) ∨
      ∃ row, store.sessions.find? pubkey = some row ∧ row.runtimeState = .stopped ∧
        row.recoveryState ≠ .revoked ∧ generation = row.runtimeGeneration + 1 := by
  unfold nextGeneration getSession at hok
  cases hfind : store.sessions.find? pubkey with
  | none =>
      rw [hfind] at hok
      simp only [pure_eq_ok] at hok
      exact Or.inl ⟨rfl, hok.symm⟩
  | some row =>
      rw [hfind] at hok
      simp only [bind_eq_ok, ensure_eq_ok, pure_eq_ok] at hok
      obtain ⟨_, hstopped, _, hrevoked, _, _, rfl⟩ := hok
      exact Or.inr ⟨row, rfl, hstopped, hrevoked, rfl⟩

@[simp] theorem admitRuntime_sessions (store : Store) (r : RegisterSession)
    (facts : AdmittedRuntimeFacts) (generation : Nat) :
    (store.admitRuntime r facts generation).sessions =
      store.sessions.upsert (Session.registered r facts generation)
        (Session.relaunched r facts generation) := by
  unfold admitRuntime grantRouteAndInitializeStanding markHandleLive
  dsimp only
  split
  · rfl
  · split <;> rfl

theorem reserveSessionWithFacts_ok {r : RegisterSession} {facts : AdmittedRuntimeFacts}
    (hok : store.reserveSessionWithFacts r facts = .ok (generation, after)) :
    store.nextGeneration r.pubkey = .ok generation ∧
      after = store.admitRuntime r facts generation := by
  simp only [reserveSessionWithFacts, bind_eq_ok, pure_eq_ok, Prod.mk.injEq] at hok
  obtain ⟨_, _, _, _, _, hgeneration, _, _, rfl, rfl⟩ := hok
  exact ⟨hgeneration, rfl⟩

theorem applySessionTurnEnded_ok {instant : Nat} {changed : Bool}
    (hok : store.applySessionTurnEnded pubkey generation instant = .ok (changed, after)) :
    SessionsRewritten store after
      (fun row => isRunningGeneration pubkey generation row ∧ row.workState = .working)
      (fun row => row.turnEnded instant) := by
  simp only [applySessionTurnEnded, bind_eq_ok, updateSessions, decide_eq_true_eq] at hok
  obtain ⟨_, _, hok⟩ := hok
  split at hok
  · simp only [pure_eq_ok, Prod.mk.injEq] at hok
    obtain ⟨_, rfl⟩ := hok
    exact SessionsRewritten.of_updateWhere (fun _ => rfl) rfl
  · simp only [pure_eq_ok, Prod.mk.injEq] at hok
    obtain ⟨_, rfl⟩ := hok
    exact SessionsRewritten.of_updateWhere (fun _ => rfl) rfl

theorem reserveDueIdleEviction_ok {lifecycleEpoch attachmentEpoch : Nat} {reserved : Option Session}
    (hok : store.reserveDueIdleEviction pubkey generation lifecycleEpoch attachmentEpoch now =
      .ok (reserved, after)) :
    SessionsRewritten store after
      (store.evictionApplies pubkey generation lifecycleEpoch attachmentEpoch now)
      (fun row => row.evictionReserved now) := by
  simp only [reserveDueIdleEviction, bind_eq_ok, updateSessions, decide_eq_true_eq] at hok
  obtain ⟨_, _, hok⟩ := hok
  split at hok
  · simp only [pure_eq_ok, Prod.mk.injEq] at hok
    obtain ⟨_, rfl⟩ := hok
    exact SessionsRewritten.of_updateWhere (fun _ => rfl) rfl
  · simp only [pure_eq_ok, Prod.mk.injEq] at hok
    obtain ⟨_, rfl⟩ := hok
    exact SessionsRewritten.of_updateWhere (fun _ => rfl) rfl

theorem finalizeRuntimeStoppedIfEpoch_ok
    {stoppingLifecycleEpoch stoppedAt : Nat} {reason : StopReason} {stopped : Option Session}
    (hok : store.finalizeRuntimeStoppedIfEpoch pubkey generation stoppingLifecycleEpoch reason
      stoppedAt = .ok (stopped, after)) :
    SessionsRewritten store after
      (fun row => row.pubkey = pubkey ∧ row.runtimeGeneration = generation ∧
        row.runtimeState = .stopping ∧ row.lifecycleEpoch = stoppingLifecycleEpoch)
      (fun row => row.stopped reason stoppedAt) := by
  simp only [finalizeRuntimeStoppedIfEpoch, bind_eq_ok, updateSessions, decide_eq_true_eq] at hok
  obtain ⟨_, _, hok⟩ := hok
  split at hok
  · split at hok
    · cases hok
    · simp only [bind_eq_ok, pure_eq_ok, Prod.mk.injEq] at hok
      obtain ⟨_, hretained, _, rfl⟩ := hok
      exact SessionsRewritten.of_updateWhere (fun _ => rfl) (retainInTransaction_same hretained).sessions
  · simp only [pure_eq_ok, Prod.mk.injEq] at hok
    obtain ⟨_, rfl⟩ := hok
    exact SessionsRewritten.of_eq rfl

theorem markRuntimeStoppedIfGeneration_ok {stoppedAt : Nat} {reason : StopReason} {changed : Bool}
    (hok : store.markRuntimeStoppedIfGeneration pubkey generation reason stoppedAt =
      .ok (changed, after)) :
    SessionsRewritten store after (isRunningGeneration pubkey generation)
      (fun row => row.stopped reason stoppedAt) := by
  simp only [markRuntimeStoppedIfGeneration, bind_eq_ok, updateSessions, decide_eq_true_eq] at hok
  obtain ⟨_, _, hok⟩ := hok
  split at hok
  · split at hok
    · cases hok
    · simp only [bind_eq_ok, pure_eq_ok, Prod.mk.injEq] at hok
      obtain ⟨_, hretained, _, rfl⟩ := hok
      exact SessionsRewritten.of_updateWhere (fun _ => rfl) (retainInTransaction_same hretained).sessions
  · simp only [pure_eq_ok, Prod.mk.injEq] at hok
    obtain ⟨_, rfl⟩ := hok
    exact SessionsRewritten.of_updateWhere (fun _ => rfl) rfl

theorem finalizeSessionRecoveryRevocation_ok {runtimeGeneration : Nat} {changed : Bool}
    (hok : store.finalizeSessionRecoveryRevocation pubkey runtimeGeneration now =
      .ok (changed, after)) :
    SessionsRewritten store after
      (fun row => row.pubkey = pubkey ∧ row.runtimeGeneration = runtimeGeneration ∧
        row.recoveryState = .revoked)
      (fun row => row.stopped .revoked now) := by
  simp only [finalizeSessionRecoveryRevocation, bind_eq_ok, updateSessions, decide_eq_true_eq] at hok
  obtain ⟨_, _, hok⟩ := hok
  split at hok
  · split at hok
    · cases hok
    · simp only [pure_eq_ok, Prod.mk.injEq] at hok
      obtain ⟨_, rfl⟩ := hok
      exact SessionsRewritten.of_updateWhere (fun _ => rfl) rfl
  · simp only [pure_eq_ok, Prod.mk.injEq] at hok
    obtain ⟨_, rfl⟩ := hok
    exact SessionsRewritten.of_eq rfl

theorem reserveMcpActorSession_ok {agentSlug channel : String} {value : Unit}
    (hok : store.reserveMcpActorSession pubkey agentSlug channel now = .ok (value, after)) :
    store.sessions.find? pubkey = none ∧
      after.sessions = store.sessions.insertOrIgnore
        (Session.mcpActor pubkey agentSlug channel now) := by
  simp only [reserveMcpActorSession, bind_eq_ok, ensure_eq_ok, sessionExists, getSession,
    Option.isSome_eq_false_iff, Option.isNone_iff_eq_none] at hok
  obtain ⟨_, _, _, hfree, hok⟩ := hok
  refine ⟨hfree, ?_⟩
  unfold grantSessionRoute at hok
  split at hok
  · simp only [pure_eq_ok, Prod.mk.injEq] at hok
    rw [← hok.2]
  · simp only [bind_eq_ok, pure_eq_ok, Prod.mk.injEq] at hok
    obtain ⟨_, _, _, rfl⟩ := hok
    rfl

theorem activateMcpActor_ok {actorKey : String}
    {value : Unit} (hok : store.activateMcpActor actorKey pubkey now = .ok (value, after)) :
    SessionsRewritten store after
      (fun row => row.pubkey = pubkey ∧ row.runtimeState ≠ .stopping ∧
        row.recoveryState ≠ .revoked)
      (fun row => row.mcpActivated now) := by
  unfold activateMcpActor getSession at hok
  split at hok
  · cases hok
  · rename_i row hrow
    simp only [bind_eq_ok, ensure_eq_ok, pure_eq_ok, Prod.mk.injEq] at hok
    obtain ⟨_, hstopping, _, hrevoked, _, _, _, rfl⟩ := hok
    unfold SessionsRewritten
    dsimp only [markHandleLive]
    apply Table.RelatedBy.updateWhere
    · intro old
      exact Or.inl rfl
    · intro old hold hkey
      have hfind : store.sessions.find? pubkey = some old :=
        Table.find?_eq_some_iff.mpr ⟨hold, hkey⟩
      rw [hrow] at hfind
      cases hfind
      exact Or.inr ⟨⟨hkey, hstopping, hrevoked⟩, rfl⟩

theorem enqueueInbox_ok
    {eventId targetPubkey fromPubkey channelH body : String} {createdAt : Nat} {fresh : Bool}
    (hok : store.enqueueInbox eventId targetPubkey fromPubkey channelH body createdAt =
      .ok (fresh, after)) :
    SessionsRewritten store after
      (fun row => store.inbox.find? (eventId, targetPubkey) = none ∧
        row.pubkey = targetPubkey ∧ row.runtimeState = .running)
      Session.disarmIdle := by
  simp only [enqueueInbox, bind_eq_ok, Option.isNone_iff_eq_none] at hok
  obtain ⟨_, _, hok⟩ := hok
  split at hok
  · rename_i hfresh
    simp only [pure_eq_ok, Prod.mk.injEq] at hok
    obtain ⟨_, rfl⟩ := hok
    unfold SessionsRewritten
    dsimp only
    apply Table.RelatedBy.updateWhere
    · intro row
      exact Or.inl rfl
    · intro row _ hguard
      exact Or.inr ⟨⟨hfresh, hguard⟩, rfl⟩
  · simp only [pure_eq_ok, Prod.mk.injEq] at hok
    obtain ⟨_, rfl⟩ := hok
    exact SessionsRewritten.of_eq rfl

end Store

end Mosaico
