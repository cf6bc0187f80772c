import Mosaico.Standing.Fence
import Mosaico.State.StopEdges

/-!
# Fences

An operation of a client that saw a session earlier carries what it saw: the runtime
generation, the lifecycle epoch or the attachment epoch.  It is applied only to a row that
still bears these values.  A generation begins once, when a stopped session is started,
and every change of the runtime state raises the lifecycle epoch, so what was once behind
the row stays behind.
-/

namespace Mosaico

open Relational Transition

/-- What an operation carries about the session of a pubkey. -/
structure Fence where
  pubkey : String
  generation : Option Nat
  lifecycleEpoch : Option Nat
  attachmentEpoch : Option Nat
  deriving DecidableEq, Repr

/-- A carried value is not the one of the row.  An attachment epoch may be ahead of the row
when it announces an edge. -/
def Fence.Stale (fence : Fence) (row : Session) : Prop :=
  (∃ generation ∈ fence.generation, generation ≠ row.runtimeGeneration) ∨
    (∃ epoch ∈ fence.lifecycleEpoch, epoch ≠ row.lifecycleEpoch) ∨
    (∃ epoch ∈ fence.attachmentEpoch, epoch < row.attachmentEpoch)

def LifecycleOp.fence : LifecycleOp → Option Fence
  | .applySessionPresentationEdge pubkey generation attachmentEpoch _ _ =>
      some ⟨pubkey, some generation, none, some attachmentEpoch⟩
  | .markSessionPresentationUnavailable pubkey generation attachmentEpoch _ =>
      some ⟨pubkey, some generation, none, some attachmentEpoch⟩
  | .applySessionTurnStarted pubkey generation _ => some ⟨pubkey, some generation, none, none⟩
  | .applySessionTurnEnded pubkey generation _ => some ⟨pubkey, some generation, none, none⟩
  | .cancelSessionIdleDeadlineForDelivery pubkey generation =>
      some ⟨pubkey, some generation, none, none⟩
  | .reserveDueIdleEviction pubkey generation lifecycleEpoch attachmentEpoch _ =>
      some ⟨pubkey, some generation, some lifecycleEpoch, some attachmentEpoch⟩
  | .cancelIdleEvictionOnPresentationChange pubkey generation stoppingLifecycleEpoch
      attachmentEpoch _ _ =>
      some ⟨pubkey, some generation, some stoppingLifecycleEpoch, some attachmentEpoch⟩
  | .finalizeRuntimeStoppedIfEpoch pubkey generation stoppingLifecycleEpoch _ _ =>
      some ⟨pubkey, some generation, some stoppingLifecycleEpoch, none⟩
  | .markRuntimeStoppedIfGeneration pubkey generation _ _ =>
      some ⟨pubkey, some generation, none, none⟩
  | .revokeSessionRecoveryIfGeneration pubkey runtimeGeneration =>
      some ⟨pubkey, some runtimeGeneration, none, none⟩
  | .finalizeSessionRecoveryRevocation pubkey runtimeGeneration _ =>
      some ⟨pubkey, some runtimeGeneration, none, none⟩
  | .reserveSessionWithFacts _ _ => none
  | .reserveMcpActorSession _ _ _ _ => none
  | .activateMcpActor _ _ _ => none

def StandingOp.fence : StandingOp → Option Fence
  | .commitConfirmedSessionAdmission pubkey _ runtimeGeneration lifecycleEpoch _ =>
      some ⟨pubkey, some runtimeGeneration, some lifecycleEpoch, none⟩
  | .scheduleConfirmedAdmissionCleanup pubkey _ runtimeGeneration lifecycleEpoch _ =>
      some ⟨pubkey, some runtimeGeneration, some lifecycleEpoch, none⟩
  | .markSessionStandingMemberIfRunning pubkey _ expectedLifecycleEpoch _ =>
      some ⟨pubkey, none, some expectedLifecycleEpoch, none⟩
  | .retainStoppedSessionRoutes pubkey expectedLifecycleEpoch _ _ =>
      some ⟨pubkey, none, some expectedLifecycleEpoch, none⟩
  | _ => none

/-- The fence of an operation against a session row.  The clearing of a locator and the
departure of a standing row are fenced by those rows. -/
def StoreOp.fence : StoreOp → Option Fence
  | .lifecycle op => op.fence
  | .standing op => op.fence
  | .context (.bindRuntimeProcess pubkey runtimeGeneration _ _) =>
      some ⟨pubkey, some runtimeGeneration, none, none⟩
  | _ => none

/-- The operation answers that it was applied; one without a fence always counts as applied. -/
def LifecycleOp.Applied (store : Store) : LifecycleOp → Prop
  | .applySessionPresentationEdge pubkey generation attachmentEpoch presentation instant =>
      changed (store.applySessionPresentationEdge pubkey generation attachmentEpoch presentation
        instant) = true
  | .markSessionPresentationUnavailable pubkey generation attachmentEpoch instant =>
      changed (store.markSessionPresentationUnavailable pubkey generation attachmentEpoch
        instant) = true
  | .applySessionTurnStarted pubkey generation instant =>
      changed (store.applySessionTurnStarted pubkey generation instant) = true
  | .applySessionTurnEnded pubkey generation instant =>
      changed (store.applySessionTurnEnded pubkey generation instant) = true
  | .cancelSessionIdleDeadlineForDelivery pubkey generation =>
      changed (store.cancelSessionIdleDeadlineForDelivery pubkey generation) = true
  | .reserveDueIdleEviction pubkey generation lifecycleEpoch attachmentEpoch now =>
      yields (store.reserveDueIdleEviction pubkey generation lifecycleEpoch attachmentEpoch
        now) = true
  | .cancelIdleEvictionOnPresentationChange pubkey generation stoppingLifecycleEpoch
      attachmentEpoch presentation instant =>
      changed (store.cancelIdleEvictionOnPresentationChange pubkey generation
        stoppingLifecycleEpoch attachmentEpoch presentation instant) = true
  | .finalizeRuntimeStoppedIfEpoch pubkey generation stoppingLifecycleEpoch reason stoppedAt =>
      yields (store.finalizeRuntimeStoppedIfEpoch pubkey generation stoppingLifecycleEpoch reason
        stoppedAt) = true
  | .markRuntimeStoppedIfGeneration pubkey generation reason stoppedAt =>
      changed (store.markRuntimeStoppedIfGeneration pubkey generation reason stoppedAt) = true
  | .revokeSessionRecoveryIfGeneration pubkey runtimeGeneration =>
      changed (store.revokeSessionRecoveryIfGeneration pubkey runtimeGeneration) = true
  | .finalizeSessionRecoveryRevocation pubkey runtimeGeneration now =>
      changed (store.finalizeSessionRecoveryRevocation pubkey runtimeGeneration now) = true
  | .reserveSessionWithFacts _ _ => True
  | .reserveMcpActorSession _ _ _ _ => True
  | .activateMcpActor _ _ _ => True

/-- A completed admission is applied if it is committed; otherwise it leaves work for the
cleanup. -/
def StandingOp.Applied (store : Store) : StandingOp → Prop
  | .commitConfirmedSessionAdmission pubkey channelH runtimeGeneration lifecycleEpoch now =>
      ∃ after, store.commitConfirmedSessionAdmission pubkey channelH runtimeGeneration
        lifecycleEpoch now = .ok (.committed, after)
  | .scheduleConfirmedAdmissionCleanup pubkey channelH runtimeGeneration lifecycleEpoch now =>
      ∃ after, store.scheduleConfirmedAdmissionCleanup pubkey channelH runtimeGeneration
        lifecycleEpoch now = .ok (.committed, after)
  | .markSessionStandingMemberIfRunning pubkey channelH expectedLifecycleEpoch now =>
      yields (store.markSessionStandingMemberIfRunning pubkey channelH expectedLifecycleEpoch
        now) = true
  | .retainStoppedSessionRoutes pubkey expectedLifecycleEpoch retainUntil now =>
      yields (store.retainStoppedSessionRoutes pubkey expectedLifecycleEpoch retainUntil
        now) = true
  | _ => True

def StoreOp.Applied (store : Store) : StoreOp → Prop
  | .lifecycle op => op.Applied store
  | .standing op => op.Applied store
  | .context (.bindRuntimeProcess pubkey runtimeGeneration childPid now) =>
      changed (store.bindRuntimeProcess pubkey runtimeGeneration childPid now) = true
  | _ => True

/-! ## What is applied is current -/

/-- The fence is current for the row of its pubkey. -/
def Fence.Current (fence : Fence) (store : Store) : Prop :=
  ∃ row, store.sessions.find? fence.pubkey = some row ∧ ¬ fence.Stale row

variable {fence : Fence} {row : Session} {store : Store}

theorem Fence.not_stale_iff :
    ¬ fence.Stale row ↔
      (∀ generation ∈ fence.generation, generation = row.runtimeGeneration) ∧
        (∀ epoch ∈ fence.lifecycleEpoch, epoch = row.lifecycleEpoch) ∧
        ∀ epoch ∈ fence.attachmentEpoch, row.attachmentEpoch ≤ epoch := by
  simp only [Fence.Stale, not_or, not_exists, not_and, not_not, not_lt]

namespace Store

variable {store after : Store} {pubkey : String}

/-- A guarded update that reports a change has found its row. -/
theorem exists_of_updateSessions {params : List Nat}
    {applies : Session → Prop} [DecidablePred applies] {assign : Session → Session}
    {hkey : ∀ row, (assign row).pubkey = row.pubkey}
    (hpubkey : ∀ row, applies row → row.pubkey = pubkey)
    (hok : (do
      bindParams params
      return store.updateSessions applies assign hkey) = .ok (true, after)) :
    ∃ row, store.sessions.find? pubkey = some row ∧ applies row := by
  simp only [bind_eq_ok, pure_eq_ok, updateSessions, Prod.mk.injEq, decide_eq_true_eq] at hok
  obtain ⟨_, _, hone, _⟩ := hok
  exact (matching_one_iff hpubkey).mp hone

theorem exists_of_turnEnded {generation instant : Nat}
    (hok : store.applySessionTurnEnded pubkey generation instant = .ok (true, after)) :
    ∃ row, store.sessions.find? pubkey = some row ∧ isRunningGeneration pubkey generation row := by
  simp only [applySessionTurnEnded, bind_eq_ok, updateSessions, decide_eq_true_eq] at hok
  obtain ⟨_, _, hok⟩ := hok
  split at hok
  · rename_i hone
    obtain ⟨row, hfind, hrow⟩ := (matching_one_iff (fun _ hrow => hrow.1.1)).mp hone
    exact ⟨row, hfind, hrow.1⟩
  · simp at hok

theorem exists_of_reserveDueIdleEviction
    {generation lifecycleEpoch attachmentEpoch now : Nat} {reserved : Session}
    (hok : store.reserveDueIdleEviction pubkey generation lifecycleEpoch attachmentEpoch now =
      .ok (some reserved, after)) :
    ∃ row, store.sessions.find? pubkey = some row ∧
      store.evictionApplies pubkey generation lifecycleEpoch attachmentEpoch now row := by
  simp only [reserveDueIdleEviction, bind_eq_ok, updateSessions, decide_eq_true_eq] at hok
  obtain ⟨_, _, hok⟩ := hok
  split at hok
  · rename_i hone
    exact (matching_one_iff (fun _ hrow => hrow.1)).mp hone
  · simp at hok

theorem exists_of_bindRuntimeProcess {runtimeGeneration now : Nat} {childPid : Option Int}
    (hok : store.bindRuntimeProcess pubkey runtimeGeneration childPid now = .ok (true, after)) :
    ∃ row, store.sessions.find? pubkey = some row ∧
      row.runtimeGeneration = runtimeGeneration := by
  simp only [bindRuntimeProcess, bind_eq_ok, pure_eq_ok, Prod.mk.injEq, decide_eq_true_eq] at hok
  obtain ⟨_, _, hone, _⟩ := hok
  obtain ⟨row, hrow, hbound⟩ := Table.matching_pos_iff.mp hone
  exact ⟨row, hbound.1 ▸ Table.mem_rows_iff.mp hrow, hbound.2.1⟩

end Store

/-- A fence that carries the values of the row is not stale. -/
theorem Fence.not_stale_of {pubkey : String}
    {generation lifecycleEpoch attachmentEpoch : Option Nat}
    (hgeneration : generation.all (fun value => value = row.runtimeGeneration))
    (hepoch : lifecycleEpoch.all (fun value => value = row.lifecycleEpoch))
    (hattachment : attachmentEpoch.all (fun value => row.attachmentEpoch ≤ value)) :
    ¬ (⟨pubkey, generation, lifecycleEpoch, attachmentEpoch⟩ : Fence).Stale row := by
  simp only [Option.all_eq_true, decide_eq_true_eq] at hgeneration hepoch hattachment
  exact Fence.not_stale_iff.mpr ⟨hgeneration, hepoch, hattachment⟩

theorem Fence.current_of {pubkey : String} {generation lifecycleEpoch attachmentEpoch : Option Nat}
    (hfind : store.sessions.find? pubkey = some row)
    (hgeneration : generation.all (fun value => value = row.runtimeGeneration))
    (hepoch : lifecycleEpoch.all (fun value => value = row.lifecycleEpoch))
    (hattachment : attachmentEpoch.all (fun value => row.attachmentEpoch ≤ value)) :
    (⟨pubkey, generation, lifecycleEpoch, attachmentEpoch⟩ : Fence).Current store :=
  ⟨row, hfind, Fence.not_stale_of hgeneration hepoch hattachment⟩

theorem LifecycleOp.current_of_applied {op : LifecycleOp}
    (hfence : op.fence = some fence) (happlied : op.Applied store) : fence.Current store := by
  cases op with
  | reserveSessionWithFacts | reserveMcpActorSession | activateMcpActor => cases hfence
  | applySessionPresentationEdge pubkey generation attachmentEpoch presentation instant =>
      cases hfence
      obtain ⟨after, hok⟩ := changed_iff.mp happlied
      obtain ⟨row, hfind, hrow⟩ := Store.exists_of_updateSessions (fun _ hrow => hrow.1.1) hok
      have hattachment : row.attachmentEpoch ≤ attachmentEpoch := by
        rcases hrow.2 with hless | ⟨heq, _⟩
        · exact hless.le
        · exact heq.le
      exact Fence.current_of hfind (decide_eq_true hrow.1.2.1.symm) rfl
        (decide_eq_true hattachment)
  | markSessionPresentationUnavailable pubkey generation attachmentEpoch instant =>
      cases hfence
      obtain ⟨after, hok⟩ := changed_iff.mp happlied
      obtain ⟨row, hfind, hrow⟩ := Store.exists_of_updateSessions (fun _ hrow => hrow.1.1) hok
      exact Fence.current_of hfind (decide_eq_true hrow.1.2.1.symm) rfl
        (decide_eq_true hrow.2.le)
  | applySessionTurnStarted pubkey generation instant
  | cancelSessionIdleDeadlineForDelivery pubkey generation =>
      cases hfence
      obtain ⟨after, hok⟩ := changed_iff.mp happlied
      obtain ⟨row, hfind, hrow⟩ := Store.exists_of_updateSessions (fun _ hrow => hrow.1) hok
      exact Fence.current_of hfind (decide_eq_true hrow.2.1.symm) rfl rfl
  | applySessionTurnEnded pubkey generation instant =>
      cases hfence
      obtain ⟨after, hok⟩ := changed_iff.mp happlied
      obtain ⟨row, hfind, hrow⟩ := Store.exists_of_turnEnded hok
      exact Fence.current_of hfind (decide_eq_true hrow.2.1.symm) rfl rfl
  | reserveDueIdleEviction pubkey generation lifecycleEpoch attachmentEpoch now =>
      cases hfence
      obtain ⟨reserved, after, hok⟩ := yields_iff.mp happlied
      obtain ⟨row, hfind, hrow⟩ := Store.exists_of_reserveDueIdleEviction hok
      exact Fence.current_of hfind (decide_eq_true hrow.2.1.symm)
        (decide_eq_true hrow.2.2.1.symm) (decide_eq_true hrow.2.2.2.1.le)
  | cancelIdleEvictionOnPresentationChange pubkey generation stoppingLifecycleEpoch
      attachmentEpoch presentation instant =>
      cases hfence
      obtain ⟨after, hok⟩ := changed_iff.mp happlied
      obtain ⟨row, hfind, hrow⟩ := Store.exists_of_updateSessions (fun _ hrow => hrow.1) hok
      have hattachment : row.attachmentEpoch ≤ attachmentEpoch := by
        rcases hrow.2.2.2.2 with hless | ⟨_, heq⟩
        · exact hless.le
        · exact heq.le
      exact Fence.current_of hfind (decide_eq_true hrow.2.1.symm)
        (decide_eq_true hrow.2.2.2.1.symm) (decide_eq_true hattachment)
  | finalizeRuntimeStoppedIfEpoch pubkey generation stoppingLifecycleEpoch reason stoppedAt =>
      cases hfence
      obtain ⟨stopped, after, hok⟩ := yields_iff.mp happlied
      rcases Store.finalizeRuntimeStoppedIfEpoch_spec hok with
        ⟨row, hfind, hrow, _⟩ | ⟨hnone, _⟩
      · exact Fence.current_of hfind (decide_eq_true hrow.2.1.symm)
          (decide_eq_true hrow.2.2.2.symm) rfl
      · cases hnone
  | markRuntimeStoppedIfGeneration pubkey generation reason stoppedAt =>
      cases hfence
      obtain ⟨after, hok⟩ := changed_iff.mp happlied
      rcases Store.markRuntimeStoppedIfGeneration_spec hok with
        ⟨_, row, hfind, hrow, _⟩ | ⟨hfalse, _⟩
      · exact Fence.current_of hfind (decide_eq_true hrow.2.1.symm) rfl rfl
      · cases hfalse
  | revokeSessionRecoveryIfGeneration pubkey runtimeGeneration =>
      cases hfence
      obtain ⟨after, hok⟩ := changed_iff.mp happlied
      obtain ⟨row, hfind, hrow⟩ := Store.exists_of_updateSessions (fun _ hrow => hrow.1) hok
      exact Fence.current_of hfind (decide_eq_true hrow.2.symm) rfl rfl
  | finalizeSessionRecoveryRevocation pubkey runtimeGeneration now =>
      cases hfence
      obtain ⟨after, hok⟩ := changed_iff.mp happlied
      rcases Store.finalizeSessionRecoveryRevocation_spec hok with
        ⟨hfalse, _⟩ | ⟨_, _, row, hfind, hgeneration, _⟩
      · cases hfalse
      · exact Fence.current_of hfind (decide_eq_true hgeneration.symm) rfl rfl

namespace Store

/-- The scheduling of a cleanup never answers that an admission is committed. -/
theorem cleanup_not_committed {store after : Store} {pubkey channelH : String}
    {lifecycleEpoch now : Nat}
    (hok : (do
      let (outcome, middle) ←
        store.scheduleCleanupInTransaction pubkey channelH lifecycleEpoch now
      middle.finishAdmissionOutcome pubkey channelH outcome) = .ok (.committed, after)) :
    False := by
  rw [bind_eq_ok] at hok
  obtain ⟨⟨outcome, middle⟩, _, hfinish⟩ := hok
  cases outcome with
  | cleanupDue =>
      simp only [finishAdmissionOutcome] at hfinish
      split at hfinish
      · cases hfinish
      · cases hfinish
  | superseded => cases hfinish

/-- The session that owns an admission bears its generation and its epoch. -/
theorem current_of_ownsAdmission {store : Store} {pubkey : String}
    {runtimeGeneration lifecycleEpoch : Nat}
    (howns : store.ownsAdmission pubkey runtimeGeneration lifecycleEpoch) :
    (⟨pubkey, some runtimeGeneration, some lifecycleEpoch, none⟩ : Fence).Current store := by
  obtain ⟨row, hfind, hrow⟩ := Table.any_key_iff.mp howns
  exact Fence.current_of hfind (decide_eq_true hrow.1.symm) (decide_eq_true hrow.2.1.symm) rfl

end Store

theorem StandingOp.current_of_applied {op : StandingOp}
    (hfence : op.fence = some fence) (happlied : op.Applied store) : fence.Current store := by
  cases op with
  | grantSessionRoute | revokeSessionRoute | revokeRouteAndMarkAbsent
  | markSessionStandingAbsentIfEpoch => cases hfence
  | commitConfirmedSessionAdmission pubkey channelH runtimeGeneration lifecycleEpoch now =>
      cases hfence
      obtain ⟨after, hok⟩ := happlied
      simp only [Store.commitConfirmedSessionAdmission, bind_eq_ok] at hok
      obtain ⟨_, _, hok⟩ := hok
      split at hok
      · rename_i howns
        exact Store.current_of_ownsAdmission howns
      · exact (Store.cleanup_not_committed hok).elim
  | scheduleConfirmedAdmissionCleanup pubkey channelH runtimeGeneration lifecycleEpoch now =>
      cases hfence
      obtain ⟨after, hok⟩ := happlied
      simp only [Store.scheduleConfirmedAdmissionCleanup, bind_eq_ok] at hok
      obtain ⟨_, _, hok⟩ := hok
      split at hok
      · rename_i hdurable
        exact Store.current_of_ownsAdmission hdurable.1
      · exact (Store.cleanup_not_committed hok).elim
  | markSessionStandingMemberIfRunning pubkey channelH expectedLifecycleEpoch now =>
      cases hfence
      obtain ⟨standingEpoch, after, hok⟩ := yields_iff.mp happlied
      simp only [Store.markSessionStandingMemberIfRunning, bind_eq_ok] at hok
      obtain ⟨_, _, hok⟩ := hok
      split at hok
      · rename_i hrunning
        obtain ⟨row, hfind, hrow⟩ := Table.any_key_iff.mp hrunning
        exact Fence.current_of hfind rfl (decide_eq_true hrow.2.1.symm) rfl
      · simp at hok
  | retainStoppedSessionRoutes pubkey expectedLifecycleEpoch retainUntil now =>
      cases hfence
      obtain ⟨rows, after, hok⟩ := yields_iff.mp happlied
      simp only [Store.retainStoppedSessionRoutes, bind_eq_ok] at hok
      obtain ⟨_, _, hok⟩ := hok
      split at hok
      · rename_i hstopped
        obtain ⟨row, hfind, hrow⟩ := Table.any_key_iff.mp hstopped
        exact Fence.current_of hfind rfl (decide_eq_true hrow.2.symm) rfl
      · simp at hok

/-- An operation that answers that it was applied carried nothing stale. -/
theorem StoreOp.current_of_applied {op : StoreOp}
    (hfence : op.fence = some fence) (happlied : op.Applied store) : fence.Current store := by
  cases op with
  | lifecycle op => exact LifecycleOp.current_of_applied hfence happlied
  | standing op => exact StandingOp.current_of_applied hfence happlied
  | inbox op | locator op => cases hfence
  | context op =>
      cases op with
      | bindRuntimeProcess pubkey runtimeGeneration childPid now =>
          cases hfence
          obtain ⟨after, hok⟩ := changed_iff.mp happlied
          obtain ⟨row, hfind, hgeneration⟩ := Store.exists_of_bindRuntimeProcess hok
          exact Fence.current_of hfind (decide_eq_true hgeneration.symm) rfl rfl
      | _ => cases hfence

/-! ## What is stale changes nothing -/

theorem LifecycleOp.not_stale_of_rewrites {op : LifecycleOp}
    {next : Session} (hfence : op.fence = some fence) (hop : op.Rewrites store row next) :
    ¬ fence.Stale row := by
  cases op with
  | reserveSessionWithFacts | reserveMcpActorSession | activateMcpActor => cases hfence
  | applySessionPresentationEdge pubkey generation attachmentEpoch presentation instant =>
      cases hfence
      have hattachment : row.attachmentEpoch ≤ attachmentEpoch := by
        rcases hop.1.2 with hless | ⟨heq, _⟩
        · exact hless.le
        · exact heq.le
      exact Fence.not_stale_of (decide_eq_true hop.1.1.2.1.symm) rfl (decide_eq_true hattachment)
  | markSessionPresentationUnavailable =>
      cases hfence
      exact Fence.not_stale_of (decide_eq_true hop.1.2.1.symm) rfl (decide_eq_true hop.2.1.le)
  | applySessionTurnStarted | applySessionTurnEnded | cancelSessionIdleDeadlineForDelivery
  | markRuntimeStoppedIfGeneration =>
      cases hfence
      exact Fence.not_stale_of (decide_eq_true hop.1.2.1.symm) rfl rfl
  | reserveDueIdleEviction =>
      cases hfence
      exact Fence.not_stale_of (decide_eq_true hop.1.2.1.symm)
        (decide_eq_true hop.1.2.2.1.symm) (decide_eq_true hop.1.2.2.2.1.le)
  | cancelIdleEvictionOnPresentationChange pubkey generation stoppingLifecycleEpoch
      attachmentEpoch presentation instant =>
      cases hfence
      have hattachment : row.attachmentEpoch ≤ attachmentEpoch := by
        rcases hop.1.2.2.2.2 with hless | ⟨_, heq⟩
        · exact hless.le
        · exact heq.le
      exact Fence.not_stale_of (decide_eq_true hop.1.2.1.symm)
        (decide_eq_true hop.1.2.2.2.1.symm) (decide_eq_true hattachment)
  | finalizeRuntimeStoppedIfEpoch =>
      cases hfence
      exact Fence.not_stale_of (decide_eq_true hop.2.1.symm)
        (decide_eq_true hop.2.2.2.1.symm) rfl
  | revokeSessionRecoveryIfGeneration | finalizeSessionRecoveryRevocation =>
      cases hfence
      exact Fence.not_stale_of (decide_eq_true hop.2.1.symm) rfl rfl

namespace Store

theorem bindRuntimeProcess_of_stale {store : Store} {pubkey : String}
    {runtimeGeneration now : Nat} {childPid : Option Int} {row : Session}
    (hfind : store.sessions.find? pubkey = some row)
    (hstale : row.runtimeGeneration ≠ runtimeGeneration) :
    (store.contextStep (.bindRuntimeProcess pubkey runtimeGeneration childPid
      now)).sessions.find? pubkey = some row := by
  show (commit (store.bindRuntimeProcess pubkey runtimeGeneration childPid
    now) store).sessions.find? pubkey = some row
  cases hok : store.bindRuntimeProcess pubkey runtimeGeneration childPid now with
  | error error => exact hfind
  | ok result =>
      simp only [bindRuntimeProcess, bind_eq_ok, pure_eq_ok] at hok
      obtain ⟨_, _, rfl⟩ := hok
      rw [commit_ok]
      dsimp only
      rw [Table.find?_updateWhere_of_not, hfind]
      intro other hother hbound
      rw [hfind, Option.some.injEq] at hother
      exact hstale (hother ▸ hbound.2.1)

/-- An operation that carries something stale leaves the row as it is. -/
theorem step_of_stale {store : Store} {op : StoreOp} {fence : Fence} {row : Session}
    (hfence : op.fence = some fence) (hfind : store.sessions.find? fence.pubkey = some row)
    (hstale : fence.Stale row) : (store.step op).sessions.find? fence.pubkey = some row := by
  obtain ⟨next, hnext, rfl | hrewrites⟩ := step_session op hfind
  · exact hnext
  · cases op with
    | lifecycle op => exact absurd hstale (LifecycleOp.not_stale_of_rewrites hfence hrewrites)
    | standing op => exact hrewrites.elim
    | inbox op | locator op => cases hfence
    | context op =>
        cases op with
        | bindRuntimeProcess pubkey runtimeGeneration childPid now =>
            cases hfence
            refine bindRuntimeProcess_of_stale hfind ?_
            intro heq
            exact absurd hstale (Fence.not_stale_of (decide_eq_true heq.symm) rfl rfl)
        | _ => cases hfence

theorem not_applied_of_stale {store : Store} {op : StoreOp} {fence : Fence} {row : Session}
    (hfence : op.fence = some fence) (hfind : store.sessions.find? fence.pubkey = some row)
    (hstale : fence.Stale row) : ¬ op.Applied store := by
  intro happlied
  obtain ⟨current, hcurrent, hfresh⟩ := StoreOp.current_of_applied hfence happlied
  rw [hfind, Option.some.injEq] at hcurrent
  exact hfresh (hcurrent ▸ hstale)

end Store

/-! ## Generations and epochs -/

/-- A new generation starts a stopped session, and is the next one. -/
theorem StoreOp.rewrites_generation {next : Session} {op : StoreOp}
    (hop : op.Rewrites store row next) (hnew : next.runtimeGeneration ≠ row.runtimeGeneration) :
    row.runtimeState = .stopped ∧ next.runtimeState = .running ∧
      next.runtimeGeneration = row.runtimeGeneration + 1 := by
  obtain ⟨hstopped, ⟨r, facts, rfl, _⟩ | ⟨actorKey, now, rfl⟩⟩ :=
    StoreOp.rewrites_runtimeGeneration hop hnew
  · rw [hop.2.2.2]
    exact ⟨hstopped, rfl, rfl⟩
  · rw [hop.2.2.2]
    refine ⟨hstopped, rfl, ?_⟩
    simp only [Session.mcpActivated, hstopped, if_true]

/-- A change of the runtime state raises the lifecycle epoch. -/
theorem StoreOp.rewrites_runtimeState {next : Session} {op : StoreOp}
    (hop : op.Rewrites store row next) (hchange : next.runtimeState ≠ row.runtimeState) :
    row.lifecycleEpoch < next.lifecycleEpoch := by
  cases op with
  | lifecycle op =>
      cases op with
      | reserveSessionWithFacts | finalizeSessionRecoveryRevocation =>
          rw [hop.2.2.2]; exact Nat.lt_succ_self _
      | applySessionPresentationEdge | applySessionTurnStarted
      | cancelSessionIdleDeadlineForDelivery => exact absurd (by rw [hop.2]; rfl) hchange
      | markSessionPresentationUnavailable | applySessionTurnEnded =>
          exact absurd (by rw [hop.2.2]; rfl) hchange
      | reserveDueIdleEviction | cancelIdleEvictionOnPresentationChange =>
          rw [hop.2]; exact Nat.lt_succ_self _
      | finalizeRuntimeStoppedIfEpoch => rw [hop.2.2.2.2]; exact Nat.lt_succ_self _
      | markRuntimeStoppedIfGeneration => rw [hop.2]; exact Nat.lt_succ_self _
      | revokeSessionRecoveryIfGeneration => exact absurd (by rw [hop.2.2]) hchange
      | reserveMcpActorSession => exact hop.elim
      | activateMcpActor =>
          obtain ⟨_, hstopping, _, rfl⟩ := hop
          have hstopped : row.runtimeState = .stopped := by
            cases hstate : row.runtimeState with
            | stopped => rfl
            | stopping => exact absurd hstate hstopping
            | running => exact absurd hstate.symm hchange
          simp [Session.mcpActivated, hstopped]
  | inbox op =>
      cases op with
      | enqueueInbox => exact absurd (by rw [hop.2.2.2]; rfl) hchange
      | _ => exact hop.elim
  | locator op => exact absurd hop.runtimeState hchange
  | standing op => exact hop.elim
  | context op => exact absurd hop.1.runtimeState hchange

/-! ## Locators and standing rows -/

namespace Store

/-- The clearing of a locator of another generation answers that nothing was cleared. -/
theorem clearRuntimeLocatorIfGeneration_of_stale {store : Store} {pubkey locatorKind : String}
    {runtimeGeneration now : Nat}
    (hstale : ∀ locator ∈ store.sessionLocators.rows, locator.pubkey = pubkey →
      locator.locatorKind = locatorKind → locator.runtimeGeneration ≠ runtimeGeneration) :
    changed (store.clearRuntimeLocatorIfGeneration pubkey locatorKind runtimeGeneration
        now) = false ∧
      (∀ k, (store.step (.locator (.clearRuntimeLocatorIfGeneration pubkey locatorKind
        runtimeGeneration now))).sessions.find? k = store.sessions.find? k) ∧
      ∀ k, (store.step (.locator (.clearRuntimeLocatorIfGeneration pubkey locatorKind
        runtimeGeneration now))).sessionLocators.find? k = store.sessionLocators.find? k := by
  show _ ∧ (∀ k, (commit (store.clearRuntimeLocatorIfGeneration pubkey locatorKind
    runtimeGeneration now) store).sessions.find? k = _) ∧
    ∀ k, (commit (store.clearRuntimeLocatorIfGeneration pubkey locatorKind
      runtimeGeneration now) store).sessionLocators.find? k = _
  cases hok : store.clearRuntimeLocatorIfGeneration pubkey locatorKind runtimeGeneration now with
  | error error => exact ⟨rfl, fun _ => rfl, fun _ => rfl⟩
  | ok result =>
      have hnone : ¬ store.sessionLocators.Any (fun row => row.pubkey = pubkey ∧
          row.locatorKind = locatorKind ∧ row.runtimeGeneration = runtimeGeneration ∧
          store.sessions.Any (fun session =>
            session.pubkey = pubkey ∧ session.observedHarness = row.harness)) := by
        rintro ⟨locator, hlocator, hpubkey, hkind, hgeneration, _⟩
        exact hstale locator hlocator hpubkey hkind hgeneration
      simp only [clearRuntimeLocatorIfGeneration, bind_eq_ok, hnone, decide_false,
        Bool.false_eq_true, false_and, if_false, pure_eq_ok] at hok
      obtain ⟨_, _, _, _, rfl⟩ := hok
      refine ⟨rfl, fun _ => rfl, ?_⟩
      intro k
      rw [commit_ok]
      dsimp only
      rw [Table.find?_deleteWhere]
      cases hlocator : store.sessionLocators.find? k with
      | none => rfl
      | some locator =>
          rw [Option.filter_some, if_pos]
          apply decide_eq_true
          rintro ⟨hpubkey, hkind, hgeneration, _⟩
          exact hstale locator (Table.mem_of_find? hlocator) hpubkey hkind hgeneration

/-- The clearing of a locator of another generation leaves the session row as it is. -/
theorem clearRuntimeLocatorIfGeneration_session {store : Store} {pubkey locatorKind : String}
    {runtimeGeneration now : Nat} {row : Session}
    (hfind : store.sessions.find? pubkey = some row)
    (hstale : row.runtimeGeneration ≠ runtimeGeneration) :
    (store.step (.locator (.clearRuntimeLocatorIfGeneration pubkey locatorKind runtimeGeneration
      now))).sessions.find? pubkey = some row := by
  show (commit (store.clearRuntimeLocatorIfGeneration pubkey locatorKind runtimeGeneration
    now) store).sessions.find? pubkey = some row
  cases hok : store.clearRuntimeLocatorIfGeneration pubkey locatorKind runtimeGeneration now with
  | error error => exact hfind
  | ok result =>
      simp only [clearRuntimeLocatorIfGeneration, bind_eq_ok] at hok
      obtain ⟨_, _, _, _, hok⟩ := hok
      split at hok
      · simp only [bind_eq_ok, pure_eq_ok] at hok
        obtain ⟨_, _, rfl⟩ := hok
        rw [commit_ok]
        dsimp only [touchIdleRunning]
        rw [Table.find?_updateWhere_of_not, hfind]
        intro other hother hbound
        rw [hfind, Option.some.injEq] at hother
        exact hstale (hother ▸ hbound.1.2.1)
      · rw [pure_eq_ok] at hok
        subst hok
        exact hfind

/-- A departure that carries another epoch than the standing row answers that nothing was
written. -/
theorem markSessionStandingAbsentIfEpoch_of_stale {store : Store} {pubkey channelH : String}
    {expectedState : StandingState} {standingEpoch sessionLifecycleEpoch now : Nat}
    {row : SessionStanding} (hfind : store.sessionStanding.find? (pubkey, channelH) = some row)
    (hstale : row.standingEpoch ≠ standingEpoch ∨
      row.sessionLifecycleEpoch ≠ sessionLifecycleEpoch) :
    changed (store.markSessionStandingAbsentIfEpoch pubkey channelH expectedState standingEpoch
        sessionLifecycleEpoch now) = false ∧
      (store.step (.standing (.markSessionStandingAbsentIfEpoch pubkey channelH expectedState
        standingEpoch sessionLifecycleEpoch now))).sessionStanding.find? (pubkey, channelH) =
          some row := by
  show _ ∧ (commit (store.markSessionStandingAbsentIfEpoch pubkey channelH expectedState
    standingEpoch sessionLifecycleEpoch now) store).sessionStanding.find? (pubkey, channelH) = _
  cases hok : store.markSessionStandingAbsentIfEpoch pubkey channelH expectedState standingEpoch
    sessionLifecycleEpoch now with
  | error error => exact ⟨rfl, hfind⟩
  | ok result =>
      have hother : ∀ other, store.sessionStanding.find? (pubkey, channelH) = some other →
          ¬ (other.key = (pubkey, channelH) ∧ other.state = expectedState ∧
            other.standingEpoch = standingEpoch ∧
            other.sessionLifecycleEpoch = sessionLifecycleEpoch) := by
        rintro other hother ⟨_, _, hstanding, hlifecycle⟩
        rw [hfind, Option.some.injEq] at hother
        subst hother
        rcases hstale with hne | hne
        · exact hne hstanding
        · exact hne hlifecycle
      simp only [markSessionStandingAbsentIfEpoch, bind_eq_ok, pure_eq_ok] at hok
      obtain ⟨_, _, rfl⟩ := hok
      rw [commit_ok]
      constructor
      · apply decide_eq_false
        intro hone
        obtain ⟨other, hmem, howned⟩ :=
          Table.matching_pos_iff.mp (Nat.lt_of_lt_of_eq Nat.one_pos hone.symm)
        exact hother other (howned.1 ▸ Table.mem_rows_iff.mp hmem) howned
      · dsimp only
        rw [Table.find?_updateWhere_of_not, hfind]
        exact hother

end Store

/-! ## Runs -/

/-- What an operation may do to the sessions, whatever it carries. -/
structure Fenced (store : Store) (op : StoreOp) : Prop where
  persists : ∀ pubkey row, store.sessions.find? pubkey = some row →
    ∃ next, (store.step op).sessions.find? pubkey = some next
  /-- A generation changes when a stopped session is started, and by one. -/
  generation : ∀ pubkey row next, store.sessions.find? pubkey = some row →
    (store.step op).sessions.find? pubkey = some next →
    next.runtimeGeneration ≠ row.runtimeGeneration →
      row.runtimeState = .stopped ∧ next.runtimeState = .running ∧
        next.runtimeGeneration = row.runtimeGeneration + 1
  epoch : ∀ pubkey row next, store.sessions.find? pubkey = some row →
    (store.step op).sessions.find? pubkey = some next →
    next.runtimeState ≠ row.runtimeState → row.lifecycleEpoch < next.lifecycleEpoch
  /-- An operation that carries something stale is not applied. -/
  stale : ∀ fence row, op.fence = some fence →
    store.sessions.find? fence.pubkey = some row → fence.Stale row →
      ¬ op.Applied store ∧ (store.step op).sessions.find? fence.pubkey = some row
  /-- The clearing of a locator is fenced by the locators, and by the session that it would
  touch. -/
  locator : ∀ pubkey locatorKind runtimeGeneration now,
    op = .locator (.clearRuntimeLocatorIfGeneration pubkey locatorKind runtimeGeneration now) →
    (∀ row, store.sessions.find? pubkey = some row → row.runtimeGeneration ≠ runtimeGeneration →
      (store.step op).sessions.find? pubkey = some row) ∧
    ((∀ locator ∈ store.sessionLocators.rows, locator.pubkey = pubkey →
        locator.locatorKind = locatorKind → locator.runtimeGeneration ≠ runtimeGeneration) →
      changed (store.clearRuntimeLocatorIfGeneration pubkey locatorKind runtimeGeneration
          now) = false ∧
        (∀ k, (store.step op).sessions.find? k = store.sessions.find? k) ∧
        ∀ k, (store.step op).sessionLocators.find? k = store.sessionLocators.find? k)
  /-- A departure is fenced by the standing row. -/
  standing : ∀ pubkey channelH expectedState standingEpoch sessionLifecycleEpoch now row,
    op = .standing (.markSessionStandingAbsentIfEpoch pubkey channelH expectedState standingEpoch
      sessionLifecycleEpoch now) →
    store.sessionStanding.find? (pubkey, channelH) = some row →
    row.standingEpoch ≠ standingEpoch ∨ row.sessionLifecycleEpoch ≠ sessionLifecycleEpoch →
      changed (store.markSessionStandingAbsentIfEpoch pubkey channelH expectedState standingEpoch
          sessionLifecycleEpoch now) = false ∧
        (store.step op).sessionStanding.find? (pubkey, channelH) = some row

theorem step_fenced (store : Store) (op : StoreOp) : Fenced store op where
  persists := by
    intro pubkey row hfind
    obtain ⟨next, hnext, _⟩ := Store.step_session op hfind
    exact ⟨next, hnext⟩
  generation := by
    intro pubkey row next hfind hnext hnew
    obtain ⟨other, hother, rfl | hrewrites⟩ := Store.step_session op hfind
    · rw [hnext, Option.some.injEq] at hother
      exact absurd (congrArg Session.runtimeGeneration hother) hnew
    · rw [hnext, Option.some.injEq] at hother
      subst hother
      exact StoreOp.rewrites_generation hrewrites hnew
  epoch := by
    intro pubkey row next hfind hnext hchange
    obtain ⟨other, hother, rfl | hrewrites⟩ := Store.step_session op hfind
    · rw [hnext, Option.some.injEq] at hother
      exact absurd (congrArg Session.runtimeState hother) hchange
    · rw [hnext, Option.some.injEq] at hother
      subst hother
      exact StoreOp.rewrites_runtimeState hrewrites hchange
  stale := fun _ _ hfence hfind hstale =>
    ⟨Store.not_applied_of_stale hfence hfind hstale, Store.step_of_stale hfence hfind hstale⟩
  locator := by
    rintro pubkey locatorKind runtimeGeneration now rfl
    exact ⟨fun _ hfind hstale => Store.clearRuntimeLocatorIfGeneration_session hfind hstale,
      Store.clearRuntimeLocatorIfGeneration_of_stale⟩
  standing := by
    rintro pubkey channelH expectedState standingEpoch sessionLifecycleEpoch now row rfl hfind
    exact Store.markSessionStandingAbsentIfEpoch_of_stale hfind

/-- The generation of the pubkey begins with the operation. -/
def Reserves (store : Store) (op : StoreOp) (pubkey : String) (generation : Nat) : Prop :=
  (∃ next, (store.step op).sessions.find? pubkey = some next ∧
      next.runtimeGeneration = generation) ∧
    ∀ row, store.sessions.find? pubkey = some row → row.runtimeGeneration ≠ generation

/-- A fence carries a generation or an epoch that the row has left. -/
def Fence.Behind (fence : Fence) (row : Session) : Prop :=
  (∃ generation ∈ fence.generation, generation < row.runtimeGeneration) ∨
    ∃ epoch ∈ fence.lifecycleEpoch, epoch < row.lifecycleEpoch

theorem Fence.Behind.stale (hbehind : fence.Behind row) :
    fence.Stale row := by
  rcases hbehind with ⟨generation, hgeneration, hless⟩ | ⟨epoch, hepoch, hless⟩
  · exact Or.inl ⟨generation, hgeneration, hless.ne⟩
  · exact Or.inr (Or.inl ⟨epoch, hepoch, hless.ne⟩)

namespace Store

/-- Through any operations a session persists, and neither its generation nor its epoch
falls. -/
theorem run_session_le {store : Store} {pubkey : String} {row : Session}
    (hfind : store.sessions.find? pubkey = some row) (ops : List StoreOp) :
    ∃ next, (run Store.step store ops).sessions.find? pubkey = some next ∧
      row.runtimeGeneration ≤ next.runtimeGeneration ∧
      row.lifecycleEpoch ≤ next.lifecycleEpoch := by
  induction ops generalizing store row with
  | nil => exact ⟨row, hfind, le_rfl, le_rfl⟩
  | cons op rest ih =>
      obtain ⟨next, hnext, hchange⟩ := step_session op hfind
      obtain ⟨last, hlast, hgeneration, hepoch⟩ := ih hnext
      have hstep : row.runtimeGeneration ≤ next.runtimeGeneration ∧
          row.lifecycleEpoch ≤ next.lifecycleEpoch := by
        rcases hchange with rfl | hrewrites
        · exact ⟨le_rfl, le_rfl⟩
        · refine ⟨?_, StoreOp.rewrites_lifecycleEpoch_le hrewrites⟩
          rcases StoreOp.rewrites_precedes hrewrites with hless | ⟨heq, _⟩
          · exact hless.le
          · exact heq.le
      exact ⟨last, hlast, hstep.1.trans hgeneration, hstep.2.trans hepoch⟩

end Store

/-- What is behind a row stays behind it. -/
theorem Fence.Behind.run
    (hfind : store.sessions.find? fence.pubkey = some row) (hbehind : fence.Behind row)
    (ops : List StoreOp) :
    ∃ next, (run Store.step store ops).sessions.find? fence.pubkey = some next ∧
      fence.Behind next := by
  obtain ⟨next, hnext, hgeneration, hepoch⟩ := Store.run_session_le hfind ops
  refine ⟨next, hnext, ?_⟩
  rcases hbehind with ⟨carried, hcarried, hless⟩ | ⟨carried, hcarried, hless⟩
  · exact Or.inl ⟨carried, hcarried, hless.trans_le hgeneration⟩
  · exact Or.inr ⟨carried, hcarried, hless.trans_le hepoch⟩

/-- The cancellation of an eviction leaves the epoch behind that its finalization carries. -/
theorem behind_of_cancelled {pubkey : String}
    {generation stoppingLifecycleEpoch attachmentEpoch instant stoppedAt : Nat}
    {presentation : PresentationState} {reason : StopReason}
    (hcancelled : StoreOp.Applied store (.lifecycle (.cancelIdleEvictionOnPresentationChange pubkey
      generation stoppingLifecycleEpoch attachmentEpoch presentation instant)))
    (hfence : StoreOp.fence (.lifecycle (.finalizeRuntimeStoppedIfEpoch pubkey generation
      stoppingLifecycleEpoch reason stoppedAt)) = some fence) :
    ∃ next, (store.step (.lifecycle (.cancelIdleEvictionOnPresentationChange pubkey generation
      stoppingLifecycleEpoch attachmentEpoch presentation instant))).sessions.find?
        fence.pubkey = some next ∧ fence.Behind next := by
  cases hfence
  have hedge := Store.commit_updateSessions_find? store
    [generation, stoppingLifecycleEpoch, attachmentEpoch, instant,
      Rust.saturatingAdd instant headlessIdleTimeoutSecs]
    (Store.evictionCancelApplies pubkey generation stoppingLifecycleEpoch attachmentEpoch
      presentation)
    (fun row => row.evictionCancelled attachmentEpoch presentation instant)
    (fun _ => rfl) (fun _ hrow => hrow.1) pubkey
  rcases hedge with ⟨_, _, row, _, hrow, hnext⟩ | ⟨hfalse, _⟩
  · refine ⟨_, hnext, Or.inr ⟨stoppingLifecycleEpoch, rfl, ?_⟩⟩
    show stoppingLifecycleEpoch < row.lifecycleEpoch + 1
    rw [hrow.2.2.2.1]
    exact Nat.lt_succ_self _
  · have htrue : changed _ = true := hcancelled
    exact absurd (htrue.symm.trans (hfalse rfl)) (by decide)

/-- Every operation of every run is fenced, a generation begins once, and an operation that
carries a generation or an epoch that its session has left is never applied again, such as
the finalization of a cancelled eviction. -/
theorem run_fenced (start : Store) (ops : List StoreOp) :
    (∀ before op after, ops = before ++ op :: after →
      Fenced (run Store.step start before) op) ∧
    (∀ before first middle second after pubkey generation,
      ops = before ++ first :: (middle ++ second :: after) →
      Reserves (run Store.step start before) first pubkey generation →
      ¬ Reserves (run Store.step start (before ++ first :: middle)) second pubkey generation) ∧
    (∀ before op after fence row, ops = before ++ op :: after → op.fence = some fence →
      start.sessions.find? fence.pubkey = some row → fence.Behind row →
      ¬ op.Applied (run Store.step start before) ∧
        ((run Store.step start before).step op).sessions.find? fence.pubkey =
          (run Store.step start before).sessions.find? fence.pubkey) ∧
    (∀ before cancel middle finalize after pubkey generation stoppingLifecycleEpoch
        attachmentEpoch presentation instant reason stoppedAt,
      ops = before ++ cancel :: (middle ++ finalize :: after) →
      cancel = .lifecycle (.cancelIdleEvictionOnPresentationChange pubkey generation
        stoppingLifecycleEpoch attachmentEpoch presentation instant) →
      finalize = .lifecycle (.finalizeRuntimeStoppedIfEpoch pubkey generation
        stoppingLifecycleEpoch reason stoppedAt) →
      cancel.Applied (run Store.step start before) →
      ¬ finalize.Applied (run Store.step start (before ++ cancel :: middle)) ∧
        ((run Store.step start (before ++ cancel :: middle)).step finalize).sessions.find? pubkey =
          (run Store.step start (before ++ cancel :: middle)).sessions.find? pubkey) := by
  have hsplit : ∀ before (first : StoreOp) middle,
      run Store.step start (before ++ first :: middle) =
        run Store.step ((run Store.step start before).step first) middle := by
    intro before first middle
    rw [run_append]
    rfl
  refine ⟨fun before op _ _ => step_fenced _ op, ?_, ?_, ?_⟩
  · rintro before first middle second after pubkey generation - ⟨⟨row, hrow, hfirst⟩, _⟩
      ⟨⟨next, hnext, hsecond⟩, hfresh⟩
    rw [hsplit] at hnext hfresh
    -- Generations do not go back, and a fresh one is above those before it.
    obtain ⟨last, hlast, hgeneration, _⟩ := Store.run_session_le hrow middle
    have hlater := (step_fenced _ second).generation pubkey last next hlast hnext
    have hne : last.runtimeGeneration ≠ generation := hfresh last hlast
    by_cases hsame : next.runtimeGeneration = last.runtimeGeneration
    · exact hne (hsame.symm.trans hsecond)
    · have hnew := (hlater hsame).2.2
      omega
  · rintro before op after fence row - hfence hfind hbehind
    -- A fence that is behind its row stays behind it.
    obtain ⟨next, hnext, hstill⟩ := hbehind.run hfind before
    obtain ⟨hrefused, hkept⟩ := (step_fenced _ op).stale fence next hfence hnext hstill.stale
    exact ⟨hrefused, hkept.trans hnext.symm⟩
  · rintro before cancel middle finalize after pubkey generation stoppingLifecycleEpoch
      attachmentEpoch presentation instant reason stoppedAt - rfl rfl hcancelled
    rw [hsplit]
    have hfence : StoreOp.fence (.lifecycle (.finalizeRuntimeStoppedIfEpoch pubkey generation
        stoppingLifecycleEpoch reason stoppedAt)) =
      some ⟨pubkey, some generation, some stoppingLifecycleEpoch, none⟩ := rfl
    obtain ⟨row, hrow, hbehind⟩ := behind_of_cancelled hcancelled hfence
    obtain ⟨next, hnext, hstill⟩ := hbehind.run hrow middle
    obtain ⟨hrefused, hkept⟩ := (step_fenced _ _).stale _ next hfence hnext hstill.stale
    exact ⟨hrefused, hkept.trans hnext.symm⟩

end Mosaico
