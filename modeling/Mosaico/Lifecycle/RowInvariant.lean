import Mosaico.State.SessionFrames

/-!
# The session lifecycle row invariant

The lifecycle of a session is spread over eight columns that a dozen statements
write independently.  `Session.LifecycleInvariant` is what ties them together:
an armed idle clock belongs to a running, headless and idle session, a stopping
session is one that idle eviction reserved, and a stopped session is inert.

One lemma says that each rewrite keeps the invariant, and the run theorem
follows because every row of a run comes from such a rewrite.
-/

namespace Mosaico

open Relational Transition

/-- What the lifecycle columns of one session row say together. -/
structure Session.LifecycleInvariant (row : Session) : Prop where
  /-- Only a running, headless and idle session has an idle deadline, and it is
  the start of the idle window plus the timeout. -/
  armed : 0 < row.idleDeadline →
    row.runtimeState = .running ∧ row.presentationState = .headless ∧
      row.workState = .idle ∧
      row.idleDeadline = Rust.saturatingAdd row.idleSince headlessIdleTimeoutSecs
  /-- Only idle eviction makes a session stopping. -/
  stopping : row.runtimeState = .stopping →
    row.workState = .idle ∧ row.presentationState = .headless ∧ row.idleDeadline = 0 ∧
      row.stopReason = some .idleEvicted
  /-- A stopped session has no presentation, no turn and no idle window. -/
  stopped : row.runtimeState = .stopped →
    row.presentationState = .unavailable ∧ row.workState = .idle ∧ row.idleSince = 0 ∧
      row.idleDeadline = 0 ∧ row.turnStartedAt = 0

namespace Session

/-! ## Rows that meet the invariant -/

theorem lifecycleInvariant_of_running {row : Session} (hrunning : row.runtimeState = .running)
    (harmed : 0 < row.idleDeadline →
      row.presentationState = .headless ∧ row.workState = .idle ∧
        row.idleDeadline = Rust.saturatingAdd row.idleSince headlessIdleTimeoutSecs) :
    row.LifecycleInvariant where
  armed := fun hpos => ⟨hrunning, harmed hpos⟩
  stopping := fun hstopping => by rw [hrunning] at hstopping; cases hstopping
  stopped := fun hstopped => by rw [hrunning] at hstopped; cases hstopped

/-- A running session without an idle deadline meets the invariant. -/
theorem lifecycleInvariant_of_disarmed {row : Session}
    (hrunning : row.runtimeState = .running) (hdisarmed : row.idleDeadline = 0) :
    row.LifecycleInvariant :=
  lifecycleInvariant_of_running hrunning (fun hpos => by omega)

theorem lifecycleInvariant_of_same {row next : Session} (hrow : row.LifecycleInvariant)
    (hsame : row.SameLifecycle next) : next.LifecycleInvariant := by
  constructor
  · rw [hsame.idleDeadline, hsame.runtimeState, hsame.presentationState, hsame.workState,
      hsame.idleSince]
    exact hrow.armed
  · rw [hsame.runtimeState, hsame.workState, hsame.presentationState, hsame.idleDeadline,
      hsame.stopReason]
    exact hrow.stopping
  · rw [hsame.runtimeState, hsame.presentationState, hsame.workState, hsame.idleSince,
      hsame.idleDeadline, hsame.turnStartedAt]
    exact hrow.stopped

theorem stopped_lifecycleInvariant (row : Session) (reason : StopReason) (stoppedAt : Nat) :
    (row.stopped reason stoppedAt).LifecycleInvariant where
  armed := fun hpos => absurd hpos (Nat.lt_irrefl 0)
  stopping := fun hstopping => by cases hstopping
  stopped := fun _ => ⟨rfl, rfl, rfl, rfl, rfl⟩

theorem registered_lifecycleInvariant (r : RegisterSession) (facts : AdmittedRuntimeFacts)
    (generation : Nat) : (Session.registered r facts generation).LifecycleInvariant :=
  lifecycleInvariant_of_disarmed rfl rfl

theorem mcpActor_lifecycleInvariant (pubkey agentSlug channel : String) (now : Nat) :
    (Session.mcpActor pubkey agentSlug channel now).LifecycleInvariant :=
  lifecycleInvariant_of_running rfl (fun _ => ⟨rfl, rfl, rfl⟩)

/-- The idle deadline of a headless edge is armed only while no turn is open. -/
theorem presentationEdge_lifecycleInvariant {row : Session} {attachmentEpoch : Nat}
    {presentation : PresentationState} {instant : Nat}
    (hrunning : row.runtimeState = .running) :
    (row.presentationEdge attachmentEpoch presentation instant).LifecycleInvariant := by
  refine lifecycleInvariant_of_running ?_ ?_
  · exact hrunning
  · intro hpos
    simp only [presentationEdge, idleDeadlineIf] at hpos ⊢
    by_cases harmed : presentation = .headless ∧ row.workState = .idle
    · simp [harmed]
    · simp [harmed] at hpos

theorem turnEnded_lifecycleInvariant {row : Session} {instant : Nat}
    (hrunning : row.runtimeState = .running) :
    (row.turnEnded instant).LifecycleInvariant := by
  refine lifecycleInvariant_of_running ?_ ?_
  · exact hrunning
  · intro hpos
    simp only [turnEnded, idleDeadlineIf] at hpos ⊢
    by_cases harmed : row.presentationState = .headless
    · simp [harmed]
    · simp [harmed] at hpos

/-- The eviction guard requires a headless and idle session. -/
theorem evictionReserved_lifecycleInvariant {row : Session} {now : Nat}
    (hpresentation : row.presentationState = .headless) (hwork : row.workState = .idle) :
    (row.evictionReserved now).LifecycleInvariant where
  armed := fun hpos => absurd hpos (Nat.lt_irrefl 0)
  stopping := fun _ => ⟨hwork, hpresentation, rfl, rfl⟩
  stopped := fun hstopped => by cases hstopped

/-- A cancelled eviction resumes the idle session it had reserved. -/
theorem evictionCancelled_lifecycleInvariant {row : Session} {attachmentEpoch : Nat}
    {presentation : PresentationState} {instant : Nat} (hwork : row.workState = .idle) :
    (row.evictionCancelled attachmentEpoch presentation instant).LifecycleInvariant := by
  apply lifecycleInvariant_of_running rfl
  intro hpos
  simp only [evictionCancelled, idleDeadlineIf] at hpos ⊢
  by_cases harmed : presentation = .headless
  · simp [harmed, hwork]
  · simp [harmed] at hpos

end Session

/-! ## One operation -/

theorem LifecycleOp.rewrites_lifecycleInvariant {store : Store} {row next : Session}
    {op : LifecycleOp} (hrow : row.LifecycleInvariant) (hop : op.Rewrites store row next) :
    next.LifecycleInvariant := by
  cases op with
  | reserveSessionWithFacts r facts =>
      obtain ⟨_, _, _, rfl⟩ := hop
      exact Session.lifecycleInvariant_of_disarmed rfl rfl
  | applySessionPresentationEdge pubkey generation attachmentEpoch presentation instant =>
      obtain ⟨⟨⟨_, _, hrunning⟩, _⟩, rfl⟩ := hop
      exact Session.presentationEdge_lifecycleInvariant hrunning
  | markSessionPresentationUnavailable pubkey generation attachmentEpoch instant =>
      obtain ⟨⟨_, _, hrunning⟩, _, rfl⟩ := hop
      exact Session.lifecycleInvariant_of_disarmed hrunning rfl
  | applySessionTurnStarted pubkey generation instant
  | cancelSessionIdleDeadlineForDelivery pubkey generation =>
      obtain ⟨⟨_, _, hrunning⟩, rfl⟩ := hop
      exact Session.lifecycleInvariant_of_disarmed hrunning rfl
  | applySessionTurnEnded pubkey generation instant =>
      obtain ⟨⟨_, _, hrunning⟩, _, rfl⟩ := hop
      exact Session.turnEnded_lifecycleInvariant hrunning
  | reserveDueIdleEviction pubkey generation lifecycleEpoch attachmentEpoch now =>
      obtain ⟨⟨_, _, _, _, ⟨_, hpresentation, hwork, _⟩, _⟩, rfl⟩ := hop
      exact Session.evictionReserved_lifecycleInvariant hpresentation hwork
  | cancelIdleEvictionOnPresentationChange pubkey generation stoppingLifecycleEpoch
      attachmentEpoch presentation instant =>
      obtain ⟨⟨_, _, hstopping, _⟩, rfl⟩ := hop
      exact Session.evictionCancelled_lifecycleInvariant (hrow.stopping hstopping).1
  | finalizeRuntimeStoppedIfEpoch pubkey generation stoppingLifecycleEpoch reason stoppedAt =>
      obtain ⟨_, _, _, _, rfl⟩ := hop
      exact row.stopped_lifecycleInvariant reason stoppedAt
  | markRuntimeStoppedIfGeneration pubkey generation reason stoppedAt =>
      obtain ⟨_, rfl⟩ := hop
      exact row.stopped_lifecycleInvariant reason stoppedAt
  | revokeSessionRecoveryIfGeneration pubkey runtimeGeneration =>
      obtain ⟨_, _, rfl⟩ := hop
      exact ⟨hrow.armed, hrow.stopping, hrow.stopped⟩
  | finalizeSessionRecoveryRevocation pubkey runtimeGeneration now =>
      obtain ⟨_, _, _, rfl⟩ := hop
      exact row.stopped_lifecycleInvariant .revoked now
  | reserveMcpActorSession pubkey agentSlug channel now => exact hop.elim
  | activateMcpActor actorKey pubkey now =>
      obtain ⟨_, _, _, rfl⟩ := hop
      exact Session.lifecycleInvariant_of_running rfl (fun _ => ⟨rfl, rfl, rfl⟩)

theorem StoreOp.rewrites_lifecycleInvariant {store : Store} {row next : Session} {op : StoreOp}
    (hrow : row.LifecycleInvariant) (hop : op.Rewrites store row next) :
    next.LifecycleInvariant := by
  cases op with
  | lifecycle op => exact op.rewrites_lifecycleInvariant hrow hop
  | inbox op =>
      cases op with
      | enqueueInbox eventId targetPubkey fromPubkey channelH body createdAt =>
          obtain ⟨_, _, hrunning, rfl⟩ := hop
          exact Session.lifecycleInvariant_of_disarmed hrunning rfl
      | _ => exact hop.elim
  | locator op => exact Session.lifecycleInvariant_of_same hrow hop
  | standing op => exact hop.elim
  | context op => exact Session.lifecycleInvariant_of_same hrow hop.1

theorem StoreOp.creates_lifecycleInvariant {next : Session} {op : StoreOp}
    (hop : op.Creates next) : next.LifecycleInvariant := by
  unfold StoreOp.Creates at hop
  split at hop
  · subst hop
    exact Session.registered_lifecycleInvariant _ _ 1
  · subst hop
    exact Session.mcpActor_lifecycleInvariant _ _ _ _
  · exact hop.elim

/-- One operation keeps the invariant of every session row. -/
theorem Store.step_lifecycleInvariant {store : Store} (op : StoreOp)
    (hstore : store.sessions.All Session.LifecycleInvariant) :
    (store.step op).sessions.All Session.LifecycleInvariant := by
  intro next hnext
  have hchange := Store.step_sessionChange store op next.pubkey
  rw [Table.mem_rows_iff.mp hnext] at hchange
  generalize hfind : some next = found at hchange
  cases hchange with
  | kept => exact hstore.find? hfind.symm
  | rewritten row next' hrow hrewrites =>
      cases hfind
      exact op.rewrites_lifecycleInvariant (hstore.find? hrow) hrewrites
  | created next' hfree hkey hcreates =>
      cases hfind
      exact op.creates_lifecycleInvariant hcreates

/-! ## Whole runs -/

/-- In every run of the store operations, in any order and with any arguments,
every session row satisfies the lifecycle invariant. -/
theorem run_lifecycleInvariant (ops : List StoreOp) :
    (run Store.step Store.empty ops).sessions.All Session.LifecycleInvariant :=
  run_invariant (I := fun store : Store => store.sessions.All Session.LifecycleInvariant)
    (Table.all_empty _) (fun _ op hstore => Store.step_lifecycleInvariant op hstore) ops

end Mosaico
