import Mosaico.Delivery.Doorbell
import Mosaico.Lifecycle.RowInvariant

/-!
# Overlapping native turns

A session row has one working bit, and the ledger may hold several open attempts of
the session.  The bit is right as long as no operation that sets the session idle
goes through while an attempt of the running generation is open: that is the only
way an open attempt loses its working session, and every such step is one.
-/

namespace Mosaico

open Relational Transition Concurrent

/-! ## Sessions that execute a native turn -/

namespace DeliveryState

/-- An attempt of the generation is open, and its turn start was applied. -/
def TurnOpen (state : DeliveryState) (pubkey : String) (generation : Nat) : Prop :=
  ∃ id ∈ state.applied, ∃ attempt, state.ledger.attempts.find? id = some attempt ∧
    attempt.pubkey = pubkey ∧ attempt.runtimeGeneration = generation ∧ attempt.Open

instance (state : DeliveryState) (pubkey : String) (generation : Nat) :
    Decidable (state.TurnOpen pubkey generation) :=
  inferInstanceAs (Decidable (∃ id ∈ state.applied, _))

/-- The session runs, and a native turn of its running generation is open. -/
def Executing (state : DeliveryState) (pubkey : String) (row : Session) : Prop :=
  state.store.getSession pubkey = some row ∧ row.runtimeState = .running ∧
    state.TurnOpen pubkey row.runtimeGeneration

instance (state : DeliveryState) (pubkey : String) (row : Session) :
    Decidable (state.Executing pubkey row) :=
  inferInstanceAs (Decidable (_ ∧ _))

/-- A session that executes a native turn is recorded working, and is never due for
an idle eviction. -/
def NeverIdle (state : DeliveryState) : Prop :=
  ∀ pubkey row, state.Executing pubkey row →
    row.workState = .working ∧ row.idleDeadline = 0 ∧ ∀ now, ¬ Store.evictionDue now row

end DeliveryState

/-! ## Operations that set a session idle -/

/-- The operation sets the running session idle.  It fails only when a parameter
cannot be bound, or the session is revoked. -/
def StoreOp.Rests (row : Session) : StoreOp → Prop
  | .lifecycle (.applySessionTurnEnded pubkey generation instant) =>
      row.pubkey = pubkey ∧ row.runtimeGeneration = generation ∧
        ∀ param ∈ [generation, instant, Rust.saturatingAdd instant headlessIdleTimeoutSecs],
          param ≤ Rust.i64Max
  | .lifecycle (.activateMcpActor _ pubkey now) =>
      row.pubkey = pubkey ∧ row.recoveryState ≠ .revoked ∧
        ∀ param ∈ [now, Rust.saturatingAdd now headlessIdleTimeoutSecs], param ≤ Rust.i64Max
  | _ => False

namespace Store

/-- The row is at work as long as its generation runs. -/
def AtWork (next : Session) : Prop :=
  next.runtimeState = .stopped ∨ (next.runtimeState = .running ∧ next.workState = .working)

variable {store : Store} {pubkey : String}

theorem turnEnded_of_storable {generation instant : Nat}
    (hparams : ∀ param ∈ [generation, instant, Rust.saturatingAdd instant headlessIdleTimeoutSecs],
      param ≤ Rust.i64Max) (k : String) :
    (store.step (.lifecycle (.applySessionTurnEnded pubkey generation instant))).sessions.find? k =
      (store.sessions.find? k).map (fun row =>
        if isRunningGeneration pubkey generation row ∧ row.workState = .working then
          row.turnEnded instant else row) := by
  have hbound : bindParams [generation, instant,
      Rust.saturatingAdd instant headlessIdleTimeoutSecs] = .ok () := bindParams_eq_ok.mpr hparams
  have hfound := Table.find?_updateWhere store.sessions (fun row =>
    isRunningGeneration pubkey generation row ∧ row.workState = .working)
    (fun row => row.turnEnded instant) (fun _ => rfl) k
  show (commit (store.applySessionTurnEnded pubkey generation instant) store).sessions.find? k = _
  unfold applySessionTurnEnded
  rw [hbound]
  by_cases hone : store.sessions.matching (fun row =>
      isRunningGeneration pubkey generation row ∧ row.workState = .working) = 1
  · simp only [updateSessions, hone, decide_true]
    exact hfound
  · simp only [updateSessions, hone, decide_false]
    exact hfound

theorem turnEnded_of_not_storable {generation instant : Nat}
    (hparams : ¬ ∀ param ∈
      [generation, instant, Rust.saturatingAdd instant headlessIdleTimeoutSecs],
        param ≤ Rust.i64Max) :
    store.step (.lifecycle (.applySessionTurnEnded pubkey generation instant)) = store := by
  simp only [step, lifecycleStep, applySessionTurnEnded, bindParams_eq_error hparams]
  rfl

theorem activated_of_not_storable {actorKey : String} {now : Nat}
    (hparams : ¬ ∀ param ∈ [now, Rust.saturatingAdd now headlessIdleTimeoutSecs],
      param ≤ Rust.i64Max) :
    store.step (.lifecycle (.activateMcpActor actorKey pubkey now)) = store := by
  simp only [step, lifecycleStep, activateMcpActor]
  split
  · rfl
  · refine commit_invariant (I := fun after => after = store) rfl ?_
    intro value after hok
    simp only [bind_eq_ok, bindParams_eq_ok] at hok
    obtain ⟨_, _, _, _, _, hstorable, _⟩ := hok
    exact absurd hstorable hparams

/-- Nothing but an operation that rests the session takes a running turn from it. -/
theorem step_atWork {op : StoreOp} {k : String} {row : Session}
    (hfind : store.sessions.find? k = some row) (hrunning : row.runtimeState = .running)
    (hworking : row.workState = .working) (hrests : ¬ op.Rests row) :
    ∃ next, (store.step op).sessions.find? k = some next ∧ AtWork next := by
  obtain ⟨next, hnext, hchange⟩ := step_session op hfind
  refine ⟨next, hnext, ?_⟩
  have hsame : next = row → AtWork next := by
    rintro rfl
    exact Or.inr ⟨hrunning, hworking⟩
  have hkept : ∀ kept : Session, next = kept → kept.runtimeState = .running →
      kept.workState = .working → AtWork next := by
    rintro kept rfl hstate hwork
    exact Or.inr ⟨hstate, hwork⟩
  have hidle : store.step op = store → AtWork next := by
    intro hstep
    rw [hstep, hfind] at hnext
    exact hsame (Option.some.inj hnext).symm
  rcases hchange with heq | hop
  · exact hsame heq
  · cases op with
    | lifecycle op =>
        cases op with
        | reserveSessionWithFacts r facts =>
            rw [hop.2.1] at hrunning
            cases hrunning
        | applySessionPresentationEdge | cancelSessionIdleDeadlineForDelivery =>
            exact hkept _ hop.2 hrunning hworking
        | markSessionPresentationUnavailable | revokeSessionRecoveryIfGeneration =>
            exact hkept _ hop.2.2 hrunning hworking
        | applySessionTurnStarted => exact hkept _ hop.2 hrunning rfl
        -- The turn would end but for an instant that SQLite refuses.
        | applySessionTurnEnded pubkey generation instant =>
            exact hidle (turnEnded_of_not_storable
              (fun hparams => hrests ⟨hop.1.1, hop.1.2.1, hparams⟩))
        | reserveDueIdleEviction =>
            rw [hop.1.2.2.2.2.1.2.2.1] at hworking
            cases hworking
        | cancelIdleEvictionOnPresentationChange =>
            rw [hop.1.2.2.1] at hrunning
            cases hrunning
        | finalizeRuntimeStoppedIfEpoch => exact Or.inl (hop.2.2.2.2 ▸ rfl)
        | markRuntimeStoppedIfGeneration => exact Or.inl (hop.2 ▸ rfl)
        | finalizeSessionRecoveryRevocation => exact Or.inl (hop.2.2.2 ▸ rfl)
        | reserveMcpActorSession => exact hop.elim
        | activateMcpActor actorKey pubkey now =>
            exact hidle (activated_of_not_storable
              (fun hparams => hrests ⟨hop.1, hop.2.2.1, hparams⟩))
    | inbox op =>
        cases op with
        | enqueueInbox => exact hkept _ hop.2.2.2 hrunning hworking
        | _ => exact hop.elim
    | locator op => exact Or.inr ⟨hop.runtimeState.trans hrunning, hop.workState.trans hworking⟩
    | standing op => exact hop.elim
    | context op =>
        exact Or.inr ⟨hop.1.runtimeState.trans hrunning, hop.1.workState.trans hworking⟩

/-- An operation that rests a running session leaves it running and idle. -/
theorem step_rests {op : StoreOp} {k : String} {row : Session}
    (hfind : store.sessions.find? k = some row) (hrunning : row.runtimeState = .running)
    (hrests : op.Rests row) :
    ∃ next, (store.step op).sessions.find? k = some next ∧ next.runtimeState = .running ∧
      next.runtimeGeneration = row.runtimeGeneration ∧ next.workState = .idle := by
  unfold StoreOp.Rests at hrests
  split at hrests
  · obtain ⟨hpubkey, hgeneration, hparams⟩ := hrests
    rw [turnEnded_of_storable hparams, hfind, Option.map_some]
    refine ⟨_, rfl, ?_⟩
    split
    · exact ⟨hrunning, rfl, rfl⟩
    · rename_i hguard
      refine ⟨hrunning, rfl, ?_⟩
      cases hwork : row.workState with
      | idle => rfl
      | working => exact absurd ⟨⟨hpubkey, hgeneration, hrunning⟩, hwork⟩ hguard
  · rename_i actorKey pubkey now
    obtain ⟨hpubkey, hrevoked, hparams⟩ := hrests
    have hrow : store.getSession pubkey = some row := by
      rw [← hpubkey, Table.key_of_find? hfind]
      exact hfind
    have hlive : row.runtimeState ≠ .stopping := by simp [hrunning]
    have hbound : bindParams [now, Rust.saturatingAdd now headlessIdleTimeoutSecs] = .ok () :=
      bindParams_eq_ok.mpr hparams
    simp only [step, lifecycleStep, activateMcpActor, hrow, ensure, if_pos hlive,
      if_pos hrevoked, hbound]
    show ∃ next, (Store.markHandleLive _ pubkey now).sessions.find? k = some next ∧ _
    dsimp only [markHandleLive]
    rw [Table.find?_updateWhere, hfind, Option.map_some, if_pos hpubkey]
    refine ⟨_, rfl, rfl, ?_, rfl⟩
    simp [Session.mcpActivated, hrunning]
  · exact hrests.elim

/-- A turn start that reports its row. -/
theorem turnStarted_spec {after : Store} {generation instant : Nat}
    (hok : store.applySessionTurnStarted pubkey generation instant = .ok (true, after)) :
    ∃ row, store.sessions.find? pubkey = some row ∧ isRunningGeneration pubkey generation row ∧
      after.sessions.find? pubkey = some (row.turnStarted instant) := by
  have hmatching : store.sessions.matching (isRunningGeneration pubkey generation) = 1 ↔
      ∃ row, store.sessions.find? pubkey = some row ∧ isRunningGeneration pubkey generation row :=
    matching_one_iff isRunningGeneration_pubkey
  simp only [applySessionTurnStarted, bind_eq_ok, pure_eq_ok, updateSessions, Prod.mk.injEq,
    decide_eq_true_eq] at hok
  obtain ⟨_, _, hone, rfl⟩ := hok
  obtain ⟨row, hfind, hrunning⟩ := hmatching.mp hone
  refine ⟨row, hfind, hrunning, ?_⟩
  dsimp only
  rw [Table.find?_updateWhere, hfind, Option.map_some, if_pos hrunning]

end Store

/-! ## What a step records -/

namespace Party

/-- The party is about to write the ledger or the applied starts. -/
def records : Party → Bool
  | .tracking _ _ => true
  | .starting _ _ _ _ => true
  | .refusing _ _ => true
  | .closing _ _ _ _ => true
  | _ => false

variable {input : Outside} {state : DeliveryState}

theorem act_unrecorded {party : Party} (hparty : party.records = false) :
    (party.act input state).shared.ledger = state.ledger ∧
      (party.act input state).shared.applied = state.applied := by
  cases party with
  | ringing | injecting job | recording job | forcing rec endpointId
  | awaiting pubkey generation attemptId call =>
      simp only [act]
      split
      · exact ⟨rfl, rfl⟩
      · exact ⟨rfl, rfl⟩
  | visiting rest =>
      cases rest with
      | nil => exact ⟨rfl, rfl⟩
      | cons rec rest =>
          simp only [act]
          split
          · exact ⟨rfl, rfl⟩
          · split
            · exact ⟨rfl, rfl⟩
            · exact ⟨rfl, rfl⟩
  | resolving rec eventIds rest =>
      simp only [act]
      split
      · exact ⟨rfl, rfl⟩
      · split
        · exact ⟨rfl, rfl⟩
        · exact ⟨rfl, rfl⟩
  | probing job | clearing job | reopening job | retrying pubkey | calling endpointId call keys
  | steering endpointId turnId keys | answered keys accepted => exact ⟨rfl, rfl⟩
  | deciding job live =>
      simp only [act, applyEffect_shared]
      exact ⟨trivial, trivial⟩
  | claiming job =>
      simp only [act, claim]
      split
      · exact ⟨rfl, rfl⟩
      · split
        · exact ⟨rfl, rfl⟩
        · exact ⟨rfl, rfl⟩
  | delivering job => exact (deliver_kept job).2
  | dispatching job nativeId steer => exact (dispatch_kept job nativeId steer).2
  | finalizing job completion =>
      simp only [act, finalize]
      split
      · split
        · exact ⟨rfl, rfl⟩
        · exact ⟨rfl, rfl⟩
      · split
        · exact ⟨rfl, rfl⟩
        · exact ⟨rfl, rfl⟩
  -- These are the parties that record.
  | tracking job completion | starting job attemptId call startedAt | refusing job attemptId =>
      cases hparty
  | gating endpointId keys =>
      simp only [act, gate_shared]
      exact ⟨trivial, trivial⟩
  | closing pubkey generation attemptId result => cases hparty
  | ending pubkey generation =>
      simp only [act, finishLifecycle]
      split
      · exact ⟨rfl, rfl⟩
      · exact ⟨rfl, rfl⟩
      · exact ⟨rfl, rfl⟩

theorem persistOutcome_ledger (pubkey : String) (generation attemptId : Nat)
    (nativeTurnId : String) (outcome : NativeTurnOutcome) :
    state.ledger.Extends
      (persistOutcome input state pubkey generation attemptId nativeTurnId outcome).ledger :=
  commit_invariant (I := fun after => state.ledger.Extends after) (.refl state.ledger)
    (fun _ _ hok => AttemptLedger.extends_of_finish hok)

/-- Every step extends the ledger. -/
theorem act_ledger (party : Party) :
    state.ledger.Extends (party.act input state).shared.ledger := by
  cases hparty : party.records with
  | false =>
      rw [(act_unrecorded hparty).1]
      exact .refl state.ledger
  | true =>
      cases party with
      | tracking job completion =>
          simp only [act]
          unfold track
          split
          · exact .refl state.ledger
          · exact .refl state.ledger
          · split
            · exact .refl state.ledger
            · rename_i hstart
              exact AttemptLedger.extends_of_start hstart
      | starting job attemptId call startedAt =>
          simp only [act, applyStart]
          split
          · exact .refl state.ledger
          · exact .refl state.ledger
          · exact .refl state.ledger
      | refusing job attemptId | closing pubkey generation attemptId result =>
          exact persistOutcome_ledger _ _ _ _ _
      | _ => cases hparty

/-- The party starts the tracked turn of an attempt. -/
def Starts (input : Outside) (state : DeliveryState) (party : Party) (job : Job)
    (attemptId : Nat) : Prop :=
  ∃ call startedAt after, party = .starting job attemptId call startedAt ∧
    state.store.applySessionTurnStarted job.pubkey job.generation startedAt = .ok (true, after) ∧
    (party.act input state).shared.store = after

/-- Only the start of a tracked turn adds to the applied starts. -/
theorem act_applied (party : Party) {id : Nat}
    (hid : id ∈ (party.act input state).shared.applied) :
    id ∈ state.applied ∨ ∃ job, party.Starts input state job id := by
  cases hparty : party.records with
  | false =>
      rw [(act_unrecorded hparty).2] at hid
      exact Or.inl hid
  | true =>
      cases party with
      | tracking job completion =>
          simp only [act] at hid
          unfold track at hid
          split at hid
          · exact Or.inl hid
          · exact Or.inl hid
          · split at hid
            · exact Or.inl hid
            · exact Or.inl hid
      | starting job attemptId call startedAt =>
          simp only [act, applyStart] at hid
          split at hid
          · exact Or.inl hid
          · exact Or.inl hid
          · rename_i after hstart
            rcases List.mem_cons.mp hid with rfl | hold
            · refine Or.inr ⟨job, call, startedAt, after, rfl, hstart, ?_⟩
              simp only [act, applyStart, hstart]
              rfl
            · exact Or.inl hold
      | refusing job attemptId | closing pubkey generation attemptId result => exact Or.inl hid
      | _ => cases hparty

theorem act_precedes (party : Party) :
    state.store.Precedes (party.act input state).shared.store := by
  rw [act_store]
  cases party.operation input with
  | none => exact .refl state.store
  | some op => exact Store.step_precedes state.store op

/-- The party knows the attempt that it is about to start. -/
def Knows (ledger : AttemptLedger) : Party → Prop
  | .starting job attemptId _ _ => attemptId ≤ ledger.lastId ∧
      ∀ attempt, ledger.attempts.find? attemptId = some attempt →
        attempt.pubkey = job.pubkey ∧ attempt.runtimeGeneration = job.generation
  | _ => True

theorem Knows.extends {before after : AttemptLedger} {party : Party}
    (hknows : party.Knows before) (hextends : before.Extends after) : party.Knows after := by
  cases party with
  | starting job attemptId call startedAt =>
      obtain ⟨hbound, hattempt⟩ := hknows
      refine ⟨Nat.le_trans hbound hextends.lastId_le, ?_⟩
      intro attempt hfind
      obtain ⟨old, hold, hpubkey, hgeneration, _⟩ := hextends.attempts attemptId attempt hfind hbound
      obtain ⟨hjob, hrun⟩ := hattempt old hold
      exact ⟨hpubkey.trans hjob, hgeneration.trans hrun⟩
  | _ => trivial

/-- The parties of a move know their attempts. -/
def Informed (move : DeliveryMove) : Prop :=
  move.next.Knows move.shared.ledger ∧ ∀ other ∈ move.joining, other.Knows move.shared.ledger

theorem goto_informed (shared : DeliveryState) {next : Party} (hnext : next.Knows shared.ledger) :
    Informed (goto shared next) :=
  ⟨hnext, fun _ hother => by cases hother⟩

theorem deliveryFailed_informed (job : Job) : Informed (deliveryFailed state job) := by
  unfold deliveryFailed
  split
  · exact goto_informed state trivial
  · exact goto_informed state trivial

/-- A party that joins alone and starts nothing. -/
theorem joining_informed (shared : DeliveryState) {next joined : Party}
    (hnext : next.Knows shared.ledger) (hjoined : joined.Knows shared.ledger) :
    Informed ⟨shared, next, [joined]⟩ := by
  refine ⟨hnext, ?_⟩
  intro other hother
  rw [List.mem_singleton.mp hother]
  exact hjoined

theorem deliver_informed (job : Job) : Informed (deliver input state job) := by
  unfold deliver
  split
  · split
    · exact deliveryFailed_informed job
    · exact joining_informed state trivial trivial
  · split
    · exact deliveryFailed_informed job
    · split
      · exact deliveryFailed_informed job
      · split
        · exact joining_informed _ trivial trivial
        · exact goto_informed state trivial

theorem dispatch_informed (job : Job) (nativeId : String) (steer : SteerState) :
    Informed (dispatch state job nativeId steer) := by
  cases steer with
  | ready turnId | awaitingId => exact joining_informed state trivial trivial
  | idle => exact joining_informed _ trivial trivial

theorem applyEffect_informed (job : Job) (effect : Option DeliveryEffect) :
    Informed (applyEffect state job effect) := by
  unfold applyEffect
  split
  · exact goto_informed state trivial
  · split
    · exact goto_informed state trivial
    · exact joining_informed state trivial trivial
  · split
    · exact goto_informed state trivial
    · exact goto_informed state trivial
  · exact goto_informed state trivial

theorem gate_informed (endpointId : String) (keys : List (String × String)) :
    Informed (gate input state endpointId keys) := by
  unfold gate
  split
  · exact goto_informed state trivial
  · split
    · exact goto_informed state trivial
    · exact goto_informed state trivial
  · exact goto_informed state trivial
  · exact goto_informed state trivial

/-- A tracked delivery hands on the attempt that it has just added. -/
theorem track_informed (hnumbered : state.ledger.Numbered) (job : Job) (completion : Completion) :
    Informed (track input state job completion) := by
  unfold track
  split
  · exact goto_informed state trivial
  · exact goto_informed state trivial
  · split
    · exact goto_informed state trivial
    · rename_i hstart
      obtain ⟨hbound, row, hfind, hpubkey, hgeneration⟩ :=
        AttemptLedger.find?_of_start hnumbered hstart
      refine goto_informed _ ⟨hbound, ?_⟩
      intro attempt hattempt
      cases hfind.symm.trans hattempt
      exact ⟨hpubkey, hgeneration⟩

theorem act_informed (hnumbered : state.ledger.Numbered) (party : Party) :
    Informed (party.act input state) := by
  -- Only the party that tracks a turn reads the ledger, whose rows are numbered.
  cases party with
  | ringing =>
      simp only [act]
      split
      · exact goto_informed state trivial
      · exact goto_informed _ trivial
  | visiting rest =>
      cases rest with
      | nil => exact goto_informed state trivial
      | cons rec rest =>
          simp only [act]
          split
          · exact goto_informed state trivial
          · split
            · exact goto_informed state trivial
            · exact goto_informed state trivial
  | resolving rec eventIds rest =>
      simp only [act]
      split
      · exact goto_informed state trivial
      · split
        · exact goto_informed state trivial
        · exact goto_informed state trivial
  | probing job | retrying pubkey | steering endpointId turnId keys | answered keys accepted =>
      exact goto_informed state trivial
  | deciding job live => exact applyEffect_informed job _
  | clearing job | reopening job | refusing job attemptId | calling endpointId call keys
  | closing pubkey generation attemptId result => exact goto_informed _ trivial
  | injecting job | forcing rec endpointId | awaiting pubkey generation attemptId call =>
      simp only [act]
      split
      · exact goto_informed state trivial
      · exact goto_informed state trivial
  | claiming job =>
      simp only [act, claim]
      split
      · exact goto_informed state trivial
      · split
        · exact goto_informed _ trivial
        · exact goto_informed _ trivial
  | delivering job => exact deliver_informed job
  | dispatching job nativeId steer => exact dispatch_informed job nativeId steer
  | finalizing job completion =>
      simp only [act, finalize]
      split
      · split
        · exact goto_informed state trivial
        · exact goto_informed _ trivial
      · split
        · exact goto_informed state trivial
        · exact goto_informed state trivial
  | tracking job completion => exact track_informed hnumbered job completion
  | starting job attemptId call startedAt =>
      simp only [act, applyStart]
      split
      · exact goto_informed state trivial
      · exact goto_informed _ trivial
      · exact joining_informed _ trivial trivial
  | recording job =>
      simp only [act]
      split
      · exact goto_informed _ trivial
      · exact goto_informed state trivial
  | gating endpointId keys => exact gate_informed endpointId keys
  | ending pubkey generation =>
      simp only [act, finishLifecycle]
      split
      · exact goto_informed state trivial
      · exact goto_informed _ trivial
      · exact goto_informed _ trivial

end Party

/-! ## The records of a run -/

namespace DeliveryState

/-- The applied starts belong to attempts of generations that the session has had. -/
structure Recorded (state : DeliveryState) : Prop where
  rows : state.store.sessions.All Session.LifecycleInvariant
  numbered : state.ledger.Numbered
  bounded : ∀ id ∈ state.applied, id ≤ state.ledger.lastId
  generations : ∀ id ∈ state.applied, ∀ attempt, state.ledger.attempts.find? id = some attempt →
    ∃ row, state.store.sessions.find? attempt.pubkey = some row ∧
      attempt.runtimeGeneration ≤ row.runtimeGeneration

/-- A session with an open turn is at work, until its generation has stopped. -/
def Engaged (state : DeliveryState) : Prop :=
  ∀ pubkey row, state.store.sessions.find? pubkey = some row →
    state.TurnOpen pubkey row.runtimeGeneration → Store.AtWork row

/-- The operation does not set a session idle that executes a native turn. -/
def Spares (state : DeliveryState) (op : StoreOp) : Prop :=
  ∀ row ∈ state.store.sessions.rows, state.Executing row.pubkey row → ¬ op.Rests row

theorem fresh_recorded : fresh.Recorded where
  rows := Table.all_empty _
  numbered := AttemptLedger.empty_numbered
  bounded := fun _ hid => by cases hid
  generations := fun _ hid => by cases hid

theorem fresh_engaged : fresh.Engaged := by
  intro pubkey row hfind
  cases hfind

theorem Recorded.neverIdle {state : DeliveryState} (hrecorded : state.Recorded)
    (hengaged : state.Engaged) : state.NeverIdle := by
  rintro pubkey row ⟨hrow, hrunning, hopen⟩
  have hworking : row.workState = .working := by
    rcases hengaged pubkey row hrow hopen with hstopped | ⟨_, hworking⟩
    · rw [hrunning] at hstopped
      cases hstopped
    · exact hworking
  refine ⟨hworking, ?_, ?_⟩
  · by_contra hdeadline
    have hidle := ((hrecorded.rows.find? hrow).armed (Nat.pos_of_ne_zero hdeadline)).2.2.1
    rw [hworking] at hidle
    cases hidle
  · rintro now ⟨_, _, hidle, _⟩
    rw [hworking] at hidle
    cases hidle

/-- An operation of the store that records nothing keeps the records. -/
theorem Recorded.setStore {state : DeliveryState} (hrecorded : state.Recorded) (op : StoreOp) :
    (state.setStore (state.store.step op)).Recorded where
  rows := Store.step_lifecycleInvariant op hrecorded.rows
  numbered := hrecorded.numbered
  bounded := hrecorded.bounded
  generations := by
    intro id hid attempt hattempt
    obtain ⟨row, hrow, hbound⟩ := hrecorded.generations id hid attempt hattempt
    obtain ⟨next, hnext, hlater⟩ := Store.step_precedes state.store op attempt.pubkey row hrow
    refine ⟨next, hnext, ?_⟩
    rcases hlater with hless | ⟨hsame, _⟩
    · omega
    · omega

/-- The session of an open turn was there before, in the same generation. -/
theorem Recorded.session_before {state : DeliveryState} (hrecorded : state.Recorded)
    {after : Store} (hlater : state.store.Precedes after) {pubkey : String} {next : Session}
    (hnext : after.sessions.find? pubkey = some next)
    (hopen : state.TurnOpen pubkey next.runtimeGeneration) :
    ∃ row, state.store.sessions.find? pubkey = some row ∧
      state.TurnOpen pubkey row.runtimeGeneration ∧
      (row.runtimeState = .stopped → next.runtimeState = .stopped) := by
  obtain ⟨id, hid, attempt, hattempt, rfl, hgeneration, hstarted⟩ := hopen
  obtain ⟨row, hrow, hbound⟩ := hrecorded.generations id hid attempt hattempt
  obtain ⟨found, hfound, hprecedes⟩ := hlater attempt.pubkey row hrow
  rw [hnext] at hfound
  cases hfound
  rcases hprecedes with hless | ⟨hsame, hstays⟩
  · omega
  · exact ⟨row, hrow, ⟨id, hid, attempt, hattempt, rfl, hgeneration.trans hsame.symm, hstarted⟩,
      hstays⟩

/-- An operation that spares the executing sessions keeps the sessions with an open
turn at work. -/
theorem Engaged.session {state : DeliveryState} (hengaged : state.Engaged)
    (hrecorded : state.Recorded) {op : StoreOp} (hspares : state.Spares op) {pubkey : String}
    {next : Session} (hnext : (state.store.step op).sessions.find? pubkey = some next)
    (hopen : state.TurnOpen pubkey next.runtimeGeneration) : Store.AtWork next := by
  obtain ⟨row, hrow, hbefore, hstays⟩ :=
    hrecorded.session_before (Store.step_precedes state.store op) hnext hopen
  rcases hengaged pubkey row hrow hbefore with hstopped | ⟨hrunning, hworking⟩
  · exact Or.inl (hstays hstopped)
  · have hkey : row.pubkey = pubkey := Table.key_of_find? hrow
    have hrests : ¬ op.Rests row := by
      refine hspares row (Table.mem_of_find? hrow) ⟨?_, hrunning, ?_⟩
      · rw [hkey]
        exact hrow
      · rw [hkey]
        exact hbefore
    obtain ⟨found, hfound, hwork⟩ := Store.step_atWork hrow hrunning hworking hrests
    rw [hnext] at hfound
    cases hfound
    exact hwork

end DeliveryState

/-! ## Steps -/

namespace Party

variable {input : Outside} {state : DeliveryState} {party : Party}

/-- A turn that is open after a step was open before, or the step has started it. -/
theorem turnOpen_of_act (hrecorded : state.Recorded) (hknows : party.Knows state.ledger)
    {pubkey : String} {generation : Nat}
    (hopen : (party.act input state).shared.TurnOpen pubkey generation) :
    state.TurnOpen pubkey generation ∨
      ∃ job id, party.Starts input state job id ∧ job.pubkey = pubkey ∧
        job.generation = generation := by
  obtain ⟨id, hid, attempt, hattempt, rfl, rfl, hstarted⟩ := hopen
  rcases act_applied party hid with hold | ⟨job, hstarts⟩
  · obtain ⟨old, hfind, hpubkey, hgeneration, hopen⟩ :=
      (act_ledger party).attempts id attempt hattempt (hrecorded.bounded id hold)
    exact Or.inl ⟨id, hold, old, hfind, hpubkey.symm, hgeneration.symm, hopen hstarted⟩
  · obtain ⟨call, startedAt, after, rfl, hok, hafter⟩ := hstarts
    obtain ⟨hbound, hjob⟩ := hknows
    obtain ⟨old, hfind, hpubkey, hgeneration, _⟩ :=
      (act_ledger _).attempts id attempt hattempt hbound
    obtain ⟨hsession, hrun⟩ := hjob old hfind
    exact Or.inr ⟨job, id, ⟨call, startedAt, after, rfl, hok, hafter⟩,
      hsession.symm.trans hpubkey.symm, hrun.symm.trans hgeneration.symm⟩

theorem act_recorded (hrecorded : state.Recorded) (hknows : party.Knows state.ledger) :
    (party.act input state).shared.Recorded where
  rows := by
    rw [act_store]
    cases party.operation input with
    | none => exact hrecorded.rows
    | some op => exact Store.step_lifecycleInvariant op hrecorded.rows
  numbered := (act_ledger party).numbered hrecorded.numbered
  bounded := by
    intro id hid
    refine Nat.le_trans ?_ (act_ledger party).lastId_le
    rcases act_applied party hid with hold | ⟨job, call, startedAt, after, rfl, _, _⟩
    · exact hrecorded.bounded id hold
    · exact hknows.1
  generations := by
    intro id hid attempt hattempt
    rcases act_applied party hid with hold | ⟨job, call, startedAt, after, rfl, hok, hafter⟩
    · obtain ⟨old, hfind, hpubkey, hgeneration, _⟩ :=
        (act_ledger party).attempts id attempt hattempt (hrecorded.bounded id hold)
      obtain ⟨row, hrow, hbound⟩ := hrecorded.generations id hold old hfind
      obtain ⟨next, hnext, hlater⟩ := act_precedes party old.pubkey row hrow
      rw [hpubkey, hgeneration]
      refine ⟨next, hnext, ?_⟩
      rcases hlater with hless | ⟨hsame, _⟩
      · omega
      · omega
    · obtain ⟨hbound, hjob⟩ := hknows
      obtain ⟨old, hfind, hpubkey, hgeneration, _⟩ :=
        (act_ledger _).attempts id attempt hattempt hbound
      obtain ⟨hsession, hrun⟩ := hjob old hfind
      obtain ⟨row, _, hrunning, hstarted⟩ := Store.turnStarted_spec hok
      rw [hpubkey, hgeneration, hsession, hrun, hafter]
      exact ⟨_, hstarted, Nat.le_of_eq hrunning.2.1.symm⟩

theorem act_engaged (hrecorded : state.Recorded) (hengaged : state.Engaged)
    (hknows : party.Knows state.ledger) (hspares : ∀ op ∈ party.operation input, state.Spares op) :
    (party.act input state).shared.Engaged := by
  intro pubkey next hnext hopen
  rcases turnOpen_of_act hrecorded hknows hopen with
    hbefore | ⟨job, id, ⟨call, startedAt, after, rfl, hok, hafter⟩, rfl, _⟩
  · rw [act_store] at hnext
    cases hop : party.operation input with
    | none =>
        rw [hop] at hnext
        exact hengaged pubkey next hnext hbefore
    | some op =>
        rw [hop] at hnext
        exact hengaged.session hrecorded (hspares op (by simp [hop])) hnext hbefore
  · obtain ⟨row, _, hrunning, hstarted⟩ := Store.turnStarted_spec hok
    rw [hafter, hstarted] at hnext
    cases hnext
    exact Or.inr ⟨hrunning.2.2, rfl⟩

end Party

namespace Deliveries

/-- What every run of the deliveries keeps. -/
structure Sound (crew : Deliveries) : Prop where
  shared : crew.shared.Recorded
  parties : crew.All (fun state party => party.Knows state.ledger)

theorem fresh_sound : Sound fresh where
  shared := DeliveryState.fresh_recorded
  parties := fun _ hparty => by cases hparty

variable {crew : Deliveries} {event : DeliveryEvent}

theorem step_sound (hsound : Sound crew) (event : DeliveryEvent) :
    Sound (Deliveries.step crew event) := by
  have hstored : ∀ op, Sound (Deliveries.apply crew op) :=
    fun op => ⟨hsound.shared.setStore op, hsound.parties⟩
  -- A step of a child changes neither the rows nor the ledger.
  have hkept : ∀ shared : DeliveryState, shared.store = crew.shared.store →
      shared.ledger = crew.shared.ledger → shared.applied = crew.shared.applied →
      Sound { crew with shared := shared } := by
    intro shared hstore hledger happlied
    refine ⟨⟨?_, ?_, ?_, ?_⟩, ?_⟩
    · rw [hstore]
      exact hsound.shared.rows
    · rw [hledger]
      exact hsound.shared.numbered
    · rw [hledger, happlied]
      exact hsound.shared.bounded
    · rw [hstore, hledger, happlied]
      exact hsound.shared.generations
    · intro party hparty
      show party.Knows shared.ledger
      rw [hledger]
      exact hsound.parties party hparty
  cases event with
  | act index input =>
      simp only [step]
      cases hindex : crew.parties[index]? with
      | none =>
          rw [Crew.advance_of_none hindex]
          exact hsound
      | some party =>
          have hknows := hsound.parties party (List.mem_of_getElem? hindex)
          refine ⟨?_, ?_⟩
          · rw [Crew.advance_of_some hindex]
            exact Party.act_recorded hsound.shared hknows
          · have hinformed : Party.Informed (party.act input crew.shared) :=
              Party.act_informed hsound.shared.numbered party
            obtain ⟨hnext, hjoining⟩ := hinformed
            exact hsound.parties.advance hindex
              (fun other hother => hother.extends (Party.act_ledger party))
              (fun _ => hnext) (fun _ => hjoining)
  | ring => exact ⟨hsound.shared, hsound.parties.join trivial⟩
  | enqueue eventId targetPubkey fromPubkey channelH body createdAt
  | bindEndpoint harness kind endpointId pubkey createdAt =>
      exact ⟨(hstored _).shared, (hstored _).parties.join trivial⟩
  | client change => exact hstored change.op
  | ptySend rec endpointId | spawnPrompt pubkey kind endpointId =>
      exact ⟨hsound.shared, hsound.parties.join trivial⟩
  | openChild endpointId kind nativeId =>
      simp only [step, openChild]
      split
      · exact hsound
      · exact hkept _ rfl rfl rfl
  | childDies endpointId | childReaped endpointId | childUpdate endpointId method turnId
  | terminal endpointId live => exact hkept _ rfl rfl rfl

/-- No step sets a session idle that executes a native turn. -/
def SparesTurns (crew : Deliveries) (event : DeliveryEvent) : Prop :=
  ∀ op ∈ Deliveries.operation crew event, crew.shared.Spares op

/-- Only a party that acts records anything. -/
theorem step_unrecorded (crew : Deliveries) (hevent : ∀ index input, event ≠ .act index input) :
    (Deliveries.step crew event).shared.ledger = crew.shared.ledger ∧
      (Deliveries.step crew event).shared.applied = crew.shared.applied := by
  cases event with
  | act index input => exact absurd rfl (hevent index input)
  | openChild endpointId kind nativeId =>
      simp only [step, openChild]
      split
      · exact ⟨rfl, rfl⟩
      · exact ⟨rfl, rfl⟩
  | ring | enqueue eventId targetPubkey fromPubkey channelH body createdAt
  | bindEndpoint harness kind endpointId pubkey createdAt | client change | ptySend rec endpointId
  | spawnPrompt pubkey kind endpointId | childDies endpointId | childReaped endpointId
  | childUpdate endpointId method turnId | terminal endpointId live => exact ⟨rfl, rfl⟩

theorem step_engaged (hsound : Sound crew) (hengaged : crew.shared.Engaged)
    (hspares : SparesTurns crew event) :
    (Deliveries.step crew event).shared.Engaged := by
  by_cases hact : ∃ index input, event = .act index input
  · obtain ⟨index, input, rfl⟩ := hact
    simp only [step]
    cases hindex : crew.parties[index]? with
    | none =>
        rw [Crew.advance_of_none hindex]
        exact hengaged
    | some party =>
        have hknows := hsound.parties party (List.mem_of_getElem? hindex)
        rw [Crew.advance_of_some hindex]
        refine Party.act_engaged hsound.shared hengaged hknows ?_
        intro op hop
        refine hspares op ?_
        simp only [operation, hindex]
        exact hop
  · obtain ⟨hledger, happlied⟩ :=
      step_unrecorded crew (fun index input heq => hact ⟨index, input, heq⟩)
    intro pubkey next hnext hopen
    unfold DeliveryState.TurnOpen at hopen
    rw [hledger, happlied] at hopen
    rw [step_store] at hnext
    cases hop : Deliveries.operation crew event with
    | none =>
        rw [hop] at hnext
        exact hengaged pubkey next hnext hopen
    | some op =>
        rw [hop] at hnext
        exact hengaged.session hsound.shared (hspares op (by simp [hop])) hnext hopen

/-- A step that sets an executing session idle records nothing. -/
theorem unrecorded_of_rests {op : StoreOp}
    {row : Session} (hop : Deliveries.operation crew event = some op) (hrests : op.Rests row) :
    (Deliveries.step crew event).shared.ledger = crew.shared.ledger ∧
      (Deliveries.step crew event).shared.applied = crew.shared.applied := by
  by_cases hact : ∃ index input, event = .act index input
  · obtain ⟨index, input, rfl⟩ := hact
    simp only [operation, Option.bind_eq_some_iff] at hop
    obtain ⟨party, hindex, hop⟩ := hop
    have hparty : party.records = false := by
      cases party with
      | tracking job completion | refusing job attemptId
      | closing pubkey generation attemptId result => cases hop
      | starting job attemptId call startedAt =>
          cases hop
          exact hrests.elim
      | _ => rfl
    simp only [step]
    rw [Crew.advance_of_some hindex]
    exact Party.act_unrecorded hparty
  · exact step_unrecorded crew (fun index input heq => hact ⟨index, input, heq⟩)

/-- A step that sets an executing session idle leaves it idle with its turn open. -/
theorem sparesTurns_of_neverIdle
    (hnever : (Deliveries.step crew event).shared.NeverIdle) : SparesTurns crew event := by
  rintro op hop row hrow ⟨hfind, hrunning, hopen⟩ hrests
  obtain ⟨hledger, happlied⟩ := unrecorded_of_rests hop hrests
  obtain ⟨next, hnext, hstate, hgeneration, hidle⟩ := Store.step_rests hfind hrunning hrests
  have hexecuting : (Deliveries.step crew event).shared.Executing row.pubkey next := by
    refine ⟨?_, hstate, ?_⟩
    · show (Deliveries.step crew event).shared.store.sessions.find? row.pubkey = some next
      rw [step_store, hop]
      exact hnext
    · unfold DeliveryState.TurnOpen
      rw [hledger, happlied, hgeneration]
      exact hopen
  have hworking := (hnever row.pubkey next hexecuting).1
  rw [hidle] at hworking
  cases hworking

end Deliveries

/-! ## Runs -/

/-- All along a run the sessions that execute a native turn are recorded working,
exactly if no step sets one of them idle: no tracked turn, hook or actor activation
ends the work of a session while an applied attempt of its generation is open. -/
theorem run_neverIdle_iff (events : List DeliveryEvent) :
    (∀ elapsed, elapsed <+: events →
      (run Deliveries.step Deliveries.fresh elapsed).shared.NeverIdle) ↔
      Guarded Deliveries.step Deliveries.SparesTurns Deliveries.fresh events := by
  constructor
  · intro hall
    exact guarded_of_forall_prefix (I := fun crew : Deliveries => crew.shared.NeverIdle)
      (fun _ _ hnever => Deliveries.sparesTurns_of_neverIdle hnever) hall
  · rintro hguarded elapsed ⟨later, rfl⟩
    have hearlier := (guarded_append.mp hguarded).1
    -- `Engaged` is not inductive by itself; it needs what the parties know of their turns.
    have hinvariant : Deliveries.Sound (run Deliveries.step Deliveries.fresh elapsed) ∧
        (run Deliveries.step Deliveries.fresh elapsed).shared.Engaged := by
      refine guarded_run_invariant
        (I := fun crew : Deliveries => Deliveries.Sound crew ∧ crew.shared.Engaged)
        ⟨Deliveries.fresh_sound, DeliveryState.fresh_engaged⟩ ?_ hearlier
      rintro crew event ⟨hsound, hengaged⟩ hspares
      exact ⟨Deliveries.step_sound hsound event,
        Deliveries.step_engaged hsound hengaged hspares⟩
    exact hinvariant.1.shared.neverIdle hinvariant.2

/-! ## Two prompts of one session -/

/-- An ACP session gets a second prompt while it works on the first, and the first
one completes. -/
def overlappingRun : List DeliveryEvent :=
  [.client (launchOver "acp" "pk" 1), .openChild "child" .acp "thread",
    .bindEndpoint "codex" .acp "child" "pk" 2, .enqueue "first" "pk" "alice" "root" "hi" 3] ++
    List.replicate 12 (.act 1 (plainly 4)) ++
    .enqueue "second" "pk" "alice" "root" "hi again" 30 ::
    List.replicate 12 (.act 4 (plainly 31)) ++
    .act 2 (plainly 40) :: List.replicate 3 (.act 3 (plainly 41))

/-- The end of the first turn ends the work of the second. -/
theorem executing_session_idle :
    ¬ ∀ events : List DeliveryEvent,
      (run Deliveries.step Deliveries.fresh events).shared.NeverIdle := by
  intro hclaim
  have hidle : ∃ row, (run Deliveries.step Deliveries.fresh
      overlappingRun).shared.store.getSession "pk" = some row ∧
      (run Deliveries.step Deliveries.fresh overlappingRun).shared.Executing "pk" row ∧
      row.workState = .idle := by
    decide +kernel
  obtain ⟨row, _, hexecuting, hidle⟩ := hidle
  have hworking := (hclaim overlappingRun "pk" row hexecuting).1
  rw [hidle] at hworking
  cases hworking

end Mosaico
