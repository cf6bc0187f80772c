import Mathlib.Algebra.GroupWithZero.Nat
import Mathlib.Algebra.Ring.Int.Defs
import Mosaico.Lifecycle.RowInvariant
import Mosaico.State.SessionAnnotations

/-!
# Turn accounting

`busy_seconds` accumulates the time a session has worked.  What it should say is
fixed by an observer that only watches `work_state`: a turn starts when the
session becomes working and ends when it becomes idle again, by whatever
operation.  The observer keeps a `TurnLog` of each pubkey next to the store.

Five operations end a turn.  Four of them add the elapsed seconds and clear the
start of the turn; the activation of a remote actor does neither.
-/

namespace Mosaico

open Relational Transition

/-! ## The turns of a run -/

/-- A turn that ended, by whatever cause. -/
structure EndedTurn where
  startedAt : Nat
  endedAt : Nat
  deriving DecidableEq, Repr

/-- End time minus start time. -/
def EndedTurn.seconds (turn : EndedTurn) : Int :=
  (turn.endedAt : Int) - turn.startedAt

/-- The turns of one pubkey so far. -/
structure TurnLog where
  openSince : Option Nat
  ended : List EndedTurn
  deriving DecidableEq, Repr

namespace TurnLog

def empty : TurnLog where
  openSince := none
  ended := []

/-- One observation of the work state, at `instant`. -/
def observe (log : TurnLog) (before after : WorkState) (instant : Nat) : TurnLog :=
  match before, after, log.openSince with
  | .idle, .working, _ => { log with openSince := some instant }
  | .working, .idle, some startedAt =>
      { openSince := none
        ended := log.ended ++ [{ startedAt := startedAt, endedAt := instant }] }
  | _, _, _ => log

/-- The sum over all ended turns of end time minus start time. -/
def seconds (log : TurnLog) : Int :=
  (log.ended.map EndedTurn.seconds).sum

/-- The same sum, a turn that ends before its start counting for nothing. -/
def elapsed (log : TurnLog) : Nat :=
  (log.ended.map (fun turn => turn.endedAt - turn.startedAt)).sum

/-- No turn ends before it starts, and the open turn started by `bound`. -/
structure OrderedBy (log : TurnLog) (bound : Nat) : Prop where
  ended : ∀ turn ∈ log.ended, turn.startedAt ≤ turn.endedAt
  opened : ∀ startedAt ∈ log.openSince, startedAt ≤ bound

@[simp] theorem observe_same (log : TurnLog) (state : WorkState) (instant : Nat) :
    log.observe state state instant = log := by
  cases state <;> rfl

@[simp] theorem observe_started (log : TurnLog) (instant : Nat) :
    log.observe .idle .working instant = { log with openSince := some instant } := rfl

theorem observe_ended {log : TurnLog} {startedAt : Nat} (hopen : log.openSince = some startedAt)
    (instant : Nat) :
    log.observe .working .idle instant =
      { openSince := none
        ended := log.ended ++ [{ startedAt := startedAt, endedAt := instant }] } := by
  simp only [observe, hopen]

theorem seconds_eq_elapsed {log : TurnLog} {bound : Nat} (hordered : log.OrderedBy bound) :
    log.seconds = log.elapsed := by
  obtain ⟨hended, -⟩ := hordered
  unfold seconds elapsed
  revert hended
  induction log.ended with
  | nil => exact fun _ => rfl
  | cons turn rest ih =>
      intro hended
      have hturn : turn.startedAt ≤ turn.endedAt := hended turn List.mem_cons_self
      have hrest := ih (fun later hlater => hended later (List.mem_cons_of_mem turn hlater))
      simp only [List.map_cons, List.sum_cons, EndedTurn.seconds, hrest]
      omega

theorem orderedBy_mono {log : TurnLog} {bound later : Nat} (hordered : log.OrderedBy bound)
    (hle : bound ≤ later) : log.OrderedBy later where
  ended := hordered.ended
  opened := fun startedAt hopen => (hordered.opened startedAt hopen).trans hle

/-- Observations at times that do not decrease keep the log ordered. -/
theorem orderedBy_observe {log : TurnLog} {bound instant : Nat} (hordered : log.OrderedBy bound)
    (hle : bound ≤ instant) (before after : WorkState) :
    (log.observe before after instant).OrderedBy instant := by
  have hlater := orderedBy_mono hordered hle
  cases before with
  | idle =>
      cases after with
      | idle => simpa using hlater
      | working =>
          refine ⟨hordered.ended, ?_⟩
          rintro startedAt hopen
          cases hopen
          exact Nat.le_refl instant
  | working =>
      cases after with
      | working => simpa using hlater
      | idle =>
          cases hopen : log.openSince with
          | none =>
              simp only [observe, hopen]
              exact hlater
          | some startedAt =>
              rw [observe_ended hopen]
              refine ⟨?_, fun _ hnone => by cases hnone⟩
              intro turn hturn
              rcases List.mem_append.mp hturn with hold | hnew
              · exact hordered.ended turn hold
              · have hstart := hordered.opened startedAt hopen
                rw [List.mem_singleton.mp hnew]
                exact hstart.trans hle

end TurnLog

/-- The time of an event that can start or end a turn. -/
def LifecycleOp.eventTime : LifecycleOp → Option Nat
  | .reserveSessionWithFacts r _ => some r.now
  | .applySessionTurnStarted _ _ instant => some instant
  | .applySessionTurnEnded _ _ instant => some instant
  | .finalizeRuntimeStoppedIfEpoch _ _ _ _ stoppedAt => some stoppedAt
  | .markRuntimeStoppedIfGeneration _ _ _ stoppedAt => some stoppedAt
  | .finalizeSessionRecoveryRevocation _ _ now => some now
  | .reserveMcpActorSession _ _ _ now => some now
  | .activateMcpActor _ _ now => some now
  | _ => none

def StoreOp.eventTime : StoreOp → Option Nat
  | .lifecycle op => op.eventTime
  | _ => none

/-- The work state of a pubkey; one without a session does not work. -/
def workStateOf (found : Option Session) : WorkState :=
  match found with
  | none => .idle
  | some row => row.workState

/-- A store and the turns its sessions have had. -/
structure TurnHistory where
  store : Store
  log : String → TurnLog

namespace TurnHistory

def empty : TurnHistory where
  store := Store.empty
  log := fun _ => TurnLog.empty

/-- The operation runs, and the observer sees every session before and after. -/
def step (history : TurnHistory) (op : StoreOp) : TurnHistory where
  store := history.store.step op
  log := fun pubkey => (history.log pubkey).observe
    (workStateOf (history.store.sessions.find? pubkey))
    (workStateOf ((history.store.step op).sessions.find? pubkey)) (op.eventTime.getD 0)

end TurnHistory

/-- The columns of a session row agree with the turns it has had. -/
structure Session.AccountedBy (row : Session) (log : TurnLog) : Prop where
  working_iff : row.workState = .working ↔ 0 < row.turnStartedAt
  busySeconds : (row.busySeconds : Int) = log.seconds

instance (row : Session) (log : TurnLog) : Decidable (row.AccountedBy log) :=
  decidable_of_iff
    ((row.workState = .working ↔ 0 < row.turnStartedAt) ∧ (row.busySeconds : Int) = log.seconds)
    ⟨fun h => ⟨h.1, h.2⟩, fun h => ⟨h.1, h.2⟩⟩

/-- Every session is accounted for. -/
def TurnHistory.Accounted (history : TurnHistory) : Prop :=
  ∀ row ∈ history.store.sessions.rows, row.AccountedBy (history.log row.pubkey)

instance (history : TurnHistory) : Decidable history.Accounted :=
  inferInstanceAs (Decidable (∀ row ∈ history.store.sessions.rows, _))

/-- The operation activates a remote actor in the middle of a turn. -/
def Store.DropsTurn (store : Store) : StoreOp → Prop
  | .lifecycle (.activateMcpActor _ pubkey now) =>
      now + headlessIdleTimeoutSecs ≤ Rust.i64Max ∧
        store.sessions.Any (fun row => row.pubkey = pubkey ∧ row.workState = .working ∧
          row.recoveryState ≠ .revoked)
  | _ => False

instance (store : Store) : DecidablePred store.DropsTurn
  | .lifecycle op =>
      match op with
      | .activateMcpActor _ _ _ => inferInstanceAs (Decidable (_ ∧ _))
      | .reserveSessionWithFacts _ _ | .applySessionPresentationEdge _ _ _ _ _
      | .markSessionPresentationUnavailable _ _ _ _ | .applySessionTurnStarted _ _ _
      | .applySessionTurnEnded _ _ _ | .cancelSessionIdleDeadlineForDelivery _ _
      | .reserveDueIdleEviction _ _ _ _ _ | .cancelIdleEvictionOnPresentationChange _ _ _ _ _ _
      | .finalizeRuntimeStoppedIfEpoch _ _ _ _ _ | .markRuntimeStoppedIfGeneration _ _ _ _
      | .revokeSessionRecoveryIfGeneration _ _ | .finalizeSessionRecoveryRevocation _ _ _
      | .reserveMcpActorSession _ _ _ _ => inferInstanceAs (Decidable False)
  | .inbox _ | .locator _ | .standing _ | .context _ => inferInstanceAs (Decidable False)

/-! ## What one operation does to the turn of a row -/

/-- The changes of the turn columns. -/
inductive Session.TurnChange (store : Store) (op : StoreOp) (row next : Session) : Prop
  | kept (hwork : next.workState = row.workState)
      (hstart : next.turnStartedAt = row.turnStartedAt)
      (hbusy : next.busySeconds = row.busySeconds)
  | cleared (hidle : row.workState = .idle) (hwork : next.workState = .idle)
      (hstart : next.turnStartedAt = 0) (hbusy : next.busySeconds = row.busySeconds)
  | started (instant : Nat) (htime : op.eventTime = some instant)
      (hidle : row.workState = .idle) (hwork : next.workState = .working)
      (hstart : next.turnStartedAt = instant) (hbusy : next.busySeconds = row.busySeconds)
  | ended (instant : Nat) (htime : op.eventTime = some instant)
      (hworking : row.workState = .working) (hwork : next.workState = .idle)
      (hstart : next.turnStartedAt = 0)
      (hbusy : next.busySeconds = row.busySeconds +
        if 0 < row.turnStartedAt then instant - row.turnStartedAt else 0)
  | dropped (instant : Nat) (htime : op.eventTime = some instant) (hdrops : store.DropsTurn op)
      (hworking : row.workState = .working) (hwork : next.workState = .idle)
      (hstart : next.turnStartedAt = row.turnStartedAt)
      (hbusy : next.busySeconds = row.busySeconds)

variable {store : Store} {op : StoreOp}

/-- A stop ends the turn of a working row and clears an idle one. -/
theorem Session.stopped_turnChange {stoppedAt : Nat}
    (row : Session) (reason : StopReason) (htime : op.eventTime = some stoppedAt) :
    TurnChange store op row (row.stopped reason stoppedAt) := by
  cases hwork : row.workState with
  | idle =>
      refine .cleared hwork rfl rfl ?_
      simp [Session.stopped, Session.interruptedSeconds, hwork]
  | working =>
      refine .ended stoppedAt htime hwork rfl rfl ?_
      simp [Session.stopped, Session.interruptedSeconds, hwork]

theorem LifecycleOp.rewrites_turnChange {row next : Session} {op : LifecycleOp}
    (hfind : store.sessions.find? row.pubkey = some row) (hrow : row.LifecycleInvariant)
    (hbinds : ∀ actorKey pubkey now, op = .activateMcpActor actorKey pubkey now →
      now + headlessIdleTimeoutSecs ≤ Rust.i64Max)
    (hop : op.Rewrites store row next) : row.TurnChange store (.lifecycle op) next := by
  cases op with
  | reserveSessionWithFacts r facts =>
      obtain ⟨_, hstopped, _, rfl⟩ := hop
      exact .cleared (hrow.stopped hstopped).2.1 rfl rfl rfl
  | applySessionPresentationEdge | cancelSessionIdleDeadlineForDelivery | reserveDueIdleEviction
  | cancelIdleEvictionOnPresentationChange => exact hop.2 ▸ .kept rfl rfl rfl
  | markSessionPresentationUnavailable | revokeSessionRecoveryIfGeneration =>
      exact hop.2.2 ▸ .kept rfl rfl rfl
  | applySessionTurnStarted pubkey generation instant =>
      obtain ⟨_, rfl⟩ := hop
      cases hwork : row.workState with
      | idle =>
          refine .started instant rfl hwork rfl ?_ rfl
          simp [Session.turnStarted, hwork]
      | working =>
          refine .kept ?_ ?_ rfl
          · simp [Session.turnStarted, hwork]
          · simp [Session.turnStarted, hwork]
  | applySessionTurnEnded pubkey generation instant =>
      obtain ⟨_, hworking, rfl⟩ := hop
      exact .ended instant rfl hworking rfl rfl rfl
  | finalizeRuntimeStoppedIfEpoch pubkey generation stoppingLifecycleEpoch reason stoppedAt =>
      obtain ⟨_, _, _, _, rfl⟩ := hop
      exact row.stopped_turnChange reason rfl
  | markRuntimeStoppedIfGeneration pubkey generation reason stoppedAt =>
      obtain ⟨_, rfl⟩ := hop
      exact row.stopped_turnChange reason rfl
  | finalizeSessionRecoveryRevocation pubkey runtimeGeneration now =>
      obtain ⟨_, _, _, rfl⟩ := hop
      exact row.stopped_turnChange .revoked rfl
  | reserveMcpActorSession => exact hop.elim
  | activateMcpActor actorKey pubkey now =>
      obtain ⟨hkey, _, hrevoked, rfl⟩ := hop
      cases hwork : row.workState with
      | idle => exact .kept hwork.symm rfl rfl
      | working =>
          refine .dropped now rfl ⟨hbinds actorKey pubkey now rfl, ?_⟩ hwork rfl rfl rfl
          exact ⟨row, Table.mem_of_find? hfind, hkey, hwork, hrevoked⟩

/-- What one operation does to the turn columns under one pubkey. -/
inductive Store.TurnStep (store : Store) (op : StoreOp) : Option Session → Option Session → Prop
  | absent : TurnStep store op none none
  | changed (row next : Session) (hchange : row.TurnChange store op next) :
      TurnStep store op (some row) (some next)
  | created (next : Session) (hwork : next.workState = .idle) (hstart : next.turnStartedAt = 0)
      (hbusy : next.busySeconds = 0) : TurnStep store op none (some next)

theorem Store.TurnStep.refl (store : Store) (op : StoreOp) (found : Option Session) :
    store.TurnStep op found found := by
  cases found with
  | none => exact .absent
  | some row => exact .changed row row (.kept rfl rfl rfl)

theorem Store.TurnStep.of_annotated {after : Store}
    (hannotated : SessionsAnnotated store after) (k : String) :
    store.TurnStep op (store.sessions.find? k) (after.sessions.find? k) := by
  have hrelated := hannotated k
  revert hrelated
  generalize store.sessions.find? k = found
  generalize after.sessions.find? k = result
  intro hrelated
  cases hrelated with
  | none => exact .absent
  | some hrow => exact .changed _ _ (hrow ▸ .kept rfl rfl rfl)

/-- An activation outside the range of an SQLite integer fails. -/
theorem Store.step_activateMcpActor_of_overflow {actorKey pubkey : String}
    {now : Nat} (hover : Rust.i64Max < now + headlessIdleTimeoutSecs) :
    store.step (.lifecycle (.activateMcpActor actorKey pubkey now)) = store := by
  have hbind : ¬ ∀ param ∈ [now, Rust.saturatingAdd now headlessIdleTimeoutSecs],
      param ≤ Rust.i64Max := by
    intro hall
    have hsum := hall (Rust.saturatingAdd now headlessIdleTimeoutSecs) (by simp)
    rw [Rust.saturatingAdd_le_i64Max hsum] at hsum
    omega
  have hfail : ∀ value after,
      store.activateMcpActor actorKey pubkey now ≠ .ok (value, after) := by
    intro value after hok
    unfold activateMcpActor at hok
    split at hok
    · cases hok
    · simp only [bind_eq_ok, bindParams_eq_ok] at hok
      obtain ⟨_, _, _, _, _, hall, _⟩ := hok
      exact hbind hall
  show commit (store.activateMcpActor actorKey pubkey now) store = store
  cases houtcome : store.activateMcpActor actorKey pubkey now with
  | error error => rfl
  | ok result => exact absurd houtcome (hfail result.1 result.2)

theorem Store.step_turnStep (hstore : store.sessions.All Session.LifecycleInvariant)
    (op : StoreOp) (k : String) :
    store.TurnStep op (store.sessions.find? k) ((store.step op).sessions.find? k) := by
  cases op with
  | lifecycle op =>
      -- An activation whose deadline does not fit is refused by SQLite.
      by_cases hbinds : ∀ actorKey pubkey now, op = .activateMcpActor actorKey pubkey now →
          now + headlessIdleTimeoutSecs ≤ Rust.i64Max
      · have hchange := step_sessionChange store (.lifecycle op) k
        revert hchange
        generalize (store.step (.lifecycle op)).sessions.find? k = result
        intro hchange
        cases hchange with
        | kept => exact .refl store _ _
        | rewritten row next hfind hrewrites =>
            have hkey : row.pubkey = k := Table.key_of_find? hfind
            rw [hfind]
            rw [← hkey] at hfind
            exact .changed row next
              (op.rewrites_turnChange hfind (hstore.find? hfind) hbinds hrewrites)
        | created next hfree hkey hcreates =>
            rw [hfree]
            unfold StoreOp.Creates at hcreates
            split at hcreates
            · exact .created next (hcreates ▸ rfl) (hcreates ▸ rfl) (hcreates ▸ rfl)
            · exact .created next (hcreates ▸ rfl) (hcreates ▸ rfl) (hcreates ▸ rfl)
            · exact hcreates.elim
      · push Not at hbinds
        obtain ⟨actorKey, pubkey, now, rfl, hover⟩ := hbinds
        rw [step_activateMcpActor_of_overflow hover]
        exact .refl store _ _
  | inbox op =>
      have hchange := step_sessionChange store (.inbox op) k
      revert hchange
      generalize (store.step (.inbox op)).sessions.find? k = result
      intro hchange
      cases hchange with
      | kept => exact .refl store _ _
      | rewritten row next hfind hrewrites =>
          rw [hfind]
          cases op with
          | enqueueInbox => exact .changed row next (hrewrites.2.2.2 ▸ .kept rfl rfl rfl)
          | _ => exact hrewrites.elim
      | created next hfree hkey hcreates => exact hcreates.elim
  | locator op => exact .of_annotated (locatorStep_annotated store op) k
  | standing op =>
      show store.TurnStep _ _ ((store.standingStep op).sessions.find? k)
      rw [(standingStep_same store op).sessions]
      exact .refl store _ _
  | context op => exact .of_annotated (contextStep_annotated store op) k

/-! ## The observer and the columns -/

/-- The open turn of the observer is the one the row records. -/
def Session.TrackedBy (row : Session) (log : TurnLog) : Prop :=
  row.workState = .working → log.openSince = some row.turnStartedAt

/-- `AccountedBy` for turns whose times are in any order. -/
structure Session.ElapsedBy (row : Session) (log : TurnLog) : Prop where
  working_iff : row.workState = .working ↔ 0 < row.turnStartedAt
  busySeconds : row.busySeconds = log.elapsed

/-- What holds of a pubkey in every state of a run, whether turns were dropped or
not. -/
structure Tracked (found : Option Session) (log : TurnLog) : Prop where
  openTurn : ∀ row ∈ found, row.TrackedBy log
  absent : found = none → log.ended = []

theorem Store.TurnStep.tracked {found result : Option Session}
    {log : TurnLog} (hstep : store.TurnStep op found result) (htracked : Tracked found log) :
    Tracked result
      (log.observe (workStateOf found) (workStateOf result) (op.eventTime.getD 0)) := by
  cases hstep with
  | absent => exact htracked
  | created next hwork hstart hbusy =>
      refine ⟨?_, fun hnone => by cases hnone⟩
      rintro row hrow hworking
      cases hrow
      rw [hwork] at hworking
      cases hworking
  | changed row next hchange =>
      have hrow : row.TrackedBy log := htracked.openTurn row rfl
      refine ⟨?_, fun hnone => by cases hnone⟩
      rintro other hother hworking
      cases hother
      show (log.observe row.workState next.workState _).openSince = some next.turnStartedAt
      cases hchange with
      | kept hwork hstart hbusy =>
          rw [hwork, TurnLog.observe_same, hstart]
          exact hrow (hwork ▸ hworking)
      | started instant htime hidle hwork hstart hbusy =>
          rw [hidle, hwork, htime, hstart]
          rfl
      | cleared hidle hwork hstart hbusy | ended instant htime hold hwork hstart hbusy =>
          rw [hwork] at hworking; cases hworking
      | dropped instant htime hdrops hold hwork hstart hbusy =>
          rw [hwork] at hworking; cases hworking

/-- A step that drops no turn keeps the columns in agreement with the log. -/
theorem Store.TurnStep.elapsed {found result : Option Session}
    {log : TurnLog} (hstep : store.TurnStep op found result) (htracked : Tracked found log)
    (hpositive : ∀ instant ∈ op.eventTime, 0 < instant) (hkeeps : ¬ store.DropsTurn op)
    (helapsed : ∀ row ∈ found, row.ElapsedBy log) :
    ∀ row ∈ result, row.ElapsedBy
      (log.observe (workStateOf found) (workStateOf result) (op.eventTime.getD 0)) := by
  cases hstep with
  | absent => exact fun row hrow => by cases hrow
  | created next hwork hstart hbusy =>
      rintro row hrow
      cases hrow
      show next.ElapsedBy (log.observe .idle next.workState _)
      rw [hwork, TurnLog.observe_same]
      refine ⟨?_, ?_⟩
      · simp [hwork, hstart]
      · rw [hbusy, TurnLog.elapsed, htracked.absent rfl]
        rfl
  | changed row next hchange =>
      obtain ⟨hiff, hseconds⟩ := helapsed row rfl
      rintro other hother
      cases hother
      show next.ElapsedBy (log.observe row.workState next.workState _)
      cases hchange with
      | kept hwork hstart hbusy =>
          rw [hwork, TurnLog.observe_same]
          exact ⟨by rw [hwork, hstart, hiff], by rw [hbusy, hseconds]⟩
      | cleared hidle hwork hstart hbusy =>
          rw [hidle, hwork, TurnLog.observe_same]
          exact ⟨by simp [hwork, hstart], by rw [hbusy, hseconds]⟩
      -- A turn starts at a positive instant, which is how the row tells that one is open.
      | started instant htime hidle hwork hstart hbusy =>
          have hinstant : 0 < instant := hpositive instant htime
          rw [hidle, hwork, htime, TurnLog.observe_started]
          refine ⟨?_, ?_⟩
          · rw [hwork, hstart]
            exact ⟨fun _ => hinstant, fun _ => rfl⟩
          · rw [hbusy, hseconds]
            rfl
      | ended instant htime hworking hwork hstart hbusy =>
          have hopen : log.openSince = some row.turnStartedAt :=
            htracked.openTurn row rfl hworking
          have hstarted : 0 < row.turnStartedAt := hiff.mp hworking
          rw [hworking, hwork, htime, TurnLog.observe_ended hopen]
          refine ⟨by simp [hwork, hstart], ?_⟩
          rw [hbusy, hseconds, if_pos hstarted]
          simp [TurnLog.elapsed]
      | dropped instant htime hdrops => exact absurd hdrops hkeeps

/-- An activation in the middle of a turn leaves an idle row with a started turn. -/
theorem Store.step_of_dropsTurn
    (hstore : store.sessions.All Session.LifecycleInvariant) (hdrops : store.DropsTurn op) :
    ∃ row next, row ∈ store.sessions.rows ∧ row.workState = .working ∧
      next ∈ (store.step op).sessions.rows ∧ next.workState = .idle ∧
      next.turnStartedAt = row.turnStartedAt := by
  unfold DropsTurn at hdrops
  split at hdrops
  · rename_i actorKey pubkey now
    obtain ⟨hbound, row, hmem, hkey, hworking, hrevoked⟩ := hdrops
    have hfind : store.sessions.find? pubkey = some row :=
      Table.find?_eq_some_iff.mpr ⟨hmem, hkey⟩
    have hstopping : row.runtimeState ≠ .stopping := by
      intro hstopping
      have hidle := ((hstore row hmem).stopping hstopping).1
      rw [hworking] at hidle
      cases hidle
    have hbinds : bindParams [now, Rust.saturatingAdd now headlessIdleTimeoutSecs] = .ok () := by
      rw [bindParams_eq_ok]
      simp only [List.forall_mem_cons, List.not_mem_nil, false_implies, implies_true, and_true]
      unfold Rust.saturatingAdd
      omega
    refine ⟨row, row.mcpActivated now, hmem, hworking, ?_, rfl, rfl⟩
    show row.mcpActivated now ∈
      (commit (store.activateMcpActor actorKey pubkey now) store).sessions.rows
    have hok : ∃ after, store.activateMcpActor actorKey pubkey now = .ok ((), after) ∧
        after.sessions.find? pubkey = some (row.mcpActivated now) := by
      have hidle : ensure (row.runtimeState ≠ .stopping) StoreError.actorStopping = .ok () := by
        rw [ensure_eq_ok]
        exact hstopping
      have hready : ensure (row.recoveryState ≠ .revoked) StoreError.actorRevoked = .ok () := by
        rw [ensure_eq_ok]
        exact hrevoked
      unfold activateMcpActor getSession
      rw [hfind]
      dsimp only
      rw [hidle, hready, hbinds]
      have hupdated : (store.sessions.updateWhere (fun row => row.pubkey = pubkey)
          (fun row => row.mcpActivated now)).find? pubkey = some (row.mcpActivated now) := by
        rw [Table.find?_updateWhere, hfind, Option.map_some, if_pos hkey]
      exact ⟨_, rfl, hupdated⟩
    obtain ⟨after, hactivated, hafter⟩ := hok
    rw [hactivated]
    exact Table.mem_of_find? hafter
  · exact hdrops.elim

/-! ## Whole runs -/

namespace TurnHistory

/-- Every row agrees with its turns, whatever the order of the times. -/
def AllElapsed (history : TurnHistory) : Prop :=
  ∀ row ∈ history.store.sessions.rows, row.ElapsedBy (history.log row.pubkey)

/-- What every operation keeps. -/
structure Invariant (history : TurnHistory) : Prop where
  rows : history.store.sessions.All Session.LifecycleInvariant
  tracked : ∀ pubkey, Tracked (history.store.sessions.find? pubkey) (history.log pubkey)

theorem empty_invariant : empty.Invariant where
  rows := Table.all_empty _
  tracked := by
    intro pubkey
    refine ⟨?_, fun _ => rfl⟩
    intro row hrow
    cases hrow

variable {history : TurnHistory}

theorem step_invariant (hinvariant : history.Invariant) (op : StoreOp) :
    (history.step op).Invariant where
  rows := Store.step_lifecycleInvariant op hinvariant.rows
  tracked := fun pubkey =>
    (Store.step_turnStep hinvariant.rows op pubkey).tracked (hinvariant.tracked pubkey)

/-- One operation keeps the accounts exactly if it drops no turn. -/
theorem step_allElapsed_iff {op : StoreOp}
    (hinvariant : history.Invariant) (hpositive : ∀ instant ∈ op.eventTime, 0 < instant)
    (helapsed : history.AllElapsed) :
    (history.step op).AllElapsed ↔ ¬ history.store.DropsTurn op := by
  constructor
  · intro hnext hdrops
    obtain ⟨row, next, hrow, hworking, hmem, hidle, hstart⟩ :=
      Store.step_of_dropsTurn hinvariant.rows hdrops
    have hstarted : 0 < row.turnStartedAt := (helapsed row hrow).working_iff.mp hworking
    have hcleared : next.workState = .working := by
      rw [(hnext next hmem).working_iff, hstart]
      exact hstarted
    rw [hidle] at hcleared
    cases hcleared
  · intro hkeeps next hnext
    have hold : ∀ row ∈ history.store.sessions.find? next.pubkey,
        row.ElapsedBy (history.log next.pubkey) := by
      intro row hrow
      have hkey : row.pubkey = next.pubkey := Table.key_of_find? hrow
      rw [← hkey]
      exact helapsed row (Table.mem_of_find? hrow)
    exact (Store.step_turnStep hinvariant.rows op next.pubkey).elapsed
      (hinvariant.tracked next.pubkey) hpositive hkeeps hold next (Table.mem_rows_iff.mp hnext)

/-- Along a run with positive event times, every turn is accounted for exactly if
no activation drops one. -/
theorem run_allElapsed_iff {ops : List StoreOp}
    (hpositive : ∀ op ∈ ops, ∀ instant ∈ op.eventTime, 0 < instant) :
    (∀ elapsed, elapsed <+: ops → (run step empty elapsed).AllElapsed) ↔
      Guarded step (fun history op => ¬ history.store.DropsTurn op) empty ops :=
  forall_prefix_iff_guarded (I := AllElapsed) (J := Invariant) hpositive
    (fun row hrow => by cases hrow) empty_invariant
    (fun _ op hinvariant _ => step_invariant hinvariant op)
    (fun _ _ hinvariant hinstant helapsed => step_allElapsed_iff hinvariant hinstant helapsed)

/-! ## Times that do not decrease -/

def AllOrdered (history : TurnHistory) (bound : Nat) : Prop :=
  ∀ pubkey, (history.log pubkey).OrderedBy bound

/-- An operation without an event time starts and ends no turn. -/
theorem step_log_of_timeless {op : StoreOp}
    (hinvariant : history.Invariant) (htimeless : op.eventTime = none) :
    (history.step op).log = history.log := by
  funext pubkey
  have hstep := Store.step_turnStep hinvariant.rows op pubkey
  show (history.log pubkey).observe (workStateOf (history.store.sessions.find? pubkey))
    (workStateOf ((history.store.step op).sessions.find? pubkey)) _ = history.log pubkey
  revert hstep
  generalize history.store.sessions.find? pubkey = found
  generalize (history.store.step op).sessions.find? pubkey = result
  intro hstep
  have hsame : workStateOf result = workStateOf found := by
    cases hstep with
    | absent => rfl
    | created next hwork hstart hbusy => exact hwork
    | changed row next hchange =>
        cases hchange with
        | kept hwork hstart hbusy => exact hwork
        | cleared hidle hwork hstart hbusy => exact hwork.trans hidle.symm
        | started instant htime | ended instant htime | dropped instant htime =>
            rw [htimeless] at htime; cases htime
  rw [hsame, TurnLog.observe_same]

/-- Along event times that do not decrease no turn ends before it starts. -/
theorem run_allOrdered {bound : Nat} {ops : List StoreOp}
    (hinvariant : history.Invariant) (hordered : history.AllOrdered bound)
    (hbound : ∀ instant ∈ ops.filterMap StoreOp.eventTime, bound ≤ instant)
    (htimes : (ops.filterMap StoreOp.eventTime).Pairwise (· ≤ ·)) :
    ∃ last, (run step history ops).AllOrdered last := by
  induction ops generalizing history bound with
  | nil => exact ⟨bound, hordered⟩
  | cons op rest ih =>
      rw [run_cons]
      cases htime : op.eventTime with
      | none =>
          rw [List.filterMap_cons_none htime] at hbound htimes
          have hnext : (history.step op).AllOrdered bound := by
            intro pubkey
            rw [step_log_of_timeless hinvariant htime]
            exact hordered pubkey
          exact ih (step_invariant hinvariant op) hnext hbound htimes
      | some instant =>
          rw [List.filterMap_cons_some htime] at hbound htimes
          have hle : bound ≤ instant := hbound instant List.mem_cons_self
          have hnext : (history.step op).AllOrdered instant := by
            intro pubkey
            have hobserved := TurnLog.orderedBy_observe (hordered pubkey) hle
              (workStateOf (history.store.sessions.find? pubkey))
              (workStateOf ((history.store.step op).sessions.find? pubkey))
            show ((history.log pubkey).observe _ _ (op.eventTime.getD 0)).OrderedBy instant
            rw [htime]
            exact hobserved
          exact ih (step_invariant hinvariant op) hnext (List.pairwise_cons.mp htimes).1
            (List.pairwise_cons.mp htimes).2

theorem accounted_iff_allElapsed {bound : Nat}
    (hordered : history.AllOrdered bound) : history.Accounted ↔ history.AllElapsed := by
  constructor
  · intro haccounted row hrow
    obtain ⟨hiff, hbusy⟩ := haccounted row hrow
    rw [TurnLog.seconds_eq_elapsed (hordered row.pubkey)] at hbusy
    exact ⟨hiff, by exact_mod_cast hbusy⟩
  · intro helapsed row hrow
    obtain ⟨hiff, hbusy⟩ := helapsed row hrow
    refine ⟨hiff, ?_⟩
    rw [TurnLog.seconds_eq_elapsed (hordered row.pubkey), hbusy]

/-- In every run of store operations whose event times are positive and do not
decrease, all sessions are accounted for in every state reached exactly if no
remote actor is activated in the middle of a turn. -/
theorem turns_accounted_iff (ops : List StoreOp)
    (hpositive : ∀ instant ∈ ops.filterMap StoreOp.eventTime, 0 < instant)
    (htimes : (ops.filterMap StoreOp.eventTime).Pairwise (· ≤ ·)) :
    (∀ elapsed, elapsed <+: ops → (run step empty elapsed).Accounted) ↔
      Guarded Store.step (fun store op => ¬ store.DropsTurn op) Store.empty ops := by
  have hinstants : ∀ op ∈ ops, ∀ instant ∈ op.eventTime, 0 < instant := by
    intro op hop instant htime
    exact hpositive instant (List.mem_filterMap.mpr ⟨op, hop, htime⟩)
  have hstart : empty.AllOrdered 0 := by
    intro pubkey
    refine ⟨fun turn hturn => absurd hturn List.not_mem_nil, ?_⟩
    intro startedAt hopen
    cases hopen
  -- With ordered times the seconds add up exactly if the turns are those of the observer.
  have hprefix : ∀ elapsed, elapsed <+: ops →
      ((run step empty elapsed).Accounted ↔ (run step empty elapsed).AllElapsed) := by
    intro elapsed helapsed
    have hsublist : (elapsed.filterMap StoreOp.eventTime).Sublist
        (ops.filterMap StoreOp.eventTime) := helapsed.sublist.filterMap _
    obtain ⟨last, hordered⟩ := run_allOrdered empty_invariant hstart
      (fun _ _ => Nat.zero_le _) (htimes.sublist hsublist)
    exact accounted_iff_allElapsed hordered
  -- The observer does not change what the store does.
  have hview : Guarded step (fun history op => ¬ history.store.DropsTurn op) empty ops ↔
      Guarded Store.step (fun store op => ¬ store.DropsTurn op) Store.empty ops :=
    @guarded_view _ _ _ step Store.step TurnHistory.store (fun _ _ => rfl)
      (fun store op => ¬ store.DropsTurn op) empty ops
  rw [← hview, ← run_allElapsed_iff hinstants]
  exact forall₂_congr hprefix

/-- A session with one turn that ends and one that a stop interrupts. -/
theorem run_accounted_launch :
    (run step empty [launchOf "agent" 5,
        .lifecycle (.applySessionTurnStarted "agent" 1 10),
        .lifecycle (.applySessionTurnEnded "agent" 1 30),
        .lifecycle (.applySessionTurnStarted "agent" 1 40),
        .lifecycle (.markRuntimeStoppedIfGeneration "agent" 1 .operatorKill 55)]).Accounted :=
  (turns_accounted_iff _ (by decide) (by decide)).mpr (by decide +kernel) _ (List.prefix_refl _)

/-- The activation at 40 ends the turn that started at 10 and forgets its thirty
seconds; the next turn adds only its own ten. -/
theorem activation_drops_turn :
    ¬ ∀ ops : List StoreOp, (∀ instant ∈ ops.filterMap StoreOp.eventTime, 0 < instant) →
      (ops.filterMap StoreOp.eventTime).Pairwise (· ≤ ·) → (run step empty ops).Accounted := by
  intro hall
  have haccounted := hall [.lifecycle (.reserveMcpActorSession "actor" "mcp-openai" "root" 1),
    .lifecycle (.applySessionTurnStarted "actor" 1 10),
    .lifecycle (.activateMcpActor "mcp1" "actor" 40),
    .lifecycle (.applySessionTurnStarted "actor" 1 50),
    .lifecycle (.applySessionTurnEnded "actor" 1 60)] (by decide) (by decide)
  revert haccounted
  decide +kernel

end TurnHistory

end Mosaico
