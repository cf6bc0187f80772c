import Mosaico.AppServer.TurnProtocol
import Mosaico.Delivery.NativeTurns
import Mosaico.State.Operations

/-!
# The outcomes of native turn attempts

The ledger with its diagnostics.  An attempt is opened once and receives its outcome from
the completion of the turn, from the daemon when the generation has stopped, or from the
sweep of the next daemon, whichever comes first.  Retention deletes finished attempts, and
their ids are not given again.
-/

namespace Mosaico

open Relational Transition

structure DiagnosedAttempt extends NativeTurnAttempt where
  errorMessage : String
  errorDetails : String
  deriving DecidableEq, Repr

structure FinishNativeTurnAttempt where
  id : Int
  pubkey : String
  runtimeGeneration : Nat
  nativeTurnId : String
  outcome : NativeTurnOutcome
  errorMessage : String
  errorDetails : String
  finishedAt : Nat
  deriving DecidableEq

/-- The table and the sequence of its ids. -/
structure DiagnosedLedger where
  attempts : Table (fun row : DiagnosedAttempt => row.id)
  lastId : Nat

def maxDiagnosticChars : Nat := 500

/-- The text of an error as the ledger keeps it.  `scrub` redacts credentials. -/
def diagnostic (scrub : String → String) (value : String) : String :=
  String.ofList ((" ".intercalate (splitWhitespace (scrub value))).toList.take maxDiagnosticChars)

namespace DiagnosedAttempt

/-- The row of a new attempt. -/
def opened (id : Nat) (row : NewNativeTurnAttempt) : DiagnosedAttempt where
  id := id
  pubkey := row.pubkey
  runtimeGeneration := row.runtimeGeneration
  deliveryKind := row.deliveryKind
  deliveryEventId := row.deliveryEventId
  nativeThreadId := row.nativeThreadId
  nativeTurnId := ""
  outcome := .started
  startedAt := row.startedAt
  finishedAt := 0
  errorMessage := ""
  errorDetails := ""

def finished (scrub : String → String) (form : FinishNativeTurnAttempt)
    (row : DiagnosedAttempt) : DiagnosedAttempt :=
  { row with
    nativeTurnId := form.nativeTurnId
    outcome := form.outcome
    errorMessage := diagnostic scrub form.errorMessage
    errorDetails := diagnostic scrub form.errorDetails
    finishedAt := form.finishedAt }

def reconciled (now : Nat) (row : DiagnosedAttempt) : DiagnosedAttempt :=
  { row with
    outcome := .unknownReconciled
    errorMessage := "daemon restarted before native terminal evidence"
    finishedAt := now }

theorem id_finished (scrub : String → String) (form : FinishNativeTurnAttempt)
    (row : DiagnosedAttempt) : (row.finished scrub form).id = row.id := rfl

theorem id_reconciled (now : Nat) (row : DiagnosedAttempt) :
    (row.reconciled now).id = row.id := rfl

/-- The condition of a finish. -/
def Awaits (form : FinishNativeTurnAttempt) (row : DiagnosedAttempt) : Prop :=
  (row.id : Int) = form.id ∧ row.pubkey = form.pubkey ∧
    row.runtimeGeneration = form.runtimeGeneration ∧ row.Open

instance (form : FinishNativeTurnAttempt) : DecidablePred (Awaits form) := fun _ =>
  inferInstanceAs (Decidable (_ ∧ _))

end DiagnosedAttempt

open DiagnosedAttempt

namespace DiagnosedLedger

def empty : DiagnosedLedger where
  attempts := Table.empty
  lastId := 0

def startNativeTurnAttempt (ledger : DiagnosedLedger) (row : NewNativeTurnAttempt) :
    Except LedgerError (Nat × DiagnosedLedger) := do
  (bindParams [row.runtimeGeneration, row.startedAt]).mapError LedgerError.store
  ensure (AttemptLedger.admits row) (.store (.constraintViolation "native_turn_attempts"))
  return (ledger.lastId + 1,
    { attempts := ledger.attempts.insertOrIgnore (opened (ledger.lastId + 1) row)
      lastId := ledger.lastId + 1 })

/-- A finished row has a time, which the table checks. -/
def finishNativeTurnAttempt (scrub : String → String) (ledger : DiagnosedLedger)
    (form : FinishNativeTurnAttempt) : Except LedgerError (Bool × DiagnosedLedger) := do
  ensure (form.outcome ≠ .started) .finishAsStarted
  (bindParams [form.finishedAt, form.runtimeGeneration]).mapError LedgerError.store
  ensure (ledger.attempts.Any (Awaits form) → 0 < form.finishedAt)
    (.store (.constraintViolation "native_turn_attempts"))
  return (decide (ledger.attempts.matching (Awaits form) = 1),
    { ledger with
      attempts := ledger.attempts.updateWhere (Awaits form) (finished scrub form)
        (id_finished scrub form) })

/-- The sweep at the start of the daemon, with the number of rows it closes. -/
def reconcileOpenNativeTurnAttempts (ledger : DiagnosedLedger) (now : Nat) :
    Except LedgerError (Nat × DiagnosedLedger) := do
  (bindParams [now]).mapError LedgerError.store
  ensure (ledger.attempts.Any (fun row => row.Open) → 0 < now)
    (.store (.constraintViolation "native_turn_attempts"))
  return (ledger.attempts.matching (fun row => row.Open),
    { ledger with
      attempts := ledger.attempts.updateWhere (fun row => row.Open) (reconciled now)
        (id_reconciled now) })

/-- The part of retention that concerns the ledger. -/
def pruneFinishedBefore (ledger : DiagnosedLedger) (completedLedgersBefore : Nat) :
    Except LedgerError (Nat × DiagnosedLedger) := do
  (bindParams [completedLedgersBefore]).mapError LedgerError.store
  return (ledger.attempts.matching (fun row =>
      0 < row.finishedAt ∧ row.finishedAt < completedLedgersBefore),
    { ledger with
      attempts := ledger.attempts.deleteWhere (fun row =>
        0 < row.finishedAt ∧ row.finishedAt < completedLedgersBefore) })

/-- The ids of the attempts come from the sequence. -/
def Numbered (ledger : DiagnosedLedger) : Prop :=
  ∀ id row, ledger.attempts.find? id = some row → id ≤ ledger.lastId

end DiagnosedLedger

/-! ## What an operation does to one attempt -/

namespace DiagnosedLedger

variable {scrub : String → String} {ledger after : DiagnosedLedger}

theorem find?_start {row : NewNativeTurnAttempt} {id : Nat} (hnumbered : ledger.Numbered)
    (hok : ledger.startNativeTurnAttempt row = .ok (id, after)) :
    after.lastId = ledger.lastId + 1 ∧ ∀ k, after.attempts.find? k =
      if k = ledger.lastId + 1 then some (opened (ledger.lastId + 1) row)
      else ledger.attempts.find? k := by
  simp only [startNativeTurnAttempt, bind_eq_ok, pure_eq_ok, Prod.mk.injEq] at hok
  obtain ⟨_, _, _, _, _, rfl⟩ := hok
  refine ⟨rfl, ?_⟩
  intro k
  dsimp only
  rw [Table.find?_insertOrIgnore]
  by_cases hk : k = ledger.lastId + 1
  · have hfree : ledger.attempts.find? k = none := by
      cases hfind : ledger.attempts.find? k with
      | none => rfl
      | some old =>
          have hbound := hnumbered k old hfind
          omega
    rw [if_pos hk, hfree]
    exact if_pos hk
  · rw [if_neg hk]
    exact if_neg hk

theorem find?_finish {form : FinishNativeTurnAttempt} {changed : Bool}
    (hok : ledger.finishNativeTurnAttempt scrub form = .ok (changed, after)) :
    form.outcome ≠ .started ∧ after.lastId = ledger.lastId ∧ ∀ k, after.attempts.find? k =
      (ledger.attempts.find? k).map (fun row =>
        if Awaits form row then finished scrub form row else row) := by
  simp only [finishNativeTurnAttempt, bind_eq_ok, ensure_eq_ok, pure_eq_ok, Prod.mk.injEq] at hok
  obtain ⟨_, houtcome, _, _, _, _, _, rfl⟩ := hok
  exact ⟨houtcome, rfl, fun k => Table.find?_updateWhere _ _ _ (id_finished scrub form) k⟩

theorem find?_reconcile {now closed : Nat}
    (hok : ledger.reconcileOpenNativeTurnAttempts now = .ok (closed, after)) :
    after.lastId = ledger.lastId ∧ ∀ k, after.attempts.find? k =
      (ledger.attempts.find? k).map (fun row => if row.Open then reconciled now row else row) := by
  simp only [reconcileOpenNativeTurnAttempts, bind_eq_ok, ensure_eq_ok, pure_eq_ok,
    Prod.mk.injEq] at hok
  obtain ⟨_, _, _, _, _, rfl⟩ := hok
  exact ⟨rfl, fun k => Table.find?_updateWhere _ _ _ (id_reconciled now) k⟩

theorem find?_prune {before pruned : Nat}
    (hok : ledger.pruneFinishedBefore before = .ok (pruned, after)) :
    after.lastId = ledger.lastId ∧ ∀ k, after.attempts.find? k =
      (ledger.attempts.find? k).filter (fun row =>
        decide (¬ (0 < row.finishedAt ∧ row.finishedAt < before))) := by
  simp only [pruneFinishedBefore, bind_eq_ok, pure_eq_ok, Prod.mk.injEq] at hok
  obtain ⟨_, _, _, rfl⟩ := hok
  exact ⟨rfl, fun k => Table.find?_deleteWhere _ _ k⟩

end DiagnosedLedger

/-! ## Runs -/

/-- The ledger beside the store, whose operations move the generations. -/
structure AttemptWorld where
  store : Store
  ledger : DiagnosedLedger

inductive AttemptInput where
  | start (row : NewNativeTurnAttempt)
  | finish (form : FinishNativeTurnAttempt)
  | reconcile (now : Nat)
  | prune (completedLedgersBefore : Nat)
  | store (op : StoreOp)

namespace AttemptWorld

variable (scrub : String → String)

def fresh (store : Store) : AttemptWorld where
  store := store
  ledger := DiagnosedLedger.empty

def step (world : AttemptWorld) (input : AttemptInput) : AttemptWorld :=
  match input with
  | .start row =>
      { world with
        ledger := commit (world.ledger.startNativeTurnAttempt row) world.ledger }
  | .finish form =>
      { world with
        ledger := commit (world.ledger.finishNativeTurnAttempt scrub form) world.ledger }
  | .reconcile now =>
      { world with
        ledger := commit (world.ledger.reconcileOpenNativeTurnAttempts now) world.ledger }
  | .prune completedLedgersBefore =>
      { world with
        ledger := commit (world.ledger.pruneFinishedBefore completedLedgersBefore) world.ledger }
  | .store op => { world with store := world.store.step op }

/-- The outcome that the attempt receives by the input: a finish that reports a change, or a
sweep that finds the attempt open. -/
def recorded (world : AttemptWorld) (id : Nat) (input : AttemptInput) :
    Option NativeTurnOutcome :=
  match input with
  | .finish form =>
      if (id : Int) = form.id ∧ changed (world.ledger.finishNativeTurnAttempt scrub form) = true
      then some form.outcome else none
  | .reconcile now =>
      if (world.ledger.attempts.find? id).any (fun row => decide row.Open) = true ∧
        (world.ledger.reconcileOpenNativeTurnAttempts now).isOk = true
      then some .unknownReconciled else none
  | _ => none

/-- The outcomes that the attempt receives in a run. -/
def recordings (world : AttemptWorld) (id : Nat) : List AttemptInput → List NativeTurnOutcome
  | [] => []
  | input :: rest =>
      (world.recorded scrub id input).toList ++ recordings (world.step scrub input) id rest

theorem recordings_append (world : AttemptWorld) (id : Nat) (first second : List AttemptInput) :
    world.recordings scrub id (first ++ second) = world.recordings scrub id first ++
      (run (step scrub) world first).recordings scrub id second := by
  induction first generalizing world with
  | nil => rfl
  | cons input rest ih =>
      rw [List.cons_append, recordings, recordings, ih, List.append_assoc, run_cons]

variable {scrub} {world : AttemptWorld} {id : Nat}

/-- What an input does to an attempt. -/
inductive Moves (scrub : String → String) (world : AttemptWorld) (id : Nat)
    (input : AttemptInput) : Prop
  | kept (hrow : (world.step scrub input).ledger.attempts.find? id =
        world.ledger.attempts.find? id)
      (hnone : world.recorded scrub id input = none)
  | opened (row : DiagnosedAttempt) (hnew : world.ledger.lastId < id)
      (hlast : id ≤ (world.step scrub input).ledger.lastId)
      (hrow : (world.step scrub input).ledger.attempts.find? id = some row) (hopen : row.Open)
      (hnone : world.recorded scrub id input = none)
  | closed (row next : DiagnosedAttempt) (hrow : world.ledger.attempts.find? id = some row)
      (hopen : row.Open)
      (hnext : (world.step scrub input).ledger.attempts.find? id = some next)
      (hclosed : ¬ next.Open) (hsome : world.recorded scrub id input = some next.outcome)
  | pruned (row : DiagnosedAttempt) (before : Nat) (hinput : input = .prune before)
      (hrow : world.ledger.attempts.find? id = some row) (hclosed : ¬ row.Open)
      (hnext : (world.step scrub input).ledger.attempts.find? id = none)
      (hnone : world.recorded scrub id input = none)

theorem moves_start (hnumbered : world.ledger.Numbered) (row : NewNativeTurnAttempt) :
    Moves scrub world id (.start row) := by
  cases hok : world.ledger.startNativeTurnAttempt row with
  | error error =>
      refine .kept ?_ rfl
      rw [step, hok, commit_error]
  | ok result =>
      obtain ⟨given, after⟩ := result
      obtain ⟨hlast, hfind⟩ := DiagnosedLedger.find?_start hnumbered hok
      by_cases hid : id = world.ledger.lastId + 1
      · refine .opened (DiagnosedAttempt.opened (world.ledger.lastId + 1) row) (by omega) ?_ ?_
          ⟨rfl, rfl⟩ rfl
        · rw [step, hok, commit_ok, hlast]
          exact hid.le
        · rw [step, hok, commit_ok, hfind, if_pos hid]
      · refine .kept ?_ rfl
        rw [step, hok, commit_ok, hfind, if_neg hid]

/-- A finish reports a change if it finds its attempt open. -/
theorem recorded_finish {form : FinishNativeTurnAttempt} {reported : Bool}
    {after : DiagnosedLedger}
    (hok : world.ledger.finishNativeTurnAttempt scrub form = .ok (reported, after)) :
    world.recorded scrub id (.finish form) =
      if ∃ row, world.ledger.attempts.find? id = some row ∧ Awaits form row
      then some form.outcome else none := by
  have hreported : reported = decide (world.ledger.attempts.matching (Awaits form) = 1) := by
    simp only [DiagnosedLedger.finishNativeTurnAttempt, bind_eq_ok, pure_eq_ok,
      Prod.mk.injEq] at hok
    obtain ⟨_, _, _, _, _, _, hreported, _⟩ := hok
    exact hreported.symm
  have hiff : ((id : Int) = form.id ∧
      changed (world.ledger.finishNativeTurnAttempt scrub form) = true) ↔
        ∃ row, world.ledger.attempts.find? id = some row ∧ Awaits form row := by
    rw [hok]
    simp only [changed, hreported, decide_eq_true_eq]
    constructor
    · rintro ⟨hid, hmatching⟩
      have hkey : ∀ row, Awaits form row → row.id = id := by
        intro row hrow
        have hrowId := hrow.1
        omega
      exact (Table.matching_eq_one_of_key hkey).mp hmatching
    · rintro ⟨row, hrow, hawaits⟩
      have hrowId := Table.key_of_find? hrow
      have hawaitsId := hawaits.1
      have hkey : ∀ other, Awaits form other → other.id = id := by
        intro other hother
        have hotherId := hother.1
        omega
      exact ⟨by omega, (Table.matching_eq_one_of_key hkey).mpr ⟨row, hrow, hawaits⟩⟩
  unfold recorded
  simp only [hiff]

theorem moves_finish (form : FinishNativeTurnAttempt) : Moves scrub world id (.finish form) := by
  cases hok : world.ledger.finishNativeTurnAttempt scrub form with
  | error error =>
      refine .kept ?_ ?_
      · rw [step, hok, commit_error]
      · simp [recorded, hok, changed]
  | ok result =>
      obtain ⟨reported, after⟩ := result
      obtain ⟨houtcome, _, hfind⟩ := DiagnosedLedger.find?_finish hok
      have hrecorded : world.recorded scrub id (.finish form) =
          if ∃ row, world.ledger.attempts.find? id = some row ∧ Awaits form row
          then some form.outcome else none := recorded_finish hok
      by_cases hawaits : ∃ row, world.ledger.attempts.find? id = some row ∧ Awaits form row
      · rw [if_pos hawaits] at hrecorded
        obtain ⟨row, hrow, hrowAwaits⟩ := hawaits
        refine .closed row (finished scrub form row) hrow hrowAwaits.2.2.2 ?_
          (fun hopen => houtcome hopen.1) hrecorded
        rw [step, hok, commit_ok, hfind, hrow, Option.map_some, if_pos hrowAwaits]
      · rw [if_neg hawaits] at hrecorded
        refine .kept ?_ hrecorded
        rw [step, hok, commit_ok, hfind]
        cases hrow : world.ledger.attempts.find? id with
        | none => rfl
        | some row => rw [Option.map_some, if_neg fun hrowAwaits => hawaits ⟨row, hrow, hrowAwaits⟩]

theorem moves_reconcile (now : Nat) : Moves scrub world id (.reconcile now) := by
  cases hok : world.ledger.reconcileOpenNativeTurnAttempts now with
  | error error =>
      refine .kept ?_ ?_
      · rw [step, hok, commit_error]
      · simp [recorded, hok, Except.isOk, Except.toBool]
  | ok result =>
      obtain ⟨closed, after⟩ := result
      obtain ⟨_, hfind⟩ := DiagnosedLedger.find?_reconcile hok
      have hstep : (world.step scrub (.reconcile now)).ledger.attempts.find? id =
          (world.ledger.attempts.find? id).map
            (fun row => if row.Open then reconciled now row else row) := by
        rw [step, hok, commit_ok, hfind]
      cases hrow : world.ledger.attempts.find? id with
      | none =>
          refine .kept ?_ ?_
          · rw [hstep, hrow, Option.map_none]
          · simp [recorded, hrow]
      | some row =>
          by_cases hopen : row.Open
          · refine .closed row (reconciled now row) hrow hopen ?_ (fun hstill => by cases hstill.1) ?_
            · rw [hstep, hrow, Option.map_some, if_pos hopen]
            · simp [recorded, hrow, hopen, hok, Except.isOk, Except.toBool, reconciled]
          · refine .kept ?_ ?_
            · rw [hstep, hrow, Option.map_some, if_neg hopen]
            · simp [recorded, hrow, hopen]

theorem moves_prune (before : Nat) : Moves scrub world id (.prune before) := by
  cases hok : world.ledger.pruneFinishedBefore before with
  | error error =>
      refine .kept ?_ rfl
      rw [step, hok, commit_error]
  | ok result =>
      obtain ⟨pruned, after⟩ := result
      obtain ⟨_, hfind⟩ := DiagnosedLedger.find?_prune hok
      have hstep : (world.step scrub (.prune before)).ledger.attempts.find? id =
          (world.ledger.attempts.find? id).filter (fun row =>
            decide (¬ (0 < row.finishedAt ∧ row.finishedAt < before))) := by
        rw [step, hok, commit_ok, hfind]
      cases hrow : world.ledger.attempts.find? id with
      | none =>
          refine .kept ?_ rfl
          rw [hstep, hrow, Option.filter_none]
      | some row =>
          by_cases hold : 0 < row.finishedAt ∧ row.finishedAt < before
          · refine .pruned row before rfl hrow (fun hopen => ?_) ?_ rfl
            · have hfinished := hopen.2
              omega
            · rw [hstep, hrow, Option.filter_some_neg (by simpa using hold)]
          · refine .kept ?_ rfl
            rw [hstep, hrow]
            exact Option.filter_some_pos (decide_eq_true hold)

/-- The step lemma. -/
theorem moves_step (hnumbered : world.ledger.Numbered) (input : AttemptInput) :
    Moves scrub world id input := by
  cases input with
  | start row => exact moves_start hnumbered row
  | finish form => exact moves_finish form
  | reconcile now => exact moves_reconcile now
  | prune before => exact moves_prune before
  | store op => exact .kept rfl rfl

theorem lastId_le_step (world : AttemptWorld) (input : AttemptInput) :
    world.ledger.lastId ≤ (world.step scrub input).ledger.lastId := by
  let Later := fun after : DiagnosedLedger => world.ledger.lastId ≤ after.lastId
  have hrefl : Later world.ledger := Nat.le_refl _
  cases input with
  | start row =>
      refine commit_invariant (I := Later) hrefl fun given after hok => ?_
      simp only [DiagnosedLedger.startNativeTurnAttempt, bind_eq_ok, pure_eq_ok,
        Prod.mk.injEq] at hok
      obtain ⟨_, _, _, _, _, rfl⟩ := hok
      exact Nat.le_succ _
  | finish form =>
      exact commit_invariant (I := Later) hrefl fun reported after hok =>
        (DiagnosedLedger.find?_finish hok).2.1.ge
  | reconcile now =>
      exact commit_invariant (I := Later) hrefl fun closed after hok =>
        (DiagnosedLedger.find?_reconcile hok).1.ge
  | prune before =>
      exact commit_invariant (I := Later) hrefl fun pruned after hok =>
        (DiagnosedLedger.find?_prune hok).1.ge
  | store op => exact Nat.le_refl _

theorem numbered_step (hnumbered : world.ledger.Numbered) (input : AttemptInput) :
    (world.step scrub input).ledger.Numbered := by
  intro id row hfind
  have hlast : world.ledger.lastId ≤ (world.step scrub input).ledger.lastId :=
    lastId_le_step world input
  have hmoves : Moves scrub world id input := moves_step hnumbered input
  cases hmoves with
  | kept hrow _ =>
      rw [hrow] at hfind
      exact Nat.le_trans (hnumbered id row hfind) hlast
  | opened new _ hid _ _ _ => exact hid
  | closed old next hrow _ _ _ _ | pruned old before _ hrow _ _ _ =>
      exact Nat.le_trans (hnumbered id old hrow) hlast

/-- The ledger agrees with the outcomes that an attempt has received. -/
structure Accounted (world : AttemptWorld) (id : Nat) (received : List NativeTurnOutcome) :
    Prop where
  once : received.length ≤ 1
  untouched : world.ledger.lastId < id → received = []
  row : ∀ row, world.ledger.attempts.find? id = some row →
    received = if row.Open then [] else [row.outcome]

theorem accounted_step (hnumbered : world.ledger.Numbered) {received : List NativeTurnOutcome}
    (haccounted : world.Accounted id received) (input : AttemptInput) :
    (world.step scrub input).Accounted id
      (received ++ (world.recorded scrub id input).toList) := by
  have hlast : world.ledger.lastId ≤ (world.step scrub input).ledger.lastId :=
    lastId_le_step world input
  have hmoves : Moves scrub world id input := moves_step hnumbered input
  cases hmoves with
  | kept hrow hnone =>
      rw [hnone, Option.toList_none, List.append_nil]
      refine ⟨haccounted.once, fun hid => haccounted.untouched (by omega), ?_⟩
      rw [hrow]
      exact haccounted.row
  | opened new hnew hid hrow hopen hnone =>
      rw [hnone, Option.toList_none, List.append_nil, haccounted.untouched hnew]
      refine ⟨Nat.zero_le _, fun _ => rfl, ?_⟩
      intro row hfind
      rw [hrow] at hfind
      cases hfind
      rw [if_pos hopen]
  | closed old next hrow hopen hnext hclosed hsome =>
      have hreceived := haccounted.row old hrow
      rw [if_pos hopen] at hreceived
      rw [hsome, Option.toList_some, hreceived, List.nil_append]
      have hid := hnumbered id old hrow
      refine ⟨Nat.le_refl _, fun hlater => by omega, ?_⟩
      intro row hfind
      rw [hnext] at hfind
      cases hfind
      rw [if_neg hclosed]
  | pruned old before _ hrow _ hnext hnone =>
      rw [hnone, Option.toList_none, List.append_nil]
      refine ⟨haccounted.once, fun hid => haccounted.untouched (by omega), ?_⟩
      intro row hfind
      rw [hnext] at hfind
      cases hfind

theorem accounted_run (store : Store) (id : Nat) (inputs : List AttemptInput) :
    (run (step scrub) (fresh store) inputs).ledger.Numbered ∧
      (run (step scrub) (fresh store) inputs).Accounted id
        ((fresh store).recordings scrub id inputs) := by
  induction inputs using List.reverseRecOn with
  | nil =>
      refine ⟨?_, Nat.zero_le _, fun _ => rfl, ?_⟩
      · intro other row hfind
        cases hfind
      · intro row hfind
        cases hfind
  | append_singleton earlier input ih =>
      obtain ⟨hnumbered, haccounted⟩ := ih
      rw [run_append, run_cons, run_nil, recordings_append, recordings, recordings,
        List.append_nil]
      exact ⟨numbered_step hnumbered input, accounted_step hnumbered haccounted input⟩

/-- A closed attempt keeps its row until retention deletes it. -/
theorem closed_step (hnumbered : world.ledger.Numbered) {row : DiagnosedAttempt}
    (hrow : world.ledger.attempts.find? id = some row) (hclosed : ¬ row.Open)
    (input : AttemptInput) :
    (world.step scrub input).ledger.attempts.find? id = some row ∨
      (world.step scrub input).ledger.attempts.find? id = none ∧
        ∃ before, input = .prune before := by
  have hmoves : Moves scrub world id input := moves_step hnumbered input
  cases hmoves with
  | kept hkept _ => exact Or.inl (hkept.trans hrow)
  | opened new hnew _ _ _ _ =>
      have hid := hnumbered id row hrow
      omega
  | closed old next hold hopen _ _ _ =>
      rw [hrow] at hold
      cases hold
      exact absurd hopen hclosed
  | pruned old before hinput _ _ hnext _ => exact Or.inr ⟨hnext, before, hinput⟩

/-- An id that has been given is not given again. -/
theorem gone_step (hnumbered : world.ledger.Numbered)
    (hgone : world.ledger.attempts.find? id = none) (hgiven : id ≤ world.ledger.lastId)
    (input : AttemptInput) : (world.step scrub input).ledger.attempts.find? id = none := by
  have hmoves : Moves scrub world id input := moves_step hnumbered input
  cases hmoves with
  | kept hkept _ => exact hkept.trans hgone
  | opened new hnew _ _ _ _ => omega
  | closed old next hold _ _ _ _ =>
      rw [hgone] at hold
      cases hold
  | pruned old before _ _ _ hnext _ => exact hnext

theorem gone_run (hnumbered : world.ledger.Numbered)
    (hgone : world.ledger.attempts.find? id = none) (hgiven : id ≤ world.ledger.lastId)
    (inputs : List AttemptInput) :
    (run (step scrub) world inputs).ledger.attempts.find? id = none := by
  induction inputs generalizing world with
  | nil => exact hgone
  | cons input rest ih =>
      exact ih (numbered_step hnumbered input) (gone_step hnumbered hgone hgiven input)
        (Nat.le_trans hgiven (lastId_le_step world input))

theorem closed_run (hnumbered : world.ledger.Numbered) {row : DiagnosedAttempt}
    (hrow : world.ledger.attempts.find? id = some row) (hclosed : ¬ row.Open)
    (inputs : List AttemptInput) :
    (run (step scrub) world inputs).ledger.attempts.find? id = some row ∨
      (run (step scrub) world inputs).ledger.attempts.find? id = none ∧
        ∃ before, .prune before ∈ inputs := by
  induction inputs generalizing world with
  | nil => exact Or.inl hrow
  | cons input rest ih =>
      have hnext : (world.step scrub input).ledger.Numbered := numbered_step hnumbered input
      have hfirst : (world.step scrub input).ledger.attempts.find? id = some row ∨ _ :=
        closed_step hnumbered hrow hclosed input
      rcases hfirst with hkept | ⟨hgone, before, rfl⟩
      · rcases ih hnext hkept with hrow | ⟨hgone, before, hmem⟩
        · exact Or.inl hrow
        · exact Or.inr ⟨hgone, before, List.mem_cons_of_mem input hmem⟩
      · have hlast : world.ledger.lastId ≤ (world.step scrub (.prune before)).ledger.lastId :=
          lastId_le_step world (.prune before)
        have hgiven := Nat.le_trans (hnumbered id row hrow) hlast
        exact Or.inr ⟨gone_run hnext hgone hgiven rest, before, List.mem_cons_self⟩

/-! ## Rejected outcomes and the sweep -/

/-- A finish for another generation than the attempt's changes nothing. -/
theorem finish_of_otherGeneration {row : DiagnosedAttempt} {form : FinishNativeTurnAttempt}
    (hrow : world.ledger.attempts.find? id = some row) (hid : form.id = id)
    (hother : row.runtimeGeneration ≠ form.runtimeGeneration) :
    changed (world.ledger.finishNativeTurnAttempt scrub form) = false ∧
      world.step scrub (.finish form) = world := by
  have hawaits : ∀ other ∈ world.ledger.attempts.rows, ¬ Awaits form other := by
    rintro other hmem ⟨hotherId, _, hgeneration, _⟩
    have hsame : world.ledger.attempts.find? id = some other :=
      Table.find?_eq_some_iff.mpr ⟨hmem, by omega⟩
    rw [hrow] at hsame
    cases hsame
    exact hother hgeneration
  have hmatching : world.ledger.attempts.matching (Awaits form) ≠ 1 := by
    intro hone
    have hany := Table.matching_pos_iff.mp (hone ▸ Nat.one_pos)
    obtain ⟨other, hmem, hother⟩ := hany
    exact hawaits other hmem hother
  have hfixed : world.ledger.attempts.updateWhere (Awaits form) (finished scrub form)
      (id_finished scrub form) = world.ledger.attempts :=
    Table.updateWhere_of_fixed fun other hmem hother => absurd hother (hawaits other hmem)
  cases hok : world.ledger.finishNativeTurnAttempt scrub form with
  | error error =>
      refine ⟨rfl, ?_⟩
      rw [step, hok, commit_error]
  | ok result =>
      obtain ⟨reported, after⟩ := result
      have hparts := hok
      simp only [DiagnosedLedger.finishNativeTurnAttempt, bind_eq_ok, pure_eq_ok, Prod.mk.injEq,
        hfixed] at hparts
      obtain ⟨_, _, _, _, _, _, hreported, hafter⟩ := hparts
      constructor
      · rw [changed, ← hreported]
        exact decide_eq_false hmatching
      · rw [step, hok, commit_ok, ← hafter]

/-- The sweep of a clock that shows a time succeeds. -/
theorem reconcile_isOk (ledger : DiagnosedLedger) {now : Nat} (hnow : 0 < now)
    (hbound : now ≤ Rust.i64Max) : (ledger.reconcileOpenNativeTurnAttempts now).isOk = true := by
  have hbind : bindParams [now] = .ok () := by
    rw [bindParams_eq_ok]
    intro param hparam
    rw [List.mem_singleton.mp hparam]
    exact hbound
  have hcheck : ensure (ledger.attempts.Any (fun row => row.Open) → 0 < now)
      (LedgerError.store (.constraintViolation "native_turn_attempts")) = .ok () :=
    ensure_eq_ok.mpr fun _ => hnow
  unfold DiagnosedLedger.reconcileOpenNativeTurnAttempts
  rw [hbind, hcheck]
  rfl

/-- In every run an attempt receives one outcome or none, and keeps it until retention
deletes the attempt; an outcome of another generation is rejected; the sweep closes the open
attempts and no others. -/
theorem attempts_settled (scrub : String → String) (store : Store)
    (earlier later : List AttemptInput) :
    (∀ id, ((fresh store).recordings scrub id (earlier ++ later)).length ≤ 1) ∧
      (∀ id row,
        (run (step scrub) (fresh store) earlier).ledger.attempts.find? id = some row →
        (fresh store).recordings scrub id earlier = (if row.Open then [] else [row.outcome]) ∧
          (¬ row.Open →
            (run (step scrub) (fresh store) (earlier ++ later)).ledger.attempts.find? id =
                some row ∨
              (run (step scrub) (fresh store) (earlier ++ later)).ledger.attempts.find? id =
                  none ∧ ∃ before, .prune before ∈ later) ∧
          ∀ form : FinishNativeTurnAttempt, form.id = id →
            row.runtimeGeneration ≠ form.runtimeGeneration →
            changed ((run (step scrub) (fresh store) earlier).ledger.finishNativeTurnAttempt scrub
                form) = false ∧
              (run (step scrub) (fresh store) earlier).step scrub (.finish form) =
                run (step scrub) (fresh store) earlier) ∧
      ∀ now,
        (0 < now → now ≤ Rust.i64Max →
          ((run (step scrub) (fresh store) earlier).ledger.reconcileOpenNativeTurnAttempts
            now).isOk = true) ∧
        ∀ closed after,
          (run (step scrub) (fresh store) earlier).ledger.reconcileOpenNativeTurnAttempts now =
              .ok (closed, after) →
            closed = (run (step scrub) (fresh store) earlier).ledger.attempts.matching
                (fun row => row.Open) ∧
              ∀ id, after.attempts.find? id =
                ((run (step scrub) (fresh store) earlier).ledger.attempts.find? id).map
                  (fun row => if row.Open then row.reconciled now else row) := by
  refine ⟨fun id => (accounted_run store id (earlier ++ later)).2.once, ?_, ?_⟩
  -- What is settled stays settled through the later inputs.
  · intro id row hrow
    obtain ⟨hnumbered, haccounted⟩ :
        (run (step scrub) (fresh store) earlier).ledger.Numbered ∧ _ :=
      accounted_run store id earlier
    refine ⟨haccounted.row row hrow, ?_, ?_⟩
    · intro hclosed
      rw [run_append]
      exact closed_run hnumbered hrow hclosed later
    · intro form hid hother
      exact finish_of_otherGeneration hrow hid hother
  · intro now
    refine ⟨reconcile_isOk _, ?_⟩
    intro closed after hok
    refine ⟨?_, (DiagnosedLedger.find?_reconcile hok).2⟩
    simp only [DiagnosedLedger.reconcileOpenNativeTurnAttempts, bind_eq_ok, pure_eq_ok,
      Prod.mk.injEq] at hok
    obtain ⟨_, _, _, _, hclosed, _⟩ := hok
    exact hclosed.symm

end AttemptWorld

end Mosaico
