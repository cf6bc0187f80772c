import Mosaico.Delivery.NativeTurns
import Mosaico.Relational.Table
import Mosaico.Transition.Run

/-!
# The turns of an app-server endpoint

Three parties move the runtime state of a child without a common lock: deliveries, which read
it and then mark a start, the drain of its notifications, and the completion tasks of its
turns.  A call of `turn/start` registers as the only observer of the thread before it sends
anything, so a second one is refused.  Which turn a notification means is not looked at.
-/

namespace Mosaico

open Relational Transition

/-- Where the task of a `turn/start` stands. -/
inductive TurnTaskPhase where
  /-- The delivery has marked the start; the call has not registered yet. -/
  | starting
  /-- Registered, and `turn/start` is sent. -/
  | sent
  /-- The call has returned; its completion task has not run yet. -/
  | returned
  /-- The call has failed before it sent anything. -/
  | refused
  deriving DecidableEq, Repr

/-- A task that `spawn_app_server_turn` has spawned. -/
structure TurnTask where
  ticket : Nat
  /-- The id that the server gives its turn. -/
  turnId : String
  phase : TurnTaskPhase
  /-- The drain has processed the end of the turn. -/
  noted : Bool
  deriving DecidableEq, Repr

structure TurnNotification where
  method : String
  turnId : Option String
  deriving DecidableEq, Repr

/-- The runtime of a child, the deliveries that have read that it is idle, the tasks of its
turns and the notifications that the drain has not processed. -/
structure TurnState where
  runtime : AcpRuntime
  deciding : Nat
  tasks : Table TurnTask.ticket
  queue : List TurnNotification

inductive TurnStep where
  /-- A delivery reads the steer state. -/
  | read
  /-- A delivery that has read that the child is idle marks a start and spawns its task. -/
  | mark (ticket : Nat) (turnId : String)
  /-- The call of the task registers at the thread and sends `turn/start`. -/
  | register (ticket : Nat)
  /-- The call returns, with an outcome or an error. -/
  | callReturns (ticket : Nat)
  /-- The completion task marks the turn finished. -/
  | finish (ticket : Nat)
  /-- A notification arrives. -/
  | receive (notification : TurnNotification)
  /-- The drain processes the next notification. -/
  | drain
  deriving DecidableEq, Repr

namespace TurnTask

/-- A `turn/start` was sent, and nothing has told of the end of its turn. -/
def Outstanding (task : TurnTask) : Prop :=
  (task.phase = .sent ∨ task.phase = .returned) ∧ task.noted = false

/-- The turn is outstanding, or its call is about to be sent or to be given up. -/
def Pending (task : TurnTask) : Prop :=
  task.Outstanding ∨ task.phase = .starting ∨ task.phase = .refused

instance : DecidablePred Outstanding := fun _ => inferInstanceAs (Decidable (_ ∧ _))

instance : DecidablePred Pending := fun _ => inferInstanceAs (Decidable (_ ∨ _))

/-- What registering makes of a task; `taken` is whether the thread has an observer. -/
def registered (taken : Bool) (task : TurnTask) : TurnTask :=
  if task.phase = .starting then
    { task with phase := if taken = true then .refused else .sent, noted := false }
  else task

def callReturned (task : TurnTask) : TurnTask :=
  match task.phase with
  | .starting => { task with phase := .refused }
  | .sent => { task with phase := .returned }
  | _ => task

/-- The end of the turn is known. -/
def ended (task : TurnTask) : TurnTask :=
  match task.phase with
  | .sent => { task with noted := true }
  | .returned => { task with noted := true }
  | _ => task

theorem ticket_registered (taken : Bool) (task : TurnTask) :
    (task.registered taken).ticket = task.ticket := by
  unfold registered
  split <;> rfl

theorem ticket_callReturned (task : TurnTask) : task.callReturned.ticket = task.ticket := by
  unfold callReturned
  split <;> rfl

theorem ticket_ended (task : TurnTask) : task.ended.ticket = task.ticket := by
  unfold ended
  split <;> rfl

end TurnTask

namespace TurnState

def initial : TurnState where
  runtime := AcpRuntime.fresh
  deciding := 0
  tasks := Table.empty
  queue := []

/-- `register` finds an observer of the thread. -/
def Observed (state : TurnState) : Prop :=
  state.tasks.Any (fun task => task.phase = .sent)

instance (state : TurnState) : Decidable state.Observed :=
  inferInstanceAs (Decidable (state.tasks.Any _))

/-- What the drain makes of a notification.  The turn that a `turn/completed` names has
ended, whatever the runtime makes of it. -/
def note (state : TurnState) (notification : TurnNotification) : TurnState :=
  { state with
    runtime := state.runtime.noteUpdate notification.method notification.turnId
    tasks :=
      if AcpRuntime.isTurnEnd notification.method then
        state.tasks.updateWhere (fun task => notification.turnId = some task.turnId)
          TurnTask.ended TurnTask.ticket_ended
      else state.tasks }

/-- A step that does not fit the state changes nothing. -/
def step (state : TurnState) : TurnStep → TurnState
  | .read =>
      match state.runtime.steerState with
      | .idle => { state with deciding := state.deciding + 1 }
      | _ => state
  | .mark ticket turnId =>
      if 0 < state.deciding ∧ state.tasks.find? ticket = none then
        { state with
          runtime := state.runtime.markTurnStarted
          deciding := state.deciding - 1
          tasks := state.tasks.insertOrIgnore ⟨ticket, turnId, .starting, false⟩ }
      else state
  | .register ticket =>
      { state with
        tasks := state.tasks.updateWhere (fun task => task.ticket = ticket)
          (TurnTask.registered (decide state.Observed))
          (TurnTask.ticket_registered (decide state.Observed)) }
  | .callReturns ticket =>
      { state with
        tasks := state.tasks.updateWhere (fun task => task.ticket = ticket)
          TurnTask.callReturned TurnTask.ticket_callReturned }
  | .finish ticket =>
      if state.tasks.Any (fun task =>
          task.ticket = ticket ∧ (task.phase = .returned ∨ task.phase = .refused)) then
        { state with
          runtime := state.runtime.markTurnFinished
          tasks := state.tasks.deleteWhere (fun task => task.ticket = ticket) }
      else state
  | .receive notification => { state with queue := state.queue ++ [notification] }
  | .drain =>
      match state.queue with
      | [] => state
      | notification :: rest => { state.note notification with queue := rest }

/-- The turn with the id is outstanding. -/
def OutstandingTurn (state : TurnState) (turnId : String) : Prop :=
  state.tasks.Any (fun task => task.Outstanding ∧ task.turnId = turnId)

/-- One turn at a time. -/
structure OneTurn (state : TurnState) : Prop where
  /-- At most one `turn/start` is outstanding. -/
  atMostOne : ∀ left ∈ state.tasks.rows, ∀ right ∈ state.tasks.rows,
    left.Outstanding → right.Outstanding → left = right
  /-- A delivery steers the outstanding turn only. -/
  ready : ∀ turnId, state.runtime.steerState = .ready turnId → state.OutstandingTurn turnId
  /-- When nothing is under way and everything is processed, the next delivery starts a turn. -/
  idle : (∀ task ∈ state.tasks.rows, ¬ task.Pending) → state.queue = [] →
    state.runtime.steerState = .idle

/-- A call is sent only when no earlier turn is left whose end nobody has noted, and a
notification that tells a turn id, other than `turn/completed`, names an outstanding turn. -/
def InOrder (state : TurnState) : TurnStep → Prop
  | .register ticket =>
      state.tasks.Any (fun task => task.ticket = ticket ∧ task.phase = .starting) →
        ¬ state.Observed → ∀ task ∈ state.tasks.rows, ¬ task.Outstanding
  | .drain =>
      match state.queue with
      | [] => True
      | notification :: _ => AcpRuntime.isTurnEnd notification.method = false →
          ∀ turnId, notification.turnId = some turnId → state.OutstandingTurn turnId
  | _ => True

/-! ## The invariant -/

/-- What holds as long as every step is in order. -/
structure TurnInvariant (state : TurnState) : Prop where
  atMostOne : ∀ left ∈ state.tasks.rows, ∀ right ∈ state.tasks.rows,
    left.Outstanding → right.Outstanding → left = right
  /-- An id that is known is the one of the outstanding turn. -/
  known : ∀ turnId, state.runtime.turnId = some turnId → state.OutstandingTurn turnId
  /-- A runtime that is active has something under way. -/
  busy : state.runtime.turnActive = true → state.tasks.Any TurnTask.Pending

variable {state : TurnState}

theorem turnInvariant_initial : TurnInvariant initial where
  atMostOne := fun _ hleft => absurd hleft List.not_mem_nil
  known := fun _ hknown => by cases hknown
  busy := fun hactive => by cases hactive

theorem steerState_eq_ready {runtime : AcpRuntime} {turnId : String}
    (hready : runtime.steerState = .ready turnId) : runtime.turnId = some turnId := by
  obtain ⟨held, active⟩ := runtime
  cases active with
  | false => cases hready
  | true =>
      cases held with
      | none => cases hready
      | some held =>
          cases hready
          rfl

theorem steerState_eq_idle {runtime : AcpRuntime} (hidle : runtime.turnActive = false) :
    runtime.steerState = .idle := by
  obtain ⟨held, active⟩ := runtime
  cases hidle
  rfl

theorem TurnInvariant.oneTurn (hinv : TurnInvariant state) : OneTurn state where
  atMostOne := hinv.atMostOne
  ready := fun turnId hready => hinv.known turnId (steerState_eq_ready hready)
  idle := by
    intro hnone _
    refine steerState_eq_idle (Bool.eq_false_iff.mpr ?_)
    intro hactive
    obtain ⟨task, htask, hpending⟩ := hinv.busy hactive
    exact hnone task htask hpending

/-! ### Tasks -/

theorem mem_updateWhere {tasks : Table TurnTask.ticket} {p : TurnTask → Prop} [DecidablePred p]
    {f : TurnTask → TurnTask} (hkey : ∀ task, (f task).ticket = task.ticket) {task : TurnTask} :
    task ∈ (tasks.updateWhere p f hkey).rows ↔
      ∃ old ∈ tasks.rows, (if p old then f old else old) = task := by
  simp [Table.updateWhere]

/-- Tasks that no update makes outstanding stay one at most. -/
theorem atMostOne_updateWhere {p : TurnTask → Prop} [DecidablePred p] {f : TurnTask → TurnTask}
    (hkey : ∀ task, (f task).ticket = task.ticket)
    (hone : ∀ left ∈ state.tasks.rows, ∀ right ∈ state.tasks.rows,
      left.Outstanding → right.Outstanding → left = right)
    (hf : ∀ task ∈ state.tasks.rows, p task → (f task).Outstanding → task.Outstanding) :
    ∀ left ∈ (state.tasks.updateWhere p f hkey).rows,
      ∀ right ∈ (state.tasks.updateWhere p f hkey).rows,
        left.Outstanding → right.Outstanding → left = right := by
  have hback : ∀ old ∈ state.tasks.rows, (if p old then f old else old).Outstanding →
      old.Outstanding := by
    intro old hold houtstanding
    split_ifs at houtstanding with hp
    · exact hf old hold hp houtstanding
    · exact houtstanding
  intro left hleft right hright hleftOut hrightOut
  obtain ⟨first, hfirst, rfl⟩ := (mem_updateWhere hkey).mp hleft
  obtain ⟨second, hsecond, rfl⟩ := (mem_updateWhere hkey).mp hright
  rw [hone first hfirst second hsecond (hback first hfirst hleftOut)
    (hback second hsecond hrightOut)]

/-- A property of some task survives an update that keeps it. -/
theorem any_updateWhere {tasks : Table TurnTask.ticket} {p q : TurnTask → Prop} [DecidablePred p]
    {f : TurnTask → TurnTask} (hkey : ∀ task, (f task).ticket = task.ticket)
    (hany : tasks.Any q) (hf : ∀ task, q task → q (f task)) :
    (tasks.updateWhere p f hkey).Any q := by
  obtain ⟨task, htask, hq⟩ := hany
  refine ⟨_, (mem_updateWhere hkey).mpr ⟨task, htask, rfl⟩, ?_⟩
  split_ifs
  · exact hf task hq
  · exact hq

theorem outstanding_registered {taken : Bool} {task : TurnTask} (hout : task.Outstanding) :
    task.registered taken = task := by
  rw [TurnTask.registered, if_neg]
  intro hstarting
  rcases hout.1 with hphase | hphase
  · rw [hstarting] at hphase
    cases hphase
  · rw [hstarting] at hphase
    cases hphase

theorem pending_registered {taken : Bool} {task : TurnTask} (hpending : task.Pending) :
    (task.registered taken).Pending := by
  rw [TurnTask.registered]
  split_ifs with hphase htaken
  · exact Or.inr (Or.inr rfl)
  · exact Or.inl ⟨Or.inl rfl, rfl⟩
  · exact hpending

theorem outstanding_callReturned {task : TurnTask} :
    task.callReturned.Outstanding ↔ task.Outstanding := by
  obtain ⟨ticket, turnId, phase, noted⟩ := task
  cases phase with
  | starting | sent | returned | refused => simp [TurnTask.callReturned, TurnTask.Outstanding]

theorem turnId_callReturned (task : TurnTask) : task.callReturned.turnId = task.turnId := by
  unfold TurnTask.callReturned
  split
  · rfl
  · rfl
  · rfl

theorem pending_callReturned {task : TurnTask} (hpending : task.Pending) :
    task.callReturned.Pending := by
  rcases hpending with hout | hstarting | hrefused
  · exact Or.inl (outstanding_callReturned.mpr hout)
  · refine Or.inr (Or.inr ?_)
    simp [TurnTask.callReturned, hstarting]
  · refine Or.inr (Or.inr ?_)
    simp [TurnTask.callReturned, hrefused]

theorem not_outstanding_ended (task : TurnTask) : ¬ task.ended.Outstanding := by
  obtain ⟨ticket, turnId, phase, noted⟩ := task
  cases phase with
  | starting | sent | returned | refused => simp [TurnTask.ended, TurnTask.Outstanding]

/-! ### Steps -/

theorem TurnInvariant.mark (hinv : TurnInvariant state) (ticket : Nat) (turnId : String) :
    TurnInvariant (state.step (.mark ticket turnId)) := by
  simp only [TurnState.step]
  split_ifs with hmark
  · have hmem : ∀ task, task ∈ (state.tasks.insertOrIgnore
        (⟨ticket, turnId, .starting, false⟩ : TurnTask)).rows ↔
          task ∈ state.tasks.rows ∨ task = ⟨ticket, turnId, .starting, false⟩ :=
      fun task => Table.mem_insertOrIgnore hmark.2
    refine ⟨?_, ?_, ?_⟩
    · intro left hleft right hright hleftOut hrightOut
      rcases (hmem left).mp hleft with hleftOld | rfl
      · rcases (hmem right).mp hright with hrightOld | rfl
        · exact hinv.atMostOne left hleftOld right hrightOld hleftOut hrightOut
        · simp [TurnTask.Outstanding] at hrightOut
      · simp [TurnTask.Outstanding] at hleftOut
    · intro known hknown
      obtain ⟨task, htask, hout⟩ := hinv.known known hknown
      exact ⟨task, (hmem task).mpr (Or.inl htask), hout⟩
    · intro _
      exact ⟨_, (hmem _).mpr (Or.inr rfl), Or.inr (Or.inl rfl)⟩
  · exact hinv

theorem TurnInvariant.register (hinv : TurnInvariant state) {ticket : Nat}
    (horder : InOrder state (.register ticket)) :
    TurnInvariant (state.step (.register ticket)) := by
  have hkey := TurnTask.ticket_registered (decide state.Observed)
  refine ⟨?_, ?_, ?_⟩
  · by_cases hobserved : state.Observed
    · refine atMostOne_updateWhere hkey hinv.atMostOne ?_
      intro task _ _ hout
      by_cases hstarting : task.phase = .starting
      · -- a call that finds an observer sends nothing
        rw [TurnTask.registered, if_pos hstarting, if_pos (decide_eq_true hobserved)] at hout
        simp [TurnTask.Outstanding] at hout
      · rw [TurnTask.registered, if_neg hstarting] at hout
        exact hout
    · by_cases hany : state.tasks.Any (fun task => task.ticket = ticket ∧ task.phase = .starting)
      · have hnone := horder hany hobserved
        -- only the task with the ticket can be outstanding now
        have honly : ∀ task ∈ (state.step (.register ticket)).tasks.rows, task.Outstanding →
            task.ticket = ticket := by
          intro task htask hout
          obtain ⟨old, hold, rfl⟩ := (mem_updateWhere hkey).mp htask
          split_ifs at hout ⊢ with hticket
          · exact (hkey old).trans hticket
          · exact absurd hout (hnone old hold)
        intro left hleft right hright hleftOut hrightOut
        exact List.inj_on_of_nodup_map (state.step (.register ticket)).tasks.keysNodup hleft hright
          ((honly left hleft hleftOut).trans (honly right hright hrightOut).symm)
      · refine atMostOne_updateWhere hkey hinv.atMostOne ?_
        intro task htask hticket hout
        have hstarting : task.phase ≠ .starting := fun hphase => hany ⟨task, htask, hticket, hphase⟩
        rw [TurnTask.registered, if_neg hstarting] at hout
        exact hout
  · intro turnId hknown
    refine any_updateWhere hkey (hinv.known turnId hknown) ?_
    rintro task ⟨hout, hid⟩
    rw [outstanding_registered hout]
    exact ⟨hout, hid⟩
  · intro hactive
    exact any_updateWhere hkey (hinv.busy hactive) (fun _ hpending => pending_registered hpending)

theorem TurnInvariant.callReturns (hinv : TurnInvariant state) (ticket : Nat) :
    TurnInvariant (state.step (.callReturns ticket)) := by
  refine ⟨?_, ?_, ?_⟩
  · exact atMostOne_updateWhere TurnTask.ticket_callReturned hinv.atMostOne
      (fun _ _ _ hout => outstanding_callReturned.mp hout)
  · intro turnId hknown
    refine any_updateWhere TurnTask.ticket_callReturned (hinv.known turnId hknown) ?_
    rintro task ⟨hout, hid⟩
    exact ⟨outstanding_callReturned.mpr hout, (turnId_callReturned task).trans hid⟩
  · intro hactive
    exact any_updateWhere TurnTask.ticket_callReturned (hinv.busy hactive)
      (fun _ hpending => pending_callReturned hpending)

theorem TurnInvariant.finish (hinv : TurnInvariant state) (ticket : Nat) :
    TurnInvariant (state.step (.finish ticket)) := by
  simp only [TurnState.step]
  split_ifs
  · refine ⟨?_, ?_, ?_⟩
    · intro left hleft right hright
      exact hinv.atMostOne left (Table.mem_of_mem_deleteWhere hleft) right
        (Table.mem_of_mem_deleteWhere hright)
    · intro turnId hknown
      cases hknown
    · intro hactive
      cases hactive
  · exact hinv

theorem TurnInvariant.note (hinv : TurnInvariant state) {notification : TurnNotification}
    (horder : AcpRuntime.isTurnEnd notification.method = false →
      ∀ turnId, notification.turnId = some turnId → state.OutstandingTurn turnId) :
    TurnInvariant (state.note notification) := by
  cases hend : AcpRuntime.isTurnEnd notification.method with
  | true =>
      simp only [TurnState.note, AcpRuntime.noteUpdate, hend, if_true]
      refine ⟨?_, ?_, ?_⟩
      · refine atMostOne_updateWhere TurnTask.ticket_ended hinv.atMostOne ?_
        exact fun task _ _ hout => absurd hout (not_outstanding_ended task)
      · intro turnId hknown
        cases hknown
      · intro hactive
        cases hactive
  | false =>
      simp only [TurnState.note, AcpRuntime.noteUpdate, hend]
      cases hid : notification.turnId with
      | none => exact ⟨hinv.atMostOne, hinv.known, hinv.busy⟩
      | some turnId =>
          have houtstanding := horder hend turnId hid
          refine ⟨hinv.atMostOne, ?_, ?_⟩
          · intro known hknown
            cases hknown
            exact houtstanding
          · intro _
            obtain ⟨task, htask, hout, _⟩ := houtstanding
            exact ⟨task, htask, Or.inl hout⟩

/-- What a step in order preserves. -/
theorem TurnInvariant.step (hinv : TurnInvariant state) {next : TurnStep}
    (horder : InOrder state next) : TurnInvariant (state.step next) := by
  cases next with
  | read =>
      simp only [TurnState.step]
      split
      · exact ⟨hinv.atMostOne, hinv.known, hinv.busy⟩
      · exact hinv
  | mark ticket turnId => exact hinv.mark ticket turnId
  | register ticket => exact hinv.register horder
  | callReturns ticket => exact hinv.callReturns ticket
  | finish ticket => exact hinv.finish ticket
  | receive notification => exact ⟨hinv.atMostOne, hinv.known, hinv.busy⟩
  | drain =>
      cases hqueue : state.queue with
      | nil =>
          simp only [TurnState.step, hqueue]
          exact hinv
      | cons notification rest =>
          simp only [InOrder, hqueue] at horder
          simp only [TurnState.step, hqueue]
          obtain ⟨hone, hknown, hbusy⟩ := hinv.note horder
          exact ⟨hone, hknown, hbusy⟩

/-! ## Runs -/

/-- A step out of order leaves two turns outstanding, or one reported that is not. -/
theorem inOrder_of_oneTurn {next : TurnStep} (hone : OneTurn (state.step next)) :
    InOrder state next := by
  cases next with
  | register ticket =>
      rintro ⟨task, htask, hticket, hstarting⟩ hobserved other hother hout
      have hkey := TurnTask.ticket_registered (decide state.Observed)
      let sent := task.registered (decide state.Observed)
      have hsentOut : sent.Outstanding := by
        simp [sent, TurnTask.registered, hstarting, hobserved, TurnTask.Outstanding]
      have hsent : sent ∈ (state.step (.register ticket)).tasks.rows :=
        (mem_updateWhere hkey).mpr
          ⟨task, htask, if_pos hticket⟩
      have hkept : other ∈ (state.step (.register ticket)).tasks.rows := by
        refine (mem_updateWhere hkey).mpr ⟨other, hother, ?_⟩
        split_ifs
        · exact outstanding_registered hout
        · rfl
      have hsame := hone.atMostOne other hkept sent hsent hout hsentOut
      have hkeys : other.ticket = task.ticket := by
        rw [hsame]
        exact TurnTask.ticket_registered _ task
      have heq : other = task := List.inj_on_of_nodup_map state.tasks.keysNodup hother htask hkeys
      rcases hout.1 with hphase | hphase
      · rw [heq, hstarting] at hphase
        cases hphase
      · rw [heq, hstarting] at hphase
        cases hphase
  | drain =>
      cases hqueue : state.queue with
      | nil => simp [InOrder, hqueue]
      | cons notification rest =>
          simp only [InOrder, hqueue]
          intro hend turnId hid
          have hready := hone.ready turnId
          simp only [TurnState.step, hqueue, TurnState.note, AcpRuntime.noteUpdate, hend, hid] at hready
          exact hready rfl
  | read | mark ticket turnId | callReturns ticket | finish ticket | receive notification => trivial

/-- There is one turn at a time all along a run exactly if every step is in order. -/
theorem oneTurn_run_iff (steps : List TurnStep) :
    (∀ elapsed, elapsed <+: steps → OneTurn (run step initial elapsed)) ↔
      Guarded step InOrder initial steps := by
  constructor
  · exact guarded_of_forall_prefix (fun _ _ => inOrder_of_oneTurn)
  · rintro hguarded elapsed ⟨later, rfl⟩
    exact (guarded_run_invariant turnInvariant_initial (fun _ _ hinv => hinv.step)
      (guarded_append.mp hguarded).1).oneTurn

/-- A notification that comes after the end of its turn makes the turn the running one. -/
theorem late_notification_ready :
    ¬ ∀ (steps elapsed : List TurnStep), elapsed <+: steps → OneTurn (run step initial elapsed) := by
  intro hall
  let steps : List TurnStep :=
    [.read, .mark 1 "turn", .register 1, .receive ⟨"turn/started", some "turn"⟩, .drain,
      .receive ⟨"turn/completed", some "turn"⟩, .drain, .callReturns 1, .finish 1,
      .receive ⟨"item/completed", some "turn"⟩, .drain]
  exact absurd ((hall steps steps List.prefix_rfl).idle (by decide) (by decide)) (by decide)

end TurnState

end Mosaico
