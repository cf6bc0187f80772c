import Mosaico.AppServer.TurnProtocol
import Mathlib.Data.List.Basic

/-!
# One `turn_start` call

A call takes the turns that the thread has, registers as the thread's observer, sends
`turn/start` and then reads whatever comes first: the response, a lifecycle notification, or the
answer to a `thread/read`.  Each event below is one thing that the call's task does or one answer
that reaches it; their order is arbitrary.
-/

namespace Mosaico

open Transition TurnCodec

/-! ## The call -/

inductive TurnStartFailureKind where
  | rejectedBeforeStart
  | childExited
  | unknown
  deriving DecidableEq, Repr

structure TurnStartFailure where
  threadId : String
  turnId : Option String
  kind : TurnStartFailureKind
  error : RpcError
  deriving DecidableEq, Repr

def turnFailure (threadId : String) (turnId : Option String) (beforeDelivery : Bool)
    (error : RpcError) : TurnStartFailure where
  threadId
  turnId
  kind :=
    if beforeDelivery then .rejectedBeforeStart
    else match error with
      | .protocol code _ => if code = -1 then .unknown else .rejectedBeforeStart
      | .childExited => .childExited
      | _ => .unknown
  error

inductive TurnSignal (ν : Type) where
  | completed (params : ν)
  | reconcile
  deriving DecidableEq, Repr

/-- A request is on the wire once its future has been polled. -/
inductive WireState where
  | unsent
  | sent
  deriving DecidableEq, Repr

/-- Where `turn_start` stands.  The read of `starting` and `awaiting` is the `thread/read` of the
inner loop; without one the call is in the outer loop. -/
inductive CallPhase where
  | takingBaseline
  | readingBaseline (read : WireState)
  | registering
  | starting (start : WireState) (read : Option WireState)
  | awaiting (turnId : String) (read : Option WireState)
  | done (result : Except TurnStartFailure TurnOutcome)
  | cancelled

/-- The observer is alive from its registration until the call returns or is dropped. -/
def CallPhase.observing : CallPhase → Bool
  | .starting _ _ => true
  | .awaiting _ _ => true
  | _ => false

/-- The baseline has been taken. -/
def CallPhase.based : CallPhase → Bool
  | .takingBaseline => false
  | .readingBaseline _ => false
  | _ => true

/-- Nothing happens in the call any more. -/
def CallPhase.ended : CallPhase → Bool
  | .done _ => true
  | .cancelled => true
  | _ => false

/-- A call, the texts of the `turn/start` requests it has written and the frames it has read. -/
structure TurnCall (ν : Type) where
  threadId : String
  text : String
  phase : CallPhase := .takingBaseline
  baseline : List String := []
  inbox : List (TurnSignal ν) := []
  sent : List String := []
  reports : List (Report ν) := []

inductive TurnEvent (ν : Type) where
  | takeBaseline
  | sendRead (written : Bool)
  | readAnswered (answer : Except RpcError ν)
  | register
  | sendStart (written : Bool)
  | startAnswered (answer : Except RpcError ν)
  | receive
  | tick
  | cancel

/-- What the call sees of the child: whether it lives, the recorded history of the thread and
whether the thread has an observer. -/
structure CallContext where
  alive : Bool
  recorded : Option (List String)
  occupied : Bool

def TurnCodec.newTurnFromSignal {ν : Type} (codec : TurnCodec ν) (threadId : String)
    (baseline : List String) : TurnSignal ν → Except RpcError (Option (String × ObservedTurn))
  | .completed params => codec.parseCompletedAfter threadId baseline params
  | .reconcile => .ok none

def TurnCodec.terminalFromSignal {ν : Type} (codec : TurnCodec ν) (threadId turnId : String) :
    TurnSignal ν → Except RpcError (Option TurnOutcome)
  | .completed params => do
      let observed ← codec.parseCompleted threadId turnId params
      match observed with
      | .inProgress => return none
      | .terminal outcome => return some outcome
  | .reconcile => .ok none

def TurnSignal.reports {ν : Type} : TurnSignal ν → List (Report ν)
  | .completed params => [.completed params]
  | .reconcile => []

def observerTaken (threadId : String) : RpcError :=
  protocolError ("app-server thread " ++ threadId ++ " already has an active turn observer")

namespace TurnCall

variable {ν : Type} (codec : TurnCodec ν)

def finish (call : TurnCall ν) (result : Except TurnStartFailure TurnOutcome) : TurnCall ν :=
  { call with phase := .done result }

/-- The call has read the answer, if it is a value. -/
def hear (call : TurnCall ν) (frame : ν → Report ν) : Except RpcError ν → TurnCall ν
  | .ok value => { call with reports := call.reports ++ [frame value] }
  | .error _ => call

/-- `thread_turn_baseline`: the recorded history, else a `thread/read`. -/
def takeBaseline (call : TurnCall ν) (recorded : Option (List String)) : TurnCall ν :=
  match call.phase, recorded with
  | .takingBaseline, some turnIds => { call with phase := .registering, baseline := turnIds }
  | .takingBaseline, none => { call with phase := .readingBaseline .unsent }
  | _, _ => call

/-- `register_turn_waiter`: the observer's channel is new. -/
def register (call : TurnCall ν) (occupied : Bool) : TurnCall ν :=
  match call.phase with
  | .registering =>
      if occupied then
        call.finish (.error (turnFailure call.threadId none true (observerTaken call.threadId)))
      else { call with phase := .starting .unsent none, inbox := [] }
  | _ => call

/-- `start_once_and_observe` returns. -/
def started (call : TurnCall ν) : Except RpcError (String × ObservedTurn) → TurnCall ν
  | .error error => call.finish (.error (turnFailure call.threadId none false error))
  | .ok (turnId, .inProgress) => { call with phase := .awaiting turnId none }
  | .ok (_, .terminal outcome) => call.finish (.ok outcome)

/-- `await_terminal` returns. -/
def awaited (call : TurnCall ν) (turnId : String) : Except RpcError TurnOutcome → TurnCall ν
  | .error error => call.finish (.error (turnFailure call.threadId (some turnId) false error))
  | .ok outcome => call.finish (.ok outcome)

/-- The `turn/start` future is polled for the first time. -/
def sendStart (call : TurnCall ν) (written : Bool) : TurnCall ν :=
  match call.phase with
  | .starting .unsent read =>
      if written then
        { call with phase := .starting .sent read, sent := call.sent ++ [call.text] }
      else call.started (.error .childExited)
  | _ => call

def startAnswered (call : TurnCall ν) (answer : Except RpcError ν) : TurnCall ν :=
  match call.phase with
  | .starting .sent _ =>
      (call.hear .started answer).started
        (answer >>= codec.parseStarted call.threadId call.baseline)
  | _ => call

/-- The `thread/read` future is polled for the first time. -/
def sendRead (call : TurnCall ν) (written : Bool) : TurnCall ν :=
  match call.phase with
  | .readingBaseline .unsent =>
      if written then { call with phase := .readingBaseline .sent }
      else call.finish (.error (turnFailure call.threadId none true .childExited))
  | .starting start (some .unsent) =>
      if written then { call with phase := .starting start (some .sent) }
      else call.started (.error .childExited)
  | .awaiting turnId (some .unsent) =>
      if written then { call with phase := .awaiting turnId (some .sent) }
      else call.awaited turnId (.error .childExited)
  | _ => call

/-- The answer to the baseline read. -/
def baselineAnswered (call : TurnCall ν) (answer : Except RpcError ν) : TurnCall ν :=
  match answer >>= codec.parseTurnBaseline call.threadId with
  | .ok turnIds => { call with phase := .registering, baseline := turnIds }
  | .error error => call.finish (.error (turnFailure call.threadId none true error))

/-- The answer to a read of the reconciliation. -/
def reconciled (call : TurnCall ν) (start : WireState) (answer : Except RpcError ν) :
    TurnCall ν :=
  match answer >>= codec.parseNewTurn call.threadId call.baseline with
  | .ok (some turn) => call.started (.ok turn)
  | .ok none => { call with phase := .starting start none }
  | .error .childExited => call.started (.error .childExited)
  | .error _ => { call with phase := .starting start none }

def turnReconciled (call : TurnCall ν) (turnId : String) (answer : Except RpcError ν) :
    TurnCall ν :=
  match answer >>= codec.parseThreadRead call.threadId turnId with
  | .ok (some (.terminal outcome)) => call.awaited turnId (.ok outcome)
  | .ok _ => { call with phase := .awaiting turnId none }
  | .error .childExited => call.awaited turnId (.error .childExited)
  | .error _ => { call with phase := .awaiting turnId none }

/-- Only a request that is on the wire is answered. -/
def readAnswered (call : TurnCall ν) (answer : Except RpcError ν) : TurnCall ν :=
  match call.phase with
  | .readingBaseline .sent => (call.hear .threadRead answer).baselineAnswered codec answer
  | .starting start (some .sent) => (call.hear .threadRead answer).reconciled codec start answer
  | .awaiting turnId (some .sent) =>
      (call.hear .threadRead answer).turnReconciled codec turnId answer
  | _ => call

/-- The next signal is off the channel. -/
def take (call : TurnCall ν) (signal : TurnSignal ν) (rest : List (TurnSignal ν)) : TurnCall ν :=
  { call with inbox := rest, reports := call.reports ++ signal.reports }

/-- A signal that settles nothing starts a read, unless one is under way. -/
def receive (call : TurnCall ν) : TurnCall ν :=
  match call.phase, call.inbox with
  | .starting start read, signal :: rest =>
      match codec.newTurnFromSignal call.threadId call.baseline signal with
      | .ok (some turn) => (call.take signal rest).started (.ok turn)
      | _ => { call.take signal rest with phase := .starting start (some (read.getD .unsent)) }
  | .awaiting turnId read, signal :: rest =>
      match codec.terminalFromSignal call.threadId turnId signal with
      | .ok (some outcome) => (call.take signal rest).awaited turnId (.ok outcome)
      | _ => { call.take signal rest with phase := .awaiting turnId (some (read.getD .unsent)) }
  | _, _ => call

/-- The clock of the outer loops. -/
def tick (call : TurnCall ν) : TurnCall ν :=
  match call.phase with
  | .starting start none => { call with phase := .starting start (some .unsent) }
  | .awaiting turnId none => { call with phase := .awaiting turnId (some .unsent) }
  | _ => call

/-- The future of the call is dropped. -/
def cancel (call : TurnCall ν) : TurnCall ν :=
  if call.phase.ended then call else { call with phase := .cancelled }

def step (context : CallContext) (call : TurnCall ν) : TurnEvent ν → TurnCall ν
  | .takeBaseline => call.takeBaseline context.recorded
  | .sendRead written => call.sendRead (context.alive && written)
  | .readAnswered answer => call.readAnswered codec answer
  | .register => call.register context.occupied
  | .sendStart written => call.sendStart (context.alive && written)
  | .startAnswered answer => call.startAnswered codec answer
  | .receive => call.receive codec
  | .tick => call.tick
  | .cancel => call.cancel

/-! ## What a call has of its evidence -/

/-- A frame that the call has read reports the turn, and the baseline does not hold it. -/
def Witnessed (call : TurnCall ν) (turnId : String) (observed : ObservedTurn) : Prop :=
  turnId ∉ call.baseline ∧
    ∃ report ∈ call.reports, codec.Reports call.threadId turnId observed report

def SentOnce (call : TurnCall ν) : Prop :=
  call.sent = [] ∨ call.sent = [call.text]

/-- The invariant of a call, phase by phase. -/
def Sound (call : TurnCall ν) : Prop :=
  match call.phase with
  | .takingBaseline => call.sent = []
  | .readingBaseline _ => call.sent = []
  | .registering => call.sent = []
  | .starting .unsent _ => call.sent = []
  | .starting .sent _ => call.sent = [call.text]
  | .awaiting turnId _ => call.SentOnce ∧ turnId ∉ call.baseline
  | .done (.ok outcome) =>
      call.SentOnce ∧ outcome.threadId = call.threadId ∧
        call.Witnessed codec outcome.turnId (.terminal outcome)
  | .done (.error _) => call.SentOnce
  | .cancelled => call.SentOnce

variable {codec} {call : TurnCall ν}

theorem sentOnce_of_sound (hsound : call.Sound codec) : call.SentOnce := by
  unfold Sound at hsound
  split at hsound
  · exact Or.inl hsound
  · exact Or.inl hsound
  · exact Or.inl hsound
  · exact Or.inl hsound
  · exact Or.inr hsound
  · exact hsound.1
  · exact hsound.1
  · exact hsound
  · exact hsound

/-- The requests go out with the baseline taken. -/
theorem based_of_sent (hsound : call.Sound codec) (hsent : call.sent ≠ []) :
    call.phase.based = true := by
  cases hphase : call.phase with
  | takingBaseline | readingBaseline read =>
      rw [Sound, hphase] at hsound
      exact absurd hsound hsent
  | _ => rfl

variable {outcome : TurnOutcome} {turnId : String} {phase : CallPhase} {context : CallContext}
  {event : TurnEvent ν}

theorem reported_of_sound (hsound : call.Sound codec) (hdone : call.phase = .done (.ok outcome)) :
    outcome.threadId = call.threadId ∧
      call.Witnessed codec outcome.turnId (.terminal outcome) := by
  rw [Sound, hdone] at hsound
  exact hsound.2

theorem sound_of_starting {start : WireState} {read other : Option WireState}
    (hphase : call.phase = .starting start read) (hsound : call.Sound codec) :
    Sound codec { call with phase := .starting start other } := by
  rw [Sound, hphase] at hsound
  cases start with
  | unsent | sent => exact hsound

theorem sound_of_awaiting {read other : Option WireState}
    (hphase : call.phase = .awaiting turnId read) (hsound : call.Sound codec) :
    Sound codec { call with phase := .awaiting turnId other } := by
  rw [Sound, hphase] at hsound
  exact hsound

/-- Further frames only add evidence. -/
theorem sound_more (inbox : List (TurnSignal ν)) (more : List (Report ν))
    (hsound : call.Sound codec) :
    Sound codec { call with inbox, reports := call.reports ++ more } := by
  unfold Sound at hsound ⊢
  split
  next hphase => rwa [hphase] at hsound
  next hphase => rwa [hphase] at hsound
  next hphase => rwa [hphase] at hsound
  next hphase => rwa [hphase] at hsound
  next hphase => rwa [hphase] at hsound
  next hphase => rwa [hphase] at hsound
  next hphase =>
    rw [hphase] at hsound
    obtain ⟨hsent, hthread, hnew, report, hmem, hreports⟩ := hsound
    exact ⟨hsent, hthread, hnew, report, List.mem_append_left _ hmem, hreports⟩
  next hphase => rwa [hphase] at hsound
  next hphase => rwa [hphase] at hsound

theorem witnessed_names (hwitness : call.Witnessed codec turnId (.terminal outcome)) :
    outcome.threadId = call.threadId ∧ outcome.turnId = turnId := by
  obtain ⟨_, report, _, turn, _, _, hobserved⟩ := hwitness
  exact names_of_observeTurn hobserved

theorem sound_finish_error {failure : TurnStartFailure} (hsent : call.SentOnce) :
    (call.finish (.error failure)).Sound codec :=
  hsent

theorem sound_finish_ok (hsent : call.SentOnce)
    (hwitness : call.Witnessed codec turnId (.terminal outcome)) :
    (call.finish (.ok outcome)).Sound codec := by
  obtain ⟨hthread, hturn⟩ := witnessed_names hwitness
  rw [← hturn] at hwitness
  exact ⟨hsent, hthread, hwitness⟩

theorem sound_started {result : Except RpcError (String × ObservedTurn)}
    (hsent : call.SentOnce)
    (hwitness : ∀ turnId observed, result = .ok (turnId, observed) →
      call.Witnessed codec turnId observed) : (call.started result).Sound codec := by
  cases result with
  | error error => exact sound_finish_error hsent
  | ok found =>
      obtain ⟨turnId, observed⟩ := found
      have hturn := hwitness turnId observed rfl
      cases observed with
      | inProgress => exact ⟨hsent, hturn.1⟩
      | terminal outcome => exact sound_finish_ok hsent hturn

theorem sound_awaited (hsent : call.SentOnce)
    (hwitness : call.Witnessed codec turnId (.terminal outcome)) :
    (call.awaited turnId (.ok outcome)).Sound codec :=
  sound_finish_ok hsent hwitness

@[simp] theorem hear_phase (frame : ν → Report ν) (answer : Except RpcError ν) :
    (call.hear frame answer).phase = call.phase := by
  cases answer with
  | error error | ok value => rfl

theorem sound_hear (frame : ν → Report ν) (answer : Except RpcError ν)
    (hsound : call.Sound codec) : (call.hear frame answer).Sound codec := by
  cases answer with
  | error error => exact hsound
  | ok value => exact sound_more call.inbox [frame value] hsound

theorem mem_reports_hear {frame : ν → Report ν} {value : ν} :
    frame value ∈ (call.hear frame (.ok value)).reports :=
  List.mem_concat_self

/-! ## The events -/

theorem sound_takeBaseline (recorded : Option (List String)) (hsound : call.Sound codec) :
    (call.takeBaseline recorded).Sound codec := by
  unfold takeBaseline
  split
  next hphase =>
    rw [Sound, hphase] at hsound
    exact hsound
  next hphase =>
    rw [Sound, hphase] at hsound
    exact hsound
  next => exact hsound

theorem sound_register (occupied : Bool) (hsound : call.Sound codec) :
    (call.register occupied).Sound codec := by
  have hsent := sentOnce_of_sound hsound
  unfold register
  split
  next hphase =>
    split_ifs with hoccupied
    · exact sound_finish_error hsent
    · rw [Sound, hphase] at hsound
      exact hsound
  next => exact hsound

theorem sound_sendStart (written : Bool) (hsound : call.Sound codec) :
    (call.sendStart written).Sound codec := by
  have hsent := sentOnce_of_sound hsound
  unfold sendStart
  split
  next read hphase =>
    split_ifs with hwritten
    · rw [Sound, hphase] at hsound
      show call.sent ++ [call.text] = [call.text]
      rw [hsound, List.nil_append]
    · exact sound_finish_error hsent
  next => exact hsound

theorem sound_sendRead (written : Bool) (hsound : call.Sound codec) :
    (call.sendRead written).Sound codec := by
  have hsent := sentOnce_of_sound hsound
  unfold sendRead
  split
  next hphase =>
    split_ifs with hwritten
    · rw [Sound, hphase] at hsound
      exact hsound
    · exact sound_finish_error hsent
  next start hphase =>
    split_ifs with hwritten
    · exact sound_of_starting hphase hsound
    · exact sound_finish_error hsent
  next turnId hphase =>
    split_ifs with hwritten
    · exact sound_of_awaiting hphase hsound
    · exact sound_finish_error hsent
  next => exact hsound

theorem sound_startAnswered (answer : Except RpcError ν) (hsound : call.Sound codec) :
    (call.startAnswered codec answer).Sound codec := by
  have hsent := sentOnce_of_sound hsound
  unfold startAnswered
  split
  next read hphase =>
    cases answer with
    | error error => exact sound_finish_error hsent
    | ok value =>
        refine sound_started hsent ?_
        intro turnId observed hparsed
        obtain ⟨hnew, hreports⟩ := reports_of_parseStarted hparsed
        exact ⟨hnew, .started value, mem_reports_hear, hreports⟩
  next => exact hsound

theorem sound_baselineAnswered {read : WireState} (answer : Except RpcError ν)
    (hphase : call.phase = .readingBaseline read) (hsound : call.Sound codec) :
    (call.baselineAnswered codec answer).Sound codec := by
  have hsent := sentOnce_of_sound hsound
  rw [Sound, hphase] at hsound
  unfold baselineAnswered
  split
  next turnIds hparsed => exact hsound
  next error hparsed => exact sound_finish_error hsent

section Reconciliation

variable {answer : Except RpcError ν}
  (hheard : ∀ value, answer = .ok value → .threadRead value ∈ call.reports)

include hheard

theorem sound_reconciled {start : WireState} {read : Option WireState}
    (hphase : call.phase = .starting start read) (hsound : call.Sound codec) :
    (call.reconciled codec start answer).Sound codec := by
  have hsent := sentOnce_of_sound hsound
  unfold reconciled
  split
  next turn hparsed =>
    refine sound_started hsent ?_
    intro turnId observed hturn
    obtain rfl := Except.ok.inj hturn
    obtain ⟨value, hvalue, hparsed⟩ := bind_eq_ok.mp hparsed
    obtain ⟨hnew, hreports⟩ := reports_of_parseNewTurn hparsed
    exact ⟨hnew, .threadRead value, hheard value hvalue, hreports⟩
  next hparsed => exact sound_of_starting hphase hsound
  next hparsed => exact sound_finish_error hsent
  next error hne hparsed => exact sound_of_starting hphase hsound

theorem sound_turnReconciled {turnId : String} {read : Option WireState}
    (hphase : call.phase = .awaiting turnId read) (hsound : call.Sound codec) :
    (call.turnReconciled codec turnId answer).Sound codec := by
  have hsent := sentOnce_of_sound hsound
  have hnew : turnId ∉ call.baseline := by
    rw [Sound, hphase] at hsound
    exact hsound.2
  unfold turnReconciled
  split
  next outcome hparsed =>
    obtain ⟨value, hvalue, hparsed⟩ := bind_eq_ok.mp hparsed
    exact sound_awaited hsent
      ⟨hnew, .threadRead value, hheard value hvalue, reports_of_parseThreadRead hparsed⟩
  next hparsed => exact sound_of_awaiting hphase hsound
  next hparsed => exact sound_finish_error hsent
  next error hne hparsed => exact sound_of_awaiting hphase hsound

end Reconciliation

theorem sound_readAnswered (answer : Except RpcError ν) (hsound : call.Sound codec) :
    (call.readAnswered codec answer).Sound codec := by
  have hheard : ∀ value, answer = .ok value →
      .threadRead value ∈ (call.hear .threadRead answer).reports := by
    rintro value rfl
    exact mem_reports_hear
  have hafter := sound_hear .threadRead answer hsound
  unfold readAnswered
  split
  next hphase => exact sound_baselineAnswered answer ((hear_phase _ _).trans hphase) hafter
  next start hphase => exact sound_reconciled hheard ((hear_phase _ _).trans hphase) hafter
  next turnId hphase => exact sound_turnReconciled hheard ((hear_phase _ _).trans hphase) hafter
  next => exact hsound

/-- A terminal signal is a report of the turn that is awaited. -/
theorem reports_of_terminalFromSignal {threadId : String} {signal : TurnSignal ν}
    (hok : codec.terminalFromSignal threadId turnId signal = .ok (some outcome)) :
    ∃ report ∈ signal.reports, codec.Reports threadId turnId (.terminal outcome) report := by
  cases signal with
  | reconcile => cases hok
  | completed params =>
      obtain ⟨observed, hparsed, hterminal⟩ := bind_eq_ok.mp hok
      cases observed with
      | inProgress => cases hterminal
      | terminal found =>
          cases hterminal
          exact ⟨.completed params, List.mem_singleton_self _, reports_of_parseCompleted hparsed⟩

theorem reports_of_newTurnFromSignal {threadId : String} {baseline : List String}
    {signal : TurnSignal ν} {observed : ObservedTurn}
    (hok : codec.newTurnFromSignal threadId baseline signal = .ok (some (turnId, observed))) :
    turnId ∉ baseline ∧
      ∃ report ∈ signal.reports, codec.Reports threadId turnId observed report := by
  cases signal with
  | reconcile => cases hok
  | completed params =>
      obtain ⟨hnew, hreports⟩ := reports_of_parseCompletedAfter hok
      exact ⟨hnew, .completed params, List.mem_singleton_self _, hreports⟩

theorem sound_receive (hsound : call.Sound codec) : (call.receive codec).Sound codec := by
  have hsent := sentOnce_of_sound hsound
  unfold receive
  split
  next start read signal rest hphase hinbox =>
    have htaken : (call.take signal rest).Sound codec := sound_more rest signal.reports hsound
    split
    next turn hparsed =>
      refine sound_started hsent ?_
      intro turnId observed hturn
      obtain rfl := Except.ok.inj hturn
      obtain ⟨hnew, report, hmem, hreports⟩ := reports_of_newTurnFromSignal hparsed
      exact ⟨hnew, report, List.mem_append_right _ hmem, hreports⟩
    next => exact sound_of_starting hphase htaken
  next turnId read signal rest hphase hinbox =>
    have htaken : (call.take signal rest).Sound codec := sound_more rest signal.reports hsound
    have hnew : turnId ∉ call.baseline := by
      rw [Sound, hphase] at hsound
      exact hsound.2
    split
    next outcome hparsed =>
      obtain ⟨report, hmem, hreports⟩ := reports_of_terminalFromSignal hparsed
      exact sound_awaited hsent ⟨hnew, report, List.mem_append_right _ hmem, hreports⟩
    next => exact sound_of_awaiting hphase htaken
  next => exact hsound

theorem sound_tick (hsound : call.Sound codec) : call.tick.Sound codec := by
  unfold tick
  split
  next start hphase => exact sound_of_starting hphase hsound
  next turnId hphase => exact sound_of_awaiting hphase hsound
  next => exact hsound

theorem sound_cancel (hsound : call.Sound codec) : call.cancel.Sound codec := by
  have hsent := sentOnce_of_sound hsound
  unfold cancel
  split_ifs with hended
  · exact hsound
  · exact hsent

theorem sound_step (context : CallContext) (event : TurnEvent ν) (hsound : call.Sound codec) :
    (call.step codec context event).Sound codec := by
  cases event with
  | takeBaseline => exact sound_takeBaseline _ hsound
  | sendRead written => exact sound_sendRead _ hsound
  | readAnswered answer => exact sound_readAnswered answer hsound
  | register => exact sound_register _ hsound
  | sendStart written => exact sound_sendStart _ hsound
  | startAnswered answer => exact sound_startAnswered answer hsound
  | receive => exact sound_receive hsound
  | tick => exact sound_tick hsound
  | cancel => exact sound_cancel hsound

/-! ## What an event leaves alone -/

/-- Every event keeps the request and, once it is taken, the baseline; a call that has returned
stays as it is. -/
structure Keeps (before after : TurnCall ν) : Prop where
  threadId : after.threadId = before.threadId
  text : after.text = before.text
  based : before.phase.based = true → after.phase.based = true
  baseline : before.phase.based = true → after.baseline = before.baseline
  ended : before.phase.ended = true → after.phase = before.phase

theorem keeps_refl (call : TurnCall ν) : Keeps call call :=
  ⟨rfl, rfl, id, fun _ => rfl, fun _ => rfl⟩

theorem Keeps.trans {first second third : TurnCall ν} (hfirst : Keeps first second)
    (hsecond : Keeps second third) : Keeps first third where
  threadId := hsecond.threadId.trans hfirst.threadId
  text := hsecond.text.trans hfirst.text
  based := hsecond.based ∘ hfirst.based
  baseline hbased := (hsecond.baseline (hfirst.based hbased)).trans (hfirst.baseline hbased)
  ended hended := by
    have hphase := hfirst.ended hended
    rw [← hphase] at hended
    exact (hsecond.ended hended).trans hphase

theorem live_of_phase (hphase : call.phase = phase)
    (hlive : phase.ended = false) : call.phase.ended = false := by
  rw [hphase]
  exact hlive

theorem keeps_phase (hbased : phase.based = true)
    (hlive : call.phase.ended = false) : Keeps call { call with phase } where
  threadId := rfl
  text := rfl
  based _ := hbased
  baseline _ := rfl
  ended hended := absurd (hlive.symm.trans hended) Bool.false_ne_true

theorem keeps_started {result : Except RpcError (String × ObservedTurn)}
    (hlive : call.phase.ended = false) : Keeps call (call.started result) := by
  unfold started
  split
  · exact keeps_phase rfl hlive
  · exact keeps_phase rfl hlive
  · exact keeps_phase rfl hlive

theorem keeps_awaited {result : Except RpcError TurnOutcome}
    (hlive : call.phase.ended = false) : Keeps call (call.awaited turnId result) := by
  unfold awaited
  split
  · exact keeps_phase rfl hlive
  · exact keeps_phase rfl hlive

theorem keeps_hear (frame : ν → Report ν) (answer : Except RpcError ν) :
    Keeps call (call.hear frame answer) := by
  cases answer with
  | error error => exact keeps_refl call
  | ok value => exact ⟨rfl, rfl, id, fun _ => rfl, fun _ => rfl⟩

theorem keeps_take (signal : TurnSignal ν) (rest : List (TurnSignal ν)) :
    Keeps call (call.take signal rest) where
  threadId := rfl
  text := rfl
  based := id
  baseline _ := rfl
  ended _ := rfl

theorem live_of_unbased (hbased : phase.based = false) :
    phase.ended = false := by
  cases phase with
  | takingBaseline | readingBaseline read => rfl
  | _ => cases hbased

theorem keeps_unbased {baseline : List String}
    (hbased : call.phase.based = false) : Keeps call { call with phase, baseline } where
  threadId := rfl
  text := rfl
  based hbefore := absurd (hbased.symm.trans hbefore) Bool.false_ne_true
  baseline hbefore := absurd (hbased.symm.trans hbefore) Bool.false_ne_true
  ended hended := absurd ((live_of_unbased hbased).symm.trans hended) Bool.false_ne_true

theorem keeps_takeBaseline (recorded : Option (List String)) :
    Keeps call (call.takeBaseline recorded) := by
  unfold takeBaseline
  split
  next hphase => exact keeps_unbased (by rw [hphase]; rfl)
  next hphase => exact keeps_unbased (by rw [hphase]; rfl)
  next => exact keeps_refl call

theorem keeps_register (occupied : Bool) : Keeps call (call.register occupied) := by
  unfold register
  split
  next hphase =>
    have hlive : call.phase.ended = false := live_of_phase hphase rfl
    split_ifs with hoccupied
    · exact keeps_phase rfl hlive
    · exact ⟨rfl, rfl, fun _ => rfl, fun _ => rfl,
        fun hended => absurd (hlive.symm.trans hended) Bool.false_ne_true⟩
  next => exact keeps_refl call

theorem keeps_sendStart (written : Bool) : Keeps call (call.sendStart written) := by
  unfold sendStart
  split
  next read hphase =>
    have hlive : call.phase.ended = false := live_of_phase hphase rfl
    split_ifs with hwritten
    · exact ⟨rfl, rfl, fun _ => rfl, fun _ => rfl,
        fun hended => absurd (hlive.symm.trans hended) Bool.false_ne_true⟩
    · exact keeps_started hlive
  next => exact keeps_refl call

theorem keeps_sendRead (written : Bool) : Keeps call (call.sendRead written) := by
  unfold sendRead
  split
  next hphase =>
    split_ifs with hwritten
    · exact keeps_unbased (by rw [hphase]; rfl)
    · exact keeps_phase rfl (live_of_phase hphase rfl)
  next start hphase =>
    split_ifs with hwritten
    · exact keeps_phase rfl (live_of_phase hphase rfl)
    · exact keeps_started (live_of_phase hphase rfl)
  next turnId hphase =>
    split_ifs with hwritten
    · exact keeps_phase rfl (live_of_phase hphase rfl)
    · exact keeps_awaited (live_of_phase hphase rfl)
  next => exact keeps_refl call

theorem keeps_startAnswered (answer : Except RpcError ν) :
    Keeps call (call.startAnswered codec answer) := by
  unfold startAnswered
  split
  next read hphase =>
    exact (keeps_hear .started answer).trans
      (keeps_started (live_of_phase ((hear_phase _ _).trans hphase) rfl))
  next => exact keeps_refl call

theorem keeps_baselineAnswered (answer : Except RpcError ν)
    (hphase : call.phase = .readingBaseline .sent) :
    Keeps call (call.baselineAnswered codec answer) := by
  unfold baselineAnswered
  split
  · exact keeps_unbased (by rw [hphase]; rfl)
  · exact keeps_phase rfl (live_of_phase hphase rfl)

theorem keeps_reconciled {start : WireState} (answer : Except RpcError ν)
    (hlive : call.phase.ended = false) :
    Keeps call (call.reconciled codec start answer) := by
  unfold reconciled
  split
  · exact keeps_started hlive
  · exact keeps_phase rfl hlive
  · exact keeps_started hlive
  · exact keeps_phase rfl hlive

theorem keeps_turnReconciled (answer : Except RpcError ν) (hlive : call.phase.ended = false) :
    Keeps call (call.turnReconciled codec turnId answer) := by
  unfold turnReconciled
  split
  · exact keeps_awaited hlive
  · exact keeps_phase rfl hlive
  · exact keeps_awaited hlive
  · exact keeps_phase rfl hlive

theorem keeps_readAnswered (answer : Except RpcError ν) :
    Keeps call (call.readAnswered codec answer) := by
  have hheard : Keeps call (call.hear .threadRead answer) := keeps_hear .threadRead answer
  unfold readAnswered
  split
  next hphase => exact hheard.trans (keeps_baselineAnswered answer ((hear_phase _ _).trans hphase))
  next start hphase =>
    have hafter := live_of_phase ((hear_phase .threadRead answer).trans hphase) rfl
    exact hheard.trans (keeps_reconciled answer hafter)
  next turnId hphase =>
    have hafter := live_of_phase ((hear_phase .threadRead answer).trans hphase) rfl
    exact hheard.trans (keeps_turnReconciled answer hafter)
  next => exact keeps_refl call

theorem keeps_receive : Keeps call (call.receive codec) := by
  unfold receive
  split
  next start read signal rest hphase hinbox =>
    have htake : Keeps call (call.take signal rest) := keeps_take signal rest
    have hafter : (call.take signal rest).phase.ended = false :=
      live_of_phase hphase rfl
    split
    · exact htake.trans (keeps_started hafter)
    · exact htake.trans (keeps_phase rfl hafter)
  next turnId read signal rest hphase hinbox =>
    have htake : Keeps call (call.take signal rest) := keeps_take signal rest
    have hafter : (call.take signal rest).phase.ended = false :=
      live_of_phase hphase rfl
    split
    · exact htake.trans (keeps_awaited hafter)
    · exact htake.trans (keeps_phase rfl hafter)
  next => exact keeps_refl call

theorem keeps_tick : Keeps call call.tick := by
  unfold tick
  split
  next start hphase => exact keeps_phase rfl (live_of_phase hphase rfl)
  next turnId hphase => exact keeps_phase rfl (live_of_phase hphase rfl)
  next => exact keeps_refl call

theorem keeps_cancel : Keeps call call.cancel := by
  unfold cancel
  split_ifs with hended
  · exact keeps_refl call
  · exact keeps_phase rfl (Bool.eq_false_iff.mpr hended)

theorem keeps_step (context : CallContext) (event : TurnEvent ν) :
    Keeps call (call.step codec context event) := by
  cases event with
  | takeBaseline => exact keeps_takeBaseline _
  | sendRead written => exact keeps_sendRead _
  | readAnswered answer => exact keeps_readAnswered answer
  | register => exact keeps_register _
  | sendStart written => exact keeps_sendStart _
  | startAnswered answer => exact keeps_startAnswered answer
  | receive => exact keeps_receive
  | tick => exact keeps_tick
  | cancel => exact keeps_cancel

theorem observing_of_phase (hphase : call.phase = phase)
    (hobserving : phase.observing = true) : call.phase.observing = true := by
  rw [hphase]
  exact hobserving

theorem not_observing_baselineAnswered (answer : Except RpcError ν) :
    (call.baselineAnswered codec answer).phase.observing = false := by
  unfold baselineAnswered
  split
  · rfl
  · rfl

/-- Only its registration makes a call an observer. -/
theorem observing_of_step (hafter : (call.step codec context event).phase.observing = true) :
    call.phase.observing = true ∨ (call.phase = .registering ∧ context.occupied = false) := by
  cases event with
  | takeBaseline =>
      simp only [step, takeBaseline] at hafter
      split at hafter
      next => cases hafter
      next => cases hafter
      next => exact Or.inl hafter
  | sendRead written =>
      simp only [step, sendRead] at hafter
      split at hafter
      next =>
        split_ifs at hafter with hwritten
        · cases hafter
        · cases hafter
      next start hphase => exact Or.inl (observing_of_phase hphase rfl)
      next turnId hphase => exact Or.inl (observing_of_phase hphase rfl)
      next => exact Or.inl hafter
  | readAnswered answer =>
      simp only [step, readAnswered] at hafter
      split at hafter
      next =>
        rw [not_observing_baselineAnswered] at hafter
        cases hafter
      next start hphase => exact Or.inl (observing_of_phase hphase rfl)
      next turnId hphase => exact Or.inl (observing_of_phase hphase rfl)
      next => exact Or.inl hafter
  -- Only the registration begins to observe, and it wants a thread that nobody observes.
  | register =>
      simp only [step, register] at hafter
      split at hafter
      next hphase =>
        split_ifs at hafter with hoccupied
        · cases hafter
        · exact Or.inr ⟨hphase, Bool.not_eq_true _ ▸ hoccupied⟩
      next => exact Or.inl hafter
  | sendStart written =>
      simp only [step, sendStart] at hafter
      split at hafter
      next read hphase => exact Or.inl (observing_of_phase hphase rfl)
      next => exact Or.inl hafter
  | startAnswered answer =>
      simp only [step, startAnswered] at hafter
      split at hafter
      next read hphase => exact Or.inl (observing_of_phase hphase rfl)
      next => exact Or.inl hafter
  | receive =>
      simp only [step, receive] at hafter
      split at hafter
      next hphase _ => exact Or.inl (observing_of_phase hphase rfl)
      next hphase _ => exact Or.inl (observing_of_phase hphase rfl)
      next => exact Or.inl hafter
  | tick =>
      simp only [step, tick] at hafter
      split at hafter
      next start hphase => exact Or.inl (observing_of_phase hphase rfl)
      next turnId hphase => exact Or.inl (observing_of_phase hphase rfl)
      next => exact Or.inl hafter
  | cancel =>
      simp only [step, cancel] at hafter
      split_ifs at hafter with hended
      · exact Or.inl hafter
      · cases hafter

/-- Where a baseline comes from: the recorded history of the thread, or the turns of a
`thread/read` answer. -/
def FromHistory (codec : TurnCodec ν) (recorded : Option (List String)) (call : TurnCall ν) :
    Prop :=
  recorded = some call.baseline ∨
    ∃ value turns, .threadRead value ∈ call.reports ∧
      codec.threadRead value = .ok ⟨call.threadId, turns⟩ ∧
      call.baseline = turns.map WireTurn.id

theorem baseline_of_takingBaseline (hphase : call.phase = .takingBaseline)
    (hafter : (call.step codec context event).phase.based = true) :
    (call.step codec context event).phase.ended = true ∨
      (call.step codec context event).FromHistory codec context.recorded := by
  cases event with
  | takeBaseline =>
      simp only [step, takeBaseline, hphase] at hafter ⊢
      cases hrecorded : context.recorded with
      | none =>
          rw [hrecorded] at hafter
          cases hafter
      | some turnIds => exact Or.inr (Or.inl rfl)
  | cancel =>
      refine Or.inl ?_
      simp only [step, cancel, hphase, CallPhase.ended, Bool.false_eq_true, if_false]
  | _ =>
      simp only [step, sendRead, readAnswered, register, sendStart, startAnswered, receive, tick,
        hphase] at hafter
      cases hafter

theorem baselineAnswered_baseline {value : ν} (hheard : .threadRead value ∈ call.reports) :
    (call.baselineAnswered codec (.ok value)).phase.ended = true ∨
      (call.baselineAnswered codec (.ok value)).FromHistory codec none := by
  unfold baselineAnswered
  split
  next turnIds hparsed =>
    obtain ⟨_, hvalue, hparsed⟩ := bind_eq_ok.mp hparsed
    cases hvalue
    obtain ⟨turns, hdecoded, hids⟩ := bind_eq_ok.mp hparsed
    cases hids
    exact Or.inr (Or.inr ⟨value, turns, hheard, ok_of_decodeThreadRead hdecoded, rfl⟩)
  next => exact Or.inl rfl

theorem baseline_of_readingBaseline {read : WireState} (hphase : call.phase = .readingBaseline read)
    (hafter : (call.step codec context event).phase.based = true) :
    (call.step codec context event).phase.ended = true ∨
      (call.step codec context event).FromHistory codec none := by
  cases event with
  | sendRead written =>
      simp only [step, sendRead, hphase] at hafter ⊢
      cases read with
      | sent =>
          rw [hphase] at hafter
          cases hafter
      | unsent =>
          split_ifs at hafter ⊢ with hwritten
          · cases hafter
          · exact Or.inl rfl
  | readAnswered answer =>
      simp only [step, readAnswered, hphase] at hafter ⊢
      cases read with
      | unsent =>
          rw [hphase] at hafter
          cases hafter
      | sent =>
          cases answer with
          | error error => exact Or.inl rfl
          | ok value => exact baselineAnswered_baseline mem_reports_hear
  | cancel =>
      refine Or.inl ?_
      simp only [step, cancel, hphase, CallPhase.ended, Bool.false_eq_true, if_false]
  | _ =>
      simp only [step, takeBaseline, register, sendStart, startAnswered, receive, tick,
        hphase] at hafter
      cases hafter

theorem baseline_of_step (hbefore : call.phase.based = false)
    (hafter : (call.step codec context event).phase.based = true) :
    (call.step codec context event).phase.ended = true ∨
      (call.step codec context event).FromHistory codec context.recorded := by
  cases hphase : call.phase with
  | takingBaseline => exact baseline_of_takingBaseline hphase hafter
  | readingBaseline read =>
      rcases baseline_of_readingBaseline hphase hafter with hended | hnone | hread
      · exact Or.inl hended
      · cases hnone
      · exact Or.inr (Or.inr hread)
  | _ =>
      rw [hphase] at hbefore
      cases hbefore

/-! ## An observer of a child that is gone -/

/-- A call that registered after the child's stream had closed: nothing it sends is written and
no signal reaches it. -/
def Stranded (call : TurnCall ν) : Prop :=
  match call.phase with
  | .starting .unsent read => call.inbox = [] ∧ read ≠ some .sent
  | .done (.error _) => True
  | .cancelled => True
  | _ => False

theorem stranded_starting {read : Option WireState}
    (event : TurnEvent ν) (halive : context.alive = false) (hinbox : call.inbox = [])
    (hphase : call.phase = .starting .unsent read) (hread : read ≠ some .sent) :
    (call.step codec context event).Stranded := by
  have hstay : call.Stranded := by
    rw [Stranded, hphase]
    exact ⟨hinbox, hread⟩
  cases event with
  | takeBaseline => simpa only [step, takeBaseline, hphase] using hstay
  | sendRead written =>
      simp only [step, sendRead, hphase, halive, Bool.false_and]
      match read, hread with
      | none, _ => exact hstay
      | some .unsent, _ => exact True.intro
      | some .sent, hread => exact absurd rfl hread
  | readAnswered answer =>
      simp only [step, readAnswered, hphase]
      match read, hread with
      | none, _ => exact hstay
      | some .unsent, _ => exact hstay
      | some .sent, hread => exact absurd rfl hread
  | register => simpa only [step, register, hphase] using hstay
  | sendStart written =>
      simp only [step, sendStart, hphase, halive, Bool.false_and]
      exact True.intro
  | startAnswered answer => simpa only [step, startAnswered, hphase] using hstay
  | receive => simpa only [step, receive, hphase, hinbox] using hstay
  | tick =>
      simp only [step, tick, hphase]
      match read, hread with
      | none, _ => exact ⟨hinbox, fun hsent => by cases hsent⟩
      | some .unsent, _ => exact hstay
      | some .sent, hread => exact absurd rfl hread
  | cancel =>
      simp only [step, cancel, hphase, CallPhase.ended, Bool.false_eq_true, if_false]
      exact True.intro

theorem stranded_step (event : TurnEvent ν)
    (halive : context.alive = false) (hstranded : call.Stranded) :
    (call.step codec context event).Stranded := by
  unfold Stranded at hstranded
  split at hstranded
  next read hphase => exact stranded_starting event halive hstranded.1 hphase hstranded.2
  next failure hphase =>
    have hafter : (call.step codec context event).phase = call.phase :=
      (keeps_step context event).ended (by rw [hphase]; rfl)
    rw [Stranded, hafter, hphase]
    exact True.intro
  next hphase =>
    have hafter : (call.step codec context event).phase = call.phase :=
      (keeps_step context event).ended (by rw [hphase]; rfl)
    rw [Stranded, hafter, hphase]
    exact True.intro
  next => exact hstranded.elim

theorem not_ok_of_stranded (hstranded : call.Stranded) :
    call.phase ≠ .done (.ok outcome) := by
  intro hdone
  rw [Stranded, hdone] at hstranded
  exact hstranded

end TurnCall

end Mosaico
