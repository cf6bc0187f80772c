import Mosaico.AppServer.TurnStart
import Mathlib.Logic.Function.Basic

/-!
# The calls of one app-server child

The reader of the child's stream hands a lifecycle notification to the observer of the thread it
names.  The calls share the map of observers and the recorded histories of the threads, and their
tasks run in any order.
-/

namespace Mosaico

open Transition

/-- The calls made so far, the observer of each thread, the history of each thread as it was when
the thread was opened, and whether the child's stream is open. -/
structure AppServer (ν : Type) where
  calls : Nat → Option (TurnCall ν) := fun _ => none
  waiters : String → Option Nat := fun _ => none
  baselines : String → Option (List String) := fun _ => none
  alive : Bool := true

inductive AppServerInput (ν : Type) where
  | recordTurnBaseline (threadId : String) (turnIds : List String)
  | notification (method : String) (params : ν)
  | streamClosed
  | clearWaiters
  | turnStart (id : Nat) (threadId text : String)
  | turn (id : Nat) (event : TurnEvent ν)

namespace AppServer

variable {ν : Type} (codec : TurnCodec ν)

/-- `AppServerRouting::signal`. -/
def signal (server : AppServer ν) (key : String) (signal : TurnSignal ν) : AppServer ν :=
  match server.waiters key with
  | none => server
  | some id =>
      { server with
        calls := Function.update server.calls id ((server.calls id).map fun call =>
          { call with inbox := call.inbox ++ [signal] }) }

def signalTurn (server : AppServer ν) (params : ν) (signal : TurnSignal ν) : AppServer ν :=
  match codec.threadKey params with
  | none => server
  | some threadId => server.signal threadId signal

/-- `dispatch_inbound` on a notification. -/
def dispatch (server : AppServer ν) (method : String) (params : ν) : AppServer ν :=
  if method = "turn/completed" then server.signalTurn codec params (.completed params)
  else if method = "thread/status/changed" then server.signalTurn codec params .reconcile
  else server

/-- The observers after an event of the call: the registration adds one, and the observer is
dropped when the call ends. -/
def rewired (server : AppServer ν) (id : Nat) (before after : TurnCall ν) :
    String → Option Nat :=
  match before.phase.observing, after.phase.observing with
  | false, true => Function.update server.waiters after.threadId (some id)
  | true, false =>
      if server.waiters after.threadId = some id then
        Function.update server.waiters after.threadId none
      else server.waiters
  | _, _ => server.waiters

def context (server : AppServer ν) (threadId : String) : CallContext where
  alive := server.alive
  recorded := server.baselines threadId
  occupied := (server.waiters threadId).isSome

/-- `take_turn_baseline` removes the recorded history. -/
def taken (server : AppServer ν) (call : TurnCall ν) : TurnEvent ν → String → Option (List String)
  | .takeBaseline =>
      match call.phase with
      | .takingBaseline => Function.update server.baselines call.threadId none
      | _ => server.baselines
  | _ => server.baselines

def advance (server : AppServer ν) (id : Nat) (call : TurnCall ν) (event : TurnEvent ν) :
    AppServer ν :=
  let after := call.step codec (server.context call.threadId) event
  { server with
    calls := Function.update server.calls id (some after)
    waiters := server.rewired id call after
    baselines := server.taken call event }

def step (server : AppServer ν) : AppServerInput ν → AppServer ν
  | .recordTurnBaseline threadId turnIds =>
      { server with baselines := Function.update server.baselines threadId (some turnIds) }
  | .notification method params =>
      if server.alive then server.dispatch codec method params else server
  | .streamClosed => { server with alive := false }
  | .clearWaiters => if server.alive then server else { server with waiters := fun _ => none }
  | .turnStart id threadId text =>
      match server.calls id with
      | none => { server with calls := Function.update server.calls id (some { threadId, text }) }
      | some _ => server
  | .turn id event =>
      match server.calls id with
      | none => server
      | some call => server.advance codec id call event

/-! ## What an input does to a call -/

/-- How a call can look after an input. -/
inductive Evolves (codec : TurnCodec ν) (server : AppServer ν) :
    Option (TurnCall ν) → Option (TurnCall ν) → Prop
  | same (call : Option (TurnCall ν)) : Evolves codec server call call
  | opened (threadId text : String) : Evolves codec server none (some { threadId, text })
  | stepped (call : TurnCall ν) (event : TurnEvent ν) :
      Evolves codec server (some call)
        (some (call.step codec (server.context call.threadId) event))
  | queued (call : TurnCall ν) (signal : TurnSignal ν) (halive : server.alive = true) :
      Evolves codec server (some call) (some { call with inbox := call.inbox ++ [signal] })

variable {codec} {server : AppServer ν}

/-- A notification touches a call's channel only. -/
def Queues (before after : Option (TurnCall ν)) : Prop :=
  after = before ∨ ∃ call signal, before = some call ∧
    after = some { call with inbox := call.inbox ++ [signal] }

theorem queues_signal (key : String) (signal : TurnSignal ν) (id : Nat) :
    Queues (server.calls id) ((server.signal key signal).calls id) := by
  unfold AppServer.signal
  split
  next => exact Or.inl rfl
  next observer hwaiter =>
    by_cases hid : id = observer
    · subst hid
      simp only [Function.update_self]
      cases hcall : server.calls id with
      | none => exact Or.inl rfl
      | some call => exact Or.inr ⟨call, signal, rfl, rfl⟩
    · simp only [Function.update_of_ne hid]
      exact Or.inl rfl

theorem queues_dispatch (codec : TurnCodec ν) (server : AppServer ν) (method : String)
    (params : ν) (id : Nat) :
    Queues (server.calls id) ((server.dispatch codec method params).calls id) := by
  have hsignal : ∀ signal,
      Queues (server.calls id) ((server.signalTurn codec params signal).calls id) := by
    intro signal
    unfold signalTurn
    split
    next => exact Or.inl rfl
    next threadId hkey => exact queues_signal threadId signal id
  unfold dispatch
  split_ifs with hcompleted hstatus
  · exact hsignal _
  · exact hsignal _
  · exact Or.inl rfl

theorem evolves_of_queues {before after : Option (TurnCall ν)} (halive : server.alive = true)
    (hqueues : Queues before after) : Evolves codec server before after := by
  rcases hqueues with rfl | ⟨call, signal, rfl, rfl⟩
  · exact .same _
  · exact .queued call signal halive

theorem evolves_step (codec : TurnCodec ν) (server : AppServer ν) (input : AppServerInput ν)
    (id : Nat) :
    Evolves codec server (server.calls id) ((server.step codec input).calls id) := by
  cases input with
  | recordTurnBaseline threadId turnIds | streamClosed => exact .same _
  | notification method params =>
      simp only [step]
      split_ifs with halive
      · exact evolves_of_queues halive (queues_dispatch codec server method params id)
      · exact .same _
  | clearWaiters =>
      simp only [step]
      split_ifs with halive
      · exact .same _
      · exact .same _
  | turnStart other threadId text =>
      simp only [step]
      split
      next hcall =>
        by_cases hid : id = other
        · subst hid
          simp only [Function.update_self, hcall]
          exact .opened threadId text
        · simp only [Function.update_of_ne hid]
          exact .same _
      next => exact .same _
  | turn other event =>
      simp only [step]
      split
      next => exact .same _
      next call hcall =>
        by_cases hid : id = other
        · subst hid
          simp only [advance, Function.update_self, hcall]
          exact .stepped call event
        · simp only [advance, Function.update_of_ne hid]
          exact .same _

theorem sound_of_evolves {before : Option (TurnCall ν)} {after : TurnCall ν}
    (hevolves : Evolves codec server before (some after))
    (hsound : ∀ call, before = some call → call.Sound codec) : after.Sound codec := by
  cases hevolves with
  | same => exact hsound after rfl
  | opened threadId text => exact rfl
  | stepped call event => exact TurnCall.sound_step _ event (hsound call rfl)
  | queued call signal halive =>
      have hmore := TurnCall.sound_more (call.inbox ++ [signal]) [] (hsound call rfl)
      rwa [List.append_nil] at hmore

theorem keeps_of_evolves {before : TurnCall ν} {after : Option (TurnCall ν)}
    (hevolves : Evolves codec server (some before) after) :
    ∃ call, after = some call ∧ before.Keeps call := by
  cases hevolves with
  | same => exact ⟨before, rfl, TurnCall.keeps_refl before⟩
  | stepped _ event => exact ⟨_, rfl, TurnCall.keeps_step _ event⟩
  | queued _ signal halive => exact ⟨_, rfl, rfl, rfl, id, fun _ => rfl, fun _ => rfl⟩

theorem stranded_of_evolves {before : TurnCall ν} {after : Option (TurnCall ν)}
    (hclosed : server.alive = false) (hevolves : Evolves codec server (some before) after)
    (hstranded : before.Stranded) :
    ∃ call, after = some call ∧ call.Stranded := by
  cases hevolves with
  | same => exact ⟨before, rfl, hstranded⟩
  | stepped _ event => exact ⟨_, rfl, TurnCall.stranded_step event hclosed hstranded⟩
  | queued _ signal halive =>
      rw [hclosed] at halive
      cases halive

/-- The first baseline of a call comes from the history of its thread. -/
theorem baseline_of_evolves {before : Option (TurnCall ν)} {after : TurnCall ν}
    (hevolves : Evolves codec server before (some after))
    (hbefore : ∀ call, before = some call → call.phase.based = false)
    (hafter : after.phase.based = true) :
    after.phase.ended = true ∨ after.FromHistory codec (server.baselines after.threadId) := by
  cases hevolves with
  | same => exact absurd hafter (by simp only [hbefore after rfl, Bool.false_eq_true, not_false_eq_true])
  | opened threadId text => cases hafter
  | stepped call event =>
      have hthread : (call.step codec (server.context call.threadId) event).threadId =
          call.threadId := (TurnCall.keeps_step _ event).threadId
      rw [hthread]
      exact TurnCall.baseline_of_step (hbefore call rfl) hafter
  | queued call signal halive =>
      exact absurd hafter (by simp only [hbefore call rfl, Bool.false_eq_true, not_false_eq_true])

theorem alive_step {input : AppServerInput ν} (halive : server.alive = false) :
    (server.step codec input).alive = false := by
  cases input with
  | recordTurnBaseline threadId turnIds => exact halive
  | notification method params | clearWaiters =>
      simp only [step, halive, Bool.false_eq_true, if_false]
  | streamClosed => rfl
  | turnStart id threadId text | turn id event =>
      simp only [step]
      split
      next => exact halive
      next => exact halive

/-! ## The observers -/

/-- While the stream is open, the map of observers holds every call that observes its thread. -/
def Routed (server : AppServer ν) : Prop :=
  server.alive = true → ∀ id call, server.calls id = some call → call.phase.observing = true →
    server.waiters call.threadId = some id

theorem signal_waiters (key : String) (signal : TurnSignal ν) :
    (server.signal key signal).waiters = server.waiters := by
  unfold AppServer.signal
  split
  next => rfl
  next => rfl

theorem dispatch_waiters (method : String) (params : ν) :
    (server.dispatch codec method params).waiters = server.waiters := by
  have hsignal : ∀ signal, (server.signalTurn codec params signal).waiters = server.waiters := by
    intro signal
    unfold signalTurn
    split
    next => rfl
    next threadId hkey => exact signal_waiters threadId signal
  unfold dispatch
  split_ifs with hcompleted hstatus
  · exact hsignal _
  · exact hsignal _
  · rfl

/-- An event of one call leaves the observer of another alone. -/
theorem rewired_of_other {id other : Nat} {before after : TurnCall ν} {threadId : String}
    (hother : other ≠ id) (hwaiter : server.waiters threadId = some other)
    (hregister : before.phase.observing = false → after.phase.observing = true →
      server.waiters after.threadId = none) :
    server.rewired id before after threadId = some other := by
  unfold rewired
  cases hbefore : before.phase.observing with
  | false =>
      cases hafter : after.phase.observing with
      | false => exact hwaiter
      | true =>
          have hvacant := hregister hbefore hafter
          have hne : threadId ≠ after.threadId := by
            rintro rfl
            rw [hwaiter] at hvacant
            cases hvacant
          exact (Function.update_of_ne hne _ _).trans hwaiter
  | true =>
      cases hafter : after.phase.observing with
      | true => exact hwaiter
      | false =>
          by_cases hown : server.waiters after.threadId = some id
          · have hne : threadId ≠ after.threadId := by
              rintro rfl
              rw [hwaiter] at hown
              exact hother (Option.some.inj hown)
            simp only [if_pos hown, Function.update_of_ne hne, hwaiter]
          · simp only [if_neg hown, hwaiter]

theorem rewired_of_self {id : Nat} {before after : TurnCall ν}
    (hthread : after.threadId = before.threadId) (hafter : after.phase.observing = true)
    (hwaiter : before.phase.observing = true → server.waiters before.threadId = some id) :
    server.rewired id before after after.threadId = some id := by
  unfold rewired
  cases hbefore : before.phase.observing with
  | false => simp only [hafter, Function.update_self]
  | true =>
      simp only [hafter, hthread]
      exact hwaiter hbefore

theorem routed_advance {id : Nat} {call : TurnCall ν} {event : TurnEvent ν}
    (hcall : server.calls id = some call) (hrouted : server.Routed) :
    (server.advance codec id call event).Routed := by
  intro halive other found hfound hobserving
  have hbefore := hrouted halive
  have hkeeps : call.Keeps (call.step codec (server.context call.threadId) event) :=
    TurnCall.keeps_step _ event
  by_cases hother : other = id
  · subst hother
    simp only [advance, Function.update_self, Option.some.injEq] at hfound
    subst hfound
    exact rewired_of_self hkeeps.threadId hobserving (hbefore other call hcall)
  · simp only [advance, Function.update_of_ne hother] at hfound
    refine rewired_of_other hother (hbefore other found hfound hobserving) ?_
    intro hcallBefore hcallAfter
    rcases TurnCall.observing_of_step hcallAfter with hcallBefore' | ⟨_, hoccupied⟩
    · exact absurd (hcallBefore.symm.trans hcallBefore') Bool.false_ne_true
    · rw [hkeeps.threadId]
      exact Option.isSome_eq_false_iff.mp hoccupied |> Option.isNone_iff_eq_none.mp

theorem routed_step (input : AppServerInput ν) (hrouted : server.Routed) :
    (server.step codec input).Routed := by
  cases input with
  | recordTurnBaseline threadId turnIds => exact hrouted
  | notification method params =>
      simp only [step]
      split_ifs with halive
      · intro hopen id found hfound hobserving
        rw [dispatch_waiters]
        have hqueues := queues_dispatch codec server method params id
        rw [hfound] at hqueues
        rcases hqueues with hsame | ⟨call, signal, hcall, hqueued⟩
        · exact hrouted halive id found hsame.symm hobserving
        · cases hqueued
          exact hrouted halive id call hcall hobserving
      · exact hrouted
  | streamClosed =>
      intro halive
      cases halive
  | clearWaiters =>
      simp only [step]
      split_ifs with halive
      · exact hrouted
      · intro hopen
        exact absurd hopen halive
  | turnStart id threadId text =>
      simp only [step]
      split
      next hcall =>
        intro halive other found hfound hobserving
        by_cases hother : other = id
        · subst hother
          simp only [Function.update_self, Option.some.injEq] at hfound
          subst hfound
          cases hobserving
        · simp only [Function.update_of_ne hother] at hfound
          exact hrouted halive other found hfound hobserving
      next => exact hrouted
  | turn id event =>
      simp only [step]
      split
      next => exact hrouted
      next call hcall => exact routed_advance hcall hrouted

/-! ## Runs -/

/-- What holds of every call in a state.  The frames of a call are those that its task has read,
so they are about its thread or answer its own requests. -/
structure Attributes (codec : TurnCodec ν) (server : AppServer ν) : Prop where
  sent_once : ∀ id call, server.calls id = some call → call.sent = [] ∨ call.sent = [call.text]
  baseline_first : ∀ id call, server.calls id = some call → call.sent ≠ [] →
    call.phase.based = true
  reported : ∀ id call outcome, server.calls id = some call → call.phase = .done (.ok outcome) →
    outcome.threadId = call.threadId ∧ outcome.turnId ∉ call.baseline ∧
      ∃ report ∈ call.reports,
        codec.Reports call.threadId outcome.turnId (.terminal outcome) report
  only_new_turn : ∀ id call outcome turnId, server.calls id = some call →
    call.phase = .done (.ok outcome) →
    (∀ report ∈ call.reports, ∀ turn, codec.Tells call.threadId turn report →
      turn.id ∉ call.baseline → turn.id = turnId) → outcome.turnId = turnId
  one_observer : server.alive = true → ∀ first firstCall second secondCall,
    server.calls first = some firstCall → firstCall.phase.observing = true →
    server.calls second = some secondCall → secondCall.phase.observing = true →
    firstCall.threadId = secondCall.threadId → first = second

/-- The invariant of the system. -/
structure Sound (codec : TurnCodec ν) (server : AppServer ν) : Prop where
  calls : ∀ id call, server.calls id = some call → call.Sound codec
  routed : server.Routed

theorem sound_step (input : AppServerInput ν) (hsound : server.Sound codec) :
    (server.step codec input).Sound codec where
  calls id call hcall := by
    have hevolves := evolves_step codec server input id
    rw [hcall] at hevolves
    exact sound_of_evolves hevolves (hsound.calls id)
  routed := routed_step input hsound.routed

theorem sound_empty : ({} : AppServer ν).Sound codec where
  calls id call hcall := by cases hcall
  routed halive id call hcall := by cases hcall

theorem attributes_of_sound (hsound : server.Sound codec) : server.Attributes codec where
  sent_once id call hcall := TurnCall.sentOnce_of_sound (hsound.calls id call hcall)
  baseline_first id call hcall hsent := TurnCall.based_of_sent (hsound.calls id call hcall) hsent
  reported id call outcome hcall hdone :=
    TurnCall.reported_of_sound (hsound.calls id call hcall) hdone
  only_new_turn id call outcome turnId hcall hdone honly := by
    obtain ⟨_, hnew, report, hmem, turn, htells, hid, _⟩ :=
      TurnCall.reported_of_sound (hsound.calls id call hcall) hdone
    rw [← hid] at hnew ⊢
    exact honly report hmem turn htells hnew
  one_observer halive first firstCall second secondCall hfirst hobserves hsecond hobserves'
      hthread := by
    have hfirstWaits := hsound.routed halive first firstCall hfirst hobserves
    have hsecondWaits := hsound.routed halive second secondCall hsecond hobserves'
    rw [hthread, hsecondWaits] at hfirstWaits
    exact (Option.some.inj hfirstWaits).symm

/-- A call keeps its request and, once taken, its baseline. -/
theorem keeps_run (codec : TurnCodec ν) {id : Nat} {call : TurnCall ν}
    (hcall : server.calls id = some call) (inputs : List (AppServerInput ν)) :
    ∃ later, (run (step codec) server inputs).calls id = some later ∧ call.Keeps later := by
  induction inputs generalizing server call with
  | nil => exact ⟨call, hcall, TurnCall.keeps_refl call⟩
  | cons input rest ih =>
      have hevolves := evolves_step codec server input id
      rw [hcall] at hevolves
      obtain ⟨next, hnext, hkeeps⟩ := keeps_of_evolves hevolves
      obtain ⟨later, hlater, hrest⟩ := ih hnext
      exact ⟨later, hlater, hkeeps.trans hrest⟩

theorem stranded_run {id : Nat} {call : TurnCall ν} (halive : server.alive = false)
    (hcall : server.calls id = some call) (hstranded : call.Stranded)
    (inputs : List (AppServerInput ν)) :
    ∃ later, (run (step codec) server inputs).calls id = some later ∧ later.Stranded := by
  induction inputs generalizing server call with
  | nil => exact ⟨call, hcall, hstranded⟩
  | cons input rest ih =>
      have hevolves := evolves_step codec server input id
      rw [hcall] at hevolves
      obtain ⟨next, hnext, hafter⟩ := stranded_of_evolves halive hevolves hstranded
      exact ih (alive_step halive) hnext hafter

/-- A second observer of a thread is refused; after the stream has closed it may register, and is
stranded. -/
theorem stranded_of_register {id other : Nat} {call observer : TurnCall ν}
    (hrouted : server.Routed) (hcall : server.calls id = some call)
    (hobserver : server.calls other = some observer)
    (hobserving : observer.phase.observing = true)
    (hthread : observer.threadId = call.threadId) (hphase : call.phase = .registering) :
    ∃ later, (server.step codec (.turn id .register)).calls id = some later ∧
      later.Stranded ∧ (later.phase.ended = true ∨
        (server.step codec (.turn id .register)).alive = false) := by
  simp only [step, hcall, advance, Function.update_self, TurnCall.step, TurnCall.register, hphase]
  refine ⟨_, rfl, ?_⟩
  cases halive : server.alive with
  | true =>
      have hwaiter := hrouted halive other observer hobserver hobserving
      rw [hthread] at hwaiter
      rw [if_pos (by simp only [context, hwaiter, Option.isSome_some])]
      exact ⟨True.intro, Or.inl rfl⟩
  | false =>
      split_ifs with hoccupied
      · exact ⟨True.intro, Or.inl rfl⟩
      · exact ⟨⟨rfl, fun hsent => by cases hsent⟩, Or.inr rfl⟩

theorem sound_run (codec : TurnCodec ν) (inputs : List (AppServerInput ν)) :
    (run (step codec) {} inputs).Sound codec :=
  run_invariant sound_empty (fun _ input hsound => sound_step input hsound) inputs

/-- The turn of a notification that came before the call is never the call's outcome. -/
def EarlierTurnsYieldNothing (codec : TurnCodec ν) : Prop :=
  ∀ before after id threadId text params turn call outcome,
    codec.completed params = .ok (threadId, turn) →
    .notification "turn/completed" params ∈ before →
    (run (step codec) {} before).calls id = none →
    (run (step codec) {} (before ++ .turnStart id threadId text :: after)).calls id = some call →
    call.phase = .done (.ok outcome) → outcome.turnId ≠ turn.id

section StaleHistory

/-- Frames that need no decoding: a thread and its turns. -/
def plainCodec : TurnCodec (String × WireTurn) where
  started frame := .ok frame.2
  completed frame := .ok frame
  threadRead frame := .ok ⟨frame.1, [frame.2]⟩
  threadKey frame := some frame.1
  scrub := id

def finishedTurn : String × WireTurn :=
  ("thread", { id := "turn", status := .completed, error := none })

/-- The history was recorded when the thread was opened, before the turn. -/
def staleRun : List (AppServerInput (String × WireTurn)) :=
  [.recordTurnBaseline "thread" [], .notification "turn/completed" finishedTurn]

def staleCall : List (AppServerInput (String × WireTurn)) :=
  [.turn 0 .takeBaseline, .turn 0 .register, .turn 0 (.sendStart true),
    .notification "turn/completed" finishedTurn, .turn 0 .receive]

theorem earlier_turn_yields : ¬ EarlierTurnsYieldNothing plainCodec := by
  intro hnothing
  exact hnothing staleRun staleCall 0 "thread" "text" finishedTurn finishedTurn.2 _ _ rfl
    (List.mem_cons_of_mem _ List.mem_cons_self) rfl rfl rfl rfl

end StaleHistory

/-- What a call keeps over the rest of a run, and what it never gets. -/
structure FollowsCalls (codec : TurnCodec ν) : Prop where
  /-- The request of a call and the baseline that it took stay. -/
  kept : ∀ before after id call, (run (step codec) {} before).calls id = some call →
    ∃ later, (run (step codec) {} (before ++ after)).calls id = some later ∧
      later.threadId = call.threadId ∧ later.text = call.text ∧
      (call.phase.based = true → later.baseline = call.baseline) ∧
      (call.phase.ended = true → later.phase = call.phase)
  /-- The baseline is the history recorded for the thread or the answer to a `thread/read`. -/
  source : ∀ before input id call, (run (step codec) {} (before ++ [input])).calls id = some call →
    (∀ earlier, (run (step codec) {} before).calls id = some earlier →
      earlier.phase.based = false) →
    call.phase.based = true → call.phase.ended = true ∨
      call.FromHistory codec ((run (step codec) {} before).baselines call.threadId)
  /-- A call that registers while another observes its thread has no outcome. -/
  second_observer : ∀ before after id call other observer later outcome,
    (run (step codec) {} before).calls id = some call → call.phase = .registering →
    (run (step codec) {} before).calls other = some observer →
    observer.phase.observing = true → observer.threadId = call.threadId →
    (run (step codec) {} (before ++ .turn id .register :: after)).calls id = some later →
    later.phase ≠ .done (.ok outcome)

theorem followsCalls (codec : TurnCodec ν) : FollowsCalls codec where
  kept before after id call hcall := by
    obtain ⟨later, hlater, hkeeps⟩ := keeps_run codec hcall after
    rw [← run_append] at hlater
    exact ⟨later, hlater, hkeeps.threadId, hkeeps.text, hkeeps.baseline, hkeeps.ended⟩
  source before input id call hcall hearlier hbased := by
    rw [run_append] at hcall
    have hevolves := evolves_step codec (run (step codec) {} before) input id
    rw [run_cons, run_nil] at hcall
    rw [hcall] at hevolves
    exact baseline_of_evolves hevolves hearlier hbased
  second_observer before after id call other observer later outcome hcall hphase hobserver
      hobserving hthread hlater := by
    rw [run_append, run_cons] at hlater
    obtain ⟨next, hnext, hstranded, hended⟩ :=
      stranded_of_register (sound_run codec before).routed hcall hobserver hobserving hthread hphase
    rcases hended with hended | hclosed
    · obtain ⟨final, hfinal, hkeeps⟩ := keeps_run codec hnext after
      cases hlater.symm.trans hfinal
      rw [hkeeps.ended hended]
      exact TurnCall.not_ok_of_stranded hstranded
    · obtain ⟨final, hfinal, hafter⟩ := stranded_run hclosed hnext hstranded after
      cases hlater.symm.trans hfinal
      exact TurnCall.not_ok_of_stranded hafter

/-- Over every run of the calls of a child: each sends its turn at most once, an outcome is what
a frame reported of a turn outside the baseline, and a second observer gets none. -/
theorem turnStart_run (codec : TurnCodec ν) :
    (∀ inputs, (run (step codec) {} inputs).Attributes codec) ∧ FollowsCalls codec :=
  ⟨fun inputs => attributes_of_sound (sound_run codec inputs), followsCalls codec⟩

end AppServer

end Mosaico
