import Mosaico.Rust.Core
import Mosaico.Transition.Run

/-!
# The turns of the app-server protocol

What the daemon reads of a turn in the three frames that tell of one: the response to
`turn/start`, the notification `turn/completed` and the answer to `thread/read`.  Decoding the
JSON of a frame into its fields is a parameter.
-/

namespace Mosaico

open Transition

/-! ## Errors and outcomes -/

/-- The errors of an RPC call; the texts of `transport` and `decode` are the library's. -/
inductive RpcError where
  | transport (detail : String)
  | protocol (code : Int) (message : String)
  | childExited
  | decode (detail : String)
  | timeout
  deriving DecidableEq, Repr

def RpcError.text : RpcError → String
  | .transport detail => "transport: " ++ detail
  | .protocol code message => "rpc error " ++ toString code ++ ": " ++ message
  | .childExited => "child harness exited before response"
  | .decode detail => "decode: " ++ detail
  | .timeout => "rpc timed out"

def protocolError (message : String) : RpcError :=
  .protocol (-1) message

structure TurnFailure where
  message : String
  additionalDetails : Option String
  deriving DecidableEq, Repr

/-- The terminal status of a turn. -/
inductive TurnOutcome where
  | completed (threadId turnId : String)
  | failed (threadId turnId : String) (error : Option TurnFailure)
  | interrupted (threadId turnId : String)
  deriving DecidableEq, Repr

def TurnOutcome.threadId : TurnOutcome → String
  | .completed threadId _ => threadId
  | .failed threadId _ _ => threadId
  | .interrupted threadId _ => threadId

def TurnOutcome.turnId : TurnOutcome → String
  | .completed _ turnId => turnId
  | .failed _ turnId _ => turnId
  | .interrupted _ turnId => turnId

inductive ObservedTurn where
  | inProgress
  | terminal (outcome : TurnOutcome)
  deriving DecidableEq, Repr

/-! ## Frames -/

inductive WireTurnStatus where
  | completed
  | interrupted
  | failed
  | inProgress
  deriving DecidableEq, Repr

structure WireTurnError where
  message : String
  additionalDetails : Option String
  deriving DecidableEq, Repr

structure WireTurn where
  id : String
  status : WireTurnStatus
  error : Option WireTurnError
  deriving DecidableEq, Repr

structure WireThread where
  id : String
  turns : List WireTurn
  deriving DecidableEq, Repr

/-- How the frames are decoded, and how secrets are taken out of an error text.  A frame that
does not fit the schema yields a text. -/
structure TurnCodec (ν : Type) where
  started : ν → Except String WireTurn
  /-- The thread and the turn of a `turn/completed`. -/
  completed : ν → Except String (String × WireTurn)
  threadRead : ν → Except String WireThread
  /-- The member `threadId` of a notification, when it is a string. -/
  threadKey : ν → Option String
  scrub : String → String

/-- `split_whitespace`. -/
def splitWhitespace (text : String) : List String :=
  ((text.toList.splitOnP Rust.isWhitespace).filter (· ≠ [])).map String.ofList

def maxErrorChars : Nat := 500

namespace TurnCodec

variable {ν : Type} (codec : TurnCodec ν)

def sanitizeError (value : String) : String :=
  String.ofList ((" ".intercalate (splitWhitespace (codec.scrub value))).toList.take maxErrorChars)

def decode {α : Type} (label : String) (decoded : Except String α) : Except RpcError α :=
  decoded.mapError fun error =>
    protocolError (label ++ " does not match the current app-server schema: " ++ error)

def failure (error : WireTurnError) : TurnFailure where
  message := codec.sanitizeError error.message
  additionalDetails :=
    (error.additionalDetails.map codec.sanitizeError).filter (· ≠ "")

def observeTurn (threadId turnId : String) (turn : WireTurn) : Except RpcError ObservedTurn :=
  if turn.id ≠ turnId then
    .error (protocolError ("turn id mismatch: expected " ++ turnId ++ ", got " ++ turn.id))
  else match turn.status with
    | .inProgress => .ok .inProgress
    | .completed => .ok (.terminal (.completed threadId turnId))
    | .interrupted => .ok (.terminal (.interrupted threadId turnId))
    | .failed => .ok (.terminal (.failed threadId turnId (turn.error.map codec.failure)))

def observeNewTurn (threadId : String) (baseline : List String) (turn : WireTurn) :
    Except RpcError (Option (String × ObservedTurn)) :=
  if turn.id ∈ baseline then .ok none
  else do
    let observed ← codec.observeTurn threadId turn.id turn
    return some (turn.id, observed)

def parseStarted (threadId : String) (baseline : List String) (value : ν) :
    Except RpcError (String × ObservedTurn) := do
  let turn ← decode "turn/start response" (codec.started value)
  ensure (turn.id ∉ baseline)
    (protocolError ("turn/start returned pre-existing turn " ++ turn.id))
  let observed ← codec.observeTurn threadId turn.id turn
  return (turn.id, observed)

/-- The turn of a `turn/completed` of the thread. -/
def decodeCompleted (threadId : String) (value : ν) : Except RpcError WireTurn := do
  let (thread, turn) ← decode "turn/completed params" (codec.completed value)
  ensure (thread = threadId) (protocolError
    ("turn/completed thread mismatch: expected " ++ threadId ++ ", got " ++ thread))
  return turn

def parseCompleted (threadId turnId : String) (value : ν) : Except RpcError ObservedTurn := do
  let turn ← codec.decodeCompleted threadId value
  codec.observeTurn threadId turnId turn

def parseCompletedAfter (threadId : String) (baseline : List String) (value : ν) :
    Except RpcError (Option (String × ObservedTurn)) := do
  let turn ← codec.decodeCompleted threadId value
  codec.observeNewTurn threadId baseline turn

def decodeThreadRead (threadId : String) (value : ν) : Except RpcError (List WireTurn) := do
  let thread ← decode "thread/read response" (codec.threadRead value)
  ensure (thread.id = threadId) (protocolError
    ("thread/read id mismatch: expected " ++ threadId ++ ", got " ++ thread.id))
  return thread.turns

def parseTurnBaseline (threadId : String) (value : ν) : Except RpcError (List String) := do
  let turns ← codec.decodeThreadRead threadId value
  return turns.map WireTurn.id

def parseThreadRead (threadId turnId : String) (value : ν) :
    Except RpcError (Option ObservedTurn) := do
  let turns ← codec.decodeThreadRead threadId value
  match turns.find? (fun turn => turn.id = turnId) with
  | none => return none
  | some turn =>
      let observed ← codec.observeTurn threadId turnId turn
      return some observed

def parseNewTurn (threadId : String) (baseline : List String) (value : ν) :
    Except RpcError (Option (String × ObservedTurn)) := do
  let turns ← codec.decodeThreadRead threadId value
  match turns.filter (fun turn => turn.id ∉ baseline) with
  | [] => return none
  | [turn] => codec.observeNewTurn threadId baseline turn
  | _ => throw (protocolError
      "thread/read exposed multiple turns after one turn/start; refusing to guess")

/-! ## What a frame tells -/

/-- The frames that a call reads. -/
inductive Report (ν : Type) where
  | started (value : ν)
  | completed (value : ν)
  | threadRead (value : ν)
  deriving DecidableEq, Repr

/-- The frame tells of the turn on the thread.  The response to `turn/start` names no thread;
it answers the request for this one. -/
def Tells (threadId : String) (turn : WireTurn) : Report ν → Prop
  | .started value => codec.started value = .ok turn
  | .completed value => codec.completed value = .ok (threadId, turn)
  | .threadRead value => ∃ turns, codec.threadRead value = .ok ⟨threadId, turns⟩ ∧ turn ∈ turns

/-- The frame reports what was observed of the turn. -/
def Reports (threadId turnId : String) (observed : ObservedTurn) (report : Report ν) : Prop :=
  ∃ turn, codec.Tells threadId turn report ∧ turn.id = turnId ∧
    codec.observeTurn threadId turnId turn = .ok observed

/-! ## What the parsers accept -/

variable {codec} {threadId turnId : String} {baseline : List String} {value : ν}
  {turn : WireTurn} {observed : ObservedTurn}

theorem ok_of_decode {α : Type} {label : String} {decoded : Except String α} {a : α}
    (hok : decode label decoded = .ok a) : decoded = .ok a := by
  cases decoded with
  | error error => cases hok
  | ok found =>
      cases hok
      rfl

theorem id_of_observeTurn (hok : codec.observeTurn threadId turnId turn = .ok observed) :
    turn.id = turnId := by
  by_contra hne
  rw [observeTurn, if_pos hne] at hok
  cases hok

/-- A terminal status names the thread and the turn. -/
theorem names_of_observeTurn {outcome : TurnOutcome}
    (hok : codec.observeTurn threadId turnId turn = .ok (.terminal outcome)) :
    outcome.threadId = threadId ∧ outcome.turnId = turnId := by
  rw [observeTurn, if_neg (not_not_intro (id_of_observeTurn hok))] at hok
  split at hok
  · cases hok
  · cases hok
    exact ⟨rfl, rfl⟩
  · cases hok
    exact ⟨rfl, rfl⟩
  · cases hok
    exact ⟨rfl, rfl⟩

theorem eq_of_observeNewTurn
    (hok : codec.observeNewTurn threadId baseline turn = .ok (some (turnId, observed))) :
    turn.id = turnId ∧ turnId ∉ baseline ∧
      codec.observeTurn threadId turnId turn = .ok observed := by
  unfold observeNewTurn at hok
  split_ifs at hok with hold
  · cases hok
  · obtain ⟨found, hobserved, hpair⟩ := bind_eq_ok.mp hok
    cases hpair
    exact ⟨rfl, hold, hobserved⟩

theorem reports_of_parseStarted
    (hok : codec.parseStarted threadId baseline value = .ok (turnId, observed)) :
    turnId ∉ baseline ∧ codec.Reports threadId turnId observed (.started value) := by
  simp only [parseStarted, bind_eq_ok, ensure_eq_ok, pure_eq_ok, Prod.mk.injEq] at hok
  obtain ⟨turn, hdecode, _, hnew, found, hobserved, rfl, rfl⟩ := hok
  exact ⟨hnew, turn, ok_of_decode hdecode, rfl, hobserved⟩

theorem ok_of_decodeCompleted (hok : codec.decodeCompleted threadId value = .ok turn) :
    codec.completed value = .ok (threadId, turn) := by
  simp only [decodeCompleted, bind_eq_ok, ensure_eq_ok, pure_eq_ok] at hok
  obtain ⟨⟨thread, held⟩, hdecode, _, rfl, rfl⟩ := hok
  exact ok_of_decode hdecode

theorem reports_of_parseCompleted
    (hok : codec.parseCompleted threadId turnId value = .ok observed) :
    codec.Reports threadId turnId observed (.completed value) := by
  obtain ⟨turn, hdecode, hobserved⟩ := bind_eq_ok.mp hok
  exact ⟨turn, ok_of_decodeCompleted hdecode, id_of_observeTurn hobserved, hobserved⟩

theorem reports_of_parseCompletedAfter
    (hok : codec.parseCompletedAfter threadId baseline value = .ok (some (turnId, observed))) :
    turnId ∉ baseline ∧ codec.Reports threadId turnId observed (.completed value) := by
  obtain ⟨turn, hdecode, hnew⟩ := bind_eq_ok.mp hok
  obtain ⟨hid, houtside, hobserved⟩ := eq_of_observeNewTurn hnew
  exact ⟨houtside, turn, ok_of_decodeCompleted hdecode, hid, hobserved⟩

theorem ok_of_decodeThreadRead {turns : List WireTurn}
    (hok : codec.decodeThreadRead threadId value = .ok turns) :
    codec.threadRead value = .ok ⟨threadId, turns⟩ := by
  simp only [decodeThreadRead, bind_eq_ok, ensure_eq_ok, pure_eq_ok] at hok
  obtain ⟨thread, hdecode, _, rfl, rfl⟩ := hok
  exact ok_of_decode hdecode

theorem reports_of_parseThreadRead
    (hok : codec.parseThreadRead threadId turnId value = .ok (some observed)) :
    codec.Reports threadId turnId observed (.threadRead value) := by
  obtain ⟨turns, hdecode, hfound⟩ := bind_eq_ok.mp hok
  split at hfound
  · cases hfound
  · rename_i turn hfind
    obtain ⟨found, hobserved, hsome⟩ := bind_eq_ok.mp hfound
    cases hsome
    exact ⟨turn, ⟨turns, ok_of_decodeThreadRead hdecode, List.mem_of_find?_eq_some hfind⟩,
      id_of_observeTurn hobserved, hobserved⟩

theorem reports_of_parseNewTurn
    (hok : codec.parseNewTurn threadId baseline value = .ok (some (turnId, observed))) :
    turnId ∉ baseline ∧ codec.Reports threadId turnId observed (.threadRead value) := by
  obtain ⟨turns, hdecode, hnew⟩ := bind_eq_ok.mp hok
  split at hnew
  · cases hnew
  · rename_i turn hfilter
    obtain ⟨hid, houtside, hobserved⟩ := eq_of_observeNewTurn hnew
    have hmem : turn ∈ turns.filter (fun turn => decide (turn.id ∉ baseline)) := by
      rw [hfilter]
      exact List.mem_singleton_self turn
    exact ⟨houtside, turn, ⟨turns, ok_of_decodeThreadRead hdecode, (List.mem_filter.mp hmem).1⟩,
      hid, hobserved⟩
  · cases hnew

end TurnCodec

end Mosaico
