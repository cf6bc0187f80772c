import Mosaico.Rust.Core
import Mosaico.Transition.Run
import Mathlib.Algebra.Ring.Int.Defs
import Mathlib.Data.List.AList

/-!
# Requests over the stdio of a harness child

Requests, the writer of the child's stdin and the reader of its stdout are tasks
that run in any order and share the handle.  A request takes an id, registers
the sending end of a oneshot channel under it, queues its line and waits.  The
reader hands a response to the sender registered under its id; at the end of
the stream it first marks the child dead and then fails whatever is registered.

A request that is dropped, by its caller or by a timeout, takes its
registration with it, in a step of its own.
-/

namespace Mosaico

namespace Rpc

open Transition

/-! ## Frames -/

inductive Json where
  | null
  | bool (value : Bool)
  | integer (value : Int)
  | float (text : String)
  | string (text : String)
  | array (items : List Json)
  | object (fields : List (String × Json))

namespace Json

def asStr? : Json → Option String
  | .string text => some text
  | _ => none

def asI64? : Json → Option Int
  | .integer value => if -2 ^ 63 ≤ value ∧ value < 2 ^ 63 then some value else none
  | _ => none

def isNull : Json → Bool
  | .null => true
  | _ => false

end Json

/-- The `error` object of a response. -/
structure RpcErrorObject where
  code : Int
  message : String
  data : Option Json

inductive RpcError where
  | transport (detail : String)
  | protocol (error : RpcErrorObject)
  | childExited
  | decode (detail : String)
  | timeout

/-- How a request ends for its caller. -/
abbrev Outcome := Except RpcError Json

/-- What the harness takes from the JSON library. -/
structure WireCodec where
  parse : String → Option Json
  render : Json → String
  /-- Reading the `error` member as an error object. -/
  errorObject : Json → Option RpcErrorObject

/-- A frame that the child has sent. -/
inductive Inbound where
  | response (id : Int) (result : Except RpcErrorObject Json)
  | request (id : Json) (method : String) (params : Json)
  | notification (method : String) (params : Json)
  | other

namespace WireCodec

variable (codec : WireCodec)

def classifyResult (fields : List (String × Json)) : Except RpcErrorObject Json :=
  match fields.lookup "error" with
  | some error => .error ((codec.errorObject error).getD ⟨-1, codec.render error, none⟩)
  | none => .ok ((fields.lookup "result").getD .null)

def classify : Json → Inbound
  | .object fields =>
      match fields.lookup "method" with
      | some method =>
          let name := method.asStr?.getD ""
          let params := (fields.lookup "params").getD .null
          match (fields.lookup "id").filter (!·.isNull) with
          | some id => .request id name params
          | none => .notification name params
      | none =>
          match (fields.lookup "id").bind Json.asI64? with
          | some id => .response id (codec.classifyResult fields)
          | none => .other
  | _ => .other

def requestLine (id : Int) (method : String) (params : Json) : String :=
  codec.render (.object [("jsonrpc", .string "2.0"), ("id", .integer id),
    ("method", .string method), ("params", params)])

/-- A line of the child's stdout; blank lines and lines that are not JSON are skipped. -/
def inbound? (line : String) : Option Inbound :=
  if Rust.isBlank line then none
  else (codec.parse (Rust.trim line)).map codec.classify

end WireCodec

/-! ## The state of a handle -/

/-- Where a request is.  It waits, and can be dropped, at two points: for room in the writer's
queue and for its response. -/
inductive Phase where
  | allocated
  | sending
  | waiting
  /-- About to drop its registration; without a result if its caller dropped it. -/
  | leaving (result : Option Outcome)
  | left (result : Option Outcome)

namespace Phase

/-- The receiving end of the oneshot channel is there. -/
def receives : Phase → Bool
  | .sending => true
  | .waiting => true
  | _ => false

/-- The request may have a registration. -/
def registered : Phase → Bool
  | .sending => true
  | .waiting => true
  | .leaving _ => true
  | _ => false

/-- What the request has been given to end with. -/
def result? : Phase → Option Outcome
  | .leaving result => result
  | .left result => result
  | _ => none

end Phase

/-- A request; `slot` is what its oneshot channel holds. -/
structure Call where
  id : Int
  line : String
  phase : Phase := .allocated
  slot : Option Outcome := none

inductive Writer where
  | idle
  | writing (line : String)
  | closed

/-- The reader reads frames, sees the end of the stream and marks the child dead, and then drains
the registrations and fails their senders one by one. -/
inductive Reader where
  | reading
  | ended
  | draining (senders : List Nat)
  | finished

namespace Reader

/-- The senders that the reader still has to fail. -/
def senders : Reader → List Nat
  | .draining senders => senders
  | _ => []

def drained : Reader → Bool
  | .draining _ => true
  | .finished => true
  | _ => false

end Reader

/-- How many lines the writer's queue takes. -/
def channelCapacity : Nat := 256

/-- The requests so far, the ids and registrations they share, the two tasks and the child.  A
sender is named by the position of its request.  `frames` and `deliveries` record the frames read
and which request received which of them; nothing reads the two. -/
structure Transport where
  ids : Int
  calls : List Call
  pending : AList (fun _ : Int => Nat)
  channel : List String
  writer : Writer
  stdout : List String
  hungUp : Bool
  exited : Bool
  alive : Bool
  reader : Reader
  frames : List Inbound
  deliveries : List (Nat × Nat)

/-- What happens next. -/
inductive Move where
  /-- `request` is called. -/
  | start (method : String) (params : Json)
  /-- The request runs to its next atomic operation.  Its relaxed load of `alive` may still see the
  child alive as long as the lock has not shown it the reader's store. -/
  | turn (index : Nat) (stale : Bool)
  | cancel (index : Nat)
  /-- The deadline of `request_timeout` passes. -/
  | expire (index : Nat)
  /-- A notification or a reply is queued. -/
  | push (line : String)
  /-- The writer runs; the child takes the line or the pipe fails, or neither yet. -/
  | write (taken : Option Bool)
  | read
  | print (line : String)
  /-- The child closes its stdout, or writes bytes there that are not UTF-8. -/
  | hangUp
  /-- The child exits, and its ends of the pipes close. -/
  | exit
  /-- `kill` has seen the child exit. -/
  | killed

namespace Transport

/-- A handle as it is spawned. -/
def initial : Transport where
  ids := 1
  calls := []
  pending := ∅
  channel := []
  writer := .idle
  stdout := []
  hungUp := false
  exited := false
  alive := true
  reader := .reading
  frames := []
  deliveries := []

variable (state : Transport)

/-- Change one request. -/
def modify (index : Nat) (change : Call → Call) : Transport :=
  { state with calls := state.calls.modify index change }

def setPhase (index : Nat) (phase : Phase) : Transport :=
  state.modify index ({ · with phase := phase })

/-- A oneshot send; it is lost if the receiver is gone. -/
def send (index : Nat) (outcome : Outcome) : Transport :=
  state.modify index fun call =>
    if call.phase.receives then { call with slot := some outcome } else call

/-- Whether the sending end of the request's channel is still somewhere. -/
def senderLives (index : Nat) (call : Call) : Bool :=
  state.pending.lookup call.id == some index || state.reader.senders.contains index

def enqueue (line : String) : Transport :=
  { state with channel := state.channel ++ [line] }

/-- Registration, under the lock of the map. -/
def register (index : Nat) (call : Call) (stale : Bool) : Transport :=
  if (state.alive || (stale && !state.reader.drained)) = true then
    { state with pending := state.pending.insert call.id index }.setPhase index .sending
  else state.setPhase index (.left (some (.error .childExited)))

def sendLine (index : Nat) (call : Call) : Transport :=
  match state.writer with
  | .closed => state.setPhase index (.leaving (some (.error .childExited)))
  | _ =>
      if state.channel.length < channelCapacity then
        (state.enqueue call.line).setPhase index .waiting
      else state

def receive (index : Nat) (call : Call) : Transport :=
  match call.slot with
  | some outcome => state.setPhase index (.leaving (some outcome))
  | none =>
      if state.senderLives index call then state
      else state.setPhase index (.leaving (some (.error .childExited)))

/-- Dropping the guard removes whatever is registered under the id. -/
def leave (index : Nat) (call : Call) (result : Option Outcome) : Transport :=
  { state with pending := state.pending.erase call.id }.setPhase index (.left result)

def turn (index : Nat) (stale : Bool) : Transport :=
  match state.calls[index]? with
  | none => state
  | some call =>
      match call.phase with
      | .allocated => state.register index call stale
      | .sending => state.sendLine index call
      | .waiting => state.receive index call
      | .leaving result => state.leave index call result
      | .left _ => state

/-- The future of the request is dropped at one of its two waits. -/
def drop (index : Nat) (result : Option Outcome) : Transport :=
  match state.calls[index]? with
  | none => state
  | some call => if call.phase.receives then state.setPhase index (.leaving result) else state

/-- `writer_task`; once the child has exited every write fails. -/
def write (taken : Option Bool) : Transport :=
  match state.writer with
  | .idle =>
      match state.channel with
      | [] => state
      | line :: rest => { state with channel := rest, writer := .writing line }
  | .writing _ =>
      match if state.exited then some false else taken with
      | some true => { state with writer := .idle }
      | some false => { state with writer := .closed }
      | none => state
  | .closed => state

/-- The sender of a registration gets the response of frame number `frame`. -/
def deliver (index : Nat) (frame : Nat) (outcome : Outcome) : Transport :=
  match state.calls[index]? with
  | none => state
  | some call =>
      if call.phase.receives then
        { state.send index outcome with deliveries := state.deliveries ++ [(frame, index)] }
      else state

def dispatchInbound (inbound : Inbound) : Transport :=
  let next := { state with frames := state.frames ++ [inbound] }
  match inbound with
  | .response id result =>
      match state.pending.lookup id with
      | none => next
      | some index =>
          { next with pending := state.pending.erase id }.deliver index state.frames.length
            (result.mapError .protocol)
  | _ => next

def readLine (codec : WireCodec) (line : String) : Transport :=
  match codec.inbound? line with
  | none => state
  | some inbound => state.dispatchInbound inbound

/-- `reader_task`. -/
def read (codec : WireCodec) : Transport :=
  match state.reader with
  | .reading =>
      match state.stdout with
      | line :: rest => { state with stdout := rest }.readLine codec line
      | [] =>
          if (state.exited || state.hungUp) = true then
            { state with alive := false, reader := .ended }
          else state
  | .ended =>
      { state with
        reader := .draining (state.pending.entries.map (·.snd))
        pending := ∅ }
  | .draining [] => { state with reader := .finished }
  | .draining (index :: rest) =>
      { state with reader := .draining rest }.send index (.error .childExited)
  | .finished => state

def start (codec : WireCodec) (method : String) (params : Json) : Transport :=
  { state with
    ids := state.ids + 1
    calls := state.calls ++
      [{ id := state.ids, line := codec.requestLine state.ids method params }] }

def push (line : String) : Transport :=
  match state.writer with
  | .closed => state
  | _ => if state.channel.length < channelCapacity then state.enqueue line else state

def step (codec : WireCodec) (state : Transport) : Move → Transport
  | .start method params => state.start codec method params
  | .turn index stale => state.turn index stale
  | .cancel index => state.drop index none
  | .expire index => state.drop index (some (.error .timeout))
  | .push line => state.push line
  | .write taken => state.write taken
  | .read => state.read codec
  -- the reader never comes to a line behind the end that it sees
  | .print line =>
      if (state.exited || state.hungUp) = true then state
      else { state with stdout := state.stdout ++ [line] }
  | .hangUp => { state with hungUp := true }
  | .exit => { state with exited := true }
  | .killed => if state.exited then { state with alive := false } else state

end Transport

end Rpc

end Mosaico
