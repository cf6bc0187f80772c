import Mosaico.Daemon.Startup
import Mosaico.Rust.Slices

/-!
# One-shot calls of synchronous clients

A synchronous verb connects, shakes hands, writes one request and reads one line, and tries
again up to five times.  It must not run a command twice: once the request may have reached a
daemon, only a method that is declared idempotent is tried again.

Every read and write may fail, a daemon may stop reading anywhere, and each attempt may meet
another daemon.
-/

namespace Mosaico

namespace Daemon

variable {V : Type}

/-! ## Frames -/

structure RpcRequest (V : Type) where
  id : Nat
  method : String
  params : V
  deriving DecidableEq

/-- A line that a client writes. -/
inductive ClientLine (V : Type) where
  | hello (protocol : Nat)
  | pleaseExit (protocol : Nat)
  | request (request : RpcRequest V)
  | blank
  /-- A line that was cut off, or is no frame. -/
  | other
  deriving DecidableEq

/-! ## The daemon's side of a connection -/

/-- The methods whose handlers keep the connection to themselves. -/
def ownsConnection (method : String) : Bool := method == "tail" || method == "channel_read"

/-- The requests that the loop of `serve_connection` dispatches.  It answers `writable` lines
before a write fails. -/
def serveRequests : Nat → List (ClientLine V) → List (RpcRequest V)
  | _, [] => []
  | writable, .blank :: rest => serveRequests writable rest
  | 0, .request request :: _ => [request]
  | writable + 1, .request request :: rest =>
      if ownsConnection request.method then [request]
      else request :: serveRequests writable rest
  | 0, _ :: _ => []
  | writable + 1, _ :: rest => serveRequests writable rest

structure Served (V : Type) where
  dispatched : List (RpcRequest V)
  /-- The main loop was told to shut down for a re-exec. -/
  notified : Bool

def serveConnection (protocol : Nat) : Nat → List (ClientLine V) → Served V
  | writable + 1, .hello clientProtocol :: rest =>
      if protocol < clientProtocol then
        match rest with
        | .pleaseExit _ :: _ => ⟨[], true⟩
        | _ => ⟨[], false⟩
      else ⟨serveRequests writable rest, false⟩
  | _, _ => ⟨[], false⟩

/-! ## The client's side -/

inductive Outcome (V : Type) where
  | ok (value : V)
  | err (code message : String)
  | skewExit

inductive FailurePhase where
  | beforeRequest
  | requestMayHaveBeenDelivered
  deriving DecidableEq, Repr

structure TryCallFailure where
  phase : FailurePhase
  error : String

namespace TryCallFailure

def before (error : String) : TryCallFailure := ⟨.beforeRequest, error⟩

def afterRequest (error : String) : TryCallFailure := ⟨.requestMayHaveBeenDelivered, error⟩

end TryCallFailure

/-- What `read_line` and the parse of the line give. -/
inductive ReadLine (α : Type) where
  | failed (error : String)
  | eof
  | line (parsed : Except String α)

/-- The fields of a response line that the client looks at: code and message of an error, if
they are strings. -/
structure ResponseLine (V : Type) where
  error : Option (Option String × Option String)
  ok : Option V

/-- What the operating system and the daemon answer to the operations of one attempt. -/
structure Connection (V : Type) where
  connect : Except String Unit
  /-- The timeouts of the stream and its clone. -/
  options : Except String Unit
  hello : Except String Unit
  /-- The `protocol` of the welcome, where it is an integer. -/
  welcome : ReadLine (Option Nat)
  exitFrame : Except String Unit
  request : Except String Unit
  responseTimeout : Except String Unit
  response : ReadLine (ResponseLine V)

/-- The result of an attempt and the lines it handed to the stream.  A write that fails may
have delivered its line. -/
structure Attempt (V : Type) where
  result : Except TryCallFailure (Outcome V)
  written : List (ClientLine V)

def daemonTooNewMessage (daemonProtocol clientProtocol : Nat) : String :=
  s!"daemon protocol {daemonProtocol} is newer than this binary's {clientProtocol} — restart your mosaico session (or reinstall)"

/-- The second half of `try_call`, from the write of the request on. -/
def requestResponse (null : V) (connection : Connection V) :
    Except TryCallFailure (Outcome V) :=
  match connection.request with
  | .error error => .error (.afterRequest error)
  | .ok () =>
    match connection.responseTimeout with
    | .error error => .error (.afterRequest error)
    | .ok () =>
      match connection.response with
      | .failed error => .error (.afterRequest error)
      | .eof => .error (.afterRequest "daemon closed the connection")
      | .line (.error error) => .error (.afterRequest error)
      | .line (.ok response) =>
          match response.error with
          | some (code, message) => .ok (.err (code.getD "error") (message.getD ""))
          | none => .ok (.ok (response.ok.getD null))

def tryCall (protocol : Nat) (null : V) (connection : Connection V) (method : String)
    (params : V) : Attempt V :=
  match connection.connect with
  | .error error => ⟨.error (.before error), []⟩
  | .ok () =>
    match connection.options with
    | .error error => ⟨.error (.before error), []⟩
    | .ok () =>
      match connection.hello with
      | .error error => ⟨.error (.before error), [.hello protocol]⟩
      | .ok () =>
        match connection.welcome with
        | .failed error => ⟨.error (.before error), [.hello protocol]⟩
        | .eof => ⟨.error (.before "daemon closed before welcome"), [.hello protocol]⟩
        | .line (.error error) => ⟨.error (.before error), [.hello protocol]⟩
        | .line (.ok welcome) =>
          match compareProtocols (welcome.getD 0 % 2 ^ 32) protocol with
          | .ready =>
              ⟨requestResponse null connection,
                [.hello protocol, .request ⟨1, method, params⟩]⟩
          | .askOlderDaemonToExit =>
              match connection.exitFrame with
              | .error error =>
                  ⟨.error (.before error), [.hello protocol, .pleaseExit protocol]⟩
              | .ok () => ⟨.ok .skewExit, [.hello protocol, .pleaseExit protocol]⟩
          | .daemonTooNew daemonProtocol clientProtocol =>
              ⟨.error (.before (daemonTooNewMessage daemonProtocol clientProtocol)),
                [.hello protocol]⟩

structure MethodPolicy where
  responseTimeoutSecs : Nat
  retryAfterDelivery : Bool
  deriving DecidableEq, Repr

def methodPolicy (method : String) : MethodPolicy where
  responseTimeoutSecs := if method = "pty_spawn" then 25 else 2
  retryAfterDelivery := method ∈
    ["ping", "who", "my_session", "pty_status", "pty_resumable", "channel_members"]

def contains (text needle : String) : Bool := (Rust.find needle.toList text.toList).isSome

/-- The result of a call, and how many attempts it made. -/
structure CallResult (V : Type) where
  result : Except String V
  attempts : Nat

/-- The loop of `call_with_attempt`.  Attempts and spawns are numbered; `left` iterations
remain. -/
def callWithAttempt (attempt : Nat → Except TryCallFailure (Outcome V))
    (spawn : Nat → Except String Unit) (method : String) : Nat → Nat → CallResult V
  | 0, index => ⟨.error s!"could not complete daemon call {method}", index⟩
  | left + 1, index =>
      let again : CallResult V :=
        match spawn index with
        | .error error => ⟨.error error, index + 1⟩
        | .ok () => callWithAttempt attempt spawn method left (index + 1)
      match attempt index with
      | .ok (.ok value) => ⟨.ok value, index + 1⟩
      | .ok (.err _ message) => ⟨.error message, index + 1⟩
      | .ok .skewExit => again
      | .error failure =>
          if contains failure.error "is newer than this binary" then
            ⟨.error failure.error, index + 1⟩
          else if failure.phase = .requestMayHaveBeenDelivered ∧
              (methodPolicy method).retryAfterDelivery = false then
            let e := failure.error
            ⟨.error s!"daemon call {method} may have been processed, but no response was received ({e}). Not retrying automatically because the method is not declared idempotent.",
              index + 1⟩
          else again

/-- `call`: five iterations of `try_call` and `spawn_if_absent`. -/
def call (protocol : Nat) (null : V) (connections : Nat → Connection V)
    (spawn : Nat → Except String Unit) (method : String) (params : V) : CallResult V :=
  callWithAttempt (fun index => (tryCall protocol null (connections index) method params).result)
    spawn method 5 0

/-! ## What reaches a daemon -/

def requestsOf (lines : List (ClientLine V)) : List (RpcRequest V) :=
  lines.filterMap fun
    | .request request => some request
    | _ => none

/-- What a daemon reads of the lines of one attempt: the first ones, and perhaps the
beginning of the next. -/
def Received (written received : List (ClientLine V)) : Prop :=
  ∃ whole, whole <+: written ∧ (received = whole ∨ received = whole ++ [.other])

theorem requestsOf_prefix_of_lines {written received : List (ClientLine V)}
    (hreceived : Received written received) : requestsOf received <+: requestsOf written := by
  obtain ⟨whole, hwhole, rfl | rfl⟩ := hreceived
  · exact hwhole.filterMap _
  · have hother : requestsOf (whole ++ [ClientLine.other]) = requestsOf whole := by
      simp [requestsOf]
    rw [hother]
    exact hwhole.filterMap _

theorem serveRequests_sublist (writable : Nat) (lines : List (ClientLine V)) :
    (serveRequests writable lines).Sublist (requestsOf lines) := by
  induction lines generalizing writable with
  | nil => simp [serveRequests, requestsOf]
  | cons line rest ih =>
      cases line with
      | blank =>
          have hsub := ih writable
          simpa [serveRequests, requestsOf] using hsub
      | request request =>
          have hrequests : requestsOf (.request request :: rest) = request :: requestsOf rest := rfl
          rw [hrequests]
          cases writable with
          | zero => exact List.singleton_sublist.mpr List.mem_cons_self
          | succ writable =>
              rw [serveRequests]
              split
              · exact List.singleton_sublist.mpr List.mem_cons_self
              · exact (ih writable).cons_cons request
      | hello protocol | pleaseExit protocol | other =>
          cases writable with
          | zero => exact List.nil_sublist _
          | succ writable => exact ih writable

/-- A daemon dispatches only requests that it has read, each at most once and in order. -/
theorem dispatched_sublist (protocol writable : Nat) (lines : List (ClientLine V)) :
    (serveConnection protocol writable lines).dispatched.Sublist (requestsOf lines) := by
  unfold serveConnection
  split
  · split
    · split <;> exact List.nil_sublist _
    · exact serveRequests_sublist _ _
  · exact List.nil_sublist _

/-! ## What an attempt exposes -/

/-- The request has not been handed to the stream. -/
def Unsent : Except TryCallFailure (Outcome V) → Prop
  | .ok .skewExit => True
  | .error failure => failure.phase = .beforeRequest
  | _ => False

theorem not_unsent_requestResponse (null : V) (connection : Connection V) :
    ¬ Unsent (requestResponse null connection) := by
  unfold requestResponse
  split
  · exact nofun
  split
  · exact nofun
  split
  · exact nofun
  · exact nofun
  · exact nofun
  · split <;> exact id

/-- An attempt writes the request of the call or none, and it does not report a request that
it wrote as unsent. -/
theorem requestsOf_tryCall (protocol : Nat) (null : V) (connection : Connection V)
    (method : String) (params : V) :
    requestsOf (tryCall protocol null connection method params).written = [] ∨
      (requestsOf (tryCall protocol null connection method params).written =
          [⟨1, method, params⟩] ∧
        ¬ Unsent (tryCall protocol null connection method params).result) := by
  unfold tryCall
  split
  · exact .inl rfl
  split
  · exact .inl rfl
  split
  · exact .inl rfl
  split
  · exact .inl rfl
  · exact .inl rfl
  · exact .inl rfl
  split
  · exact .inr ⟨rfl, not_unsent_requestResponse null connection⟩
  · split <;> exact .inl rfl
  · exact .inl rfl

/-! ## The loop -/

/-- The loop takes at most the iterations it was given, and every attempt before the last one
left the request unsent, unless the method may be tried again. -/
theorem callWithAttempt_spec (attempt : Nat → Except TryCallFailure (Outcome V))
    (spawn : Nat → Except String Unit) (method : String) (left index : Nat) :
    index ≤ (callWithAttempt attempt spawn method left index).attempts ∧
      (callWithAttempt attempt spawn method left index).attempts ≤ index + left ∧
      ((methodPolicy method).retryAfterDelivery = false →
        ∀ earlier, index ≤ earlier →
          earlier + 1 < (callWithAttempt attempt spawn method left index).attempts →
            Unsent (attempt earlier)) := by
  induction left generalizing index with
  | zero => exact ⟨Nat.le_refl _, Nat.le_refl _, fun _ earlier hle hlt => by
      simp only [callWithAttempt] at hlt
      omega⟩
  | succ left ih =>
      -- What holds whichever way the loop goes on after an attempt that left the request unsent.
      have hagain (hunsent : (methodPolicy method).retryAfterDelivery = false →
          Unsent (attempt index)) (again : CallResult V)
          (heq : again = match spawn index with
            | .error error => ⟨.error error, index + 1⟩
            | .ok () => callWithAttempt attempt spawn method left (index + 1)) :
          index ≤ again.attempts ∧ again.attempts ≤ index + (left + 1) ∧
            ((methodPolicy method).retryAfterDelivery = false →
              ∀ earlier, index ≤ earlier → earlier + 1 < again.attempts →
                Unsent (attempt earlier)) := by
        subst heq
        cases spawn index with
        | error error =>
            dsimp only
            exact ⟨by omega, by omega, fun _ earlier hle hlt => by omega⟩
        | ok _ =>
            obtain ⟨hlower, hupper, hearlier⟩ := ih (index + 1)
            dsimp only
            refine ⟨by omega, by omega, fun hpolicy earlier hle hlt => ?_⟩
            rcases Nat.eq_or_lt_of_le hle with rfl | hlater
            · exact hunsent hpolicy
            · exact hearlier hpolicy earlier hlater hlt
      have hlast (result : Except String V) :
          index ≤ (⟨result, index + 1⟩ : CallResult V).attempts ∧
            (⟨result, index + 1⟩ : CallResult V).attempts ≤ index + (left + 1) ∧
            ((methodPolicy method).retryAfterDelivery = false →
              ∀ earlier, index ≤ earlier →
                earlier + 1 < (⟨result, index + 1⟩ : CallResult V).attempts →
                  Unsent (attempt earlier)) := by
        dsimp only
        exact ⟨by omega, by omega, fun _ earlier hle hlt => by omega⟩
      rw [callWithAttempt]
      dsimp only
      split
      · exact hlast _
      · exact hlast _
      · next hskew => exact hagain (fun _ => by rw [hskew]; trivial) _ rfl
      · next failure hfailure =>
          split
          · exact hlast _
          · split
            · exact hlast _
            · next hretry =>
                refine hagain (fun hpolicy => ?_) _ rfl
                rw [hfailure]
                show failure.phase = .beforeRequest
                cases hphase : failure.phase with
                | beforeRequest => rfl
                | requestMayHaveBeenDelivered => exact absurd ⟨hphase, hpolicy⟩ hretry

/-- Whatever connections, daemons and spawns a call of a method that is not declared
idempotent meets, of what its attempts write all daemons together dispatch the request at most
once, and nothing else. -/
theorem call_dispatched_at_most_once (protocol : Nat) (null : V)
    (connections : Nat → Connection V) (spawn : Nat → Except String Unit) (method : String)
    (params : V) (daemonProtocols writable : Nat → Nat) (received : Nat → List (ClientLine V))
    (hreceived : ∀ index, Received
      (tryCall protocol null (connections index) method params).written (received index))
    (hpolicy : (methodPolicy method).retryAfterDelivery = false) :
    ((List.range (call protocol null connections spawn method params).attempts).flatMap
        fun index => (serveConnection (daemonProtocols index) (writable index)
          (received index)).dispatched).Sublist [⟨1, method, params⟩] := by
  have hdispatched (index : Nat) := (dispatched_sublist (daemonProtocols index) (writable index)
    (received index)).trans (requestsOf_prefix_of_lines (hreceived index)).sublist
  obtain ⟨-, -, hearlier⟩ := callWithAttempt_spec
    (fun index => (tryCall protocol null (connections index) method params).result) spawn method 5 0
  rw [call]
  generalize (callWithAttempt _ spawn method 5 0).attempts = made at hearlier
  cases made with
  | zero => exact List.nil_sublist _
  | succ made =>
      -- Every attempt before the last one has failed before its request was sent.
      have hnone : (List.range made).flatMap (fun index => (serveConnection
          (daemonProtocols index) (writable index) (received index)).dispatched) = [] := by
        rw [List.flatMap_eq_nil_iff]
        intro index hindex
        have hunsent := hearlier hpolicy index (Nat.zero_le index)
          (by have := List.mem_range.mp hindex; omega)
        rcases requestsOf_tryCall protocol null (connections index) method params with
          hempty | ⟨-, hsent⟩
        · exact List.sublist_nil.mp (hempty ▸ hdispatched index)
        · exact absurd hunsent hsent
      rw [List.range_succ, List.flatMap_append, hnone, List.nil_append, List.flatMap_singleton]
      rcases requestsOf_tryCall protocol null (connections made) method params with
        hempty | ⟨hone, -⟩
      · exact (hempty ▸ hdispatched made).trans (List.nil_sublist _)
      · exact hone ▸ hdispatched made

/-- A connection that breaks once the request has been written. -/
def brokenAfterRequest : Connection Unit where
  connect := .ok ()
  options := .ok ()
  hello := .ok ()
  welcome := .line (.ok (some 68))
  exitFrame := .ok ()
  request := .ok ()
  responseTimeout := .ok ()
  response := .eof

/-- Every connection breaks after the daemon has read the request. -/
theorem channel_send_dispatched_at_most_once :
    ((List.range (call 68 () (fun _ => brokenAfterRequest) (fun _ => .ok ()) "channel_send"
        ()).attempts).flatMap
      fun _ => (serveConnection 68 2
        [.hello 68, .request ⟨1, "channel_send", ()⟩]).dispatched).Sublist
      [⟨1, "channel_send", ()⟩] :=
  call_dispatched_at_most_once 68 () (fun _ => brokenAfterRequest) (fun _ => .ok ())
    "channel_send" () (fun _ => 68) (fun _ => 2)
    (fun _ => [.hello 68, .request ⟨1, "channel_send", ()⟩])
    (fun _ => ⟨_, List.prefix_refl _, .inl rfl⟩) (by decide)

end Daemon

end Mosaico
