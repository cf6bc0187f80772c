import Mosaico.Concurrent.Replay
import Mosaico.Pty.Clients

/-!
# The output of an attached client

The output pump reads the terminal in chunks.  It first remembers a chunk in the
backlog and then fans it out to the attached clients.  The accept loop attaches a
client in three steps: it copies the backlog, writes the copy to the connection
and registers the client.  Copying and remembering take the lock of the backlog,
registering and fanning out that of the client set, and between any two of these
sections the other thread may run.

Beside what the program keeps, the state records the chunks that were remembered
and, for each client, which of them its copy and its fan-outs hold.
-/

namespace Mosaico

open Transition Concurrent

/-! ## The backlog -/

def backlogLimit : Nat := 256 * 1024

/-- `pop_front` while the backlog is over its limit. -/
def popFront : List UInt8 → List UInt8
  | [] => []
  | byte :: rest => if backlogLimit < (byte :: rest).length then popFront rest else byte :: rest

def remember (backlog bytes : List UInt8) : List UInt8 :=
  popFront (backlog ++ bytes)

/-! ## The connection of a client -/

/-- What a connection took, and whether a write to it has failed.  `copied` is the
number of chunks that had been remembered when the backlog was copied for it, and
`chunks` are the chunks that were fanned out to it. -/
structure ClientStream where
  received : List UInt8
  broken : Bool
  copied : Nat
  chunks : List Nat
  deriving DecidableEq, Repr

namespace ClientStream

def new (copied : Nat) : ClientStream := ⟨[], false, copied, []⟩

/-- `write_all` to a connection that takes `room` more bytes before it fails.  A
connection that failed once takes nothing. -/
def writeAll (stream : ClientStream) (bytes : List UInt8) (room : Nat) : ClientStream :=
  if stream.broken then stream
  else { stream with
    received := stream.received ++ bytes.take room
    broken := decide (room < bytes.length) }

def writeChunk (stream : ClientStream) (number : Nat) (bytes : List UInt8) (room : Nat) :
    ClientStream :=
  { stream.writeAll bytes room with chunks := stream.chunks ++ [number] }

/-- The connection took all of `bytes`, or the beginning of it before it failed. -/
structure Took (stream : ClientStream) (bytes : List UInt8) : Prop where
  start : stream.received <+: bytes
  whole : stream.broken = false → stream.received = bytes

theorem writeAll_copied (stream : ClientStream) (bytes : List UInt8) (room : Nat) :
    (stream.writeAll bytes room).copied = stream.copied := by
  unfold writeAll
  split <;> rfl

theorem writeAll_chunks (stream : ClientStream) (bytes : List UInt8) (room : Nat) :
    (stream.writeAll bytes room).chunks = stream.chunks := by
  unfold writeAll
  split <;> rfl

theorem Took.writeAll {stream : ClientStream} {sofar : List UInt8} (htook : stream.Took sofar)
    (bytes : List UInt8) (room : Nat) : (stream.writeAll bytes room).Took (sofar ++ bytes) := by
  unfold ClientStream.writeAll
  split
  · rename_i hbroken
    constructor
    · exact htook.start.trans (List.prefix_append _ _)
    · intro hwhole
      exact absurd hbroken (by simp [hwhole])
  · rename_i hwhole
    have hsofar : stream.received = sofar := htook.whole (by simpa using hwhole)
    constructor
    · rw [hsofar]
      exact (List.prefix_append_right_inj sofar).mpr (List.take_prefix room bytes)
    · intro hunbroken
      have hroom : bytes.length ≤ room := by simpa using hunbroken
      rw [hsofar, List.take_of_length_le hroom]

end ClientStream

/-! ## The pump and the accept loop -/

inductive PumpPhase where
  | reading
  /-- The chunk is remembered and not yet fanned out. -/
  | remembered (bytes : List UInt8)
  deriving DecidableEq, Repr

/-- The client that the accept loop is attaching: the copy of the backlog, and whether
it was written to the connection. -/
structure Attaching where
  client : Nat
  remembered : List UInt8
  sent : Bool
  deriving DecidableEq, Repr

/-- The output side of a supervisor.  `opened` counts the attachments so far, and
`output` is every chunk that was remembered. -/
structure TerminalOutput where
  backlog : List UInt8
  pump : PumpPhase
  clients : ClientSet
  attaching : Option Attaching
  opened : Nat
  streams : Nat → ClientStream
  output : List (List UInt8)

inductive OutputEvent where
  /-- The pump reads a chunk and remembers it. -/
  | remember (bytes : List UInt8)
  /-- The pump fans the chunk out; `room` is what each connection can take. -/
  | fanout (room : Nat → Nat) (now : Nat)
  | copyBacklog
  | sendBacklog (room : Nat)
  | register (now : Nat)
  /-- The reader thread of a client ended. -/
  | detach (client now : Nat)

namespace TerminalOutput

def start (now : Nat) : TerminalOutput where
  backlog := []
  pump := .reading
  clients := ClientSet.new now
  attaching := none
  opened := 0
  streams := fun _ => ClientStream.new 0
  output := []

/-- The size of the pump's buffer. -/
def chunkLimit : Nat := 8192

/-- The write of the fan-out loop to each client. -/
def writeChunks (streams : Nat → ClientStream) (entries : List Nat) (number : Nat)
    (bytes : List UInt8) (room : Nat → Nat) : Nat → ClientStream :=
  entries.foldl (fun streams client => Function.update streams client
    ((streams client).writeChunk number bytes (room client))) streams

/-- The clients that a fan-out drops. -/
def unwritable (terminal : TerminalOutput) (bytes : List UInt8) (room : Nat → Nat) : List Nat :=
  terminal.clients.entries.filter fun client =>
    ((terminal.streams client).writeAll bytes (room client)).broken

/-- One critical section of a thread.  There is no next state when the thread is not
there, or when the attachment epoch is exhausted. -/
def step (terminal : TerminalOutput) : OutputEvent → Option TerminalOutput
  | .remember bytes =>
      match terminal.pump with
      | .reading =>
          if bytes ≠ [] ∧ bytes.length ≤ chunkLimit then
            some { terminal with
              backlog := Mosaico.remember terminal.backlog bytes
              pump := .remembered bytes
              output := terminal.output ++ [bytes] }
          else none
      | .remembered _ => none
  | .fanout room now =>
      match terminal.pump with
      | .reading => none
      | .remembered bytes =>
          (terminal.clients.fanout (terminal.unwritable bytes room) now).map fun clients =>
            { terminal with
              pump := .reading
              clients := clients
              streams := writeChunks terminal.streams terminal.clients.entries
                (terminal.output.length - 1) bytes room }
  | .copyBacklog =>
      match terminal.attaching with
      | none =>
          some { terminal with
            attaching := some ⟨terminal.opened, terminal.backlog, false⟩
            opened := terminal.opened + 1
            streams := Function.update terminal.streams terminal.opened
              (ClientStream.new terminal.output.length) }
      | some _ => none
  | .sendBacklog room =>
      match terminal.attaching with
      | some attaching =>
          -- the outcome of the write is ignored; an empty copy is not written, which is
          -- the same as writing it
          if attaching.sent then none
          else some { terminal with
            attaching := some { attaching with sent := true }
            streams := Function.update terminal.streams attaching.client
              ((terminal.streams attaching.client).writeAll attaching.remembered room) }
      | none => none
  | .register now =>
      match terminal.attaching with
      | some attaching =>
          if attaching.sent then
            (terminal.clients.attachClient attaching.client now).map fun clients =>
              { terminal with clients := clients, attaching := none }
          else none
      | none => none
  | .detach client now =>
      (terminal.clients.detachClient client now).map fun clients =>
        { terminal with clients := clients }

def runEvents (terminal : TerminalOutput) (events : List OutputEvent) : Option TerminalOutput :=
  events.foldlM step terminal

/-! ## What one section does -/

variable {terminal next : TerminalOutput} {now client : Nat}

theorem step_remember {bytes : List UInt8} (hstep : terminal.step (.remember bytes) = some next) :
    terminal.pump = .reading ∧ next = { terminal with
      backlog := Mosaico.remember terminal.backlog bytes
      pump := .remembered bytes
      output := terminal.output ++ [bytes] } := by
  simp only [step] at hstep
  split at hstep
  · rename_i hreading
    split at hstep
    · cases hstep
      exact ⟨hreading, rfl⟩
    · cases hstep
  · cases hstep

theorem step_fanout {room : Nat → Nat} (hstep : terminal.step (.fanout room now) = some next) :
    ∃ bytes clients, terminal.pump = .remembered bytes ∧
      terminal.clients.fanout (terminal.unwritable bytes room) now = some clients ∧
      next = { terminal with
        pump := .reading
        clients := clients
        streams := writeChunks terminal.streams terminal.clients.entries
          (terminal.output.length - 1) bytes room } := by
  simp only [step] at hstep
  split at hstep
  · cases hstep
  · rename_i bytes hremembered
    obtain ⟨clients, hfanout, rfl⟩ := Option.map_eq_some_iff.mp hstep
    exact ⟨bytes, clients, hremembered, hfanout, rfl⟩

theorem step_copyBacklog (hstep : terminal.step .copyBacklog = some next) :
    terminal.attaching = none ∧ next = { terminal with
      attaching := some ⟨terminal.opened, terminal.backlog, false⟩
      opened := terminal.opened + 1
      streams := Function.update terminal.streams terminal.opened
        (ClientStream.new terminal.output.length) } := by
  simp only [step] at hstep
  split at hstep
  · rename_i hfree
    cases hstep
    exact ⟨hfree, rfl⟩
  · cases hstep

theorem step_sendBacklog {room : Nat} (hstep : terminal.step (.sendBacklog room) = some next) :
    ∃ attaching, terminal.attaching = some attaching ∧ attaching.sent = false ∧
      next = { terminal with
        attaching := some { attaching with sent := true }
        streams := Function.update terminal.streams attaching.client
          ((terminal.streams attaching.client).writeAll attaching.remembered room) } := by
  simp only [step] at hstep
  split at hstep
  · rename_i attaching hattaching
    split at hstep
    · cases hstep
    · rename_i hunsent
      cases hstep
      exact ⟨attaching, hattaching, by simpa using hunsent, rfl⟩
  · cases hstep

theorem step_register (hstep : terminal.step (.register now) = some next) :
    ∃ attaching clients, terminal.attaching = some attaching ∧ attaching.sent = true ∧
      terminal.clients.attachClient attaching.client now = some clients ∧
      next = { terminal with clients := clients, attaching := none } := by
  simp only [step] at hstep
  split at hstep
  · rename_i attaching hattaching
    split at hstep
    · rename_i hsent
      obtain ⟨clients, hattach, rfl⟩ := Option.map_eq_some_iff.mp hstep
      exact ⟨attaching, clients, hattaching, hsent, hattach, rfl⟩
    · cases hstep
  · cases hstep

theorem step_detach (hstep : terminal.step (.detach client now) = some next) :
    ∃ clients, terminal.clients.detachClient client now = some clients ∧
      next = { terminal with clients := clients } := by
  obtain ⟨clients, hdetach, rfl⟩ := Option.map_eq_some_iff.mp hstep
  exact ⟨clients, hdetach, rfl⟩

/-! ## The writes of the fan-out loop -/

theorem writeChunks_of_notMem (streams : Nat → ClientStream) {entries : List Nat}
    (hclient : client ∉ entries) (number : Nat) (bytes : List UInt8) (room : Nat → Nat) :
    writeChunks streams entries number bytes room client = streams client := by
  induction entries generalizing streams with
  | nil => rfl
  | cons entry rest ih =>
      rw [List.mem_cons, not_or] at hclient
      obtain ⟨hne, hrest⟩ := hclient
      rw [writeChunks, List.foldl_cons, ← writeChunks, ih _ hrest, Function.update_of_ne hne]

/-- A client that stands once among the entries is written to once. -/
theorem writeChunks_of_mem (streams : Nat → ClientStream) {entries : List Nat}
    (hnodup : entries.Nodup) (hclient : client ∈ entries) (number : Nat)
    (bytes : List UInt8) (room : Nat → Nat) :
    writeChunks streams entries number bytes room client =
      (streams client).writeChunk number bytes (room client) := by
  induction entries generalizing streams with
  | nil => cases hclient
  | cons entry rest ih =>
      obtain ⟨hfresh, hrest⟩ := List.nodup_cons.mp hnodup
      rw [writeChunks, List.foldl_cons, ← writeChunks]
      rcases List.mem_cons.mp hclient with rfl | hlater
      -- written first, and not again by the rest of the loop
      · rw [writeChunks_of_notMem _ hfresh, Function.update_self]
      · have hne : client ≠ entry := fun heq => hfresh (heq ▸ hlater)
        rw [ih _ hrest hlater, Function.update_of_ne hne]

/-! ## What holds in every state -/

/-- How many of the remembered chunks were fanned out. -/
def fannedOut (terminal : TerminalOutput) : Nat :=
  match terminal.pump with
  | .reading => terminal.output.length
  | .remembered _ => terminal.output.length - 1

/-- The backlog as of the instant at which so many chunks were remembered. -/
def backlogAt (terminal : TerminalOutput) (instant : Nat) : List UInt8 :=
  (terminal.output.take instant).foldl Mosaico.remember []

theorem fannedOut_le (terminal : TerminalOutput) :
    terminal.fannedOut ≤ terminal.output.length := by
  unfold fannedOut
  split
  · exact Nat.le_refl _
  · exact Nat.sub_le _ _

/-- The backlog of the past stays what it was. -/
theorem backlogAt_of_prefix {before after : TerminalOutput}
    (houtput : before.output <+: after.output) {instant : Nat} (hinstant : instant ≤ before.output.length) :
    after.backlogAt instant = before.backlogAt instant := by
  obtain ⟨later, hlater⟩ := houtput
  rw [backlogAt, ← hlater, List.take_append_of_le_length hinstant, backlogAt]

/-- The client that is being attached has the backlog of some instant, and nothing
else. -/
structure Prepared (terminal : TerminalOutput) (attaching : Attaching) : Prop where
  opened : attaching.client < terminal.opened
  fresh : attaching.client ∉ terminal.clients.entries
  copied_le : (terminal.streams attaching.client).copied ≤ terminal.output.length
  remembered :
    attaching.remembered = terminal.backlogAt (terminal.streams attaching.client).copied
  chunks : (terminal.streams attaching.client).chunks = []
  took : (terminal.streams attaching.client).Took
    (if attaching.sent then attaching.remembered else [])

/-- Steps that leave the client's connection alone keep it prepared. -/
theorem Prepared.frame {before after : TerminalOutput} {attaching : Attaching}
    (hprepared : before.Prepared attaching) (hopened : before.opened ≤ after.opened)
    (hentries : ∀ client ∈ after.clients.entries, client ∈ before.clients.entries)
    (hstream : after.streams attaching.client = before.streams attaching.client)
    (houtput : before.output <+: after.output) : after.Prepared attaching where
  opened := Nat.lt_of_lt_of_le hprepared.opened hopened
  fresh := fun hmem => hprepared.fresh (hentries _ hmem)
  copied_le := by
    rw [hstream]
    exact Nat.le_trans hprepared.copied_le houtput.length_le
  remembered := by
    rw [hstream, backlogAt_of_prefix houtput hprepared.copied_le]
    exact hprepared.remembered
  chunks := by
    rw [hstream]
    exact hprepared.chunks
  took := by
    rw [hstream]
    exact hprepared.took

structure Sound (terminal : TerminalOutput) : Prop where
  backlog : terminal.backlog = terminal.output.foldl Mosaico.remember []
  pending : ∀ bytes, terminal.pump = .remembered bytes →
    terminal.output[terminal.fannedOut]? = some bytes
  nodup : terminal.clients.entries.Nodup
  opened : ∀ client ∈ terminal.clients.entries, client < terminal.opened
  prepared : ∀ attaching, terminal.attaching = some attaching → terminal.Prepared attaching

theorem sound_start (now : Nat) : (start now).Sound where
  backlog := rfl
  pending := fun _ hpump => nomatch hpump
  nodup := List.nodup_nil
  opened := fun _ hmem => nomatch hmem
  prepared := fun _ hattaching => nomatch hattaching

/-- A client that is dropped or leaves takes nothing with it that the others need. -/
theorem Sound.retain (hsound : terminal.Sound) {keep : Nat → Bool}
    {clients : ClientSet} (hretain : terminal.clients.retain keep now = some clients) :
    ({ terminal with clients := clients } : TerminalOutput).Sound := by
  have hsub : ∀ client ∈ clients.entries, client ∈ terminal.clients.entries :=
    fun client hclient => ClientSet.mem_of_retain hretain hclient
  exact
    { backlog := hsound.backlog
      pending := hsound.pending
      nodup := by
        show clients.entries.Nodup
        rw [(ClientSet.retain_effect hretain).1]
        exact hsound.nodup.filter _
      opened := fun client hclient => hsound.opened client (hsub client hclient)
      prepared := fun attaching hattaching => (hsound.prepared attaching hattaching).frame
        (Nat.le_refl _) hsub rfl List.prefix_rfl }

theorem sound_step {event : OutputEvent}
    (hsound : terminal.Sound) (hstep : terminal.step event = some next) : next.Sound := by
  cases event with
  | remember bytes =>
      obtain ⟨-, rfl⟩ := step_remember hstep
      exact
        { backlog := by
            show Mosaico.remember terminal.backlog bytes = _
            rw [hsound.backlog, List.foldl_concat]
          pending := by
            rintro _ ⟨⟩
            show (terminal.output ++ [bytes])[(terminal.output ++ [bytes]).length - 1]? = _
            rw [List.length_append, List.length_singleton, Nat.add_sub_cancel]
            exact List.getElem?_concat_length
          nodup := hsound.nodup
          opened := hsound.opened
          prepared := fun attaching hattaching => (hsound.prepared attaching hattaching).frame
            (Nat.le_refl _) (fun _ hmem => hmem) rfl (List.prefix_append _ _) }
  | fanout room now =>
      obtain ⟨bytes, clients, hpump, hfanout, rfl⟩ := step_fanout hstep
      -- the loop writes to the entries only, and the client being attached is none of them
      obtain ⟨hbacklog, -, hnodup, hopened, hprepared⟩ := hsound.retain hfanout
      exact
        { backlog := hbacklog
          pending := fun _ hremembered => nomatch hremembered
          nodup := hnodup
          opened := hopened
          prepared := fun attaching hattaching => (hprepared attaching hattaching).frame
            (Nat.le_refl _) (fun _ hmem => hmem)
            (writeChunks_of_notMem _ (hsound.prepared attaching hattaching).fresh _ _ _)
            List.prefix_rfl }
  | copyBacklog =>
      obtain ⟨-, rfl⟩ := step_copyBacklog hstep
      -- every attached client has an earlier number than the new one
      have hfresh : terminal.opened ∉ terminal.clients.entries :=
        fun hmem => Nat.lt_irrefl _ (hsound.opened _ hmem)
      exact
        { backlog := hsound.backlog
          pending := hsound.pending
          nodup := hsound.nodup
          opened := fun client hclient => Nat.lt_succ_of_lt (hsound.opened client hclient)
          prepared := by
            rintro _ ⟨⟩
            constructor
            · exact Nat.lt_succ_self _
            · exact hfresh
            · simp [ClientStream.new]
            · simp [ClientStream.new, backlogAt, hsound.backlog]
            · simp [ClientStream.new]
            · simpa [ClientStream.new] using ⟨List.prefix_rfl, fun _ => rfl⟩ }
  | sendBacklog room =>
      obtain ⟨attaching, hattaching, hunsent, rfl⟩ := step_sendBacklog hstep
      obtain ⟨hopened, hfresh, hle, hremembered, hchunks, htook⟩ :=
        hsound.prepared attaching hattaching
      exact
        { backlog := hsound.backlog
          pending := hsound.pending
          nodup := hsound.nodup
          opened := hsound.opened
          prepared := by
            rintro _ ⟨⟩
            constructor
            · exact hopened
            · exact hfresh
            · simpa [ClientStream.writeAll_copied] using hle
            · simp only [Function.update_self, ClientStream.writeAll_copied]
              exact hremembered
            · simpa [ClientStream.writeAll_chunks] using hchunks
            · rw [hunsent] at htook
              simpa using htook.writeAll attaching.remembered room }
  | register now =>
      obtain ⟨attaching, clients, hattaching, -, hattach, rfl⟩ := step_register hstep
      have hprepared := hsound.prepared attaching hattaching
      have hentries := (ClientSet.attachClient_effect hattach).1
      exact
        { backlog := hsound.backlog
          pending := hsound.pending
          nodup := by
            show clients.entries.Nodup
            rw [hentries, ← List.concat_eq_append]
            exact hsound.nodup.concat hprepared.fresh
          opened := by
            intro client hclient
            rw [hentries, List.mem_append, List.mem_singleton] at hclient
            rcases hclient with hold | rfl
            · exact hsound.opened client hold
            · exact hprepared.opened
          prepared := fun _ hnone => nomatch hnone }
  | detach client now =>
      obtain ⟨clients, hdetach, rfl⟩ := step_detach hstep
      exact hsound.retain hdetach

/-! ## Streams without a gap -/

/-- The backlog as of an instant and the chunks that were remembered after it, as far as
they were fanned out. -/
def due (terminal : TerminalOutput) (instant : Nat) : List UInt8 :=
  terminal.backlogAt instant ++ ((terminal.output.take terminal.fannedOut).drop instant).flatten

/-- The client has the backlog as of one instant and behind it exactly the chunks that
were remembered after the instant, each once and in order.  A connection that failed
has the beginning of this. -/
structure Seamless (terminal : TerminalOutput) (client instant : Nat) : Prop where
  copied : (terminal.streams client).copied = instant
  follows : Follows instant terminal.fannedOut (terminal.streams client).chunks
  took : (terminal.streams client).Took (terminal.due instant)

/-- Every attached client has a seamless stream. -/
def AllSeamless (terminal : TerminalOutput) : Prop :=
  ∀ client ∈ terminal.clients.entries, ∃ instant, terminal.Seamless client instant

/-- Steps that fan nothing out and leave the connection alone keep a stream seamless. -/
theorem Seamless.frame {before after : TerminalOutput} {instant : Nat}
    (hseamless : before.Seamless client instant)
    (hstream : after.streams client = before.streams client)
    (hfannedOut : after.fannedOut = before.fannedOut)
    (houtput : before.output <+: after.output) : after.Seamless client instant := by
  obtain ⟨hcopied, hfollows, htook⟩ := hseamless
  have hle := before.fannedOut_le
  have hbacklog := backlogAt_of_prefix houtput (Nat.le_trans hfollows.cut_le hle)
  obtain ⟨later, hlater⟩ := houtput
  constructor
  · rw [hstream, hcopied]
  · rw [hstream, hfannedOut]
    exact hfollows
  · rw [hstream, due, hfannedOut, hbacklog, ← hlater, List.take_append_of_le_length hle]
    exact htook

/-- A chunk that is fanned out extends the streams of the attached clients. -/
theorem Seamless.fanout {room : Nat → Nat}
    (hsound : terminal.Sound) (hstep : terminal.step (.fanout room now) = some next)
    {instant : Nat} (hattached : client ∈ terminal.clients.entries)
    (hseamless : terminal.Seamless client instant) : next.Seamless client instant := by
  obtain ⟨bytes, clients, hpump, -, rfl⟩ := step_fanout hstep
  obtain ⟨hcopied, hfollows, htook⟩ := hseamless
  -- the chunk in the pump is the one entry of the output that is not fanned out
  have hchunk := hsound.pending bytes hpump
  have hnumber : terminal.fannedOut = terminal.output.length - 1 := by
    rw [fannedOut, hpump]
  have hlength : terminal.output.length = terminal.fannedOut + 1 := by
    have hlt := (List.getElem?_eq_some_iff.mp hchunk).1
    omega
  have hstream := writeChunks_of_mem terminal.streams hsound.nodup hattached
    (terminal.output.length - 1) bytes room
  constructor
  · show (writeChunks _ _ _ _ _ client).copied = instant
    rw [hstream, ClientStream.writeChunk, ClientStream.writeAll_copied, hcopied]
  · show Follows instant terminal.output.length (writeChunks _ _ _ _ _ client).chunks
    rw [hstream, ← hnumber, hlength]
    exact hfollows.concat
  · show (writeChunks _ _ _ _ _ client).Took (terminal.backlogAt instant ++
      ((terminal.output.take terminal.output.length).drop instant).flatten)
    rw [hstream, hlength, slice_succ hfollows.cut_le hchunk, List.flatten_append,
      List.flatten_singleton, ← List.append_assoc]
    have hwritten := htook.writeAll bytes (room client)
    exact ⟨hwritten.start, hwritten.whole⟩

/-- The chunks that were fanned out are those that the copy of the client holds. -/
def InStep (terminal : TerminalOutput) (attaching : Attaching) : Prop :=
  (terminal.streams attaching.client).copied = terminal.fannedOut

/-- A client that is registered has a seamless stream exactly if its copy holds what
was fanned out without it. -/
theorem seamless_register_iff {attaching : Attaching}
    (hprepared : terminal.Prepared attaching) (hsent : attaching.sent = true) :
    (∃ instant, terminal.Seamless attaching.client instant) ↔ terminal.InStep attaching := by
  constructor
  · rintro ⟨instant, hcopied, hfollows, -⟩
    rw [hprepared.chunks] at hfollows
    exact hcopied.trans (Follows.nil_iff.mp hfollows)
  · intro hinstep
    -- the instant of the copy and that of the registration hold the same chunks
    refine ⟨terminal.fannedOut, hinstep, ?_, ?_⟩
    · rw [hprepared.chunks]
      exact Follows.nil_iff.mpr rfl
    · have htook := hprepared.took
      rw [if_pos hsent, hprepared.remembered, hinstep] at htook
      have hnone : (terminal.output.take terminal.fannedOut).drop terminal.fannedOut = [] :=
        List.drop_eq_nil_of_le (List.length_take_le _ _)
      rw [due, hnone, List.flatten_nil, List.append_nil]
      exact htook

/-- The client that the step registers is in step. -/
def RegistersInStep (terminal : TerminalOutput) : OutputEvent → Prop
  | .register _ => ∀ attaching, terminal.attaching = some attaching → terminal.InStep attaching
  | _ => True

theorem allSeamless_step_iff {event : OutputEvent}
    (hsound : terminal.Sound) (hall : terminal.AllSeamless)
    (hstep : terminal.step event = some next) :
    next.AllSeamless ↔ terminal.RegistersInStep event := by
  -- but for a registration, a step keeps the streams of those who stay attached
  have hframe : (∀ client ∈ next.clients.entries, client ∈ terminal.clients.entries ∧
      ∀ instant, terminal.Seamless client instant → next.Seamless client instant) →
      next.AllSeamless := by
    intro hkept client hclient
    obtain ⟨hattached, hseamless⟩ := hkept client hclient
    obtain ⟨instant, hinstant⟩ := hall client hattached
    exact ⟨instant, hseamless instant hinstant⟩
  cases event with
  | remember bytes =>
      refine iff_of_true (hframe ?_) trivial
      obtain ⟨hpump, rfl⟩ := step_remember hstep
      intro client hclient
      refine ⟨hclient, fun instant hinstant => hinstant.frame rfl ?_ (List.prefix_append _ _)⟩
      -- the chunk is remembered, but not yet fanned out
      show (terminal.output ++ [bytes]).length - 1 = terminal.fannedOut
      rw [fannedOut, hpump, List.length_append]
      rfl
  | fanout room now =>
      refine iff_of_true (hframe ?_) trivial
      intro client hclient
      have hattached : client ∈ terminal.clients.entries := by
        obtain ⟨bytes, clients, -, hfanout, rfl⟩ := step_fanout hstep
        exact ClientSet.mem_of_retain hfanout hclient
      exact ⟨hattached, fun instant hinstant => hinstant.fanout hsound hstep hattached⟩
  | copyBacklog =>
      refine iff_of_true (hframe ?_) trivial
      obtain ⟨-, rfl⟩ := step_copyBacklog hstep
      intro client hclient
      refine ⟨hclient, fun instant hinstant => hinstant.frame ?_ rfl List.prefix_rfl⟩
      exact Function.update_of_ne (Nat.ne_of_lt (hsound.opened client hclient)) _ _
  | sendBacklog room =>
      refine iff_of_true (hframe ?_) trivial
      obtain ⟨attaching, hattaching, -, rfl⟩ := step_sendBacklog hstep
      have hfresh := (hsound.prepared attaching hattaching).fresh
      intro client hclient
      refine ⟨hclient, fun instant hinstant => hinstant.frame ?_ rfl List.prefix_rfl⟩
      have hne : client ≠ attaching.client := fun heq => hfresh (heq ▸ hclient)
      exact Function.update_of_ne hne _ _
  | register now =>
      obtain ⟨attaching, clients, hattaching, hsent, hattach, rfl⟩ := step_register hstep
      have hprepared := hsound.prepared attaching hattaching
      have hentries := (ClientSet.attachClient_effect hattach).1
      have hiff := seamless_register_iff hprepared hsent
      -- the others stay as they were, so the new client decides
      constructor
      · intro hnext other hother
        rw [hattaching] at hother
        cases hother
        have hmem : attaching.client ∈ clients.entries := by
          rw [hentries]
          exact List.mem_append_right _ (List.mem_singleton_self _)
        obtain ⟨instant, hinstant⟩ := hnext attaching.client hmem
        exact hiff.mp ⟨instant, hinstant.frame rfl rfl List.prefix_rfl⟩
      · intro hinstep client hclient
        have hmem : client ∈ clients.entries := hclient
        rw [hentries, List.mem_append, List.mem_singleton] at hmem
        have hseamless : ∃ instant, terminal.Seamless client instant := by
          rcases hmem with hold | rfl
          · exact hall client hold
          · exact hiff.mpr (hinstep attaching hattaching)
        obtain ⟨instant, hinstant⟩ := hseamless
        exact ⟨instant, hinstant.frame rfl rfl List.prefix_rfl⟩
  | detach client now =>
      refine iff_of_true (hframe ?_) trivial
      obtain ⟨clients, hdetach, rfl⟩ := step_detach hstep
      intro other hother
      refine ⟨ClientSet.mem_of_retain hdetach hother, ?_⟩
      exact fun instant hinstant => hinstant.frame rfl rfl List.prefix_rfl

/-- In a run of the supervisor every attached client always has the backlog as of one
instant followed by exactly the chunks remembered after it, exactly if each client is
registered at a moment when the chunks fanned out so far are those that had been
remembered when its backlog was copied. -/
theorem attached_seamless_iff (created : Nat) (events : List OutputEvent) :
    Always step (start created) events AllSeamless ↔
      EachStep step (start created) events RegistersInStep :=
  always_iff_eachStep (fun _ hmem => nomatch hmem) (sound_start created) sound_step
    allSeamless_step_iff

/-- A chunk is remembered and fanned out between the copy of the backlog and the
registration. -/
def chunkBetween : List OutputEvent :=
  [.copyBacklog, .sendBacklog 0, .remember [65], .fanout (fun _ => 0) 1, .register 2]

/-- The backlog is copied and the client registered between the remembering of a chunk
and its fan-out. -/
def attachBetween : List OutputEvent :=
  [.remember [65], .copyBacklog, .sendBacklog 1, .register 1, .fanout (fun _ => 1) 2]

/-- The first client never gets the only chunk, and the second one gets it twice. -/
theorem attach_loses_and_repeats :
    (∃ terminal, (start 0).runEvents chunkBetween = some terminal ∧
      terminal.clients.entries = [0] ∧ terminal.streams 0 = ⟨[], false, 0, []⟩ ∧
      (∀ instant, terminal.due instant = [65]) ∧ ¬ terminal.AllSeamless) ∧
    ∃ terminal, (start 0).runEvents attachBetween = some terminal ∧
      terminal.clients.entries = [0] ∧ terminal.streams 0 = ⟨[65, 65], false, 1, [0]⟩ ∧
      (∀ instant, terminal.due instant = [65]) ∧ ¬ terminal.AllSeamless := by
  have hall : ∀ terminal : TerminalOutput, terminal.clients.entries = [0] →
      (terminal.streams 0).broken = false →
      (∀ instant, terminal.due instant ≠ (terminal.streams 0).received) →
      ¬ terminal.AllSeamless := by
    intro terminal hentries hintact hdue hseamless
    obtain ⟨instant, hinstant⟩ := hseamless 0 (by simp [hentries])
    exact hdue instant (hinstant.took.whole hintact).symm
  have hdue : ∀ terminal : TerminalOutput, terminal.pump = .reading →
      terminal.output = [[65]] → ∀ instant, terminal.due instant = [65] := by
    intro terminal hpump houtput instant
    cases instant with
    | zero => simp [due, backlogAt, fannedOut, hpump, houtput]
    | succ later =>
        simp [due, backlogAt, fannedOut, hpump, houtput, Mosaico.remember, popFront, backlogLimit]
  constructor
  · refine ⟨_, rfl, rfl, rfl, hdue _ rfl rfl, hall _ rfl rfl ?_⟩
    intro instant
    rw [hdue _ rfl rfl]
    decide
  · refine ⟨_, rfl, rfl, rfl, hdue _ rfl rfl, hall _ rfl rfl ?_⟩
    intro instant
    rw [hdue _ rfl rfl]
    decide

end TerminalOutput

end Mosaico
