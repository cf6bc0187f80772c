import Mosaico.Concurrent.Fairness
import Mosaico.Rpc.Phases
import Mathlib.Data.Prod.Lex

/-!
# Every request comes to an end

Once the child has exited, the reader sees the end of the stream and fails what
it finds registered, and the writer fails at its next line and closes its queue,
so that a request waits for neither of them for ever.
-/

namespace Mosaico

namespace Rpc

open Transition

namespace Transport

variable {state : Transport} {index : Nat} {phase : Phase}

/-! ## The reader and the writer after the child's exit -/

/-- What the reader still has to do, in the order of its stages. -/
def readerRank (state : Transport) : ℕ ×ₗ ℕ :=
  match state.reader with
  | .reading => toLex (3, state.stdout.length)
  | .ended => toLex (2, 0)
  | .draining senders => toLex (1, senders.length)
  | .finished => toLex (0, 0)

/-- What the writer still has to do before it closes its queue, or else finds it empty. -/
def writerRank (state : Transport) : Nat :=
  match state.writer with
  | .closed => 0
  | .writing _ => 1
  | .idle =>
      match state.channel with
      | _ :: _ => 2
      | [] => 3

/-- The second state differs from the first in its requests, and at most by a line more in the
queue. -/
structure SameTasks (before after : Transport) : Prop where
  reader : after.reader = before.reader
  stdout : after.stdout = before.stdout
  writer : after.writer = before.writer
  exited : after.exited = before.exited
  channel : after.channel = before.channel ∨ ∃ line, after.channel = before.channel ++ [line]

theorem sameTasks_refl (state : Transport) : SameTasks state state :=
  ⟨rfl, rfl, rfl, rfl, Or.inl rfl⟩

theorem sameTasks_turn (other : Nat) (stale : Bool) : SameTasks state (state.turn other stale) := by
  unfold turn
  split
  · exact sameTasks_refl state
  · rename_i call _
    split
    · unfold register
      split
      · exact ⟨rfl, rfl, rfl, rfl, Or.inl rfl⟩
      · exact ⟨rfl, rfl, rfl, rfl, Or.inl rfl⟩
    · unfold sendLine
      split
      · exact ⟨rfl, rfl, rfl, rfl, Or.inl rfl⟩
      · split
        · exact ⟨rfl, rfl, rfl, rfl, Or.inr ⟨call.line, rfl⟩⟩
        · exact sameTasks_refl state
    · unfold receive
      split
      · exact ⟨rfl, rfl, rfl, rfl, Or.inl rfl⟩
      · split
        · exact sameTasks_refl state
        · exact ⟨rfl, rfl, rfl, rfl, Or.inl rfl⟩
    · exact ⟨rfl, rfl, rfl, rfl, Or.inl rfl⟩
    · exact sameTasks_refl state

theorem sameTasks_drop (other : Nat) (result : Option Outcome) :
    SameTasks state (state.drop other result) := by
  unfold drop
  split
  · exact sameTasks_refl state
  · split
    · exact ⟨rfl, rfl, rfl, rfl, Or.inl rfl⟩
    · exact sameTasks_refl state

theorem sameTasks_push (line : String) : SameTasks state (state.push line) := by
  unfold push
  split
  · exact sameTasks_refl state
  · split
    · exact ⟨rfl, rfl, rfl, rfl, Or.inr ⟨line, rfl⟩⟩
    · exact sameTasks_refl state

theorem SameTasks.deliver {before : Transport} (hsame : SameTasks before state)
    (other frame : Nat) (outcome : Outcome) :
    SameTasks before (state.deliver other frame outcome) := by
  unfold Transport.deliver
  split
  · exact hsame
  · split
    · exact ⟨hsame.reader, hsame.stdout, hsame.writer, hsame.exited, hsame.channel⟩
    · exact hsame

theorem sameTasks_readLine (codec : WireCodec) (line : String) :
    SameTasks state (state.readLine codec line) := by
  unfold readLine
  split
  · exact sameTasks_refl state
  · unfold dispatchInbound
    split
    · split
      · exact ⟨rfl, rfl, rfl, rfl, Or.inl rfl⟩
      · dsimp only
        refine SameTasks.deliver ?_ _ _ _
        exact ⟨rfl, rfl, rfl, rfl, Or.inl rfl⟩
    · exact ⟨rfl, rfl, rfl, rfl, Or.inl rfl⟩

namespace SameTasks

variable {before after : Transport}

theorem readerRank_eq (hsame : SameTasks before after) : after.readerRank = before.readerRank := by
  unfold readerRank
  rw [hsame.reader, hsame.stdout]

/-- A line more in the queue brings the writer no further from its end. -/
theorem writerRank_le (hsame : SameTasks before after) : after.writerRank ≤ before.writerRank := by
  unfold writerRank
  rw [hsame.writer]
  cases before.writer with
  | closed | writing held => exact Nat.le_refl _
  | idle =>
      rcases hsame.channel with heq | ⟨line, heq⟩
      · rw [heq]
      · rw [heq]
        cases before.channel with
        | nil => exact Nat.le_succ 2
        | cons first rest => exact Nat.le_refl _

end SameTasks

/-- Each turn of the reader brings it nearer to its end, until it is there. -/
theorem readerRank_read_lt (hexited : state.exited = true) (codec : WireCodec)
    (hunfinished : state.readerRank ≠ toLex (0, 0)) :
    (state.read codec).readerRank < state.readerRank := by
  unfold read
  split
  · rename_i hreader
    split
    · rename_i line rest hstdout
      rw [(sameTasks_readLine codec line).readerRank_eq]
      simp [readerRank, hreader, hstdout, Prod.Lex.toLex_lt_toLex]
    · rw [if_pos (by simp [hexited])]
      simp [readerRank, hreader, Prod.Lex.toLex_lt_toLex]
  · rename_i hreader
    simp [readerRank, hreader, Prod.Lex.toLex_lt_toLex]
  · rename_i hreader
    simp [readerRank, hreader, Prod.Lex.toLex_lt_toLex]
  · rename_i other rest hreader
    have hsend : ({ state with reader := .draining rest }.send other
        (.error .childExited)).readerRank = toLex (1, rest.length) := rfl
    rw [hsend]
    simp [readerRank, hreader, Prod.Lex.toLex_lt_toLex]
  · rename_i hreader
    refine absurd ?_ hunfinished
    simp [readerRank, hreader]

theorem reader_eq_finished (hrank : state.readerRank = toLex (0, 0)) :
    state.reader = .finished := by
  cases hreader : state.reader with
  | reading | ended | draining senders => simp [readerRank, hreader] at hrank
  | finished => rfl

theorem readerRank_read_le (hexited : state.exited = true) (codec : WireCodec) :
    (state.read codec).readerRank ≤ state.readerRank := by
  by_cases hunfinished : state.readerRank = toLex (0, 0)
  · have hread : state.read codec = state := by
      unfold read
      rw [reader_eq_finished hunfinished]
    rw [hread]
  · exact le_of_lt (readerRank_read_lt hexited codec hunfinished)

/-- The reader leaves the child and the writer alone. -/
theorem read_frame (codec : WireCodec) :
    (state.read codec).exited = state.exited ∧
      (state.read codec).writerRank ≤ state.writerRank := by
  unfold read
  split
  · split
    · rename_i line rest _
      have hsame : SameTasks { state with stdout := rest }
          ({ state with stdout := rest }.readLine codec line) := sameTasks_readLine codec line
      exact ⟨hsame.exited, hsame.writerRank_le⟩
    · split
      · exact ⟨rfl, Nat.le_refl _⟩
      · exact ⟨rfl, Nat.le_refl _⟩
  · exact ⟨rfl, Nat.le_refl _⟩
  · exact ⟨rfl, Nat.le_refl _⟩
  · exact ⟨rfl, Nat.le_refl _⟩
  · exact ⟨rfl, Nat.le_refl _⟩

/-- The writer leaves the child and the reader alone. -/
theorem write_frame (taken : Option Bool) :
    (state.write taken).exited = state.exited ∧
      (state.write taken).readerRank = state.readerRank := by
  unfold write
  split
  · split
    · exact ⟨rfl, rfl⟩
    · exact ⟨rfl, rfl⟩
  · split
    · exact ⟨rfl, rfl⟩
    · exact ⟨rfl, rfl⟩
    · exact ⟨rfl, rfl⟩
  · exact ⟨rfl, rfl⟩

/-- A write after the child's exit closes the queue; before it, the writer takes a line. -/
theorem writerRank_write_lt (hexited : state.exited = true) (taken : Option Bool)
    (hbusy : state.writerRank = 1 ∨ state.writerRank = 2) :
    (state.write taken).writerRank < state.writerRank := by
  unfold write
  split
  · rename_i hwriter
    split
    · rename_i hchannel
      simp [writerRank, hwriter, hchannel] at hbusy
    · rename_i line rest hchannel
      simp [writerRank, hwriter, hchannel]
  · rename_i line hwriter
    rw [if_pos hexited]
    simp [writerRank, hwriter]
  · rename_i hwriter
    simp [writerRank, hwriter] at hbusy

theorem writerRank_write_le (hexited : state.exited = true) (taken : Option Bool) :
    (state.write taken).writerRank ≤ state.writerRank := by
  by_cases hbusy : state.writerRank = 1 ∨ state.writerRank = 2
  · exact Nat.le_of_lt (writerRank_write_lt hexited taken hbusy)
  · refine Nat.le_of_eq ?_
    unfold write
    split
    · rename_i hwriter
      split
      · rfl
      · rename_i hchannel
        simp [writerRank, hwriter, hchannel] at hbusy
    · rename_i hwriter
      simp [writerRank, hwriter] at hbusy
    · rfl

/-- After the child's exit neither task gets further from its end, and the child stays dead. -/
theorem tasks_step (hexited : state.exited = true) (codec : WireCodec) (move : Move) :
    (state.step codec move).exited = true ∧
      (state.step codec move).readerRank ≤ state.readerRank ∧
      (state.step codec move).writerRank ≤ state.writerRank := by
  have hrequests : ∀ {after : Transport}, SameTasks state after →
      after.exited = true ∧ after.readerRank ≤ state.readerRank ∧
        after.writerRank ≤ state.writerRank := by
    intro after hsame
    exact ⟨hsame.exited.trans hexited, le_of_eq hsame.readerRank_eq, hsame.writerRank_le⟩
  cases move with
  | start method params => exact hrequests ⟨rfl, rfl, rfl, rfl, Or.inl rfl⟩
  | turn other stale => exact hrequests (sameTasks_turn other stale)
  | cancel other => exact hrequests (sameTasks_drop other none)
  | expire other => exact hrequests (sameTasks_drop other _)
  | push line => exact hrequests (sameTasks_push line)
  | write taken =>
      obtain ⟨hsame, hreader⟩ := write_frame taken
      exact ⟨hsame.trans hexited, le_of_eq hreader, writerRank_write_le hexited taken⟩
  | read =>
      obtain ⟨hsame, hwriter⟩ := read_frame codec
      exact ⟨hsame.trans hexited, readerRank_read_le hexited codec, hwriter⟩
  | print line =>
      have hnothing : state.step codec (.print line) = state := if_pos (by simp [hexited])
      rw [hnothing]
      exact hrequests (sameTasks_refl state)
  | hangUp => exact hrequests ⟨rfl, rfl, rfl, rfl, Or.inl rfl⟩
  | exit => exact ⟨rfl, le_refl _, Nat.le_refl _⟩
  | killed =>
      have hmarked : state.step codec .killed = { state with alive := false } := if_pos hexited
      rw [hmarked]
      exact hrequests ⟨rfl, rfl, rfl, rfl, Or.inl rfl⟩

/-! ## The end of a request -/

/-- What has to happen to the tasks before the next turn of the request is an advance. -/
def stageRank (state : Transport) : Phase → ℕ ×ₗ ℕ
  | .sending => toLex (0, state.writerRank)
  | .waiting => state.readerRank
  | _ => toLex (0, 0)

def rank (index : Nat) (state : Transport) : ℕ ×ₗ (ℕ ×ₗ ℕ) :=
  match state.phaseAt index with
  | some phase => toLex (phase.rank, state.stageRank phase)
  | none => toLex (0, toLex (0, 0))

theorem rank_of_phaseAt (hphase : state.phaseAt index = some phase) :
    rank index state = toLex (phase.rank, state.stageRank phase) := by
  unfold rank
  rw [hphase]

theorem stageRank_step_le (hexited : state.exited = true) (codec : WireCodec) (move : Move)
    (phase : Phase) : (state.step codec move).stageRank phase ≤ state.stageRank phase := by
  obtain ⟨_, hreader, hwriter⟩ := tasks_step hexited codec move
  cases phase with
  | sending =>
      show toLex (0, _) ≤ toLex (0, _)
      rw [Prod.Lex.toLex_le_toLex]
      exact Or.inr ⟨rfl, hwriter⟩
  | waiting => exact hreader
  | allocated | leaving result | left result => exact le_refl _

end Transport

/-- The tasks that a request depends on. -/
inductive Party where
  | request
  | writer
  | reader

def Party.moves (index : Nat) : Party → Move → Prop
  | .request, move => ∃ stale, move = .turn index stale
  | .writer, move => ∃ taken, move = .write taken
  | .reader, move => move = .read

namespace Transport

variable {state : Transport} {index : Nat} {phase : Phase}

/-- Whom a request in the given phase waits for, itself included. -/
def awaits (state : Transport) : Phase → Party
  | .sending =>
      if state.stageRank .sending = toLex (0, 1) ∨ state.stageRank .sending = toLex (0, 2) then
        .writer
      else .request
  | .waiting => if state.stageRank .waiting = toLex (0, 0) then .request else .reader
  | _ => .request

def helpful (index : Nat) (state : Transport) : Party :=
  match state.phaseAt index with
  | some phase => state.awaits phase
  | none => .request

theorem awaits_congr {first second : Transport} (phase : Phase)
    (hstage : second.stageRank phase = first.stageRank phase) :
    second.awaits phase = first.awaits phase := by
  cases phase with
  | sending | waiting =>
      unfold awaits
      rw [hstage]
  | allocated | leaving result | left result => rfl

/-- A request of a child that has exited. -/
structure Orphaned (index : Nat) (state : Transport) : Prop where
  sound : Sound state
  exited : state.exited = true
  started : ∃ phase, state.phaseAt index = some phase

def Ended (index : Nat) (state : Transport) : Prop :=
  ∃ result, state.phaseAt index = some (.left result)

/-- A turn that a request does not have to wait for is an advance. -/
theorem advance_turn (horphaned : Orphaned index state)
    (hphase : state.phaseAt index = some phase) (hready : state.awaits phase = .request)
    (hstays : ∀ result, phase ≠ .left result) (stale : Bool) :
    ∃ next, (state.turn index stale).phaseAt index = some next ∧ Advance phase next := by
  rcases phaseAt_turn horphaned.sound hphase stale with hsame | hnext
  · obtain ⟨call, hcall, hcallPhase⟩ := phaseAt_eq_some.mp hphase
    have hmoved : ∀ next, next ≠ phase →
        (state.setPhase index next).phaseAt index ≠ some phase := by
      intro next hne heq
      rw [phaseAt_setPhase hcall] at heq
      exact hne (Option.some.inj heq)
    exfalso
    unfold turn at hsame
    rw [hcall] at hsame
    simp only at hsame
    rw [hcallPhase] at hsame
    cases phase with
    | allocated =>
        simp only [register] at hsame
        split at hsame
        · exact hmoved .sending (by simp) hsame
        · exact hmoved _ (by simp) hsame
    | sending =>
        simp only [sendLine] at hsame
        split at hsame
        · exact hmoved _ (by simp) hsame
        · rename_i hopen
          split at hsame
          · exact hmoved .waiting (by simp) hsame
          · -- A writer that is neither closed nor busy has an empty queue.
            rename_i hfull
            cases hwriter : state.writer with
            | closed => exact hopen hwriter
            | writing line => simp [awaits, stageRank, writerRank, hwriter] at hready
            | idle =>
                cases hchannel : state.channel with
                | nil => simp [hchannel, channelCapacity] at hfull
                | cons line rest =>
                    simp [awaits, stageRank, writerRank, hwriter, hchannel] at hready
    | waiting =>
        have hdone : state.readerRank = toLex (0, 0) := by
          by_contra hunfinished
          simp [awaits, stageRank, hunfinished] at hready
        have hfinished := reader_eq_finished hdone
        have hempty := horphaned.sound.registered.drained (by simp [hfinished, Reader.drained])
        -- Nobody holds its sender any more: the channel is written or cut off.
        simp only [receive] at hsame
        split at hsame
        · exact hmoved _ (by simp) hsame
        · split at hsame
          · rename_i hlives
            simp [senderLives, hempty, hfinished, Reader.senders] at hlives
          · exact hmoved _ (by simp) hsame
    | leaving result => exact hmoved (.left result) (by simp) hsame
    | left result => exact hstays result rfl
  · exact hnext

theorem rank_lt_of_phase {after : Transport} {next : Phase}
    (hphase : state.phaseAt index = some phase) (hnext : after.phaseAt index = some next)
    (hlt : next.rank < phase.rank) : rank index after < rank index state := by
  rw [rank_of_phaseAt hphase, rank_of_phaseAt hnext, Prod.Lex.toLex_lt_toLex]
  exact Or.inl hlt

theorem rank_lt_of_stage {after : Transport} (hphase : state.phaseAt index = some phase)
    (hsame : after.phaseAt index = some phase)
    (hlt : after.stageRank phase < state.stageRank phase) :
    rank index after < rank index state := by
  rw [rank_of_phaseAt hphase, rank_of_phaseAt hsame, Prod.Lex.toLex_lt_toLex]
  exact Or.inr ⟨rfl, hlt⟩

/-- A move that changes the phase of a request makes its rank smaller. -/
theorem phaseAt_step_or_rank_lt (hsound : Sound state)
    (hphase : state.phaseAt index = some phase) (codec : WireCodec) (move : Move) :
    (state.step codec move).phaseAt index = some phase ∨
      ∃ next, (state.step codec move).phaseAt index = some next ∧ next.rank < phase.rank := by
  have hleaving : phase.receives = true → ∀ result, (Phase.leaving result).rank < phase.rank := by
    intro hreceives result
    cases phase with
    | sending => exact Nat.one_lt_succ_succ 1
    | waiting => exact Nat.one_lt_two
    | allocated | leaving given | left given => cases hreceives
  rcases phaseAt_step hsound hphase codec move with
    hsame | ⟨next, hnext, hadvance⟩ | ⟨hreceives, ⟨_, hnext⟩ | ⟨_, hnext⟩⟩
  · exact Or.inl hsame
  · exact Or.inr ⟨next, hnext, hadvance.rank_lt⟩
  · exact Or.inr ⟨_, hnext, hleaving hreceives none⟩
  · exact Or.inr ⟨_, hnext, hleaving hreceives _⟩

theorem orphaned_step (horphaned : Orphaned index state) (codec : WireCodec) (move : Move) :
    Orphaned index (state.step codec move) := by
  obtain ⟨phase, hphase⟩ := horphaned.started
  refine ⟨horphaned.sound.step codec move, (tasks_step horphaned.exited codec move).1, ?_⟩
  rcases phaseAt_step_or_rank_lt horphaned.sound hphase codec move with hsame | ⟨next, hnext, _⟩
  · exact ⟨phase, hsame⟩
  · exact ⟨next, hnext⟩

/-- No move takes an orphaned request further from its end, and while none brings it nearer it waits
for the same task. -/
theorem rank_step (horphaned : Orphaned index state) (codec : WireCodec) (move : Move) :
    rank index (state.step codec move) < rank index state ∨
      (rank index (state.step codec move) = rank index state ∧
        helpful index (state.step codec move) = helpful index state) := by
  obtain ⟨phase, hphase⟩ := horphaned.started
  rcases phaseAt_step_or_rank_lt horphaned.sound hphase codec move with
    hsame | ⟨next, hnext, hlt⟩
  · rcases lt_or_eq_of_le (stageRank_step_le horphaned.exited codec move phase) with hlt | hstage
    · exact Or.inl (rank_lt_of_stage hphase hsame hlt)
    · refine Or.inr ⟨?_, ?_⟩
      · rw [rank_of_phaseAt hphase, rank_of_phaseAt hsame, hstage]
      · unfold helpful
        rw [hphase, hsame]
        exact awaits_congr phase hstage
  · exact Or.inl (rank_lt_of_phase hphase hnext hlt)

/-- The writer is awaited by a request with a line to queue, while it is at work. -/
theorem awaits_eq_writer (hawaits : state.awaits phase = .writer) :
    phase = .sending ∧ (state.writerRank = 1 ∨ state.writerRank = 2) := by
  cases phase with
  | sending =>
      refine ⟨rfl, ?_⟩
      by_contra hidle
      simp [awaits, stageRank, hidle] at hawaits
  | waiting =>
      simp only [awaits] at hawaits
      split at hawaits
      · cases hawaits
      · cases hawaits
  | allocated | leaving result | left result => cases hawaits

/-- The reader is awaited by a request that waits for its response, until it has finished. -/
theorem awaits_eq_reader (hawaits : state.awaits phase = .reader) :
    phase = .waiting ∧ state.readerRank ≠ toLex (0, 0) := by
  cases phase with
  | waiting =>
      refine ⟨rfl, ?_⟩
      intro hdone
      simp [awaits, stageRank, hdone] at hawaits
  | sending =>
      simp only [awaits] at hawaits
      split at hawaits
      · cases hawaits
      · cases hawaits
  | allocated | leaving result | left result => cases hawaits

/-- The task that an orphaned request waits for brings it nearer to its end. -/
theorem rank_step_of_helpful (horphaned : Orphaned index state) (hunended : ¬ Ended index state)
    (codec : WireCodec) {move : Move} (hmove : (helpful index state).moves index move) :
    rank index (state.step codec move) < rank index state := by
  obtain ⟨phase, hphase⟩ := horphaned.started
  have hhelpful : helpful index state = state.awaits phase := by
    unfold helpful
    rw [hphase]
  rw [hhelpful] at hmove
  cases hawaits : state.awaits phase with
  | request =>
      rw [hawaits] at hmove
      obtain ⟨stale, rfl⟩ := hmove
      have hstays : ∀ result, phase ≠ .left result := by
        rintro result rfl
        exact hunended ⟨result, hphase⟩
      obtain ⟨next, hnext, hadvance⟩ := advance_turn horphaned hphase hawaits hstays stale
      exact rank_lt_of_phase hphase hnext hadvance.rank_lt
  | writer =>
      rw [hawaits] at hmove
      obtain ⟨taken, rfl⟩ := hmove
      obtain ⟨rfl, hbusy⟩ := awaits_eq_writer hawaits
      -- The write changes no phase; it brings the writer nearer to closing its queue.
      refine rank_lt_of_stage hphase ((phaseAt_write taken).trans hphase) ?_
      show toLex (0, _) < toLex (0, _)
      rw [Prod.Lex.toLex_lt_toLex]
      exact Or.inr ⟨rfl, writerRank_write_lt horphaned.exited taken hbusy⟩
  | reader =>
      rw [hawaits] at hmove
      cases hmove
      obtain ⟨rfl, hunfinished⟩ := awaits_eq_reader hawaits
      exact rank_lt_of_stage hphase ((phaseAt_read codec).trans hphase)
        (readerRank_read_lt horphaned.exited codec hunfinished)

theorem progress (codec : WireCodec) (index : Nat) :
    Concurrent.Progress (step codec) (Party.moves index) (Orphaned index) (Ended index)
      (rank index) (helpful index) where
  keep := fun _ move horphaned => orphaned_step horphaned codec move
  steady := fun _ move horphaned _ => Or.inr (rank_step horphaned codec move)
  help := fun _ _ horphaned hunended hmove =>
    Or.inr (rank_step_of_helpful horphaned hunended codec hmove)

/-! ## Whole runs -/

/-- The outcome is what the response under the request's id carries, and the request received that
response. -/
def ItsResponse (state : Transport) (index : Nat) (outcome : Outcome) : Prop :=
  ∃ (frame : Nat) (call : Call) (result : Except RpcErrorObject Json),
    (frame, index) ∈ state.deliveries ∧ state.calls[index]? = some call ∧
      state.frames[frame]? = some (.response call.id result) ∧ outcome = result.mapError .protocol

/-- What holds after the given moves: each response went to one request at most, the one that
allocated its id; a request ends with its response, with the child's exit, or because it was
dropped; and no registration is left behind. -/
structure Correlated (moves : List Move) (state : Transport) : Prop where
  responses_once : (state.deliveries.map Prod.fst).Nodup
  requests_once : (state.deliveries.map Prod.snd).Nodup
  owned : ∀ frame index : Nat, (frame, index) ∈ state.deliveries →
    ∃ (call : Call) (result : Except RpcErrorObject Json), state.calls[index]? = some call ∧
      state.frames[frame]? = some (.response call.id result) ∧
      ∀ (other : Nat) (holder : Call), state.calls[other]? = some holder →
        holder.id = call.id → other = index
  outcomes : ∀ (index : Nat) (phase : Phase) (outcome : Outcome),
    state.phaseAt index = some phase → phase.result? = some outcome →
      outcome = .error .childExited ∨ (outcome = .error .timeout ∧ .expire index ∈ moves) ∨
        state.ItsResponse index outcome
  dropped : ∀ index, state.phaseAt index = some (.left none) → .cancel index ∈ moves
  outstanding : ∀ (id : Int) (index : Nat), state.pending.lookup id = some index →
    ∃ phase, state.phaseAt index = some phase ∧ ∀ result, phase ≠ .left result
  empty : (∀ call ∈ state.calls, ∃ result, call.phase = .left result) → state.pending = ∅

theorem Registered.outstanding (hregistered : Registered state) {id : Int}
    (hlookup : state.pending.lookup id = some index) :
    ∃ phase, state.phaseAt index = some phase ∧ ∀ result, phase ≠ .left result := by
  obtain ⟨call, hcall, _, hstill, _⟩ := hregistered.owner id index hlookup
  refine ⟨call.phase, phaseAt_eq_some.mpr ⟨call, hcall, rfl⟩, ?_⟩
  intro result hleft
  rw [hleft] at hstill
  cases hstill

theorem Registered.pending_eq_empty (hregistered : Registered state)
    (hleft : ∀ call ∈ state.calls, ∃ result, call.phase = .left result) : state.pending = ∅ := by
  refine AList.ext ?_
  refine List.eq_nil_iff_forall_not_mem.mpr ?_
  rintro ⟨id, index⟩ hentry
  obtain ⟨phase, hphase, houtstanding⟩ :=
    hregistered.outstanding (AList.mem_lookup_iff.mpr hentry)
  obtain ⟨call, hcall, rfl⟩ := phaseAt_eq_some.mp hphase
  obtain ⟨result, hresult⟩ := hleft call (List.mem_of_getElem? hcall)
  exact houtstanding result hresult

theorem Sound.itsResponse (hsound : Sound state) {call : Call}
    (hcall : state.calls[index]? = some call) {outcome : Outcome}
    (hslot : call.slot = some outcome) :
    outcome = .error .childExited ∨ state.ItsResponse index outcome := by
  rcases hsound.answered.slots index call outcome hcall hslot with hexited | ⟨frame, hdelivery⟩
  · exact Or.inl hexited
  · obtain ⟨receiver, result, hreceiver, hframe, hgiven⟩ :=
      hsound.answered.delivered frame index hdelivery
    rw [hcall] at hreceiver
    cases hreceiver
    rw [hslot] at hgiven
    exact Or.inr ⟨frame, call, result, hdelivery, hcall, hframe, Option.some.inj hgiven⟩

theorem correlated_run (codec : WireCodec) (moves : List Move) :
    Correlated moves (run (step codec) initial moves) := by
  have hsound := sound_run codec moves
  exact
    { responses_once := hsound.answered.frames_nodup
      requests_once := hsound.answered.calls_nodup
      owned := by
        intro frame index hdelivery
        obtain ⟨call, result, hcall, hframe, _⟩ :=
          hsound.answered.delivered frame index hdelivery
        refine ⟨call, result, hcall, hframe, ?_⟩
        intro other holder hholder hid
        rw [hsound.registered.id_eq other holder hholder,
          hsound.registered.id_eq index call hcall] at hid
        omega
      outcomes := by
        intro index phase outcome hphase hresult
        obtain ⟨call, hcall, rfl⟩ := phaseAt_eq_some.mp hphase
        rcases hsound.answered.results index call outcome hcall hresult with
          hexited | htimeout | hslot
        · exact Or.inl hexited
        · rw [htimeout] at hresult
          exact Or.inr (Or.inl ⟨htimeout, (causes_run codec moves hphase).2 hresult⟩)
        · rcases hsound.itsResponse hcall hslot with hexited | hits
          · exact Or.inl hexited
          · exact Or.inr (Or.inr hits)
      dropped := fun index hleft => (causes_run codec moves hleft).1 (Or.inr rfl)
      outstanding := fun id index hlookup => hsound.registered.outstanding hlookup
      empty := hsound.registered.pending_eq_empty }

end Transport

/-- In every interleaving responses reach the requests that they belong to and registrations end
with their requests.  Under a schedule that is fair to the reader, the writer and a request, the
request ends once the child has exited, unless its caller drops it: with its response, with
`ChildExited`, or at its own deadline. -/
theorem requests_resolve (codec : WireCodec) :
    (∀ moves : List Move, Transport.Correlated moves (run (Transport.step codec) .initial moves)) ∧
    ∀ (schedule : Nat → Move) (index : Nat),
      (∀ party, Concurrent.Recurs schedule (Party.moves index party)) →
      (∃ time, schedule time = .exit) → (∀ time, schedule time ≠ .cancel index) →
      let stateAt := Concurrent.stateAt (Transport.step codec) .initial schedule
      ∀ (time : Nat) (phase : Phase), (stateAt time).phaseAt index = some phase →
        ∃ later outcome, time ≤ later ∧
          (stateAt later).phaseAt index = some (.left (some outcome)) ∧
          (outcome = .error .childExited ∨
            (outcome = .error .timeout ∧ ∃ earlier, schedule earlier = .expire index) ∨
            (stateAt later).ItsResponse index outcome) := by
  refine ⟨Transport.correlated_run codec, ?_⟩
  intro schedule index hfair hexit hkept stateAt time phase hphase
  obtain ⟨exit, hexit⟩ := hexit
  have hsound : ∀ instant, Transport.Sound (stateAt instant) := by
    intro instant
    show Transport.Sound (Concurrent.stateAt _ _ _ instant)
    rw [Concurrent.stateAt_eq_run]
    exact Transport.sound_run codec _
  -- From then on the child has exited and the request is there.
  have hexited : (stateAt (max time (exit + 1))).exited = true := by
    have hnow : (stateAt (exit + 1)).exited = true := by
      show (Transport.step codec (stateAt exit) (schedule exit)).exited = true
      rw [hexit]
      rfl
    exact Concurrent.stateAt_invariant (I := fun state : Transport => state.exited = true)
      (fun state move hdead => (Transport.tasks_step hdead codec move).1) (le_max_right _ _) hnow
  have hstarted : Transport.Sound (stateAt (max time (exit + 1))) ∧
      ∃ phase, (stateAt (max time (exit + 1))).phaseAt index = some phase := by
    refine Concurrent.stateAt_invariant (I := fun state : Transport => Transport.Sound state ∧
      ∃ phase, state.phaseAt index = some phase) ?_ (le_max_left _ _) ⟨hsound time, phase, hphase⟩
    rintro state move ⟨hstate, current, hcurrent⟩
    refine ⟨hstate.step codec move, ?_⟩
    rcases Transport.phaseAt_step_or_rank_lt hstate hcurrent codec move with
      hsame | ⟨next, hnext, _⟩
    · exact ⟨current, hsame⟩
    · exact ⟨next, hnext⟩
  obtain ⟨later, hlater, result, hended⟩ :=
    (Transport.progress codec index).eventually hfair (max time (exit + 1))
      ⟨hstarted.1, hexited, hstarted.2⟩
  have hcorrelated := Transport.correlated_run codec ((List.range later).map schedule)
  rw [← Concurrent.stateAt_eq_run] at hcorrelated
  have hended : (stateAt later).phaseAt index = some (.left result) := hended
  cases result with
  | none =>
      obtain ⟨instant, _, hcancel⟩ := List.mem_map.mp (hcorrelated.dropped index hended)
      exact absurd hcancel (hkept instant)
  | some outcome =>
      refine ⟨later, outcome, (le_max_left _ _).trans hlater, hended, ?_⟩
      rcases hcorrelated.outcomes index _ outcome hended rfl with
        hexited | ⟨htimeout, hexpire⟩ | hits
      · exact Or.inl hexited
      · obtain ⟨instant, _, hexpire⟩ := List.mem_map.mp hexpire
        exact Or.inr (Or.inl ⟨htimeout, instant, hexpire⟩)
      · exact Or.inr (Or.inr hits)

/-- A request is registered, the child exits without a response, and then all parties take turns. -/
def silentChild : Nat → Move
  | 0 => .start "prompt" .null
  | 1 => .turn 0 false
  | 2 => .exit
  | time + 3 => if time % 3 = 0 then .turn 0 false else if time % 3 = 1 then .write none else .read

theorem requests_resolve_silentChild :
    ∃ later outcome, 1 ≤ later ∧
      (Concurrent.stateAt (Transport.step ⟨fun _ => none, fun _ => "", fun _ => none⟩) .initial
        silentChild later).phaseAt 0 = some (.left (some outcome)) := by
  have hfair : ∀ party, Concurrent.Recurs silentChild (Party.moves 0 party) := by
    intro party time
    cases party with
    | request => exact ⟨3 * time + 3, by omega, false, by simp [silentChild]⟩
    | writer => exact ⟨3 * time + 1 + 3, by omega, none, by simp [silentChild, Nat.add_mod]⟩
    | reader =>
        refine ⟨3 * time + 2 + 3, by omega, ?_⟩
        simp [Party.moves, silentChild, Nat.add_mod]
  have hkept : ∀ time, silentChild time ≠ .cancel 0 := by
    intro time
    match time with
    | 0 | 1 | 2 => simp [silentChild]
    | time + 3 =>
        simp only [silentChild]
        split_ifs <;> simp
  obtain ⟨later, outcome, hlater, hleft, _⟩ :=
    (requests_resolve ⟨fun _ => none, fun _ => "", fun _ => none⟩).2 silentChild 0 hfair
      ⟨2, rfl⟩ hkept 1 .allocated rfl
  exact ⟨later, outcome, hlater, hleft⟩

end Rpc

end Mosaico
