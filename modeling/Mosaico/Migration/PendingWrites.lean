import Mathlib.Data.List.Nodup
import Mathlib.Data.List.Sort
import Mosaico.Storage.Files
import Mosaico.Transition.Run

/-!
# The pending writes of schema 7

Schema 7 kept the signed events that were not published yet in its `outbox` table.  The
migration to schema 8 copies the pending rows into a journal file beside the database and
then drops the table; the daemon later enqueues the rows of the journal in the durable
write queue and shortens the journal.

The three stores share no transaction.  A process can end, fail or lose power between any
two writes, and the next one begins again with what it finds.  The database is in WAL mode
with relaxed sync, so that a power loss may take back a schema change that was committed.
-/

namespace Mosaico

open Storage (File)

/-! ## The merge -/

/-- `rows.retain(|row| seen.insert(row))`: the rows that come for the first time. -/
def retainUnseen : List String → List String → List String
  | _, [] => []
  | seen, row :: rest =>
      if row ∈ seen then retainUnseen seen rest else row :: retainUnseen (row :: seen) rest

/-- The rows that `merge_pending_writes` writes over a journal. -/
def mergePendingWrites (journal rows : List String) : List String :=
  retainUnseen [] (journal ++ rows)

theorem mem_retainUnseen {seen rows : List String} {row : String} :
    row ∈ retainUnseen seen rows ↔ row ∈ rows ∧ row ∉ seen := by
  induction rows generalizing seen with
  | nil => simp [retainUnseen]
  | cons first rest ih =>
      rw [retainUnseen]
      split_ifs with hseen
      · rw [ih, List.mem_cons]
        constructor
        · exact fun h => ⟨Or.inr h.1, h.2⟩
        · rintro ⟨rfl | hrest, hnew⟩
          · exact absurd hseen hnew
          · exact ⟨hrest, hnew⟩
      · rw [List.mem_cons, ih, List.mem_cons, List.mem_cons]
        constructor
        · rintro (rfl | ⟨hrest, hnew⟩)
          · exact ⟨Or.inl rfl, hseen⟩
          · exact ⟨Or.inr hrest, fun h => hnew (Or.inr h)⟩
        · rintro ⟨rfl | hrest, hnew⟩
          · exact Or.inl rfl
          · by_cases hfirst : row = first
            · exact Or.inl hfirst
            · exact Or.inr ⟨hrest, by simp [hfirst, hnew]⟩

theorem nodup_retainUnseen (seen rows : List String) : (retainUnseen seen rows).Nodup := by
  induction rows generalizing seen with
  | nil => exact List.nodup_nil
  | cons first rest ih =>
      rw [retainUnseen]
      split_ifs with hseen
      · exact ih seen
      · refine List.nodup_cons.mpr ⟨?_, ih (first :: seen)⟩
        intro hmem
        exact (mem_retainUnseen.mp hmem).2 List.mem_cons_self

/-- The rows stay in their order. -/
theorem retainUnseen_sublist (seen rows : List String) : (retainUnseen seen rows).Sublist rows := by
  induction rows generalizing seen with
  | nil => exact List.Sublist.slnil
  | cons first rest ih =>
      rw [retainUnseen]
      split_ifs with hseen
      · exact (ih seen).cons first
      · exact (ih (first :: seen)).cons_cons first

/-- What comes behind a front that has been seen already. -/
theorem retainUnseen_behind {seen rows front back : List String}
    (hrows : retainUnseen seen rows = front ++ back) :
    retainUnseen (front.reverse ++ seen) rows = back := by
  induction rows generalizing seen front with
  | nil => exact (List.append_eq_nil_iff.mp hrows.symm).2.symm
  | cons first rest ih =>
      rw [retainUnseen] at hrows
      by_cases hseen : first ∈ seen
      · rw [if_pos hseen] at hrows
        rw [retainUnseen, if_pos (List.mem_append_right _ hseen)]
        exact ih hrows
      · rw [if_neg hseen] at hrows
        cases front with
        | nil =>
            rw [List.reverse_nil, List.nil_append, retainUnseen, if_neg hseen]
            exact hrows
        | cons head front =>
            obtain ⟨rfl, hrest⟩ := List.cons.inj hrows
            rw [retainUnseen, if_pos (by simp), List.reverse_cons, List.append_assoc]
            exact ih hrest

/-- Rows that are all new come first, as they are. -/
theorem retainUnseen_append {seen front rows : List String} (hnodup : front.Nodup)
    (hnew : ∀ row ∈ front, row ∉ seen) :
    retainUnseen seen (front ++ rows) = front ++ retainUnseen (front.reverse ++ seen) rows := by
  induction front generalizing seen with
  | nil => rfl
  | cons first front ih =>
      obtain ⟨hfirst, hfront⟩ := List.nodup_cons.mp hnodup
      have hrest : ∀ row ∈ front, row ∉ first :: seen := by
        intro row hrow hmem
        rcases List.mem_cons.mp hmem with rfl | hseen
        · exact hfirst hrow
        · exact hnew row (List.mem_cons_of_mem first hrow) hseen
      rw [List.cons_append, retainUnseen, if_neg (hnew first List.mem_cons_self), ih hfront hrest,
        List.reverse_cons, List.append_assoc]
      rfl

theorem retainUnseen_eq_nil {seen rows : List String} (hseen : ∀ row ∈ rows, row ∈ seen) :
    retainUnseen seen rows = [] := by
  rw [List.eq_nil_iff_forall_not_mem]
  intro row hrow
  obtain ⟨hmem, hnew⟩ := mem_retainUnseen.mp hrow
  exact hnew (hseen row hmem)

theorem mergePendingWrites_eq {journal : List String} (hnodup : journal.Nodup)
    (rows : List String) :
    mergePendingWrites journal rows = journal ++ retainUnseen journal.reverse rows := by
  rw [mergePendingWrites, retainUnseen_append hnodup (fun _ _ => List.not_mem_nil), List.append_nil]

/-- Rows that are in the journal already leave it as it is. -/
theorem mergePendingWrites_of_subset {journal rows : List String} (hnodup : journal.Nodup)
    (hrows : ∀ row ∈ rows, row ∈ journal) : mergePendingWrites journal rows = journal := by
  rw [mergePendingWrites_eq hnodup,
    retainUnseen_eq_nil (fun row hrow => List.mem_reverse.mpr (hrows row hrow)), List.append_nil]

/-! ## The outbox and the drain -/

/-- A row of the `outbox` table of schema 7. -/
structure OutboxRow where
  localId : Nat
  eventJson : String
  state : String
  deriving DecidableEq, Repr

/-- `pending_outbox` -/
def pendingOutbox (rows : List OutboxRow) : List String :=
  ((rows.filter fun row => row.state == "pending").insertionSort
    fun first second => first.localId ≤ second.localId).map OutboxRow.eventJson

/-- The texts are those of pending rows of the outbox, in the order of their local ids. -/
def InOutboxOrder (outbox : List OutboxRow) (texts : List String) : Prop :=
  ∃ rows : List OutboxRow, rows.map OutboxRow.eventJson = texts ∧
    rows.Pairwise (fun first second => first.localId ≤ second.localId) ∧
    ∀ row ∈ rows, row ∈ outbox ∧ row.state = "pending"

theorem InOutboxOrder.sublist {outbox : List OutboxRow} {texts fewer : List String}
    (horder : InOutboxOrder outbox texts) (hfewer : fewer.Sublist texts) :
    InOutboxOrder outbox fewer := by
  obtain ⟨rows, rfl, hsorted, hpending⟩ := horder
  obtain ⟨kept, hkept, rfl⟩ := List.sublist_map_iff.mp hfewer
  exact ⟨kept, rfl, hsorted.sublist hkept, fun row hrow => hpending row (hkept.subset hrow)⟩

/-- The rows that are collected are the pending ones, in the order of their local ids. -/
theorem pendingOutbox_perm (rows : List OutboxRow) :
    (pendingOutbox rows).Perm
      ((rows.filter fun row => row.state == "pending").map OutboxRow.eventJson) :=
  (List.perm_insertionSort _ _).map _

theorem pendingOutbox_inOutboxOrder (rows : List OutboxRow) :
    InOutboxOrder rows (pendingOutbox rows) := by
  refine ⟨_, rfl, ?_, ?_⟩
  · have : Std.Total (fun first second : OutboxRow => first.localId ≤ second.localId) :=
      ⟨fun first second => Nat.le_total first.localId second.localId⟩
    have : IsTrans OutboxRow (fun first second => first.localId ≤ second.localId) :=
      ⟨fun _ _ _ => Nat.le_trans⟩
    exact List.pairwise_insertionSort _ _
  · intro row hrow
    simpa using (List.mem_insertionSort _).mp hrow

theorem mem_pendingOutbox {rows : List OutboxRow} {text : String} :
    text ∈ pendingOutbox rows ↔ ∃ row ∈ rows, row.state = "pending" ∧ row.eventJson = text := by
  rw [(pendingOutbox_perm rows).mem_iff]
  simp [and_assoc]

/-- What the drain reads of a signed event. -/
structure SignedEvent where
  id : String
  kind : Nat
  tags : List (List String)
  deriving DecidableEq, Repr

/-- `has_group_tag` -/
def hasGroupTag (event : SignedEvent) : Bool :=
  event.tags.any fun fields =>
    fields.head? == some "h" &&
      match fields[1]? with
      | some group => group != ""
      | none => false

/-- The answer of an enqueue.  The queue keeps each event that it accepts; of an event that
it rejects it may keep a part as well. -/
inductive EnqueueAnswer where
  | accepted
  | rejected (kept : Bool)
  deriving DecidableEq, Repr

def EnqueueAnswer.stored : EnqueueAnswer → Bool
  | .accepted => true
  | .rejected kept => kept

/-! ## The process -/

/-- Who replaces the journal. -/
inductive JournalWriter where
  | migration
  | drain
  deriving DecidableEq, Repr

/-- Where the process stands. -/
inductive HandoverPhase where
  /-- No process runs. -/
  | down
  /-- `v7_to_v8` has collected the pending rows. -/
  | collected (pending : List String)
  /-- The new rows of the journal are in the synced temporary file. -/
  | installing (rows : List String) (writer : JournalWriter)
  /-- The journal is renamed or removed, its directory not synced yet. -/
  | syncing (writer : JournalWriter)
  /-- The merge has returned and the schema change is about to commit. -/
  | committing
  /-- The daemon runs and the drain is between two rounds. -/
  | serving
  /-- The loop of `drain_once`: the rows still to read and those to keep. -/
  | draining (rows remaining : List String)
  deriving DecidableEq, Repr

/-- The phase after `replace_pending_writes`. -/
def JournalWriter.after : JournalWriter → HandoverPhase
  | .migration => .committing
  | .drain => .serving

/-- The phase after an error of `replace_pending_writes`.  A failed migration ends the
process, a failed drain waits for its next round. -/
def JournalWriter.failed : JournalWriter → HandoverPhase
  | .migration => .down
  | .drain => .serving

/-- The three stores and the process.  The table of outbox rows is there as long as the
database has schema 7; a journal that does not exist has no rows; the queue is the ids of
the events it keeps. -/
structure HandoverState where
  /-- `synchronous=NORMAL`: what is committed reaches the disk with the next checkpoint. -/
  database : File (Option (List OutboxRow))
  journal : File (List String)
  queue : List String
  phase : HandoverPhase
  deriving Repr

inductive HandoverOp where
  /-- The process opens the database. -/
  | start
  /-- `merge_pending_writes` reads the journal and merges the collected rows. -/
  | merge
  /-- The rename of the temporary file, or the removal of the journal. -/
  | install
  | sync
  | commit
  | checkpoint
  /-- `drain_once` reads the journal. -/
  | beginDrain
  /-- One turn of the loop of `drain_once`. -/
  | drainRow (answer : EnqueueAnswer)
  /-- A read, a write or the commit fails. -/
  | fail
  /-- The process ends. -/
  | exit
  /-- The machine loses power. -/
  | crash (journalChoice databaseChoice : Nat)
  deriving DecidableEq, Repr

namespace HandoverState

/-- A schema-7 database that no process has opened yet. -/
def initial (outbox : List OutboxRow) : HandoverState :=
  { database := File.settled (some outbox)
    journal := File.settled []
    queue := []
    phase := .down }

/-- The outbox that the process sees. -/
def outbox (state : HandoverState) : Option (List OutboxRow) := state.database.visible

/-- `replace_pending_writes` up to the sync: an empty journal is removed, and where there is
none nothing is written or synced. -/
def install (state : HandoverState) (rows : List String) (writer : JournalWriter) :
    HandoverState :=
  if rows = [] ∧ state.journal.visible = [] then { state with phase := writer.after }
  else { state with journal := state.journal.install rows, phase := .syncing writer }

/-- One turn of the loop of `drain_once`. -/
def drainRow (fromJson : String → Option SignedEvent) (state : HandoverState)
    (rows remaining : List String) (answer : EnqueueAnswer) : HandoverState :=
  match rows with
  | [] => { state with phase := .installing remaining .drain }
  | row :: rest =>
      match fromJson row with
      | none => { state with phase := .draining rest (remaining ++ [row]) }
      | some event =>
          if hasGroupTag event || event.kind == 0 then
            let queue := if answer.stored then event.id :: state.queue else state.queue
            match answer with
            | .accepted => { state with queue := queue, phase := .draining rest remaining }
            | .rejected _ =>
                { state with
                  queue := queue
                  phase := .installing (remaining ++ row :: rest) .drain }
          else { state with phase := .installing (remaining ++ row :: rest) .drain }

/-- A step of the process.  An operation that does not fit the phase changes nothing. -/
def step (fromJson : String → Option SignedEvent) (state : HandoverState) :
    HandoverOp → HandoverState
  | .start =>
      match state.phase, state.outbox with
      | .down, some outbox => { state with phase := .collected (pendingOutbox outbox) }
      | .down, none => { state with phase := .serving }
      | _, _ => state
  | .merge =>
      match state.phase with
      | .collected pending =>
          { state with
            phase := .installing (mergePendingWrites state.journal.visible pending) .migration }
      | _ => state
  | .install =>
      match state.phase with
      | .installing rows writer => state.install rows writer
      | _ => state
  | .sync =>
      match state.phase with
      | .syncing writer => { state with journal := state.journal.sync, phase := writer.after }
      | _ => state
  | .commit =>
      match state.phase with
      | .committing =>
          { state with database := state.database.install none, phase := .serving }
      | _ => state
  | .checkpoint => { state with database := state.database.sync }
  | .beginDrain =>
      match state.phase with
      | .serving =>
          if state.journal.visible = [] then state
          else { state with phase := .draining state.journal.visible [] }
      | _ => state
  | .drainRow answer =>
      match state.phase with
      | .draining rows remaining => state.drainRow fromJson rows remaining answer
      | _ => state
  | .fail =>
      match state.phase with
      | .collected _ => { state with phase := .down }
      | .installing _ writer => { state with phase := writer.failed }
      | .syncing writer => { state with phase := writer.failed }
      | .committing => { state with phase := .down }
      | _ => state
  | .exit => { state with phase := .down }
  | .crash journalChoice databaseChoice =>
      { state with
        database := state.database.crash databaseChoice
        journal := state.journal.crash journalChoice
        phase := .down }

/-- The queue keeps the event of a row. -/
def Queued (fromJson : String → Option SignedEvent) (queue : List String) (row : String) : Prop :=
  ∃ event, fromJson row = some event ∧ event.id ∈ queue

/-- What every state keeps of the rows of an outbox. -/
structure HandedOver (fromJson : String → Option SignedEvent) (outbox : List OutboxRow)
    (state : HandoverState) : Prop where
  /-- Each row that was pending is in the outbox, the journal or the queue. -/
  kept : ∀ row ∈ outbox, row.state = "pending" →
    (∃ rows, state.outbox = some rows ∧ row ∈ rows) ∨
      row.eventJson ∈ state.journal.visible ∨ Queued fromJson state.queue row.eventJson
  /-- No row is twice in the journal. -/
  nodup : state.journal.visible.Nodup
  /-- Another merge keeps the journal and appends the rows that it does not have, each once. -/
  merges : ∀ rows, ∃ added, mergePendingWrites state.journal.visible rows =
    state.journal.visible ++ added ∧ added.Nodup ∧
      ∀ row, row ∈ added ↔ row ∈ rows ∧ row ∉ state.journal.visible
  /-- It appends the pending rows in the order of the outbox. -/
  migrates : ∃ added, mergePendingWrites state.journal.visible (pendingOutbox outbox) =
    state.journal.visible ++ added ∧ InOutboxOrder outbox added
  /-- A merge that is repeated changes nothing. -/
  remerges : ∀ rows,
    mergePendingWrites (mergePendingWrites state.journal.visible rows) rows =
      mergePendingWrites state.journal.visible rows

/-- A power loss takes the schema change back only when it leaves a journal that holds the
first of the rows that a first merge writes. -/
def KeepsOrder (outbox : List OutboxRow) (state : HandoverState) : HandoverOp → Prop
  | .crash journalChoice databaseChoice =>
      (state.database.crash databaseChoice).visible = state.outbox ∨
        (state.journal.crash journalChoice).visible <+:
          mergePendingWrites [] (pendingOutbox outbox)
  | _ => True

instance (outbox : List OutboxRow) (state : HandoverState) (op : HandoverOp) :
    Decidable (KeepsOrder outbox state op) :=
  match op with
  | .crash _ _ => inferInstanceAs (Decidable (_ ∨ _))
  | .start | .merge | .install | .sync | .commit | .checkpoint | .beginDrain | .drainRow _
  | .fail | .exit => inferInstanceAs (Decidable True)

/-! ## The invariant -/

section Invariant

variable (fromJson : String → Option SignedEvent) (outbox : List OutboxRow)

/-- The rows hold every pending event that the queue does not keep. -/
def Covers (queue rows : List String) : Prop :=
  ∀ row ∈ pendingOutbox outbox, row ∈ rows ∨ Queued fromJson queue row

/-- Kinds of journals that the handover stays within: `unmerged` ones as long as the process
sees the outbox, `kept` ones throughout. -/
structure JournalKinds (kept unmerged : List String → Prop) : Prop where
  start : unmerged []
  weaken : ∀ rows, unmerged rows → kept rows
  merge : ∀ journal, unmerged journal →
    unmerged (mergePendingWrites journal (pendingOutbox outbox))
  shorten : ∀ {rows journal}, rows.Sublist journal → kept journal → kept rows

variable (kept unmerged : List String → Prop)

/-- What the phase knows. -/
def PhaseInvariant (state : HandoverState) : HandoverPhase → Prop
  | .down => True
  | .collected pending => state.outbox = some outbox ∧ pending = pendingOutbox outbox
  | .installing rows .migration =>
      state.outbox = some outbox ∧ unmerged rows ∧ Covers fromJson outbox state.queue rows
  | .syncing .migration =>
      state.outbox = some outbox ∧ Covers fromJson outbox state.queue state.journal.visible
  | .committing =>
      state.outbox = some outbox ∧ state.journal.Always (Covers fromJson outbox state.queue)
  | .serving => state.outbox = none
  | .draining rows remaining =>
      state.outbox = none ∧ kept (remaining ++ rows) ∧
        Covers fromJson outbox state.queue (remaining ++ rows)
  | .installing rows .drain =>
      state.outbox = none ∧ kept rows ∧ Covers fromJson outbox state.queue rows
  | .syncing .drain => state.outbox = none

/-- The stores and the phase fit together, whatever contents a crash leaves. -/
structure HandoverInvariant (state : HandoverState) : Prop where
  database : state.outbox = some outbox ∨ state.outbox = none
  /-- What a crash may bring back is the outbox. -/
  unsynced : ∀ content ∈ state.database.stale, content = some outbox
  journal : state.journal.Always kept
  merging : state.outbox = some outbox → state.journal.Always unmerged
  /-- After the schema change the journal covers what the queue does not. -/
  covers : state.outbox = none → state.journal.Always (Covers fromJson outbox state.queue)
  standing : PhaseInvariant fromJson outbox kept unmerged state state.phase

variable {fromJson outbox kept unmerged} {state : HandoverState}

theorem Covers.mono {queue later rows : List String} (hmono : ∀ id ∈ queue, id ∈ later)
    (hcovers : Covers fromJson outbox queue rows) : Covers fromJson outbox later rows := by
  intro row hrow
  refine (hcovers row hrow).imp id ?_
  rintro ⟨event, hevent, hid⟩
  exact ⟨event, hevent, hmono event.id hid⟩

theorem covers_merge (queue journal : List String) :
    Covers fromJson outbox queue (mergePendingWrites journal (pendingOutbox outbox)) :=
  fun _ hrow =>
    Or.inl (mem_retainUnseen.mpr ⟨List.mem_append_right journal hrow, List.not_mem_nil⟩)

theorem handoverInvariant_initial (hkinds : JournalKinds outbox kept unmerged) :
    HandoverInvariant fromJson outbox kept unmerged (initial outbox) where
  database := Or.inl rfl
  unsynced := fun _ hcontent => absurd hcontent List.not_mem_nil
  journal := File.always_settled.mpr (hkinds.weaken [] hkinds.start)
  merging := fun _ => File.always_settled.mpr hkinds.start
  covers := fun hnone => absurd hnone (Option.some_ne_none outbox)
  standing := trivial

/-- A step that only moves the phase. -/
theorem HandoverInvariant.withPhase
    (hinv : HandoverInvariant fromJson outbox kept unmerged state) {phase : HandoverPhase}
    (hphase : PhaseInvariant fromJson outbox kept unmerged { state with phase := phase } phase) :
    HandoverInvariant fromJson outbox kept unmerged { state with phase := phase } :=
  ⟨hinv.database, hinv.unsynced, hinv.journal, hinv.merging, hinv.covers, hphase⟩

/-- A turn of the drain, which may enqueue an event. -/
theorem HandoverInvariant.withQueue
    (hinv : HandoverInvariant fromJson outbox kept unmerged state)
    {queue : List String} {phase : HandoverPhase} (hmono : ∀ id ∈ state.queue, id ∈ queue)
    (hphase : PhaseInvariant fromJson outbox kept unmerged
      { state with queue := queue, phase := phase } phase) :
    HandoverInvariant fromJson outbox kept unmerged
      { state with queue := queue, phase := phase } where
  database := hinv.database
  unsynced := hinv.unsynced
  journal := hinv.journal
  merging := hinv.merging
  covers := fun hnone => (hinv.covers hnone).mono fun _ hcovers => hcovers.mono hmono
  standing := hphase

/-- The rename or the removal of the journal. -/
theorem HandoverInvariant.install (hkinds : JournalKinds outbox kept unmerged)
    (hinv : HandoverInvariant fromJson outbox kept unmerged state)
    {rows : List String} {writer : JournalWriter}
    (hrows : PhaseInvariant fromJson outbox kept unmerged state (.installing rows writer)) :
    HandoverInvariant fromJson outbox kept unmerged (state.install rows writer) := by
  rw [HandoverState.install]
  split_ifs with hempty
  · refine hinv.withPhase ?_
    cases writer with
    | migration =>
        obtain ⟨hsome, _, hcovers⟩ := hrows
        rw [hempty.1] at hcovers
        -- with nothing to merge the queue has every row, and any journal covers it
        have hall : ∀ content, Covers fromJson outbox state.queue content :=
          fun content row hrow => (hcovers row hrow).imp (absurd · List.not_mem_nil) id
        exact ⟨hsome, hall _, fun content _ => hall content⟩
    | drain => exact hrows.1
  · cases writer with
    | migration =>
        obtain ⟨hsome, hunmerged, hcovers⟩ := hrows
        exact
          { database := hinv.database
            unsynced := hinv.unsynced
            journal := File.always_install.mpr ⟨hkinds.weaken rows hunmerged, hinv.journal⟩
            merging := fun _ => File.always_install.mpr ⟨hunmerged, hinv.merging hsome⟩
            covers := fun hnone => absurd (hsome.symm.trans hnone) (Option.some_ne_none outbox)
            standing := ⟨hsome, hcovers⟩ }
    | drain =>
        obtain ⟨hnone, hkept, hcovers⟩ := hrows
        exact
          { database := hinv.database
            unsynced := hinv.unsynced
            journal := File.always_install.mpr ⟨hkept, hinv.journal⟩
            merging := fun hsome =>
              absurd (hsome.symm.trans hnone) (Option.some_ne_none outbox)
            covers := fun _ => File.always_install.mpr ⟨hcovers, hinv.covers hnone⟩
            standing := hnone }

/-- The sync of the directory ends the replacement. -/
theorem HandoverInvariant.sync (hinv : HandoverInvariant fromJson outbox kept unmerged state)
    {writer : JournalWriter}
    (hphase : PhaseInvariant fromJson outbox kept unmerged state (.syncing writer)) :
    HandoverInvariant fromJson outbox kept unmerged
      { state with journal := state.journal.sync, phase := writer.after } where
  database := hinv.database
  unsynced := hinv.unsynced
  journal := hinv.journal.sync
  merging := fun hsome => (hinv.merging hsome).sync
  covers := fun hnone => (hinv.covers hnone).sync
  standing := by
    cases writer with
    | migration => exact ⟨hphase.1, File.always_settled.mpr hphase.2⟩
    | drain => exact hphase

/-- The schema change drops the outbox when every possible journal covers it. -/
theorem HandoverInvariant.commit (hinv : HandoverInvariant fromJson outbox kept unmerged state)
    (hphase : PhaseInvariant fromJson outbox kept unmerged state .committing) :
    HandoverInvariant fromJson outbox kept unmerged
      { state with database := state.database.install none, phase := .serving } where
  database := Or.inr rfl
  unsynced := by
    intro content hcontent
    rcases List.mem_cons.mp hcontent with rfl | hstale
    · exact hphase.1
    · exact hinv.unsynced content hstale
  journal := hinv.journal
  merging := fun hsome => absurd hsome (Option.some_ne_none outbox).symm
  covers := fun _ => hphase.2
  standing := rfl

/-- A checkpoint changes nothing that is seen. -/
theorem HandoverInvariant.checkpoint
    (hinv : HandoverInvariant fromJson outbox kept unmerged state) :
    HandoverInvariant fromJson outbox kept unmerged
      { state with database := state.database.sync } where
  database := hinv.database
  unsynced := fun _ hcontent => absurd hcontent List.not_mem_nil
  journal := hinv.journal
  merging := hinv.merging
  covers := hinv.covers
  standing := hinv.standing

/-- A power loss, which may bring the outbox back behind any journal. -/
theorem HandoverInvariant.crash (hinv : HandoverInvariant fromJson outbox kept unmerged state)
    (journalChoice databaseChoice : Nat)
    (hback : (state.database.crash databaseChoice).visible = state.outbox ∨
      unmerged (state.journal.crash journalChoice).visible) :
    HandoverInvariant fromJson outbox kept unmerged
      { state with
        database := state.database.crash databaseChoice
        journal := state.journal.crash journalChoice
        phase := .down } := by
  have hvisible := state.database.visible_crash databaseChoice
  refine
    { database := ?_
      unsynced := ?_
      journal := hinv.journal.crash journalChoice
      merging := ?_
      covers := ?_
      standing := trivial }
  · rcases hvisible with hsame | hstale
    · exact hinv.database.imp hsame.trans hsame.trans
    · exact Or.inl (hinv.unsynced _ hstale)
  · intro content hcontent
    rw [File.crash_eq_settled] at hcontent
    cases hcontent
  · intro hsome
    rcases hback with hsame | hjournal
    · exact (hinv.merging (hsame.symm.trans hsome)).crash journalChoice
    · show File.Always unmerged (state.journal.crash journalChoice)
      rw [File.crash_eq_settled]
      exact File.always_settled.mpr hjournal
  · intro hnone
    -- no crash brings the schema change forward
    have hbefore : state.outbox = none := by
      rcases hvisible with hsame | hstale
      · exact hsame.symm.trans hnone
      · exact absurd ((hinv.unsynced _ hstale).symm.trans hnone) (Option.some_ne_none outbox)
    exact (hinv.covers hbefore).crash journalChoice

/-- A row leaves the loop only when the queue keeps its event or it is kept for later. -/
theorem HandoverInvariant.drainRow (hkinds : JournalKinds outbox kept unmerged)
    (hinv : HandoverInvariant fromJson outbox kept unmerged state)
    {rows remaining : List String} (answer : EnqueueAnswer)
    (hphase : PhaseInvariant fromJson outbox kept unmerged state (.draining rows remaining)) :
    HandoverInvariant fromJson outbox kept unmerged
      (state.drainRow fromJson rows remaining answer) := by
  obtain ⟨hnone, hkept, hcovers⟩ := hphase
  cases rows with
  | nil =>
      rw [List.append_nil] at hkept hcovers
      exact hinv.withPhase ⟨hnone, hkept, hcovers⟩
  | cons row rest =>
      rw [HandoverState.drainRow]
      cases hevent : fromJson row with
      | none =>
          refine hinv.withPhase ⟨hnone, ?_, ?_⟩
          · simpa using hkept
          · simpa using hcovers
      | some event =>
          simp only
          by_cases hroute : (hasGroupTag event || event.kind == 0) = true
          · rw [if_pos hroute]
            cases answer with
            | accepted =>
                refine hinv.withQueue (fun id hid => List.mem_cons_of_mem event.id hid)
                  ⟨hnone, ?_, ?_⟩
                · exact hkinds.shorten
                    (List.Sublist.append_left (List.sublist_cons_self row rest) _) hkept
                · intro other hother
                  -- the accepted row is the only one that leaves the list
                  rcases hcovers other hother with hmem | ⟨kept, hkept, hid⟩
                  · rcases List.mem_append.mp hmem with hmem | hmem
                    · exact Or.inl (List.mem_append_left rest hmem)
                    · rcases List.mem_cons.mp hmem with rfl | hmem
                      · exact Or.inr ⟨event, hevent, List.mem_cons_self⟩
                      · exact Or.inl (List.mem_append_right remaining hmem)
                  · exact Or.inr ⟨kept, hkept, List.mem_cons_of_mem event.id hid⟩
            | rejected kept =>
                have hmono : ∀ id ∈ state.queue,
                    id ∈ if kept = true then event.id :: state.queue else state.queue := by
                  intro id hid
                  split_ifs
                  · exact List.mem_cons_of_mem event.id hid
                  · exact hid
                exact hinv.withQueue hmono ⟨hnone, hkept, hcovers.mono hmono⟩
          · rw [if_neg hroute]
            exact hinv.withPhase ⟨hnone, hkept, hcovers⟩

/-- What one operation preserves. -/
theorem HandoverInvariant.step (hkinds : JournalKinds outbox kept unmerged)
    (hinv : HandoverInvariant fromJson outbox kept unmerged state) (op : HandoverOp)
    (hback : ∀ journalChoice databaseChoice, op = .crash journalChoice databaseChoice →
      (state.database.crash databaseChoice).visible = state.outbox ∨
        unmerged (state.journal.crash journalChoice).visible) :
    HandoverInvariant fromJson outbox kept unmerged (state.step fromJson op) := by
  have hstanding := hinv.standing
  cases op with
  | start =>
      simp only [HandoverState.step]
      split
      · next rows hphase hrows =>
          -- an outbox that is still there is the one of the start
          have hsame : some rows = some outbox := by
            rcases hinv.database with hsome | hnone
            · rw [← hrows, hsome]
            · rw [hrows] at hnone
              cases hnone
          obtain rfl := Option.some.inj hsame
          exact hinv.withPhase ⟨hrows, rfl⟩
      · next hphase hnone => exact hinv.withPhase hnone
      · exact hinv
  | merge =>
      simp only [HandoverState.step]
      split
      · next pending hphase =>
          rw [hphase] at hstanding
          obtain ⟨hsome, rfl⟩ := hstanding
          exact hinv.withPhase
            ⟨hsome, hkinds.merge _ (hinv.merging hsome).1, covers_merge state.queue _⟩
      · exact hinv
  | install =>
      simp only [HandoverState.step]
      split
      · next rows writer hphase =>
          rw [hphase] at hstanding
          exact hinv.install hkinds hstanding
      · exact hinv
  | sync =>
      simp only [HandoverState.step]
      split
      · next writer hphase =>
          rw [hphase] at hstanding
          exact hinv.sync hstanding
      · exact hinv
  | commit =>
      simp only [HandoverState.step]
      split
      · next hphase =>
          rw [hphase] at hstanding
          exact hinv.commit hstanding
      · exact hinv
  | checkpoint => exact hinv.checkpoint
  | beginDrain =>
      simp only [HandoverState.step]
      split
      · next hphase =>
          rw [hphase] at hstanding
          split_ifs
          · exact hinv
          · -- the loop starts with the journal it can see
            exact hinv.withPhase ⟨hstanding, hinv.journal.1, (hinv.covers hstanding).1⟩
      · exact hinv
  | drainRow answer =>
      simp only [HandoverState.step]
      split
      · next rows remaining hphase =>
          rw [hphase] at hstanding
          exact hinv.drainRow hkinds answer hstanding
      · exact hinv
  | fail =>
      simp only [HandoverState.step]
      split
      · exact hinv.withPhase trivial
      · next rows writer hphase =>
          rw [hphase] at hstanding
          cases writer with
          | migration => exact hinv.withPhase trivial
          | drain => exact hinv.withPhase hstanding.1
      · next writer hphase =>
          rw [hphase] at hstanding
          cases writer with
          | migration => exact hinv.withPhase trivial
          | drain => exact hinv.withPhase hstanding
      · exact hinv.withPhase trivial
      · exact hinv
  | exit => exact hinv.withPhase trivial
  | crash journalChoice databaseChoice =>
      exact hinv.crash journalChoice databaseChoice (hback journalChoice databaseChoice rfl)

/-! ## The kinds of journals -/

/-- Journals of pending rows without a repetition. -/
theorem journalKinds_nodup :
    JournalKinds outbox (fun rows => rows.Nodup ∧ ∀ row ∈ rows, row ∈ pendingOutbox outbox)
      (fun rows => rows.Nodup ∧ ∀ row ∈ rows, row ∈ pendingOutbox outbox) where
  start := ⟨List.nodup_nil, fun _ hrow => absurd hrow List.not_mem_nil⟩
  weaken := fun _ => id
  merge := by
    rintro journal ⟨_, hpending⟩
    refine ⟨nodup_retainUnseen [] _, ?_⟩
    intro row hrow
    rcases List.mem_append.mp (mem_retainUnseen.mp hrow).1 with hjournal | hadded
    · exact hpending row hjournal
    · exact hadded
  shorten := fun hfewer hjournal =>
    ⟨hjournal.1.sublist hfewer, fun row hrow => hjournal.2 row (hfewer.subset hrow)⟩

/-- Journals in the order of a first merge, which begin as it does while they are merged. -/
theorem journalKinds_ordered :
    JournalKinds outbox (·.Sublist (mergePendingWrites [] (pendingOutbox outbox)))
      (· <+: mergePendingWrites [] (pendingOutbox outbox)) where
  start := List.nil_prefix
  weaken := fun _ hprefix => hprefix.sublist
  merge := by
    rintro journal ⟨back, hback⟩
    -- the merge writes what the first one wrote
    have hnodup : journal.Nodup :=
      (nodup_retainUnseen [] _).sublist (List.IsPrefix.sublist ⟨back, hback⟩)
    have hrest := retainUnseen_behind (hback.symm : retainUnseen [] _ = journal ++ back)
    rw [List.append_nil, List.nil_append] at hrest
    rw [mergePendingWrites_eq hnodup, hrest]
    exact ⟨[], by rw [List.append_nil, hback]⟩
  shorten := fun hfewer hjournal => hfewer.trans hjournal

theorem HandoverInvariant.handedOver {unmerged : List String → Prop}
    (hinv : HandoverInvariant fromJson outbox
      (fun rows => rows.Nodup ∧ ∀ row ∈ rows, row ∈ pendingOutbox outbox) unmerged state) :
    HandedOver fromJson outbox state := by
  have hnodup : state.journal.visible.Nodup := hinv.journal.1.1
  have hmerges := mergePendingWrites_eq hnodup
  refine
    { kept := ?_
      nodup := hnodup
      merges := fun rows => ⟨_, hmerges rows, nodup_retainUnseen _ rows, ?_⟩
      migrates := ⟨_, hmerges _,
        (pendingOutbox_inOutboxOrder outbox).sublist (retainUnseen_sublist _ _)⟩
      remerges := ?_ }
  · intro row hrow hpending
    have htext : row.eventJson ∈ pendingOutbox outbox :=
      mem_pendingOutbox.mpr ⟨row, hrow, hpending, rfl⟩
    rcases hinv.database with hsome | hnone
    · exact Or.inl ⟨outbox, hsome, hrow⟩
    · exact Or.inr ((hinv.covers hnone).1 row.eventJson htext)
  · intro row
    rw [mem_retainUnseen, List.mem_reverse]
  · intro rows
    refine mergePendingWrites_of_subset (nodup_retainUnseen [] _) ?_
    intro row hrow
    exact mem_retainUnseen.mpr ⟨List.mem_append_right _ hrow, List.not_mem_nil⟩

end Invariant

/-- Through every sequence of crashes, failures and restarts a row that was pending is in one
of the three stores, and a merge keeps the journal and appends the rows it lacks, once and in
order.  The journal has the order of the outbox as long as no power loss takes the schema
change back when the drain has taken rows from the front of the journal. -/
theorem run_handedOver (fromJson : String → Option SignedEvent) (outbox : List OutboxRow)
    (ops : List HandoverOp) :
    HandedOver fromJson outbox (Transition.run (step fromJson) (initial outbox) ops) ∧
      (Transition.Guarded (step fromJson) (KeepsOrder outbox) (initial outbox) ops →
        InOutboxOrder outbox
          (Transition.run (step fromJson) (initial outbox) ops).journal.visible) := by
  constructor
  -- That nothing is lost needs no condition; the order does, and has an invariant of its own.
  · refine HandoverInvariant.handedOver (Transition.run_invariant
      (handoverInvariant_initial journalKinds_nodup) (fun state op hinv => ?_) ops)
    refine hinv.step journalKinds_nodup op ?_
    intro journalChoice databaseChoice _
    exact Or.inr (hinv.journal.crash journalChoice).1
  · intro hguarded
    have hinv : HandoverInvariant fromJson outbox
        (·.Sublist (mergePendingWrites [] (pendingOutbox outbox)))
        (· <+: mergePendingWrites [] (pendingOutbox outbox))
        (Transition.run (step fromJson) (initial outbox) ops) := by
      refine Transition.guarded_run_invariant (handoverInvariant_initial journalKinds_ordered)
        ?_ hguarded
      intro state op hinv hkeeps
      refine hinv.step journalKinds_ordered op ?_
      rintro journalChoice databaseChoice rfl
      exact hkeeps
    exact (pendingOutbox_inOutboxOrder outbox).sublist
      (hinv.journal.1.trans (retainUnseen_sublist [] _))

/-! ## A schema change that is taken back -/

def threeRows : List OutboxRow :=
  [⟨3, "c", "pending"⟩, ⟨1, "a", "pending"⟩, ⟨2, "b", "pending"⟩, ⟨4, "d", "published"⟩]

def readProfile (row : String) : Option SignedEvent := some ⟨row, 0, []⟩

/-- The migration and a drain of which the queue accepts two rows. -/
def drainedTwo : List HandoverOp :=
  [.start, .merge, .install, .sync, .commit, .beginDrain, .drainRow .accepted,
    .drainRow .accepted, .drainRow (.rejected false), .install, .sync]

/-- A power loss that leaves the outbox dropped, and one before the drain that does not. -/
theorem run_handedOver_drained :
    HandedOver readProfile threeRows (Transition.run (step readProfile) (initial threeRows)
        ([.start, .merge, .install, .crash 0 0] ++ drainedTwo ++ [.checkpoint, .crash 0 0])) ∧
      InOutboxOrder threeRows (Transition.run (step readProfile) (initial threeRows)
        ([.start, .merge, .install, .crash 0 0] ++ drainedTwo ++
          [.checkpoint, .crash 0 0])).journal.visible := by
  have hrun := run_handedOver readProfile threeRows
    ([.start, .merge, .install, .crash 0 0] ++ drainedTwo ++ [.checkpoint, .crash 0 0])
  exact ⟨hrun.1, hrun.2 (by decide +kernel)⟩

/-- A power loss brings the outbox back when two rows have left the journal, and the next
merge puts them behind the third. -/
theorem handover_reorders :
    ¬ ∀ (fromJson : String → Option SignedEvent) (outbox : List OutboxRow)
      (ops : List HandoverOp), InOutboxOrder outbox
        (Transition.run (step fromJson) (initial outbox) ops).journal.visible := by
  intro hclaim
  have hjournal : (Transition.run (step readProfile) (initial threeRows)
      (drainedTwo ++ [.crash 0 0, .start, .merge, .install])).journal.visible = ["c", "a", "b"] := by
    decide +kernel
  obtain ⟨rows, htexts, hsorted, hpending⟩ := hclaim readProfile threeRows
    (drainedTwo ++ [.crash 0 0, .start, .merge, .install])
  rw [hjournal] at htexts
  obtain ⟨third, rest, rfl, hthird, hrest⟩ := List.map_eq_cons_iff.mp htexts
  obtain ⟨first, others, rfl, hfirst, _⟩ := List.map_eq_cons_iff.mp hrest
  have hbefore : third.localId ≤ first.localId := List.rel_of_pairwise_cons hsorted List.mem_cons_self
  have hthirdRow := (hpending third List.mem_cons_self).1
  have hfirstRow := (hpending first (List.mem_cons_of_mem third List.mem_cons_self)).1
  simp only [threeRows, List.mem_cons, List.not_mem_nil, or_false] at hthirdRow hfirstRow
  rcases hthirdRow with rfl | rfl | rfl | rfl
  all_goals rcases hfirstRow with rfl | rfl | rfl | rfl
  all_goals simp_all

end HandoverState

end Mosaico
