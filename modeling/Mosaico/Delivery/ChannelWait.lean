import Mosaico.Cursor.Drains
import Mosaico.Reading.Queries
import Mosaico.Relational.Conflicts

/-!
# Waiting for a message

A session that waits for a message drains the message log behind a cursor.  SQLite numbers the
rows as they arrive, so the cursor is about the order of arrival and not about the time of a
message.  Messages are recorded in several accesses of the database by other tasks, also between
the accesses of one drain; a message that is known is refreshed in its place.

SQLite numbers a new row after the greatest one; the numbers do not run out.
-/

namespace Mosaico

open Relational Transition Cursor

/-- The size of a page. -/
def messageBatch : Nat := 512

/-! ## Numbered rows -/

/-- The database with the row numbers of its messages. -/
structure WaitStore where
  intake : Intake
  rowids : List Int
  numbered : rowids.length = intake.messages.rows.length
  ascending : rowids.Pairwise (· < ·)

namespace WaitStore

theorem pairwise_zip (rowids : List Int) (rows : List Message)
    (hascending : rowids.Pairwise (· < ·)) : Ascending (rowids.zip rows) := by
  induction rowids generalizing rows with
  | nil => exact List.Pairwise.nil
  | cons rowid rest ih =>
      obtain ⟨hfirst, hrest⟩ := List.pairwise_cons.mp hascending
      cases rows with
      | nil => exact List.Pairwise.nil
      | cons row later =>
          rw [List.zip_cons_cons]
          refine List.pairwise_cons.mpr ⟨?_, ih later hrest⟩
          intro entry hentry
          exact hfirst entry.1 (List.of_mem_zip hentry).1

/-- The messages by their row numbers. -/
def log (store : WaitStore) : Log Message where
  entries := store.rowids.zip store.intake.messages.rows
  ascending := pairwise_zip _ _ store.ascending

/-! ## The filter of a wait -/

/-- The event ids of the `e` tags, with their tags. -/
def eventTags (tags : List (List String)) : List (List String × String) :=
  (tags.filter fun tag => tag.head? = some "e").filterMap fun tag =>
    (tag[1]?.filter (· ≠ "")).map fun id => (tag, id)

/-- The tag marked as reply, or the last one. -/
def replyTargetFromTags (tags : List (List String)) : Option String :=
  (((eventTags tags).find? fun tagged => tagged.1[3]? = some "reply").or
    (eventTags tags).getLast?).map Prod.snd

/-- What a message replies to; the event log has its tags. -/
def messageReplyTarget (parseTags : String → Option (List (List String))) (intake : Intake)
    (message : Message) : Option String :=
  (intake.db.events.find? (message.nativeEventId.getD message.messageId)).bind fun event =>
    (parseTags event.tagsJson).bind replyTargetFromTags

end WaitStore

/-- What a wait looks for.  `author` is the verdict of its author filter, which reads the
profiles and the sessions. -/
structure WaitFilter where
  scopes : List String
  replyTo : Option String
  author : Intake → Message → Bool
  ownPubkeys : List String
  backendPubkey : String
  parseTags : String → Option (List (List String))

/-- The database as a drain meets it.  The filter reads it up to three times for a row, and others
write in between. -/
structure WaitView where
  store : WaitStore
  authorIntake : Intake
  replyIntake : Intake

/-- Nobody writes while a row is examined. -/
def WaitStore.still (store : WaitStore) : WaitView := ⟨store, store.intake, store.intake⟩

/-- The message ends the wait. -/
def WaitFilter.accepts (filter : WaitFilter) (view : WaitView) (message : Message) : Bool :=
  if !filter.scopes.contains message.channelH || filter.ownPubkeys.contains message.authorPubkey
  then false
  else if view.store.intake.isBackendRow filter.backendPubkey message ||
    !filter.author view.authorIntake message
  then false
  else match filter.replyTo with
    | none => true
    | some expected =>
        WaitStore.messageReplyTarget filter.parseTags view.replyIntake message == some expected

/-- Drain the log; the second result is the cursor. -/
def drainMatching (filter : WaitFilter) (store : WaitStore) (cursor : Int) :
    Option Message × Int :=
  drain messageBatch (filter.accepts store.still) store.log cursor

/-- The log as the tasks of a wait see it. -/
def WaitFilter.source (filter : WaitFilter) : Source WaitView Message where
  log := fun view => view.store.log
  accepts := filter.accepts
  limit := messageBatch

/-! ## Writes keep the places -/

namespace WaitStore

/-- The messages of a store by row number and id. -/
def messageIds (store : WaitStore) : List (Int × String) :=
  store.rowids.zip (store.intake.messages.rows.map Message.messageId)

theorem names_eq (filter : WaitFilter) (view : WaitView) :
    filter.source.names Message.messageId view = view.store.messageIds := by
  show (view.store.rowids.zip view.store.intake.messages.rows).map _ = _
  rw [messageIds, List.zip_map_right]

end WaitStore

/-! ## Drains -/

/-- A drain ends with the first match behind its cursor, or at the last row without one; among
other tasks it examines what its cursor passes, each row once and in order, so that it answers
each match once, and left alone it answers. -/
theorem channelWait_drained (filter : WaitFilter) :
    (∀ (store : WaitStore) (cursor : Int),
      match drainMatching filter store cursor with
      | (some message, rowid) =>
          ∃ before after, behind store.log.entries cursor = before ++ (rowid, message) :: after ∧
            filter.accepts store.still message = true ∧
            ∀ entry ∈ before, filter.accepts store.still entry.2 = false
      | (none, rowid) =>
          (∀ entry ∈ behind store.log.entries cursor,
            filter.accepts store.still entry.2 = false) ∧
          rowid = ((behind store.log.entries cursor).getLast?.map Prod.fst).getD cursor) ∧
      ∀ (view : WaitView) (cursor : Int) (accesses : List (Access WaitView)),
        let step := Reader.step filter.source Message.messageId
        let reader := run step (Reader.new view cursor) accesses
        reader.examined.map (fun row => (row.1.1, row.1.2.messageId)) =
            passed reader.world.store.messageIds cursor reader.cursor ∧
          reader.cursor = (reader.examined.getLast?.map fun row => row.1.1).getD cursor ∧
          reader.received = (reader.examined.filter (·.2)).map (·.1.2) ∧
          (∀ matching : String → Bool,
            (∀ row ∈ reader.examined, row.2 = matching row.1.2.messageId) →
              reader.received.map Message.messageId =
                ((passed reader.world.store.messageIds cursor reader.cursor).map Prod.snd).filter
                  matching) ∧
          ∃ count, let after := run step reader (List.replicate count .proceed)
            after.batch = none ∧ reader.answers.length < after.answers.length := by
  constructor
  · intro store cursor
    have hscan : drain messageBatch _ _ _ = _ :=
      drain_eq_scan (filter.accepts store.still) store.log cursor (by decide)
    rw [drainMatching, hscan]
    cases hresult : scan (filter.accepts store.still) cursor
        (behind store.log.entries cursor) with
    | mk found rowid =>
        cases found with
        | some message => exact scan_eq_some hresult
        | none => exact scan_eq_none hresult
  · intro view cursor accesses
    have htracks := Reader.tracks_run filter.source Message.messageId view cursor accesses
    refine ⟨?_, htracks.last, htracks.received, ?_,
      Reader.exists_answer filter.source Message.messageId _⟩
    · rw [← WaitStore.names_eq filter]
      exact htracks.examined
    · intro matching hmatching
      rw [← WaitStore.names_eq filter]
      exact htracks.received_names matching hmatching

end Mosaico
