import Mosaico.Claims.Leases

/-!
# Retention

A periodic pass deletes old relay events, inbox rows that were delivered long ago, and
completed claims.  The completed claim of an offline mention is a durable tombstone and
stays.  The turn attempts that the pass also deletes are kept elsewhere.
-/

namespace Mosaico

open Relational Transition

def relayEventRetentionSecs : Nat := 14 * 24 * 60 * 60

def completedLedgerRetentionSecs : Nat := 7 * 24 * 60 * 60

/-- `text LIKE stem || '%'`: the case of a letter does not count. -/
def likeStem (stem text : String) : Bool :=
  (stem.toList.map Char.toLower).isPrefixOf (text.toList.map Char.toLower)

/-- The claim key is one of an offline mention. -/
def isOfflineMentionKey (claimKey : String) : Bool :=
  likeStem Store.offlineMentionClaimPrefix claimKey

/-- The row was delivered before the instant. -/
def InboxRow.DeliveredBefore (before : Nat) (row : InboxRow) : Prop :=
  row.state ≠ .pending ∧ 0 < row.deliveredAt ∧ row.deliveredAt < before

/-- The claim was completed before the instant, and its row is no tombstone. -/
def EventClaim.CompletedBefore (before : Nat) (row : EventClaim) : Prop :=
  row.state = .completed ∧ 0 < row.updatedAt ∧ row.updatedAt < before ∧
    isOfflineMentionKey row.claimKey = false

instance (before : Nat) : DecidablePred (InboxRow.DeliveredBefore before) := fun _ =>
  inferInstanceAs (Decidable (_ ∧ _))

instance (before : Nat) : DecidablePred (EventClaim.CompletedBefore before) := fun _ =>
  inferInstanceAs (Decidable (_ ∧ _))

/-- The part of a retention pass that works on the ledgers.  A statement that fails to bind
its instant ends the pass. -/
def Store.pruneRetainedStateBefore (store : Store)
    (relayEventsBefore completedLedgersBefore : Nat) : Store :=
  if relayEventsBefore ≤ Rust.i64Max ∧ completedLedgersBefore ≤ Rust.i64Max then
    { store with
      inbox := store.inbox.deleteWhere (InboxRow.DeliveredBefore completedLedgersBefore)
      eventClaims :=
        store.eventClaims.deleteWhere (EventClaim.CompletedBefore completedLedgersBefore) }
  else store

def Store.pruneRetainedState (store : Store) (now : Nat) : Store :=
  store.pruneRetainedStateBefore (now - relayEventRetentionSecs)
    (now - completedLedgerRetentionSecs)

def Database.pruneRetainedState (db : Database) (now : Nat) : Database :=
  { db with
    events := if now - relayEventRetentionSecs ≤ Rust.i64Max then
        db.events.deleteWhere (fun row => row.createdAt < now - relayEventRetentionSecs)
      else db.events
    store := db.store.pruneRetainedState now }

/-! ## What a pass leaves -/

/-- A pass keeps a claim as it is, or deletes one that was completed a week ago. -/
theorem eventClaims_pruneRetainedState (store : Store) (now : Nat) (k : String × String) :
    (store.pruneRetainedState now).eventClaims.find? k = store.eventClaims.find? k ∨
      (store.pruneRetainedState now).eventClaims.find? k = none ∧
        ∃ row, store.eventClaims.find? k = some row ∧
          row.CompletedBefore (now - completedLedgerRetentionSecs) := by
  unfold Store.pruneRetainedState Store.pruneRetainedStateBefore
  split
  · exact Table.find?_deleteWhere_cases store.eventClaims _ k
  · exact Or.inl rfl

/-- A pass keeps an inbox row as it is, or deletes one that was delivered a week ago. -/
theorem inbox_pruneRetainedState (store : Store) (now : Nat) (k : String × String) :
    (store.pruneRetainedState now).inbox.find? k = store.inbox.find? k ∨
      (store.pruneRetainedState now).inbox.find? k = none ∧
        ∃ row, store.inbox.find? k = some row ∧
          row.DeliveredBefore (now - completedLedgerRetentionSecs) := by
  unfold Store.pruneRetainedState Store.pruneRetainedStateBefore
  split
  · exact Table.find?_deleteWhere_cases store.inbox _ k
  · exact Or.inl rfl

end Mosaico
