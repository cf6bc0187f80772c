import Mosaico.State.SessionLifecycle

/-!
# The inbox ledger

Durable inbound delivery keyed by event and recipient pubkey.  Two delivery
paths race over a row: the turn hook claims every pending row of a pubkey, and
the terminal doorbell claims the exact rows of its plan.  Both flip the row and
return it in one statement, so whoever comes first owns it.
-/

namespace Mosaico

open Relational

/-- A row as it is stored when the event first arrives. -/
def InboxRow.arrival (eventId targetPubkey fromPubkey channelH body : String)
    (createdAt : Nat) : InboxRow where
  eventId := eventId
  targetPubkey := targetPubkey
  state := .pending
  fromPubkey := fromPubkey
  channelH := channelH
  body := body
  createdAt := createdAt
  deliveredAt := 0

/-- The assignment of a claim. -/
def InboxRow.claimed (row : InboxRow) (now : Nat) : InboxRow :=
  { row with
    state := .delivered
    deliveredAt := now }

/-- The assignment of a re-enqueue. -/
def InboxRow.reopened (row : InboxRow) : InboxRow :=
  { row with
    state := .pending
    deliveredAt := 0 }

/-- The assignment of a successful injection. -/
def InboxRow.markInjected (row : InboxRow) : InboxRow :=
  { row with state := .injected }

/-- The assignment of an observed prompt echo. -/
def InboxRow.consumeEcho (row : InboxRow) : InboxRow :=
  { row with state := .echoConsumed }

/-- `sort_by_key(|row| row.created_at)`, which is stable. -/
def oldestFirst (rows : List InboxRow) : List InboxRow :=
  rows.insertionSort (fun left right => left.createdAt ≤ right.createdAt)

@[simp] theorem mem_oldestFirst {rows : List InboxRow} {row : InboxRow} :
    row ∈ oldestFirst rows ↔ row ∈ rows :=
  List.mem_insertionSort _

/-- One `UPDATE inbox SET … WHERE event_id=?1 AND target_pubkey=?2 AND p` for
each event id. -/
def updateEach (inbox : Table InboxRow.key) (eventIds : List String) (targetPubkey : String)
    (p : InboxRow → Prop) [DecidablePred p] (f : InboxRow → InboxRow)
    (hkey : ∀ row, (f row).key = row.key := by intro row; cases row; rfl) : Table InboxRow.key :=
  eventIds.foldl (fun current eventId => current.updateWhere
    (fun row => row.key = (eventId, targetPubkey) ∧ p row) f hkey) inbox

/-- Repeating an id has no further effect, so the sweep is one pointwise
update. -/
theorem find?_updateEach (inbox : Table InboxRow.key) (eventIds : List String)
    (targetPubkey : String) (p : InboxRow → Prop) [DecidablePred p]
    (f : InboxRow → InboxRow) (hkey : ∀ row, (f row).key = row.key)
    (hstable : ∀ row, p row → p (f row) → f (f row) = f row) (k : String × String) :
    (updateEach inbox eventIds targetPubkey p f hkey).find? k =
      (inbox.find? k).map (fun row =>
        if (row.eventId ∈ eventIds ∧ row.targetPubkey = targetPubkey) ∧ p row
        then f row else row) := by
  induction eventIds generalizing inbox with
  | nil => simp [updateEach]
  | cons eventId rest ih =>
      rw [updateEach, List.foldl_cons, ← updateEach, ih, Table.find?_updateWhere,
        Option.map_map]
      apply congrArg (fun assign => Option.map assign (inbox.find? k))
      funext row
      by_cases hhead : row.key = (eventId, targetPubkey) ∧ p row
      · have hids := hhead.1
        simp only [InboxRow.key, Prod.mk.injEq] at hids
        have hwhole : (row.eventId ∈ eventId :: rest ∧ row.targetPubkey = targetPubkey) ∧
            p row := ⟨⟨by simp [hids.1], hids.2⟩, hhead.2⟩
        rw [Function.comp_apply, if_pos hhead, if_pos hwhole]
        split
        · rename_i hagain
          exact hstable row hhead.2 hagain.2
        · rfl
      · simp only [Function.comp_apply, if_neg hhead, List.mem_cons]
        simp only [InboxRow.key, Prod.mk.injEq] at hhead
        congr 1
        apply propext
        constructor
        · rintro ⟨⟨hmem, htarget⟩, hp⟩
          exact ⟨⟨Or.inr hmem, htarget⟩, hp⟩
        · rintro ⟨⟨hmem | hmem, htarget⟩, hp⟩
          · exact absurd ⟨⟨hmem, htarget⟩, hp⟩ hhead
          · exact ⟨⟨hmem, htarget⟩, hp⟩

/-- The claim key of a work-start handoff. -/
def workStartClaimKey (targetPubkey : String) : String :=
  "work-start:" ++ targetPubkey

namespace Store

/-! ## Work-start handoff -/

/-- Stage exact inbox events for the recipient's next work-start boundary. -/
def stageFromInbox (store : Store) (rows : List InboxRow) (now : Nat) : Store :=
  { store with
    eventClaims := store.eventClaims.insertAllOrIgnore (rows.map (fun row =>
      { eventId := row.eventId
        claimKey := workStartClaimKey row.targetPubkey
        state := .pending
        fromPubkey := row.fromPubkey
        channelH := row.channelH
        body := ""
        createdAt := now
        updatedAt := 0 })) }

/-! ## Arrival -/

/-- Record an inbound event addressed to a local agent pubkey.  A duplicate
`(event_id, target_pubkey)` is ignored. -/
def enqueueInbox (store : Store) (eventId targetPubkey fromPubkey channelH body : String)
    (createdAt : Nat) : Except StoreError (Bool × Store) := do
  bindParams [createdAt]
  let fresh := (store.inbox.find? (eventId, targetPubkey)).isNone
  let inserted := { store with
    inbox := store.inbox.insertOrIgnore
      (InboxRow.arrival eventId targetPubkey fromPubkey channelH body createdAt) }
  if fresh then
    return (true, { inserted with
      sessions := inserted.sessions.updateWhere
        (fun row => row.pubkey = targetPubkey ∧ row.runtimeState = .running)
        Session.disarmIdle Session.pubkey_disarmIdle })
  else
    return (false, inserted)

/-- A read-only peek, oldest first. -/
def peekPendingForPubkey (store : Store) (targetPubkey : String) : List InboxRow :=
  oldestFirst (store.inbox.select (fun row =>
    row.targetPubkey = targetPubkey ∧ row.state = .pending))

/-! ## Claims -/

/-- `UPDATE inbox SET state='delivered', delivered_at=?2 WHERE p RETURNING …`:
the flipped rows, as they are after the statement. -/
def claimRows (store : Store) (p : InboxRow → Prop) [DecidablePred p] (now : Nat) :
    List InboxRow × Store :=
  ((store.inbox.select p).map (fun row => row.claimed now),
    { store with inbox := store.inbox.updateWhere p (fun row => row.claimed now) })

/-- Atomically claim every pending row for an agent. -/
def claimPendingForPubkey (store : Store) (targetPubkey : String) (now : Nat) :
    Except StoreError (List InboxRow × Store) := do
  bindParams [now]
  let (claimed, after) := store.claimRows
    (fun row => row.targetPubkey = targetPubkey ∧ row.state = .pending) now
  return (oldestFirst claimed, after.stageFromInbox (oldestFirst claimed) now)

/-- Claim one event id after the other, each in its own statement. -/
def claimEach (store : Store) (targetPubkey : String) (now : Nat) :
    List String → List InboxRow × Store
  | [] => ([], store)
  | eventId :: rest =>
      let (claimed, after) := store.claimRows
        (fun row => row.key = (eventId, targetPubkey) ∧ row.state = .pending) now
      let (others, final) := after.claimEach targetPubkey now rest
      (claimed ++ others, final)

/-- Atomically claim only the specified pending event ids for an agent.  The
instant is bound by every statement, so a failure is one of the first. -/
def claimPendingEventIdsForPubkey (store : Store) (eventIds : List String)
    (targetPubkey : String) (now : Nat) : Except StoreError (List InboxRow × Store) := do
  bindParams (eventIds.map (fun _ => now))
  let (claimed, after) := store.claimEach targetPubkey now eventIds
  return (oldestFirst claimed, after)

/-- Roll claimed rows back to `pending` so they are retried rather than lost. -/
def reenqueuePending (store : Store) (eventIds : List String) (targetPubkey : String) :
    Except StoreError (Unit × Store) :=
  return ((), { store with
    inbox := updateEach store.inbox eventIds targetPubkey (fun _ => True)
      InboxRow.reopened })

/-! ## Injection -/

/-- Mark successfully injected rows as awaiting user-prompt echo suppression. -/
def markInjectedForEcho (store : Store) (eventIds : List String) (targetPubkey : String)
    (now : Nat) : Except StoreError (Unit × Store) := do
  let marked : Store := { store with
    inbox := updateEach store.inbox eventIds targetPubkey (fun row => row.state = .delivered)
      InboxRow.markInjected }
  let rows := eventIds.flatMap (fun eventId => marked.inbox.select (fun row =>
    row.key = (eventId, targetPubkey) ∧ row.state = .injected))
  bindParams (rows.map (fun _ => now))
  return ((), marked.stageFromInbox rows now)

/-- The rows whose prompt echo is outstanding, oldest delivery first. -/
def injectedForPubkey (store : Store) (targetPubkey : String) : List InboxRow :=
  (oldestFirst (store.inbox.select (fun row =>
    row.targetPubkey = targetPubkey ∧ row.state = .injected))).insertionSort
    (fun left right => left.deliveredAt ≤ right.deliveredAt)

def consumeInjectedEcho (store : Store) (eventIds : List String) (targetPubkey : String) :
    Except StoreError (Unit × Store) :=
  return ((), { store with
    inbox := updateEach store.inbox eventIds targetPubkey (fun row => row.state = .injected)
      InboxRow.consumeEcho })

end Store

end Mosaico
