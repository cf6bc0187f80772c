import Mosaico.State.LifecycleFrames
import Mosaico.State.SessionFrames

/-!
# What one operation does to an inbox row

An inbox row arrives `pending`, is claimed, and may be reopened, marked injected
or have its echo consumed.  `InboxChange` lists these changes with the operation
that performs each, and `step_inboxChange` says that no operation does anything
else to the ledger.  Rows never disappear.
-/

namespace Mosaico

open Relational Transition

/-- The inbox rows an operation hands to its caller. -/
def StoreOp.returned (store : Store) : StoreOp → List InboxRow
  | .inbox (.claimPendingForPubkey targetPubkey now) =>
      match store.claimPendingForPubkey targetPubkey now with
      | .ok (rows, _) => rows
      | .error _ => []
  | .inbox (.claimPendingEventIdsForPubkey eventIds targetPubkey now) =>
      match store.claimPendingEventIdsForPubkey eventIds targetPubkey now with
      | .ok (rows, _) => rows
      | .error _ => []
  | _ => []

/-- The operation hands the row with key `k` to its caller. -/
def StoreOp.Returns (store : Store) (op : StoreOp) (k : String × String) : Prop :=
  k ∈ (op.returned store).map InboxRow.key

instance (store : Store) (op : StoreOp) (k : String × String) :
    Decidable (op.Returns store k) :=
  inferInstanceAs (Decidable (_ ∈ _))

/-- The operation claims every row like this one. -/
def StoreOp.Claims (row : InboxRow) : StoreOp → Prop
  | .inbox (.claimPendingForPubkey targetPubkey _) =>
      row.targetPubkey = targetPubkey ∧ row.state = .pending
  | .inbox (.claimPendingEventIdsForPubkey eventIds targetPubkey _) =>
      (row.eventId ∈ eventIds ∧ row.targetPubkey = targetPubkey) ∧ row.state = .pending
  | _ => False

instance (row : InboxRow) : DecidablePred (StoreOp.Claims row) := fun op => by
  unfold StoreOp.Claims
  split <;> infer_instance

/-- The operation rolls the row with key `k` back to `pending`. -/
def StoreOp.Reenqueues (k : String × String) : StoreOp → Prop
  | .inbox (.reenqueuePending eventIds targetPubkey) => k.1 ∈ eventIds ∧ k.2 = targetPubkey
  | _ => False

/-- The operation marks the row with key `k` injected. -/
def StoreOp.MarksInjected (k : String × String) : StoreOp → Prop
  | .inbox (.markInjectedForEcho eventIds targetPubkey _) => k.1 ∈ eventIds ∧ k.2 = targetPubkey
  | _ => False

/-- The operation consumes an outstanding prompt echo of key `k`: the prompt hook
names its event, or a turn of its recipient ends. -/
def StoreOp.ConsumesEcho (store : Store) (k : String × String) : StoreOp → Prop
  | .inbox (.consumeInjectedEcho eventIds targetPubkey) =>
      k.1 ∈ eventIds ∧ k.2 = targetPubkey
  | .lifecycle (.applySessionTurnEnded pubkey generation _) =>
      k.2 = pubkey ∧ store.sessions.Any (fun row =>
        Store.isRunningGeneration pubkey generation row ∧ row.workState = .working)
  | _ => False

instance (store : Store) (k : String × String) :
    DecidablePred (StoreOp.ConsumesEcho store k) := fun op => by
  unfold StoreOp.ConsumesEcho
  split <;> infer_instance

/-- What the lookup of key `k` yields after an operation. -/
inductive InboxChange (store : Store) (op : StoreOp) (k : String × String) :
    Option InboxRow → Prop
  | kept : InboxChange store op k (store.inbox.find? k)
  | arrived (hfree : store.inbox.find? k = none)
      (fromPubkey channelH body : String) (createdAt : Nat)
      (hop : op = .inbox (.enqueueInbox k.1 k.2 fromPubkey channelH body createdAt)) :
      InboxChange store op k (some (.arrival k.1 k.2 fromPubkey channelH body createdAt))
  | claimed (row : InboxRow) (now : Nat) (hfind : store.inbox.find? k = some row)
      (hpending : row.state = .pending) (hreturns : op.Returns store k) :
      InboxChange store op k (some (row.claimed now))
  | reenqueued (row : InboxRow) (hfind : store.inbox.find? k = some row)
      (hop : op.Reenqueues k) : InboxChange store op k (some row.reopened)
  | injected (row : InboxRow) (hfind : store.inbox.find? k = some row)
      (hdelivered : row.state = .delivered) : InboxChange store op k (some row.markInjected)
  | echoConsumed (row : InboxRow) (hfind : store.inbox.find? k = some row)
      (hinjected : row.state = .injected) (hop : op.ConsumesEcho store k) :
      InboxChange store op k (some row.consumeEcho)

theorem InboxChange.of_eq {store : Store} {op : StoreOp} {k : String × String}
    {next : Option InboxRow} (heq : next = store.inbox.find? k) :
    InboxChange store op k next :=
  heq ▸ .kept

/-- A pointwise update explains its own lookups, row by row. -/
theorem InboxChange.of_map {store : Store} {op : StoreOp} {k : String × String}
    {p : InboxRow → Prop} [DecidablePred p] {f : InboxRow → InboxRow}
    (hchange : ∀ row, store.inbox.find? k = some row → p row →
      InboxChange store op k (some (f row))) :
    InboxChange store op k
      ((store.inbox.find? k).map (fun row => if p row then f row else row)) := by
  cases hfind : store.inbox.find? k with
  | none => exact .of_eq (by rw [hfind]; rfl)
  | some row =>
      by_cases hp : p row
      · simp only [Option.map_some, if_pos hp]
        exact hchange row hfind hp
      · simp only [Option.map_some, if_neg hp]
        exact .of_eq hfind.symm

namespace Store

/-! ## Claims -/

theorem find?_claimRows (store : Store) (p : InboxRow → Prop) [DecidablePred p] (now : Nat)
    (k : String × String) :
    (store.claimRows p now).2.inbox.find? k =
      (store.inbox.find? k).map (fun row => if p row then row.claimed now else row) :=
  Table.find?_updateWhere store.inbox p (fun row => row.claimed now) (fun _ => rfl) k

variable {store : Store} {now : Nat} {next row : InboxRow}

/-- A claim returns exactly the rows that matched, as they are afterwards. -/
theorem mem_claimRows {p : InboxRow → Prop} [DecidablePred p] :
    next ∈ (store.claimRows p now).1 ↔
      ∃ row, store.inbox.find? row.key = some row ∧ p row ∧ next = row.claimed now := by
  simp only [claimRows, List.mem_map, Table.mem_select]
  constructor
  · rintro ⟨row, ⟨hmem, hp⟩, rfl⟩
    exact ⟨row, Table.mem_rows_iff.mp hmem, hp, rfl⟩
  · rintro ⟨row, hfind, hp, rfl⟩
    exact ⟨row, ⟨Table.mem_of_find? hfind, hp⟩, rfl⟩

/-- The sweep over exact ids is one pointwise claim of the pending rows among
them. -/
theorem find?_claimEach (store : Store) (targetPubkey : String) (now : Nat)
    (eventIds : List String) (k : String × String) :
    (store.claimEach targetPubkey now eventIds).2.inbox.find? k =
      (store.inbox.find? k).map (fun row =>
        if (row.eventId ∈ eventIds ∧ row.targetPubkey = targetPubkey) ∧ row.state = .pending
        then row.claimed now else row) := by
  induction eventIds generalizing store with
  | nil => simp [claimEach]
  | cons eventId rest ih =>
      simp only [claimEach]
      rw [ih, find?_claimRows, Option.map_map]
      apply congrArg (fun assign => Option.map assign (store.inbox.find? k))
      funext row
      by_cases hhead : row.key = (eventId, targetPubkey) ∧ row.state = .pending
      · have hids := hhead.1
        simp only [InboxRow.key, Prod.mk.injEq] at hids
        simp [Function.comp_apply, hhead, hids, InboxRow.claimed]
      · simp only [Function.comp_apply, if_neg hhead, List.mem_cons]
        simp only [InboxRow.key, Prod.mk.injEq] at hhead
        congr 1
        apply propext
        constructor
        · rintro ⟨⟨hmem, htarget⟩, hpending⟩
          exact ⟨⟨Or.inr hmem, htarget⟩, hpending⟩
        · rintro ⟨⟨hmem | hmem, htarget⟩, hpending⟩
          · exact absurd ⟨⟨hmem, htarget⟩, hpending⟩ hhead
          · exact ⟨⟨hmem, htarget⟩, hpending⟩

/-- The sweep over exact ids returns exactly the pending rows among them. -/
theorem mem_claimEach {targetPubkey : String} {eventIds : List String} :
    next ∈ (store.claimEach targetPubkey now eventIds).1 ↔
      ∃ row, store.inbox.find? row.key = some row ∧
        ((row.eventId ∈ eventIds ∧ row.targetPubkey = targetPubkey) ∧ row.state = .pending) ∧
        next = row.claimed now := by
  induction eventIds generalizing store with
  | nil => simp [claimEach]
  | cons eventId rest ih =>
      simp only [claimEach, List.mem_append, mem_claimRows, ih, List.mem_cons]
      constructor
      · rintro (⟨row, hfind, ⟨hkey, hpending⟩, rfl⟩ | ⟨row, hfind, ⟨⟨hmem, htarget⟩, hpending⟩, rfl⟩)
        · simp only [InboxRow.key, Prod.mk.injEq] at hkey
          exact ⟨row, hfind, ⟨⟨Or.inl hkey.1, hkey.2⟩, hpending⟩, rfl⟩
        · rw [find?_claimRows, Option.map_eq_some_iff] at hfind
          obtain ⟨old, hold, hrow⟩ := hfind
          by_cases hhead : old.key = (eventId, targetPubkey) ∧ old.state = .pending
          · rw [if_pos hhead] at hrow
            rw [← hrow] at hpending
            cases hpending
          · rw [if_neg hhead] at hrow
            subst hrow
            exact ⟨old, hold, ⟨⟨Or.inr hmem, htarget⟩, hpending⟩, rfl⟩
      · rintro ⟨row, hfind, ⟨⟨hmem, htarget⟩, hpending⟩, rfl⟩
        by_cases hhead : row.eventId = eventId
        · exact Or.inl ⟨row, hfind, ⟨by simp [InboxRow.key, hhead, htarget], hpending⟩, rfl⟩
        · have hrest : row.eventId ∈ rest := by
            rcases hmem with heq | hrest
            · exact absurd heq hhead
            · exact hrest
          refine Or.inr ⟨row, ?_, ⟨⟨hrest, htarget⟩, hpending⟩, rfl⟩
          rw [find?_claimRows, hfind]
          simp [InboxRow.key, hhead]

theorem claimPendingForPubkey_ok {after : Store} {targetPubkey : String} {rows : List InboxRow}
    (hok : store.claimPendingForPubkey targetPubkey now = .ok (rows, after)) :
    rows = oldestFirst (store.claimRows
        (fun row => row.targetPubkey = targetPubkey ∧ row.state = .pending) now).1 ∧
      after.inbox = (store.claimRows
        (fun row => row.targetPubkey = targetPubkey ∧ row.state = .pending) now).2.inbox := by
  simp only [claimPendingForPubkey, bind_eq_ok, pure_eq_ok, Prod.mk.injEq] at hok
  obtain ⟨_, _, rfl, rfl⟩ := hok
  exact ⟨rfl, rfl⟩

theorem claimPendingEventIdsForPubkey_ok {after : Store} {eventIds : List String}
    {targetPubkey : String} {rows : List InboxRow}
    (hok : store.claimPendingEventIdsForPubkey eventIds targetPubkey now = .ok (rows, after)) :
    rows = oldestFirst (store.claimEach targetPubkey now eventIds).1 ∧
      after = (store.claimEach targetPubkey now eventIds).2 := by
  simp only [claimPendingEventIdsForPubkey, bind_eq_ok, pure_eq_ok, Prod.mk.injEq] at hok
  obtain ⟨_, _, rfl, rfl⟩ := hok
  exact ⟨rfl, rfl⟩

/-! ## The inbox clients -/

/-- A row that an operation returns was claimed by it: it was pending before and
is delivered afterwards. -/
theorem returned_row {op : StoreOp} (hreturned : next ∈ op.returned store) :
    ∃ row now, store.inbox.find? row.key = some row ∧ row.state = .pending ∧
      next = row.claimed now ∧ (store.step op).inbox.find? row.key = some next ∧
      op.Claims row := by
  unfold StoreOp.returned at hreturned
  split at hreturned
  · rename_i targetPubkey now
    split at hreturned
    · rename_i rows after hok
      obtain ⟨rfl, hinbox⟩ := claimPendingForPubkey_ok hok
      rw [mem_oldestFirst, mem_claimRows] at hreturned
      obtain ⟨row, hfind, hp, rfl⟩ := hreturned
      refine ⟨row, now, hfind, hp.2, rfl, ?_, hp⟩
      show (commit (store.claimPendingForPubkey targetPubkey now) store).inbox.find? row.key = _
      rw [hok, commit_ok, hinbox, find?_claimRows, hfind]
      simp [hp]
    · simp at hreturned
  · rename_i eventIds targetPubkey now
    split at hreturned
    · rename_i rows after hok
      obtain ⟨rfl, rfl⟩ := claimPendingEventIdsForPubkey_ok hok
      rw [mem_oldestFirst, mem_claimEach] at hreturned
      obtain ⟨row, hfind, hp, rfl⟩ := hreturned
      refine ⟨row, now, hfind, hp.2, rfl, ?_, hp⟩
      show (commit (store.claimPendingEventIdsForPubkey eventIds targetPubkey now)
        store).inbox.find? row.key = _
      rw [hok, commit_ok, find?_claimEach, hfind]
      simp [hp]
    · simp at hreturned
  · simp at hreturned

private theorem inboxStep_change (store : Store) (op : InboxOp) (k : String × String) :
    InboxChange store (.inbox op) k ((store.inboxStep op).inbox.find? k) := by
  cases op with
  | enqueueInbox eventId targetPubkey fromPubkey channelH body createdAt =>
      cases hok : store.enqueueInbox eventId targetPubkey fromPubkey channelH body createdAt with
      | error error =>
          simp only [inboxStep, hok, commit_error]
          exact .kept
      | ok result =>
          have hinbox : result.2.inbox = store.inbox.insertOrIgnore
              (InboxRow.arrival eventId targetPubkey fromPubkey channelH body createdAt) := by
            simp only [enqueueInbox, bind_eq_ok] at hok
            obtain ⟨_, _, hok⟩ := hok
            split at hok
            · simp only [pure_eq_ok] at hok
              rw [← hok]
            · simp only [pure_eq_ok] at hok
              rw [← hok]
          simp only [inboxStep, hok, commit_ok, hinbox, Table.find?_insertOrIgnore]
          split
          · rename_i hk
            cases hfind : store.inbox.find? k with
            | none =>
                cases k with
                | mk event target =>
                    simp only [InboxRow.key, InboxRow.arrival, Prod.mk.injEq] at hk
                    obtain ⟨rfl, rfl⟩ := hk
                    exact .arrived hfind fromPubkey channelH body createdAt rfl
            | some row => exact .of_eq hfind.symm
          · exact .kept
  | claimPendingForPubkey targetPubkey now =>
      cases hok : store.claimPendingForPubkey targetPubkey now with
      | error error =>
          simp only [inboxStep, hok, commit_error]
          exact .kept
      | ok result =>
          obtain ⟨hrows, hinbox⟩ := claimPendingForPubkey_ok hok
          simp only [inboxStep, hok, commit_ok]
          rw [hinbox, find?_claimRows]
          apply InboxChange.of_map
          intro row hfind hp
          have hkey := Table.key_of_find? hfind
          refine .claimed row now hfind hp.2 ?_
          rw [StoreOp.Returns, List.mem_map]
          refine ⟨row.claimed now, ?_, hkey⟩
          rw [StoreOp.returned, hok]
          show row.claimed now ∈ result.1
          rw [hrows, mem_oldestFirst, mem_claimRows]
          exact ⟨row, hkey ▸ hfind, hp, rfl⟩
  | claimPendingEventIdsForPubkey eventIds targetPubkey now =>
      cases hok : store.claimPendingEventIdsForPubkey eventIds targetPubkey now with
      | error error =>
          simp only [inboxStep, hok, commit_error]
          exact .kept
      | ok result =>
          obtain ⟨hrows, hafter⟩ := claimPendingEventIdsForPubkey_ok hok
          simp only [inboxStep, hok, commit_ok]
          rw [hafter, find?_claimEach]
          apply InboxChange.of_map
          intro row hfind hp
          have hkey := Table.key_of_find? hfind
          refine .claimed row now hfind hp.2 ?_
          rw [StoreOp.Returns, List.mem_map]
          refine ⟨row.claimed now, ?_, hkey⟩
          rw [StoreOp.returned, hok]
          show row.claimed now ∈ result.1
          rw [hrows, mem_oldestFirst, mem_claimEach]
          exact ⟨row, hkey ▸ hfind, hp, rfl⟩
  | reenqueuePending eventIds targetPubkey =>
      simp only [inboxStep, reenqueuePending, pure, Except.pure, commit_ok]
      rw [find?_updateEach]
      · apply InboxChange.of_map
        intro row hfind hp
        have hkey := Table.key_of_find? hfind
        exact .reenqueued row hfind (hkey ▸ hp.1)
      · intro row _ _
        rfl
  | markInjectedForEcho eventIds targetPubkey now =>
      cases hok : store.markInjectedForEcho eventIds targetPubkey now with
      | error error =>
          simp only [inboxStep, hok, commit_error]
          exact .kept
      | ok result =>
          have hinbox : result.2.inbox = updateEach store.inbox eventIds targetPubkey
              (fun row => row.state = .delivered) InboxRow.markInjected := by
            simp only [markInjectedForEcho, bind_eq_ok, pure_eq_ok] at hok
            obtain ⟨_, _, hok⟩ := hok
            rw [← hok]
            rfl
          simp only [inboxStep, hok, commit_ok, hinbox]
          rw [find?_updateEach]
          · apply InboxChange.of_map
            intro row hfind hp
            exact .injected row hfind hp.2
          · intro row _ hagain
            cases hagain
  | consumeInjectedEcho eventIds targetPubkey =>
      simp only [inboxStep, consumeInjectedEcho, pure, Except.pure, commit_ok]
      rw [find?_updateEach]
      · apply InboxChange.of_map
        intro row hfind hp
        have hkey := Table.key_of_find? hfind
        exact .echoConsumed row hfind hp.2 (hkey ▸ hp.1)
      · intro row _ hagain
        cases hagain

/-! ## Every operation -/

private theorem turnEnded_change (store : Store) (pubkey : String) (generation instant : Nat)
    (k : String × String) :
    InboxChange store (.lifecycle (.applySessionTurnEnded pubkey generation instant)) k
      ((commit (store.applySessionTurnEnded pubkey generation instant)
        store).inbox.find? k) := by
  cases hok : store.applySessionTurnEnded pubkey generation instant with
  | error error => exact .kept
  | ok result =>
      rw [commit_ok]
      simp only [applySessionTurnEnded, bind_eq_ok, updateSessions, decide_eq_true_eq] at hok
      obtain ⟨_, _, hok⟩ := hok
      split at hok
      · rename_i hone
        have hended := Table.matching_pos_iff.mp (by rw [hone]; exact Nat.one_pos)
        simp only [pure_eq_ok] at hok
        rw [← hok]
        dsimp only
        rw [Table.find?_updateWhere]
        apply InboxChange.of_map
        intro row hfind hp
        have hkey := Table.key_of_find? hfind
        exact .echoConsumed row hfind hp.2 ⟨hkey ▸ hp.1, hended⟩
      · simp only [pure_eq_ok] at hok
        rw [← hok]
        exact .kept

/-- What every lookup in the inbox yields after an operation. -/
theorem step_inboxChange (store : Store) (op : StoreOp) (k : String × String) :
    InboxChange store op k ((store.step op).inbox.find? k) := by
  cases op with
  | lifecycle op =>
      rcases lifecycleStep_inbox store op with hinbox | ⟨pubkey, generation, instant, rfl⟩
      · exact .of_eq (by rw [step, hinbox])
      · exact turnEnded_change store pubkey generation instant k
  | inbox op => exact inboxStep_change store op k
  | locator op => exact .of_eq (by rw [step, (locatorStep_effect store op).inbox])
  | standing op => exact .of_eq (by rw [step, (standingStep_same store op).inbox])
  | context op => exact .of_eq (by rw [step, (contextStep_effect store op).inbox])

theorem claims_of_returns {op : StoreOp}
    (hfind : store.inbox.find? row.key = some row) (hreturns : op.Returns store row.key) :
    op.Claims row := by
  obtain ⟨next, hnext, hkey⟩ := List.mem_map.mp hreturns
  obtain ⟨old, now, hold, _, rfl, _, hclaims⟩ := returned_row hnext
  have hsame : old.key = row.key := hkey
  rw [hsame, hfind] at hold
  cases hold
  exact hclaims

/-- The inbox after a turn end: every outstanding echo of the pubkey may be consumed. -/
theorem turnEnded_inbox {after : Store} {pubkey : String} {generation instant : Nat}
    {changed : Bool}
    (hok : store.applySessionTurnEnded pubkey generation instant = .ok (changed, after))
    {k : String × String} (hfind : store.inbox.find? k = some row)
    (hstate : row.state ≠ .injected) : after.inbox.find? k = some row := by
  simp only [applySessionTurnEnded, bind_eq_ok, updateSessions, decide_eq_true_eq] at hok
  obtain ⟨_, _, hok⟩ := hok
  split at hok
  · simp only [pure_eq_ok, Prod.mk.injEq] at hok
    rw [← hok.2]
    dsimp only
    rw [Table.find?_updateWhere, hfind, Option.map_some, if_neg (fun hp => hstate hp.2)]
  · simp only [pure_eq_ok, Prod.mk.injEq] at hok
    rw [← hok.2]
    exact hfind

/-- A delivered row becomes injected by the operation that marks it. -/
theorem marksInjected_of_delivered {op : StoreOp} {k : String × String}
    (hfind : store.inbox.find? k = some row)
    (hdelivered : row.state = .delivered) (hnext : (store.step op).inbox.find? k = some next)
    (hinjected : next.state = .injected) : op.MarksInjected k := by
  have hkey : row.key = k := Table.key_of_find? hfind
  let kept := fun after : Store => after.inbox.find? k = some row
  have hsame : kept (store.step op) → False := by
    intro hkept
    cases Eq.trans (Eq.symm hkept) hnext
    rw [hdelivered] at hinjected
    cases hinjected
  have hkept : (store.step op).inbox = store.inbox → False := by
    intro heq
    refine hsame ?_
    show (store.step op).inbox.find? k = some row
    rw [heq]
    exact hfind
  -- a pointwise update that leaves delivered rows alone, or does not make them injected
  have hupdated : ∀ (p : InboxRow → Prop) [DecidablePred p] (f : InboxRow → InboxRow),
      (store.step op).inbox.find? k = (store.inbox.find? k).map (fun row =>
        if p row then f row else row) → (p row → (f row).state ≠ .injected) → False := by
    intro p _ f hmap hnot
    rw [hfind, Option.map_some] at hmap
    by_cases hp : p row
    · rw [if_pos hp] at hmap
      cases hmap.symm.trans hnext
      exact hnot hp hinjected
    · rw [if_neg hp] at hmap
      exact hsame hmap
  cases op with
  | lifecycle op =>
      rcases lifecycleStep_inbox store op with hinbox | ⟨pubkey, generation, instant, rfl⟩
      · exact (hkept hinbox).elim
      · refine (hsame ?_).elim
        refine commit_invariant (I := kept) hfind ?_
        intro changed after hok
        exact turnEnded_inbox hok hfind (by simp [hdelivered])
  | inbox op =>
      cases op with
      | markInjectedForEcho eventIds targetPubkey now =>
          refine Classical.byContradiction (fun hmarks => hsame ?_)
          refine commit_invariant (I := kept) hfind ?_
          intro value after hok
          simp only [markInjectedForEcho, bind_eq_ok, pure_eq_ok, Prod.mk.injEq] at hok
          obtain ⟨_, _, _, rfl⟩ := hok
          show (updateEach store.inbox eventIds targetPubkey (fun row => row.state = .delivered)
            InboxRow.markInjected).find? k = some row
          rw [find?_updateEach, hfind, Option.map_some, if_neg]
          · rintro ⟨hids, _⟩
            subst hkey
            exact hmarks hids
          · intro other _ hagain
            cases hagain
      | enqueueInbox eventId targetPubkey fromPubkey channelH body createdAt =>
          refine (hsame ?_).elim
          refine commit_invariant (I := kept) hfind ?_
          intro fresh after hok
          have hinserted : (store.inbox.insertOrIgnore (InboxRow.arrival eventId targetPubkey
              fromPubkey channelH body createdAt)).find? k = some row := by
            rw [Table.find?_insertOrIgnore, hfind]
            split
            · rfl
            · rfl
          simp only [enqueueInbox, bind_eq_ok] at hok
          obtain ⟨_, _, hok⟩ := hok
          split at hok
          · simp only [pure_eq_ok, Prod.mk.injEq] at hok
            rw [← hok.2]
            exact hinserted
          · simp only [pure_eq_ok, Prod.mk.injEq] at hok
            rw [← hok.2]
            exact hinserted
      | claimPendingForPubkey targetPubkey now =>
          refine (hsame ?_).elim
          refine commit_invariant (I := kept) hfind ?_
          intro rows after hok
          obtain ⟨_, hinbox⟩ := claimPendingForPubkey_ok hok
          show after.inbox.find? k = some row
          rw [hinbox, find?_claimRows, hfind, Option.map_some, if_neg (by simp [hdelivered])]
      | claimPendingEventIdsForPubkey eventIds targetPubkey now =>
          refine (hsame ?_).elim
          refine commit_invariant (I := kept) hfind ?_
          intro rows after hok
          obtain ⟨_, rfl⟩ := claimPendingEventIdsForPubkey_ok hok
          show (store.claimEach targetPubkey now eventIds).2.inbox.find? k = some row
          rw [find?_claimEach, hfind, Option.map_some, if_neg (by simp [hdelivered])]
      | reenqueuePending eventIds targetPubkey =>
          refine (hupdated (fun row => (row.eventId ∈ eventIds ∧ row.targetPubkey = targetPubkey) ∧
            True) InboxRow.reopened ?_ ?_).elim
          · simp only [step, inboxStep, reenqueuePending, pure, Except.pure, commit_ok]
            rw [find?_updateEach]
            intro _ _ _
            rfl
          · intro _ hstate
            cases hstate
      | consumeInjectedEcho eventIds targetPubkey =>
          refine (hupdated (fun row => (row.eventId ∈ eventIds ∧ row.targetPubkey = targetPubkey) ∧
            row.state = .injected) InboxRow.consumeEcho ?_ ?_).elim
          · simp only [step, inboxStep, consumeInjectedEcho, pure, Except.pure, commit_ok]
            rw [find?_updateEach]
            intro _ _ hagain
            cases hagain
          · intro _ hstate
            cases hstate
  | locator op => exact (hkept (locatorStep_effect store op).inbox).elim
  | standing op => exact (hkept (standingStep_same store op).inbox).elim
  | context op => exact (hkept (contextStep_effect store op).inbox).elim

/-- An outstanding row stays outstanding unless the operation claims it or
consumes its echo. -/
theorem outstanding_step (op : StoreOp) {pubkey : String}
    (hfind : store.inbox.find? row.key = some row) (hrow : row.isOutstandingFor pubkey) :
    (store.step op).hasOutstanding pubkey ∨ op.Claims row ∨
      (row.state = .injected ∧ op.ConsumesEcho store row.key) := by
  obtain ⟨htarget, hstate⟩ := hrow
  have hchange := step_inboxChange store op row.key
  generalize hnext : (store.step op).inbox.find? row.key = next at hchange
  have hstays : ∀ later, next = some later → later.isOutstandingFor pubkey →
      (store.step op).hasOutstanding pubkey := by
    intro later hlater hout
    exact ⟨later, Table.mem_of_find? (hnext.trans hlater), hout⟩
  cases hchange with
  | kept => exact Or.inl (hstays row hfind ⟨htarget, hstate⟩)
  | arrived hfree =>
      rw [hfree] at hfind
      cases hfind
  | claimed old now hold hpending hreturns =>
      exact Or.inr (Or.inl (claims_of_returns hfind hreturns))
  | reenqueued old hold hop =>
      rw [hfind] at hold
      cases hold
      exact Or.inl (hstays _ rfl ⟨htarget, Or.inl rfl⟩)
  | injected old hold hdelivered =>
      rw [hfind] at hold
      cases hold
      rw [hdelivered] at hstate
      simp at hstate
  | echoConsumed old hold hinjected hop =>
      rw [hfind] at hold
      cases hold
      exact Or.inr (Or.inr ⟨hinjected, hop⟩)

end Store

end Mosaico
