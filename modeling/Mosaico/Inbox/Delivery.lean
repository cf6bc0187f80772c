import Mosaico.State.InboxEdges

/-!
# Exactly-once claims and no loss

The turn hook and the terminal doorbell race over the pending rows of a
recipient.  A row that is not pending is taken: some claim returned it.  The
argument has two halves, and each is one fact about one operation: only a claim
that returns the row makes it taken, and only a re-enqueue of the row makes it
pending again.
-/

namespace Mosaico

open Relational Transition

/-- The row is known and waits for no claimer. -/
def Store.Taken (store : Store) (k : String × String) : Prop :=
  ∃ row, store.inbox.find? k = some row ∧ row.state ≠ .pending

namespace Store

/-- A claim takes a row that nobody had taken. -/
theorem not_taken_of_returns {store : Store} {op : StoreOp} {k : String × String}
    (hreturns : op.Returns store k) : ¬ store.Taken k := by
  obtain ⟨next, hreturned, rfl⟩ := List.mem_map.mp hreturns
  obtain ⟨row, now, hfind, hpending, rfl, _⟩ := returned_row hreturned
  rintro ⟨taken, hfindTaken, htaken⟩
  have hkey : (row.claimed now).key = row.key := rfl
  rw [hkey, hfind, Option.some.injEq] at hfindTaken
  subst hfindTaken
  exact htaken hpending

theorem taken_of_returns {store : Store} {op : StoreOp} {k : String × String}
    (hreturns : op.Returns store k) : (store.step op).Taken k := by
  obtain ⟨next, hreturned, rfl⟩ := List.mem_map.mp hreturns
  obtain ⟨row, now, _, _, rfl, hnext, _⟩ := returned_row hreturned
  refine ⟨row.claimed now, hnext, ?_⟩
  simp [InboxRow.claimed]

/-- Only a re-enqueue of the row gives it back. -/
theorem reenqueues_of_released {store : Store} {op : StoreOp} {k : String × String}
    (htaken : store.Taken k) (hreleased : ¬ (store.step op).Taken k) :
    op.Reenqueues k := by
  obtain ⟨row, hfind, hstate⟩ := htaken
  -- every change but the re-enqueue leaves a row that is still taken
  have hkeeps : ∀ next, (store.step op).inbox.find? k = some next → next.state = .pending :=
    fun next hnext => by
      by_contra hnot
      exact hreleased ⟨next, hnext, hnot⟩
  have hchange := step_inboxChange store op k
  generalize hnext : (store.step op).inbox.find? k = next at hchange
  cases hchange with
  | kept => exact absurd (hkeeps row (hnext.trans hfind)) hstate
  | arrived hfree => rw [hfind] at hfree; cases hfree
  | claimed old now hfindOld hpending =>
      rw [hfind, Option.some.injEq] at hfindOld
      exact absurd (hfindOld ▸ hpending) hstate
  | reenqueued old hfindOld hop => exact hop
  | injected old => exact absurd (hkeeps _ hnext) (by simp [InboxRow.markInjected])
  | echoConsumed old => exact absurd (hkeeps _ hnext) (by simp [InboxRow.consumeEcho])

/-- Only a claim that returns the row takes it. -/
theorem returns_of_taken {store : Store} {op : StoreOp} {k : String × String}
    (hfree : ¬ store.Taken k) (htaken : (store.step op).Taken k) : op.Returns store k := by
  obtain ⟨row, hrow, hstate⟩ := htaken
  have hpendingBefore : ∀ old, store.inbox.find? k = some old → old.state = .pending :=
    fun old hold => by
      by_contra hnot
      exact hfree ⟨old, hold, hnot⟩
  have hchange := step_inboxChange store op k
  rw [hrow] at hchange
  generalize hnext : some row = next at hchange
  cases hchange with
  | kept => exact absurd (hpendingBefore row hnext.symm) hstate
  | arrived hnone | reenqueued old hfind hop =>
      rw [Option.some.injEq] at hnext
      exact absurd rfl (hnext ▸ hstate)
  | claimed old now hfind hpending hreturns => exact hreturns
  | injected old hfind hdelivered =>
      have hpending := hpendingBefore old hfind
      rw [hdelivered] at hpending
      cases hpending
  | echoConsumed old hfind hinjected =>
      have hpending := hpendingBefore old hfind
      rw [hinjected] at hpending
      cases hpending

/-- Recording a known event again does not touch the ledger. -/
theorem enqueueInbox_known {store : Store} {row : InboxRow} {eventId targetPubkey : String}
    (hknown : store.inbox.find? (eventId, targetPubkey) = some row)
    (fromPubkey channelH body : String) (createdAt : Nat) :
    (store.step (.inbox (.enqueueInbox eventId targetPubkey fromPubkey channelH body
      createdAt))).inbox = store.inbox := by
  show (commit (store.enqueueInbox eventId targetPubkey fromPubkey channelH body createdAt)
    store).inbox = store.inbox
  let kept := fun after : Store => after.inbox = store.inbox
  apply commit_invariant (I := kept)
  · rfl
  · intro fresh after hok
    simp only [enqueueInbox, bind_eq_ok, hknown, Option.isNone_some, Bool.false_eq_true,
      if_false, pure_eq_ok, Prod.mk.injEq] at hok
    obtain ⟨_, _, _, rfl⟩ := hok
    show store.inbox.insertOrIgnore _ = store.inbox
    apply Table.insertOrIgnore_of_some
    exact hknown

end Store

/-! ## Whole runs -/

/-- Between two claims that return one row, the row was re-enqueued. -/
theorem reenqueued_between_returns {start : Store} {k : String × String}
    {before between : List StoreOp} {first second : StoreOp}
    (hfirst : first.Returns (run Store.step start before) k)
    (hsecond : second.Returns (run Store.step start (before ++ first :: between)) k) :
    ∃ op ∈ between, op.Reenqueues k := by
  have htaken : ((run Store.step start before).step first).Taken k :=
    Store.taken_of_returns hfirst
  have hreleased := Store.not_taken_of_returns hsecond
  rw [run_append, run_cons] at hreleased
  obtain ⟨earlier, op, later, rfl, hbefore, hexit⟩ :=
    exists_exit (P := fun store => Store.Taken store k) htaken hreleased
  refine ⟨op, by simp, ?_⟩
  exact Store.reenqueues_of_released hbefore hexit

/-- A row that is not pending was returned to a claimer, and has stayed claimed
since. -/
theorem returned_of_taken {ops : List StoreOp} {k : String × String}
    (htaken : (run Store.step Store.empty ops).Taken k) :
    ∃ before op after, ops = before ++ op :: after ∧
      op.Returns (run Store.step Store.empty before) k ∧
      ∀ elapsed, elapsed <+: after →
        (run Store.step Store.empty (before ++ op :: elapsed)).Taken k := by
  have hempty : ¬ Store.empty.Taken k := by
    rintro ⟨row, hfind, _⟩
    cases hfind
  obtain ⟨before, op, after, rfl, hfree, hsince⟩ :=
    exists_last_entry (P := fun store => Store.Taken store k) hempty htaken
  refine ⟨before, op, after, rfl, ?_, hsince⟩
  apply Store.returns_of_taken hfree
  have hentry := hsince [] List.nil_prefix
  rwa [run_append, run_cons, run_nil] at hentry

/-- Exactly-once claims and no loss.  In every run of the store operations a row
is returned twice only if it was re-enqueued in between, a row is pending unless
a claimer was given it after it last became pending, and recording a known event
again leaves the ledger as it is. -/
theorem run_inbox_exactlyOnce (ops : List StoreOp) :
    (∀ k before first between second after, ops = before ++ first :: between ++ second :: after →
      first.Returns (run Store.step Store.empty before) k →
      second.Returns (run Store.step Store.empty (before ++ first :: between)) k →
      ∃ op ∈ between, op.Reenqueues k) ∧
    (∀ row ∈ (run Store.step Store.empty ops).inbox.rows, row.state = .pending ∨
      ∃ before op after, ops = before ++ op :: after ∧
        op.Returns (run Store.step Store.empty before) row.key ∧
        ∀ elapsed, elapsed <+: after →
          (run Store.step Store.empty (before ++ op :: elapsed)).Taken row.key) ∧
    (∀ row ∈ (run Store.step Store.empty ops).inbox.rows, ∀ fromPubkey channelH body createdAt,
      (run Store.step Store.empty (ops ++ [.inbox (.enqueueInbox row.eventId row.targetPubkey
        fromPubkey channelH body createdAt)])).inbox =
          (run Store.step Store.empty ops).inbox) := by
  refine ⟨?_, ?_, ?_⟩
  · intro k before first between second after _ hfirst hsecond
    exact reenqueued_between_returns hfirst hsecond
  · intro row hrow
    by_cases hpending : row.state = .pending
    · exact Or.inl hpending
    · exact Or.inr (returned_of_taken ⟨row, Table.mem_rows_iff.mp hrow, hpending⟩)
  · intro row hrow fromPubkey channelH body createdAt
    rw [run_append, run_cons, run_nil]
    exact Store.enqueueInbox_known (Table.mem_rows_iff.mp hrow) fromPubkey channelH body
      createdAt

/-- The doorbell claims a row, its injection fails, and the turn hook claims the
row again. -/
theorem run_inbox_exactlyOnce_retried :
    let ops : List StoreOp :=
      [.inbox (.enqueueInbox "event" "agent" "human" "room" "hello" 5),
        .inbox (.claimPendingEventIdsForPubkey ["event"] "agent" 6),
        .inbox (.reenqueuePending ["event"] "agent"),
        .inbox (.claimPendingForPubkey "agent" 7)]
    ∃ op ∈ (ops.drop 2).take 1, op.Reenqueues ("event", "agent") := by
  intro ops
  exact (run_inbox_exactlyOnce ops).1 ("event", "agent") (ops.take 1) ops[1]
    ((ops.drop 2).take 1) ops[3] [] (by decide) (by decide) (by decide)

end Mosaico
