import Mosaico.Claims.Retention
import Mosaico.Fabric.EchoAgreement
import Mosaico.Inbox.Delivery

/-!
# Inbox rows as tombstones

The row of an event and its recipient is all that says that the event was delivered.
Deliveries of the event that find the row change nothing.  A retention pass deletes the
row a week after it was delivered, and the next delivery makes a pending one.
-/

namespace Mosaico

open Relational Transition

/-- What happens around an inbox row. -/
inductive InboxStep where
  /-- The relay delivers a chat event. -/
  | deliver (event : Event) (now : Nat)
  /-- The recipient or the local sender works on the ledger. -/
  | ledger (op : InboxOp)
  | prune (now : Nat)
  deriving DecidableEq

namespace Intake

def inboxStep (json : WireJson) (intake : Intake) : InboxStep → Intake
  | .deliver event now => (intake.materializeKindChat json event now).2
  | .ledger op => intake.setStore (intake.db.store.step (.inbox op))
  | .prune now => { intake with db := intake.db.pruneRetainedState now }

def inboxRow (intake : Intake) (k : String × String) : Option InboxRow :=
  intake.db.store.inbox.find? k

/-- The delivery of the event writes the row, if it is not there: its author is admitted,
and the target is mentioned and has a route. -/
def Reaches (intake : Intake) (event : Event) (k : String × String) : Prop :=
  ∃ chat, decodeChat event = some chat ∧ chatAdmission intake.db event = .accepted ∧
    k.1 = event.id ∧ k.2 ∈ collectPPubkeys event ∧
    Routed intake.db.store event chat.channel k.2 ∧ event.createdAt ≤ Rust.i64Max

/-- The step enqueues the row, if it is not there. -/
def Enqueues (intake : Intake) (k : String × String) : InboxStep → Prop
  | .deliver event _ => intake.Reaches event k
  | .ledger (.enqueueInbox eventId targetPubkey _ _ _ createdAt) =>
      k = (eventId, targetPubkey) ∧ createdAt ≤ Rust.i64Max
  | _ => False

/-- The step gives the row back. -/
def Reenqueues (k : String × String) : InboxStep → Prop
  | .ledger op => (StoreOp.inbox op).Reenqueues k
  | _ => False

/-- The row waits for a claimer. -/
def Pending (intake : Intake) (k : String × String) : Prop :=
  ∃ row, intake.inboxRow k = some row ∧ row.state = .pending

/-! ## One step -/

/-- A delivery that reaches the row writes it unless it is there; any other leaves it. -/
theorem inboxRow_deliver (json : WireJson) (intake : Intake) (event : Event) (now : Nat)
    (k : String × String) :
    (intake.Reaches event k ∧ ∃ arrived : InboxRow, arrived.state = .pending ∧
        (intake.inboxStep json (.deliver event now)).inboxRow k =
          keepFirst arrived (intake.inboxRow k)) ∨
      (¬ intake.Reaches event k ∧
        (intake.inboxStep json (.deliver event now)).inboxRow k = intake.inboxRow k) := by
  show (_ ∧ ∃ arrived : InboxRow, _ ∧
    (intake.materializeKindChat json event now).2.db.store.inbox.find? k = _) ∨ (_ ∧
    (intake.materializeKindChat json event now).2.db.store.inbox.find? k = _)
  unfold materializeKindChat
  split
  · rename_i hdecode
    refine Or.inr ⟨?_, ?_⟩
    · rintro ⟨chat, hchat, _⟩
      rw [hdecode] at hchat
      cases hchat
    · show (intake.materializeEvent json event).db.store.inbox.find? k = _
      rw [materializeEvent, insertEvent_store]
      rfl
  · rename_i chat hdecode
    unfold materializeChat
    split
    · rename_i hadmitted
      have hrouted := inbox_routeChat ((intake.materializeEvent json event).materializeChatMessage
        event chat) event chat k
      have hstore : ((intake.materializeEvent json event).materializeChatMessage
          event chat).db.store = intake.db.store := by
        rw [materializeChatMessage_db, materializeEvent, insertEvent_store]
      rw [hstore] at hrouted
      have hafter : ((intake.acceptChat json event chat).2.removeQuarantinedEvent
          event.id).db.store.inbox.find? k = _ := hrouted
      -- An admitted chat writes a row for each recipient that is routed.
      by_cases hreaches : ∃ pubkey ∈ collectPPubkeys event,
          Routed intake.db.store event chat.channel pubkey ∧ k = (event.id, pubkey) ∧
            event.createdAt ≤ Rust.i64Max
      · rw [if_pos hreaches] at hafter
        obtain ⟨pubkey, hmentioned, hroute, hk, hbound⟩ := hreaches
        refine Or.inl ⟨⟨chat, hdecode, hadmitted, ?_⟩, _, rfl, hafter⟩
        rw [hk]
        exact ⟨rfl, hmentioned, hroute, hbound⟩
      · rw [if_neg hreaches] at hafter
        refine Or.inr ⟨?_, hafter⟩
        rintro ⟨other, hother, _, hid, hmentioned, hroute, hbound⟩
        rw [hdecode, Option.some.injEq] at hother
        subst hother
        exact hreaches ⟨k.2, hmentioned, hroute, Prod.ext hid rfl, hbound⟩
    · rename_i hunhydrated
      refine Or.inr ⟨?_, ?_⟩
      · rintro ⟨_, _, hadmitted, _⟩
        rw [hunhydrated] at hadmitted
        cases hadmitted
      · show (intake.quarantineChat json event _ now).db.store.inbox.find? k = _
        rw [quarantineChat_db]
        rfl
    · rename_i hrejected
      refine Or.inr ⟨?_, rfl⟩
      rintro ⟨_, _, hadmitted, _⟩
      rw [hrejected] at hadmitted
      cases hadmitted

theorem inboxRow_prune (json : WireJson) (intake : Intake) (now : Nat) (k : String × String) :
    (intake.inboxStep json (.prune now)).inboxRow k =
      (intake.db.store.pruneRetainedState now).inbox.find? k := rfl

theorem inboxRow_ledger (json : WireJson) (intake : Intake) (op : InboxOp)
    (k : String × String) :
    (intake.inboxStep json (.ledger op)).inboxRow k =
      (intake.db.store.step (.inbox op)).inbox.find? k := rfl

theorem not_pending_of_none {intake : Intake} {k : String × String}
    (hfree : intake.inboxRow k = none) : ¬ intake.Pending k := by
  rintro ⟨row, hrow, _⟩
  rw [hfree] at hrow
  cases hrow

/-- Under a free key, a row is pending after a step exactly if the step enqueues it. -/
theorem step_pending_iff_of_none (json : WireJson) {intake : Intake} {k : String × String}
    (hfree : intake.inboxRow k = none) (step : InboxStep) :
    (intake.inboxStep json step).Pending k ↔ intake.Enqueues k step := by
  cases step with
  | deliver event now =>
      rcases inboxRow_deliver json intake event now k with
        ⟨hreaches, arrived, hpending, hrow⟩ | ⟨hmisses, hrow⟩
      · rw [hfree] at hrow
        exact iff_of_true ⟨arrived, hrow, hpending⟩ hreaches
      · exact iff_of_false (not_pending_of_none (hrow.trans hfree)) hmisses
  | ledger op =>
      have hfind : intake.db.store.inbox.find? k = none := hfree
      have hchange := Store.step_inboxChange intake.db.store (.inbox op) k
      rw [← inboxRow_ledger json] at hchange
      constructor
      · rintro ⟨row, hrow, _⟩
        rw [hrow] at hchange
        generalize hnext : some row = next at hchange
        cases hchange with
        | kept => rw [hfind] at hnext; cases hnext
        -- Of the changes only an arrival starts from no row.
        | arrived _ fromPubkey channelH body createdAt hop =>
            cases hop
            refine ⟨rfl, ?_⟩
            by_contra hbound
            have hstays := find?_enqueueInbox intake.db.store k.1 k.2 fromPubkey channelH body
              createdAt k
            rw [if_neg (fun hhit => hbound hhit.2), hfind] at hstays
            have hrow' : (none : Option InboxRow) = some row := hstays.symm.trans hrow
            cases hrow'
        | claimed old _ hold | reenqueued old hold | injected old hold | echoConsumed old hold =>
            rw [hfind] at hold; cases hold
      · intro henqueues
        cases op with
        | enqueueInbox eventId targetPubkey fromPubkey channelH body createdAt =>
            have hhit : k = (eventId, targetPubkey) ∧ createdAt ≤ Rust.i64Max := henqueues
            have hrow := find?_enqueueInbox intake.db.store eventId targetPubkey fromPubkey
              channelH body createdAt k
            rw [if_pos hhit, hfind] at hrow
            exact ⟨_, hrow, rfl⟩
        | claimPendingForPubkey targetPubkey now
        | claimPendingEventIdsForPubkey eventIds targetPubkey now
        | reenqueuePending eventIds targetPubkey | markInjectedForEcho eventIds targetPubkey now
        | consumeInjectedEcho eventIds targetPubkey => exact henqueues.elim
  | prune now =>
      refine iff_of_false ?_ (fun henqueues => henqueues)
      rcases inbox_pruneRetainedState intake.db.store now k with hsame | ⟨hnone, _⟩
      · exact not_pending_of_none ((inboxRow_prune json intake now k).trans (hsame.trans hfree))
      · exact not_pending_of_none ((inboxRow_prune json intake now k).trans hnone)

/-- A row that was taken becomes pending only by a re-enqueue. -/
theorem step_not_pending_of_taken (json : WireJson) {intake : Intake} {k : String × String}
    (htaken : intake.db.store.Taken k) {step : InboxStep} (hkeeps : ¬ Reenqueues k step) :
    ¬ (intake.inboxStep json step).Pending k := by
  obtain ⟨row, hrow, hstate⟩ := htaken
  -- Whoever finds the row as it was finds it taken.
  have hsame : ∀ after : Intake, after.inboxRow k = some row → ¬ after.Pending k := by
    rintro after hafter ⟨next, hnext, hpending⟩
    rw [hafter, Option.some.injEq] at hnext
    exact hstate (hnext ▸ hpending)
  cases step with
  | deliver event now =>
      rcases inboxRow_deliver json intake event now k with ⟨_, arrived, _, hafter⟩ | ⟨_, hafter⟩
      · exact hsame _ (hafter.trans (by rw [show intake.inboxRow k = some row from hrow]; rfl))
      · exact hsame _ (hafter.trans hrow)
  | ledger op =>
      rintro ⟨next, hnext, hpending⟩
      have htaken : intake.db.store.Taken k := ⟨row, hrow, hstate⟩
      refine hkeeps (Store.reenqueues_of_released htaken ?_)
      rintro ⟨other, hother, hnot⟩
      have hboth : some next = some other := hnext.symm.trans hother
      cases hboth
      exact hnot hpending
  | prune now =>
      rcases inbox_pruneRetainedState intake.db.store now k with hkept | ⟨hnone, _⟩
      · exact hsame _ ((inboxRow_prune json intake now k).trans (hkept.trans hrow))
      · exact not_pending_of_none ((inboxRow_prune json intake now k).trans hnone)

/-! ## Runs -/

/-- The row was claimed at some point, and no step since gave it back. -/
def Delivered (json : WireJson) (start : Intake) (inputs : List InboxStep)
    (k : String × String) : Prop :=
  ∃ earlier later, inputs = earlier ++ later ∧
    (run (inboxStep json) start earlier).db.store.Taken k ∧ ∀ step ∈ later, ¬ Reenqueues k step

/-- No step that does not give a delivered row back makes it pending again. -/
def StaysDelivered (json : WireJson) (start : Intake) (inputs : List InboxStep)
    (k : String × String) : Prop :=
  ∀ before step after, inputs = before ++ step :: after → Delivered json start before k →
    ¬ Reenqueues k step → ¬ (run (inboxStep json) start (before ++ [step])).Pending k

/-- A delivered row is still there whenever a step would enqueue it. -/
def FoundDelivered (json : WireJson) (start : Intake) (inputs : List InboxStep)
    (k : String × String) : Prop :=
  ∀ before step after, inputs = before ++ step :: after → Delivered json start before k →
    (run (inboxStep json) start before).Enqueues k step →
      (run (inboxStep json) start before).inboxRow k ≠ none

theorem run_concat (json : WireJson) (start : Intake) (before : List InboxStep)
    (step : InboxStep) :
    run (inboxStep json) start (before ++ [step]) =
      inboxStep json (run (inboxStep json) start before) step := by
  rw [run_append]
  rfl

/-- A step that enqueues the row does not give it back. -/
theorem not_reenqueues_of_enqueues {intake : Intake} {k : String × String} {step : InboxStep}
    (henqueues : intake.Enqueues k step) : ¬ Reenqueues k step := by
  cases step with
  | deliver event now | prune now => exact fun hnone => hnone
  | ledger op =>
      cases op with
      | enqueueInbox eventId targetPubkey fromPubkey channelH body createdAt =>
          exact fun hnone => hnone
      | claimPendingForPubkey targetPubkey now
      | claimPendingEventIdsForPubkey eventIds targetPubkey now
      | reenqueuePending eventIds targetPubkey | markInjectedForEcho eventIds targetPubkey now
      | consumeInjectedEcho eventIds targetPubkey => exact henqueues.elim

/-- If every enqueue finds it, a delivered row is taken or gone. -/
theorem taken_or_gone {json : WireJson} {start : Intake} {k : String × String}
    {inputs : List InboxStep} (hfound : FoundDelivered json start inputs k)
    {earlier later after : List InboxStep} (hinputs : inputs = earlier ++ later ++ after)
    (htaken : (run (inboxStep json) start earlier).db.store.Taken k)
    (hkeeps : ∀ step ∈ later, ¬ Reenqueues k step) :
    ¬ (run (inboxStep json) start (earlier ++ later)).Pending k := by
  induction later using List.reverseRecOn generalizing after with
  | nil =>
      rw [List.append_nil]
      rintro ⟨row, hrow, hpending⟩
      obtain ⟨other, hother, hstate⟩ := htaken
      have hboth : some row = some other := hrow.symm.trans hother
      cases hboth
      exact hstate hpending
  | append_singleton later step ih =>
      have hlater : ∀ other ∈ later, ¬ Reenqueues k other :=
        fun other hother => hkeeps other (by simp [hother])
      have hstep : ¬ Reenqueues k step := hkeeps step (by simp)
      have hsplit : inputs = earlier ++ later ++ step :: after := by simpa using hinputs
      have hbefore := ih hsplit hlater
      rw [← List.append_assoc, run_concat]
      cases hfind : (run (inboxStep json) start (earlier ++ later)).inboxRow k with
      | none =>
          rw [step_pending_iff_of_none json hfind]
          intro henqueues
          exact hfound (earlier ++ later) step after (by simpa using hinputs)
            ⟨earlier, later, rfl, htaken, hlater⟩ henqueues hfind
      | some row =>
          have hrowTaken : (run (inboxStep json) start (earlier ++ later)).db.store.Taken k :=
            ⟨row, hfind, fun hpending => hbefore ⟨row, hfind, hpending⟩⟩
          exact step_not_pending_of_taken json hrowTaken hstep

/-- A delivered row becomes pending again, without a re-enqueue, exactly if a step enqueues
it after a retention pass deleted it. -/
theorem staysDelivered_iff (json : WireJson) (start : Intake) (inputs : List InboxStep)
    (k : String × String) :
    StaysDelivered json start inputs k ↔ FoundDelivered json start inputs k := by
  constructor
  · intro hstays before step after hinputs hdelivered henqueues hgone
    -- A row that is gone becomes pending with the next enqueue of its key.
    refine hstays before step after hinputs hdelivered (not_reenqueues_of_enqueues henqueues) ?_
    rw [run_concat, step_pending_iff_of_none json hgone]
    exact henqueues
  · rintro hfound before step after hinputs ⟨earlier, later, rfl, htaken, hkeeps⟩ hstep
    rw [List.append_assoc]
    have hsplit : inputs = earlier ++ (later ++ [step]) ++ after := by simpa using hinputs
    refine taken_or_gone hfound hsplit htaken ?_
    intro other hother
    rcases List.mem_append.mp hother with hearlier | hlast
    · exact hkeeps other hearlier
    · rw [List.mem_singleton.mp hlast]
      exact hstep

/-! ## A row that is pruned -/

/-- A mention is delivered and claimed, pruned more than a week later, and delivered again. -/
def prunedMention : List InboxStep :=
  [.deliver taggingChat.signed 100, .ledger (.claimPendingForPubkey "agent" 100),
    .prune 700000]

/-- The delivered mention is pending again. -/
theorem pruned_mention_pending_again :
    ¬ ∀ (json : WireJson) (start : Intake) (inputs : List InboxStep) (k : String × String),
      StaysDelivered json start inputs k := by
  intro hclaim
  have hstays := hclaim taggingJson (hostingTagged .running)
    (prunedMention ++ [.deliver taggingChat.signed 700001]) ("event", "agent") prunedMention
    (.deliver taggingChat.signed 700001) [] rfl
  have htaken : (run (inboxStep taggingJson) (hostingTagged .running)
      (prunedMention.take 2)).db.store.Taken ("event", "agent") :=
    ⟨⟨"event", "agent", .delivered, "alice", "channel", "help", 10, 100⟩, by decide +kernel,
      by decide⟩
  have hdelivered : Delivered taggingJson (hostingTagged .running) prunedMention
      ("event", "agent") := by
    refine ⟨prunedMention.take 2, [.prune 700000], rfl, htaken, ?_⟩
    intro step hstep
    rw [List.mem_singleton.mp hstep]
    exact fun hnone => hnone
  refine hstays hdelivered (fun hnone => hnone) ?_
  exact ⟨⟨"event", "agent", .pending, "alice", "channel", "help", 10, 0⟩, by decide +kernel, rfl⟩

end Intake

end Mosaico
