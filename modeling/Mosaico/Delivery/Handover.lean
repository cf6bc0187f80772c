import Mosaico.Delivery.Doorbell
import Mosaico.Inbox.Delivery

/-!
# Handing mentions over

A delivery claims inbox rows, hands their text to the runtime and marks the rows
injected, all before the harness has answered.  At most one party answers for a
row at any time, and only the party of a failed delivery gives it back: a text that
is refused later, dropped or given up on leaves its row where it is, for good.
-/

namespace Mosaico

open Relational Transition Concurrent

/-! ## Who answers for a row -/

namespace Party

/-- The party has claimed the row and still has to hand it over, give it back or learn
what became of it. -/
def holds (k : String × String) : Party → Bool
  | .delivering job => decide (k ∈ job.keys)
  | .dispatching job _ _ => decide (k ∈ job.keys)
  | .reopening job => decide (k ∈ job.keys)
  | .calling _ _ keys => decide (k ∈ keys)
  | .steering _ _ keys => decide (k ∈ keys)
  | .gating _ keys => decide (k ∈ keys)
  | _ => false

/-- The text of the row is in flight, or the harness has taken it. -/
def Carries (k : String × String) : Party → Prop
  | .calling _ _ keys => k ∈ keys
  | .steering _ _ keys => k ∈ keys
  | .gating _ keys => k ∈ keys
  | .answered keys accepted => accepted = true ∧ k ∈ keys
  | _ => False

instance (k : String × String) : DecidablePred (Carries k)
  | .calling _ _ _ => inferInstanceAs (Decidable (_ ∈ _))
  | .steering _ _ _ => inferInstanceAs (Decidable (_ ∈ _))
  | .gating _ _ => inferInstanceAs (Decidable (_ ∈ _))
  | .answered _ _ => inferInstanceAs (Decidable (_ ∧ _))
  | .ringing | .visiting _ | .resolving _ _ _ | .probing _ | .deciding _ _ | .clearing _
  | .injecting _ | .claiming _ | .delivering _ | .dispatching _ _ _ | .reopening _
  | .finalizing _ _ | .tracking _ _ | .starting _ _ _ _ | .refusing _ _ | .recording _
  | .retrying _ | .forcing _ _ | .awaiting _ _ _ _ | .closing _ _ _ _ | .ending _ _ =>
      inferInstanceAs (Decidable False)

/-- The rows whose text a step refuses, drops or gives up on. -/
def refusals (input : Outside) (state : DeliveryState) : Party → List (String × String)
  | .calling _ _ keys => if input.answer.result = .rejectedBeforeStart then keys else []
  | .steering _ _ keys => if input.accepted = true then [] else keys
  | .gating endpointId keys =>
      match state.steerState endpointId with
      | some (.ready _) => []
      | some .awaitingId => if input.timedOut = true then keys else []
      | some .idle => keys
      | none => keys
  | _ => []

/-- The party holds no row and is not about to mark any. -/
def plain : Party → Bool
  | .delivering _ => false
  | .dispatching _ _ _ => false
  | .reopening _ => false
  | .calling _ _ _ => false
  | .steering _ _ _ => false
  | .gating _ _ => false
  | .finalizing _ _ => false
  | _ => true

/-- The number of parties that hold the row after a move, the others aside. -/
def heldBy (move : DeliveryMove) (k : String × String) : Nat :=
  (move.next.holds k).toNat + move.joining.countP (holds k)

/-- What becomes of the rows that a party holds. -/
structure HandsOn (input : Outside) (state : DeliveryState) (party : Party)
    (move : DeliveryMove) : Prop where
  /-- Rows are handed on, and only a claim takes new ones. -/
  held : ∀ k, heldBy move k ≤ (party.holds k).toNat ∨
    (heldBy move k ≤ 1 ∧ ∃ op ∈ party.operation input, op.Returns state.store k)
  /-- A delivery is finalized once its text is in flight. -/
  finalizing : ∀ job completion, move.next = .finalizing job completion →
    ∀ k ∈ job.keys, ∃ other ∈ move.joining, other.Carries k
  joining : ∀ other ∈ move.joining, ∀ job completion, other ≠ .finalizing job completion

variable {input : Outside} {state : DeliveryState} {party : Party}

theorem holds_of_plain {next : Party} (hplain : next.plain = true) (k : String × String) :
    next.holds k = false := by
  cases next <;> first | rfl | cases hplain

theorem goto_plain (shared : DeliveryState) {next : Party} (hplain : next.plain = true) :
    HandsOn input state party (goto shared next) where
  held := by
    intro k
    left
    simp [heldBy, goto, holds_of_plain hplain]
  finalizing := by
    intro job completion heq
    have hnext : next = .finalizing job completion := heq
    rw [hnext] at hplain
    cases hplain
  joining := fun _ hother => by cases hother

/-- The party keeps the rows it holds. -/
theorem goto_holding (shared : DeliveryState) {next : Party}
    (hholds : ∀ k, next.holds k = party.holds k)
    (hnext : ∀ job completion, next ≠ .finalizing job completion) :
    HandsOn input state party (goto shared next) where
  held := by
    intro k
    left
    simp [heldBy, goto, hholds]
  finalizing := fun job completion heq => absurd heq (hnext job completion)
  joining := fun _ hother => by cases hother

/-- A party that holds nothing joins. -/
theorem plain_joins (shared : DeliveryState) {next joined : Party} (hnext : next.plain = true)
    (hjoined : joined.plain = true) : HandsOn input state party ⟨shared, next, [joined]⟩ where
  held := by
    intro k
    left
    simp [heldBy, holds_of_plain hnext, holds_of_plain hjoined]
  finalizing := by
    intro job completion heq
    have heq : next = .finalizing job completion := heq
    rw [heq] at hnext
    cases hnext
  joining := by
    intro other hother job completion heq
    rw [List.mem_singleton.mp hother] at heq
    rw [heq] at hjoined
    cases hjoined

/-- The text goes into flight, and the delivery is finalized. -/
theorem fires (shared : DeliveryState) {job : Job} {completion : Completion} {joined : Party}
    (hholds : ∀ k, (joined.holds k).toNat ≤ (party.holds k).toNat)
    (hcarries : ∀ k ∈ job.keys, joined.Carries k)
    (hjoined : ∀ job completion, joined ≠ .finalizing job completion) :
    HandsOn input state party ⟨shared, .finalizing job completion, [joined]⟩ where
  held := by
    intro k
    left
    have hbound := hholds k
    show 0 + List.countP (Party.holds k) [joined] ≤ _
    rw [Nat.zero_add, List.countP_singleton]
    cases hcase : joined.holds k with
    | true =>
        rw [hcase] at hbound
        exact hbound
    | false => exact Nat.zero_le _
  finalizing := by
    intro other completion heq k hk
    cases heq
    exact ⟨joined, List.mem_singleton_self joined, hcarries k hk⟩
  joining := by
    intro other hother
    rw [List.mem_singleton.mp hother]
    exact hjoined

theorem deliveryFailed_handsOn {job : Job} (hholds : ∀ k, party.holds k = decide (k ∈ job.keys)) :
    HandsOn input state party (deliveryFailed state job) := by
  unfold deliveryFailed
  split
  · exact goto_holding state (fun k => (hholds k).symm) (fun _ _ heq => by cases heq)
  · exact goto_plain state rfl

theorem fireCall_handsOn {job : Job} (nativeId : String)
    (hholds : ∀ k, party.holds k = decide (k ∈ job.keys)) :
    HandsOn input state party (fireCall state job nativeId) :=
  fires _ (fun k => by rw [hholds k]; exact Nat.le_refl _) (fun _ hk => hk)
    (fun _ _ heq => by cases heq)

theorem deliver_handsOn (job : Job) :
    HandsOn input state (.delivering job) (deliver input state job) := by
  have hholds : ∀ k, (Party.delivering job).holds k = decide (k ∈ job.keys) := fun _ => rfl
  unfold deliver
  split
  · split
    · exact deliveryFailed_handsOn hholds
    · exact fires state (fun _ => Nat.zero_le _) (fun _ hk => ⟨rfl, hk⟩)
        (fun _ _ heq => by cases heq)
  · split
    · exact deliveryFailed_handsOn hholds
    · split
      · exact deliveryFailed_handsOn hholds
      · split
        · exact fireCall_handsOn _ hholds
        · exact goto_holding state (fun _ => rfl) (fun _ _ heq => by cases heq)

theorem dispatch_handsOn (job : Job) (nativeId : String) (steer : SteerState) :
    HandsOn input state (.dispatching job nativeId steer) (dispatch state job nativeId steer) := by
  cases steer with
  | ready turnId | awaitingId =>
      exact fires state (fun _ => Nat.le_refl _) (fun _ hk => hk) (fun _ _ heq => by cases heq)
  | idle => exact fireCall_handsOn nativeId (fun _ => rfl)

theorem applyEffect_handsOn (job : Job) (effect : Option DeliveryEffect) :
    HandsOn input state party (applyEffect state job effect) := by
  unfold applyEffect
  split
  · exact goto_plain state rfl
  · split
    · exact goto_plain state rfl
    · exact plain_joins state rfl rfl
  · split
    · exact goto_plain state rfl
    · exact goto_plain state rfl
  · exact goto_plain state rfl

theorem gate_handsOn (endpointId : String) (keys : List (String × String)) :
    HandsOn input state (.gating endpointId keys) (gate input state endpointId keys) := by
  unfold gate
  split
  · exact goto_holding state (fun _ => rfl) (fun _ _ heq => by cases heq)
  · split
    · exact goto_plain state rfl
    · exact goto_holding state (fun _ => rfl) (fun _ _ heq => by cases heq)
  · exact goto_plain state rfl
  · exact goto_plain state rfl

/-- The rows of a claim are the ones its operation returns. -/
theorem claim_handsOn (job : Job) :
    HandsOn input state (.claiming job) (claim input state job) := by
  unfold claim
  split
  · exact goto_plain state rfl
  · rename_i rows after hclaim
    split
    · exact goto_plain _ rfl
    · refine ⟨?_, (fun _ _ heq => by cases heq), (fun _ hother => by cases hother)⟩
      intro k
      by_cases hk : k ∈ rows.map (fun row => (row.eventId, job.pubkey))
      · refine Or.inr ⟨?_, _, rfl, ?_⟩
        · simp only [heldBy, goto, List.countP_nil, Nat.add_zero]
          exact Bool.toNat_le _
        · obtain ⟨row, hrow, rfl⟩ := List.mem_map.mp hk
          have hreturned : row ∈ (StoreOp.inbox (.claimPendingEventIdsForPubkey job.eventIds
              job.pubkey input.now)).returned state.store := by
            simp only [StoreOp.returned, hclaim]
            exact hrow
          obtain ⟨old, now, _, _, rfl, _, hclaims⟩ := Store.returned_row hreturned
          exact List.mem_map.mpr ⟨_, hreturned, Prod.ext rfl hclaims.1.2⟩
      · left
        have hfree : (Party.delivering { job with
            eventIds := rows.map InboxRow.eventId }).holds k = false := by
          simp only [holds, Job.keys, List.map_map, decide_eq_false_iff_not]
          exact hk
        simp only [heldBy, goto, List.countP_nil, Nat.add_zero]
        rw [hfree]
        exact Nat.zero_le _

theorem act_handsOn (party : Party) : HandsOn input state party (party.act input state) := by
  -- A party that only moves on hands nothing over; the steps that carry rows have lemmas.
  cases party with
  | ringing =>
      simp only [act]
      split
      · exact goto_plain state rfl
      · exact goto_plain _ rfl
  | visiting rest =>
      cases rest with
      | nil => exact goto_plain state rfl
      | cons rec rest =>
          simp only [act]
          split
          · exact goto_plain state rfl
          · split
            · exact goto_plain state rfl
            · exact goto_plain state rfl
  | resolving rec eventIds rest =>
      simp only [act]
      split
      · exact goto_plain state rfl
      · split
        · exact goto_plain state rfl
        · exact goto_plain state rfl
  | probing job | retrying pubkey | steering endpointId turnId keys | answered keys accepted =>
      exact goto_plain state rfl
  | deciding job live => exact applyEffect_handsOn job _
  | clearing job | reopening job | refusing job attemptId | calling endpointId call keys
  | closing pubkey generation attemptId result => exact goto_plain _ rfl
  | injecting job | forcing rec endpointId | awaiting pubkey generation attemptId call =>
      simp only [act]
      split
      · exact goto_plain state rfl
      · exact goto_plain state rfl
  | claiming job => exact claim_handsOn job
  | delivering job => exact deliver_handsOn job
  | dispatching job nativeId steer => exact dispatch_handsOn job nativeId steer
  | finalizing job completion =>
      simp only [act, finalize]
      split
      · split
        · exact goto_plain state rfl
        · exact goto_plain _ rfl
      · split
        · exact goto_plain state rfl
        · exact goto_plain state rfl
  | tracking job completion =>
      simp only [act]
      unfold track
      split
      · exact goto_plain state rfl
      · exact goto_plain state rfl
      · split
        · exact goto_plain state rfl
        · exact goto_plain _ rfl
  | starting job attemptId call startedAt =>
      simp only [act, applyStart]
      split
      · exact goto_plain state rfl
      · exact goto_plain _ rfl
      · exact plain_joins _ rfl rfl
  | recording job =>
      simp only [act]
      split
      · exact goto_plain _ rfl
      · exact goto_plain state rfl
  | gating endpointId keys => exact gate_handsOn endpointId keys
  | ending pubkey generation =>
      simp only [act, finishLifecycle]
      split
      · exact goto_plain state rfl
      · exact goto_plain _ rfl
      · exact goto_plain _ rfl

/-- Only the party of a failed delivery gives rows back, and it lets go of them. -/
theorem reenqueues_holds {op : StoreOp} {k : String × String}
    (hop : party.operation input = some op) (hreenqueues : op.Reenqueues k) :
    party.holds k = true ∧ heldBy (party.act input state) k = 0 := by
  cases party with
  | reopening job =>
      cases hop
      obtain ⟨hid, hpubkey⟩ := hreenqueues
      refine ⟨decide_eq_true ?_, rfl⟩
      exact List.mem_map.mpr ⟨k.1, hid, Prod.ext rfl hpubkey.symm⟩
  | clearing job | claiming job | starting job attemptId call startedAt
  | ending pubkey generation =>
      cases hop
      exact hreenqueues.elim
  | finalizing job completion =>
      simp only [operation] at hop
      split at hop
      · cases hop
        exact hreenqueues.elim
      · cases hop
  | _ => cases hop

/-- A refused text is in the hands of nobody afterwards, and the store is as it was. -/
theorem refusals_holds {k : String × String} (hk : k ∈ party.refusals input state) :
    party.holds k = true ∧ heldBy (party.act input state) k = 0 ∧
      party.operation input = none := by
  cases party with
  | calling endpointId call keys =>
      simp only [refusals] at hk
      split at hk
      · exact ⟨decide_eq_true hk, rfl, rfl⟩
      · cases hk
  | steering endpointId turnId keys =>
      simp only [refusals] at hk
      split at hk
      · cases hk
      · exact ⟨decide_eq_true hk, rfl, rfl⟩
  | gating endpointId keys =>
      cases hsteer : state.steerState endpointId with
      | none =>
          simp only [refusals, hsteer] at hk
          simp only [act, gate, hsteer]
          exact ⟨decide_eq_true hk, rfl, rfl⟩
      | some steer =>
          simp only [refusals, hsteer] at hk
          simp only [act, gate, hsteer]
          cases steer with
          | ready turnId => cases hk
          | idle => exact ⟨decide_eq_true hk, rfl, rfl⟩
          | awaitingId =>
              by_cases htimeout : input.timedOut = true
              · rw [if_pos htimeout] at hk
                dsimp only
                rw [if_pos htimeout]
                exact ⟨decide_eq_true hk, rfl, rfl⟩
              · rw [if_neg htimeout] at hk
                cases hk
  | _ => cases hk

end Party

/-! ## A row has at most one holder -/

theorem StoreOp.not_reenqueues_of_byClient {op : StoreOp} {k : String × String}
    (hclient : op.ByClient) : ¬ op.Reenqueues k := by
  intro hreenqueues
  unfold StoreOp.Reenqueues at hreenqueues
  split at hreenqueues
  · exact hclient
  · exact hreenqueues

namespace Deliveries

/-- The number of parties that hold a row. -/
def holders (crew : Deliveries) (k : String × String) : Nat := Crew.count crew (Party.holds k)

/-- A row has at most one holder, and waits for no claimer while it has one. -/
structure Exclusive (crew : Deliveries) : Prop where
  once : ∀ k, holders crew k ≤ 1
  taken : ∀ k, 0 < holders crew k → crew.shared.store.Taken k

theorem fresh_exclusive : Exclusive fresh where
  once := fun _ => Nat.zero_le 1
  taken := fun _ hholder => absurd hholder (Nat.lt_irrefl 0)

variable {crew : Deliveries}

theorem holders_act {index : Nat} {input : Outside} {party : Party}
    (hindex : crew.parties[index]? = some party) (k : String × String) :
    holders (Deliveries.step crew (.act index input)) k + (party.holds k).toNat =
      holders crew k + Party.heldBy (party.act input crew.shared) k := by
  have hcount : (Crew.advance Party.act crew index input).count (Party.holds k) +
      (party.holds k).toNat = crew.count (Party.holds k) +
        ((party.act input crew.shared).next.holds k).toNat +
          (party.act input crew.shared).joining.countP (Party.holds k) :=
    Crew.count_advance hindex
  rw [Nat.add_assoc] at hcount
  exact hcount

theorem holders_pos {index : Nat} {party : Party} (hindex : crew.parties[index]? = some party)
    {k : String × String} (hholds : party.holds k = true) : 0 < holders crew k :=
  Crew.count_pos_iff.mpr ⟨party, List.mem_of_getElem? hindex, hholds⟩

/-- Nobody but a party that acts gives a row back or takes one. -/
theorem step_unheld {event : DeliveryEvent} (hevent : ∀ index input, event ≠ .act index input)
    (k : String × String) :
    holders (Deliveries.step crew event) k = holders crew k ∧
      (crew.shared.store.Taken k → (Deliveries.step crew event).shared.store.Taken k) := by
  have hstays : ∀ op, ¬ op.Reenqueues k → crew.shared.store.Taken k →
      (crew.shared.store.step op).Taken k := by
    intro op hop htaken
    refine Classical.byContradiction (fun hreleased => hop ?_)
    exact Store.reenqueues_of_released htaken hreleased
  have hjoin : ∀ (other : Deliveries) (party : Party), party.holds k = false →
      holders (Crew.join other party) k = holders other k := by
    intro other party hparty
    simp only [holders, Crew.count_join, hparty, Bool.toNat_false, Nat.add_zero]
  cases event with
  | act index input => exact absurd rfl (hevent index input)
  | ring => exact ⟨hjoin crew .ringing rfl, fun htaken => htaken⟩
  | enqueue eventId targetPubkey fromPubkey channelH body createdAt
  | bindEndpoint harness kind endpointId pubkey createdAt =>
      exact ⟨hjoin (Deliveries.apply crew _) .ringing rfl, hstays _ (fun hop => hop)⟩
  | client change =>
      exact ⟨rfl, hstays _ (StoreOp.not_reenqueues_of_byClient change.byClient)⟩
  | ptySend rec endpointId =>
      exact ⟨hjoin crew (.forcing rec endpointId) rfl, fun htaken => htaken⟩
  | spawnPrompt pubkey kind endpointId =>
      exact ⟨hjoin crew (Deliveries.spawnPrompt pubkey kind endpointId) rfl,
        fun htaken => htaken⟩
  | openChild endpointId kind nativeId =>
      simp only [step, openChild]
      split
      · exact ⟨rfl, fun htaken => htaken⟩
      · exact ⟨rfl, fun htaken => htaken⟩
  | childDies endpointId | childReaped endpointId | childUpdate endpointId method turnId
  | terminal endpointId live => exact ⟨rfl, fun htaken => htaken⟩

/-- What a step does to the holders of a row: it hands the row on, gives it back, or
claims it. -/
theorem step_holders (hexclusive : Exclusive crew) (event : DeliveryEvent) (k : String × String) :
    (holders (Deliveries.step crew event) k ≤ holders crew k ∧
      (crew.shared.store.Taken k → (Deliveries.step crew event).shared.store.Taken k)) ∨
    (0 < holders crew k ∧ holders (Deliveries.step crew event) k = 0) ∨
    (¬ crew.shared.store.Taken k ∧ holders (Deliveries.step crew event) k ≤ 1 ∧
      (Deliveries.step crew event).shared.store.Taken k) := by
  -- Only a party that acts hands a row on, puts it back or takes it.
  by_cases hact : ∃ index input, event = .act index input
  · obtain ⟨index, input, rfl⟩ := hact
    cases hindex : crew.parties[index]? with
    | none =>
        left
        simp only [step, Crew.advance_of_none hindex]
        exact ⟨Nat.le_refl _, fun htaken => htaken⟩
    | some party =>
        have hcount := @holders_act _ index input party hindex k
        have hstore : (Deliveries.step crew (.act index input)).shared.store =
            (party.operation input).elim crew.shared.store crew.shared.store.step := by
          rw [step_store]
          simp only [operation, hindex, Option.bind_some]
        have hhands : Party.HandsOn input crew.shared party (party.act input crew.shared) :=
          Party.act_handsOn party
        rcases hhands.held k with
          hless | ⟨hone, op, hop, hreturns⟩
        -- It holds no more than before: either it puts the row back, or the row stays taken.
        · by_cases hback : ∃ op ∈ party.operation input, op.Reenqueues k
          · obtain ⟨op, hop, hreenqueues⟩ := hback
            obtain ⟨hholds, hnone⟩ : party.holds k = true ∧
                Party.heldBy (party.act input crew.shared) k = 0 :=
              Party.reenqueues_holds hop hreenqueues
            right
            left
            have honce := hexclusive.once k
            have hpos := holders_pos hindex hholds
            rw [hholds, hnone, Bool.toNat_true] at hcount
            omega
          · left
            refine ⟨by omega, ?_⟩
            intro htaken
            rw [hstore]
            cases hop : party.operation input with
            | none => exact htaken
            | some op =>
                refine Classical.byContradiction (fun hreleased => hback ⟨op, hop, ?_⟩)
                exact Store.reenqueues_of_released htaken hreleased
        · right
          right
          have hfree := Store.not_taken_of_returns hreturns
          have hnone : holders crew k = 0 := by
            refine Classical.byContradiction (fun hne => hfree ?_)
            exact hexclusive.taken k (Nat.pos_of_ne_zero hne)
          have hop : party.operation input = some op := hop
          refine ⟨hfree, by omega, ?_⟩
          rw [hstore, hop]
          exact Store.taken_of_returns hreturns
  · left
    obtain ⟨hsame, hstays⟩ :=
      @step_unheld crew _ (fun index input heq => hact ⟨index, input, heq⟩) k
    exact ⟨Nat.le_of_eq hsame, hstays⟩

theorem step_exclusive (hexclusive : Exclusive crew) (event : DeliveryEvent) :
    Exclusive (Deliveries.step crew event) where
  once := by
    intro k
    have honce := hexclusive.once k
    rcases step_holders hexclusive event k with ⟨hless, _⟩ | ⟨_, hnone⟩ | ⟨_, hone, _⟩
    · omega
    · omega
    · exact hone
  taken := by
    intro k hholder
    rcases step_holders hexclusive event k with ⟨hless, hstays⟩ | ⟨_, hnone⟩ | ⟨_, _, htaken⟩
    · exact hstays (hexclusive.taken k (by omega))
    · omega
    · exact htaken

/-- A taken row without a holder is out of reach: no claim finds it, and nobody gives
it back. -/
theorem run_unreachable (hexclusive : Exclusive crew) {k : String × String}
    (htaken : crew.shared.store.Taken k) (hnone : holders crew k = 0)
    (events : List DeliveryEvent) :
    (run Deliveries.step crew events).shared.store.Taken k := by
  have hinvariant : Exclusive (run Deliveries.step crew events) ∧
      (run Deliveries.step crew events).shared.store.Taken k ∧
      holders (run Deliveries.step crew events) k = 0 := by
    refine run_invariant (I := fun state : Deliveries =>
      Exclusive state ∧ state.shared.store.Taken k ∧ holders state k = 0)
      ⟨hexclusive, htaken, hnone⟩ ?_ events
    rintro state event ⟨hstate, hrow, hholders⟩
    refine ⟨step_exclusive hstate event, ?_⟩
    rcases step_holders hstate event k with ⟨hless, hstays⟩ | ⟨hpos, _⟩ | ⟨hfree, _, _⟩
    · exact ⟨hstays hrow, by omega⟩
    · omega
    · exact absurd hrow hfree
  exact hinvariant.2.1

/-! ## Accepted or returned -/

/-- The rows whose text the event refuses. -/
def refusals (crew : Deliveries) : DeliveryEvent → List (String × String)
  | .act index input => (crew.parties[index]?).elim [] (Party.refusals input crew.shared)
  | _ => []

/-- Every refused text can still come back: some continuation finds its row pending. -/
def Returned (crew : Deliveries) (event : DeliveryEvent) : Prop :=
  ∀ k ∈ refusals crew event, ∃ later row,
    (run Deliveries.step (Deliveries.step crew event) later).shared.store.inbox.find? k =
      some row ∧ row.state = .pending

/-- The harness refuses no text. -/
def Accepting (crew : Deliveries) (event : DeliveryEvent) : Prop := refusals crew event = []

/-- The text of the row is in flight, or the harness has taken it. -/
def Carried (crew : Deliveries) (k : String × String) : Prop :=
  ∃ party ∈ crew.parties, party.Carries k

instance (crew : Deliveries) (k : String × String) : Decidable (Carried crew k) :=
  inferInstanceAs (Decidable (∃ party ∈ crew.parties, _))

/-- A row that is marked injected, or consumed, has its text in flight or accepted. -/
def AcceptedOnly (crew : Deliveries) : Prop :=
  ∀ k row, crew.shared.store.inbox.find? k = some row →
    row.state = .injected ∨ row.state = .echoConsumed → Carried crew k

/-- A refused text leaves its row taken and out of reach. -/
theorem refused_unreachable (hexclusive : Exclusive crew) {event : DeliveryEvent}
    {k : String × String} (hk : k ∈ refusals crew event) (later : List DeliveryEvent) :
    (run Deliveries.step (Deliveries.step crew event) later).shared.store.Taken k := by
  cases event with
  | act index input =>
      simp only [refusals] at hk
      cases hindex : crew.parties[index]? with
      | none =>
          rw [hindex] at hk
          cases hk
      | some party =>
          rw [hindex] at hk
          obtain ⟨hholds, hnone, hop⟩ := Party.refusals_holds hk
          have hcount := @holders_act _ index input party hindex k
          have honce := hexclusive.once k
          have hpos := holders_pos hindex hholds
          rw [hholds, hnone, Bool.toNat_true] at hcount
          refine run_unreachable (step_exclusive hexclusive _) ?_ (by omega) later
          have hstore : (Deliveries.step crew (.act index input)).shared.store =
              crew.shared.store := by
            rw [step_store]
            simp only [operation, hindex, Option.bind_some, hop, Option.elim_none]
          rw [hstore]
          exact hexclusive.taken k hpos
  | _ => cases hk

theorem returned_iff_accepting (hexclusive : Exclusive crew) (event : DeliveryEvent) :
    Returned crew event ↔ Accepting crew event := by
  constructor
  · intro hreturned
    refine List.eq_nil_iff_forall_not_mem.mpr ?_
    intro k hk
    obtain ⟨later, row, hrow, hpending⟩ := hreturned k hk
    obtain ⟨taken, htaken, hstate⟩ := refused_unreachable hexclusive hk later
    cases hrow.symm.trans htaken
    exact hstate hpending
  · intro haccepting k hk
    rw [Accepting] at haccepting
    rw [haccepting] at hk
    cases hk

end Deliveries

/-- A text that is not refused stays in flight or is accepted. -/
theorem Party.carries_act {input : Outside} {state : DeliveryState} {party : Party}
    {k : String × String} (hcarries : party.Carries k) (hk : k ∉ party.refusals input state) :
    (party.act input state).next.Carries k := by
  cases party with
  | calling endpointId call keys =>
      refine ⟨decide_eq_true (fun hrejected => hk ?_), hcarries⟩
      simp only [refusals, if_pos hrejected]
      exact hcarries
  | steering endpointId turnId keys =>
      refine ⟨?_, hcarries⟩
      by_contra hrefused
      simp only [refusals, if_neg hrefused] at hk
      exact hk hcarries
  | gating endpointId keys =>
      have hkeys : k ∈ keys := hcarries
      cases hsteer : state.steerState endpointId with
      | none =>
          simp only [refusals, hsteer] at hk
          exact absurd hkeys hk
      | some steer =>
          simp only [refusals, hsteer] at hk
          simp only [act, gate, hsteer]
          cases steer with
          | ready turnId => exact hkeys
          | idle => exact absurd hkeys hk
          | awaitingId =>
              by_cases htimeout : input.timedOut = true
              · rw [if_pos htimeout] at hk
                exact absurd hkeys hk
              · dsimp only
                rw [if_neg htimeout]
                exact hkeys
  | answered keys accepted => exact hcarries
  | _ => exact hcarries.elim

/-- The delivery that marks a row is about to be finalized. -/
theorem Party.finalizing_of_marks {input : Outside} {party : Party} {op : StoreOp}
    {k : String × String} (hop : party.operation input = some op) (hmarks : op.MarksInjected k) :
    ∃ job completion, party = .finalizing job completion ∧ k ∈ job.keys := by
  cases party with
  | finalizing job completion =>
      simp only [operation] at hop
      split at hop
      · cases hop
        obtain ⟨hid, hpubkey⟩ := hmarks
        exact ⟨job, completion, rfl, List.mem_map.mpr ⟨k.1, hid, Prod.ext rfl hpubkey.symm⟩⟩
      · cases hop
  | clearing job | claiming job | reopening job | starting job attemptId call startedAt
  | ending pubkey generation =>
      cases hop
      exact hmarks.elim
  | _ => cases hop

theorem StoreOp.not_marksInjected_of_byClient {op : StoreOp} {k : String × String}
    (hclient : op.ByClient) : ¬ op.MarksInjected k := by
  intro hmarks
  unfold StoreOp.MarksInjected at hmarks
  split at hmarks
  · exact hclient
  · exact hmarks

/-- Where an injected or consumed row comes from. -/
theorem Store.marked_before {store : Store} {op : StoreOp} {k : String × String} {next : InboxRow}
    (hnext : (store.step op).inbox.find? k = some next)
    (hmarked : next.state = .injected ∨ next.state = .echoConsumed) :
    (∃ row, store.inbox.find? k = some row ∧
      (row.state = .injected ∨ row.state = .echoConsumed)) ∨ op.MarksInjected k := by
  have hchange := step_inboxChange store op k
  generalize hafter : (store.step op).inbox.find? k = after at hchange
  rw [hnext] at hafter
  cases hchange with
  | kept => exact Or.inl ⟨next, hafter.symm, hmarked⟩
  | arrived hfree =>
      cases hafter
      simp [InboxRow.arrival] at hmarked
  | claimed row now hfind hpending hreturns =>
      cases hafter
      simp [InboxRow.claimed] at hmarked
  | reenqueued row hfind hop =>
      cases hafter
      simp [InboxRow.reopened] at hmarked
  | injected row hfind hdelivered =>
      cases hafter
      exact Or.inr (marksInjected_of_delivered hfind hdelivered hnext rfl)
  | echoConsumed row hfind hinjected hop => exact Or.inl ⟨row, hfind, Or.inl hinjected⟩

namespace Deliveries

variable {crew : Deliveries}

/-- What the runs keep in which the harness refuses nothing. -/
structure Accounted (crew : Deliveries) : Prop where
  marked : AcceptedOnly crew
  finalizing : ∀ party ∈ crew.parties, ∀ job completion, party = .finalizing job completion →
    ∀ k ∈ job.keys, Carried crew k

theorem fresh_accounted : Accounted fresh where
  marked := by
    intro k row hfind
    cases hfind
  finalizing := fun _ hparty => by cases hparty

/-- A carried text stays carried when it is not refused. -/
theorem carried_act {index : Nat} {input : Outside} {party : Party}
    (hindex : crew.parties[index]? = some party)
    (haccepting : party.refusals input crew.shared = []) {k : String × String}
    (hcarried : Carried crew k) : Carried (Deliveries.step crew (.act index input)) k := by
  obtain ⟨other, hother, hcarries⟩ := hcarried
  have hadvanced : other = party ∨ other ∈ (Crew.advance Party.act crew index input).parties :=
    Crew.mem_advance_of_mem hindex hother
  rcases hadvanced with rfl | hstays
  · refine ⟨_, Crew.next_mem_advance hindex, Party.carries_act hcarries ?_⟩
    rw [haccepting]
    exact List.not_mem_nil
  · exact ⟨other, hstays, hcarries⟩

theorem step_accounted_act {index : Nat} {input : Outside} {party : Party}
    (haccounted : Accounted crew) (hindex : crew.parties[index]? = some party)
    (haccepting : party.refusals input crew.shared = []) :
    Accounted (Deliveries.step crew (.act index input)) where
  marked := by
    intro k next hnext hmarked
    refine carried_act hindex haccepting ?_
    rw [step_store] at hnext
    simp only [operation, hindex, Option.bind_some] at hnext
    cases hop : party.operation input with
    | none =>
        rw [hop] at hnext
        exact haccounted.marked k next hnext hmarked
    | some op =>
        rw [hop] at hnext
        rcases Store.marked_before hnext hmarked with ⟨row, hrow, hbefore⟩ | hmarks
        · exact haccounted.marked k row hrow hbefore
        · obtain ⟨job, completion, heq, hk⟩ := Party.finalizing_of_marks hop hmarks
          exact haccounted.finalizing party (List.mem_of_getElem? hindex) job completion heq k hk
  finalizing := by
    intro other hother job completion heq k hk
    have hhands : Party.HandsOn input crew.shared party (party.act input crew.shared) :=
      Party.act_handsOn party
    rcases Crew.mem_advance hindex hother with hold | hnext | hjoining
    · exact carried_act hindex haccepting
        (haccounted.finalizing other hold job completion heq k hk)
    · obtain ⟨joined, hjoined, hcarries⟩ :=
        hhands.finalizing job completion (hnext.symm.trans heq) k hk
      exact ⟨joined, Crew.joining_mem_advance hindex hjoined, hcarries⟩
    · exact absurd heq (hhands.joining other hjoining job completion)

theorem step_accounted (haccounted : Accounted crew) {event : DeliveryEvent}
    (haccepting : Accepting crew event) : Accounted (Deliveries.step crew event) := by
  -- A party that joins finalizes nothing yet.
  have hjoin : ∀ {other : Deliveries} {party : Party}, Accounted other →
      (∀ job completion, party ≠ .finalizing job completion) →
      Accounted (Crew.join other party) := by
    intro other party hother hparty
    have hcarried : ∀ k, Carried other k → Carried (Crew.join other party) k := by
      rintro k ⟨carrier, hcarrier, hcarries⟩
      exact ⟨carrier, List.mem_append_left _ hcarrier, hcarries⟩
    refine ⟨fun k row hfind hmarked => hcarried k (hother.marked k row hfind hmarked), ?_⟩
    intro member hmember job completion heq k hk
    rcases List.mem_append.mp hmember with hold | hnew
    · exact hcarried k (hother.finalizing member hold job completion heq k hk)
    · rw [List.mem_singleton.mp hnew] at heq
      exact absurd heq (hparty job completion)
  -- An operation that marks nothing leaves each mark with its carrier.
  have happly : ∀ op, ¬ (∃ k, op.MarksInjected k) → Accounted (Deliveries.apply crew op) := by
    intro op hop
    refine ⟨?_, haccounted.finalizing⟩
    intro k next hnext hmarked
    rcases Store.marked_before hnext hmarked with ⟨row, hrow, hbefore⟩ | hmarks
    · exact haccounted.marked k row hrow hbefore
    · exact absurd ⟨k, hmarks⟩ hop
  cases event with
  | act index input =>
      cases hindex : crew.parties[index]? with
      | none =>
          simp only [step, Crew.advance_of_none hindex]
          exact haccounted
      | some party =>
          refine step_accounted_act haccounted hindex ?_
          simp only [Accepting, refusals, hindex, Option.elim_some] at haccepting
          exact haccepting
  | ring | ptySend rec endpointId => exact hjoin haccounted (fun _ _ heq => by cases heq)
  | enqueue eventId targetPubkey fromPubkey channelH body createdAt
  | bindEndpoint harness kind endpointId pubkey createdAt =>
      exact hjoin (happly _ (fun hop => hop.elim fun _ hmarks => hmarks))
        (fun _ _ heq => by cases heq)
  | client change =>
      exact happly _ (fun hop => hop.elim fun _ hmarks =>
        StoreOp.not_marksInjected_of_byClient change.byClient hmarks)
  | spawnPrompt pubkey kind endpointId =>
      exact hjoin haccounted (fun _ _ heq => by cases heq)
  | openChild endpointId kind nativeId =>
      simp only [step, openChild]
      split
      · exact haccounted
      · exact ⟨haccounted.marked, haccounted.finalizing⟩
  | childDies endpointId | childReaped endpointId | childUpdate endpointId method turnId
  | terminal endpointId live => exact ⟨haccounted.marked, haccounted.finalizing⟩

end Deliveries

/-! ## Runs -/

/-- A run accepts or returns every mention that it hands over exactly if the harness
refuses none: no start is rejected, and no steer is refused, dropped or given up on. -/
theorem run_acceptedOrReturned_iff (events : List DeliveryEvent) :
    ((∀ elapsed, elapsed <+: events →
        Deliveries.AcceptedOnly (run Deliveries.step Deliveries.fresh elapsed)) ∧
      ∀ before event after, events = before ++ event :: after →
        Deliveries.Returned (run Deliveries.step Deliveries.fresh before) event) ↔
      Guarded Deliveries.step Deliveries.Accepting Deliveries.fresh events := by
  have hreturned := @forall_step_iff_guarded _ _ Deliveries.step _
    (fun crew event _ => Deliveries.Returned crew event) Deliveries.Exclusive _ events
    Deliveries.fresh_exclusive
    (fun crew event hexclusive => Deliveries.step_exclusive hexclusive event)
    (fun crew event hexclusive => Deliveries.returned_iff_accepting hexclusive event)
  constructor
  · rintro ⟨_, hlaw⟩
    exact hreturned.mp hlaw
  · intro hguarded
    refine ⟨?_, hreturned.mpr hguarded⟩
    rintro elapsed ⟨later, rfl⟩
    -- Where nothing is refused, every marked row is one that a harness has accepted.
    have haccounted : Deliveries.Accounted (run Deliveries.step Deliveries.fresh elapsed) :=
      guarded_run_invariant Deliveries.fresh_accounted
        (fun crew event haccounted haccepting =>
          Deliveries.step_accounted haccounted haccepting)
        (guarded_append.mp hguarded).1
    exact haccounted.marked

/-! ## A steer that is dropped -/

/-- A mention arrives while the turn of an earlier one runs and its id is not known
yet, and the turn ends first. -/
def droppedRun : List DeliveryEvent :=
  [.client (launchOver "app-server" "pk" 1), .openChild "child" .appServer "thread",
    .bindEndpoint "codex" .appServer "child" "pk" 2,
    .enqueue "first" "pk" "alice" "root" "hi" 3] ++
    List.replicate 13 (.act 1 (plainly 4)) ++
    .enqueue "second" "pk" "alice" "root" "hi again" 30 ::
    List.replicate 10 (.act 4 (plainly 31)) ++
    [.act 2 (plainly 40), .act 5 (plainly 41)]

/-- The row of the dropped steer stays injected. -/
theorem dropped_steer_lost :
    ¬ ∀ events : List DeliveryEvent,
      (∀ elapsed, elapsed <+: events →
        Deliveries.AcceptedOnly (run Deliveries.step Deliveries.fresh elapsed)) ∧
      ∀ before event after, events = before ++ event :: after →
        Deliveries.Returned (run Deliveries.step Deliveries.fresh before) event := by
  intro hclaim
  have hlost : (∃ row, (run Deliveries.step Deliveries.fresh
      droppedRun).shared.store.inbox.find? ("second", "pk") = some row ∧
      row.state = .injected) ∧
      ¬ Deliveries.Carried (run Deliveries.step Deliveries.fresh droppedRun) ("second", "pk") := by
    decide +kernel
  obtain ⟨⟨row, hrow, hinjected⟩, hnot⟩ := hlost
  exact hnot ((hclaim droppedRun).1 droppedRun (List.prefix_refl _) _ row hrow (Or.inl hinjected))

end Mosaico
