import Mosaico.Delivery.Handover
import Mosaico.Delivery.Scans

/-!
# Wake-ups

A pending mention of a session that can be reached waits for a scan.  What can leave
it waiting for nobody is a scan that fails, a failed delivery that gives its rows
back, and an outside change that makes a session reachable without a ring.  A scan
that has found an endpoint dead clears the locators of its generation, whatever
endpoint they name by then.
-/

namespace Mosaico

open Relational Transition Concurrent

/-! ## Operations that make no mention wait -/

/-- The operation makes no session reachable. -/
def StoreOp.calm : StoreOp → Bool
  | .inbox _ => true
  | .lifecycle (.applySessionTurnStarted _ _ _) => true
  | .lifecycle (.applySessionTurnEnded _ _ _) => true
  | .locator (.clearRuntimeLocatorIfGeneration _ _ _ _) => true
  | _ => false

namespace Store

variable {store : Store} {op : StoreOp}

theorem Hosts.before_calm (hcalm : op.calm = true) {pubkey : String} {generation : Nat}
    {kind : TransportKind} {endpointId : String}
    (hafter : (store.step op).Hosts pubkey generation kind endpointId) :
    store.Hosts pubkey generation kind endpointId := by
  unfold StoreOp.calm at hcalm
  split at hcalm
  · rename_i op
    have hsame := (inboxStep_same store op).1
    exact hafter.before (inboxStep_sameRuntimes store op) hsame.sessionLocators
  · rename_i target turn instant
    exact hafter.before (turnStarted_sameRuntimes store target turn instant)
      (lifecycleStep_sameOutsideSessions store rfl).sessionLocators
  · rename_i target turn instant
    refine hafter.before (turnEnded_sameRuntimes store target turn instant) ?_
    refine (lifecycleStep_sessionLocators store
      (.applySessionTurnEnded target turn instant)).resolve_right ?_
    rintro ⟨_, _, _, heq⟩
    cases heq
  · exact hafter.before_clear
  · cases hcalm

/-- A mention becomes pending when it arrives or when it is given back. -/
theorem pending_before {k : String × String} {next : InboxRow}
    (hnext : (store.step op).inbox.find? k = some next) (hpending : next.state = .pending) :
    (∃ row, store.inbox.find? k = some row ∧ row.state = .pending) ∨ op.Reenqueues k ∨
      ∃ fromPubkey channelH body createdAt,
        op = .inbox (.enqueueInbox k.1 k.2 fromPubkey channelH body createdAt) := by
  have hchange := step_inboxChange store op k
  generalize hfound : (store.step op).inbox.find? k = found at hchange hnext
  cases hchange with
  | kept => exact Or.inl ⟨next, hnext, hpending⟩
  | arrived hfree fromPubkey channelH body createdAt hop =>
      exact Or.inr (Or.inr ⟨fromPubkey, channelH, body, createdAt, hop⟩)
  | claimed row now hfind hwas hreturns | injected row hfind hdelivered
  | echoConsumed row hfind hinjected hop =>
      cases hnext
      cases hpending
  | reenqueued row hfind hop => exact Or.inr (Or.inl hop)

/-- A session is hosted at an endpoint that a locator records. -/
theorem Hosts.recorded {pubkey : String} {generation : Nat} {kind : TransportKind}
    {endpointId : String} (hhosts : store.Hosts pubkey generation kind endpointId) :
    ∃ row ∈ store.sessionLocators.rows, row.locatorValue = endpointId := by
  obtain ⟨session, _, _, _, hresolved⟩ := hhosts
  obtain ⟨_, locator, hfound, hvalue⟩ := hostedEndpointFor_eq_resolved.mp hresolved
  simp only [runtimeLocatorForSession, bind_eq_ok, pure_eq_ok] at hfound
  obtain ⟨_, _, _, _, hhead⟩ := hfound
  have hmem := List.mem_of_mem_head? (Option.mem_def.mpr hhead)
  exact ⟨locator, (Table.mem_select.mp hmem).1, hvalue⟩

end Store

/-- A session that can be reached after a change could be reached before. -/
theorem DeliveryState.reached_before {before after : DeliveryState} {pubkey : String}
    {reach : Reach} (hreached : after.reached pubkey = some reach)
    (hhosts : after.store.Hosts pubkey reach.generation reach.kind reach.endpointId →
      before.store.Hosts pubkey reach.generation reach.kind reach.endpointId)
    (hlive : before.store.Hosts pubkey reach.generation reach.kind reach.endpointId →
      after.isLive reach.kind reach.endpointId = true →
        before.isLive reach.kind reach.endpointId = true) :
    before.reached pubkey = some reach := by
  obtain ⟨hafter, hreach, hpubkey⟩ := DeliveryState.reached_eq_some.mp hreached
  have hbefore := hhosts hafter
  exact DeliveryState.reached_eq_some.mpr ⟨hbefore, hlive hbefore hreach, hpubkey⟩

/-! ## Runs without lost wake-ups -/

namespace Deliveries

/-- Every mention that waits is observed by a party. -/
def InView (crew : Deliveries) : Prop :=
  ∀ wait, crew.shared.Waits wait → ∃ party ∈ crew.parties, party.Observes wait

/-- The change makes no session reachable. -/
def Quiet (crew after : Deliveries) : Prop :=
  ∀ row ∈ after.shared.store.sessions.rows, ∀ reach ∈ after.shared.reached row.pubkey,
    crew.shared.reached row.pubkey = some reach

instance (crew after : Deliveries) : Decidable (Quiet crew after) :=
  inferInstanceAs (Decidable (∀ row ∈ after.shared.store.sessions.rows, _))

/-- No locator names the endpoint. -/
def Unrecorded (crew : Deliveries) (endpointId : String) : Prop :=
  ∀ row ∈ crew.shared.store.sessionLocators.rows, row.locatorValue ≠ endpointId

instance (crew : Deliveries) (endpointId : String) : Decidable (Unrecorded crew endpointId) :=
  inferInstanceAs (Decidable (∀ row ∈ crew.shared.store.sessionLocators.rows, _))

/-- The rows of a failed delivery go back to a session that is out of reach, or that
is about to be visited. -/
def ReopensInView (crew : Deliveries) (job : Job) : Prop :=
  ∀ reach ∈ crew.shared.reached job.pubkey, ∃ party ∈ crew.parties, party.Visits reach

instance (crew : Deliveries) (job : Job) : Decidable (ReopensInView crew job) :=
  inferInstanceAs (Decidable (∀ reach ∈ crew.shared.reached job.pubkey, _))

/-- The locators of the generation still name the endpoint of the job. -/
def ClearsOwn (crew : Deliveries) (job : Job) : Prop :=
  ∀ row ∈ crew.shared.store.sessionLocators.rows,
    crew.shared.store.clearedBy job.pubkey job.kind.locatorKind job.generation row →
      row.locatorValue = job.endpointId

instance (crew : Deliveries) (job : Job) : Decidable (ClearsOwn crew job) :=
  inferInstanceAs (Decidable (∀ row ∈ crew.shared.store.sessionLocators.rows, _))

/-- The job whose rows the party is about to give back. -/
def reopens : Party → Option Job
  | .reopening job => some job
  | _ => none

/-- The job whose endpoint the party is about to clear. -/
def clears : Party → Option Job
  | .clearing job => some job
  | _ => none

def AttentiveParty (crew : Deliveries) (input : Outside) (party : Party) : Prop :=
  party.Reads input ∧ (∀ job ∈ reopens party, ReopensInView crew job) ∧
    ∀ job ∈ clears party, ClearsOwn crew job

instance (crew : Deliveries) (input : Outside) : DecidablePred (AttentiveParty crew input) :=
  fun _ => inferInstanceAs (Decidable (_ ∧ _))

/-- The reads and claims of scans go through, rows are given back in view, a clearing
finds the endpoint it is about, and nobody else makes a session reachable. -/
def Attentive (crew : Deliveries) : DeliveryEvent → Prop
  | .act index input => ∀ party ∈ crew.parties[index]?, AttentiveParty crew input party
  | .client change =>
      change.op.calm = true ∨ Quiet crew (Deliveries.step crew (.client change))
  | .openChild endpointId _ _ => Unrecorded crew endpointId
  | .terminal endpointId live => live = false ∨ Unrecorded crew endpointId
  | _ => True

instance (crew : Deliveries) : DecidablePred (Attentive crew)
  | .act index input =>
      inferInstanceAs (Decidable (∀ party ∈ crew.parties[index]?, AttentiveParty crew input party))
  | .client _ => inferInstanceAs (Decidable (_ ∨ _))
  | .openChild endpointId _ _ => inferInstanceAs (Decidable (Unrecorded crew endpointId))
  | .terminal _ _ => inferInstanceAs (Decidable (_ ∨ _))
  | .ring | .enqueue _ _ _ _ _ _ | .bindEndpoint _ _ _ _ _ | .ptySend _ _ | .spawnPrompt _ _ _
  | .childDies _ | .childReaped _ | .childUpdate _ _ _ => inferInstanceAs (Decidable True)

variable {crew : Deliveries}

variable {event : DeliveryEvent} {input : Outside} {party : Party} {index : Nat}

/-- A mention that waits after a step waited before. -/
theorem waits_before {wait : Wait} (hwaits : (Deliveries.step crew event).shared.Waits wait)
    (hreached : crew.shared.reached wait.pubkey = some wait.toReach)
    (hop : ∀ op ∈ Deliveries.operation crew event, ¬ op.Reenqueues wait.key ∧
      ∀ fromPubkey channelH body createdAt,
        op ≠ .inbox (.enqueueInbox wait.eventId wait.pubkey fromPubkey channelH body createdAt)) :
    crew.shared.Waits wait := by
  refine ⟨?_, hreached⟩
  obtain ⟨next, hnext, hpending⟩ := hwaits.1
  rw [step_store] at hnext
  cases hoperation : Deliveries.operation crew event with
  | none =>
      rw [hoperation] at hnext
      exact ⟨next, hnext, hpending⟩
  | some op =>
      rw [hoperation] at hnext
      obtain ⟨hkept, hnew⟩ := hop op hoperation
      rcases Store.pending_before hnext hpending with hbefore | hback | ⟨_, _, _, _, harrives⟩
      · exact hbefore
      · exact absurd hback hkept
      · exact absurd harrives (hnew _ _ _ _)

/-- The operations of a party make no session reachable, and only a reopening makes
mentions pending. -/
theorem operation_calm {op : StoreOp} (hop : party.operation input = some op) :
    op.calm = true ∧
      (∀ k, op.Reenqueues k → ∃ job, party = .reopening job ∧ k.2 = job.pubkey) ∧
      ∀ eventId targetPubkey fromPubkey channelH body createdAt,
        op ≠ .inbox (.enqueueInbox eventId targetPubkey fromPubkey channelH body createdAt) := by
  cases party with
  | clearing job | claiming job | starting job attemptId call startedAt
  | ending pubkey generation =>
      cases hop
      exact ⟨rfl, fun _ hback => hback.elim, fun _ _ _ _ _ _ heq => by cases heq⟩
  | reopening job =>
      cases hop
      exact ⟨rfl, fun _ hback => ⟨job, rfl, hback.2⟩, fun _ _ _ _ _ _ heq => by cases heq⟩
  | finalizing job completion =>
      simp only [Party.operation] at hop
      split at hop
      · cases hop
        exact ⟨rfl, fun _ hback => hback.elim, fun _ _ _ _ _ _ heq => by cases heq⟩
      · cases hop
  | _ => cases hop

/-- A step of a party makes no session reachable. -/
theorem reached_before_act {state : DeliveryState}
    (hattends : Party.Attends state party (party.act input state)) {pubkey : String}
    {reach : Reach} (hreached : (party.act input state).shared.reached pubkey = some reach) :
    state.reached pubkey = some reach := by
  refine DeliveryState.reached_before hreached ?_ ?_
  · intro hhosts
    rw [Party.act_store] at hhosts
    cases hop : party.operation input with
    | none =>
        rw [hop] at hhosts
        exact hhosts
    | some op =>
        rw [hop] at hhosts
        exact hhosts.before_calm (operation_calm hop).1
  · intro _ hlive
    rw [← hattends.live]
    exact hlive

/-- A party that acts attentively leaves every mention in view. -/
theorem act_inView
    (hindex : crew.parties[index]? = some party) (hattentive : AttentiveParty crew input party)
    (hview : InView crew) : InView (Deliveries.step crew (.act index input)) := by
  have hattends : Party.Attends crew.shared party (party.act input crew.shared) :=
    Party.act_attends hattentive.1
  have hshared : (Deliveries.step crew (.act index input)).shared =
      (party.act input crew.shared).shared := by
    simp only [step, Crew.advance_of_some hindex]
  intro wait hwaits
  rw [hshared] at hwaits
  have hreached := reached_before_act hattends hwaits.2
  -- whoever observes the mention now still does so afterwards
  have hstays : ∀ other ∈ crew.parties, other.Observes wait →
      (other = party → (party.act input crew.shared).next.Observes wait ∨
        ∃ joined ∈ (party.act input crew.shared).joining, joined.Observes wait) →
      ∃ later ∈ (Deliveries.step crew (.act index input)).parties, later.Observes wait := by
    intro other hother hobserves hmoving
    have hadvanced : other = party ∨ other ∈ (Crew.advance Party.act crew index input).parties :=
      Crew.mem_advance_of_mem hindex hother
    rcases hadvanced with heq | hkept
    · rcases hmoving heq with hnext | ⟨joined, hjoined, hobserves⟩
      · exact ⟨_, Crew.next_mem_advance hindex, hnext⟩
      · exact ⟨joined, Crew.joining_mem_advance hindex hjoined, hobserves⟩
    · exact ⟨other, hkept, hobserves⟩
  by_cases hbefore : crew.shared.Pending wait.key
  · obtain ⟨other, hother, hobserves⟩ := hview wait ⟨hbefore, hreached⟩
    refine hstays other hother hobserves ?_
    rintro rfl
    exact hattends.observed wait ⟨hbefore, hreached⟩ hwaits.1 hobserves
  · obtain ⟨job, rfl, hpubkey⟩ : ∃ job, party = .reopening job ∧ wait.pubkey = job.pubkey := by
      obtain ⟨next, hnext, hpending⟩ := hwaits.1
      rw [Party.act_store] at hnext
      cases hop : party.operation input with
      | none =>
          rw [hop] at hnext
          exact absurd ⟨next, hnext, hpending⟩ hbefore
      | some op =>
          rw [hop] at hnext
          obtain ⟨_, hback, hnew⟩ := operation_calm hop
          rcases Store.pending_before hnext hpending with hwas | hreturned | ⟨_, _, _, _, harrives⟩
          · exact absurd hwas hbefore
          · exact hback wait.key hreturned
          · exact absurd harrives (hnew _ _ _ _ _ _)
    have hreach : wait.toReach ∈ crew.shared.reached job.pubkey := by
      rw [← hpubkey]
      exact hreached
    obtain ⟨other, hother, hvisits⟩ : ∃ other ∈ crew.parties, other.Visits wait.toReach :=
      hattentive.2.1 job rfl wait.toReach hreach
    refine hstays other hother (Or.inl hvisits) ?_
    rintro rfl
    exact Or.inl (Or.inl hvisits)

/-- A party that joins is one more that observes. -/
theorem InView.join (hview : InView crew) : InView (Crew.join crew party) := by
  intro wait hwaits
  obtain ⟨other, hother, hobserves⟩ := hview wait hwaits
  exact ⟨other, List.mem_append_left _ hother, hobserves⟩

/-- A ring observes everything. -/
theorem ring_inView (crew : Deliveries) : InView (Crew.join crew .ringing) := by
  intro wait _
  exact ⟨.ringing, List.mem_append_right _ (List.mem_singleton_self _), Or.inl (Or.inl rfl)⟩

/-- A change of the outside keeps the parties, and makes nothing wait. -/
theorem outside_inView (hview : InView crew)
    (hparties : (Deliveries.step crew event).parties = crew.parties)
    (hop : ∀ op ∈ Deliveries.operation crew event, op.ByClient)
    (hreached : ∀ pubkey reach,
      (Deliveries.step crew event).shared.reached pubkey = some reach →
        crew.shared.reached pubkey = some reach) : InView (Deliveries.step crew event) := by
  intro wait hwaits
  have hbefore : crew.shared.Waits wait := by
    refine waits_before hwaits (hreached _ _ hwaits.2) ?_
    intro op hmem
    refine ⟨StoreOp.not_reenqueues_of_byClient (hop op hmem), ?_⟩
    intro fromPubkey channelH body createdAt heq
    have hclient := hop op hmem
    rw [heq] at hclient
    exact hclient
  obtain ⟨other, hother, hobserves⟩ := hview wait hbefore
  refine ⟨other, ?_, hobserves⟩
  rw [hparties]
  exact hother

/-- A change of the children and terminals makes no session reachable that has no
endpoint coming alive. -/
theorem reached_before_endpoint {after : DeliveryState} (hstore : after.store = crew.shared.store)
    (hlive : ∀ kind endpointId, ¬ Unrecorded crew endpointId →
      after.isLive kind endpointId = true → crew.shared.isLive kind endpointId = true)
    {pubkey : String} {reach : Reach} (hreached : after.reached pubkey = some reach) :
    crew.shared.reached pubkey = some reach := by
  refine DeliveryState.reached_before hreached ?_ ?_
  · rw [hstore]
    exact id
  · intro hhosts
    obtain ⟨row, hrow, hvalue⟩ := hhosts.recorded
    exact hlive _ _ (fun hunrecorded => hunrecorded row hrow hvalue)

/-- An update of a child that brings it to life nowhere. -/
theorem updateChild_isLive {endpointId : String} {f : RpcChild → RpcChild}
    (hf : ∀ child, (f child).kind = child.kind ∧
      ((f child).registered = true → child.registered = true) ∧
      ((f child).alive = true → child.alive = true)) (kind : TransportKind) (other : String)
    (hlive : (crew.updateChild endpointId f).shared.isLive kind other = true) :
    crew.shared.isLive kind other = true := by
  have hany : ((crew.updateChild endpointId f).shared.children other).any (fun child =>
      child.registered && child.alive && decide (child.kind = kind)) = true →
      (crew.shared.children other).any (fun child =>
        child.registered && child.alive && decide (child.kind = kind)) = true := by
    simp only [updateChild, Function.update_apply]
    split
    · rename_i heq
      subst heq
      intro hafter
      cases hchild : crew.shared.children other with
      | none =>
          rw [hchild] at hafter
          cases hafter
      | some child =>
          rw [hchild] at hafter
          obtain ⟨hkind, hregistered, halive⟩ := hf child
          simp only [Option.map_some, Option.any_some, Bool.and_eq_true,
            decide_eq_true_eq] at hafter ⊢
          exact ⟨⟨hregistered hafter.1.1, halive hafter.1.2⟩, hkind ▸ hafter.2⟩
    · exact id
  cases kind with
  | pty => exact hlive
  | acp | appServer => exact hany hlive

theorem child_inView {endpointId : String} {f : RpcChild → RpcChild}
    (hstep : Deliveries.step crew event = crew.updateChild endpointId f)
    (hop : Deliveries.operation crew event = none)
    (hf : ∀ child, (f child).kind = child.kind ∧
      ((f child).registered = true → child.registered = true) ∧
      ((f child).alive = true → child.alive = true))
    (hview : InView crew) : InView (Deliveries.step crew event) := by
  refine outside_inView hview (by rw [hstep]; rfl) (by simp [hop]) ?_
  intro pubkey reach hreached
  rw [hstep] at hreached
  have hstore : (crew.updateChild endpointId f).shared.store = crew.shared.store := rfl
  exact reached_before_endpoint hstore (fun kind other _ => updateChild_isLive hf kind other)
    hreached

/-- An attentive step leaves every mention in view. -/
theorem step_inView (hattentive : Attentive crew event)
    (hview : InView crew) : InView (Deliveries.step crew event) := by
  cases event with
  | act index input =>
      cases hindex : crew.parties[index]? with
      | none =>
          simp only [step, Crew.advance_of_none hindex]
          exact hview
      | some party => exact act_inView hindex (hattentive party hindex) hview
  | ring => exact ring_inView crew
  | enqueue eventId targetPubkey fromPubkey channelH body createdAt
  | bindEndpoint harness kind endpointId pubkey createdAt => exact ring_inView _
  | client change =>
      refine outside_inView hview rfl ?_ ?_
      · intro op hop
        cases hop
        exact change.byClient
      · intro pubkey reach hreached
        rcases hattentive with hcalm | hquiet
        · refine DeliveryState.reached_before hreached (fun hhosts => hhosts.before_calm hcalm) ?_
          exact fun _ hlive => hlive
        · obtain ⟨⟨row, hrow, _⟩, _⟩ := DeliveryState.reached_eq_some.mp hreached
          have hkey : row.pubkey = pubkey := Table.key_of_find? hrow
          have hreached := hquiet row (Table.mem_of_find? hrow) reach (hkey ▸ hreached)
          rw [hkey] at hreached
          exact hreached
  | ptySend rec endpointId | spawnPrompt pubkey kind endpointId => exact hview.join
  | openChild endpointId kind nativeId =>
      refine outside_inView hview ?_ (fun _ hop => by cases hop) ?_
      · simp only [step, openChild]
        split
        · rfl
        · rfl
      · intro pubkey reach hreached
        refine reached_before_endpoint (step_store crew (.openChild endpointId kind nativeId)) ?_
          hreached
        -- An endpoint that no session has recorded yet reaches none.
        intro kind other hrecorded hlive
        have hne : other ≠ endpointId := fun heq => hrecorded (heq ▸ hattentive)
        simp only [step, openChild] at hlive
        split at hlive
        · exact hlive
        · cases kind with
          | pty => exact hlive
          | acp | appServer =>
              simp only [DeliveryState.isLive, Function.update_of_ne hne] at hlive
              exact hlive
  | childDies endpointId =>
      exact child_inView rfl rfl (fun _ => ⟨rfl, id, fun hdead => by cases hdead⟩) hview
  | childReaped endpointId =>
      exact child_inView rfl rfl (fun _ => ⟨rfl, (fun hdead => by cases hdead), id⟩) hview
  | childUpdate endpointId method turnId =>
      exact child_inView rfl rfl (fun _ => ⟨rfl, id, id⟩) hview
  | terminal endpointId live =>
      refine outside_inView hview rfl (fun _ hop => by cases hop) ?_
      intro pubkey reach hreached
      refine reached_before_endpoint (step_store crew (.terminal endpointId live)) ?_ hreached
      intro kind other hrecorded hlive
      cases kind with
      | acp | appServer => exact hlive
      | pty =>
          simp only [step, DeliveryState.isLive, Function.update_apply] at hlive ⊢
          split at hlive
          · rename_i heq
            rcases hattentive with hdown | hunrecorded
            · rw [hdown] at hlive
              cases hlive
            · exact absurd (heq ▸ hunrecorded) hrecorded
          · exact hlive

/-! ## Scans that clear an endpoint -/

/-- The scan at the position probed the endpoint of the job earlier, and found it dead. -/
def FoundDead (events : List DeliveryEvent) (index : Nat) (job : Job) : Prop :=
  ∃ elapsed, elapsed <+: events ∧
    (run Deliveries.step fresh elapsed).parties[index]? = some (.probing job) ∧
    (run Deliveries.step fresh elapsed).shared.isLive job.kind job.endpointId = false

/-- Only parties that act or join are new, and those that join condemn nothing. -/
theorem condemned_before (hattentive : Attentive crew event) {job : Job}
    (hparty : (Deliveries.step crew event).parties[index]? = some party)
    (hcondemns : party.condemns = some job) :
    (∃ earlier, crew.parties[index]? = some earlier ∧ earlier.condemns = some job) ∨
      (crew.parties[index]? = some (.probing job) ∧
        crew.shared.isLive job.kind job.endpointId = false) := by
  have hjoin : ∀ (other : Deliveries) (joined : Party), other.parties = crew.parties →
      joined.condemns = none → (Crew.join other joined).parties[index]? = some party →
      ∃ earlier, crew.parties[index]? = some earlier ∧ earlier.condemns = some job := by
    intro other joined hsame hjoined hposition
    rcases Crew.getElem?_join hposition with hold | rfl
    · rw [hsame] at hold
      exact ⟨party, hold, hcondemns⟩
    · rw [hjoined] at hcondemns
      cases hcondemns
  cases event with
  | act acting input =>
      cases hindex : crew.parties[acting]? with
      | none =>
          simp only [step, Crew.advance_of_none hindex] at hparty
          exact Or.inl ⟨party, hparty, hcondemns⟩
      | some mover =>
          have hattends : Party.Attends crew.shared mover (mover.act input crew.shared) :=
            Party.act_attends (hattentive mover hindex).1
          -- The party was there before, is the one that moved, or joins.
          rcases Crew.getElem?_advance hindex hparty with hold | ⟨rfl, rfl⟩ | hjoining
          · exact Or.inl ⟨party, hold, hcondemns⟩
          · rcases hattends.condemned job hcondemns with hwas | ⟨rfl, hdead⟩
            · exact Or.inl ⟨mover, hindex, hwas⟩
            · exact Or.inr ⟨hindex, hdead⟩
          · rw [hattends.joining party hjoining] at hcondemns
            cases hcondemns
  | ring => exact Or.inl (hjoin crew .ringing rfl rfl hparty)
  | enqueue eventId targetPubkey fromPubkey channelH body createdAt
  | bindEndpoint harness kind endpointId pubkey createdAt =>
      exact Or.inl (hjoin _ .ringing rfl rfl hparty)
  | ptySend rec endpointId => exact Or.inl (hjoin crew (.forcing rec endpointId) rfl rfl hparty)
  | spawnPrompt pubkey kind endpointId => exact Or.inl (hjoin crew _ rfl rfl hparty)
  | openChild endpointId kind nativeId =>
      simp only [step, openChild] at hparty
      split at hparty
      · exact Or.inl ⟨party, hparty, hcondemns⟩
      · exact Or.inl ⟨party, hparty, hcondemns⟩
  | client change | childDies endpointId | childReaped endpointId
  | childUpdate endpointId method turnId | terminal endpointId live =>
      exact Or.inl ⟨party, hparty, hcondemns⟩

/-- What a scan condemns it has probed before. -/
theorem run_foundDead (events : List DeliveryEvent)
    (hguarded : Guarded Deliveries.step Attentive fresh events)
    {job : Job} (hparty : (run Deliveries.step fresh events).parties[index]? = some party)
    (hcondemns : party.condemns = some job) : FoundDead events index job := by
  induction events using List.reverseRecOn generalizing party with
  | nil => cases hparty
  | append_singleton earlier last ih =>
      obtain ⟨hearlier, hlast, _⟩ := guarded_append.mp hguarded
      rw [run_append] at hparty
      have hprefix : earlier <+: earlier ++ [last] := List.prefix_append earlier [last]
      rcases condemned_before hlast hparty hcondemns with ⟨before, hbefore, hwas⟩ | hprobing
      · obtain ⟨elapsed, helapsed, hfound⟩ := ih hearlier hbefore hwas
        exact ⟨elapsed, helapsed.trans hprefix, hfound⟩
      · exact ⟨earlier, hprefix, hprobing⟩

/-- A clearing that finds its own endpoint deletes no other. -/
theorem clearing_deletes {job : Job}
    (hindex : crew.parties[index]? = some (.clearing job)) (hown : ClearsOwn crew job)
    {row : SessionLocator} (hrow : row ∈ crew.shared.store.sessionLocators.rows)
    (hgone : row ∉ (Deliveries.step crew (.act index input)).shared.store.sessionLocators.rows) :
    row.locatorValue = job.endpointId := by
  rw [step_store] at hgone
  simp only [operation, hindex, Option.bind_some, Party.operation, Option.elim] at hgone
  obtain ⟨_, _, hlocators⟩ := Store.clearRuntimeLocator_spec crew.shared.store job.pubkey
    job.kind.locatorKind job.generation input.now
  rcases hlocators with hkept | hdeleted
  · rw [hkept] at hgone
    exact absurd hrow hgone
  · rw [hdeleted] at hgone
    refine hown row hrow (Classical.byContradiction (fun hother => hgone ?_))
    exact List.mem_filter.mpr ⟨hrow, decide_eq_true hother⟩

/-- All along the run every mention that waits is in view, and a clearing deletes only
locators of the endpoint that the scan itself found dead. -/
def NoLostWakeup (events : List DeliveryEvent) : Prop :=
  (∀ elapsed, elapsed <+: events → InView (run Deliveries.step fresh elapsed)) ∧
  ∀ before index input after job, events = before ++ .act index input :: after →
    (run Deliveries.step fresh before).parties[index]? = some (.clearing job) →
    ∀ row ∈ (run Deliveries.step fresh before).shared.store.sessionLocators.rows,
      row ∉ (Deliveries.step (run Deliveries.step fresh before)
        (.act index input)).shared.store.sessionLocators.rows →
      row.locatorValue = job.endpointId ∧ FoundDead before index job

/-- A run whose steps are attentive loses no wake-up. -/
theorem run_noLostWakeup (events : List DeliveryEvent)
    (hguarded : Guarded Deliveries.step Attentive fresh events) : NoLostWakeup events := by
  refine ⟨?_, ?_⟩
  · rintro elapsed ⟨later, rfl⟩
    refine guarded_run_invariant ?_ (fun _ _ hview hattentive => step_inView hattentive hview)
      (guarded_append.mp hguarded).1
    rintro wait ⟨⟨row, hrow, _⟩, _⟩
    cases hrow
  · rintro before index input after job rfl hindex row hrow hgone
    obtain ⟨hbefore, hstep, _⟩ := guarded_append.mp hguarded
    exact ⟨clearing_deletes hindex ((hstep _ hindex).2.2 job rfl) hrow hgone,
      run_foundDead before hbefore hindex rfl⟩

end Deliveries

/-! ## A failed delivery and a late clearing -/

/-- A session over a terminal, with a mention that is handed over. -/
def servedRun : List DeliveryEvent :=
  [.client (launchOver "pty" "pk" 1), .terminal "sock" true,
    .bindEndpoint "codex" .pty "sock" "pk" 2, .act 0 (plainly 2), .act 0 (plainly 2),
    .enqueue "event" "pk" "alice" "root" "hi" 3] ++
    List.replicate 7 (.act 1 (plainly 4))

theorem run_noLostWakeup_served :
    Deliveries.NoLostWakeup (servedRun ++ [.act 1 (plainly 4), .act 1 (plainly 4)]) :=
  Deliveries.run_noLostWakeup _ (by decide +kernel)

/-- The delivery fails although the terminal is live. -/
def stuckRun : List DeliveryEvent :=
  servedRun ++ [.act 1 { plainly 4 with failed := true }, .act 1 (plainly 4)]

def stuckMention : Wait where
  pubkey := "pk"
  generation := 1
  kind := .pty
  endpointId := "sock"
  eventId := "event"

/-- The endpoint that a scan finds dead is succeeded by another one before the scan
clears it. -/
def succeededRun : List DeliveryEvent :=
  [.client (launchOver "pty" "pk" 1), .bindEndpoint "codex" .pty "old" "pk" 2,
    .enqueue "event" "pk" "alice" "root" "hi" 3] ++
    List.replicate 5 (.act 1 (plainly 4)) ++
    [.terminal "new" true, .bindEndpoint "codex" .pty "new" "pk" 5]

def lateJob : Job where
  pubkey := "pk"
  generation := 1
  kind := .pty
  endpointId := "old"
  eventIds := ["event"]
  deliveryKind := .inboxEvent
  force := false
  rest := []

/-- The mention of a failed delivery waits for nobody, and a live successor is cleared
in place of the dead endpoint. -/
theorem failed_delivery_stuck_and_successor_cleared :
    (¬ ∀ events, Deliveries.InView (run Deliveries.step Deliveries.fresh events)) ∧
      ¬ ∀ events, Deliveries.NoLostWakeup events := by
  constructor
  · intro hview
    have hstuck : (run Deliveries.step Deliveries.fresh stuckRun).shared.Waits stuckMention ∧
        ∀ party ∈ (run Deliveries.step Deliveries.fresh stuckRun).parties,
          ¬ party.Observes stuckMention := by
      decide +kernel
    obtain ⟨party, hparty, hobserves⟩ := hview stuckRun stuckMention hstuck.1
    exact hstuck.2 party hparty hobserves
  · intro hclaim
    have hcleared : (run Deliveries.step Deliveries.fresh succeededRun).parties[1]? =
          some (.clearing lateJob) ∧
        ∃ row ∈ (run Deliveries.step Deliveries.fresh succeededRun).shared.store.sessionLocators.rows,
          row.locatorValue = "new" ∧
            row ∉ (Deliveries.step (run Deliveries.step Deliveries.fresh succeededRun)
              (.act 1 (plainly 6))).shared.store.sessionLocators.rows := by
      decide +kernel
    obtain ⟨hindex, row, hrow, hnew, hgone⟩ := hcleared
    have hown := ((hclaim (succeededRun ++ [.act 1 (plainly 6)])).2 succeededRun 1 (plainly 6) []
      lateJob rfl hindex row hrow hgone).1
    rw [hnew] at hown
    exact absurd hown (by decide)

end Mosaico
