import Mosaico.Delivery.Doorbell
import Mosaico.Runtime.Hosting

/-!
# Scans and the mentions they observe

A scan that an arrival or a binding rings for lists the running sessions, reads the
pending mentions of each and hands them to its endpoint.  From one program point to
the next it keeps a mention in view until it claims it or schedules a retry, as long
as its reads and its claim go through.
-/

namespace Mosaico

open Relational Transition Concurrent

/-! ## Mentions that wait -/

/-- A session that runs, and its live endpoint. -/
structure Reach where
  pubkey : String
  generation : Nat
  kind : TransportKind
  endpointId : String
  deriving DecidableEq

/-- A mention that waits for a session that can be reached. -/
structure Wait extends Reach where
  eventId : String
  deriving DecidableEq

def Wait.key (wait : Wait) : String × String := (wait.eventId, wait.pubkey)

namespace DeliveryState

/-- The session, if it runs and the endpoint recorded for it is live. -/
def reached (state : DeliveryState) (pubkey : String) : Option Reach :=
  (state.store.getSession pubkey).bind (fun row =>
    if row.runtimeState = .running then
      match state.store.hostedEndpointFor row with
      | .ok (.resolved kind endpointId) =>
          if state.isLive kind endpointId = true then
            some ⟨pubkey, row.runtimeGeneration, kind, endpointId⟩
          else none
      | _ => none
    else none)

def Pending (state : DeliveryState) (k : String × String) : Prop :=
  ∃ row, state.store.inbox.find? k = some row ∧ row.state = .pending

def Waits (state : DeliveryState) (wait : Wait) : Prop :=
  state.Pending wait.key ∧ state.reached wait.pubkey = some wait.toReach

instance (state : DeliveryState) (wait : Wait) : Decidable (state.Waits wait) :=
  inferInstanceAs (Decidable ((∃ row, state.store.inbox.find? wait.key = some row ∧ _) ∧ _))

theorem reached_eq_some {state : DeliveryState} {pubkey : String} {reach : Reach} :
    state.reached pubkey = some reach ↔
      state.store.Hosts pubkey reach.generation reach.kind reach.endpointId ∧
        state.isLive reach.kind reach.endpointId = true ∧ reach.pubkey = pubkey := by
  unfold reached
  constructor
  · intro hreached
    obtain ⟨row, hrow, hfound⟩ := Option.bind_eq_some_iff.mp hreached
    split at hfound
    · rename_i hrunning
      split at hfound
      · rename_i found foundId hhosted
        split at hfound
        · rename_i hlive
          cases hfound
          exact ⟨⟨row, hrow, hrunning, rfl, hhosted⟩, hlive, rfl⟩
        · cases hfound
      · cases hfound
    · cases hfound
  · rintro ⟨⟨row, hrow, hrunning, hgeneration, hhosted⟩, hlive, rfl⟩
    refine Option.bind_eq_some_iff.mpr ⟨row, hrow, ?_⟩
    rw [if_pos hrunning, hhosted]
    dsimp only
    rw [if_pos hlive, hgeneration]

end DeliveryState

/-! ## Scans that will observe a mention -/

/-- The snapshot is of the session in its generation. -/
def Reach.Snapshot (reach : Reach) (session : Session) : Prop :=
  session.pubkey = reach.pubkey ∧ session.runtimeGeneration = reach.generation ∧
    TransportKind.parse session.admittedTransport = some reach.kind

instance (reach : Reach) : DecidablePred reach.Snapshot := fun _ =>
  inferInstanceAs (Decidable (_ ∧ _))

/-- The scan still has to visit the session. -/
def Reach.Ahead (reach : Reach) (rest : List Session) : Prop :=
  ∃ session ∈ rest, reach.Snapshot session

instance (reach : Reach) : DecidablePred reach.Ahead := fun _ =>
  inferInstanceAs (Decidable (∃ session ∈ _, _))

/-- The scan has read the mention, and is about to hand it to the endpoint. -/
def Wait.Planned (wait : Wait) (job : Job) : Prop :=
  job.pubkey = wait.pubkey ∧ job.kind = wait.kind ∧ job.endpointId = wait.endpointId ∧
    wait.eventId ∈ job.eventIds

instance (wait : Wait) : DecidablePred wait.Planned := fun _ =>
  inferInstanceAs (Decidable (_ ∧ _))

namespace Party

/-- The sessions that a scan still has to visit. -/
def rest : Party → List Session
  | .visiting rest => rest
  | .resolving _ _ rest => rest
  | .probing job => job.rest
  | .deciding job _ => job.rest
  | .clearing job => job.rest
  | .injecting job => job.rest
  | .claiming job => job.rest
  | .delivering job => job.rest
  | .dispatching job _ _ => job.rest
  | .reopening job => job.rest
  | .finalizing job _ => job.rest
  | .tracking job _ => job.rest
  | .starting job _ _ _ => job.rest
  | .refusing job _ => job.rest
  | .recording job => job.rest
  | _ => []

/-- The party will list the running sessions: a retry rings when its delay is over. -/
def rings : Party → Bool
  | .ringing => true
  | .retrying _ => true
  | _ => false

/-- The party will list the session, or still has it on its list. -/
def Visits (reach : Reach) (party : Party) : Prop :=
  party.rings = true ∨ reach.Ahead party.rest

instance (reach : Reach) : DecidablePred (Visits reach) := fun _ =>
  inferInstanceAs (Decidable (_ ∨ _))

/-- The scan has read the mention, and has neither claimed it nor let it go. -/
def plans (wait : Wait) : Party → Bool
  | .resolving rec eventIds _ => decide (wait.Snapshot rec ∧ wait.eventId ∈ eventIds)
  | .probing job => decide (wait.Planned job)
  | .deciding job live => live && decide (wait.Planned job)
  | .injecting job => decide (wait.Planned job)
  | .claiming job => decide (wait.Planned job)
  | .forcing rec endpointId =>
      decide (rec.pubkey = wait.pubkey ∧ wait.kind = .pty ∧ endpointId = wait.endpointId)
  | _ => false

/-- The scan will still observe the mention, or it is a retry that will ring. -/
def Observes (wait : Wait) (party : Party) : Prop :=
  party.Visits wait.toReach ∨ party.plans wait = true

instance (wait : Wait) : DecidablePred (Observes wait) := fun _ =>
  inferInstanceAs (Decidable (_ ∨ _))

/-- The job whose endpoint the scan holds for dead. -/
def condemns : Party → Option Job
  | .deciding job false => some job
  | .clearing job => some job
  | _ => none

/-- The next step lists the sessions, or reads the inbox or the endpoint of one. -/
def looks : Party → Bool
  | .ringing => true
  | .visiting _ => true
  | .resolving _ _ _ => true
  | _ => false

/-- The next step claims the planned rows. -/
def claims : Party → Bool
  | .claiming _ => true
  | _ => false

/-- The reads of a scan and the claim of a delivery do not fail. -/
def Reads (input : Outside) (party : Party) : Prop :=
  (party.looks = true → input.failed = false) ∧
    (party.claims = true → input.now ≤ Rust.i64Max)

instance (input : Outside) : DecidablePred (Reads input) := fun _ =>
  inferInstanceAs (Decidable (_ ∧ _))

/-- What becomes of the mentions that a party observes. -/
structure Attends (state : DeliveryState) (party : Party) (move : DeliveryMove) : Prop where
  live : ∀ kind endpointId, move.shared.isLive kind endpointId = state.isLive kind endpointId
  observed : ∀ wait, state.Waits wait → move.shared.Pending wait.key → party.Observes wait →
    move.next.Observes wait ∨ ∃ other ∈ move.joining, other.Observes wait
  condemned : ∀ job, move.next.condemns = some job →
    party.condemns = some job ∨
      (party = .probing job ∧ state.isLive job.kind job.endpointId = false)
  joining : ∀ other ∈ move.joining, other.condemns = none

variable {input : Outside} {state : DeliveryState} {party : Party}

variable {shared : DeliveryState} {next : Party} {rest : List Session} {wait : Wait} {job : Job}

/-- The party goes on, with the mentions it observes. -/
theorem goto_attends
    (hlive : ∀ kind endpointId, shared.isLive kind endpointId = state.isLive kind endpointId)
    (hobserved : ∀ wait, state.Waits wait → shared.Pending wait.key → party.Observes wait →
      next.Observes wait)
    (hcondemned : next.condemns = none) : Attends state party (goto shared next) where
  live := hlive
  observed := fun wait hwaits hpending hparty =>
    Or.inl (hobserved wait hwaits hpending hparty)
  condemned := by
    intro job hjob
    have hjob : next.condemns = some job := hjob
    rw [hcondemned] at hjob
    cases hjob
  joining := fun _ hother => by cases hother

/-- The runtime of a child says nothing about whether it is live. -/
theorem updateRuntime_isLive (state : DeliveryState) (endpointId : String)
    (f : AcpRuntime → AcpRuntime) (kind : TransportKind) (other : String) :
    (state.updateRuntime endpointId f).isLive kind other = state.isLive kind other := by
  have hany : ∀ q : RpcChild → Bool, (∀ child runtime, q { child with runtime := runtime } =
      q child) → ((state.updateRuntime endpointId f).children other).any q =
        (state.children other).any q := by
    intro q hq
    simp only [DeliveryState.updateRuntime, Function.update_apply]
    split
    · rename_i heq
      rw [heq, Option.any_map]
      congr 1
      funext child
      exact hq child _
    · rfl
  cases kind with
  | pty => rfl
  | acp | appServer => exact hany _ (fun _ _ => rfl)

theorem isLive_of_eq (hchildren : shared.children = state.children)
    (hterminals : shared.terminals = state.terminals) (kind : TransportKind)
    (endpointId : String) : shared.isLive kind endpointId = state.isLive kind endpointId := by
  unfold DeliveryState.isLive
  rw [hchildren, hterminals]

/-- The move goes on with the list of sessions at hand. -/
structure KeepsList (state : DeliveryState) (rest : List Session) (move : DeliveryMove) : Prop where
  live : ∀ kind endpointId, move.shared.isLive kind endpointId = state.isLive kind endpointId
  rest : move.next.rest = rest
  condemned : move.next.condemns = none
  joining : ∀ other ∈ move.joining, other.condemns = none

/-- A party without a plan of its own only has to keep its list. -/
theorem KeepsList.attends {move : DeliveryMove} (hkeeps : KeepsList state party.rest move)
    (hrings : party.rings = false) (hplans : ∀ wait, party.plans wait = false) :
    Attends state party move where
  live := hkeeps.live
  observed := by
    rintro wait _ _ ((hring | hahead) | hplanned)
    · rw [hrings] at hring
      cases hring
    · rw [← hkeeps.rest] at hahead
      exact Or.inl (Or.inl (Or.inr hahead))
    · rw [hplans] at hplanned
      cases hplanned
  condemned := by
    intro job hjob
    rw [hkeeps.condemned] at hjob
    cases hjob
  joining := hkeeps.joining

theorem goto_keepsList
    (hlive : ∀ kind endpointId, shared.isLive kind endpointId = state.isLive kind endpointId)
    (hrest : next.rest = rest) (hcondemned : next.condemns = none) :
    KeepsList state rest (goto shared next) where
  live := hlive
  rest := hrest
  condemned := hcondemned
  joining := fun _ hother => by cases hother

theorem joins_keepsList {joined : Party}
    (hlive : ∀ kind endpointId, shared.isLive kind endpointId = state.isLive kind endpointId)
    (hrest : next.rest = rest) (hcondemned : next.condemns = none)
    (hjoined : joined.condemns = none) : KeepsList state rest ⟨shared, next, [joined]⟩ where
  live := hlive
  rest := hrest
  condemned := hcondemned
  joining := by
    intro other hother
    rw [List.mem_singleton.mp hother]
    exact hjoined

/-- The party goes on with its list, and nothing else. -/
theorem stays_attends
    (hlive : ∀ kind endpointId, shared.isLive kind endpointId = state.isLive kind endpointId)
    (hrings : party.rings = false) (hplans : ∀ wait, party.plans wait = false)
    (hrest : next.rest = party.rest) (hcondemned : next.condemns = none) :
    Attends state party (goto shared next) :=
  (goto_keepsList hlive hrest hcondemned).attends hrings hplans

theorem deliveryFailed_keepsList (job : Job) :
    KeepsList state job.rest (deliveryFailed state job) := by
  unfold deliveryFailed
  split
  · exact goto_keepsList (fun _ _ => rfl) rfl rfl
  · exact goto_keepsList (fun _ _ => rfl) rfl rfl

theorem fireCall_keepsList (job : Job) (nativeId : String) :
    KeepsList state job.rest (fireCall state job nativeId) := by
  refine joins_keepsList (fun kind endpointId => ?_) rfl rfl rfl
  exact (isLive_of_eq rfl rfl kind endpointId).trans
    (updateRuntime_isLive state job.endpointId AcpRuntime.markTurnStarted kind endpointId)

theorem deliver_keepsList (job : Job) : KeepsList state job.rest (deliver input state job) := by
  unfold deliver
  split
  · split
    · exact deliveryFailed_keepsList job
    · exact joins_keepsList (fun _ _ => rfl) rfl rfl rfl
  · split
    · exact deliveryFailed_keepsList job
    · split
      · exact deliveryFailed_keepsList job
      · split
        · exact fireCall_keepsList job _
        · exact goto_keepsList (fun _ _ => rfl) rfl rfl

theorem dispatch_keepsList (job : Job) (nativeId : String) (steer : SteerState) :
    KeepsList state job.rest (dispatch state job nativeId steer) := by
  cases steer with
  | ready turnId | awaitingId => exact joins_keepsList (fun _ _ => rfl) rfl rfl rfl
  | idle => exact fireCall_keepsList job nativeId

theorem finalize_keepsList (job : Job) (completion : Completion) :
    KeepsList state job.rest (finalize input state job completion) := by
  unfold finalize
  split
  · split
    · exact goto_keepsList (fun _ _ => rfl) rfl rfl
    · exact goto_keepsList (fun _ _ => rfl) rfl rfl
  · split
    · exact goto_keepsList (fun _ _ => rfl) rfl rfl
    · exact goto_keepsList (fun _ _ => rfl) rfl rfl

theorem track_keepsList (job : Job) (completion : Completion) :
    KeepsList state job.rest (track input state job completion) := by
  cases completion with
  | externallyObserved | managedSteer => exact goto_keepsList (fun _ _ => rfl) rfl rfl
  | managed nativeThreadId call =>
      simp only [track]
      split
      · exact goto_keepsList (fun _ _ => rfl) rfl rfl
      · exact goto_keepsList (fun _ _ => rfl) rfl rfl

theorem applyStart_keepsList (job : Job) (attemptId call startedAt : Nat) :
    KeepsList state job.rest (applyStart state job attemptId call startedAt) := by
  unfold applyStart
  split
  · exact goto_keepsList (fun _ _ => rfl) rfl rfl
  · exact goto_keepsList (fun _ _ => rfl) rfl rfl
  · exact joins_keepsList (fun _ _ => rfl) rfl rfl rfl

theorem gate_keepsList (endpointId : String) (keys : List (String × String)) :
    KeepsList state [] (gate input state endpointId keys) := by
  unfold gate
  split
  · exact goto_keepsList (fun _ _ => rfl) rfl rfl
  · split
    · exact goto_keepsList (fun _ _ => rfl) rfl rfl
    · exact goto_keepsList (fun _ _ => rfl) rfl rfl
  · exact goto_keepsList (fun _ _ => rfl) rfl rfl
  · exact goto_keepsList (fun _ _ => rfl) rfl rfl

theorem finishLifecycle_keepsList (pubkey : String) (generation : Nat) :
    KeepsList state [] (finishLifecycle input state pubkey generation) := by
  unfold finishLifecycle
  split
  · exact goto_keepsList (fun _ _ => rfl) rfl rfl
  · exact goto_keepsList (fun _ _ => rfl) rfl rfl
  · exact goto_keepsList (fun _ _ => rfl) rfl rfl

/-! ### The scan -/

/-- A scan lists every session that a mention waits for. -/
theorem ringing_attends (hreads : input.failed = false) :
    Attends state .ringing (act input state .ringing) := by
  simp only [act]
  rw [if_neg (by simp [hreads])]
  refine goto_attends (fun _ _ => rfl) ?_ rfl
  rintro wait ⟨_, hreached⟩ _ _
  obtain ⟨⟨row, hrow, hrunning, hgeneration, hhosted⟩, _⟩ :=
    DeliveryState.reached_eq_some.mp hreached
  have htransport := (Store.hostedEndpointFor_eq_resolved.mp hhosted).1
  have hlisted : row ∈ state.store.listRunningSessions := by
    rw [Store.listRunningSessions, List.mem_insertionSort, Table.mem_select]
    exact ⟨Table.mem_of_find? hrow, hrunning⟩
  exact Or.inl (Or.inr ⟨row, hlisted, Table.key_of_find? hrow, hgeneration, htransport⟩)

/-- The mention is among the pending rows of its session. -/
theorem mem_peekPending (hpending : state.Pending wait.key) :
    wait.eventId ∈ (state.store.peekPendingForPubkey wait.pubkey).map InboxRow.eventId := by
  obtain ⟨row, hfind, hstate⟩ := hpending
  have hkey : row.key = wait.key := Table.key_of_find? hfind
  rw [InboxRow.key, Wait.key, Prod.mk.injEq] at hkey
  refine List.mem_map.mpr ⟨row, ?_, hkey.1⟩
  rw [Store.peekPendingForPubkey, mem_oldestFirst, Table.mem_select]
  exact ⟨Table.mem_of_find? hfind, hkey.2, hstate⟩

theorem visiting_attends {rec : Session} (hreads : input.failed = false) :
    Attends state (.visiting (rec :: rest)) (act input state (.visiting (rec :: rest))) := by
  have hobserved : ∀ wait, (Party.visiting (rec :: rest)).Observes wait →
      wait.Snapshot rec ∨ wait.Ahead rest := by
    rintro wait ((hring | ⟨session, hmem, hsnapshot⟩) | hplanned)
    · cases hring
    · rcases List.mem_cons.mp hmem with rfl | hlater
      · exact Or.inl hsnapshot
      · exact Or.inr ⟨session, hlater, hsnapshot⟩
    · cases hplanned
  simp only [act]
  rw [if_neg (by simp [hreads])]
  split
  · rename_i hempty
    refine goto_attends (fun _ _ => rfl) ?_ rfl
    rintro wait ⟨hpending, _⟩ _ hparty
    rcases hobserved wait hparty with hsnapshot | hahead
    · have hmem := mem_peekPending hpending
      rw [← hsnapshot.1, hempty] at hmem
      cases hmem
    · exact Or.inl (Or.inr hahead)
  · rename_i row rows hrows
    refine goto_attends (fun _ _ => rfl) ?_ rfl
    rintro wait ⟨hpending, _⟩ _ hparty
    rcases hobserved wait hparty with hsnapshot | hahead
    · have hmem := mem_peekPending hpending
      rw [← hsnapshot.1, hrows] at hmem
      exact Or.inr (decide_eq_true ⟨hsnapshot, hmem⟩)
    · exact Or.inl (Or.inr hahead)

/-- The endpoint that a snapshot resolves to is the one that the mention waits for. -/
theorem resolving_attends {rec : Session} {eventIds : List String} (hreads : input.failed = false) :
    Attends state (.resolving rec eventIds rest) (act input state (.resolving rec eventIds rest)) := by
  have hobserved : ∀ wait, state.Waits wait → (Party.resolving rec eventIds rest).Observes wait →
      (state.store.hostedEndpointFor rec = .ok (.resolved wait.kind wait.endpointId) ∧
        wait.Snapshot rec ∧ wait.eventId ∈ eventIds) ∨ wait.Ahead rest := by
    rintro wait ⟨_, hreached⟩ ((hring | hahead) | hplanned)
    · cases hring
    · exact Or.inr hahead
    · obtain ⟨hsnapshot, hmem⟩ := of_decide_eq_true hplanned
      have hhosts := (DeliveryState.reached_eq_some.mp hreached).1
      exact Or.inl ⟨hhosts.snapshot hsnapshot.1 hsnapshot.2.1 hsnapshot.2.2, hsnapshot, hmem⟩
  simp only [act]
  rw [if_neg (by simp [hreads])]
  split
  · rename_i kind endpointId hresolved
    refine goto_attends (fun _ _ => rfl) ?_ rfl
    intro wait hwaits _ hparty
    rcases hobserved wait hwaits hparty with ⟨hendpoint, hsnapshot, hmem⟩ | hahead
    · rw [hresolved] at hendpoint
      cases hendpoint
      exact Or.inr (decide_eq_true ⟨hsnapshot.1, rfl, rfl, hmem⟩)
    · exact Or.inl (Or.inr hahead)
  · rename_i hunresolved
    refine goto_attends (fun _ _ => rfl) ?_ rfl
    intro wait hwaits _ hparty
    rcases hobserved wait hwaits hparty with ⟨hendpoint, _⟩ | hahead
    · exact absurd hendpoint (hunresolved _ _)
    · exact Or.inl (Or.inr hahead)

/-- A mention that a job plans waits for the endpoint of the job, which is live. -/
theorem live_of_planned (hwaits : state.Waits wait)
    (hplanned : wait.Planned job) : state.isLive job.kind job.endpointId = true := by
  obtain ⟨_, hkind, hendpoint, _⟩ := hplanned
  rw [hkind, hendpoint]
  exact (DeliveryState.reached_eq_some.mp hwaits.2).2.1

theorem probing_attends (job : Job) :
    Attends state (.probing job) (act input state (.probing job)) where
  live := fun _ _ => rfl
  observed := by
    rintro wait hwaits _ ((hring | hahead) | hplanned)
    · cases hring
    · exact Or.inl (Or.inl (Or.inr hahead))
    · have hlive := live_of_planned hwaits (of_decide_eq_true hplanned)
      refine Or.inl (Or.inr ?_)
      show (state.isLive job.kind job.endpointId && decide (wait.Planned job)) = true
      rw [hlive]
      exact hplanned
  condemned := by
    intro condemned hcondemned
    right
    have hnext : Party.condemns (.deciding job (state.isLive job.kind job.endpointId)) =
        some condemned := hcondemned
    cases hlive : state.isLive job.kind job.endpointId with
    | true =>
        rw [hlive] at hnext
        cases hnext
    | false =>
        rw [hlive] at hnext
        cases hnext
        exact ⟨rfl, hlive⟩
  joining := fun _ hother => by cases hother

theorem applyEffect_rest (job : Job) (effect : Option DeliveryEffect) :
    (applyEffect state job effect).next.rest = job.rest := by
  unfold applyEffect
  split
  · rfl
  · split
    · rfl
    · rfl
  · split
    · rfl
    · rfl
  · rfl

/-- A job is condemned by the effect that clears its endpoint. -/
theorem applyEffect_condemns {condemned : Job} {effect : Option DeliveryEffect}
    (hcondemned : (applyEffect state job effect).next.condemns = some condemned) :
    condemned = job ∧ ∃ pubkey, effect = some (.clearDeadEndpoint pubkey) := by
  unfold applyEffect at hcondemned
  split at hcondemned
  · cases hcondemned
  · split at hcondemned
    · cases hcondemned
    · cases hcondemned
  · rename_i pubkey
    split at hcondemned
    · cases hcondemned
    · cases hcondemned
      exact ⟨rfl, pubkey, rfl⟩
  · cases hcondemned

theorem applyEffect_joining {effect : Option DeliveryEffect} {other : Party}
    (hother : other ∈ (applyEffect state job effect).joining) : other.condemns = none := by
  unfold applyEffect at hother
  split at hother
  · cases hother
  · split at hother
    · cases hother
    · rw [List.mem_singleton.mp hother]
      rfl
  · split at hother
    · cases hother
    · cases hother
  · cases hother

/-- The plan of a scan that found its endpoint live is carried out, or retried. -/
theorem planned_effect {now : Nat} (hplanned : wait.Planned job) :
    let move := applyEffect state job (scanFact state job true now).effects.head?
    move.next.Observes wait ∨ ∃ other ∈ move.joining, other.Observes wait := by
  have hpending : (scanFact state job true now).pendingEventIds ≠ [] :=
    List.ne_nil_of_mem hplanned.2.2.2
  intro move
  have hmove : move = applyEffect state job (scanFact state job true now).effects.head? := rfl
  rcases DeliveryScanFact.effects_live hpending rfl rfl with hinject | ⟨delaySecs, hretry⟩
  · rw [hinject] at hmove
    rw [hmove]
    exact Or.inl (Or.inr (decide_eq_true hplanned))
  · by_cases hforce : job.force = true
    · have hforced := DeliveryScanFact.effects_forced hpending rfl rfl hforce
      rw [hforced] at hretry
      cases hretry
    · rw [hretry] at hmove
      have hretries : applyEffect state job (some (.retryAfter job.pubkey delaySecs)) =
          ⟨state, .visiting job.rest, [.retrying job.pubkey]⟩ := by
        rw [applyEffect, if_neg hforce]
      rw [hmove]
      refine Or.inr ⟨.retrying job.pubkey, ?_, Or.inl (Or.inl rfl)⟩
      show _ ∈ (applyEffect state job (some (.retryAfter job.pubkey delaySecs))).joining
      rw [hretries]
      exact List.mem_singleton_self _

/-- A live endpoint is injected into or retried, a dead one is cleared. -/
theorem deciding_attends (job : Job) (live : Bool) :
    Attends state (.deciding job live) (act input state (.deciding job live)) where
  live := by
    intro kind endpointId
    show (applyEffect state job _).shared.isLive kind endpointId = _
    rw [applyEffect_shared]
  observed := by
    rintro wait _ _ ((hring | hahead) | hplanned)
    · cases hring
    · left
      have hrest : (act input state (.deciding job live)).next.rest = job.rest :=
        applyEffect_rest job _
      exact Or.inl (Or.inr (hrest ▸ hahead))
    · obtain ⟨rfl, hplanned⟩ := Bool.and_eq_true_iff.mp hplanned
      exact planned_effect (of_decide_eq_true hplanned)
  condemned := by
    intro condemned hcondemned
    left
    obtain ⟨rfl, pubkey, hclears⟩ := applyEffect_condemns hcondemned
    have hdead : live = false := DeliveryScanFact.dead_of_clearDeadEndpoint hclears
    rw [hdead]
    rfl
  joining := fun _ hother => applyEffect_joining hother

/-- An endpoint that died since the probe is left alone. -/
theorem injecting_attends (job : Job) :
    Attends state (.injecting job) (act input state (.injecting job)) := by
  have hobserved : ∀ wait, (Party.injecting job).Observes wait →
      wait.Ahead job.rest ∨ wait.Planned job := by
    rintro wait ((hring | hahead) | hplanned)
    · cases hring
    · exact Or.inl hahead
    · exact Or.inr (of_decide_eq_true hplanned)
  simp only [act]
  split
  · refine goto_attends (fun _ _ => rfl) ?_ rfl
    intro wait _ _ hparty
    rcases hobserved wait hparty with hahead | hplanned
    · exact Or.inl (Or.inr hahead)
    · exact Or.inr (decide_eq_true hplanned)
  · rename_i hdead
    refine goto_attends (fun _ _ => rfl) ?_ rfl
    intro wait hwaits _ hparty
    rcases hobserved wait hparty with hahead | hplanned
    · exact Or.inl (Or.inr hahead)
    · exact absurd (live_of_planned hwaits hplanned) hdead

/-- A claim that goes through takes every planned mention that is still pending. -/
theorem claimed_not_pending {store after : Store} {eventIds : List String} {pubkey : String}
    {now : Nat} {rows : List InboxRow}
    (hclaim : store.claimPendingEventIdsForPubkey eventIds pubkey now = .ok (rows, after))
    (hpubkey : pubkey = wait.pubkey) (hmem : wait.eventId ∈ eventIds) :
    ¬ (state.setStore after).Pending wait.key := by
  rintro ⟨next, hnext, hpending⟩
  rw [DeliveryState.setStore, (Store.claimPendingEventIdsForPubkey_ok hclaim).2,
    Store.find?_claimEach] at hnext
  obtain ⟨row, hrow, rfl⟩ := Option.map_eq_some_iff.mp hnext
  have hkey : row.key = wait.key := Table.key_of_find? hrow
  rw [InboxRow.key, Wait.key, Prod.mk.injEq] at hkey
  split at hpending
  · cases hpending
  · rename_i hother
    exact hother ⟨⟨hkey.1 ▸ hmem, hkey.2.trans hpubkey.symm⟩, hpending⟩

/-- A claim fails only when the time cannot be bound. -/
theorem claim_ne_error {store : Store} {eventIds : List String} {pubkey : String} {now : Nat}
    (hnow : now ≤ Rust.i64Max) {error : StoreError} :
    store.claimPendingEventIdsForPubkey eventIds pubkey now ≠ .error error := by
  intro herror
  simp [Store.claimPendingEventIdsForPubkey, bindParams, hnow] at herror

theorem claiming_attends (hreads : input.now ≤ Rust.i64Max) :
    Attends state (.claiming job) (act input state (.claiming job)) := by
  show Attends state (.claiming job) (claim input state job)
  unfold claim
  split
  · rename_i error herror
    exact absurd herror (claim_ne_error hreads)
  · rename_i rows after hclaim
    have hobserved : ∀ wait, (state.setStore after).Pending wait.key →
        (Party.claiming job).Observes wait → wait.Ahead job.rest := by
      rintro wait hpending ((hring | hahead) | hplanned)
      · cases hring
      · exact hahead
      · obtain ⟨hpubkey, _, _, hmem⟩ : wait.Planned job := of_decide_eq_true hplanned
        exact absurd hpending (claimed_not_pending hclaim hpubkey hmem)
    split
    · exact goto_attends (fun _ _ => rfl) (fun wait _ hpending hparty =>
        Or.inl (Or.inr (hobserved wait hpending hparty))) rfl
    · exact goto_attends (fun _ _ => rfl) (fun wait _ hpending hparty =>
        Or.inl (Or.inr (hobserved wait hpending hparty))) rfl

theorem forcing_attends (rec : Session) (endpointId : String) :
    Attends state (.forcing rec endpointId) (act input state (.forcing rec endpointId)) := by
  have hobserved : ∀ wait, (Party.forcing rec endpointId).Observes wait →
      rec.pubkey = wait.pubkey ∧ wait.kind = .pty ∧ endpointId = wait.endpointId := by
    rintro wait ((hring | ⟨_, hmem, _⟩) | hplanned)
    · cases hring
    · cases hmem
    · exact of_decide_eq_true hplanned
  simp only [act]
  split
  · rename_i hempty
    refine goto_attends (fun _ _ => rfl) ?_ rfl
    rintro wait ⟨hpending, _⟩ _ hparty
    have hmem := mem_peekPending hpending
    rw [← (hobserved wait hparty).1, hempty] at hmem
    cases hmem
  · rename_i row rows hrows
    refine goto_attends (fun _ _ => rfl) ?_ rfl
    rintro wait ⟨hpending, _⟩ _ hparty
    obtain ⟨hpubkey, hkind, hendpoint⟩ := hobserved wait hparty
    have hmem := mem_peekPending hpending
    rw [← hpubkey, hrows] at hmem
    exact Or.inr (decide_eq_true ⟨hpubkey, hkind.symm, hendpoint, hmem⟩)

/-- No party loses sight of a mention by a step whose reads go through. -/
theorem act_attends (hreads : party.Reads input) :
    Attends state party (party.act input state) := by
  cases party with
  | ringing => exact ringing_attends (hreads.1 rfl)
  | visiting rest =>
      cases rest with
      | nil => exact stays_attends (fun _ _ => rfl) rfl (fun _ => rfl) rfl rfl
      | cons rec rest => exact visiting_attends (hreads.1 rfl)
  | resolving rec eventIds rest => exact resolving_attends (hreads.1 rfl)
  | probing job => exact probing_attends job
  | deciding job live => exact deciding_attends job live
  | clearing job | reopening job => exact stays_attends (fun _ _ => rfl) rfl (fun _ => rfl) rfl rfl
  | injecting job => exact injecting_attends job
  | claiming job => exact claiming_attends (hreads.2 rfl)
  | delivering job => exact (deliver_keepsList job).attends rfl (fun _ => rfl)
  | dispatching job nativeId steer =>
      exact (dispatch_keepsList job nativeId steer).attends rfl (fun _ => rfl)
  | finalizing job completion =>
      exact (finalize_keepsList job completion).attends rfl (fun _ => rfl)
  | tracking job completion => exact (track_keepsList job completion).attends rfl (fun _ => rfl)
  | starting job attemptId call startedAt =>
      exact (applyStart_keepsList job attemptId call startedAt).attends rfl (fun _ => rfl)
  | refusing job attemptId | steering endpointId turnId keys | answered keys accepted
  | closing pubkey generation attemptId result =>
      exact stays_attends (fun _ _ => rfl) rfl (fun _ => rfl) rfl rfl
  | recording job | awaiting pubkey generation attemptId call =>
      refine KeepsList.attends ?_ rfl (fun _ => rfl)
      simp only [act]
      split
      · exact goto_keepsList (fun _ _ => rfl) rfl rfl
      · exact goto_keepsList (fun _ _ => rfl) rfl rfl
  | retrying pubkey =>
      exact goto_attends (fun _ _ => rfl) (fun _ _ _ _ => Or.inl (Or.inl rfl)) rfl
  | forcing rec endpointId => exact forcing_attends rec endpointId
  | calling endpointId call keys =>
      refine KeepsList.attends (goto_keepsList ?_ rfl rfl) rfl (fun _ => rfl)
      intro kind other
      exact (isLive_of_eq rfl rfl kind other).trans
        (updateRuntime_isLive state endpointId AcpRuntime.markTurnFinished kind other)
  | gating endpointId keys => exact (gate_keepsList endpointId keys).attends rfl (fun _ => rfl)
  | ending pubkey generation =>
      exact (finishLifecycle_keepsList pubkey generation).attends rfl (fun _ => rfl)

end Party

end Mosaico
