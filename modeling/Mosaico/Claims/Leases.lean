import Mosaico.Fabric.OfflineMentions

/-!
# Leases on event claims

A backend worker claims an operation target before it acts, and completes the claim or
hands it back afterwards.  A claim that is neither runs out with its lease, and another
worker may take it over.  The statements that end a claim name the row and not the claim,
so a worker that comes back late ends the claim of its successor.
-/

namespace Mosaico

open Relational Transition

/-! ## The end of a claim -/

namespace Store

def completeOrchestrationTarget (store : Store) (eventId claimKey : String) (now : Nat) :
    Except StoreError (Unit × Store) := do
  bindParams [now]
  return ((), { store with
    eventClaims := store.eventClaims.updateWhere (fun row => row.key = (eventId, claimKey))
      (fun row => { row with state := .completed, updatedAt := now }) })

def retryOrchestrationTarget (store : Store) (eventId claimKey : String) :
    Except StoreError (Unit × Store) :=
  return ((), { store with
    eventClaims := store.eventClaims.updateWhere
      (fun row => row.key = (eventId, claimKey) ∧ row.state = .processing)
      (fun row => { row with state := .pending, updatedAt := 0 }) })

def claimManagementCommand (store : Store) (eventId fromPubkey channelH body : String)
    (now : Nat) : Except StoreError (Bool × Store) :=
  store.claimOrchestrationTarget eventId "management" fromPubkey channelH body now

def completeManagementCommand (store : Store) (eventId : String) (now : Nat) :
    Except StoreError (Unit × Store) :=
  store.completeOrchestrationTarget eventId "management" now

/-- A completed offline mention keeps a compact tombstone. -/
def completeOfflineMention (store : Store) (eventId mentionedPubkey : String) (now : Nat) :
    Except StoreError (Unit × Store) := do
  bindParams [now]
  return ((), { store with
    eventClaims := store.eventClaims.updateWhere
      (fun row => row.key = (eventId, offlineMentionClaim mentionedPubkey))
      (fun row => { row with
        state := .completed
        fromPubkey := ""
        channelH := ""
        body := ""
        updatedAt := now }) })

def retryOfflineMention (store : Store) (eventId mentionedPubkey : String) (now : Nat) :
    Except StoreError (Unit × Store) := do
  bindParams [now]
  return ((), { store with
    eventClaims := store.eventClaims.updateWhere
      (fun row => row.key = (eventId, offlineMentionClaim mentionedPubkey) ∧
        row.state = .processing)
      (fun row => { row with state := .pending, updatedAt := now }) })

end Store

/-- How a worker ends its claim. -/
inductive Finish where
  | complete (eventId claimKey : String)
  | retry (eventId claimKey : String)
  | completeMention (eventId mentionedPubkey : String)
  | retryMention (eventId mentionedPubkey : String)
  deriving DecidableEq

namespace Finish

def key : Finish → String × String
  | .complete eventId claimKey => (eventId, claimKey)
  | .retry eventId claimKey => (eventId, claimKey)
  | .completeMention eventId mentionedPubkey =>
      (eventId, Store.offlineMentionClaim mentionedPubkey)
  | .retryMention eventId mentionedPubkey => (eventId, Store.offlineMentionClaim mentionedPubkey)

def apply (store : Store) (now : Nat) : Finish → Except StoreError (Unit × Store)
  | .complete eventId claimKey => store.completeOrchestrationTarget eventId claimKey now
  | .retry eventId claimKey => store.retryOrchestrationTarget eventId claimKey
  | .completeMention eventId mentionedPubkey =>
      store.completeOfflineMention eventId mentionedPubkey now
  | .retryMention eventId mentionedPubkey => store.retryOfflineMention eventId mentionedPubkey now

/-- The statement binds its parameters. -/
def Fits (now : Nat) : Finish → Prop
  | .retry _ _ => True
  | _ => now ≤ Rust.i64Max

instance (now : Nat) : DecidablePred (Fits now)
  | .complete _ _ => inferInstanceAs (Decidable (now ≤ Rust.i64Max))
  | .retry _ _ => inferInstanceAs (Decidable True)
  | .completeMention _ _ => inferInstanceAs (Decidable (now ≤ Rust.i64Max))
  | .retryMention _ _ => inferInstanceAs (Decidable (now ≤ Rust.i64Max))

/-- The row of the claim afterwards. -/
def ended (now : Nat) (row : EventClaim) : Finish → EventClaim
  | .complete _ _ => { row with state := .completed, updatedAt := now }
  | .retry _ _ =>
      if row.state = .processing then { row with state := .pending, updatedAt := 0 } else row
  | .completeMention _ _ => { row with
      state := .completed
      fromPubkey := ""
      channelH := ""
      body := ""
      updatedAt := now }
  | .retryMention _ _ =>
      if row.state = .processing then { row with state := .pending, updatedAt := now } else row

/-- A processing row is no longer one. -/
theorem ended_ne {now : Nat} {row : EventClaim} (hrow : row.state = .processing)
    (finish : Finish) : finish.ended now row ≠ row := by
  intro hsame
  have hstate := congrArg EventClaim.state hsame
  rw [hrow] at hstate
  cases finish with
  | complete eventId claimKey | completeMention eventId mentionedPubkey => cases hstate
  | retry eventId claimKey | retryMention eventId mentionedPubkey =>
      rw [ended, if_pos hrow] at hstate
      cases hstate

/-- A completed row stays completed, and is left as it is or completed again. -/
theorem ended_completed {now : Nat} {row : EventClaim} (hrow : row.state = .completed)
    (finish : Finish) : (finish.ended now row).state = .completed ∧
      (finish.ended now row = row ∨ (finish.ended now row).updatedAt = now) := by
  have hidle : row.state ≠ .processing := by
    rw [hrow]
    decide
  cases finish with
  | complete eventId claimKey | completeMention eventId mentionedPubkey => exact ⟨rfl, Or.inr rfl⟩
  | retry eventId claimKey | retryMention eventId mentionedPubkey =>
      rw [ended, if_neg hidle]
      exact ⟨hrow, Or.inl rfl⟩

end Finish

/-! ## One operation on a row -/

theorem find?_finish (store : Store) (now : Nat) (finish : Finish) (k : String × String) :
    (commit (finish.apply store now) store).eventClaims.find? k =
      if k = finish.key ∧ finish.Fits now then
        (store.eventClaims.find? k).map (fun row => finish.ended now row)
      else store.eventClaims.find? k := by
  -- Each statement updates the row of its key where a condition holds.
  have hupdate : ∀ (key : String × String) (p : EventClaim → Prop) [DecidablePred p]
      (f : EventClaim → EventClaim) (hkey : ∀ row, (f row).key = row.key),
      ((store.eventClaims.updateWhere (fun row => row.key = key ∧ p row) f hkey).find? k) =
        if k = key then (store.eventClaims.find? k).map (fun row => if p row then f row else row)
        else store.eventClaims.find? k := by
    intro key p _ f hkey
    rw [Table.find?_updateWhere]
    cases hfind : store.eventClaims.find? k with
    | none => simp
    | some row =>
        have hrow : row.key = k := Table.key_of_find? hfind
        by_cases hk : k = key
        · simp [hrow, hk]
        · simp [hrow, hk]
  have hbind : now ≤ Rust.i64Max → bindParams [now] = .ok () :=
    fun hnow => bindParams_eq_ok.mpr (by simpa using hnow)
  have hfails : ¬ now ≤ Rust.i64Max → bindParams [now] = .error .parameterOutOfRange :=
    fun hnow => bindParams_eq_error (by simpa using hnow)
  cases finish with
  | complete eventId claimKey =>
      by_cases hnow : now ≤ Rust.i64Max
      · simp only [Finish.apply, Store.completeOrchestrationTarget, hbind hnow]
        have hrow := hupdate (eventId, claimKey) (fun _ => True)
          (fun row => { row with state := .completed, updatedAt := now }) (fun _ => rfl)
        simpa [Finish.key, Finish.Fits, Finish.ended, hnow] using hrow
      · simp only [Finish.apply, Store.completeOrchestrationTarget, hfails hnow]
        rw [if_neg (fun hhit => hnow hhit.2)]
        rfl
  | retry eventId claimKey =>
      have hrow := hupdate (eventId, claimKey) (fun row => row.state = .processing)
        (fun row => { row with state := .pending, updatedAt := 0 }) (fun _ => rfl)
      refine hrow.trans ?_
      simp [Finish.key, Finish.Fits, Finish.ended]
  | completeMention eventId mentionedPubkey =>
      by_cases hnow : now ≤ Rust.i64Max
      · simp only [Finish.apply, Store.completeOfflineMention, hbind hnow]
        have hrow := hupdate (eventId, Store.offlineMentionClaim mentionedPubkey) (fun _ => True)
          (fun row => { row with
            state := .completed
            fromPubkey := ""
            channelH := ""
            body := ""
            updatedAt := now }) (fun _ => rfl)
        simpa [Finish.key, Finish.Fits, Finish.ended, hnow] using hrow
      · simp only [Finish.apply, Store.completeOfflineMention, hfails hnow]
        rw [if_neg (fun hhit => hnow hhit.2)]
        rfl
  | retryMention eventId mentionedPubkey =>
      by_cases hnow : now ≤ Rust.i64Max
      · simp only [Finish.apply, Store.retryOfflineMention, hbind hnow]
        have hrow := hupdate (eventId, Store.offlineMentionClaim mentionedPubkey)
          (fun row => row.state = .processing)
          (fun row => { row with state := .pending, updatedAt := now }) (fun _ => rfl)
        simpa [Finish.key, Finish.Fits, Finish.ended, hnow] using hrow
      · simp only [Finish.apply, Store.retryOfflineMention, hfails hnow]
        rw [if_neg (fun hhit => hnow hhit.2)]
        rfl

/-- A claim that is granted found no row or one that could be claimed, and takes it; one
that is not granted leaves every row as it was. -/
theorem claimOrchestrationTarget_cases (store : Store)
    (eventId claimKey fromPubkey channelH body : String) (now : Nat) :
    let claim := store.claimOrchestrationTarget eventId claimKey fromPubkey channelH body now
    (changed claim = true ∧
        (∀ row, store.eventClaims.find? (eventId, claimKey) = some row →
          Store.claimable now row) ∧
        (∃ row, (commit claim store).eventClaims.find? (eventId, claimKey) = some row ∧
          row.state = .processing ∧ row.updatedAt = now) ∧
        ∀ k, k ≠ (eventId, claimKey) →
          (commit claim store).eventClaims.find? k = store.eventClaims.find? k) ∨
      (changed claim = false ∧
        ∀ k, (commit claim store).eventClaims.find? k = store.eventClaims.find? k) := by
  by_cases hnow : now ≤ Rust.i64Max
  · have hbind : bindParams [now, now - Store.processingLeaseSecs] = .ok () := by
      rw [bindParams_eq_ok]
      intro param hparam
      simp only [List.mem_cons, List.not_mem_nil, or_false] at hparam
      omega
    dsimp only
    simp only [Store.claimOrchestrationTarget, hbind]
    have hupsert := Table.find?_upsert store.eventClaims
      { eventId := eventId
        claimKey := claimKey
        state := .processing
        fromPubkey := fromPubkey
        channelH := channelH
        body := body
        createdAt := now
        updatedAt := now }
      (fun row => if Store.claimable now row then
        { row with
          state := .processing
          fromPubkey := fromPubkey
          channelH := channelH
          body := body
          updatedAt := now }
        else row) (by intro row; split <;> rfl)
    simp only [EventClaim.key] at hupsert
    -- The conflict clause rewrites the row only where its lease has run out.
    by_cases hclaimable : ∀ row, store.eventClaims.find? (eventId, claimKey) = some row →
        Store.claimable now row
    · refine Or.inl ⟨?_, hclaimable, ?_, ?_⟩
      · show (store.eventClaims.find? (eventId, claimKey)).all _ = true
        rw [Option.all_eq_true]
        intro row hfind
        exact decide_eq_true (hclaimable row hfind)
      · refine ⟨_, (hupsert (eventId, claimKey)).trans (if_pos rfl), ?_⟩
        cases hfind : store.eventClaims.find? (eventId, claimKey) with
        | none => exact ⟨rfl, rfl⟩
        | some row => simp [hclaimable row hfind]
      · intro k hk
        exact (hupsert k).trans (if_neg hk)
    · obtain ⟨row, hrest⟩ := not_forall.mp hclaimable
      obtain ⟨hfind, hheld⟩ := Classical.not_imp.mp hrest
      refine Or.inr ⟨?_, ?_⟩
      · show (store.eventClaims.find? (eventId, claimKey)).all _ = false
        rw [hfind]
        exact decide_eq_false hheld
      · intro k
        refine (hupsert k).trans ?_
        by_cases hk : k = (eventId, claimKey)
        · simp [hk, hfind, hheld]
        · simp [hk]
  · have hfails : bindParams [now, now - Store.processingLeaseSecs] =
        .error .parameterOutOfRange :=
      bindParams_eq_error (fun hall => hnow (hall now List.mem_cons_self))
    dsimp only
    simp only [Store.claimOrchestrationTarget, hfails]
    exact Or.inr ⟨rfl, fun _ => rfl⟩

/-! ## Workers -/

/-- A claim that a worker was granted. -/
structure Holding where
  worker : Nat
  key : String × String
  claimedAt : Nat
  deriving DecidableEq

/-- The claim table, the clock, the claims that their workers have not ended, and every
grant, the latest first. -/
structure LeaseSystem where
  store : Store
  now : Nat
  held : List Holding
  grants : List Holding

inductive LeaseStep where
  | wait (seconds : Nat)
  | claim (worker : Nat) (eventId claimKey fromPubkey channelH body : String)
  | finish (worker : Nat) (finish : Finish)
  deriving DecidableEq

namespace LeaseSystem

/-- No worker holds a claim yet. -/
def opened (store : Store) (now : Nat) : LeaseSystem := ⟨store, now, [], []⟩

def row (system : LeaseSystem) (k : String × String) : Option EventClaim :=
  system.store.eventClaims.find? k

def setStore (system : LeaseSystem) (store : Store) : LeaseSystem := { system with store := store }

@[simp] theorem setStore_now (system : LeaseSystem) (store : Store) :
    (system.setStore store).now = system.now := rfl

@[simp] theorem setStore_row (system : LeaseSystem) (store : Store) (k : String × String) :
    (system.setStore store).row k = store.eventClaims.find? k := rfl

/-- The worker has a claim that it has not ended. -/
def Holds (system : LeaseSystem) (worker : Nat) (k : String × String) : Prop :=
  ∃ holding ∈ system.held, holding.worker = worker ∧ holding.key = k

instance (system : LeaseSystem) (worker : Nat) (k : String × String) :
    Decidable (system.Holds worker k) := inferInstanceAs (Decidable (∃ _ ∈ _, _))

def without (held : List Holding) (worker : Nat) (k : String × String) : List Holding :=
  held.filter (fun holding => ¬ (holding.worker = worker ∧ holding.key = k))

/-- A worker ends a claim only after it was granted one. -/
def step (system : LeaseSystem) : LeaseStep → LeaseSystem
  | .wait seconds => { system with now := system.now + seconds }
  | .claim worker eventId claimKey fromPubkey channelH body =>
      let claim := system.store.claimOrchestrationTarget eventId claimKey fromPubkey channelH body
        system.now
      let granted : Holding := ⟨worker, (eventId, claimKey), system.now⟩
      if changed claim = true then
        { system with
          store := commit claim system.store
          held := granted :: without system.held worker (eventId, claimKey)
          grants := granted :: system.grants }
      else { system with store := commit claim system.store }
  | .finish worker finish =>
      if system.Holds worker finish.key then
        { system with
          store := commit (finish.apply system.store system.now) system.store
          held := without system.held worker finish.key }
      else system

theorem now_le_step (system : LeaseSystem) (input : LeaseStep) :
    system.now ≤ (system.step input).now := by
  cases input with
  | wait seconds => exact Nat.le_add_right _ _
  | claim worker eventId claimKey fromPubkey channelH body | finish worker finish =>
      dsimp only [step]
      split
      · exact le_rfl
      · exact le_rfl

/-- The lease has not run out. -/
def Live (now : Nat) (holding : Holding) : Prop :=
  now - Store.processingLeaseSecs ≤ holding.claimedAt

/-- At most one worker holds a live claim on each key. -/
def Exclusive (system : LeaseSystem) : Prop :=
  ∀ left ∈ system.held, ∀ right ∈ system.held, left.key = right.key →
    Live system.now left → Live system.now right → left.worker = right.worker

instance (now : Nat) : DecidablePred (Live now) := fun holding =>
  inferInstanceAs (Decidable (_ ≤ holding.claimedAt))

instance (system : LeaseSystem) : Decidable system.Exclusive :=
  inferInstanceAs (Decidable (∀ _ ∈ _, ∀ _ ∈ _, _ → _ → _ → _))

/-- The claim that was granted last. -/
def latest (system : LeaseSystem) (k : String × String) : Option Holding :=
  system.grants.find? (fun grant => grant.key = k)

/-- Another worker has the claim, and is at work on it. -/
def TakenOver (system : LeaseSystem) (worker : Nat) (k : String × String) : Prop :=
  (system.row k).map EventClaim.state = some .processing ∧
    ∃ grant, system.latest k = some grant ∧ grant.worker ≠ worker

/-- What a step has to obey. -/
structure Law (before : LeaseSystem) (step : LeaseStep) (after : LeaseSystem) : Prop where
  exclusive : after.Exclusive
  /-- A completed claim stays completed. -/
  terminal : ∀ k row, before.row k = some row → row.state = .completed →
    ∃ next, after.row k = some next ∧ next.state = .completed
  /-- A worker whose claim was taken over does not end the claim of its successor. -/
  fenced : ∀ worker finish, step = .finish worker finish → before.Holds worker finish.key →
    before.TakenOver worker finish.key → after.row finish.key = before.row finish.key

/-- No worker ends a claim that another one has taken over and is at work on. -/
def Punctual (system : LeaseSystem) : LeaseStep → Prop
  | .finish worker finish => finish.Fits system.now → system.Holds worker finish.key →
      ¬ system.TakenOver worker finish.key
  | _ => True

/-! ## The invariant -/

/-- Every claim that has not been ended is the latest on its key and its row says so, or it
has run out. -/
def Leased (system : LeaseSystem) : Prop :=
  ∀ holding ∈ system.held, ∃ grant, system.latest holding.key = some grant ∧
    ((grant.worker = holding.worker ∧ ∃ row, system.row holding.key = some row ∧
        row.state = .processing ∧ row.updatedAt = holding.claimedAt) ∨
      (grant.worker ≠ holding.worker ∧ ¬ Live system.now holding))

theorem opened_leased (store : Store) (now : Nat) : (opened store now).Leased := by
  intro holding hholding
  cases hholding

theorem Leased.exclusive {system : LeaseSystem} (hleased : system.Leased) :
    system.Exclusive := by
  -- A live claim is the latest on its key.
  have hlatest : ∀ holding ∈ system.held, Live system.now holding →
      ∃ grant, system.latest holding.key = some grant ∧ grant.worker = holding.worker := by
    intro holding hholding hlive
    obtain ⟨grant, hgrant, ⟨hworker, _⟩ | ⟨_, hexpired⟩⟩ := hleased holding hholding
    · exact ⟨grant, hgrant, hworker⟩
    · exact absurd hlive hexpired
  intro left hleft right hright hkey hliveLeft hliveRight
  obtain ⟨leftGrant, hleftGrant, hleftWorker⟩ := hlatest left hleft hliveLeft
  obtain ⟨rightGrant, hrightGrant, hrightWorker⟩ := hlatest right hright hliveRight
  rw [hkey, hrightGrant] at hleftGrant
  cases hleftGrant
  rw [← hleftWorker, hrightWorker]

theorem not_live_mono {now later : Nat} (hle : now ≤ later) {holding : Holding}
    (hexpired : ¬ Live now holding) : ¬ Live later holding := by
  unfold Live at *
  omega

theorem mem_without {held : List Holding} {worker : Nat} {k : String × String}
    {holding : Holding} :
    holding ∈ without held worker k ↔
      holding ∈ held ∧ ¬ (holding.worker = worker ∧ holding.key = k) := by
  rw [without, List.mem_filter, decide_eq_true_iff]

/-- A processing row that can be claimed has run out. -/
theorem not_live_of_claimable {now : Nat} {row : EventClaim} {holding : Holding}
    (hclaimable : Store.claimable now row) (hrow : row.state = .processing)
    (hsince : row.updatedAt = holding.claimedAt) : ¬ Live now holding := by
  rcases hclaimable with hpending | ⟨_, hexpired⟩
  · rw [hrow] at hpending
    cases hpending
  · unfold Live
    omega

theorem latest_cons (system : LeaseSystem) (granted : Holding) (k : String × String) :
    ({ system with grants := granted :: system.grants } : LeaseSystem).latest k =
      if granted.key = k then some granted else system.latest k := by
  unfold latest
  rw [List.find?_cons]
  by_cases hk : granted.key = k
  · simp [hk]
  · simp [hk]

theorem step_claim_leased {system : LeaseSystem} (hleased : system.Leased) (worker : Nat)
    (eventId claimKey fromPubkey channelH body : String) :
    (step system (.claim worker eventId claimKey fromPubkey channelH body)).Leased := by
  rcases claimOrchestrationTarget_cases system.store eventId claimKey fromPubkey channelH body
    system.now with ⟨hgranted, hclaimable, htaken, hothers⟩ | ⟨hrefused, hrows⟩
  · dsimp only [step]
    rw [if_pos hgranted]
    intro holding hholding
    by_cases hkey : (eventId, claimKey) = holding.key
    · refine ⟨⟨worker, (eventId, claimKey), system.now⟩, ?_, ?_⟩
      · exact (latest_cons system _ _).trans (if_pos hkey)
      · rcases List.mem_cons.mp hholding with rfl | hold
        · exact Or.inl ⟨rfl, htaken⟩
        · obtain ⟨hheld, hother⟩ := mem_without.mp hold
          have hworker : worker ≠ holding.worker :=
            fun heq => hother ⟨heq.symm, hkey.symm⟩
          refine Or.inr ⟨hworker, ?_⟩
          obtain ⟨grant, _, ⟨_, row, hrow, hstate, hsince⟩ | ⟨_, hexpired⟩⟩ :=
            hleased holding hheld
          · rw [← hkey] at hrow
            exact not_live_of_claimable (hclaimable row hrow) hstate hsince
          · exact hexpired
    · rcases List.mem_cons.mp hholding with rfl | hold
      · exact absurd rfl hkey
      · obtain ⟨grant, hgrant, hcurrent⟩ := hleased holding (mem_without.mp hold).1
        refine ⟨grant, ?_, ?_⟩
        · exact (latest_cons system _ _).trans ((if_neg hkey).trans hgrant)
        · rcases hcurrent with ⟨hworker, row, hrow, hstate⟩ | hexpired
          · exact Or.inl ⟨hworker, row, (hothers _ (Ne.symm hkey)).trans hrow, hstate⟩
          · exact Or.inr hexpired
  · dsimp only [step]
    rw [if_neg (by rw [hrefused]; decide)]
    intro holding hholding
    obtain ⟨grant, hgrant, ⟨hworker, row, hrow, hstate⟩ | hexpired⟩ := hleased holding hholding
    · exact ⟨grant, hgrant, Or.inl ⟨hworker, row, (hrows _).trans hrow, hstate⟩⟩
    · exact ⟨grant, hgrant, Or.inr hexpired⟩

theorem step_finish_leased {system : LeaseSystem} (hleased : system.Leased) {worker : Nat}
    {finish : Finish} (hpunctual : system.Punctual (.finish worker finish)) :
    (step system (.finish worker finish)).Leased := by
  by_cases hholds : system.Holds worker finish.key
  · dsimp only [step]
    rw [if_pos hholds]
    intro holding hholding
    obtain ⟨hheld, hother⟩ := mem_without.mp hholding
    obtain ⟨grant, hgrant, hcurrent⟩ := hleased holding hheld
    refine ⟨grant, hgrant, ?_⟩
    rcases hcurrent with ⟨hworker, row, hrow, hstate, hsince⟩ | hexpired
    · -- The row is not the one that is ended: its claim belongs to another worker.
      have huntouched : ¬ (holding.key = finish.key ∧ finish.Fits system.now) := by
        rintro ⟨hkey, hfits⟩
        refine hpunctual hfits hholds ⟨?_, grant, ?_, ?_⟩
        · rw [← hkey, hrow, Option.map_some, hstate]
        · rw [← hkey]
          exact hgrant
        · intro heq
          exact hother ⟨hworker.symm.trans heq, hkey⟩
      refine Or.inl ⟨hworker, row, ?_, hstate, hsince⟩
      exact (find?_finish system.store system.now finish holding.key).trans
        ((if_neg huntouched).trans hrow)
    · exact Or.inr hexpired
  · dsimp only [step]
    rw [if_neg hholds]
    exact hleased

theorem step_leased (system : LeaseSystem) (input : LeaseStep) (hleased : system.Leased)
    (hpunctual : system.Punctual input) : (step system input).Leased := by
  cases input with
  | wait seconds =>
      intro holding hholding
      obtain ⟨grant, hgrant, hcurrent | ⟨hworker, hexpired⟩⟩ := hleased holding hholding
      · exact ⟨grant, hgrant, Or.inl hcurrent⟩
      · exact ⟨grant, hgrant, Or.inr ⟨hworker, not_live_mono (Nat.le_add_right _ seconds) hexpired⟩⟩
  | claim worker eventId claimKey fromPubkey channelH body =>
      exact step_claim_leased hleased worker eventId claimKey fromPubkey channelH body
  | finish worker finish => exact step_finish_leased hleased hpunctual

/-! ## The laws of a step -/

theorem step_terminal (system : LeaseSystem) (input : LeaseStep) {k : String × String}
    {row : EventClaim} (hrow : system.row k = some row) (hcompleted : row.state = .completed) :
    ∃ next, (step system input).row k = some next ∧ next.state = .completed ∧
      (next = row ∨ next.updatedAt = system.now) := by
  cases input with
  | wait seconds => exact ⟨row, hrow, hcompleted, Or.inl rfl⟩
  | claim worker eventId claimKey fromPubkey channelH body =>
      have hkept : (commit (system.store.claimOrchestrationTarget eventId claimKey fromPubkey
          channelH body system.now) system.store).eventClaims.find? k = some row := by
        rcases claimOrchestrationTarget_cases system.store eventId claimKey fromPubkey channelH
          body system.now with ⟨_, hclaimable, _, hothers⟩ | ⟨_, hrows⟩
        · refine (hothers k ?_).trans hrow
          rintro rfl
          rcases hclaimable row hrow with hpending | ⟨hprocessing, _⟩
          · rw [hcompleted] at hpending
            cases hpending
          · rw [hcompleted] at hprocessing
            cases hprocessing
        · exact (hrows k).trans hrow
      refine ⟨row, ?_, hcompleted, Or.inl rfl⟩
      dsimp only [step]
      split
      · exact hkept
      · exact hkept
  | finish worker finish =>
      dsimp only [step]
      split
      · have hfind := find?_finish system.store system.now finish k
        rw [show system.store.eventClaims.find? k = some row from hrow] at hfind
        by_cases hhit : k = finish.key ∧ finish.Fits system.now
        · exact ⟨_, hfind.trans (if_pos hhit), Finish.ended_completed hcompleted finish⟩
        · exact ⟨row, hfind.trans (if_neg hhit), hcompleted, Or.inl rfl⟩
      · exact ⟨row, hrow, hcompleted, Or.inl rfl⟩

/-- A worker leaves the claim of its successor alone exactly if its step is punctual. -/
theorem step_fenced_iff (system : LeaseSystem) (input : LeaseStep) :
    (∀ worker finish, input = .finish worker finish → system.Holds worker finish.key →
      system.TakenOver worker finish.key →
        (step system input).row finish.key = system.row finish.key) ↔
      system.Punctual input := by
  cases input with
  | wait seconds | claim worker eventId claimKey fromPubkey channelH body =>
      exact iff_of_true (fun _ _ heq => by cases heq) trivial
  | finish worker finish =>
      have hfind := find?_finish system.store system.now finish finish.key
      constructor
      · intro hfenced hfits hholds htaken
        have hsame := hfenced worker finish rfl hholds htaken
        obtain ⟨row, hrow, hstate⟩ := Option.map_eq_some_iff.mp htaken.1
        dsimp only [step] at hsame
        rw [if_pos hholds] at hsame
        rw [if_pos ⟨rfl, hfits⟩, show system.store.eventClaims.find? finish.key = some row from hrow,
          Option.map_some] at hfind
        have hended := hfind.symm.trans (hsame.trans hrow)
        exact Finish.ended_ne hstate finish (Option.some.inj hended)
      · rintro hpunctual _ _ heq hholds htaken
        cases heq
        dsimp only [step]
        rw [if_pos hholds]
        exact hfind.trans (if_neg (fun hhit => hpunctual hhit.2 hholds htaken))

/-- Every step of a run obeys the laws of leases exactly if no worker ends a claim that
another one has taken over and is at work on. -/
theorem run_leases_iff (store : Store) (now : Nat) (inputs : List LeaseStep) :
    (∀ before input after, inputs = before ++ input :: after →
      Law (run step (opened store now) before) input
        (step (run step (opened store now) before) input)) ↔
      Guarded step Punctual (opened store now) inputs := by
  have hguarded : Guarded step Punctual (opened store now) inputs ↔
      ∀ before input after, inputs = before ++ input :: after →
        Punctual (run step (opened store now) before) input := guarded_iff_forall_step
  constructor
  · intro hlaws
    rw [hguarded]
    intro before input after heq
    exact (step_fenced_iff _ input).mp (hlaws before input after heq).fenced
  · intro hrun before input after heq
    have hpunctual := hguarded.mp hrun before input after heq
    rw [heq, guarded_append] at hrun
    -- As long as every end is punctual, at most one worker is at work on a claim.
    have hleased := guarded_run_invariant (I := Leased) (opened_leased store now) step_leased
      hrun.1
    exact {
      exclusive := (step_leased _ input hleased hpunctual).exclusive
      terminal := by
        intro k row hrow hcompleted
        obtain ⟨next, hnext, hstate, _⟩ := step_terminal _ input hrow hcompleted
        exact ⟨next, hnext, hstate⟩
      fenced := (step_fenced_iff _ input).mpr hpunctual }

/-! ## A late retry -/

/-- A claim, a takeover after the lease, the late retry of the first worker, and a third
claim. -/
def lateRetry : List LeaseStep :=
  [.claim 1 "event" "target" "alice" "channel" "spawn", .wait 601,
    .claim 2 "event" "target" "alice" "channel" "spawn", .finish 1 (.retry "event" "target")]

/-- Two workers hold a live claim at the same instant. -/
theorem late_retry_breaks_exclusion :
    ¬ ∀ (store : Store) (now : Nat) (inputs before : List LeaseStep) (input : LeaseStep)
      (after : List LeaseStep), inputs = before ++ input :: after →
        Law (run step (opened store now) before) input
          (step (run step (opened store now) before) input) := by
  intro hclaim
  have hlaw := hclaim Store.empty 1000 _ lateRetry
    (.claim 3 "event" "target" "alice" "channel" "spawn") [] rfl
  have hshared : ¬ Exclusive (step (run step (opened Store.empty 1000) lateRetry)
      (.claim 3 "event" "target" "alice" "channel" "spawn")) := by
    decide +kernel
  exact hshared hlaw.exclusive

end LeaseSystem

end Mosaico
