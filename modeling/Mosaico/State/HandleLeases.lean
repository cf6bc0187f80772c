import Mosaico.State.Operations

/-!
# Public handles and their leases

A derived session is addressed by a handle, which its pubkey holds on lease.  An
allocation stores the signer of the new pubkey and takes a handle in one
transaction: the handle the pubkey already holds, the handle of a requested name, or
the first of a long row of codenames that is free or whose lease has run out.

The statements of an allocation run one after the other on the open transaction, and
a failure after some of them rolls those back.
-/

namespace Mosaico

open Relational Transition

/-! ## Handles -/

/-- Canonical user-facing session handle: `sessionCode-agentSlug`. -/
def sessionHandle (agentSlug session : String) : String :=
  let agentSlug := Rust.trim agentSlug
  let session := Rust.trim session
  if session = "" then agentSlug
  else if agentSlug = "" then session
  else if Rust.endsWith session ("-" ++ agentSlug) then session
  else session ++ "-" ++ agentSlug

def codeWordsA : List String :=
  ["amber", "atlas", "birch", "cedar", "clay", "comet", "coral", "dawn", "ember", "flint", "gale",
    "hazel", "indigo", "ivy", "jet", "juno", "kite", "lark", "lumen", "maple", "nova", "onyx",
    "opal", "pearl", "quill", "quinn", "reed", "sable", "slate", "tide", "willow", "zephyr"]

def codeWordsB : List String :=
  ["arrow", "bravo", "canyon", "cliff", "delta", "drift", "echo", "falcon", "fjord", "grove",
    "harbor", "haven", "kilo", "lima", "meadow", "mesa", "orbit", "pace", "peak", "quest", "range",
    "ridge", "river", "shore", "sierra", "spark", "summit", "tango", "trail", "vale", "wave",
    "yonder"]

/-- The indices below `len`, from a start that depends on the seed. -/
def rotated (len : Nat) (seed : UInt64) : List Nat :=
  (List.range len).map (fun offset => (seed.toNat % len + offset) % len)

/-- `{:03}`. -/
def threeDigits (number : Nat) : String :=
  let digits := toString number
  String.ofList (List.replicate (3 - digits.length) '0') ++ digits

/-- `u64::rotate_left`. -/
def rotateLeft (seed : UInt64) (bits : Nat) : UInt64 :=
  UInt64.ofBitVec (seed.toBitVec.rotateLeft bits)

/-- The codenames in the order in which an allocation tries them: single words, words
with a number, and pairs of words with a number.  `seedHash` is the standard hash of
a string. -/
def candidates (seedHash : String → UInt64) (seed : String) : List String :=
  let words := codeWordsA ++ codeWordsB
  let seed := seedHash seed
  let tier1 := (rotated words.length seed).map (fun i => words.getD i "")
  let tier2 := (rotated (words.length * 1000) (rotateLeft seed 17)).map (fun i =>
    words.getD (i / 1000) "" ++ "-" ++ threeDigits (i % 1000))
  let tier3 := (rotated (codeWordsA.length * codeWordsB.length * 1000)
    (rotateLeft seed 33)).map (fun i =>
      codeWordsA.getD (i / 1000 / codeWordsB.length) "" ++ "-" ++
        codeWordsB.getD (i / 1000 % codeWordsB.length) "" ++ "-" ++ threeDigits (i % 1000))
  tier1 ++ tier2 ++ tier3

def handleLeaseGraceSecs : Nat := 7 * 24 * 60 * 60

/-- Why an allocation fails. -/
inductive AllocationError where
  | store (error : StoreError)
  | derivation (reason : String)
  | signerChanged (pubkey : String)
  | emptySessionName
  | invalidSessionName (name : String)
  | sessionNameInUse (name handle : String)
  | otherHandleHeld (pubkey existing name : String)
  | handleSpaceExhausted (agentSlug : String)
  deriving DecidableEq, Repr

/-- The text of an error.  `debug` is Rust's `{:?}` rendering of a string. -/
def AllocationError.text (debug : String → String) : AllocationError → String
  | .store error => error.text debug
  | .derivation reason => reason
  | .signerChanged pubkey => "signer material changed for pubkey " ++ debug pubkey
  | .emptySessionName => "session name must not be empty"
  | .invalidSessionName name =>
      "session name " ++ debug name ++
        " must use only ASCII letters, digits, hyphens, or underscores"
  | .sessionNameInUse name handle =>
      "session name " ++ debug name ++ " is already in use as " ++ debug handle
  | .otherHandleHeld pubkey existing name =>
      "session " ++ debug pubkey ++ " already uses " ++ debug existing ++
        ", not requested name " ++ debug name
  | .handleSpaceExhausted agentSlug =>
      "session handle space exhausted for agent " ++ debug agentSlug

/-- The handle of a requested session name. -/
def customHandle (agentSlug name : String) : Except AllocationError String :=
  let name := Rust.trim name
  if name = "" then .error .emptySessionName
  else if name.toList.all (fun c => c.isAlphanum || c == '-' || c == '_') then
    .ok (sessionHandle agentSlug name)
  else .error (.invalidSessionName name)

structure HandleAllocation where
  handle : String
  reclaimedPubkey : Option String
  deriving DecidableEq, Repr

namespace Store

/-! ## Reads -/

def leaseForPubkey (store : Store) (pubkey : String) : Option HandleLease :=
  store.handleLeases.rows.find? (fun lease => lease.pubkey = pubkey)

def handleForPubkey (store : Store) (pubkey : String) : Option String :=
  (store.leaseForPubkey pubkey).map HandleLease.handle

/-- The session of the pubkey is running. -/
def ownerRunning (store : Store) (pubkey : String) : Prop :=
  store.sessions.Any (fun row => row.pubkey = pubkey ∧ row.runtimeState = .running)

instance (store : Store) (pubkey : String) : Decidable (store.ownerRunning pubkey) :=
  inferInstanceAs (Decidable (store.sessions.Any _))

/-- The lease is live or the session of its owner is running. -/
def leaseOccupied (store : Store) (lease : HandleLease) : Prop :=
  lease.live = true ∨ store.ownerRunning lease.pubkey

instance (store : Store) (lease : HandleLease) : Decidable (store.leaseOccupied lease) :=
  inferInstanceAs (Decidable (_ ∨ _))

def ensureCustomHandleAvailable (store : Store) (agentSlug name : String) :
    Except AllocationError Unit := do
  let handle ← customHandle agentSlug name
  match store.handleLeases.find? handle with
  | none => return ()
  | some lease => ensure (¬ store.leaseOccupied lease) (.sessionNameInUse name handle)

def sessionSignerSalt (store : Store) (pubkey : String) : Option String :=
  (store.sessionSigners.find? pubkey).map SessionSigner.signerSalt

def isDerivedSessionPubkey (store : Store) (pubkey : String) : Bool :=
  (store.sessionSignerSalt pubkey).isSome

end Store

/-! ## Writes -/

/-- The lease that an insertion writes. -/
def HandleLease.granted (handle pubkey agentSlug : String) (now : Nat) : HandleLease where
  handle := handle
  pubkey := pubkey
  agentSlug := agentSlug
  leasedAt := now
  lastActiveAt := now
  live := true

namespace Store

def grantLease (store : Store) (lease : HandleLease) : Store :=
  { store with handleLeases := store.handleLeases.insertOrIgnore lease }

/-- `DELETE FROM handle_leases WHERE handle=?1`. -/
def dropLease (store : Store) (handle : String) : Store :=
  { store with handleLeases := store.handleLeases.deleteWhere (fun row => row.handle = handle) }

/-- `INSERT OR IGNORE INTO session_signers`. -/
def withSigner (store : Store) (pubkey signerSalt : String) : Store :=
  { store with
    sessionSigners := store.sessionSigners.insertOrIgnore
      { pubkey := pubkey, signerSalt := signerSalt } }

end Store

/-! ## Allocation -/

/-- The statements of an allocation, on the open transaction. -/
abbrev LeaseScript (α : Type) := Script AllocationError Store α

namespace LeaseScript

/-- One statement with its integer parameters. -/
def execute (params : List Nat) (write : Store → Store) : LeaseScript Unit :=
  Script.attempt fun store => do
    (bindParams params).mapError .store
    return ((), write store)

def renewLease (pubkey : String) (now : Nat) : LeaseScript Unit :=
  execute [now] (fun store => store.markHandleLive pubkey now)

def deleteLease (handle : String) : LeaseScript Unit :=
  execute [] (fun store => store.dropLease handle)

/-- The schema keeps handles and pubkeys apart. -/
def insertLease (handle pubkey agentSlug : String) (now : Nat) : LeaseScript Unit :=
  Script.attempt fun store => do
    (bindParams [now]).mapError .store
    ensure (¬ store.handleLeases.Any (fun row => row.handle = handle ∨ row.pubkey = pubkey))
      (.store (.constraintViolation "handle_leases"))
    return ((), store.grantLease (.granted handle pubkey agentSlug now))

/-- Insert a lease of a handle that no row holds. -/
def takeFree (handle pubkey agentSlug : String) (now : Nat) : LeaseScript HandleAllocation := do
  insertLease handle pubkey agentSlug now
  return { handle := handle, reclaimedPubkey := none }

/-- Replace the lease that `owner` no longer uses. -/
def takeOver (handle owner pubkey agentSlug : String) (now : Nat) :
    LeaseScript HandleAllocation := do
  deleteLease handle
  insertLease handle pubkey agentSlug now
  return { handle := handle, reclaimedPubkey := some owner }

/-- Take the first codename that is free or whose lease has run out. -/
def takeCodename (pubkey agentSlug : String) (now : Nat) : List String → LeaseScript HandleAllocation
  | [] => throw (.handleSpaceExhausted agentSlug)
  | codename :: rest => do
      let handle := sessionHandle agentSlug codename
      let store ← get
      match store.handleLeases.find? handle with
      | none => takeFree handle pubkey agentSlug now
      | some lease =>
          if store.leaseOccupied lease then
            takeCodename pubkey agentSlug now rest
          else if now - lease.lastActiveAt < handleLeaseGraceSecs then
            takeCodename pubkey agentSlug now rest
          else takeOver handle lease.pubkey pubkey agentSlug now

def allocateHandleIn (seedHash : String → UInt64) (pubkey agentSlug : String) (now : Nat) :
    LeaseScript HandleAllocation := do
  let store ← get
  match store.handleForPubkey pubkey with
  | some handle =>
      renewLease pubkey now
      return { handle := handle, reclaimedPubkey := none }
  | none => takeCodename pubkey agentSlug now (candidates seedHash pubkey)

def allocateCustomHandleIn (pubkey agentSlug name : String) (now : Nat) :
    LeaseScript HandleAllocation := do
  let handle ← Script.lift (customHandle agentSlug name)
  let store ← get
  match store.handleForPubkey pubkey with
  | some existing =>
      if existing ≠ handle then throw (.otherHandleHeld pubkey existing name)
      else
        renewLease pubkey now
        return { handle := existing, reclaimedPubkey := none }
  | none =>
      match store.handleLeases.find? handle with
      | none => takeFree handle pubkey agentSlug now
      | some lease =>
          if store.leaseOccupied lease then throw (.sessionNameInUse name handle)
          else takeOver handle lease.pubkey pubkey agentSlug now

def allocateIn (seedHash : String → UInt64) (pubkey agentSlug : String)
    (sessionName : Option String) (now : Nat) : LeaseScript HandleAllocation :=
  match sessionName with
  | some name => allocateCustomHandleIn pubkey agentSlug name now
  | none => allocateHandleIn seedHash pubkey agentSlug now

/-- `INSERT OR IGNORE` of the signer, which has to be the one that is stored then. -/
def bindSigner (pubkey signerSalt : String) : LeaseScript Unit := do
  execute [] (fun store => store.withSigner pubkey signerSalt)
  let store ← get
  if store.sessionSignerSalt pubkey = some signerSalt then return ()
  else throw (.signerChanged pubkey)

/-- The transaction of `reserve_derived_identity`, after the salt was drawn. -/
def reserveDerivedIdentityIn {κ : Type} (seedHash : String → UInt64) (agentSlug : String)
    (sessionName : Option String) (now : Nat) (signerSalt : String)
    (derive : String → Except String (κ × String)) :
    LeaseScript (κ × String × HandleAllocation) := do
  let (value, pubkey) ← Script.lift ((derive signerSalt).mapError .derivation)
  bindSigner pubkey signerSalt
  let allocation ← allocateIn seedHash pubkey agentSlug sessionName now
  return (value, pubkey, allocation)

end LeaseScript

/-- Store the signer of a new pubkey and take its handle.  `signerSalt` is the salt the
source draws, and `derive` computes the keys from it. -/
def Store.reserveDerivedIdentity {κ : Type} (store : Store) (seedHash : String → UInt64)
    (agentSlug : String) (sessionName : Option String) (now : Nat) (signerSalt : String)
    (derive : String → Except String (κ × String)) :
    Except AllocationError (κ × String × HandleAllocation) × Store :=
  Script.transaction
    (LeaseScript.reserveDerivedIdentityIn seedHash agentSlug sessionName now signerSalt derive)
    store

/-! ## What an allocation does -/

/-- A successful allocation: the pubkey keeps its handle, or takes one that is free, or
takes one whose lease nobody uses.  An allocation by codename also waits for the grace
period. -/
inductive Store.Allocated (store : Store) (pubkey agentSlug : String) (now : Nat)
    (byCodename : Bool) : HandleAllocation → Store → Prop
  | renewed (handle : String) (hheld : store.handleForPubkey pubkey = some handle) :
      Allocated store pubkey agentSlug now byCodename ⟨handle, none⟩
        (store.markHandleLive pubkey now)
  | fresh (handle : String) (hnone : store.handleForPubkey pubkey = none)
      (hfree : store.handleLeases.find? handle = none) :
      Allocated store pubkey agentSlug now byCodename ⟨handle, none⟩
        (store.grantLease (.granted handle pubkey agentSlug now))
  | reclaimed (handle : String) (lease : HandleLease)
      (hnone : store.handleForPubkey pubkey = none)
      (hlease : store.handleLeases.find? handle = some lease)
      (hvacant : ¬ store.leaseOccupied lease)
      (hgrace : byCodename = true → lease.lastActiveAt + handleLeaseGraceSecs ≤ now) :
      Allocated store pubkey agentSlug now byCodename ⟨handle, some lease.pubkey⟩
        ((store.dropLease handle).grantLease (.granted handle pubkey agentSlug now))

namespace Store

theorem handleForPubkey_eq_none_iff {store : Store} {pubkey : String} :
    store.handleForPubkey pubkey = none ↔
      ∀ lease ∈ store.handleLeases.rows, lease.pubkey ≠ pubkey := by
  simp [handleForPubkey, leaseForPubkey]

theorem handleForPubkey_eq_some {store : Store} {pubkey handle : String}
    (hheld : store.handleForPubkey pubkey = some handle) :
    ∃ lease ∈ store.handleLeases.rows, lease.pubkey = pubkey ∧ lease.handle = handle := by
  simp only [handleForPubkey, leaseForPubkey, Option.map_eq_some_iff] at hheld
  obtain ⟨lease, hlease, hhandle⟩ := hheld
  exact ⟨lease, List.mem_of_find?_eq_some hlease, by simpa using List.find?_some hlease, hhandle⟩

theorem mem_grantLease {store : Store} {lease other : HandleLease}
    (hfree : store.handleLeases.find? lease.handle = none) :
    other ∈ (store.grantLease lease).handleLeases.rows ↔
      other ∈ store.handleLeases.rows ∨ other = lease :=
  Table.mem_insertOrIgnore hfree

theorem mem_dropLease {store : Store} {handle : String} {other : HandleLease} :
    other ∈ (store.dropLease handle).handleLeases.rows ↔
      other ∈ store.handleLeases.rows ∧ other.handle ≠ handle := by
  simp [dropLease, Table.deleteWhere]

theorem find?_dropLease (store : Store) (handle : String) :
    (store.dropLease handle).handleLeases.find? handle = none := by
  rw [Table.find?_eq_none_iff]
  intro other hother
  exact (mem_dropLease.mp hother).2

/-- The leases after a handle was taken over. -/
theorem mem_takenOver {store : Store} {handle pubkey agentSlug : String} {now : Nat}
    {other : HandleLease} :
    other ∈ ((store.dropLease handle).grantLease
        (.granted handle pubkey agentSlug now)).handleLeases.rows ↔
      (other ∈ store.handleLeases.rows ∧ other.handle ≠ handle) ∨
        other = .granted handle pubkey agentSlug now := by
  rw [mem_grantLease (store.find?_dropLease handle), mem_dropLease]

end Store

namespace LeaseScript

variable {store after : Store} {pubkey agentSlug : String} {now : Nat}
  {allocation : HandleAllocation}

theorem execute_ok {params : List Nat} {write : Store → Store} {value : Unit}
    (hok : execute params write store = (.ok value, after)) : after = write store := by
  rw [execute, Script.attempt_ok_iff] at hok
  simp only [bind_eq_ok, pure_eq_ok, Prod.mk.injEq] at hok
  obtain ⟨_, _, _, rfl⟩ := hok
  rfl

theorem insertLease_ok {handle : String}
    {value : Unit} (hok : insertLease handle pubkey agentSlug now store = (.ok value, after)) :
    after = store.grantLease (.granted handle pubkey agentSlug now) := by
  rw [insertLease, Script.attempt_ok_iff] at hok
  simp only [bind_eq_ok, pure_eq_ok, Prod.mk.injEq] at hok
  obtain ⟨_, _, _, _, _, rfl⟩ := hok
  rfl

theorem takeOver_ok {handle owner : String}
    (hok : takeOver handle owner pubkey agentSlug now store = (.ok allocation, after)) :
    allocation = ⟨handle, some owner⟩ ∧
      after = (store.dropLease handle).grantLease (.granted handle pubkey agentSlug now) := by
  simp only [takeOver, Script.bind_ok_iff, Script.pure_ok_iff] at hok
  obtain ⟨_, _, hdeleted, _, _, hinserted, rfl, rfl⟩ := hok
  rw [deleteLease] at hdeleted
  rw [execute_ok hdeleted] at hinserted
  exact ⟨rfl, insertLease_ok hinserted⟩

theorem takeFree_ok {handle : String}
    (hok : takeFree handle pubkey agentSlug now store = (.ok allocation, after)) :
    allocation = ⟨handle, none⟩ ∧
      after = store.grantLease (.granted handle pubkey agentSlug now) := by
  simp only [takeFree, Script.bind_ok_iff, Script.pure_ok_iff] at hok
  obtain ⟨_, _, hinserted, rfl, rfl⟩ := hok
  exact ⟨rfl, insertLease_ok hinserted⟩

theorem takeCodename_allocated {codenames : List String}
    (hnone : store.handleForPubkey pubkey = none)
    (hok : takeCodename pubkey agentSlug now codenames store = (.ok allocation, after)) :
    store.Allocated pubkey agentSlug now true allocation after := by
  induction codenames with
  | nil => exact absurd hok Script.throw_not_ok
  | cons codename rest ih =>
      rw [takeCodename] at hok
      simp only [Script.bind_ok_iff, Script.get_ok_iff] at hok
      obtain ⟨_, _, ⟨rfl, rfl⟩, hok⟩ := hok
      cases hfound : store.handleLeases.find? (sessionHandle agentSlug codename) with
      | none =>
          rw [hfound] at hok
          obtain ⟨rfl, rfl⟩ := takeFree_ok hok
          exact .fresh _ hnone hfound
      | some lease =>
          rw [hfound] at hok
          dsimp only at hok
          by_cases hoccupied : store.leaseOccupied lease
          · rw [if_pos hoccupied] at hok
            exact ih hok
          · rw [if_neg hoccupied] at hok
            by_cases hgrace : now - lease.lastActiveAt < handleLeaseGraceSecs
            · rw [if_pos hgrace] at hok
              exact ih hok
            · rw [if_neg hgrace] at hok
              obtain ⟨rfl, rfl⟩ := takeOver_ok hok
              refine .reclaimed _ lease hnone hfound hoccupied (fun _ => ?_)
              have hpos : 0 < handleLeaseGraceSecs := by decide
              omega

theorem allocateHandleIn_allocated {seedHash : String → UInt64}
    (hok : allocateHandleIn seedHash pubkey agentSlug now store = (.ok allocation, after)) :
    store.Allocated pubkey agentSlug now true allocation after := by
  rw [allocateHandleIn] at hok
  simp only [Script.bind_ok_iff, Script.get_ok_iff] at hok
  obtain ⟨_, _, ⟨rfl, rfl⟩, hok⟩ := hok
  cases hheld : store.handleForPubkey pubkey with
  | some handle =>
      rw [hheld] at hok
      simp only [Script.bind_ok_iff, Script.pure_ok_iff] at hok
      obtain ⟨_, _, hrenewed, rfl, rfl⟩ := hok
      rw [renewLease] at hrenewed
      rw [execute_ok hrenewed]
      exact .renewed handle hheld
  | none =>
      rw [hheld] at hok
      exact takeCodename_allocated hheld hok

theorem allocateCustomHandleIn_allocated {name : String}
    (hok : allocateCustomHandleIn pubkey agentSlug name now store = (.ok allocation, after)) :
    store.Allocated pubkey agentSlug now false allocation after := by
  rw [allocateCustomHandleIn] at hok
  simp only [Script.bind_ok_iff, Script.get_ok_iff, Script.lift_ok_iff] at hok
  obtain ⟨handle, _, ⟨_, rfl⟩, _, _, ⟨rfl, rfl⟩, hok⟩ := hok
  cases hheld : store.handleForPubkey pubkey with
  | some existing =>
      rw [hheld] at hok
      dsimp only at hok
      by_cases hother : existing ≠ handle
      · rw [if_pos hother] at hok
        exact absurd hok Script.throw_not_ok
      · rw [if_neg hother] at hok
        simp only [Script.bind_ok_iff, Script.pure_ok_iff] at hok
        obtain ⟨_, _, hrenewed, rfl, rfl⟩ := hok
        rw [renewLease] at hrenewed
        rw [execute_ok hrenewed]
        exact .renewed existing hheld
  | none =>
      rw [hheld] at hok
      dsimp only at hok
      cases hfound : store.handleLeases.find? handle with
      | none =>
          rw [hfound] at hok
          obtain ⟨rfl, rfl⟩ := takeFree_ok hok
          exact .fresh handle hheld hfound
      | some lease =>
          rw [hfound] at hok
          dsimp only at hok
          by_cases hoccupied : store.leaseOccupied lease
          · rw [if_pos hoccupied] at hok
            exact absurd hok Script.throw_not_ok
          · rw [if_neg hoccupied] at hok
            obtain ⟨rfl, rfl⟩ := takeOver_ok hok
            exact .reclaimed handle lease hheld hfound hoccupied (fun hname => by cases hname)

theorem bindSigner_ok {signerSalt : String} {value : Unit}
    (hok : bindSigner pubkey signerSalt store = (.ok value, after)) :
    after = store.withSigner pubkey signerSalt ∧
      after.sessionSignerSalt pubkey = some signerSalt := by
  simp only [bindSigner, Script.bind_ok_iff, Script.get_ok_iff] at hok
  obtain ⟨_, middle, hinserted, _, _, ⟨rfl, rfl⟩, hok⟩ := hok
  by_cases hstored : middle.sessionSignerSalt pubkey = some signerSalt
  · rw [if_pos hstored, Script.pure_ok_iff] at hok
    obtain ⟨-, rfl⟩ := hok
    exact ⟨execute_ok hinserted, hstored⟩
  · rw [if_neg hstored] at hok
    exact absurd hok Script.throw_not_ok

end LeaseScript

namespace Store

/-- A reservation stores the signer and allocates a handle, or fails and leaves the
store as it was. -/
theorem reserveDerivedIdentity_ok {κ : Type} {store after : Store} {seedHash : String → UInt64}
    {agentSlug : String} {sessionName : Option String} {now : Nat} {signerSalt : String}
    {derive : String → Except String (κ × String)} {value : κ} {pubkey : String}
    {allocation : HandleAllocation}
    (hok : store.reserveDerivedIdentity seedHash agentSlug sessionName now signerSalt derive =
      (.ok (value, pubkey, allocation), after)) :
    derive signerSalt = .ok (value, pubkey) ∧
      (store.withSigner pubkey signerSalt).sessionSignerSalt pubkey = some signerSalt ∧
      (store.withSigner pubkey signerSalt).Allocated pubkey agentSlug now sessionName.isNone
        allocation after := by
  rw [reserveDerivedIdentity, Script.transaction_ok_iff,
    LeaseScript.reserveDerivedIdentityIn] at hok
  simp only [Script.bind_ok_iff, Script.lift_ok_iff] at hok
  obtain ⟨⟨value', pubkey'⟩, _, ⟨hderived, rfl⟩, hok⟩ := hok
  simp only [Script.pure_ok_iff] at hok
  obtain ⟨_, bound, hbound, allocation', _, hallocated, heq, rfl⟩ := hok
  cases heq
  obtain ⟨rfl, hsalt⟩ := LeaseScript.bindSigner_ok hbound
  refine ⟨mapError_eq_ok.mp hderived, hsalt, ?_⟩
  cases sessionName with
  | some name => exact LeaseScript.allocateCustomHandleIn_allocated hallocated
  | none => exact LeaseScript.allocateHandleIn_allocated hallocated

theorem reserveDerivedIdentity_error {κ : Type} {store : Store} {seedHash : String → UInt64}
    {agentSlug : String} {sessionName : Option String} {now : Nat} {signerSalt : String}
    {derive : String → Except String (κ × String)} {error : AllocationError}
    (herror : (store.reserveDerivedIdentity seedHash agentSlug sessionName now signerSalt
      derive).1 = .error error) :
    (store.reserveDerivedIdentity seedHash agentSlug sessionName now signerSalt derive).2 =
      store :=
  Script.transaction_of_error herror

/-- A reservation either stores the signer and allocates, or does nothing. -/
theorem reserveDerivedIdentity_cases {κ : Type} (store : Store) (seedHash : String → UInt64)
    (agentSlug : String) (sessionName : Option String) (now : Nat) (signerSalt : String)
    (derive : String → Except String (κ × String)) :
    let outcome :=
      store.reserveDerivedIdentity seedHash agentSlug sessionName now signerSalt derive
    (∃ value pubkey allocation, outcome.1 = .ok (value, pubkey, allocation) ∧
        derive signerSalt = .ok (value, pubkey) ∧
        (store.withSigner pubkey signerSalt).sessionSignerSalt pubkey = some signerSalt ∧
        (store.withSigner pubkey signerSalt).Allocated pubkey agentSlug now sessionName.isNone
          allocation outcome.2) ∨
      (∃ error, outcome.1 = .error error) ∧ outcome.2 = store := by
  intro outcome
  cases houtcome : outcome with
  | mk result after =>
      cases result with
      | ok value =>
          obtain ⟨value, pubkey, allocation⟩ := value
          obtain ⟨hderived, hsalt, hallocated⟩ := reserveDerivedIdentity_ok houtcome
          exact Or.inl ⟨value, pubkey, allocation, rfl, hderived, hsalt, hallocated⟩
      | error error =>
          refine Or.inr ⟨⟨error, rfl⟩, ?_⟩
          have hfirst : outcome.1 = .error error := by rw [houtcome]
          have hrolled : outcome.2 = store := reserveDerivedIdentity_error hfirst
          rw [houtcome] at hrolled
          exact hrolled

end Store

end Mosaico
