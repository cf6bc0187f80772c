import Mosaico.State.HandleLeases
import Mosaico.State.LeaseFrames

/-!
# Safety of the handle leases

An allocation reads the lease table and the sessions in one transaction and decides
whether a handle may change hands.  It consults the running sessions only; that a
stopping session keeps its handle as well rests on an invariant of all the other
operations, namely that the lease of a session in use is live.

The seven days of the grace period count from `last_active_at`, which no operation moves
back while the lease is not live.  Two of the three stops set it to their own instant.  The
unconditional one sets it to the last sight of the session, which may be long before.
-/

namespace Mosaico

open Relational Transition

/-! ## Runs -/

/-- An operation of the store or an allocation, with the salt that the source draws and
the pubkey that is derived from it. -/
inductive LeaseOp where
  | store (op : StoreOp)
  | reserveDerivedIdentity (agentSlug : String) (sessionName : Option String) (now : Nat)
      (signerSalt : String) (derived : Except String String)

/-- The allocation of an operation. -/
def Store.allocate (store : Store) (seedHash : String → UInt64) (agentSlug : String)
    (sessionName : Option String) (now : Nat) (signerSalt : String)
    (derived : Except String String) :
    Except AllocationError (Unit × String × HandleAllocation) × Store :=
  store.reserveDerivedIdentity seedHash agentSlug sessionName now signerSalt
    (fun _ => derived.map (fun pubkey => ((), pubkey)))

def LeaseOp.step (seedHash : String → UInt64) (store : Store) : LeaseOp → Store
  | .store op => store.step op
  | .reserveDerivedIdentity agentSlug sessionName now signerSalt derived =>
      (store.allocate seedHash agentSlug sessionName now signerSalt derived).2

/-- The pubkey holds the handle. -/
def Store.Holds (store : Store) (pubkey handle : String) : Prop :=
  ∃ lease ∈ store.handleLeases.rows, lease.pubkey = pubkey ∧ lease.handle = handle

/-- What the leases promise in a state. -/
structure Store.LeaseSafety (seedHash : String → UInt64) (store : Store) : Prop where
  /-- Two pubkeys never hold one handle. -/
  distinct : ∀ first second handle, store.Holds first handle → store.Holds second handle →
    first = second
  /-- A pubkey holds one handle at most. -/
  single : ∀ pubkey first second, store.Holds pubkey first → store.Holds pubkey second →
    first = second
  /-- No operation takes the handle of a live lease or of a session in use. -/
  kept : ∀ op, ∀ lease ∈ store.handleLeases.rows,
    lease.live = true ∨ store.InUse lease.pubkey →
      (LeaseOp.step seedHash store op).Holds lease.pubkey lease.handle
  /-- A handle is given away only when its lease is not live and no session uses it;
  by codename only seven full days after `last_active_at`. -/
  given : ∀ agentSlug sessionName now signerSalt derived pubkey allocation,
    (store.allocate seedHash agentSlug sessionName now signerSalt derived).1 =
        .ok ((), pubkey, allocation) →
      (store.allocate seedHash agentSlug sessionName now signerSalt derived).2.Holds pubkey
          allocation.handle ∧
        ∀ lease ∈ store.handleLeases.rows, lease.handle = allocation.handle →
          lease.pubkey ≠ pubkey →
            lease.live = false ∧ ¬ store.InUse lease.pubkey ∧
              (sessionName = none → lease.lastActiveAt + handleLeaseGraceSecs ≤ now)
  /-- Only an allocation takes a handle from its holder. -/
  reclaimed : ∀ op, ∀ lease ∈ store.handleLeases.rows,
    ¬ (LeaseOp.step seedHash store op).Holds lease.pubkey lease.handle →
      ∃ agentSlug sessionName now signerSalt derived pubkey,
        op = .reserveDerivedIdentity agentSlug sessionName now signerSalt derived ∧
        (store.allocate seedHash agentSlug sessionName now signerSalt derived).1 =
          .ok ((), pubkey, ⟨lease.handle, some lease.pubkey⟩)
  /-- A failed allocation changes nothing. -/
  failed : ∀ agentSlug sessionName now signerSalt derived error,
    (store.allocate seedHash agentSlug sessionName now signerSalt derived).1 = .error error →
      (store.allocate seedHash agentSlug sessionName now signerSalt derived).2 = store

/-! ## The end of a lease -/

/-- The instant of a stop. -/
def LeaseOp.stoppedAt : LeaseOp → Option Nat
  | .store (.lifecycle (.finalizeRuntimeStoppedIfEpoch _ _ _ _ stoppedAt)) => some stoppedAt
  | .store (.lifecycle (.markRuntimeStoppedIfGeneration _ _ _ stoppedAt)) => some stoppedAt
  | .store (.lifecycle (.finalizeSessionRecoveryRevocation _ _ now)) => some now
  | _ => none

/-- The handle is on a live lease. -/
def Store.isLive (store : Store) (handle : String) : Bool :=
  (store.handleLeases.find? handle).any HandleLease.live

/-- The store and, for each handle, the instant at which its lease last ceased to be live. -/
structure LeaseHistory where
  store : Store
  endedAt : String → Option Nat

namespace LeaseHistory

def start : LeaseHistory := ⟨Store.empty, fun _ => none⟩

def step (seedHash : String → UInt64) (history : LeaseHistory) (op : LeaseOp) : LeaseHistory :=
  let after := LeaseOp.step seedHash history.store op
  { store := after
    endedAt := fun handle =>
      if history.store.isLive handle && !after.isLive handle then op.stoppedAt
      else history.endedAt handle }

/-- A lease that a codename allocation takes from another pubkey has not been live for seven
full days. -/
def SevenDays (seedHash : String → UInt64) (history : LeaseHistory) : Prop :=
  ∀ agentSlug now signerSalt derived pubkey allocation,
    (history.store.allocate seedHash agentSlug none now signerSalt derived).1 =
        .ok ((), pubkey, allocation) →
      ∀ lease ∈ history.store.handleLeases.rows, lease.handle = allocation.handle →
        lease.pubkey ≠ pubkey →
          ∃ ended, history.endedAt lease.handle = some ended ∧ ended + handleLeaseGraceSecs ≤ now

/-- An unconditional stop comes no later than the lease of its session was active or the
session was seen. -/
def StopsInTime (history : LeaseHistory) : LeaseOp → Prop
  | .store (.lifecycle (.markRuntimeStoppedIfGeneration pubkey generation _ stoppedAt)) =>
      ∀ lease ∈ history.store.handleLeases.rows, lease.pubkey = pubkey → lease.live = true →
        ∀ row ∈ history.store.sessions.find? pubkey,
          Store.isRunningGeneration pubkey generation row →
          stoppedAt ≤ max lease.lastActiveAt row.lastSeen
  | _ => True

end LeaseHistory

/-! ## The invariant -/

/-- What the operations keep true of the leases. -/
structure Store.LeaseInvariant (store : Store) : Prop where
  single : ∀ first ∈ store.handleLeases.rows, ∀ second ∈ store.handleLeases.rows,
    first.pubkey = second.pubkey → first = second
  /-- The lease of a session in use is live. -/
  live : ∀ lease ∈ store.handleLeases.rows, store.InUse lease.pubkey → lease.live = true
  /-- Only the stop of a session ends the life of a lease. -/
  known : ∀ lease ∈ store.handleLeases.rows, lease.live = false →
    ∃ row, store.sessions.find? lease.pubkey = some row

theorem Store.empty_leaseInvariant : Store.empty.LeaseInvariant where
  single := by
    intro first hfirst
    cases hfirst
  live := by
    intro lease hlease
    cases hlease
  known := by
    intro lease hlease
    cases hlease

/-- One lease after an operation that neither grants nor takes it. -/
structure HandleLease.Follows (lease next : HandleLease) : Prop where
  handle : next.handle = lease.handle
  pubkey : next.pubkey = lease.pubkey
  clock : next.live = false → lease.lastActiveAt ≤ next.lastActiveAt

theorem HandleLease.Follows.refl (lease : HandleLease) : lease.Follows lease :=
  ⟨rfl, rfl, fun _ => Nat.le_refl _⟩

namespace Store

theorem markHandleLive_follows (store : Store) (pubkey : String) (now : Nat) :
    store.handleLeases.RelatedBy HandleLease.Follows
      (store.markHandleLive pubkey now).handleLeases := by
  dsimp only [markHandleLive]
  apply Table.RelatedBy.updateWhere HandleLease.Follows.refl
  intro lease _ _
  exact ⟨rfl, rfl, fun hdead => by cases hdead⟩

variable {store after : Store} {next lease : HandleLease} {pubkey agentSlug : String} {now : Nat}
  {byCodename : Bool} {allocation : HandleAllocation}

/-- An operation of the store keeps every handle with its holder. -/
theorem LeaseWrite.follows {op : StoreOp} (hwrite : LeaseWrite store op after) :
    store.handleLeases.RelatedBy HandleLease.Follows after.handleLeases := by
  cases hwrite with
  | kept hsame =>
      rw [hsame.handleLeases]
      exact Table.RelatedBy.refl HandleLease.Follows.refl _
  | touched pubkey lastSeen hleases =>
      rw [hleases]
      dsimp only [touchHandleForPubkey]
      apply Table.RelatedBy.updateWhere HandleLease.Follows.refl
      rintro lease _ ⟨hlive, _⟩
      refine ⟨rfl, rfl, fun hdead => ?_⟩
      rw [show lease.live = false from hdead] at hlive
      cases hlive
  | renewed pubkey now hleases =>
      rw [hleases]
      exact store.markHandleLive_follows pubkey now
  | stopped pubkey stoppedAt hleases =>
      rw [hleases]
      dsimp only [markHandleStoppedAt]
      apply Table.RelatedBy.updateWhere HandleLease.Follows.refl
      intro lease _ _
      exact ⟨rfl, rfl, fun _ => Nat.le_max_left _ _⟩

theorem exists_followed {before after : Table HandleLease.handle}
    (hfollows : before.RelatedBy HandleLease.Follows after)
    (hnext : next ∈ after.rows) : ∃ lease ∈ before.rows, lease.Follows next := by
  have hrel := hfollows next.handle
  rw [Table.mem_rows_iff.mp hnext] at hrel
  generalize hfind : before.find? next.handle = found at hrel
  cases hrel with
  | some hR => exact ⟨_, Table.mem_of_find? hfind, hR⟩

theorem exists_follower {before after : Table HandleLease.handle}
    (hfollows : before.RelatedBy HandleLease.Follows after)
    (hlease : lease ∈ before.rows) : ∃ next ∈ after.rows, lease.Follows next := by
  have hrel := hfollows lease.handle
  rw [Table.mem_rows_iff.mp hlease] at hrel
  generalize hfind : after.find? lease.handle = found at hrel
  cases hrel with
  | some hR => exact ⟨_, Table.mem_of_find? hfind, hR⟩

/-- Handles that stay with their holders stay apart. -/
theorem single_of_follows {before after : Table HandleLease.handle}
    (hfollows : before.RelatedBy HandleLease.Follows after)
    (hsingle : ∀ first ∈ before.rows, ∀ second ∈ before.rows,
      first.pubkey = second.pubkey → first = second) :
    ∀ first ∈ after.rows, ∀ second ∈ after.rows, first.pubkey = second.pubkey →
      first = second := by
  intro first hfirst second hsecond hpubkey
  obtain ⟨left, hleft, hleftFollows⟩ := exists_followed hfollows hfirst
  obtain ⟨right, hright, hrightFollows⟩ := exists_followed hfollows hsecond
  have hsame : left = right := by
    apply hsingle left hleft right hright
    rw [← hleftFollows.pubkey, ← hrightFollows.pubkey, hpubkey]
  subst hsame
  have hkey : first.handle = second.handle := by
    rw [hleftFollows.handle, hrightFollows.handle]
  have hfind := Table.mem_rows_iff.mp hfirst
  rw [hkey, Table.mem_rows_iff.mp hsecond] at hfind
  exact (Option.some.inj hfind).symm

/-- A lease that is not live after an operation was not live before, or the operation
stopped its session. -/
theorem LeaseWrite.dead_cases {op : StoreOp} (hwrite : LeaseWrite store op after)
    (hnext : next ∈ after.handleLeases.rows) (hdead : next.live = false) :
    (∃ lease ∈ store.handleLeases.rows, lease.pubkey = next.pubkey ∧ lease.live = false) ∨
      after.StoppedSession next.pubkey := by
  cases hwrite with
  | kept hsame =>
      rw [hsame.handleLeases] at hnext
      exact Or.inl ⟨next, hnext, rfl, hdead⟩
  | touched pubkey lastSeen hleases =>
      rw [hleases] at hnext
      simp only [touchHandleForPubkey, Table.updateWhere, List.mem_map] at hnext
      obtain ⟨lease, hlease, rfl⟩ := hnext
      refine Or.inl ⟨lease, hlease, ?_⟩
      split at hdead
      · rename_i htouched
        rw [if_pos htouched]
        exact ⟨rfl, hdead⟩
      · rename_i hother
        rw [if_neg hother]
        exact ⟨rfl, hdead⟩
  | renewed pubkey now hleases =>
      rw [hleases] at hnext
      simp only [markHandleLive, Table.updateWhere, List.mem_map] at hnext
      obtain ⟨lease, hlease, rfl⟩ := hnext
      split at hdead
      · cases hdead
      · rename_i hother
        rw [if_neg hother]
        exact Or.inl ⟨lease, hlease, rfl, hdead⟩
  | stopped pubkey stoppedAt hleases hstopped =>
      rw [hleases] at hnext
      simp only [markHandleStoppedAt, Table.updateWhere, List.mem_map] at hnext
      obtain ⟨lease, hlease, rfl⟩ := hnext
      split at hdead
      · rename_i hpubkey
        rw [if_pos hpubkey]
        exact Or.inr (hpubkey.symm ▸ hstopped)
      · rename_i hother
        rw [if_neg hother]
        exact Or.inl ⟨lease, hlease, rfl, hdead⟩

/-- A lease that an operation ends counts from the instant of its stop. -/
theorem LeaseWrite.ends {op : StoreOp} (hwrite : LeaseWrite store op after)
    (hlease : store.handleLeases.find? lease.handle = some lease)
    (hnext : after.handleLeases.find? lease.handle = some next) (hlive : lease.live = true)
    (hdead : next.live = false) :
    ∃ instant, StoreOp.CountsFrom store lease.pubkey instant op ∧
      next.lastActiveAt = max lease.lastActiveAt instant := by
  have hstays : ∀ other : HandleLease, some other = some next → other.live = true → False := by
    intro other hother hotherLive
    rw [Option.some.inj hother, hdead] at hotherLive
    cases hotherLive
  cases hwrite with
  | kept hsame =>
      rw [hsame.handleLeases, hlease] at hnext
      exact (hstays lease hnext hlive).elim
  | touched pubkey lastSeen hleases =>
      rw [hleases] at hnext
      dsimp only [touchHandleForPubkey] at hnext
      rw [Table.find?_updateWhere, hlease, Option.map_some] at hnext
      refine (hstays _ hnext ?_).elim
      split
      · exact hlive
      · exact hlive
  | renewed pubkey now hleases =>
      rw [hleases] at hnext
      dsimp only [markHandleLive] at hnext
      rw [Table.find?_updateWhere, hlease, Option.map_some] at hnext
      refine (hstays _ hnext ?_).elim
      split
      · rfl
      · exact hlive
  | stopped pubkey stoppedAt hleases hstopped hsigners hinstant =>
      rw [hleases] at hnext
      dsimp only [markHandleStoppedAt] at hnext
      rw [Table.find?_updateWhere, hlease, Option.map_some] at hnext
      by_cases hpubkey : lease.pubkey = pubkey
      · rw [if_pos hpubkey] at hnext
        subst hpubkey
        exact ⟨stoppedAt, hinstant, by rw [← Option.some.inj hnext]⟩
      · rw [if_neg hpubkey] at hnext
        exact (hstays lease hnext hlive).elim

/-- The leases of a pubkey that was marked live are live. -/
theorem live_of_markHandleLive
    (hlease : lease ∈ (store.markHandleLive pubkey now).handleLeases.rows)
    (hpubkey : lease.pubkey = pubkey) : lease.live = true := by
  simp only [markHandleLive, Table.updateWhere, List.mem_map] at hlease
  obtain ⟨old, _, rfl⟩ := hlease
  split
  · rfl
  · rename_i hother
    rw [if_neg hother] at hpubkey
    exact absurd hpubkey hother

theorem step_leaseInvariant (hinv : store.LeaseInvariant) (op : StoreOp) :
    (store.step op).LeaseInvariant := by
  have hwrite := step_leaseWrite store op
  -- A lease that is not live belongs to a session that has stopped, then as now.
  have hdead : ∀ next ∈ (store.step op).handleLeases.rows, next.live = false →
      ∃ lease ∈ store.handleLeases.rows, lease.pubkey = next.pubkey ∧
        (lease.live = false ∨ (store.step op).StoppedSession next.pubkey) := by
    intro next hnext hnextDead
    rcases hwrite.dead_cases hnext hnextDead with ⟨lease, hlease, hpubkey, hleaseDead⟩ | hstopped
    · exact ⟨lease, hlease, hpubkey, Or.inl hleaseDead⟩
    · obtain ⟨lease, hlease, hfollows⟩ := exists_followed hwrite.follows hnext
      exact ⟨lease, hlease, hfollows.pubkey.symm, Or.inr hstopped⟩
  constructor
  · exact single_of_follows hwrite.follows hinv.single
  · intro next hnext hused
    by_contra hnotLive
    have hnextDead : next.live = false := by simpa using hnotLive
    obtain ⟨lease, hlease, hpubkey, hleaseDead | hstopped⟩ := hdead next hnext hnextDead
    · have hnotUsed : ¬ store.InUse next.pubkey := by
        intro hbefore
        have hlive := hinv.live lease hlease (hpubkey ▸ hbefore)
        rw [hleaseDead] at hlive
        cases hlive
      rcases launched_leases ((inUse_of_step hused).resolve_left hnotUsed) with
        hsame | ⟨now, hrenewed⟩ | ⟨hfresh, _⟩
      · rw [hsame] at hused
        exact hnotUsed hused
      · rw [hrenewed] at hnext
        rw [live_of_markHandleLive hnext rfl] at hnextDead
        cases hnextDead
      · obtain ⟨row, hrow⟩ := hinv.known lease hlease hleaseDead
        rw [hpubkey, hfresh] at hrow
        cases hrow
    · exact hstopped.not_inUse hused
  · intro next hnext hnextDead
    obtain ⟨lease, hlease, hpubkey, hleaseDead | hstopped⟩ := hdead next hnext hnextDead
    · obtain ⟨row, hrow⟩ := hinv.known lease hlease hleaseDead
      rw [hpubkey] at hrow
      obtain ⟨after, hafter, _⟩ := step_session op hrow
      exact ⟨after, hafter⟩
    · obtain ⟨row, hrow, _⟩ := hstopped
      exact ⟨row, hrow⟩

/-- An allocation writes no session. -/
theorem Allocated.sessions
    (hallocated : store.Allocated pubkey agentSlug now byCodename allocation after) :
    after.sessions = store.sessions := by
  cases hallocated with
  | renewed | fresh | reclaimed => rfl

/-- After an allocation the pubkey holds the handle on a live lease. -/
theorem Allocated.holds
    (hallocated : store.Allocated pubkey agentSlug now byCodename allocation after) :
    ∃ lease ∈ after.handleLeases.rows, lease.pubkey = pubkey ∧ lease.handle = allocation.handle ∧
      lease.live = true := by
  cases hallocated with
  | renewed handle hheld =>
      obtain ⟨lease, hlease, hpubkey, hhandle⟩ := handleForPubkey_eq_some hheld
      obtain ⟨next, hnext, hfollows⟩ :=
        exists_follower (store.markHandleLive_follows pubkey now) hlease
      have hnextPubkey : next.pubkey = pubkey := hfollows.pubkey.trans hpubkey
      exact ⟨next, hnext, hnextPubkey, hfollows.handle.trans hhandle,
        live_of_markHandleLive hnext hnextPubkey⟩
  | fresh handle hnone hfree =>
      exact ⟨.granted handle pubkey agentSlug now, (mem_grantLease hfree).mpr (Or.inr rfl),
        rfl, rfl, rfl⟩
  | reclaimed handle lease =>
      exact ⟨.granted handle pubkey agentSlug now, mem_takenOver.mpr (Or.inr rfl), rfl, rfl, rfl⟩

/-- A lease after an allocation is one of before, or a live one of the pubkey. -/
theorem Allocated.lease_cases
    (hallocated : store.Allocated pubkey agentSlug now byCodename allocation after)
    (hnext : next ∈ after.handleLeases.rows) :
    next ∈ store.handleLeases.rows ∨ next.pubkey = pubkey ∧ next.live = true := by
  cases hallocated with
  | renewed handle hheld =>
      simp only [markHandleLive, Table.updateWhere, List.mem_map] at hnext
      obtain ⟨lease, hlease, rfl⟩ := hnext
      split
      · rename_i hpubkey
        exact Or.inr ⟨hpubkey, rfl⟩
      · exact Or.inl hlease
  | fresh handle hnone hfree =>
      rcases (mem_grantLease hfree).mp hnext with hold | rfl
      · exact Or.inl hold
      · exact Or.inr ⟨rfl, rfl⟩
  | reclaimed handle lease =>
      rcases mem_takenOver.mp hnext with ⟨hold, _⟩ | rfl
      · exact Or.inl hold
      · exact Or.inr ⟨rfl, rfl⟩

theorem Allocated.single
    (hallocated : store.Allocated pubkey agentSlug now byCodename allocation after)
    (hsingle : ∀ first ∈ store.handleLeases.rows, ∀ second ∈ store.handleLeases.rows,
      first.pubkey = second.pubkey → first = second) :
    ∀ first ∈ after.handleLeases.rows, ∀ second ∈ after.handleLeases.rows,
      first.pubkey = second.pubkey → first = second := by
  cases hallocated with
  | renewed handle hheld => exact single_of_follows (store.markHandleLive_follows pubkey now) hsingle
  | fresh handle hnone hfree =>
      rw [handleForPubkey_eq_none_iff] at hnone
      intro first hfirst second hsecond hpubkey
      rcases (mem_grantLease hfree).mp hfirst with hfirst | rfl
      · rcases (mem_grantLease hfree).mp hsecond with hsecond | rfl
        · exact hsingle first hfirst second hsecond hpubkey
        · exact absurd hpubkey (hnone first hfirst)
      · rcases (mem_grantLease hfree).mp hsecond with hsecond | rfl
        · exact absurd hpubkey.symm (hnone second hsecond)
        · rfl
  | reclaimed handle lease hnone =>
      rw [handleForPubkey_eq_none_iff] at hnone
      intro first hfirst second hsecond hpubkey
      rcases mem_takenOver.mp hfirst with ⟨hfirst, _⟩ | rfl
      · rcases mem_takenOver.mp hsecond with ⟨hsecond, _⟩ | rfl
        · exact hsingle first hfirst second hsecond hpubkey
        · exact absurd hpubkey (hnone first hfirst)
      · rcases mem_takenOver.mp hsecond with ⟨hsecond, _⟩ | rfl
        · exact absurd hpubkey.symm (hnone second hsecond)
        · rfl

theorem Allocated.leaseInvariant
    (hallocated : store.Allocated pubkey agentSlug now byCodename allocation after)
    (hinv : store.LeaseInvariant) : after.LeaseInvariant where
  single := hallocated.single hinv.single
  live := by
    intro next hnext hused
    rcases hallocated.lease_cases hnext with hold | ⟨_, hlive⟩
    · apply hinv.live next hold
      rw [InUse, hallocated.sessions] at hused
      exact hused
    · exact hlive
  known := by
    intro next hnext hdead
    rw [hallocated.sessions]
    rcases hallocated.lease_cases hnext with hold | ⟨_, hlive⟩
    · exact hinv.known next hold hdead
    · rw [hdead] at hlive
      cases hlive

theorem LeaseInvariant.withSigner (hinv : store.LeaseInvariant)
    (pubkey signerSalt : String) : (store.withSigner pubkey signerSalt).LeaseInvariant :=
  ⟨hinv.single, hinv.live, hinv.known⟩

/-- What an allocation does: it stores the signer and allocates, or nothing. -/
theorem allocate_cases (store : Store) (seedHash : String → UInt64) (agentSlug : String)
    (sessionName : Option String) (now : Nat) (signerSalt : String)
    (derived : Except String String) :
    (∃ pubkey allocation,
      (store.allocate seedHash agentSlug sessionName now signerSalt derived).1 =
          .ok ((), pubkey, allocation) ∧
        derived = .ok pubkey ∧
        (store.withSigner pubkey signerSalt).sessionSignerSalt pubkey = some signerSalt ∧
        (store.withSigner pubkey signerSalt).Allocated pubkey agentSlug now sessionName.isNone
          allocation (store.allocate seedHash agentSlug sessionName now signerSalt derived).2) ∨
      (∃ error, (store.allocate seedHash agentSlug sessionName now signerSalt derived).1 =
        .error error) ∧
        (store.allocate seedHash agentSlug sessionName now signerSalt derived).2 = store := by
  rcases store.reserveDerivedIdentity_cases seedHash agentSlug sessionName now signerSalt
      (fun _ => derived.map (fun pubkey => ((), pubkey))) with
    ⟨⟨⟩, pubkey, allocation, hok, hderived, hsalt, hallocated⟩ | hfailed
  · refine Or.inl ⟨pubkey, allocation, hok, ?_, hsalt, hallocated⟩
    cases derived with
    | ok other =>
        cases hderived
        rfl
    | error reason => cases hderived
  · exact Or.inr hfailed

theorem leaseOp_leaseInvariant {seedHash : String → UInt64}
    (hinv : store.LeaseInvariant) (op : LeaseOp) :
    (LeaseOp.step seedHash store op).LeaseInvariant := by
  cases op with
  | store op => exact step_leaseInvariant hinv op
  | reserveDerivedIdentity agentSlug sessionName now signerSalt derived =>
      rcases store.allocate_cases seedHash agentSlug sessionName now signerSalt derived with
        ⟨pubkey, allocation, _, _, _, hallocated⟩ | ⟨_, hsame⟩
      · exact hallocated.leaseInvariant (hinv.withSigner pubkey signerSalt)
      · show (store.allocate seedHash agentSlug sessionName now signerSalt derived).2.LeaseInvariant
        rw [hsame]
        exact hinv

theorem run_leaseInvariant (seedHash : String → UInt64) (ops : List LeaseOp) :
    (run (LeaseOp.step seedHash) Store.empty ops).LeaseInvariant := by
  apply run_invariant (I := LeaseInvariant) empty_leaseInvariant
  intro store op hinv
  exact leaseOp_leaseInvariant hinv op

/-! ## What follows from the invariant -/

/-- An allocation takes over a lease that is not live and whose session is not in use. -/
theorem Allocated.given
    (hallocated : store.Allocated pubkey agentSlug now byCodename allocation after)
    (hinv : store.LeaseInvariant) (hlease : lease ∈ store.handleLeases.rows)
    (hhandle : lease.handle = allocation.handle) (hpubkey : lease.pubkey ≠ pubkey) :
    lease.live = false ∧ ¬ store.InUse lease.pubkey ∧
      (byCodename = true → lease.lastActiveAt + handleLeaseGraceSecs ≤ now) ∧
      allocation = ⟨lease.handle, some lease.pubkey⟩ := by
  have hfind := Table.mem_rows_iff.mp hlease
  rw [hhandle] at hfind
  cases hallocated with
  | renewed handle hheld =>
      obtain ⟨own, hown, hownPubkey, hownHandle⟩ := handleForPubkey_eq_some hheld
      have hfindOwn := Table.mem_rows_iff.mp hown
      rw [hownHandle] at hfindOwn
      rw [hfind, Option.some.injEq] at hfindOwn
      subst hfindOwn
      exact absurd hownPubkey hpubkey
  | fresh handle hnone hfree =>
      rw [hfree] at hfind
      cases hfind
  | reclaimed handle old hnone hold hvacant hgrace =>
      rw [hold, Option.some.injEq] at hfind
      subst hfind
      have hdead : old.live = false := by
        cases hlive : old.live with
        | false => rfl
        | true => exact absurd (Or.inl hlive) hvacant
      refine ⟨hdead, ?_, hgrace, ?_⟩
      · intro hused
        rw [hinv.live old hlease hused] at hdead
        cases hdead
      · rw [hhandle]

/-- An allocation leaves the other handles with their holders. -/
theorem Allocated.kept
    (hallocated : store.Allocated pubkey agentSlug now byCodename allocation after)
    (hlease : lease ∈ store.handleLeases.rows)
    (hother : lease.handle ≠ allocation.handle ∨ lease.pubkey = pubkey) :
    after.Holds lease.pubkey lease.handle := by
  cases hallocated with
  | renewed handle hheld =>
      obtain ⟨next, hnext, hfollows⟩ :=
        exists_follower (store.markHandleLive_follows pubkey now) hlease
      exact ⟨next, hnext, hfollows.pubkey, hfollows.handle⟩
  | fresh handle hnone hfree => exact ⟨lease, (mem_grantLease hfree).mpr (Or.inl hlease), rfl, rfl⟩
  | reclaimed handle old hnone =>
      rw [handleForPubkey_eq_none_iff] at hnone
      rcases hother with hother | hpubkey
      · exact ⟨lease, mem_takenOver.mpr (Or.inl ⟨hlease, hother⟩), rfl, rfl⟩
      · exact absurd hpubkey (hnone lease hlease)

theorem LeaseInvariant.safety {seedHash : String → UInt64}
    (hinv : store.LeaseInvariant) : store.LeaseSafety seedHash where
  distinct := by
    rintro first second handle ⟨left, hleft, rfl, rfl⟩ ⟨right, hright, rfl, hhandle⟩
    -- The handle is the key of the table.
    have hfind := Table.mem_rows_iff.mp hright
    rw [hhandle, Table.mem_rows_iff.mp hleft, Option.some.injEq] at hfind
    rw [hfind]
  single := by
    rintro pubkey first second ⟨left, hleft, rfl, rfl⟩ ⟨right, hright, hpubkey, rfl⟩
    rw [hinv.single left hleft right hright hpubkey.symm]
  kept := by
    intro op lease hlease hheld
    cases op with
    | store op =>
        obtain ⟨next, hnext, hfollows⟩ := exists_follower (step_leaseWrite store op).follows hlease
        exact ⟨next, hnext, hfollows.pubkey, hfollows.handle⟩
    | reserveDerivedIdentity agentSlug sessionName now signerSalt derived =>
        rcases store.allocate_cases seedHash agentSlug sessionName now signerSalt derived with
          ⟨pubkey, allocation, _, _, _, hallocated⟩ | ⟨_, hsame⟩
        -- An allocation takes over only what is neither live nor in use.
        · apply hallocated.kept hlease
          by_contra hmine
          rw [not_or, not_not] at hmine
          obtain ⟨hdead, hnotUsed, _⟩ :=
            hallocated.given (hinv.withSigner pubkey signerSalt) hlease hmine.1 hmine.2
          rcases hheld with hlive | hused
          · rw [hdead] at hlive
            cases hlive
          · exact hnotUsed hused
        · show (store.allocate seedHash agentSlug sessionName now signerSalt derived).2.Holds _ _
          rw [hsame]
          exact ⟨lease, hlease, rfl, rfl⟩
  given := by
    intro agentSlug sessionName now signerSalt derived pubkey allocation hok
    rcases store.allocate_cases seedHash agentSlug sessionName now signerSalt derived with
      ⟨taker, taken, htaken, _, _, hallocated⟩ | ⟨⟨error, herror⟩, _⟩
    · rw [hok] at htaken
      cases htaken
      obtain ⟨lease, hlease, hpubkey, hhandle, _⟩ := hallocated.holds
      refine ⟨⟨lease, hlease, hpubkey, hhandle⟩, ?_⟩
      intro old hold holdHandle holdPubkey
      obtain ⟨hdead, hnotUsed, hgrace, _⟩ :=
        hallocated.given (hinv.withSigner pubkey signerSalt) hold holdHandle holdPubkey
      refine ⟨hdead, hnotUsed, fun hname => hgrace ?_⟩
      rw [hname]
      rfl
    · rw [hok] at herror
      cases herror
  reclaimed := by
    intro op lease hlease hlost
    cases op with
    | store op =>
        obtain ⟨next, hnext, hfollows⟩ := exists_follower (step_leaseWrite store op).follows hlease
        exact absurd ⟨next, hnext, hfollows.pubkey, hfollows.handle⟩ hlost
    | reserveDerivedIdentity agentSlug sessionName now signerSalt derived =>
        rcases store.allocate_cases seedHash agentSlug sessionName now signerSalt derived with
          ⟨pubkey, allocation, hok, _, _, hallocated⟩ | ⟨_, hsame⟩
        · have hmine : ¬ (lease.handle ≠ allocation.handle ∨ lease.pubkey = pubkey) :=
            fun hother => hlost (hallocated.kept hlease hother)
          rw [not_or, not_not] at hmine
          obtain ⟨_, _, _, hallocation⟩ :=
            hallocated.given (hinv.withSigner pubkey signerSalt) hlease hmine.1 hmine.2
          refine ⟨agentSlug, sessionName, now, signerSalt, derived, pubkey, rfl, ?_⟩
          rw [hok, hallocation]
        · apply absurd _ hlost
          show (store.allocate seedHash agentSlug sessionName now signerSalt derived).2.Holds _ _
          rw [hsame]
          exact ⟨lease, hlease, rfl, rfl⟩
  failed := by
    intro agentSlug sessionName now signerSalt derived error herror
    exact reserveDerivedIdentity_error herror

end Store

namespace LeaseHistory

variable {seedHash : String → UInt64}

@[simp] theorem run_store (history : LeaseHistory) (ops : List LeaseOp) :
    (run (step seedHash) history ops).store = run (LeaseOp.step seedHash) history.store ops := by
  induction ops generalizing history with
  | nil => rfl
  | cons op rest ih => exact ih (history.step seedHash op)

/-- A lease that is not live counts from its end, or from later. -/
def CountsFromEnd (history : LeaseHistory) : Prop :=
  ∀ lease ∈ history.store.handleLeases.rows, lease.live = false →
    ∃ ended, history.endedAt lease.handle = some ended ∧ ended ≤ lease.lastActiveAt

/-- A stop in time does not count a lease from before its own instant. -/
theorem stoppedAt_le {history : LeaseHistory} {op : StoreOp} {lease : HandleLease} {instant : Nat}
    (htime : history.StopsInTime (.store op)) (hlease : lease ∈ history.store.handleLeases.rows)
    (hlive : lease.live = true)
    (hcounts : Store.StoreOp.CountsFrom history.store lease.pubkey instant op) :
    ∃ ended, (LeaseOp.store op).stoppedAt = some ended ∧ ended ≤ max lease.lastActiveAt instant := by
  cases op with
  | lifecycle op =>
      cases op with
      | finalizeRuntimeStoppedIfEpoch other generation stoppingLifecycleEpoch reason stoppedAt =>
          obtain ⟨_, rfl⟩ := hcounts
          exact ⟨stoppedAt, rfl, Nat.le_max_right _ _⟩
      | markRuntimeStoppedIfGeneration other generation reason stoppedAt =>
          obtain ⟨rfl, row, hrow, hrunning, rfl⟩ := hcounts
          exact ⟨stoppedAt, rfl, htime lease hlease rfl hlive row hrow hrunning⟩
      | finalizeSessionRecoveryRevocation other generation now =>
          obtain ⟨_, rfl⟩ := hcounts
          exact ⟨now, rfl, Nat.le_max_right _ _⟩
      | _ => exact hcounts.elim
  | inbox op | locator op | standing op | context op => exact hcounts.elim

theorem step_countsFromEnd {history : LeaseHistory} (hcounts : history.CountsFromEnd)
    {op : LeaseOp} (htime : history.StopsInTime op) :
    (history.step seedHash op).CountsFromEnd := by
  intro next hnext hdead
  have hfound : (LeaseOp.step seedHash history.store op).handleLeases.find? next.handle =
      some next := Table.mem_rows_iff.mp hnext
  have hafter : (LeaseOp.step seedHash history.store op).isLive next.handle = false := by
    rw [Store.isLive, hfound]
    exact hdead
  -- a lease that was not live keeps the instant of its end
  have hkept {lease : HandleLease} (hlease : lease ∈ history.store.handleLeases.rows)
      (hhandle : lease.handle = next.handle) (hbefore : lease.live = false)
      (hclock : lease.lastActiveAt ≤ next.lastActiveAt) :
      ∃ ended, (history.step seedHash op).endedAt next.handle = some ended ∧
        ended ≤ next.lastActiveAt := by
    obtain ⟨ended, hended, hle⟩ := hcounts lease hlease hbefore
    refine ⟨ended, ?_, hle.trans hclock⟩
    have hwas : history.store.isLive next.handle = false := by
      rw [Store.isLive, ← hhandle, Table.mem_rows_iff.mp hlease]
      exact hbefore
    simp only [step, hwas, Bool.false_and, Bool.false_eq_true, if_false]
    rw [← hhandle]
    exact hended
  cases op with
  | store op =>
      have hwrite := Store.step_leaseWrite history.store op
      obtain ⟨lease, hlease, hfollows⟩ := Store.exists_followed hwrite.follows hnext
      cases hlive : lease.live with
      | false => exact hkept hlease hfollows.handle.symm hlive (hfollows.clock hdead)
      | true =>
          have hfind := Table.mem_rows_iff.mp hlease
          obtain ⟨instant, hinstant, hlast⟩ := hwrite.ends hfind
            (hfollows.handle ▸ hfound) hlive hdead
          obtain ⟨ended, hended, hle⟩ := stoppedAt_le htime hlease hlive hinstant
          refine ⟨ended, ?_, hlast ▸ hle⟩
          have hwas : history.store.isLive next.handle = true := by
            rw [Store.isLive, hfollows.handle, hfind]
            exact hlive
          simp only [step, hwas, hafter, Bool.not_false, Bool.and_true, if_true]
          exact hended
  | reserveDerivedIdentity agentSlug sessionName now signerSalt derived =>
      have hold : next ∈ history.store.handleLeases.rows := by
        rcases history.store.allocate_cases seedHash agentSlug sessionName now signerSalt derived with
          ⟨pubkey, allocation, _, _, _, hallocated⟩ | ⟨_, hsame⟩
        · rcases hallocated.lease_cases hnext with hold | ⟨_, hlive⟩
          · exact hold
          · rw [hdead] at hlive
            cases hlive
        · change next ∈ (history.store.allocate seedHash agentSlug sessionName now signerSalt
            derived).2.handleLeases.rows at hnext
          rw [hsame] at hnext
          exact hnext
      exact hkept hold rfl hdead (Nat.le_refl _)

theorem CountsFromEnd.sevenDays {history : LeaseHistory} (hcounts : history.CountsFromEnd)
    (hsafe : history.store.LeaseSafety seedHash) : history.SevenDays seedHash := by
  intro agentSlug now signerSalt derived pubkey allocation hok lease hlease hhandle hpubkey
  obtain ⟨hdead, _, hgrace⟩ :=
    (hsafe.given agentSlug none now signerSalt derived pubkey allocation hok).2 lease hlease
      hhandle hpubkey
  obtain ⟨ended, hended, hle⟩ := hcounts lease hlease hdead
  exact ⟨ended, hended, (Nat.add_le_add_right hle _).trans (hgrace rfl)⟩

end LeaseHistory

/-- In every run of allocations, renewals, reservations and stops, with any clock values, the
leases are safe; and as long as every unconditional stop comes in time, a codename allocation
reclaims a lease only seven full days after it ceased to be live. -/
theorem handleLeases_safe (seedHash : String → UInt64) (ops : List LeaseOp) :
    (run (LeaseHistory.step seedHash) .start ops).store.LeaseSafety seedHash ∧
      (Guarded (LeaseHistory.step seedHash) LeaseHistory.StopsInTime .start ops →
        (run (LeaseHistory.step seedHash) .start ops).SevenDays seedHash) := by
  have hsafe : (run (LeaseHistory.step seedHash) .start ops).store.LeaseSafety seedHash := by
    rw [LeaseHistory.run_store]
    exact (Store.run_leaseInvariant seedHash ops).safety
  refine ⟨hsafe, ?_⟩
  intro htime
  have hcounts : (run (LeaseHistory.step seedHash) .start ops).CountsFromEnd := by
    refine guarded_run_invariant (I := LeaseHistory.CountsFromEnd) ?_
      (fun _ _ hcounts hstop => LeaseHistory.step_countsFromEnd hcounts hstop) htime
    intro lease hlease
    cases hlease
  exact hcounts.sevenDays hsafe

/-! ## A late stop -/

/-- A session that is reserved at zero, stops at the given instant and has been seen at another
one meanwhile; with a constant hash every pubkey tries the same codename first. -/
def stoppedSession (seen stoppedAt : Nat) : List LeaseOp :=
  [.reserveDerivedIdentity "codex" none 0 "salt" (.ok "first"),
    .store (.lifecycle (.reserveSessionWithFacts
      { pubkey := "first"
        observedHarness := "codex"
        agentSlug := "codex"
        channelH := "root"
        childPid := none
        now := 0 }
      { observedHarness := "codex"
        claimedHarness := ""
        bundle := "codex-pty"
        transport := "pty"
        endpointProvenance := "launch" })),
    .store (.context (.touchSession "first" seen)),
    .store (.lifecycle (.markRuntimeStoppedIfGeneration "first" 1 .operatorKill stoppedAt))]

/-- The session is seen when it stops, eight days after its start. -/
theorem handleLeases_safe_seen :
    (run (LeaseHistory.step fun _ => 0) .start (stoppedSession 691200 691200)).SevenDays
      fun _ => 0 := by
  refine (handleLeases_safe (fun _ => 0) (stoppedSession 691200 691200)).2 ?_
  refine ⟨trivial, trivial, trivial, ?_, trivial⟩
  show ∀ lease ∈ _, _
  decide +kernel

/-- A session stops eight days after it was seen last, and its handle is given away at once. -/
theorem lateStop_reclaimed :
    ¬ ∀ (seedHash : String → UInt64) (ops : List LeaseOp),
      (run (LeaseHistory.step seedHash) .start ops).SevenDays seedHash := by
  intro hclaim
  have hdays := hclaim (fun _ => 0) (stoppedSession 0 691200) "codex" 691200 "other" (.ok "second")
    "second" ⟨"amber-codex", some "first"⟩ (by decide +kernel)
    ⟨"amber-codex", "first", "codex", 0, 0, false⟩ (by decide +kernel) rfl (by decide)
  obtain ⟨ended, hended, hgrace⟩ := hdays
  have hlate : (run (LeaseHistory.step fun _ => 0) .start (stoppedSession 0 691200)).endedAt
      "amber-codex" = some 691200 := by
    decide +kernel
  rw [hlate, Option.some.injEq] at hended
  rw [← hended] at hgrace
  exact absurd hgrace (by decide)

end Mosaico
