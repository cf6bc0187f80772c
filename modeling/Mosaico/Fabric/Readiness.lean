import Mathlib.Logic.Function.Basic
import Mosaico.Fabric.Intake
import Mosaico.Runtime.Starts

/-!
# Channel readiness

Before the daemon publishes into a channel it verifies that the channel stands and that
the author is a member, and it keeps the result for some minutes.  A verification reads
its evidence first and writes the cache later, under a lock that only verifications of the
same channel take.  Roster snapshots clear the cache of their channel; the removal of a
member leaves it alone.

The state counts the acts, so that it can say which evidence is older than which change.
-/

namespace Mosaico

open Relational Transition

def readyTtlSecs : Nat := 300

/-- `Duration::as_secs`, of nanoseconds. -/
def asSecs (nanos : Nat) : Nat := nanos / 1000000000

/-- What a verification is about.  The name for a channel that has to be created is left
out. -/
structure ChannelCtx where
  channel : String
  expectMember : String
  parentHint : Option String
  repairWhitelistedAdmins : Bool
  deriving DecidableEq, Repr

/-- Set the value of a channel and a member. -/
def putSlot {α : Type} (table : String → String → α) (channel member : String) (value : α) :
    String → String → α :=
  fun other otherMember =>
    if other = channel ∧ otherMember = member then value else table other otherMember

@[simp] theorem putSlot_self {α : Type} (table : String → String → α) (channel member : String)
    (value : α) : putSlot table channel member value channel member = value := by
  simp [putSlot]

theorem putSlot_of_ne {α : Type} {table : String → String → α}
    {channel member other otherMember : String} {value : α}
    (hother : ¬ (other = channel ∧ otherMember = member)) :
    putSlot table channel member value other otherMember = table other otherMember :=
  if_neg hother

/-- The times at which channels were verified for members. -/
structure Nip29.ChannelReadiness where
  verifiedAt : String → String → Option Nat

namespace Nip29.ChannelReadiness

def empty : Nip29.ChannelReadiness := ⟨fun _ _ => none⟩

def check (readiness : Nip29.ChannelReadiness) (channel expectMember : String) (now : Nat) : Bool :=
  (readiness.verifiedAt channel expectMember).any
    (fun time => asSecs (now - time) < readyTtlSecs)

def markReady (readiness : Nip29.ChannelReadiness) (channel expectMember : String) (now : Nat) :
    Nip29.ChannelReadiness where
  verifiedAt := putSlot readiness.verifiedAt channel expectMember (some now)

def invalidateChannel (readiness : Nip29.ChannelReadiness) (channel : String) :
    Nip29.ChannelReadiness where
  verifiedAt := fun other member =>
    if other = channel then none else readiness.verifiedAt other member

theorem check_markReady (readiness : Nip29.ChannelReadiness) (channel expectMember : String)
    (now : Nat) :
    (readiness.markReady channel expectMember now).check channel expectMember now := by
  simp [check, markReady, asSecs, readyTtlSecs]

theorem check_markReady_of_ne {readiness : Nip29.ChannelReadiness}
    {channel expectMember other member : String} {now : Nat}
    (hother : ¬ (other = channel ∧ member = expectMember)) :
    (readiness.markReady channel expectMember now).check other member now =
      readiness.check other member now :=
  congrArg (Option.any _) (putSlot_of_ne hother)

theorem check_invalidateChannel (readiness : Nip29.ChannelReadiness) (channel member : String)
    (now : Nat) : (readiness.invalidateChannel channel).check channel member now = false := by
  simp [check, invalidateChannel]

theorem check_invalidateChannel_of_ne {readiness : Nip29.ChannelReadiness}
    {channel other member : String} {now : Nat} (hother : other ≠ channel) :
    (readiness.invalidateChannel channel).check other member now =
      readiness.check other member now :=
  congrArg (Option.any _) (if_neg hother)

/-- What is not served now is not served later. -/
theorem check_of_le {readiness : Nip29.ChannelReadiness} {channel member : String} {now later : Nat}
    (hle : now ≤ later) (hcheck : readiness.check channel member later) :
    readiness.check channel member now := by
  unfold check at hcheck ⊢
  rw [Option.any_eq_true] at hcheck ⊢
  obtain ⟨time, htime, hfresh⟩ := hcheck
  refine ⟨time, htime, ?_⟩
  have hsecs : asSecs (now - time) ≤ asSecs (later - time) :=
    Nat.div_le_div_right (Nat.sub_le_sub_right hle time)
  exact decide_eq_true (Nat.lt_of_le_of_lt hsecs (of_decide_eq_true hfresh))

end Nip29.ChannelReadiness

/-! ## The local evidence -/

/-- The keys that a provider manages channels with. -/
structure ManagementKeys where
  managementPubkey : Option String
  whitelistedPubkeys : List String

/-- The admins that a channel needs, if the provider has a key of its own. -/
def localReadyRequiredAdmins (keys : ManagementKeys) (ctx : ChannelCtx) : Option (List String) :=
  keys.managementPubkey.map (fun management =>
    if ctx.repairWhitelistedAdmins then
      keys.whitelistedPubkeys.foldl
        (fun admins pubkey => if pubkey ∈ admins then admins else admins ++ [pubkey]) [management]
    else [management])

namespace Database

/-- The stored channel is a root, its roster is complete, and it lists the member and the
admins.  The consent of a parent is not stored, so a subchannel is never ready locally. -/
def storeLocallyMaterializedReady (db : Database) (ctx : ChannelCtx)
    (requiredAdmins : List String) : Bool :=
  (db.getChannel ctx.channel).isSome &&
    (ctx.parentHint.filter (fun parent => parent ≠ "")).isNone &&
    ((db.channelParent ctx.channel).filter (fun parent => parent ≠ "")).isNone &&
    db.hasChannelMembershipSnapshot ctx.channel &&
    (ctx.expectMember = "" || db.isChannelMember ctx.channel ctx.expectMember) &&
    requiredAdmins.all (db.isChannelAdmin ctx.channel)

def locallyMaterializedReady (db : Database) (keys : ManagementKeys) (ctx : ChannelCtx) : Bool :=
  (localReadyRequiredAdmins keys ctx).any (db.storeLocallyMaterializedReady ctx)

def removeChannelMember (db : Database) (channelH pubkey : String) : Bool × Database :=
  let removed := fun row : ChannelMember => row.channelH = channelH ∧ row.pubkey = pubkey
  (0 < db.channelMembers.matching removed,
    { db with channelMembers := db.channelMembers.deleteWhere removed })

end Database

/-! ## Verifications and changes -/

inductive VerifyStage where
  /-- The lock of the channel is held, and the second check missed. -/
  | locked
  /-- The local evidence is not enough. -/
  | remote
  /-- The evidence was read, at the count of acts. -/
  | evident (readAt : Nat)
  deriving DecidableEq, Repr

structure Verification where
  ctx : ChannelCtx
  stage : VerifyStage
  deriving DecidableEq, Repr

structure ReadinessState where
  db : Database
  readiness : Nip29.ChannelReadiness
  now : Nat
  /-- The call that holds the lock of a channel. -/
  verifying : String → Option Verification
  /-- The channel whose roster snapshot is being materialized, under the lock of the
  store. -/
  materializing : Option String
  acts : Nat
  /-- The count at the last completed roster change of a channel. -/
  changedAt : String → Nat
  /-- The count at the last confirmed removal of a member. -/
  removedAt : String → String → Nat
  /-- The count at the read of the evidence behind a slot. -/
  evidenceAt : String → String → Nat

inductive ReadinessAct where
  /-- A call whose first check missed takes the lock of its channel and checks again. -/
  | acquire (ctx : ChannelCtx)
  | verifyLocally (channel : String)
  /-- The relay was asked for the state of the group. -/
  | readRelay (channel : String)
  | markReady (channel : String)
  /-- The call fails, or is dropped while it waits for the relay. -/
  | degrade (channel : String)
  | replaceRoster (channel : String) (snapshot : RosterSnapshot)
  | invalidateChannel
  | removeMemberConfirmed (channel pubkey : String)
  | elapse (nanos : Nat)

namespace ReadinessState

/-- The daemon has started, with any database. -/
def start (db : Database) (now : Nat) : ReadinessState where
  db := db
  readiness := Nip29.ChannelReadiness.empty
  now := now
  verifying := fun _ => none
  materializing := none
  acts := 0
  changedAt := fun _ => 0
  removedAt := fun _ _ => 0
  evidenceAt := fun _ _ => 0

def setVerifying (state : ReadinessState) (channel : String)
    (verification : Option Verification) : ReadinessState :=
  { state with verifying := Function.update state.verifying channel verification }

variable (keys : ManagementKeys)

/-- An act that is not possible in the state changes nothing. -/
def act (state : ReadinessState) : ReadinessAct → ReadinessState
  | .acquire ctx =>
      match state.verifying ctx.channel with
      | some _ => state
      | none =>
          if state.readiness.check ctx.channel ctx.expectMember state.now then state
          else state.setVerifying ctx.channel (some ⟨ctx, .locked⟩)
  | .verifyLocally channel =>
      match state.verifying channel, state.materializing with
      | some ⟨ctx, .locked⟩, none =>
          if state.db.locallyMaterializedReady keys ctx then
            state.setVerifying channel (some ⟨ctx, .evident (state.acts + 1)⟩)
          -- without a management key there is nothing to repair with
          else if keys.managementPubkey.isNone then state.setVerifying channel none
          else state.setVerifying channel (some ⟨ctx, .remote⟩)
      | _, _ => state
  | .readRelay channel =>
      match state.verifying channel with
      | some ⟨ctx, .remote⟩ => state.setVerifying channel (some ⟨ctx, .evident (state.acts + 1)⟩)
      | _ => state
  | .markReady channel =>
      match state.verifying channel with
      | some ⟨ctx, .evident readAt⟩ =>
          { state.setVerifying channel none with
            readiness := state.readiness.markReady channel ctx.expectMember state.now
            evidenceAt := putSlot state.evidenceAt channel ctx.expectMember readAt }
      | _ => state
  | .degrade channel => state.setVerifying channel none
  | .replaceRoster channel snapshot =>
      match state.materializing with
      | some _ => state
      | none => { state with
          db := state.db.materializeRoster channel snapshot
          materializing := some channel }
  | .invalidateChannel =>
      match state.materializing with
      | some channel => { state with
          readiness := state.readiness.invalidateChannel channel
          materializing := none
          changedAt := Function.update state.changedAt channel (state.acts + 1) }
      | none => state
  | .removeMemberConfirmed channel pubkey =>
      match state.materializing with
      | some _ => state
      | none => { state with
          db := (state.db.removeChannelMember channel pubkey).2
          removedAt := putSlot state.removedAt channel pubkey (state.acts + 1) }
  | .elapse nanos => { state with now := state.now + nanos }

def step (state : ReadinessState) (next : ReadinessAct) : ReadinessState :=
  { state.act keys next with acts := state.acts + 1 }

/-- A call for the slot returns from the cache, at its first check or once it has the
lock. -/
def Served (state : ReadinessState) (channel member : String) : Prop :=
  state.readiness.check channel member state.now

/-- The evidence behind a slot is younger than the last roster change of the channel and the
last removal of the member. -/
def Backed (state : ReadinessState) (channel member : String) : Prop :=
  state.changedAt channel < state.evidenceAt channel member ∧
    state.removedAt channel member < state.evidenceAt channel member

/-- Whatever a call would be served now is backed. -/
def ServesBacked (state : ReadinessState) : Prop :=
  ∀ channel member, state.Served channel member → state.Backed channel member

/-! ## Runs -/

/-- The evidence of the current verifications and of the slots was read in the past. -/
structure Counted (state : ReadinessState) : Prop where
  evidence : ∀ channel member, state.evidenceAt channel member ≤ state.acts
  reads : ∀ channel ctx readAt,
    state.verifying channel = some ⟨ctx, .evident readAt⟩ → readAt ≤ state.acts

/-- A verification is marked only if no roster change of its channel was completed and its
member was not removed since the evidence was read, and a member is removed only if the
cache does not serve it. -/
def Timely (state : ReadinessState) : ReadinessAct → Prop
  | .markReady channel => ∀ ctx readAt,
      state.verifying channel = some ⟨ctx, .evident readAt⟩ →
        state.changedAt channel < readAt ∧ state.removedAt channel ctx.expectMember < readAt
  | .removeMemberConfirmed channel pubkey =>
      state.materializing = none → ¬ state.Served channel pubkey
  | _ => True

theorem counted_start (db : Database) (now : Nat) : (start db now).Counted where
  evidence := fun _ _ => le_rfl
  reads := fun channel ctx readAt hreads => by cases hreads

theorem verifying_setVerifying (state : ReadinessState) (channel other : String)
    (verification : Option Verification) :
    (state.setVerifying channel verification).verifying other =
      if other = channel then verification else state.verifying other :=
  Function.update_apply _ _ _ _

/-- The verification of a channel after an act: the one before, none, or one of an evidence
that was not read before the act. -/
theorem verifying_act (state : ReadinessState) (next : ReadinessAct) (channel : String) :
    (state.act keys next).verifying channel = state.verifying channel ∨
      ∀ ctx readAt, (state.act keys next).verifying channel = some ⟨ctx, .evident readAt⟩ →
        readAt = state.acts + 1 := by
  have hset : ∀ (other : String) (verification : Option Verification),
      (∀ ctx readAt, verification = some ⟨ctx, .evident readAt⟩ → readAt = state.acts + 1) →
      (state.setVerifying other verification).verifying channel = state.verifying channel ∨
        ∀ ctx readAt,
          (state.setVerifying other verification).verifying channel =
            some ⟨ctx, .evident readAt⟩ → readAt = state.acts + 1 := by
    intro other verification hverification
    rw [verifying_setVerifying]
    by_cases hchannel : channel = other
    · rw [if_pos hchannel]
      exact Or.inr hverification
    · rw [if_neg hchannel]
      exact Or.inl rfl
  cases next with
  | acquire ctx =>
      simp only [act]
      split
      · exact Or.inl rfl
      · split
        · exact Or.inl rfl
        · exact hset ctx.channel _ (by simp)
  | verifyLocally other =>
      simp only [act]
      split
      · split
        · exact hset other _ (by simp)
        · split
          · exact hset other _ (by simp)
          · exact hset other _ (by simp)
      · exact Or.inl rfl
  | readRelay other | markReady other =>
      simp only [act]
      split
      · exact hset other _ (by simp)
      · exact Or.inl rfl
  | degrade other => exact hset other _ (by simp)
  | replaceRoster other snapshot | invalidateChannel | removeMemberConfirmed other pubkey =>
      simp only [act]
      split
      · exact Or.inl rfl
      · exact Or.inl rfl
  | elapse nanos => exact Or.inl rfl

/-- The cache and what is known of changes are as before, and time may have passed. -/
structure KeepsCache (state next : ReadinessState) : Prop where
  readiness : next.readiness = state.readiness
  now : state.now ≤ next.now
  changedAt : next.changedAt = state.changedAt
  removedAt : next.removedAt = state.removedAt
  evidenceAt : next.evidenceAt = state.evidenceAt

theorem KeepsCache.refl (state : ReadinessState) : state.KeepsCache state :=
  ⟨rfl, le_rfl, rfl, rfl, rfl⟩

theorem keepsCache_setVerifying (state : ReadinessState) (channel : String)
    (verification : Option Verification) :
    state.KeepsCache (state.setVerifying channel verification) :=
  ⟨rfl, le_rfl, rfl, rfl, rfl⟩

/-- What an act does to the cache: nothing, or it marks a slot, clears a channel, or confirms
a removal. -/
theorem act_cases (state : ReadinessState) (next : ReadinessAct) :
    (state.Timely next ∧ state.KeepsCache (state.act keys next)) ∨
      (∃ channel ctx readAt, next = .markReady channel ∧
        state.verifying channel = some ⟨ctx, .evident readAt⟩ ∧
        state.act keys next =
          { state.setVerifying channel none with
            readiness := state.readiness.markReady channel ctx.expectMember state.now
            evidenceAt := putSlot state.evidenceAt channel ctx.expectMember readAt }) ∨
      (∃ channel, next = .invalidateChannel ∧
        state.act keys next = { state with
          readiness := state.readiness.invalidateChannel channel
          materializing := none
          changedAt := Function.update state.changedAt channel (state.acts + 1) }) ∨
      (∃ channel pubkey, next = .removeMemberConfirmed channel pubkey ∧
        state.materializing = none ∧
        state.act keys next = { state with
          db := (state.db.removeChannelMember channel pubkey).2
          removedAt := putSlot state.removedAt channel pubkey (state.acts + 1) }) := by
  -- Three acts change the cache or the roster, and each of them may find nothing to do.
  cases next with
  | acquire ctx =>
      refine Or.inl ⟨trivial, ?_⟩
      simp only [act]
      split
      · exact KeepsCache.refl state
      · split
        · exact KeepsCache.refl state
        · exact keepsCache_setVerifying state _ _
  | verifyLocally channel =>
      refine Or.inl ⟨trivial, ?_⟩
      simp only [act]
      split
      · split
        · exact keepsCache_setVerifying state _ _
        · split
          · exact keepsCache_setVerifying state _ _
          · exact keepsCache_setVerifying state _ _
      · exact KeepsCache.refl state
  | readRelay channel =>
      refine Or.inl ⟨trivial, ?_⟩
      simp only [act]
      split
      · exact keepsCache_setVerifying state _ _
      · exact KeepsCache.refl state
  | markReady channel =>
      simp only [act]
      split
      · rename_i ctx readAt hverifying
        exact Or.inr (Or.inl ⟨channel, ctx, readAt, rfl, hverifying, rfl⟩)
      · rename_i hnone
        refine Or.inl ⟨?_, KeepsCache.refl state⟩
        intro ctx readAt hverifying
        exact absurd hverifying (hnone ctx readAt)
  | degrade channel => exact Or.inl ⟨trivial, keepsCache_setVerifying state channel none⟩
  | replaceRoster channel snapshot =>
      refine Or.inl ⟨trivial, ?_⟩
      simp only [act]
      split
      · exact KeepsCache.refl state
      · exact ⟨rfl, le_rfl, rfl, rfl, rfl⟩
  | invalidateChannel =>
      simp only [act]
      split
      · rename_i channel _
        exact Or.inr (Or.inr (Or.inl ⟨channel, trivial, rfl⟩))
      · exact Or.inl ⟨trivial, KeepsCache.refl state⟩
  | removeMemberConfirmed channel pubkey =>
      simp only [act]
      split
      · rename_i other hmaterializing
        refine Or.inl ⟨?_, KeepsCache.refl state⟩
        intro hnone
        rw [hmaterializing] at hnone
        cases hnone
      · rename_i hmaterializing
        exact Or.inr (Or.inr (Or.inr ⟨channel, pubkey, rfl, hmaterializing, rfl⟩))
  | elapse nanos =>
      exact Or.inl ⟨trivial, ⟨rfl, Nat.le_add_right state.now nanos, rfl, rfl, rfl⟩⟩

theorem Counted.step {state : ReadinessState} (hcounted : state.Counted) (next : ReadinessAct) :
    (state.step keys next).Counted where
  evidence := by
    intro other member
    have hkept : state.evidenceAt other member ≤ state.acts + 1 :=
      (hcounted.evidence other member).trans (Nat.le_succ _)
    show (state.act keys next).evidenceAt other member ≤ state.acts + 1
    rcases act_cases keys state next with ⟨-, hkeeps⟩ | ⟨channel, ctx, readAt, -, hverifying, hact⟩ |
      ⟨channel, -, hact⟩ | ⟨channel, pubkey, -, -, hact⟩
    · rw [hkeeps.evidenceAt]
      exact hkept
    · rw [hact]
      show putSlot state.evidenceAt channel ctx.expectMember readAt other member ≤ state.acts + 1
      by_cases hslot : other = channel ∧ member = ctx.expectMember
      · obtain ⟨rfl, rfl⟩ := hslot
        rw [putSlot_self]
        exact (hcounted.reads other ctx readAt hverifying).trans (Nat.le_succ _)
      · rw [putSlot_of_ne hslot]
        exact hkept
    · rw [hact]
      exact hkept
    · rw [hact]
      exact hkept
  reads := by
    intro channel ctx readAt hreads
    rcases verifying_act keys state next channel with hsame | hnew
    · exact (hcounted.reads channel ctx readAt (hsame.symm.trans hreads)).trans (Nat.le_succ _)
    · exact (hnew ctx readAt hreads).le

/-- An act that keeps the cache serves nothing that was not backed before. -/
theorem KeepsCache.servesBacked {state next : ReadinessState} (hkeeps : state.KeepsCache next)
    (hserves : state.ServesBacked) : next.ServesBacked := by
  intro channel member hserved
  have hbefore : state.Served channel member := by
    refine Nip29.ChannelReadiness.check_of_le hkeeps.now ?_
    rw [← hkeeps.readiness]
    exact hserved
  have hbacked := hserves channel member hbefore
  unfold Backed at hbacked ⊢
  rw [hkeeps.changedAt, hkeeps.removedAt, hkeeps.evidenceAt]
  exact hbacked

/-- A slot that is marked is backed exactly if its evidence is younger than the changes. -/
theorem marked_servesBacked_iff {state : ReadinessState} {channel : String} {ctx : ChannelCtx}
    {readAt : Nat} (hverifying : state.verifying channel = some ⟨ctx, .evident readAt⟩)
    (hserves : state.ServesBacked) :
    ({ state.setVerifying channel none with
        readiness := state.readiness.markReady channel ctx.expectMember state.now
        evidenceAt := putSlot state.evidenceAt channel ctx.expectMember readAt } :
          ReadinessState).ServesBacked ↔
      state.Timely (.markReady channel) := by
  constructor
  · intro hafter other otherRead hother
    rw [hverifying, Option.some.injEq, Verification.mk.injEq, VerifyStage.evident.injEq] at hother
    obtain ⟨rfl, rfl⟩ := hother
    have hbacked := hafter channel ctx.expectMember
      (state.readiness.check_markReady channel ctx.expectMember state.now)
    simp only [Backed, putSlot_self] at hbacked
    exact hbacked
  · intro htimely other member hserved
    by_cases hslot : other = channel ∧ member = ctx.expectMember
    · obtain ⟨rfl, rfl⟩ := hslot
      simp only [Backed, putSlot_self]
      exact htimely ctx readAt hverifying
    · have hbefore : state.Served other member :=
        (Nip29.ChannelReadiness.check_markReady_of_ne hslot).symm.trans hserved
      simp only [Backed, putSlot_of_ne hslot]
      exact hserves other member hbefore

/-- The cleared channel is not served, and the others are as before. -/
theorem cleared_servesBacked {state : ReadinessState} {channel : String}
    (hserves : state.ServesBacked) :
    ({ state with
        readiness := state.readiness.invalidateChannel channel
        materializing := none
        changedAt := Function.update state.changedAt channel (state.acts + 1) } :
          ReadinessState).ServesBacked := by
  intro other member hserved
  by_cases hchannel : other = channel
  · subst hchannel
    have hnot := state.readiness.check_invalidateChannel other member state.now
    exact absurd (hnot.symm.trans hserved) Bool.false_ne_true
  · have hbefore : state.Served other member :=
      (Nip29.ChannelReadiness.check_invalidateChannel_of_ne hchannel).symm.trans hserved
    simp only [Backed, Function.update_of_ne hchannel]
    exact hserves other member hbefore

/-- A removal leaves the cache backed exactly if the member is not served. -/
theorem removed_servesBacked_iff {state : ReadinessState} {channel pubkey : String}
    (hcounted : state.Counted) (hserves : state.ServesBacked) :
    ({ state with
        db := (state.db.removeChannelMember channel pubkey).2
        removedAt := putSlot state.removedAt channel pubkey (state.acts + 1) } :
          ReadinessState).ServesBacked ↔
      ¬ state.Served channel pubkey := by
  constructor
  · intro hafter hserved
    have hbacked := (hafter channel pubkey hserved).2
    simp only [putSlot_self] at hbacked
    have hpast := hcounted.evidence channel pubkey
    omega
  · intro hunserved other member hserved
    by_cases hslot : other = channel ∧ member = pubkey
    · obtain ⟨rfl, rfl⟩ := hslot
      exact absurd hserved hunserved
    · simp only [Backed, putSlot_of_ne hslot]
      exact hserves other member hserved

/-- One act keeps the cache backed exactly if it is timely. -/
theorem step_servesBacked_iff {state : ReadinessState} {next : ReadinessAct}
    (hcounted : state.Counted) (hserves : state.ServesBacked) :
    (state.step keys next).ServesBacked ↔ state.Timely next := by
  show (state.act keys next).ServesBacked ↔ state.Timely next
  rcases act_cases keys state next with ⟨htimely, hkeeps⟩ |
    ⟨channel, ctx, readAt, rfl, hverifying, hact⟩ | ⟨channel, rfl, hact⟩ |
    ⟨channel, pubkey, rfl, hmaterializing, hact⟩
  · exact iff_of_true (hkeeps.servesBacked hserves) htimely
  · rw [hact]
    exact marked_servesBacked_iff hverifying hserves
  · rw [hact]
    exact iff_of_true (cleared_servesBacked hserves) trivial
  · rw [hact]
    refine (removed_servesBacked_iff hcounted hserves).trans ?_
    exact ⟨fun hunserved _ => hunserved, fun htimely => htimely hmaterializing⟩

/-- From the start and through any acts, whatever the cache serves is backed by evidence that
is younger than every completed roster change of its channel and every confirmed removal of
its member, exactly if every act is timely. -/
theorem run_servesBacked_iff (db : Database) (now : Nat) (acts : List ReadinessAct) :
    (∀ elapsed, elapsed <+: acts → (run (step keys) (start db now) elapsed).ServesBacked) ↔
      Guarded (step keys) Timely (start db now) acts := by
  refine forall_prefix_iff_guarded (fun _ _ => trivial) ?_ (counted_start db now)
    (fun _ next hcounted _ => hcounted.step keys next)
    (fun _ _ hcounted _ hserves => step_servesBacked_iff keys hcounted hserves)
  intro channel member hserved
  cases hserved

/-! ## A removal and a snapshot that the cache misses -/

def roomKeys : ManagementKeys := ⟨some "daemon", []⟩

/-- The room is a root with a complete roster, and the agent is a member. -/
def roomDatabase : Database :=
  { Database.empty with
    channels := Table.empty.insertOrIgnore ⟨"room", "Room", "", "", 0, 0⟩ }.rosterAfter "room"
      [⟨.admin, ["daemon"], 1⟩, ⟨.member, ["agent"], 2⟩]

/-- The agent is verified and removed, and it is started again within the five minutes. -/
def removedMember : List ReadinessAct :=
  [.acquire ⟨"room", "agent", none, false⟩, .verifyLocally "room", .markReady "room",
    .removeMemberConfirmed "room" "agent", .elapse 200000000000]

/-- A snapshot without the agent arrives between the read of a verification and its mark. -/
def lostInvalidation : List ReadinessAct :=
  [.acquire ⟨"room", "agent", none, false⟩, .verifyLocally "room",
    .replaceRoster "room" ⟨.member, [], 3⟩, .invalidateChannel, .markReady "room"]

instance (state : ReadinessState) (channel member : String) :
    Decidable (state.Served channel member) :=
  inferInstanceAs (Decidable (_ = true))

instance (state : ReadinessState) (channel member : String) :
    Decidable (state.Backed channel member) :=
  inferInstanceAs (Decidable (_ ∧ _))

/-- The cache serves the agent although it was removed, by the daemon or by a snapshot. -/
theorem stale_member_served :
    ¬ (run (step roomKeys) (start roomDatabase 0) removedMember).ServesBacked ∧
      ¬ (run (step roomKeys) (start roomDatabase 0) lostInvalidation).ServesBacked := by
  have hstale : ∀ acts ∈ [removedMember, lostInvalidation],
      (run (step roomKeys) (start roomDatabase 0) acts).Served "room" "agent" ∧
        ¬ (run (step roomKeys) (start roomDatabase 0) acts).Backed "room" "agent" := by
    decide +kernel
  have hunserved : ∀ acts ∈ [removedMember, lostInvalidation],
      ¬ (run (step roomKeys) (start roomDatabase 0) acts).ServesBacked := by
    intro acts hacts hserves
    obtain ⟨hserved, hunbacked⟩ := hstale acts hacts
    exact hunbacked (hserves "room" "agent" hserved)
  exact ⟨hunserved removedMember (by simp), hunserved lostInvalidation (by simp)⟩

end ReadinessState

end Mosaico
