import Mathlib.Data.List.Perm.Subperm
import Mathlib.Data.List.TakeWhile
import Mosaico.Fabric.Readiness

/-!
# Provisioning along the ancestry

To make a channel ready the daemon first makes its parent ready, and so on up to the root.
Each level holds the lock of its channel while the levels above it run, and the locks are
not reentrant.  The parents come from the relay's metadata and from local hints.

A walk that comes back to a channel it has begun waits for itself.  The module says for
which databases and calls that does not happen: when the ancestry has no channel twice, or
when the walk ends in a refusal before it closes the circle.
-/

namespace Mosaico

open Relational

inductive ChannelGate where
  | ready
  | repaired
  | degraded
  deriving DecidableEq, Repr

/-- How a call ends. -/
inductive ProvisionOutcome where
  | gate (gate : ChannelGate)
  /-- The call waits for the lock of a channel that it holds itself. -/
  | blocked (channel : String)
  /-- The walk is longer than the given depth. -/
  | unfinished
  deriving DecidableEq, Repr

/-- What a call meets outside of the database: the answers of the readiness cache before and
behind the lock of a channel, and what the relay answers to the work on one channel whose
parent is ready. -/
structure ProvisionWorld where
  verified : String → String → Bool
  verifiedBehindLock : String → String → Bool
  relayWork : ChannelCtx → ChannelGate

namespace Database

/-! ## Parents -/

/-- The parent that the sessions of a channel ask for, running and newest sessions first. -/
def sessionReadinessParent (db : Database) (channelH : String) : Option String :=
  ((((db.store.sessions.select (fun row =>
      row.channelH = channelH ∧ row.readinessParent ≠ "")).insertionSort
        (fun left right => right.createdAt ≤ left.createdAt)).insertionSort
      (fun left right => right.runtimeState = .running → left.runtimeState = .running)).head?).map
    Session.readinessParent

/-- `resolved_parent_hint_from_store` -/
def resolvedParentHint (db : Database) (channel : String) (callerHint : Option String) :
    Option String :=
  let pending := ((db.channelResolutionParent channel).or (db.sessionReadinessParent channel)).or
    callerHint
  effectiveParentHint (db.channelParent channel) pending channel

def storedParentHint (db : Database) (channel : String) : Option String :=
  db.resolvedParentHint channel none

/-- The context in which `ensure_parent` asks for the parent. -/
def parentCtx (db : Database) (child : ChannelCtx) (parent managementPubkey : String) :
    ChannelCtx where
  channel := parent
  expectMember := managementPubkey
  parentHint := db.storedParentHint parent
  repairWhitelistedAdmins := child.repairWhitelistedAdmins

/-! ## The recursion -/

variable (db : Database) (keys : ManagementKeys) (world : ProvisionWorld)

/-- `ensure_channel_ready_inner`, with the channels whose locks the call holds, and the
channels it comes to. -/
def ensureChannelReadyInner :
    Nat → List String → ChannelCtx → ProvisionOutcome × List String
  | 0, _, _ => (.unfinished, [])
  | depth + 1, held, ctx =>
      if world.verified ctx.channel ctx.expectMember then (.gate .ready, [ctx.channel])
      else if ctx.channel ∈ held then (.blocked ctx.channel, [ctx.channel])
      else if world.verifiedBehindLock ctx.channel ctx.expectMember then
        (.gate .ready, [ctx.channel])
      else if db.locallyMaterializedReady keys ctx then (.gate .ready, [ctx.channel])
      else match keys.managementPubkey with
        | none => (.gate .degraded, [ctx.channel])
        | some managementPubkey =>
            match ctx.parentHint.filter (fun parent => parent ≠ "") with
            | none => (.gate (world.relayWork ctx), [ctx.channel])
            | some parent =>
                match ensureChannelReadyInner depth (ctx.channel :: held)
                    (db.parentCtx ctx parent managementPubkey) with
                | (.gate .degraded, visited) => (.gate .degraded, ctx.channel :: visited)
                | (.gate _, visited) => (.gate (world.relayWork ctx), ctx.channel :: visited)
                | (outcome, visited) => (outcome, ctx.channel :: visited)

/-- More levels than the database has parents. -/
def provisionDepth : Nat :=
  db.channels.rows.length + db.resolutionIntents.rows.length + db.store.sessions.rows.length + 3

/-- `ensure_channel_ready` -/
def ensureChannelReady (ctx : ChannelCtx) : ProvisionOutcome × List String :=
  if Rust.isBlank ctx.channel then (.gate .degraded, [])
  else db.ensureChannelReadyInner keys world db.provisionDepth []
    { ctx with parentHint := db.resolvedParentHint ctx.channel ctx.parentHint }

/-! ## The ancestry -/

/-- The levels of a walk that nothing stops, the call itself first. -/
def ancestry (managementPubkey : String) : Nat → ChannelCtx → List ChannelCtx
  | 0, _ => []
  | depth + 1, ctx =>
      match ctx.parentHint.filter (fun parent => parent ≠ "") with
      | none => [ctx]
      | some parent =>
          ctx :: ancestry managementPubkey depth (db.parentCtx ctx parent managementPubkey)

/-- The level needs no work: it is verified, before or behind its lock, or by local
evidence. -/
def answered (ctx : ChannelCtx) : Bool :=
  world.verified ctx.channel ctx.expectMember ||
    world.verifiedBehindLock ctx.channel ctx.expectMember || db.locallyMaterializedReady keys ctx

/-- The levels below the first one that needs no work. -/
def workedLevels (managementPubkey : String) (depth : Nat) (ctx : ChannelCtx) : List ChannelCtx :=
  (db.ancestry managementPubkey depth ctx).takeWhile fun level => !db.answered keys world level

/-- These levels, and the one that needs no work. -/
def reachedLevels (managementPubkey : String) (depth : Nat) (ctx : ChannelCtx) :
    List ChannelCtx :=
  db.workedLevels keys world managementPubkey depth ctx ++
    ((db.ancestry managementPubkey depth ctx).dropWhile
      fun level => !db.answered keys world level).take 1

/-- The context of a call once its parent hint is resolved. -/
def normalizedCtx (ctx : ChannelCtx) : ChannelCtx :=
  { ctx with parentHint := db.resolvedParentHint ctx.channel ctx.parentHint }

/-- The ancestry of a call comes to a channel twice. -/
def CyclicAncestry (ctx : ChannelCtx) : Prop :=
  ∃ depth, ¬ ((db.ancestry "" depth (db.normalizedCtx ctx)).map ChannelCtx.channel).Nodup

/-- The call ends, comes to each channel at most once, never waits for itself, and refuses a
cyclic ancestry. -/
structure ProvisionsSafely (ctx : ChannelCtx) : Prop where
  finished : (db.ensureChannelReady keys world ctx).1 ≠ .unfinished
  once : (db.ensureChannelReady keys world ctx).2.Nodup
  neverBlocked : ∀ channel, (db.ensureChannelReady keys world ctx).1 ≠ .blocked channel
  cyclicDegrades : db.CyclicAncestry ctx →
    (db.ensureChannelReady keys world ctx).1 = .gate .degraded

/-- The ancestry has no channel twice; or the walk ends before it closes the circle and a
level is refused: for want of a management key, or by the relay below a level that needs no
work. -/
def StopsInTime (ctx : ChannelCtx) : Prop :=
  Rust.isBlank ctx.channel = true ∨ ¬ db.CyclicAncestry ctx ∨
    match keys.managementPubkey with
    | none => db.answered keys world (db.normalizedCtx ctx) = false
    | some managementPubkey =>
        ((db.reachedLevels keys world managementPubkey db.provisionDepth
            (db.normalizedCtx ctx)).map ChannelCtx.channel).Nodup ∧
          ∃ level ∈ db.workedLevels keys world managementPubkey db.provisionDepth
            (db.normalizedCtx ctx), world.relayWork level = .degraded

/-! ## The depth of an ancestry -/

section Depth

variable {db} {managementPubkey : String}

variable {depth : Nat} {ctx : ChannelCtx}

theorem ancestry_of_none (hhint : ctx.parentHint.filter (fun parent => parent ≠ "") = none) :
    db.ancestry managementPubkey (depth + 1) ctx = [ctx] := by
  rw [ancestry, hhint]

theorem ancestry_of_some {parent : String}
    (hhint : ctx.parentHint.filter (fun parent => parent ≠ "") = some parent) :
    db.ancestry managementPubkey (depth + 1) ctx =
      ctx :: db.ancestry managementPubkey depth (db.parentCtx ctx parent managementPubkey) := by
  rw [ancestry, hhint]

theorem ancestry_channels (other : String) (depth : Nat) {first second : ChannelCtx}
    (hchannel : first.channel = second.channel) (hhint : first.parentHint = second.parentHint) :
    (db.ancestry managementPubkey depth first).map ChannelCtx.channel =
      (db.ancestry other depth second).map ChannelCtx.channel := by
  induction depth generalizing first second with
  | zero => rfl
  | succ depth ih =>
      rw [ancestry, ancestry, hhint]
      cases second.parentHint.filter (fun parent => parent ≠ "") with
      | none => rw [List.map_singleton, List.map_singleton, hchannel]
      | some parent =>
          rw [List.map_cons, List.map_cons, hchannel]
          exact congrArg (second.channel :: ·) (ih rfl rfl)

/-- The channels that may have a stored parent. -/
def linkedChannels (db : Database) : List String :=
  db.channels.rows.map Channel.channelH ++
    (db.resolutionIntents.rows.map ResolutionIntent.channelH ++
      db.store.sessions.rows.map Session.channelH)

theorem mem_linkedChannels {channel : String} (hhint : db.storedParentHint channel ≠ none) :
    channel ∈ db.linkedChannels := by
  rw [linkedChannels, List.mem_append, List.mem_append]
  by_contra hnot
  obtain ⟨hchannel, hnot⟩ := not_or.mp hnot
  obtain ⟨hintent, hsession⟩ := not_or.mp hnot
  have hparent : db.channelParent channel = none := by
    rw [channelParent, Option.map_eq_none_iff, Table.find?_eq_none_iff]
    intro row hrow hkey
    exact hchannel (List.mem_map.mpr ⟨row, hrow, hkey⟩)
  have hresolution : db.channelResolutionParent channel = none := by
    rw [channelResolutionParent, Option.map_eq_none_iff, List.head?_eq_none_iff,
      List.eq_nil_iff_forall_not_mem]
    intro row hrow
    obtain ⟨hmem, hkey⟩ := Table.mem_select.mp ((List.mem_insertionSort _).mp hrow)
    exact hintent (List.mem_map.mpr ⟨row, hmem, hkey⟩)
  have hreadiness : db.sessionReadinessParent channel = none := by
    rw [sessionReadinessParent, Option.map_eq_none_iff, List.head?_eq_none_iff,
      List.eq_nil_iff_forall_not_mem]
    intro row hrow
    obtain ⟨hmem, hkey, _⟩ := Table.mem_select.mp
      ((List.mem_insertionSort _).mp ((List.mem_insertionSort _).mp hrow))
    exact hsession (List.mem_map.mpr ⟨row, hmem, hkey⟩)
  apply hhint
  rw [storedParentHint, resolvedParentHint, hparent, hresolution, hreadiness]
  rfl

/-- Every level but the last is followed by its parent. -/
theorem ancestry_dropLast {level : ChannelCtx}
    (hlevel : level ∈ (db.ancestry managementPubkey depth ctx).dropLast) :
    level.parentHint ≠ none := by
  induction depth generalizing ctx with
  | zero => cases hlevel
  | succ depth ih =>
      cases hhint : ctx.parentHint.filter (fun parent => parent ≠ "") with
      | none =>
          rw [ancestry_of_none hhint] at hlevel
          cases hlevel
      | some parent =>
          rw [ancestry_of_some hhint] at hlevel
          cases hrest : db.ancestry managementPubkey depth
              (db.parentCtx ctx parent managementPubkey) with
          | nil =>
              rw [hrest] at hlevel
              cases hlevel
          | cons next rest =>
              rw [hrest, List.dropLast_cons_cons, ← hrest] at hlevel
              rcases List.mem_cons.mp hlevel with rfl | hmem
              · intro hnone
                rw [hnone] at hhint
                cases hhint
              · exact ih hmem

/-- A level above the call has the stored parent of its channel. -/
theorem ancestry_stored {level : ChannelCtx}
    (hctx : ctx.parentHint = db.storedParentHint ctx.channel)
    (hlevel : level ∈ db.ancestry managementPubkey depth ctx) :
    level.parentHint = db.storedParentHint level.channel := by
  induction depth generalizing ctx with
  | zero => cases hlevel
  | succ depth ih =>
      cases hhint : ctx.parentHint.filter (fun parent => parent ≠ "") with
      | none =>
          rw [ancestry_of_none hhint, List.mem_singleton] at hlevel
          rw [hlevel, hctx]
      | some parent =>
          rw [ancestry_of_some hhint, List.mem_cons] at hlevel
          rcases hlevel with rfl | hmem
          · exact hctx
          · exact ih rfl hmem

theorem ancestry_stored_length (hctx : ctx.parentHint = db.storedParentHint ctx.channel)
    (hnodup : ((db.ancestry managementPubkey depth ctx).map ChannelCtx.channel).Nodup) :
    (db.ancestry managementPubkey depth ctx).length ≤ db.linkedChannels.length + 1 := by
  have hsubset : (db.ancestry managementPubkey depth ctx).dropLast.map ChannelCtx.channel ⊆
      db.linkedChannels := by
    intro channel hchannel
    obtain ⟨level, hlevel, rfl⟩ := List.mem_map.mp hchannel
    refine mem_linkedChannels ?_
    rw [← ancestry_stored hctx ((List.dropLast_sublist _).subset hlevel)]
    exact ancestry_dropLast hlevel
  have hlength := (List.subperm_of_subset
    (((List.dropLast_sublist _).map ChannelCtx.channel).nodup hnodup) hsubset).length_le
  rw [List.length_map, List.length_dropLast] at hlength
  omega

/-- An ancestry without a channel twice ends within the depth of a call. -/
theorem ancestry_ends
    (hnodup : ((db.ancestry managementPubkey db.provisionDepth ctx).map
      ChannelCtx.channel).Nodup) :
    (db.ancestry managementPubkey db.provisionDepth ctx).length < db.provisionDepth := by
  have hlinked : db.linkedChannels.length + 3 = db.provisionDepth := by
    simp only [linkedChannels, provisionDepth, List.length_append, List.length_map]
    omega
  rw [← hlinked] at hnodup ⊢
  cases hhint : ctx.parentHint.filter (fun parent => parent ≠ "") with
  | none =>
      rw [ancestry_of_none hhint, List.length_singleton]
      omega
  | some parent =>
      rw [ancestry_of_some hhint, List.map_cons] at hnodup
      have hrest : (db.ancestry managementPubkey (db.linkedChannels.length + 2)
          (db.parentCtx ctx parent managementPubkey)).length ≤ db.linkedChannels.length + 1 :=
        ancestry_stored_length rfl (List.nodup_cons.mp hnodup).2
      rw [ancestry_of_some hhint, List.length_cons]
      omega

end Depth

/-! ## The walk along the ancestry -/

section Walk

variable {db keys world} {managementPubkey : String}

/-- The gate of a walk that meets no channel twice. -/
def settledGate (db : Database) (keys : ManagementKeys) (world : ProvisionWorld) :
    List ChannelCtx → ChannelGate
  | [] => .ready
  | level :: above =>
      if db.answered keys world level then .ready
      else if settledGate db keys world above = .degraded then .degraded
      else world.relayWork level

theorem settledGate_eq_degraded_iff {levels : List ChannelCtx} :
    db.settledGate keys world levels = .degraded ↔
      ∃ level ∈ levels.takeWhile fun level => !db.answered keys world level,
        world.relayWork level = .degraded := by
  induction levels with
  | nil => simp [settledGate]
  | cons level above ih =>
      rw [settledGate]
      by_cases hanswered : db.answered keys world level = true
      · simp [hanswered]
      · rw [if_neg hanswered, List.takeWhile_cons_of_pos (by simpa using hanswered)]
        by_cases habove : db.settledGate keys world above = .degraded
        · obtain ⟨refused, hmem, hrefused⟩ := ih.mp habove
          rw [if_pos habove]
          exact iff_of_true rfl ⟨refused, List.mem_cons_of_mem level hmem, hrefused⟩
        · rw [if_neg habove]
          constructor
          · intro hrefused
            exact ⟨level, List.mem_cons_self, hrefused⟩
          · rintro ⟨refused, hmem, hrefused⟩
            rcases List.mem_cons.mp hmem with rfl | hmem
            · exact hrefused
            · exact absurd (ih.mpr ⟨refused, hmem, hrefused⟩) habove

variable {depth : Nat} {ctx : ChannelCtx} {held : List String}

theorem reachedLevels_of_answered (hanswered : db.answered keys world ctx = true) :
    db.reachedLevels keys world managementPubkey (depth + 1) ctx = [ctx] := by
  rw [reachedLevels, workedLevels]
  cases hhint : ctx.parentHint.filter (fun parent => parent ≠ "") with
  | none => simp [ancestry_of_none hhint, hanswered]
  | some parent => simp [ancestry_of_some hhint, hanswered]

theorem reachedLevels_of_root (hanswered : db.answered keys world ctx = false)
    (hhint : ctx.parentHint.filter (fun parent => parent ≠ "") = none) :
    db.reachedLevels keys world managementPubkey (depth + 1) ctx = [ctx] := by
  rw [reachedLevels, workedLevels, ancestry_of_none hhint]
  simp [hanswered]

theorem reachedLevels_of_child {parent : String} (hanswered : db.answered keys world ctx = false)
    (hhint : ctx.parentHint.filter (fun parent => parent ≠ "") = some parent) :
    db.reachedLevels keys world managementPubkey (depth + 1) ctx =
      ctx :: db.reachedLevels keys world managementPubkey depth
        (db.parentCtx ctx parent managementPubkey) := by
  rw [reachedLevels, workedLevels, ancestry_of_some hhint]
  simp [hanswered, reachedLevels, workedLevels]

theorem answered_eq_false_iff :
    db.answered keys world ctx = false ↔
      world.verified ctx.channel ctx.expectMember = false ∧
        world.verifiedBehindLock ctx.channel ctx.expectMember = false ∧
          db.locallyMaterializedReady keys ctx = false := by
  simp [answered, and_assoc]

/-- A level that needs no work answers if its lock is not the call's own. -/
theorem ensureInner_of_answered (hanswered : db.answered keys world ctx = true)
    (hfree : ctx.channel ∉ held) :
    db.ensureChannelReadyInner keys world (depth + 1) held ctx = (.gate .ready, [ctx.channel]) := by
  rw [ensureChannelReadyInner]
  simp only [answered, Bool.or_eq_true] at hanswered
  split_ifs with hverified hbehind hlocal
  · rfl
  · rfl
  · rfl
  · exact absurd hanswered (by simp [hverified, hbehind, hlocal])

/-- A level that needs work goes on to its parent. -/
theorem ensureInner_of_worked (hkey : keys.managementPubkey = some managementPubkey)
    (hanswered : db.answered keys world ctx = false) (hfree : ctx.channel ∉ held) :
    db.ensureChannelReadyInner keys world (depth + 1) held ctx =
      match ctx.parentHint.filter (fun parent => parent ≠ "") with
      | none => (.gate (world.relayWork ctx), [ctx.channel])
      | some parent =>
          match db.ensureChannelReadyInner keys world depth (ctx.channel :: held)
              (db.parentCtx ctx parent managementPubkey) with
          | (.gate .degraded, visited) => (.gate .degraded, ctx.channel :: visited)
          | (.gate _, visited) => (.gate (world.relayWork ctx), ctx.channel :: visited)
          | (outcome, visited) => (outcome, ctx.channel :: visited) := by
  obtain ⟨hverified, hbehind, hlocal⟩ := answered_eq_false_iff.mp hanswered
  rw [ensureChannelReadyInner, if_neg (by simp [hverified]), if_neg hfree,
    if_neg (by simp [hbehind]), if_neg (by simp [hlocal]), hkey]

/-- The gate that a parent leaves to its child. -/
theorem ensureInner_of_child
    {parent : String} (hkey : keys.managementPubkey = some managementPubkey)
    (hanswered : db.answered keys world ctx = false) (hfree : ctx.channel ∉ held)
    (hhint : ctx.parentHint.filter (fun parent => parent ≠ "") = some parent)
    {gate : ChannelGate} {visited : List String} :
    db.ensureChannelReadyInner keys world (depth + 1) held ctx = (.gate gate, visited) ↔
      ∃ parentGate above,
        db.ensureChannelReadyInner keys world depth (ctx.channel :: held)
            (db.parentCtx ctx parent managementPubkey) = (.gate parentGate, above) ∧
          gate = (if parentGate = .degraded then .degraded else world.relayWork ctx) ∧
          visited = ctx.channel :: above := by
  rw [ensureInner_of_worked hkey hanswered hfree, hhint]
  simp only
  rcases db.ensureChannelReadyInner keys world depth (ctx.channel :: held)
    (db.parentCtx ctx parent managementPubkey) with ⟨outcome, above⟩
  cases outcome with
  | gate parentGate =>
      cases parentGate <;> simp [eq_comm]
  | blocked channel | unfinished => simp

/-- A call that ends with a gate has come to the levels below and at the first one that
needs no work. -/
theorem ensureInner_gate (hkey : keys.managementPubkey = some managementPubkey) (depth : Nat)
      {gate : ChannelGate} {visited : List String}
    (hcall : db.ensureChannelReadyInner keys world depth held ctx = (.gate gate, visited)) :
    visited = (db.reachedLevels keys world managementPubkey depth ctx).map ChannelCtx.channel ∧
      gate = db.settledGate keys world (db.ancestry managementPubkey depth ctx) := by
  induction depth generalizing held ctx gate visited with
  | zero => simp [ensureChannelReadyInner] at hcall
  | succ depth ih =>
      cases hanswered : db.answered keys world ctx with
      | true =>
          -- the channel needs no work, whichever of the three checks says so
          have hready : visited = [ctx.channel] ∧ gate = .ready := by
            rw [ensureChannelReadyInner] at hcall
            simp only [answered, Bool.or_eq_true] at hanswered
            split_ifs at hcall with hverified hheld hbehind hlocal
            · cases hcall
              exact ⟨rfl, rfl⟩
            · cases hcall
            · cases hcall
              exact ⟨rfl, rfl⟩
            · cases hcall
              exact ⟨rfl, rfl⟩
            · exact absurd hanswered (by simp [hverified, hbehind, hlocal])
          rw [reachedLevels_of_answered hanswered]
          refine ⟨hready.1, hready.2.trans ?_⟩
          cases hhint : ctx.parentHint.filter (fun parent => parent ≠ "") with
          | none => rw [ancestry_of_none hhint, settledGate, if_pos hanswered]
          | some parent => rw [ancestry_of_some hhint, settledGate, if_pos hanswered]
      | false =>
          have hfree : ctx.channel ∉ held := by
            intro hheld
            obtain ⟨hverified, _, _⟩ := answered_eq_false_iff.mp hanswered
            rw [ensureChannelReadyInner, if_neg (by simp [hverified]), if_pos hheld] at hcall
            cases hcall
          cases hhint : ctx.parentHint.filter (fun parent => parent ≠ "") with
          | none =>
              rw [ensureInner_of_worked hkey hanswered hfree, hhint] at hcall
              cases hcall
              rw [reachedLevels_of_root hanswered hhint, ancestry_of_none hhint]
              simp [settledGate, hanswered]
          | some parent =>
              obtain ⟨parentGate, above, habove, rfl, rfl⟩ :=
                (ensureInner_of_child hkey hanswered hfree hhint).mp hcall
              obtain ⟨hvisited, hgate⟩ := ih habove
              have hnot : ¬ db.answered keys world ctx = true := by
                rw [hanswered]
                exact Bool.false_ne_true
              rw [reachedLevels_of_child hanswered hhint, ancestry_of_some hhint, settledGate,
                if_neg hnot, hgate, hvisited]
              exact ⟨rfl, rfl⟩

/-- A call that meets no channel twice ends with a gate. -/
theorem exists_gate (hkey : keys.managementPubkey = some managementPubkey) (depth : Nat)
    (hnodup : ((db.reachedLevels keys world managementPubkey depth ctx).map
      ChannelCtx.channel).Nodup)
    (hfree : ∀ level ∈ db.reachedLevels keys world managementPubkey depth ctx,
      level.channel ∉ held)
    (hends : (db.ancestry managementPubkey depth ctx).length < depth ∨
      ∃ level ∈ db.ancestry managementPubkey depth ctx, db.answered keys world level = true) :
    ∃ gate visited,
      db.ensureChannelReadyInner keys world depth held ctx = (.gate gate, visited) := by
  induction depth generalizing held ctx with
  | zero =>
      rcases hends with hlt | ⟨level, hlevel, _⟩
      · exact absurd hlt (Nat.not_lt_zero _)
      · cases hlevel
  | succ depth ih =>
      cases hanswered : db.answered keys world ctx with
      | true =>
          rw [reachedLevels_of_answered hanswered] at hfree
          exact ⟨_, _, ensureInner_of_answered hanswered (hfree ctx List.mem_cons_self)⟩
      | false =>
          cases hhint : ctx.parentHint.filter (fun parent => parent ≠ "") with
          | none =>
              rw [reachedLevels_of_root hanswered hhint] at hfree
              refine ⟨world.relayWork ctx, [ctx.channel], ?_⟩
              rw [ensureInner_of_worked hkey hanswered (hfree ctx List.mem_cons_self), hhint]
          | some parent =>
              rw [reachedLevels_of_child hanswered hhint] at hnodup hfree
              rw [ancestry_of_some hhint] at hends
              obtain ⟨hnew, hrest⟩ := List.nodup_cons.mp hnodup
              have hctx : ctx.channel ∉ held := hfree ctx List.mem_cons_self
              -- the levels above do not meet the channel, whose lock is now held too
              have habove : ∀ level ∈ db.reachedLevels keys world managementPubkey depth
                  (db.parentCtx ctx parent managementPubkey),
                  level.channel ∉ ctx.channel :: held := by
                intro level hlevel hmem
                rcases List.mem_cons.mp hmem with hsame | hheld
                · exact hnew (hsame ▸ List.mem_map_of_mem hlevel)
                · exact hfree level (List.mem_cons_of_mem ctx hlevel) hheld
              have hmore : (db.ancestry managementPubkey depth
                    (db.parentCtx ctx parent managementPubkey)).length < depth ∨
                  ∃ level ∈ db.ancestry managementPubkey depth
                    (db.parentCtx ctx parent managementPubkey),
                    db.answered keys world level = true := by
                rcases hends with hlt | ⟨level, hlevel, hyes⟩
                · rw [List.length_cons] at hlt
                  exact Or.inl (by omega)
                · rcases List.mem_cons.mp hlevel with rfl | hmem
                  · rw [hanswered] at hyes
                    cases hyes
                  · exact Or.inr ⟨level, hmem, hyes⟩
              obtain ⟨parentGate, above, hparent⟩ := ih hrest habove hmore
              exact ⟨_, _, (ensureInner_of_child hkey hanswered hctx hhint).mpr
                ⟨parentGate, above, hparent, rfl, rfl⟩⟩

end Walk

/-! ## The calls that end -/

section Calls

variable {db keys world}

theorem reachedLevels_isPrefix (managementPubkey : String) (depth : Nat) (ctx : ChannelCtx) :
    db.reachedLevels keys world managementPubkey depth ctx <+:
      db.ancestry managementPubkey depth ctx := by
  rw [reachedLevels, workedLevels]
  nth_rewrite 3 [← List.takeWhile_append_dropWhile
    (p := fun level => !db.answered keys world level)
    (l := db.ancestry managementPubkey depth ctx)]
  exact List.prefix_append_right_inj _ |>.mpr (List.take_prefix 1 _)

variable {ctx : ChannelCtx}

/-- Where no level needs no work, the walk comes to the whole ancestry. -/
theorem reachedLevels_all {managementPubkey : String} {depth : Nat}
    (hnone : ¬ ∃ level ∈ db.ancestry managementPubkey depth ctx,
      db.answered keys world level = true) :
    db.reachedLevels keys world managementPubkey depth ctx =
      db.ancestry managementPubkey depth ctx := by
  have hall : ∀ level ∈ db.ancestry managementPubkey depth ctx,
      (!db.answered keys world level) = true := by
    intro level hlevel
    simpa using fun hyes => hnone ⟨level, hlevel, hyes⟩
  rw [reachedLevels, workedLevels, List.takeWhile_eq_self_iff.mpr hall,
    List.dropWhile_eq_nil_iff.mpr hall, List.take_nil, List.append_nil]

theorem ensureChannelReady_of_named (hnamed : ¬ Rust.isBlank ctx.channel = true) :
    db.ensureChannelReady keys world ctx =
      db.ensureChannelReadyInner keys world db.provisionDepth [] (db.normalizedCtx ctx) := by
  rw [ensureChannelReady, if_neg hnamed]
  rfl

/-- With a management key the call ends with a gate and no repetition exactly when the levels
it comes to have no channel twice. -/
theorem ensureChannelReady_settled {managementPubkey : String}
    (hkey : keys.managementPubkey = some managementPubkey)
    (hnamed : ¬ Rust.isBlank ctx.channel = true)
    (hnodup : ((db.reachedLevels keys world managementPubkey db.provisionDepth
      (db.normalizedCtx ctx)).map ChannelCtx.channel).Nodup) :
    db.ensureChannelReady keys world ctx =
      (.gate (db.settledGate keys world
          (db.ancestry managementPubkey db.provisionDepth (db.normalizedCtx ctx))),
        (db.reachedLevels keys world managementPubkey db.provisionDepth
          (db.normalizedCtx ctx)).map ChannelCtx.channel) := by
  have hends : (db.ancestry managementPubkey db.provisionDepth
        (db.normalizedCtx ctx)).length < db.provisionDepth ∨
      ∃ level ∈ db.ancestry managementPubkey db.provisionDepth (db.normalizedCtx ctx),
        db.answered keys world level = true := by
    by_cases hyes : ∃ level ∈ db.ancestry managementPubkey db.provisionDepth
        (db.normalizedCtx ctx), db.answered keys world level = true
    · exact Or.inr hyes
    · rw [reachedLevels_all hyes] at hnodup
      exact Or.inl (ancestry_ends hnodup)
  obtain ⟨gate, visited, hcall⟩ : ∃ gate visited, db.ensureChannelReadyInner keys world
      db.provisionDepth [] (db.normalizedCtx ctx) = (.gate gate, visited) :=
    exists_gate hkey db.provisionDepth hnodup (fun _ _ => List.not_mem_nil) hends
  obtain ⟨rfl, rfl⟩ := ensureInner_gate hkey db.provisionDepth hcall
  rw [ensureChannelReady_of_named hnamed, hcall]

/-- Without a management key the walk does not leave the channel. -/
theorem ensureChannelReady_keyless (hkey : keys.managementPubkey = none)
    (hnamed : ¬ Rust.isBlank ctx.channel = true) :
    db.ensureChannelReady keys world ctx =
      (.gate (if db.answered keys world (db.normalizedCtx ctx) then .ready else .degraded),
        [ctx.channel]) := by
  have hchannel : (db.normalizedCtx ctx).channel = ctx.channel := rfl
  obtain ⟨depth, hdepth⟩ : ∃ depth, db.provisionDepth = depth + 1 := ⟨_, rfl⟩
  rw [ensureChannelReady_of_named hnamed, hdepth]
  cases hanswered : db.answered keys world (db.normalizedCtx ctx) with
  | true =>
      rw [ensureInner_of_answered hanswered List.not_mem_nil, hchannel]
      rfl
  | false =>
      obtain ⟨hverified, hbehind, hlocal⟩ := answered_eq_false_iff.mp hanswered
      rw [ensureChannelReadyInner, if_neg (by simp [hverified]), if_neg List.not_mem_nil,
        if_neg (by simp [hbehind]), if_neg (by simp [hlocal]), hkey, hchannel]
      rfl

theorem provisionsSafely_of_gate {gate : ChannelGate} {visited : List String}
    (hcall : db.ensureChannelReady keys world ctx = (.gate gate, visited))
    (hnodup : visited.Nodup) (hcyclic : db.CyclicAncestry ctx → gate = .degraded) :
    db.ProvisionsSafely keys world ctx where
  finished := by simp [hcall]
  once := by
    rw [hcall]
    exact hnodup
  neverBlocked := by simp [hcall]
  cyclicDegrades := by
    intro htwice
    rw [hcall, hcyclic htwice]

theorem reachedLevels_nodup_of_acyclic (managementPubkey : String)
    (hacyclic : ¬ db.CyclicAncestry ctx) :
    ((db.reachedLevels keys world managementPubkey db.provisionDepth
      (db.normalizedCtx ctx)).map ChannelCtx.channel).Nodup := by
  refine ((reachedLevels_isPrefix _ _ _).sublist.map ChannelCtx.channel).nodup ?_
  rw [ancestry_channels "" db.provisionDepth rfl rfl]
  by_contra htwice
  exact hacyclic ⟨db.provisionDepth, htwice⟩

/-- Without a management key a cyclic ancestry is refused when the channel needs work. -/
theorem provisionsSafely_keyless_iff (hkey : keys.managementPubkey = none)
    (hnamed : ¬ Rust.isBlank ctx.channel = true) :
    db.ProvisionsSafely keys world ctx ↔
      ¬ db.CyclicAncestry ctx ∨ db.answered keys world (db.normalizedCtx ctx) = false := by
  have hcall : db.ensureChannelReady keys world ctx = _ := ensureChannelReady_keyless hkey hnamed
  constructor
  · intro hsafe
    by_cases hcyclic : db.CyclicAncestry ctx
    · right
      have hrefused := hsafe.cyclicDegrades hcyclic
      rw [hcall] at hrefused
      by_contra hyes
      rw [if_pos (by simpa using hyes)] at hrefused
      cases hrefused
    · exact Or.inl hcyclic
  · intro hstops
    refine provisionsSafely_of_gate hcall (List.nodup_singleton _) ?_
    intro hcyclic
    rw [hstops.resolve_left (not_not_intro hcyclic)]
    rfl

/-- With a management key a cyclic ancestry is refused when the relay refuses a level before
the walk closes the circle. -/
theorem provisionsSafely_managed_iff {managementPubkey : String}
    (hkey : keys.managementPubkey = some managementPubkey)
    (hnamed : ¬ Rust.isBlank ctx.channel = true) :
    db.ProvisionsSafely keys world ctx ↔
      ¬ db.CyclicAncestry ctx ∨
        ((db.reachedLevels keys world managementPubkey db.provisionDepth
            (db.normalizedCtx ctx)).map ChannelCtx.channel).Nodup ∧
          ∃ level ∈ db.workedLevels keys world managementPubkey db.provisionDepth
            (db.normalizedCtx ctx), world.relayWork level = .degraded := by
  constructor
  · intro hsafe
    by_cases hcyclic : db.CyclicAncestry ctx
    · have hrefused := hsafe.cyclicDegrades hcyclic
      have hcall : db.ensureChannelReadyInner keys world db.provisionDepth []
          (db.normalizedCtx ctx) =
          (.gate .degraded, (db.ensureChannelReady keys world ctx).2) := by
        rw [← ensureChannelReady_of_named hnamed, ← hrefused]
      obtain ⟨hvisited, hgate⟩ := ensureInner_gate hkey db.provisionDepth hcall
      have honce := hsafe.once
      rw [hvisited] at honce
      exact Or.inr ⟨honce, settledGate_eq_degraded_iff.mp hgate.symm⟩
    · exact Or.inl hcyclic
  · rintro (hacyclic | ⟨hnodup, hrefused⟩)
    · have hnodup := @reachedLevels_nodup_of_acyclic db keys world ctx managementPubkey hacyclic
      exact provisionsSafely_of_gate (ensureChannelReady_settled hkey hnamed hnodup) hnodup
        (fun hcyclic => absurd hcyclic hacyclic)
    · exact provisionsSafely_of_gate (ensureChannelReady_settled hkey hnamed hnodup) hnodup
        (fun _ => settledGate_eq_degraded_iff.mpr hrefused)

/-- Provisioning ends, with a refusal where the ancestry is cyclic, exactly when the ancestry
has no channel twice or the walk is refused before it closes the circle. -/
theorem provisionsSafely_iff (db : Database) (keys : ManagementKeys) (world : ProvisionWorld)
    (ctx : ChannelCtx) :
    db.ProvisionsSafely keys world ctx ↔ db.StopsInTime keys world ctx := by
  by_cases hnamed : Rust.isBlank ctx.channel = true
  · have hcall : db.ensureChannelReady keys world ctx = (.gate .degraded, []) := by
      rw [ensureChannelReady, if_pos hnamed]
    exact iff_of_true (provisionsSafely_of_gate hcall List.nodup_nil (fun _ => rfl))
      (Or.inl hnamed)
  · rw [StopsInTime, or_iff_right hnamed]
    cases hkey : keys.managementPubkey with
    | none => exact provisionsSafely_keyless_iff hkey hnamed
    | some managementPubkey => exact provisionsSafely_managed_iff hkey hnamed

end Calls

/-! ## Two circles -/

/-- A channel whose metadata names another one as its parent. -/
def childOf (channelH parent : String) : Channel where
  channelH := channelH
  name := channelH
  about := ""
  parent := parent
  createdAt := 1
  updatedAt := 1

/-- A channel that names itself, and two that name each other. -/
def circles : Database :=
  { Database.empty with
    channels :=
      { rows := [childOf "loop" "loop", childOf "east" "west", childOf "west" "east"]
        keysNodup := by decide } }

def nothingVerified : ProvisionWorld where
  verified := fun _ _ => false
  verifiedBehindLock := fun _ _ => false
  relayWork := fun _ => .ready

def managedBy (pubkey : String) : ManagementKeys where
  managementPubkey := some pubkey
  whitelistedPubkeys := []

def plainCtx (channel : String) : ChannelCtx where
  channel := channel
  expectMember := "agent"
  parentHint := none
  repairWhitelistedAdmins := true

/-- The walk along a circle waits for the lock that it took first. -/
theorem circles_block :
    ¬ (∀ db keys world ctx, Database.ProvisionsSafely db keys world ctx) ∧
      circles.ensureChannelReady (managedBy "daemon") nothingVerified (plainCtx "loop") =
        (.blocked "loop", ["loop", "loop"]) ∧
      circles.ensureChannelReady (managedBy "daemon") nothingVerified (plainCtx "east") =
        (.blocked "east", ["east", "west", "east"]) := by
  have hloop : circles.ensureChannelReady (managedBy "daemon") nothingVerified (plainCtx "loop") =
      (.blocked "loop", ["loop", "loop"]) := by decide
  refine ⟨?_, hloop, by decide⟩
  intro hall
  have hfree := (hall circles (managedBy "daemon") nothingVerified (plainCtx "loop")).neverBlocked
  exact hfree "loop" (congrArg Prod.fst hloop)

end Database

end Mosaico
