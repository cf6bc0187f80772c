import Mosaico.Diff.Edits
import Mathlib.Data.Finset.Image
import Mathlib.Data.Multiset.Bind
import Mathlib.Data.Prod.Lex
import Mosaico.Fabric.Messages

/-!
# Subscriptions

The daemon observes the relay through narrow queries, one for each entity it covers.  A
pass plans the observations to open and to close from a snapshot of what is covered, and
confirms each of them once the host has applied it.  A pass that fails leaves the rest to
the next one.
-/

namespace Mosaico

open Relational Transition

def kindGroupPutUser : Nat := 9000

/-! ## Keys -/

/-- What an observation is about. -/
inductive Space where
  | globalKind
  | channelH
  | groupStateD
  | pubkeyP
  | profileAuthor
  deriving DecidableEq, Repr

/-- The order of the declaration. -/
def Space.rank : Space → Nat
  | .globalKind => 0
  | .channelH => 1
  | .groupStateD => 2
  | .pubkeyP => 3
  | .profileAuthor => 4

structure SubKey where
  space : Space
  entity : String
  deriving Repr

def SubKey.order (key : SubKey) : Nat ×ₗ String := toLex (key.space.rank, key.entity)

theorem SubKey.order_injective : Function.Injective SubKey.order := by
  rintro ⟨left, leftEntity⟩ ⟨right, rightEntity⟩ heq
  have hpair : (left.rank, leftEntity) = (right.rank, rightEntity) := toLex.injective heq
  obtain ⟨hrank, hentity⟩ := Prod.mk.injEq _ _ _ _ ▸ hpair
  subst hentity
  cases left <;> cases right <;> first | rfl | cases hrank

instance : LinearOrder SubKey := LinearOrder.lift' SubKey.order SubKey.order_injective

def Space.stem : Space → String
  | .globalKind => "mosaico-global-kind-"
  | .channelH => "mosaico-h-"
  | .groupStateD => "mosaico-gstate-"
  | .pubkeyP => "mosaico-p-"
  | .profileAuthor => "mosaico-profile-"

def subId (key : SubKey) : String := key.space.stem ++ key.entity

/-- No stem begins with another one. -/
theorem Space.eq_of_stem_prefix {left right : Space}
    (hstem : left.stem.toList <+: right.stem.toList) : left = right := by
  revert hstem
  cases left <;> cases right <;> decide

theorem subId_injective : Function.Injective subId := by
  rintro ⟨left, leftEntity⟩ ⟨right, rightEntity⟩ heq
  have hlists : left.stem.toList ++ leftEntity.toList =
      right.stem.toList ++ rightEntity.toList := by
    rw [← String.toList_append, ← String.toList_append]
    exact congrArg String.toList heq
  have hspace : left = right := by
    rcases List.prefix_or_prefix_of_prefix (List.prefix_append _ _)
      (hlists ▸ List.prefix_append _ _) with hprefix | hprefix
    · exact (Space.eq_of_stem_prefix hprefix).symm
    · exact Space.eq_of_stem_prefix hprefix
  subst hspace
  have hentity := List.append_cancel_left hlists
  rw [String.toList_inj.mp hentity]

/-! ## The policy -/

structure SubscriptionQuery where
  kinds : List Nat
  authors : List String
  tag : Option (Char × String)
  deriving DecidableEq, Repr

inductive SubEffect where
  | opens (id : String) (query : SubscriptionQuery)
  | close (id : String)
  | replace (id : String) (query : SubscriptionQuery)
  deriving DecidableEq

/-- What the daemon covers. -/
structure CoverageSnapshot where
  daemonChannels : Finset String
  addressedPubkeys : Finset String
  profilePubkeys : Finset String
  archivedChannels : Finset String
  /-- The running sessions and the channels that each has joined. -/
  sessions : List (String × Finset String)

/-- The only kind that is covered globally is the addition of group members. -/
def subQuery (key : SubKey) : SubscriptionQuery :=
  match key.space with
  | .globalKind => ⟨[key.entity.toNat?.getD 0], [], none⟩
  | .channelH => ⟨[kindChat, 30315], [], some ('h', key.entity)⟩
  | .groupStateD => ⟨[39000, 39001, 39002], [], some ('d', key.entity)⟩
  | .pubkeyP => ⟨[kindChat], [], some ('p', key.entity)⟩
  | .profileAuthor => ⟨[0], [key.entity], none⟩

def openEffect (key : SubKey) : SubEffect := .opens (subId key) (subQuery key)

/-- The two observations of a channel. -/
def channelOwners (channel : String) : Multiset SubKey :=
  {⟨.channelH, channel⟩, ⟨.groupStateD, channel⟩}

/-- The owners of every key, each counted once. -/
def desiredOwners (snapshot : CoverageSnapshot) : Multiset SubKey :=
  {⟨.globalKind, toString kindGroupPutUser⟩} +
    (snapshot.daemonChannels \ snapshot.archivedChannels).val.bind channelOwners +
    (snapshot.sessions.map (fun session =>
      (session.2 \ snapshot.archivedChannels).val.bind channelOwners)).sum +
    snapshot.addressedPubkeys.val.map (fun pubkey => ⟨.pubkeyP, pubkey⟩) +
    snapshot.profilePubkeys.val.map (fun pubkey => ⟨.profileAuthor, pubkey⟩)

/-- The observations that were confirmed, and the owners of the last plan. -/
structure SubscriptionReconciler where
  applied : Finset SubKey
  owners : Multiset SubKey

namespace SubscriptionReconciler

def new : SubscriptionReconciler := ⟨∅, 0⟩

def plan (reconciler : SubscriptionReconciler) (snapshot : CoverageSnapshot) :
    List SubEffect × SubscriptionReconciler :=
  let desired := desiredOwners snapshot
  let opens := (desired.toFinset.sort.filter (· ∉ reconciler.applied)).map openEffect
  let closes := (reconciler.applied.sort.filter (· ∉ desired)).map (fun key => .close (subId key))
  (opens ++ closes, { reconciler with owners := desired })

def confirm (reconciler : SubscriptionReconciler) (effect : SubEffect) :
    SubscriptionReconciler :=
  let opened (id : String) :=
    match reconciler.owners.toFinset.sort.find? (fun key => subId key = id) with
    | some key => { reconciler with applied := insert key reconciler.applied }
    | none => reconciler
  match effect with
  | .opens id _ => opened id
  | .replace id _ => opened id
  | .close id =>
      match reconciler.applied.sort.find? (fun key => subId key = id) with
      | some key => { reconciler with applied := reconciler.applied.erase key }
      | none => reconciler

end SubscriptionReconciler

/-- The open observations of the host, by id.  A second one under an id replaces the
first. -/
def applyEffect (host : Finset String) : SubEffect → Finset String
  | .opens id _ => insert id host
  | .replace id _ => insert id host
  | .close id => host.erase id

/-! ## Plans are edits -/

/-- The effect that makes an edit. -/
def effectOf : Diff.Edit SubKey → SubEffect
  | .add key => openEffect key
  | .remove key => .close (subId key)

theorem effectOf_injective : Function.Injective effectOf := by
  intro left right heq
  cases left with
  | add key =>
      cases right with
      | add other => rw [subId_injective (SubEffect.opens.inj heq).1]
      | remove other => cases heq
  | remove key =>
      cases right with
      | add other => cases heq
      | remove other => rw [subId_injective (SubEffect.close.inj heq)]

theorem sort_filter_not_mem (keys others : Finset SubKey) :
    keys.sort.filter (· ∉ others) = (keys \ others).sort := by
  have hsorted : (keys.sort.filter (· ∉ others)).SortedLT :=
    (keys.sortedLT_sort.pairwise.filter _).sortedLT
  refine hsorted.eq_of_mem_iff (keys \ others).sortedLT_sort ?_
  intro key
  simp

/-- The keys that the snapshot covers. -/
def desiredKeys (snapshot : CoverageSnapshot) : Finset SubKey := (desiredOwners snapshot).toFinset

/-- A plan is the edits from the applied to the desired keys. -/
theorem plan_eq (reconciler : SubscriptionReconciler) (snapshot : CoverageSnapshot) :
    reconciler.plan snapshot =
      ((Diff.edits reconciler.applied (desiredKeys snapshot)).map effectOf,
        ⟨reconciler.applied, desiredOwners snapshot⟩) := by
  have hcloses : reconciler.applied.sort.filter (· ∉ desiredOwners snapshot) =
      (reconciler.applied \ desiredKeys snapshot).sort := by
    rw [← sort_filter_not_mem]
    simp [desiredKeys]
  rw [SubscriptionReconciler.plan, hcloses, sort_filter_not_mem, Diff.edits, List.map_append,
    List.map_map, List.map_map]
  rfl

/-- Among the keys of a set the id finds the key itself. -/
theorem find?_subId {keys : Finset SubKey} {key : SubKey} (hkey : key ∈ keys) :
    keys.sort.find? (fun other => subId other = subId key) = some key := by
  cases hfound : keys.sort.find? (fun other => subId other = subId key) with
  | none =>
      have hnone := List.find?_eq_none.mp hfound key ((Finset.mem_sort _).mpr hkey)
      exact absurd (decide_eq_true rfl) hnone
  | some other =>
      have hid : subId other = subId key := by
        have hother := List.find?_some hfound
        simpa using hother
      rw [subId_injective hid]

theorem find?_subId_eq_none {keys : Finset SubKey} {key : SubKey} (hkey : key ∉ keys) :
    keys.sort.find? (fun other => subId other = subId key) = none := by
  rw [List.find?_eq_none]
  intro other hother hid
  have heq : other = key := subId_injective (by simpa using hid)
  exact hkey (heq ▸ (Finset.mem_sort _).mp hother)

/-- The confirmation of a planned effect makes its edit. -/
theorem confirm_effectOf {reconciler : SubscriptionReconciler} {edit : Diff.Edit SubKey}
    (hadd : ∀ key, edit = .add key → key ∈ reconciler.owners.toFinset) :
    reconciler.confirm (effectOf edit) =
      { reconciler with applied := edit.apply reconciler.applied } := by
  cases edit with
  | add key =>
      show (match reconciler.owners.toFinset.sort.find? (fun other => subId other = subId key) with
        | some key => _
        | none => _) = _
      rw [find?_subId (hadd key rfl)]
      rfl
  | remove key =>
      show (match reconciler.applied.sort.find? (fun other => subId other = subId key) with
        | some key => _
        | none => _) = _
      by_cases hkey : key ∈ reconciler.applied
      · rw [find?_subId hkey]
        rfl
      · rw [find?_subId_eq_none hkey]
        show reconciler = { reconciler with applied := reconciler.applied.erase key }
        rw [Finset.erase_eq_of_notMem hkey]

/-- The ids of the host follow the edits of the keys. -/
theorem applyEffect_effectOf (keys : Finset SubKey) (edit : Diff.Edit SubKey) :
    applyEffect (keys.image subId) (effectOf edit) = (edit.apply keys).image subId := by
  cases edit with
  | add key => exact (Finset.image_insert subId key keys).symm
  | remove key => exact (Finset.image_erase subId_injective keys key).symm

/-! ## Passes -/

/-- The reconciler and the observations of the host. -/
structure Observing where
  reconciler : SubscriptionReconciler
  host : Finset String

namespace Observing

def new : Observing := ⟨.new, ∅⟩

/-- One effect that the host applied. -/
def settle (state : Observing) (effect : SubEffect) : Observing where
  reconciler := state.reconciler.confirm effect
  host := applyEffect state.host effect

/-- A pass over a snapshot whose effects fail after the first `count` of them. -/
def syncSubscriptions (state : Observing) (snapshot : CoverageSnapshot) (count : Nat) :
    Observing :=
  let (effects, reconciler) := state.reconciler.plan snapshot
  (effects.take count).foldl settle { state with reconciler := reconciler }

/-- Passes one after another. -/
def passes (state : Observing) (rounds : List (CoverageSnapshot × Nat)) : Observing :=
  rounds.foldl (fun current round => current.syncSubscriptions round.1 round.2) state

/-- The state that holds some keys, with the owners of a snapshot. -/
def holding (keys : Finset SubKey) (owners : Multiset SubKey) : Observing where
  reconciler := ⟨keys, owners⟩
  host := keys.image subId

theorem foldl_settle {keys : Finset SubKey} {owners : Multiset SubKey}
    {edits : List (Diff.Edit SubKey)}
    (hadd : ∀ key, .add key ∈ edits → key ∈ owners.toFinset) :
    (edits.map effectOf).foldl settle (holding keys owners) =
      holding (Diff.applyAll keys edits) owners := by
  induction edits generalizing keys with
  | nil => rfl
  | cons edit rest ih =>
      have hsettle : (holding keys owners).settle (effectOf edit) =
          holding (edit.apply keys) owners := by
        have hconfirm : (⟨keys, owners⟩ : SubscriptionReconciler).confirm (effectOf edit) =
            ⟨edit.apply keys, owners⟩ := by
          refine confirm_effectOf ?_
          rintro key rfl
          exact hadd key List.mem_cons_self
        have hhost := applyEffect_effectOf keys edit
        rw [settle]
        exact congrArg₂ Observing.mk hconfirm hhost
      rw [List.map_cons, List.foldl_cons, hsettle, Diff.applyAll_cons]
      exact ih (fun key hkey => hadd key (List.mem_cons_of_mem _ hkey))

/-- A pass makes the first edits towards the keys of its snapshot. -/
theorem syncSubscriptions_holding (keys : Finset SubKey) (owners : Multiset SubKey)
    (snapshot : CoverageSnapshot) (count : Nat) :
    (holding keys owners).syncSubscriptions snapshot count =
      holding (Diff.applyAll keys ((Diff.edits keys (desiredKeys snapshot)).take count))
        (desiredOwners snapshot) := by
  have hplan := plan_eq (holding keys owners).reconciler snapshot
  rw [syncSubscriptions, hplan]
  show List.foldl settle (holding keys (desiredOwners snapshot))
    (((Diff.edits keys (desiredKeys snapshot)).map effectOf).take count) = _
  rw [← List.map_take]
  refine foldl_settle ?_
  intro key hkey
  exact (Diff.add_mem_edits.mp (List.mem_of_mem_take hkey)).1

/-- After any passes the host observes what is applied. -/
theorem exists_passes_eq_holding (rounds : List (CoverageSnapshot × Nat)) :
    ∃ keys owners, new.passes rounds = holding keys owners ∧
      ∀ key ∈ keys, ∃ round ∈ rounds, key ∈ desiredKeys round.1 := by
  induction rounds using List.reverseRecOn with
  | nil => exact ⟨∅, 0, rfl, fun key hkey => absurd hkey (Finset.notMem_empty key)⟩
  | append_singleton rounds round ih =>
      obtain ⟨keys, owners, hstate, hdesired⟩ := ih
      have hpass : new.passes (rounds ++ [round]) =
          (holding keys owners).syncSubscriptions round.1 round.2 := by
        rw [passes, List.foldl_append, ← hstate]
        rfl
      refine ⟨_, _, hpass.trans (syncSubscriptions_holding keys owners round.1 round.2), ?_⟩
      intro key hkey
      rcases Diff.mem_applyAll_edits_take hkey with hkept | hadded
      · obtain ⟨earlier, hearlier, hcovered⟩ := hdesired key hkept
        exact ⟨earlier, List.mem_append_left _ hearlier, hcovered⟩
      · exact ⟨round, List.mem_append_right _ List.mem_cons_self, hadded⟩

end Observing

/-! ## Channels -/

/-- A channel with an owner: the daemon or a running session. -/
def CoverageSnapshot.Owned (snapshot : CoverageSnapshot) (channel : String) : Prop :=
  channel ∈ snapshot.daemonChannels ∨ ∃ session ∈ snapshot.sessions, channel ∈ session.2

instance (snapshot : CoverageSnapshot) (channel : String) :
    Decidable (snapshot.Owned channel) :=
  inferInstanceAs (Decidable (_ ∨ _))

/-- The spaces in which a channel is observed: its messages and its group state. -/
def Space.OfChannel (space : Space) : Prop := space = .channelH ∨ space = .groupStateD

theorem mem_channelOwners {key : SubKey} {channel : String} :
    key ∈ channelOwners channel ↔ key.space.OfChannel ∧ key.entity = channel := by
  obtain ⟨space, entity⟩ := key
  cases space <;> simp [channelOwners, Space.OfChannel]

theorem mem_bind_channelOwners {key : SubKey} {channels : Finset String} :
    key ∈ channels.val.bind channelOwners ↔ key.space.OfChannel ∧ key.entity ∈ channels := by
  simp only [Multiset.mem_bind, mem_channelOwners, Finset.mem_val]
  constructor
  · rintro ⟨channel, hchannel, hspace, rfl⟩
    exact ⟨hspace, hchannel⟩
  · rintro ⟨hspace, hchannel⟩
    exact ⟨key.entity, hchannel, hspace, rfl⟩

/-- A channel is to be observed when it has an owner and is not archived. -/
theorem mem_desiredKeys_of_channel {snapshot : CoverageSnapshot} {space : Space}
    {channel : String} (hspace : space.OfChannel) :
    ⟨space, channel⟩ ∈ desiredKeys snapshot ↔
      snapshot.Owned channel ∧ channel ∉ snapshot.archivedChannels := by
  have hsum : ∀ (sessions : List (String × Finset String)) (key : SubKey),
      key ∈ (sessions.map (fun session =>
          (session.2 \ snapshot.archivedChannels).val.bind channelOwners)).sum ↔
        ∃ session ∈ sessions,
          key ∈ (session.2 \ snapshot.archivedChannels).val.bind channelOwners := by
    intro sessions key
    induction sessions with
    | nil => simp
    | cons session rest ih =>
        rw [List.map_cons, List.sum_cons, Multiset.mem_add, ih]
        simp only [List.mem_cons, exists_eq_or_imp]
  have hglobal : (⟨space, channel⟩ : SubKey) ≠ ⟨.globalKind, toString kindGroupPutUser⟩ := by
    rintro heq
    rcases hspace with rfl | rfl <;> cases congrArg SubKey.space heq
  have haddressed : (⟨space, channel⟩ : SubKey) ∉
      snapshot.addressedPubkeys.val.map (fun pubkey => (⟨.pubkeyP, pubkey⟩ : SubKey)) := by
    rw [Multiset.mem_map]
    rintro ⟨pubkey, -, heq⟩
    rcases hspace with rfl | rfl <;> cases congrArg SubKey.space heq
  have hprofile : (⟨space, channel⟩ : SubKey) ∉
      snapshot.profilePubkeys.val.map (fun pubkey => (⟨.profileAuthor, pubkey⟩ : SubKey)) := by
    rw [Multiset.mem_map]
    rintro ⟨pubkey, -, heq⟩
    rcases hspace with rfl | rfl <;> cases congrArg SubKey.space heq
  simp only [desiredKeys, desiredOwners, Multiset.mem_toFinset, Multiset.mem_add, hsum,
    Multiset.mem_singleton, hglobal, haddressed, hprofile, mem_bind_channelOwners, hspace,
    Finset.mem_sdiff, true_and, false_or, or_false, CoverageSnapshot.Owned]
  constructor
  · rintro (⟨hdaemon, hlive⟩ | ⟨session, hsession, hjoined, hlive⟩)
    · exact ⟨Or.inl hdaemon, hlive⟩
    · exact ⟨Or.inr ⟨session, hsession, hjoined⟩, hlive⟩
  · rintro ⟨hdaemon | ⟨session, hsession, hjoined⟩, hlive⟩
    · exact Or.inl ⟨hdaemon, hlive⟩
    · exact Or.inr ⟨session, hsession, hjoined, hlive⟩

/-! ## Convergence -/

/-- What passes achieve, whatever they covered and wherever they failed: the state after
some rounds, and what a further pass over any snapshot does. -/
structure Converges (rounds : List (CoverageSnapshot × Nat)) (state : Observing) : Prop where
  /-- What was opened and not closed is what is applied. -/
  opened : state.host = state.reconciler.applied.image subId
  /-- A plan after a failure holds the effects that were not confirmed. -/
  resumes : ∀ (snapshot : CoverageSnapshot) (count : Nat),
    ((state.syncSubscriptions snapshot count).reconciler.plan snapshot).1 =
      (state.reconciler.plan snapshot).1.drop count
  /-- A pass without a failure applies the keys of its snapshot. -/
  settles : ∀ (snapshot : CoverageSnapshot) (count : Nat),
    (state.reconciler.plan snapshot).1.length ≤ count →
      (state.syncSubscriptions snapshot count).reconciler.applied = desiredKeys snapshot
  /-- Such a pass leaves a channel with an owner one observation of its messages and one of
  its group state, unless it is archived. -/
  observes : ∀ (snapshot : CoverageSnapshot) (count : Nat),
    (state.reconciler.plan snapshot).1.length ≤ count →
      ∀ (space : Space) (channel : String), space.OfChannel →
        (state.syncSubscriptions snapshot count).reconciler.applied.filter
            (fun key => key.space = space ∧ key.entity = channel) =
          if snapshot.Owned channel ∧ channel ∉ snapshot.archivedChannels then
            {⟨space, channel⟩} else ∅
  /-- An observation is closed that an earlier pass covered, and only if the last owner has
  left or the channel is archived. -/
  closes : ∀ (snapshot : CoverageSnapshot) (space : Space) (channel : String),
    space.OfChannel →
    .close (subId ⟨space, channel⟩) ∈ (state.reconciler.plan snapshot).1 →
      (∃ round ∈ rounds, round.1.Owned channel ∧ channel ∉ round.1.archivedChannels) ∧
        (¬ snapshot.Owned channel ∨ channel ∈ snapshot.archivedChannels)

/-- A close in a plan is about a key that is applied and not desired. -/
theorem close_mem_plan {reconciler : SubscriptionReconciler} {snapshot : CoverageSnapshot}
    {key : SubKey} (hclose : .close (subId key) ∈ (reconciler.plan snapshot).1) :
    key ∈ reconciler.applied ∧ key ∉ desiredKeys snapshot := by
  rw [plan_eq] at hclose
  obtain ⟨edit, hedit, heffect⟩ := List.mem_map.mp hclose
  have hremove : edit = .remove key := effectOf_injective heffect
  exact Diff.remove_mem_edits.mp (hremove ▸ hedit)

namespace Observing

/-- A pass without a failure ends with the keys of its snapshot. -/
theorem syncSubscriptions_complete {keys : Finset SubKey} {owners : Multiset SubKey}
    {snapshot : CoverageSnapshot} {count : Nat}
    (hcount : (desiredKeys snapshot \ keys).card + (keys \ desiredKeys snapshot).card ≤ count) :
    (holding keys owners).syncSubscriptions snapshot count =
      holding (desiredKeys snapshot) (desiredOwners snapshot) := by
  have hall : (Diff.edits keys (desiredKeys snapshot)).take count =
      Diff.edits keys (desiredKeys snapshot) := by
    refine List.take_of_length_le ?_
    rw [Diff.length_edits]
    exact hcount
  rw [syncSubscriptions_holding, hall, Diff.applyAll_edits]

theorem syncSubscriptions_settles {keys : Finset SubKey} {owners : Multiset SubKey}
    {snapshot : CoverageSnapshot} {count : Nat}
    (hcount : ((holding keys owners).reconciler.plan snapshot).1.length ≤ count) :
    ((holding keys owners).syncSubscriptions snapshot count).reconciler.applied =
      desiredKeys snapshot := by
  rw [plan_eq, List.length_map, Diff.length_edits] at hcount
  have hcomplete : (holding keys owners).syncSubscriptions snapshot count = holding _ _ :=
    syncSubscriptions_complete hcount
  rw [hcomplete]
  rfl

/-- A plan after a failure holds the rest of the effects. -/
theorem plan_syncSubscriptions (keys : Finset SubKey) (owners : Multiset SubKey)
    (snapshot : CoverageSnapshot) (count : Nat) :
    (((holding keys owners).syncSubscriptions snapshot count).reconciler.plan snapshot).1 =
      ((holding keys owners).reconciler.plan snapshot).1.drop count := by
  rw [plan_eq, plan_eq, syncSubscriptions_holding]
  show (Diff.edits (Diff.applyAll keys _) (desiredKeys snapshot)).map effectOf = _
  rw [Diff.edits_applyAll_take, List.map_drop]
  rfl

/-- From the start and through any passes, with any snapshots and failures, the host observes
what is applied, a failed pass is taken up where it stopped, and a pass without a failure
observes every channel that has an owner and is not archived. -/
theorem passes_converge (rounds : List (CoverageSnapshot × Nat)) :
    Converges rounds (new.passes rounds) := by
  obtain ⟨keys, owners, hstate, hcovered⟩ := exists_passes_eq_holding rounds
  rw [hstate]
  refine ⟨rfl, plan_syncSubscriptions keys owners, ?settles, ?observes, ?closes⟩
  case settles => exact fun snapshot count hcount => syncSubscriptions_settles hcount
  case observes =>
    intro snapshot count hcount space channel hspace
    rw [syncSubscriptions_settles hcount]
    -- The key of a channel is the channel itself, so that at most one is observed.
    have hmem : ⟨space, channel⟩ ∈ desiredKeys snapshot ↔ _ := mem_desiredKeys_of_channel hspace
    ext ⟨otherSpace, entity⟩
    rw [Finset.mem_filter]
    split
    · rename_i hlive
      rw [Finset.mem_singleton, SubKey.mk.injEq]
      constructor
      · rintro ⟨-, hkey⟩
        exact hkey
      · rintro ⟨rfl, rfl⟩
        exact ⟨hmem.mpr hlive, rfl, rfl⟩
    · rename_i hdead
      constructor
      · rintro ⟨hdesired, rfl, rfl⟩
        exact absurd (hmem.mp hdesired) hdead
      · intro hnone
        cases hnone
  case closes =>
    intro snapshot space channel hspace hclose
    obtain ⟨happlied, hdropped⟩ := close_mem_plan hclose
    obtain ⟨round, hround, hdesired⟩ := hcovered _ happlied
    refine ⟨⟨round, hround, (mem_desiredKeys_of_channel hspace).mp hdesired⟩, ?_⟩
    rw [mem_desiredKeys_of_channel hspace, not_and_or, not_not] at hdropped
    exact hdropped

end Observing

end Mosaico
