import Mosaico.Fabric.Relay
import Mosaico.Register.Latest

/-!
# The roster cache

The relay publishes the roster of a channel as two snapshots, one of its admins
and one of its members, and each snapshot replaces the rows of its role.  A pubkey
has one row in a channel, so a pubkey that both snapshots list is stored as an
admin, and its membership is not stored at all.

The roster therefore forgets memberships: when a later admin snapshot drops the
pubkey, its row goes, although the newest member snapshot still lists it.
-/

namespace Mosaico

open Relational Transition Register

inductive RosterRole where
  | admin
  | member
  deriving DecidableEq, Repr

def RosterRole.asStr : RosterRole → String
  | .admin => "admin"
  | .member => "member"

/-- A relay-authored list of the pubkeys with one role in a channel. -/
structure RosterSnapshot where
  role : RosterRole
  pubkeys : List String
  updatedAt : Nat
  deriving DecidableEq, Repr

namespace Database

/-! ## The cache -/

/-- One pubkey of a snapshot.  Promoting to admin wins; demoting to member only
applies if the pubkey is absent. -/
def upsertRole (members : Table ChannelMember.key) (channelH : String) (role : RosterRole)
    (updatedAt : Nat) (pubkey : String) : Table ChannelMember.key :=
  match role with
  | .admin => members.upsert
      { channelH := channelH, pubkey := pubkey, role := "admin", updatedAt := updatedAt }
      (fun row => { row with role := "admin", updatedAt := updatedAt })
  | .member => members.upsert
      { channelH := channelH, pubkey := pubkey, role := "member", updatedAt := updatedAt }
      (fun row => { row with updatedAt := updatedAt })

/-- Replace the rows of one role, unless a newer snapshot of the role was seen. -/
def replaceRole (db : Database) (channelH : String) (role : RosterRole) (pubkeys : List String)
    (updatedAt : Nat) : Except StoreError (Unit × Database) :=
  if (db.channelMemberSets.find? (channelH, role.asStr)).any
      (fun seen => updatedAt < seen.updatedAt) then return ((), db)
  else do
    bindParams [updatedAt]
    let cleared := db.channelMembers.deleteWhere
      (fun row => row.channelH = channelH ∧ row.role = role.asStr)
    return ((), { db with
      channelMemberSets := db.channelMemberSets.upsert
        { channelH := channelH, role := role.asStr, updatedAt := updatedAt }
        (fun row => { row with updatedAt := updatedAt })
      channelMembers := pubkeys.foldl
        (fun members pubkey => upsertRole members channelH role updatedAt pubkey) cleared })

def replaceChannelAdmins (db : Database) (channelH : String) (admins : List String)
    (updatedAt : Nat) : Except StoreError (Unit × Database) :=
  db.replaceRole channelH .admin admins updatedAt

def replaceChannelMembers (db : Database) (channelH : String) (members : List String)
    (updatedAt : Nat) : Except StoreError (Unit × Database) :=
  db.replaceRole channelH .member members updatedAt

/-- Materialize a snapshot of a channel.  A failed replacement is logged. -/
def materializeRoster (db : Database) (channelH : String) (snapshot : RosterSnapshot) : Database :=
  match snapshot.role with
  | .admin => commit (db.replaceChannelAdmins channelH snapshot.pubkeys snapshot.updatedAt) db
  | .member => commit (db.replaceChannelMembers channelH snapshot.pubkeys snapshot.updatedAt) db

/-- The role of a pubkey in a channel. -/
def memberRole (db : Database) (channelH pubkey : String) : Option String :=
  (db.channelMembers.find? (channelH, pubkey)).map ChannelMember.role

/-- The time of the newest snapshot of a role that was materialized. -/
def memberSetTime (db : Database) (channelH : String) (role : RosterRole) : Option Nat :=
  (db.channelMemberSets.find? (channelH, role.asStr)).map ChannelMemberSet.updatedAt

/-! ## One snapshot -/

theorem materializeRoster_eq (db : Database) (channelH : String) (snapshot : RosterSnapshot) :
    db.materializeRoster channelH snapshot =
      commit (db.replaceRole channelH snapshot.role snapshot.pubkeys snapshot.updatedAt) db := by
  unfold materializeRoster
  cases snapshot.role with
  | admin | member => rfl

theorem role_upsertRole (members : Table ChannelMember.key) (channelH : String)
    (role : RosterRole) (updatedAt : Nat) (first pubkey : String) :
    ((upsertRole members channelH role updatedAt first).find? (channelH, pubkey)).map
        ChannelMember.role =
      if pubkey = first then
        match role with
        | .admin => some "admin"
        | .member => some (((members.find? (channelH, pubkey)).map
            ChannelMember.role).getD "member")
      else (members.find? (channelH, pubkey)).map ChannelMember.role := by
  have hkey : ((channelH, pubkey) = (channelH, first)) ↔ pubkey = first := by simp
  cases role with
  | admin | member =>
      simp only [upsertRole]
      rw [Table.find?_upsert]
      simp only [ChannelMember.key, hkey]
      by_cases hpubkey : pubkey = first
      · rw [if_pos hpubkey, if_pos hpubkey]
        cases members.find? (channelH, pubkey) with
        | none | some row => rfl
      · rw [if_neg hpubkey, if_neg hpubkey]

/-- The roles after the pubkeys of a snapshot. -/
theorem role_upsertRoles (channelH : String) (role : RosterRole) (updatedAt : Nat)
    (pubkeys : List String) (members : Table ChannelMember.key) (pubkey : String) :
    ((pubkeys.foldl (fun members pubkey => upsertRole members channelH role updatedAt pubkey)
        members).find? (channelH, pubkey)).map ChannelMember.role =
      if pubkey ∈ pubkeys then
        match role with
        | .admin => some "admin"
        | .member => some (((members.find? (channelH, pubkey)).map
            ChannelMember.role).getD "member")
      else (members.find? (channelH, pubkey)).map ChannelMember.role := by
  induction pubkeys generalizing members with
  | nil => simp
  | cons first rest ih =>
      rw [List.foldl_cons, ih, role_upsertRole]
      by_cases hfirst : pubkey = first
      · cases role with
        | admin | member => simp [hfirst]
      · simp [hfirst]

/-- A snapshot that is older than the newest one of its role changes nothing. -/
theorem materializeRoster_of_older {db : Database} {channelH : String}
    {snapshot : RosterSnapshot} {seen : Nat}
    (hseen : db.memberSetTime channelH snapshot.role = some seen)
    (holder : snapshot.updatedAt < seen) : db.materializeRoster channelH snapshot = db := by
  rw [memberSetTime, Option.map_eq_some_iff] at hseen
  obtain ⟨row, hrow, rfl⟩ := hseen
  rw [materializeRoster_eq, replaceRole, hrow, Option.any_some, if_pos (by simpa using holder)]
  rfl

/-- A snapshot whose time does not fit a statement changes nothing. -/
theorem materializeRoster_of_unstorable {db : Database} {channelH : String}
    {snapshot : RosterSnapshot} (hbound : ¬ snapshot.updatedAt ≤ Rust.i64Max) :
    db.materializeRoster channelH snapshot = db := by
  rw [materializeRoster_eq, replaceRole]
  split
  · rfl
  · rw [bindParams_eq_error (by simpa using hbound)]
    rfl

/-- The role that a row keeps when the rows of another role are cleared. -/
def keptRole (held : Option String) (cleared : RosterRole) : Option String :=
  held.filter (fun role => decide (role ≠ cleared.asStr))

/-- What a snapshot that is not older than the newest one of its role does. -/
theorem materializeRoster_of_newer {db : Database} {channelH : String}
    {snapshot : RosterSnapshot} (hbound : snapshot.updatedAt ≤ Rust.i64Max)
    (hnewer : ∀ seen, db.memberSetTime channelH snapshot.role = some seen →
      seen ≤ snapshot.updatedAt) :
    (∀ role, (db.materializeRoster channelH snapshot).memberSetTime channelH role =
      if role = snapshot.role then some snapshot.updatedAt
      else db.memberSetTime channelH role) ∧
    ∀ pubkey, (db.materializeRoster channelH snapshot).memberRole channelH pubkey =
      if pubkey ∈ snapshot.pubkeys then
        match snapshot.role with
        | .admin => some "admin"
        | .member => some ((keptRole (db.memberRole channelH pubkey) .member).getD "member")
      else keptRole (db.memberRole channelH pubkey) snapshot.role := by
  have haccepted : (db.channelMemberSets.find? (channelH, snapshot.role.asStr)).any
      (fun seen => snapshot.updatedAt < seen.updatedAt) = false := by
    cases hfind : db.channelMemberSets.find? (channelH, snapshot.role.asStr) with
    | none => rfl
    | some row =>
        have := hnewer row.updatedAt (by rw [memberSetTime, hfind, Option.map_some])
        simpa using this
  have hbind : bindParams [snapshot.updatedAt] = .ok () :=
    bindParams_eq_ok.mpr (by simpa using hbound)
  rw [materializeRoster_eq, replaceRole, haccepted, hbind]
  constructor
  · intro role
    show ((db.channelMemberSets.upsert _ _ _).find? (channelH, role.asStr)).map _ = _
    rw [Table.find?_upsert]
    have hkey : ((channelH, role.asStr) = (channelH, snapshot.role.asStr)) ↔
        role = snapshot.role := by
      rw [Prod.mk.injEq, and_iff_right rfl]
      revert role
      cases snapshot.role <;> intro role <;> cases role <;> decide
    simp only [ChannelMemberSet.key, hkey]
    by_cases hrole : role = snapshot.role
    · rw [if_pos hrole, if_pos hrole, Option.map_some]
      cases db.channelMemberSets.find? (channelH, role.asStr) with
      | none | some row => rfl
    · rw [if_neg hrole, if_neg hrole]
      rfl
  · intro pubkey
    -- The deletion takes the rows of this role only.
    have hkept : ((db.channelMembers.deleteWhere (fun row => row.channelH = channelH ∧
        row.role = snapshot.role.asStr)).find? (channelH, pubkey)).map ChannelMember.role =
        keptRole (db.memberRole channelH pubkey) snapshot.role := by
      rw [Table.find?_deleteWhere, memberRole, keptRole]
      cases hfind : db.channelMembers.find? (channelH, pubkey) with
      | none => rfl
      | some row =>
          have hchannel : row.channelH = channelH := congrArg Prod.fst (Table.key_of_find? hfind)
          by_cases hrole : row.role = snapshot.role.asStr
          · simp [Option.filter, hchannel, hrole]
          · simp [Option.filter, hchannel, hrole]
    refine (role_upsertRoles channelH snapshot.role snapshot.updatedAt snapshot.pubkeys
      (db.channelMembers.deleteWhere (fun row => row.channelH = channelH ∧
        row.role = snapshot.role.asStr)) pubkey).trans ?_
    rw [hkept]
    by_cases hlisted : pubkey ∈ snapshot.pubkeys
    · rw [if_pos hlisted, if_pos hlisted]
      cases snapshot.role with
      | admin | member => rfl
    · rw [if_neg hlisted, if_neg hlisted]

end Database

/-! ## The newest snapshots of a list -/

namespace RosterSnapshot

/-- The newest snapshot of a role. -/
def newest (role : RosterRole) (snapshots : List RosterSnapshot) : Option RosterSnapshot :=
  latest RosterSnapshot.updatedAt (snapshots.filter (fun snapshot => snapshot.role = role))

/-- The pubkeys that the newest snapshot of a role lists. -/
def inForce (role : RosterRole) (snapshots : List RosterSnapshot) : List String :=
  ((newest role snapshots).map RosterSnapshot.pubkeys).getD []

/-- Snapshots of one role and time are repetitions of one snapshot. -/
def Distinct (snapshots : List RosterSnapshot) : Prop :=
  ∀ role, Consistent RosterSnapshot.updatedAt
    (snapshots.filter (fun snapshot => snapshot.role = role))

/-- No member snapshot of the list is newer. -/
def NewestMembers (snapshots : List RosterSnapshot) (snapshot : RosterSnapshot) : Prop :=
  ∀ other ∈ snapshots, other.role = .member → other.updatedAt ≤ snapshot.updatedAt

/-- The newest member snapshot lists the pubkey, and since some delivery of it no
admin snapshot that listed the pubkey was in force. -/
def Unpromoted (snapshots : List RosterSnapshot) (pubkey : String) : Prop :=
  ∃ before snapshot after, snapshots = before ++ snapshot :: after ∧
    snapshot.role = .member ∧ NewestMembers snapshots snapshot ∧ pubkey ∈ snapshot.pubkeys ∧
    ∀ elapsed, elapsed <+: after → pubkey ∉ inForce .admin (before ++ snapshot :: elapsed)

variable {snapshots : List RosterSnapshot} {next : RosterSnapshot}

theorem newest_concat (role : RosterRole) :
    newest role (snapshots ++ [next]) =
      if next.role = role then replace RosterSnapshot.updatedAt (newest role snapshots) next
      else newest role snapshots := by
  by_cases hrole : next.role = role
  · simp [newest, List.filter_append, hrole, latest_concat]
  · simp [newest, List.filter_append, hrole]

theorem newest_concat_of_newer
    (hnewer : ∀ seen, newest next.role snapshots = some seen → seen.updatedAt ≤ next.updatedAt) :
    newest next.role (snapshots ++ [next]) = some next := by
  rw [newest_concat, if_pos rfl]
  cases hseen : newest next.role snapshots with
  | none => rfl
  | some seen =>
      simp only [replace]
      rw [if_pos (hnewer seen hseen)]

theorem newest_concat_of_older {seen : RosterSnapshot}
    (hseen : newest next.role snapshots = some seen) (holder : next.updatedAt < seen.updatedAt)
    (role : RosterRole) : newest role (snapshots ++ [next]) = newest role snapshots := by
  rw [newest_concat]
  split
  · rename_i hrole
    rw [← hrole, hseen]
    exact replace_of_older holder
  · rfl

theorem Distinct.of_concat (hdistinct : Distinct (snapshots ++ [next])) : Distinct snapshots := by
  intro role
  apply (hdistinct role).of_sublist
  intro snapshot hsnapshot
  rw [List.filter_append]
  exact List.mem_append_left _ hsnapshot

theorem mem_of_newest {role : RosterRole} {snapshot : RosterSnapshot}
    (hnewest : newest role snapshots = some snapshot) :
    snapshot ∈ snapshots ∧ snapshot.role = role := by
  have hmem := mem_of_latest hnewest
  rw [List.mem_filter, decide_eq_true_eq] at hmem
  exact hmem

theorem le_of_newest {role : RosterRole} {snapshot other : RosterSnapshot}
    (hnewest : newest role snapshots = some snapshot) (hother : other ∈ snapshots)
    (hrole : other.role = role) : other.updatedAt ≤ snapshot.updatedAt := by
  apply le_of_latest hnewest other
  rw [List.mem_filter, decide_eq_true_eq]
  exact ⟨hother, hrole⟩

/-! ## How a snapshot changes what is promoted -/

/-- The delivery of an unpromoted pubkey is the last one, or an earlier one. -/
theorem unpromoted_concat_iff {pubkey : String} :
    Unpromoted (snapshots ++ [next]) pubkey ↔
      (next.role = .member ∧ NewestMembers snapshots next ∧ pubkey ∈ next.pubkeys ∧
        pubkey ∉ inForce .admin (snapshots ++ [next])) ∨
      (∃ before snapshot after, snapshots = before ++ snapshot :: after ∧
        snapshot.role = .member ∧ NewestMembers (snapshots ++ [next]) snapshot ∧
        pubkey ∈ snapshot.pubkeys ∧
        (∀ elapsed, elapsed <+: after →
          pubkey ∉ inForce .admin (before ++ snapshot :: elapsed)) ∧
        pubkey ∉ inForce .admin (snapshots ++ [next])) := by
  constructor
  · rintro ⟨before, snapshot, after, hsplit, hrole, hmax, hlisted, hfree⟩
    -- The snapshot that lists the pubkey is the last one, or stands before it.
    rcases List.eq_nil_or_concat after with rfl | ⟨rest, final, rfl⟩
    · obtain ⟨rfl, hsame⟩ := List.append_inj' hsplit rfl
      cases hsame
      left
      refine ⟨hrole, ?_, hlisted, hfree [] List.prefix_rfl⟩
      intro other hother
      exact hmax other (List.mem_append_left _ hother)
    · rw [List.concat_eq_append] at hsplit hfree
      have hconcat : snapshots ++ [next] = (before ++ snapshot :: rest) ++ [final] := by
        rw [hsplit, List.append_assoc, List.cons_append]
      obtain ⟨rfl, hsame⟩ := List.append_inj' hconcat rfl
      cases hsame
      right
      refine ⟨before, snapshot, rest, rfl, hrole, hmax, hlisted, ?_, ?_⟩
      · intro elapsed helapsed
        exact hfree elapsed (helapsed.trans (List.prefix_append rest [next]))
      · have hwhole := hfree (rest ++ [next]) List.prefix_rfl
        rwa [← List.cons_append, ← List.append_assoc] at hwhole
  · rintro (⟨hrole, hmax, hlisted, hfree⟩ |
      ⟨before, snapshot, after, rfl, hrole, hmax, hlisted, hfree, hlast⟩)
    · refine ⟨snapshots, next, [], rfl, hrole, ?_, hlisted, ?_⟩
      · intro other hother hmember
        rw [List.mem_append, List.mem_singleton] at hother
        rcases hother with hearlier | rfl
        · exact hmax other hearlier hmember
        · exact Nat.le_refl _
      · intro elapsed helapsed
        rw [List.prefix_nil.mp helapsed]
        exact hfree
    · refine ⟨before, snapshot, after ++ [next], by simp, hrole, hmax, hlisted, ?_⟩
      intro elapsed helapsed
      rcases List.prefix_concat_iff.mp helapsed with rfl | hprefix
      · rw [List.append_assoc, List.cons_append] at hlast
        exact hlast
      · exact hfree elapsed hprefix

theorem newestMembers_concat_iff {snapshot : RosterSnapshot} :
    NewestMembers (snapshots ++ [next]) snapshot ↔
      NewestMembers snapshots snapshot ∧
        (next.role = .member → next.updatedAt ≤ snapshot.updatedAt) := by
  constructor
  · intro hmax
    constructor
    · intro other hother
      exact hmax other (List.mem_append_left _ hother)
    · exact hmax next (by simp)
  · rintro ⟨hmax, hnext⟩ other hother hmember
    rw [List.mem_append, List.mem_singleton] at hother
    rcases hother with hearlier | rfl
    · exact hmax other hearlier hmember
    · exact hnext hmember

theorem inForce_admin_concat_member (hrole : next.role = .member) :
    inForce .admin (snapshots ++ [next]) = inForce .admin snapshots := by
  have hother : ¬ next.role = .admin := by
    rw [hrole]
    decide
  rw [inForce, newest_concat, if_neg hother, inForce]

/-- An admin snapshot takes its pubkeys out. -/
theorem unpromoted_concat_admin {pubkey : String} (hrole : next.role = .admin) :
    Unpromoted (snapshots ++ [next]) pubkey ↔
      Unpromoted snapshots pubkey ∧ pubkey ∉ inForce .admin (snapshots ++ [next]) := by
  have hadmin : ¬ next.role = .member := by
    rw [hrole]
    decide
  rw [unpromoted_concat_iff]
  constructor
  · rintro (⟨hmember, _⟩ | ⟨before, snapshot, after, hsplit, hmember, hmax, hlisted, hfree, hlast⟩)
    · exact absurd hmember hadmin
    · exact ⟨⟨before, snapshot, after, hsplit, hmember, (newestMembers_concat_iff.mp hmax).1,
        hlisted, hfree⟩, hlast⟩
  · rintro ⟨⟨before, snapshot, after, hsplit, hmember, hmax, hlisted, hfree⟩, hlast⟩
    exact Or.inr ⟨before, snapshot, after, hsplit, hmember,
      newestMembers_concat_iff.mpr ⟨hmax, fun hnext => absurd hnext hadmin⟩, hlisted, hfree, hlast⟩

/-- The newest member snapshot puts in its pubkeys that are no admins now. -/
theorem unpromoted_concat_newer {pubkey : String} (hdistinct : Distinct (snapshots ++ [next]))
    (hrole : next.role = .member) (hnewest : NewestMembers snapshots next) :
    Unpromoted (snapshots ++ [next]) pubkey ↔
      pubkey ∈ next.pubkeys ∧ pubkey ∉ inForce .admin snapshots := by
  rw [unpromoted_concat_iff, inForce_admin_concat_member hrole]
  constructor
  · rintro (⟨_, _, hlisted, hlast⟩ |
      ⟨before, snapshot, after, rfl, hmember, hmax, hlisted, _, hlast⟩)
    · exact ⟨hlisted, hlast⟩
    · -- the earlier newest member snapshot is the one that is delivered again
      have htime : snapshot.updatedAt = next.updatedAt :=
        Nat.le_antisymm (hnewest snapshot (by simp) hmember)
          ((newestMembers_concat_iff.mp hmax).2 hrole)
      have hsame : snapshot = next := by
        apply hdistinct .member snapshot _ next _ htime
        · simp [hmember]
        · simp [hrole]
      rw [← hsame]
      exact ⟨hlisted, hlast⟩
  · rintro ⟨hlisted, hlast⟩
    exact Or.inl ⟨hrole, hnewest, hlisted, hlast⟩

/-- An older member snapshot changes nothing. -/
theorem unpromoted_concat_older {pubkey : String} (hrole : next.role = .member)
    (holder : ¬ NewestMembers snapshots next) :
    Unpromoted (snapshots ++ [next]) pubkey ↔ Unpromoted snapshots pubkey := by
  rw [unpromoted_concat_iff, inForce_admin_concat_member hrole]
  constructor
  · rintro (⟨_, hnewest, _⟩ | ⟨before, snapshot, after, hsplit, hmember, hmax, hlisted, hfree, _⟩)
    · exact absurd hnewest holder
    · exact ⟨before, snapshot, after, hsplit, hmember, (newestMembers_concat_iff.mp hmax).1,
        hlisted, hfree⟩
  · rintro ⟨before, snapshot, after, hsplit, hmember, hmax, hlisted, hfree⟩
    have hnext : next.updatedAt ≤ snapshot.updatedAt := by
      by_contra hnot
      apply holder
      intro other hother hotherMember
      have := hmax other hother hotherMember
      omega
    have hlast : pubkey ∉ inForce .admin snapshots := by
      rw [hsplit]
      exact hfree after List.prefix_rfl
    exact Or.inr ⟨before, snapshot, after, hsplit, hmember,
      newestMembers_concat_iff.mpr ⟨hmax, fun _ => hnext⟩, hlisted, hfree, hlast⟩

end RosterSnapshot

/-! ## Runs of snapshots -/

open RosterSnapshot

/-- The cache shows what the snapshots say, as far as it remembers them. -/
structure Database.ShowsRoster (db : Database) (channelH : String)
    (snapshots : List RosterSnapshot) : Prop where
  times : ∀ role, db.memberSetTime channelH role =
    (newest role snapshots).map RosterSnapshot.updatedAt
  admins : ∀ pubkey, db.memberRole channelH pubkey = some "admin" ↔
    pubkey ∈ inForce .admin snapshots
  members : ∀ pubkey, db.memberRole channelH pubkey = some "member" ↔ Unpromoted snapshots pubkey
  known : ∀ pubkey role, db.memberRole channelH pubkey = some role →
    role = "admin" ∨ role = "member"

namespace Database

variable {db : Database} {channelH : String} {snapshots : List RosterSnapshot}
  {next : RosterSnapshot}

theorem keptRole_admin {held : Option String}
    (hknown : ∀ role, held = some role → role = "admin" ∨ role = "member") :
    keptRole held .admin = if held = some "member" then some "member" else none := by
  cases held with
  | none => rfl
  | some role =>
      rcases hknown role rfl with rfl | rfl
      · rfl
      · rfl

theorem keptRole_member {held : Option String}
    (hknown : ∀ role, held = some role → role = "admin" ∨ role = "member") :
    keptRole held .member = if held = some "admin" then some "admin" else none := by
  cases held with
  | none => rfl
  | some role =>
      rcases hknown role rfl with rfl | rfl
      · rfl
      · rfl

theorem showsRoster_of_older (hshows : db.ShowsRoster channelH snapshots)
    {seen : RosterSnapshot} (hseen : newest next.role snapshots = some seen)
    (holder : next.updatedAt < seen.updatedAt) :
    (db.materializeRoster channelH next).ShowsRoster channelH (snapshots ++ [next]) := by
  have hsame : db.materializeRoster channelH next = db := by
    apply materializeRoster_of_older _ holder
    rw [hshows.times, hseen, Option.map_some]
  have hforce : inForce .admin (snapshots ++ [next]) = inForce .admin snapshots := by
    rw [inForce, newest_concat_of_older hseen holder, inForce]
  rw [hsame]
  constructor
  · intro role
    rw [newest_concat_of_older hseen holder]
    exact hshows.times role
  · intro pubkey
    rw [hforce]
    exact hshows.admins pubkey
  · intro pubkey
    rw [hshows.members]
    cases hrole : next.role with
    | admin =>
        rw [unpromoted_concat_admin hrole, hforce]
        constructor
        · intro hfree
          refine ⟨hfree, ?_⟩
          obtain ⟨before, snapshot, after, hsplit, _, _, _, hfree⟩ := hfree
          rw [hsplit]
          exact hfree after List.prefix_rfl
        · exact And.left
    | member =>
        rw [unpromoted_concat_older hrole]
        intro hmax
        rw [hrole] at hseen
        have := hmax seen (mem_of_newest hseen).1 (mem_of_newest hseen).2
        omega
  · exact hshows.known

theorem newestMembers_of_newer (hrole : next.role = .member)
    (hnewer : ∀ seen, newest next.role snapshots = some seen → seen.updatedAt ≤ next.updatedAt) :
    NewestMembers snapshots next := by
  intro other hother hmember
  rw [hrole] at hnewer
  cases hseen : newest .member snapshots with
  | none =>
      rw [newest, latest_eq_none_iff, List.filter_eq_nil_iff] at hseen
      exact absurd (by simpa using hmember) (hseen other hother)
  | some seen =>
      have hother := le_of_newest hseen hother hmember
      have hbound := hnewer seen hseen
      omega

theorem known_of_two {first second : Prop} [Decidable first] [Decidable second]
    {left right role : String}
    (hrole : (if first then some left else if second then some right else none) = some role) :
    role = left ∨ role = right := by
  split_ifs at hrole
  · exact Or.inl (Option.some.inj hrole).symm
  · exact Or.inr (Option.some.inj hrole).symm

/-- A newer list of admins takes their roles from the others and keeps the members. -/
theorem showsRoster_of_newer_admins (hshows : db.ShowsRoster channelH snapshots)
    (hrole : next.role = .admin)
    (hnewest : newest next.role (snapshots ++ [next]) = some next)
    (htimes : ∀ role, (db.materializeRoster channelH next).memberSetTime channelH role =
      (newest role (snapshots ++ [next])).map RosterSnapshot.updatedAt)
    (hroles : ∀ pubkey, (db.materializeRoster channelH next).memberRole channelH pubkey =
      if pubkey ∈ next.pubkeys then some "admin"
      else keptRole (db.memberRole channelH pubkey) .admin) :
    (db.materializeRoster channelH next).ShowsRoster channelH (snapshots ++ [next]) := by
  have hforce : inForce .admin (snapshots ++ [next]) = next.pubkeys := by
    rw [hrole] at hnewest
    rw [inForce, hnewest]
    rfl
  have hafter : ∀ pubkey, (db.materializeRoster channelH next).memberRole channelH pubkey =
      if pubkey ∈ next.pubkeys then some "admin"
      else if db.memberRole channelH pubkey = some "member" then some "member" else none := by
    intro pubkey
    rw [hroles, keptRole_admin (hshows.known pubkey)]
  constructor
  · exact htimes
  · intro pubkey
    rw [hafter, hforce]
    by_cases hlisted : pubkey ∈ next.pubkeys
    · simp [hlisted]
    · by_cases hmember : db.memberRole channelH pubkey = some "member"
      · simp [hlisted, hmember]
      · simp [hlisted, hmember]
  · intro pubkey
    rw [hafter, unpromoted_concat_admin hrole, hforce, ← hshows.members]
    by_cases hlisted : pubkey ∈ next.pubkeys
    · simp [hlisted]
    · simp [hlisted]
  · intro pubkey role hafterRole
    rw [hafter] at hafterRole
    exact known_of_two hafterRole

/-- A newer list of members leaves the admins as they are. -/
theorem showsRoster_of_newer_members (hshows : db.ShowsRoster channelH snapshots)
    (hdistinct : Distinct (snapshots ++ [next])) (hrole : next.role = .member)
    (hnewer : ∀ seen, newest next.role snapshots = some seen → seen.updatedAt ≤ next.updatedAt)
    (htimes : ∀ role, (db.materializeRoster channelH next).memberSetTime channelH role =
      (newest role (snapshots ++ [next])).map RosterSnapshot.updatedAt)
    (hroles : ∀ pubkey, (db.materializeRoster channelH next).memberRole channelH pubkey =
      if pubkey ∈ next.pubkeys then
        some ((keptRole (db.memberRole channelH pubkey) .member).getD "member")
      else keptRole (db.memberRole channelH pubkey) .member) :
    (db.materializeRoster channelH next).ShowsRoster channelH (snapshots ++ [next]) := by
  have hafter : ∀ pubkey, (db.materializeRoster channelH next).memberRole channelH pubkey =
      if db.memberRole channelH pubkey = some "admin" then some "admin"
      else if pubkey ∈ next.pubkeys then some "member" else none := by
    intro pubkey
    rw [hroles, keptRole_member (hshows.known pubkey)]
    by_cases hlisted : pubkey ∈ next.pubkeys
    · by_cases hadmin : db.memberRole channelH pubkey = some "admin"
      · simp [hlisted, hadmin]
      · simp [hlisted, hadmin]
    · simp [hlisted]
  constructor
  · exact htimes
  · intro pubkey
    rw [hafter, inForce_admin_concat_member hrole, ← hshows.admins]
    by_cases hadmin : db.memberRole channelH pubkey = some "admin"
    · simp [hadmin]
    · by_cases hlisted : pubkey ∈ next.pubkeys
      · simp [hadmin, hlisted]
      · simp [hadmin, hlisted]
  · intro pubkey
    rw [hafter, unpromoted_concat_newer hdistinct hrole (newestMembers_of_newer hrole hnewer),
      ← hshows.admins]
    by_cases hadmin : db.memberRole channelH pubkey = some "admin"
    · simp [hadmin]
    · simp [hadmin]
  · intro pubkey role hafterRole
    rw [hafter] at hafterRole
    exact known_of_two hafterRole

theorem showsRoster_of_newer (hshows : db.ShowsRoster channelH snapshots)
    (hdistinct : Distinct (snapshots ++ [next])) (hbound : next.updatedAt ≤ Rust.i64Max)
    (hnewer : ∀ seen, newest next.role snapshots = some seen → seen.updatedAt ≤ next.updatedAt) :
    (db.materializeRoster channelH next).ShowsRoster channelH (snapshots ++ [next]) := by
  have haccepted : ∀ seen, db.memberSetTime channelH next.role = some seen →
      seen ≤ next.updatedAt := by
    intro seen hseen
    rw [hshows.times, Option.map_eq_some_iff] at hseen
    obtain ⟨snapshot, hsnapshot, rfl⟩ := hseen
    exact hnewer snapshot hsnapshot
  obtain ⟨htimes, hroles⟩ := materializeRoster_of_newer hbound haccepted
  have hnewest := newest_concat_of_newer hnewer
  have htimesAfter : ∀ role, (db.materializeRoster channelH next).memberSetTime channelH role =
      (newest role (snapshots ++ [next])).map RosterSnapshot.updatedAt := by
    intro role
    rw [htimes]
    by_cases hrole : role = next.role
    · rw [if_pos hrole, hrole, hnewest, Option.map_some]
    · rw [if_neg hrole, newest_concat, if_neg (fun heq => hrole heq.symm)]
      exact hshows.times role
  cases hrole : next.role with
  | admin =>
      rw [hrole] at hroles
      exact showsRoster_of_newer_admins hshows hrole hnewest htimesAfter hroles
  | member =>
      rw [hrole] at hroles
      exact showsRoster_of_newer_members hshows hdistinct hrole hnewer htimesAfter hroles

/-- The database after a list of snapshots of one channel. -/
def rosterAfter (db : Database) (channelH : String) (snapshots : List RosterSnapshot) : Database :=
  run (fun db snapshot => db.materializeRoster channelH snapshot) db snapshots

/-- The snapshots whose time fits a statement; the others are refused. -/
def storedSnapshots (snapshots : List RosterSnapshot) : List RosterSnapshot :=
  snapshots.filter (fun snapshot => snapshot.updatedAt ≤ Rust.i64Max)

/-- The run lemma: the cache shows the stored snapshots. -/
theorem rosterAfter_shows (hfresh : db.ShowsRoster channelH [])
    (hdistinct : Distinct (storedSnapshots snapshots)) :
    (db.rosterAfter channelH snapshots).ShowsRoster channelH (storedSnapshots snapshots) := by
  induction snapshots using List.reverseRecOn with
  | nil => exact hfresh
  | append_singleton earlier last ih =>
      rw [rosterAfter, run_append, run_cons, run_nil]
      by_cases hbound : last.updatedAt ≤ Rust.i64Max
      · have hstored : storedSnapshots (earlier ++ [last]) = storedSnapshots earlier ++ [last] := by
          simp [storedSnapshots, hbound]
        rw [hstored] at hdistinct ⊢
        have hshows := ih hdistinct.of_concat
        by_cases hnewer : ∀ seen, newest last.role (storedSnapshots earlier) = some seen →
            seen.updatedAt ≤ last.updatedAt
        · exact showsRoster_of_newer hshows hdistinct hbound hnewer
        · simp only [not_forall, Nat.not_le] at hnewer
          obtain ⟨seen, hseen, holder⟩ := hnewer
          exact showsRoster_of_older hshows hseen holder
      · have hstored : storedSnapshots (earlier ++ [last]) = storedSnapshots earlier := by
          simp [storedSnapshots, hbound]
        rw [hstored] at hdistinct ⊢
        rw [materializeRoster_of_unstorable hbound]
        exact ih hdistinct

/-- No row and no snapshot of the channel is known. -/
structure WithoutRoster (db : Database) (channelH : String) : Prop where
  members : ∀ pubkey, db.memberRole channelH pubkey = none
  sets : ∀ role, db.memberSetTime channelH role = none

theorem WithoutRoster.shows (hfresh : db.WithoutRoster channelH) :
    db.ShowsRoster channelH [] := by
  constructor
  · exact hfresh.sets
  · intro pubkey
    rw [hfresh.members]
    simp [inForce, newest]
  · intro pubkey
    rw [hfresh.members]
    constructor
    · intro hmember
      cases hmember
    · rintro ⟨before, snapshot, after, hsplit, _⟩
      simp at hsplit
  · intro pubkey role hrole
    rw [hfresh.members] at hrole
    cases hrole

theorem listed_of_unpromoted {pubkey : String} (hdistinct : Distinct snapshots)
    (hfree : Unpromoted snapshots pubkey) :
    pubkey ∈ inForce .member snapshots ∧ pubkey ∉ inForce .admin snapshots := by
  obtain ⟨before, snapshot, after, hsplit, hmember, hmax, hlisted, hfree⟩ := hfree
  constructor
  · have hnewest : newest .member snapshots = some snapshot := by
      rw [newest, latest_eq_some_iff (hdistinct .member)]
      constructor
      · rw [List.mem_filter, decide_eq_true_eq]
        exact ⟨by rw [hsplit]; simp, hmember⟩
      · intro other hother
        rw [List.mem_filter, decide_eq_true_eq] at hother
        exact hmax other hother.1 hother.2
    rw [inForce, hnewest]
    exact hlisted
  · rw [hsplit]
    exact hfree after List.prefix_rfl

/-- The roster converges exactly when every pubkey that the newest member snapshot
lists and the newest admin snapshot does not has been out of the admin role since
some delivery of that member snapshot. -/
theorem rosterConverges_iff (hfresh : db.WithoutRoster channelH)
    (hdistinct : Distinct (storedSnapshots snapshots)) :
    (∀ pubkey, (db.rosterAfter channelH snapshots).memberRole channelH pubkey =
      if pubkey ∈ inForce .admin (storedSnapshots snapshots) then some "admin"
      else if pubkey ∈ inForce .member (storedSnapshots snapshots) then some "member"
      else none) ↔
    ∀ pubkey ∈ inForce .member (storedSnapshots snapshots),
      pubkey ∉ inForce .admin (storedSnapshots snapshots) →
      Unpromoted (storedSnapshots snapshots) pubkey := by
  have hshows := rosterAfter_shows hfresh.shows hdistinct
  constructor
  · intro hconverges pubkey hmember hadmin
    rw [← hshows.members, hconverges, if_neg hadmin, if_pos hmember]
  · intro hall pubkey
    by_cases hadmin : pubkey ∈ inForce .admin (storedSnapshots snapshots)
    · rw [if_pos hadmin]
      exact (hshows.admins pubkey).mpr hadmin
    · rw [if_neg hadmin]
      by_cases hmember : pubkey ∈ inForce .member (storedSnapshots snapshots)
      · rw [if_pos hmember]
        exact (hshows.members pubkey).mpr (hall pubkey hmember hadmin)
      · rw [if_neg hmember]
        -- A pubkey that neither snapshot lists has no role left.
        cases hrole : (db.rosterAfter channelH snapshots).memberRole channelH pubkey with
        | none => rfl
        | some role =>
            rcases hshows.known pubkey role hrole with rfl | rfl
            · exact absurd ((hshows.admins pubkey).mp hrole) hadmin
            · have hlisted := listed_of_unpromoted hdistinct ((hshows.members pubkey).mp hrole)
              exact absurd hlisted.1 hmember

/-- An admin and a member, in the order in which the relay sends them. -/
theorem rosterConverges_iff_two :
    (Database.empty.rosterAfter "room"
      [⟨.admin, ["boss"], 5⟩, ⟨.member, ["boss", "aide"], 6⟩]).memberRole "room" "aide" =
        some "member" := by
  have hfresh : Database.empty.WithoutRoster "room" := ⟨fun _ => rfl, fun _ => rfl⟩
  have hdistinct : Distinct (storedSnapshots
      [⟨.admin, ["boss"], 5⟩, ⟨.member, ["boss", "aide"], 6⟩]) := by
    intro role
    cases role with
    | admin | member =>
        unfold Consistent
        decide
  have hroles := (rosterConverges_iff hfresh hdistinct).mpr (by
    intro pubkey hmember hadmin
    refine ⟨[⟨.admin, ["boss"], 5⟩], ⟨.member, ["boss", "aide"], 6⟩, [], by decide, rfl,
      by unfold NewestMembers; decide, hmember, ?_⟩
    intro elapsed helapsed
    rw [List.prefix_nil.mp helapsed]
    exact hadmin)
  exact (hroles "aide").trans (by decide)

/-- A member that was promoted and demoted again is forgotten. -/
theorem roster_forgets_member :
    ¬ ∀ (db : Database) (channelH : String) (snapshots : List RosterSnapshot),
      db.WithoutRoster channelH → Distinct (storedSnapshots snapshots) →
      ∀ pubkey, (db.rosterAfter channelH snapshots).memberRole channelH pubkey =
        if pubkey ∈ inForce .admin (storedSnapshots snapshots) then some "admin"
        else if pubkey ∈ inForce .member (storedSnapshots snapshots) then some "member"
        else none := by
  intro hclaim
  let snapshots : List RosterSnapshot :=
    [⟨.member, ["aide"], 1⟩, ⟨.admin, ["aide"], 2⟩, ⟨.admin, [], 3⟩]
  have hdistinct : Distinct (storedSnapshots snapshots) := by
    intro role
    cases role with
    | admin | member =>
        unfold Consistent
        decide
  have hrole := hclaim Database.empty "room" snapshots ⟨fun _ => rfl, fun _ => rfl⟩ hdistinct "aide"
  revert hrole
  decide

end Database

end Mosaico
