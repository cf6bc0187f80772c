import Mosaico.Fabric.Relay
import Mosaico.Register.Latest

/-!
# The status cache

Every session publishes what it is doing as a replaceable event, and the cache
keeps one row for a pubkey and a channel.  A lease renewal repeats the visible
fields of the row; it refreshes the row without advancing `updatedAt`, which is
the clock of the last visible change.

That clock is also what an arriving event is compared with.  The register that
keeps the newest event is therefore refined by the cache only as long as no event
arrives late that is older than the newest one but not older than the last
visible change.
-/

namespace Mosaico

open Relational Transition Register

/-! ## The cache -/

/-- A decoded status event.  One event reports a session in several channels. -/
structure StatusEvent where
  pubkey : String
  slug : String
  channels : List String
  title : String
  activity : String
  state : SessionState
  stateSince : Nat
  expiresAt : Option Nat
  deriving DecidableEq, Repr

namespace Status

/-- A visible field differs. -/
def Differs (row next : Status) : Prop :=
  row.slug ≠ next.slug ∨ row.title ≠ next.title ∨ row.activity ≠ next.activity ∨
    row.state ≠ next.state

instance (row next : Status) : Decidable (row.Differs next) :=
  inferInstanceAs (Decidable (_ ∨ _))

/-- `ON CONFLICT DO UPDATE … WHERE excluded.updated_at >= relay_status.updated_at`. -/
def merge (next row : Status) : Status :=
  if row.updatedAt ≤ next.updatedAt then
    { row with
      slug := next.slug
      title := next.title
      activity := next.activity
      state := next.state
      stateSince := next.stateSince
      lastSeen := next.lastSeen
      updatedAt := if row.Differs next then next.updatedAt else row.updatedAt
      expiration := next.expiration }
  else row

/-- The integers of the row fit a statement. -/
def Storable (status : Status) : Prop :=
  ∀ param ∈ [status.stateSince, status.lastSeen, status.updatedAt, status.expiration],
    param ≤ Rust.i64Max

instance (status : Status) : Decidable status.Storable :=
  inferInstanceAs (Decidable (∀ param ∈ _, param ≤ Rust.i64Max))

/-- The row of a key after an upsert of that key. -/
def receive (held : Option Status) (next : Status) : Option Status :=
  match held with
  | none => some next
  | some row => some (next.merge row)

/-- The row shows what the event reports. -/
structure Reports (row event : Status) : Prop where
  slug : row.slug = event.slug
  title : row.title = event.title
  activity : row.activity = event.activity
  state : row.state = event.state
  stateSince : row.stateSince = event.stateSince
  lastSeen : row.lastSeen = event.lastSeen
  expiration : row.expiration = event.expiration

theorem merge_key (next row : Status) : (next.merge row).key = row.key := by
  unfold merge
  split <;> rfl

end Status

namespace Database

def upsertStatus (db : Database) (status : Status) : Except StoreError (Unit × Database) := do
  bindParams [status.stateSince, status.lastSeen, status.updatedAt, status.expiration]
  return ((), { db with
    statuses := db.statuses.upsert status (fun row => status.merge row)
      (fun row => status.merge_key row) })

def getStatus (db : Database) (pubkey channelH : String) : Option Status :=
  db.statuses.find? (pubkey, channelH)

end Database

/-- The arrival of a status event.  `profileSlug` is the slug that the profile of the
pubkey gives at that moment, for events that carry none. -/
structure StatusDelivery where
  event : StatusEvent
  profileSlug : String
  createdAt : Nat
  deriving DecidableEq, Repr

/-- The row that the event asks for in a channel. -/
def StatusDelivery.row (delivery : StatusDelivery) (channelH : String) : Status where
  pubkey := delivery.event.pubkey
  channelH := channelH
  slug := if delivery.event.slug = "" then delivery.profileSlug else delivery.event.slug
  title := delivery.event.title
  activity := delivery.event.activity
  state := delivery.event.state
  stateSince := delivery.event.stateSince
  lastSeen := delivery.createdAt
  updatedAt := delivery.createdAt
  expiration := delivery.event.expiresAt.getD 0

/-- Materialize a status event, one row for each of its channels.  A failed upsert is
logged. -/
def Database.materializeStatus (db : Database) (delivery : StatusDelivery) : Database :=
  delivery.event.channels.foldl
    (fun db channelH => commit (db.upsertStatus (delivery.row channelH)) db) db

/-! ## One delivery -/

namespace Status

/-- Delivering an event twice in a row is delivering it once. -/
theorem receive_receive (held : Option Status) (next : Status) :
    receive (receive held next) next = receive held next := by
  cases held with
  | none =>
      simp [receive, merge, Differs]
  | some row =>
      simp only [receive, merge]
      by_cases haccepted : row.updatedAt ≤ next.updatedAt
      · simp [haccepted, Differs]
      · simp [haccepted]

end Status

namespace Database

theorem find?_upsertStatus (db : Database) (status : Status) (k : String × String) :
    (commit (db.upsertStatus status) db).statuses.find? k =
      if k = status.key ∧ status.Storable then Status.receive (db.statuses.find? k) status
      else db.statuses.find? k := by
  by_cases hstorable : status.Storable
  · have hbind : bindParams [status.stateSince, status.lastSeen, status.updatedAt,
        status.expiration] = .ok () := bindParams_eq_ok.mpr hstorable
    rw [upsertStatus, hbind]
    show (db.statuses.upsert status (fun row => status.merge row) _).find? k = _
    rw [Table.find?_upsert]
    by_cases hk : k = status.key
    · simp only [hk, hstorable, and_self, if_true]
      cases db.statuses.find? status.key with
      | none | some row => rfl
    · simp [hk]
  · have hbind := bindParams_eq_error hstorable
    rw [upsertStatus, hbind, if_neg (fun hboth => hstorable hboth.2)]
    rfl

theorem find?_materializeStatus (db : Database) (delivery : StatusDelivery) (channelH : String) :
    (db.materializeStatus delivery).statuses.find? (delivery.event.pubkey, channelH) =
      if channelH ∈ delivery.event.channels ∧ (delivery.row channelH).Storable then
        Status.receive (db.statuses.find? (delivery.event.pubkey, channelH))
          (delivery.row channelH)
      else db.statuses.find? (delivery.event.pubkey, channelH) := by
  rw [materializeStatus]
  induction delivery.event.channels generalizing db with
  | nil => simp
  | cons first rest ih =>
      rw [List.foldl_cons, ih, find?_upsertStatus]
      by_cases hfirst : channelH = first
      · subst hfirst
        by_cases hstorable : (delivery.row channelH).Storable
        · have hkey : (delivery.event.pubkey, channelH) = (delivery.row channelH).key := rfl
          simp only [hstorable, hkey, and_self, and_true, if_true, List.mem_cons, true_or]
          split
          · exact Status.receive_receive _ _
          · rfl
        · simp [hstorable]
      · have hkey : ¬ (delivery.event.pubkey, channelH) = (delivery.row first).key := by
          intro hsame
          exact hfirst (congrArg Prod.snd hsame)
        simp [hkey, hfirst]

end Database

/-! ## The register behind the cache -/

/-- The newest status and the time of the last visible change. -/
structure HeldStatus where
  status : Status
  clock : Nat
  deriving DecidableEq, Repr

namespace HeldStatus

/-- The register after a status: it keeps the newest one, and its clock moves when a
visible field does. -/
def receive (held : Option HeldStatus) (next : Status) : Option HeldStatus :=
  match held with
  | none => some ⟨next, next.updatedAt⟩
  | some current =>
      if current.status.updatedAt ≤ next.updatedAt then
        some ⟨next, if current.status.Differs next then next.updatedAt else current.clock⟩
      else held

/-- The row that shows the register. -/
def row (held : HeldStatus) : Status :=
  { held.status with updatedAt := held.clock }

/-- The status arrives late and is not older than the last visible change. -/
def Overtaken (held : Option HeldStatus) (next : Status) : Prop :=
  match held with
  | none => False
  | some current => next.updatedAt < current.status.updatedAt ∧ current.clock ≤ next.updatedAt

instance : ∀ held next, Decidable (Overtaken held next)
  | none, _ => inferInstanceAs (Decidable False)
  | some _, _ => inferInstanceAs (Decidable (_ ∧ _))

end HeldStatus

namespace HeldStatus

/-- The register keeps the latest status. -/
theorem receive_status (held : Option HeldStatus) (next : Status) :
    (receive held next).map HeldStatus.status =
      Register.replace Status.updatedAt (held.map HeldStatus.status) next := by
  cases held with
  | none => rfl
  | some current =>
      simp only [receive, Register.replace, Option.map_some]
      split <;> rfl

/-- The clock is never ahead of the newest status. -/
theorem receive_clock_le {held : Option HeldStatus} {next : Status}
    (hheld : ∀ current, held = some current → current.clock ≤ current.status.updatedAt) :
    ∀ current, receive held next = some current →
      current.clock ≤ current.status.updatedAt := by
  intro after hafter
  cases held with
  | none =>
      cases hafter
      exact Nat.le_refl _
  | some current =>
      have hclock := hheld current rfl
      simp only [receive] at hafter
      split at hafter
      · rename_i hnewer
        cases hafter
        show (if _ then _ else _) ≤ next.updatedAt
        split
        · exact Nat.le_refl _
        · omega
      · cases hafter
        exact hclock

/-- A status that is not overtaken does to the row what it does to the register. -/
theorem receive_row {held : Option HeldStatus} {next : Status}
    (hkey : ∀ current, held = some current → current.status.key = next.key)
    (hclock : ∀ current, held = some current → current.clock ≤ current.status.updatedAt)
    (hintime : ¬ Overtaken held next) :
    Status.receive (held.map row) next = (receive held next).map row := by
  cases held with
  | none => rfl
  | some current =>
      have hbound := hclock current rfl
      have hsame := hkey current rfl
      simp only [Status.key, Prod.mk.injEq] at hsame
      simp only [Overtaken, not_and, Nat.not_le] at hintime
      simp only [Status.receive, receive, Option.map_some]
      by_cases hnewer : current.status.updatedAt ≤ next.updatedAt
      · have haccepted : current.row.updatedAt ≤ next.updatedAt := by
          show current.clock ≤ next.updatedAt
          omega
        rw [Status.merge, if_pos haccepted, if_pos hnewer, Option.map_some]
        -- the columns of the key are the only ones the statement keeps
        obtain ⟨status, clock⟩ := current
        cases status
        cases next
        obtain ⟨rfl, rfl⟩ := hsame
        rfl
      · have hrejected : ¬ current.row.updatedAt ≤ next.updatedAt := by
          show ¬ current.clock ≤ next.updatedAt
          have := hintime (by omega)
          omega
        rw [Status.merge, if_neg hrejected, if_neg hnewer, Option.map_some]

end HeldStatus

/-- The register after the storable deliveries of a list. -/
def heldStatus (channelH : String) (deliveries : List StatusDelivery) : Option HeldStatus :=
  deliveries.foldl (fun held delivery =>
    if (delivery.row channelH).Storable then HeldStatus.receive held (delivery.row channelH)
    else held) none

theorem heldStatus_concat (channelH : String) (deliveries : List StatusDelivery)
    (delivery : StatusDelivery) :
    heldStatus channelH (deliveries ++ [delivery]) =
      if (delivery.row channelH).Storable then
        HeldStatus.receive (heldStatus channelH deliveries) (delivery.row channelH)
      else heldStatus channelH deliveries := by
  simp [heldStatus, List.foldl_append]

/-- The storable rows that the deliveries ask for. -/
def storableRows (channelH : String) (deliveries : List StatusDelivery) : List Status :=
  (deliveries.map (fun delivery => delivery.row channelH)).filter Status.Storable

theorem mem_storableRows {channelH : String} {deliveries : List StatusDelivery} {row : Status} :
    row ∈ storableRows channelH deliveries ↔
      ∃ delivery ∈ deliveries, delivery.row channelH = row ∧ row.Storable := by
  simp only [storableRows, List.mem_filter, List.mem_map, decide_eq_true_eq]
  constructor
  · rintro ⟨⟨delivery, hdelivery, rfl⟩, hstorable⟩
    exact ⟨delivery, hdelivery, rfl, hstorable⟩
  · rintro ⟨delivery, hdelivery, rfl, hstorable⟩
    exact ⟨⟨delivery, hdelivery, rfl⟩, hstorable⟩

theorem storableRows_concat (channelH : String) (deliveries : List StatusDelivery)
    (delivery : StatusDelivery) :
    storableRows channelH (deliveries ++ [delivery]) =
      if (delivery.row channelH).Storable then
        storableRows channelH deliveries ++ [delivery.row channelH]
      else storableRows channelH deliveries := by
  by_cases hstorable : (delivery.row channelH).Storable
  · simp [storableRows, hstorable]
  · simp [storableRows, hstorable]

/-- The register holds the latest of the storable rows. -/
theorem heldStatus_status (channelH : String) (deliveries : List StatusDelivery) :
    (heldStatus channelH deliveries).map HeldStatus.status =
      latest Status.updatedAt (storableRows channelH deliveries) := by
  induction deliveries using List.reverseRecOn with
  | nil => rfl
  | append_singleton earlier delivery ih =>
      rw [heldStatus_concat, storableRows_concat]
      split
      · rw [HeldStatus.receive_status, ih, latest_concat]
      · exact ih

theorem heldStatus_clock_le (channelH : String) (deliveries : List StatusDelivery) :
    ∀ current, heldStatus channelH deliveries = some current →
      current.clock ≤ current.status.updatedAt := by
  induction deliveries using List.reverseRecOn with
  | nil =>
      intro current hcurrent
      cases hcurrent
  | append_singleton earlier delivery ih =>
      rw [heldStatus_concat]
      split
      · exact HeldStatus.receive_clock_le ih
      · exact ih

/-! ## Runs of deliveries -/

/-- The row after a list of deliveries. -/
def statusAfter (db : Database) (pubkey channelH : String) (deliveries : List StatusDelivery) :
    Option Status :=
  (run Database.materializeStatus db deliveries).getStatus pubkey channelH

/-- No delivery is overtaken: one that is older than the newest delivery before it is
older than the last visible change as well. -/
def InTime (channelH : String) (deliveries : List StatusDelivery) : Prop :=
  ∀ before delivery after, deliveries = before ++ delivery :: after →
    (delivery.row channelH).Storable →
    ¬ HeldStatus.Overtaken (heldStatus channelH before) (delivery.row channelH)

theorem InTime.of_concat {channelH : String} {deliveries : List StatusDelivery}
    {last : StatusDelivery} (hintime : InTime channelH (deliveries ++ [last])) :
    InTime channelH deliveries := by
  intro before delivery after hsplit
  apply hintime before delivery (after ++ [last])
  rw [hsplit, List.append_assoc, List.cons_append]

theorem inTime_nil (channelH : String) : InTime channelH [] := by
  intro before delivery after hsplit
  simp at hsplit

theorem InTime.concat {channelH : String} {deliveries : List StatusDelivery}
    (hintime : InTime channelH deliveries) (last : StatusDelivery)
    (hlast : (last.row channelH).Storable →
      ¬ HeldStatus.Overtaken (heldStatus channelH deliveries) (last.row channelH)) :
    InTime channelH (deliveries ++ [last]) := by
  intro before delivery after hsplit
  rcases List.eq_nil_or_concat after with rfl | ⟨rest, final, rfl⟩
  · obtain ⟨rfl, hsame⟩ := List.append_inj' hsplit rfl
    cases hsame
    exact hlast
  · have hconcat : deliveries ++ [last] = (before ++ delivery :: rest) ++ [final] := by
      rw [hsplit, List.append_assoc, List.cons_append, List.concat_eq_append]
    exact hintime before delivery rest (List.append_inj' hconcat rfl).1

section Convergence

variable {db : Database} {pubkey channelH : String} {deliveries : List StatusDelivery}

theorem statusAfter_concat {delivery : StatusDelivery} (hpubkey : delivery.event.pubkey = pubkey)
    (hchannel : channelH ∈ delivery.event.channels) :
    statusAfter db pubkey channelH (deliveries ++ [delivery]) =
      if (delivery.row channelH).Storable then
        Status.receive (statusAfter db pubkey channelH deliveries) (delivery.row channelH)
      else statusAfter db pubkey channelH deliveries := by
  rw [statusAfter, run_append, run_cons, run_nil, Database.getStatus, ← hpubkey,
    Database.find?_materializeStatus]
  simp only [hchannel, true_and]
  rfl

/-- As long as no delivery is overtaken the cache shows the register. -/
theorem statusAfter_of_inTime (hfresh : db.getStatus pubkey channelH = none)
    (hown : ∀ delivery ∈ deliveries, delivery.event.pubkey = pubkey ∧
      channelH ∈ delivery.event.channels)
    (hintime : InTime channelH deliveries) :
    statusAfter db pubkey channelH deliveries =
      (heldStatus channelH deliveries).map HeldStatus.row := by
  induction deliveries using List.reverseRecOn with
  | nil => exact hfresh
  | append_singleton earlier delivery ih =>
      have hearlier : ∀ other ∈ earlier, other.event.pubkey = pubkey ∧
          channelH ∈ other.event.channels :=
        fun other hother => hown other (List.mem_append_left _ hother)
      obtain ⟨hpubkey, hchannel⟩ := hown delivery (by simp)
      rw [statusAfter_concat hpubkey hchannel, heldStatus_concat, ih hearlier hintime.of_concat]
      by_cases hstorable : (delivery.row channelH).Storable
      · rw [if_pos hstorable, if_pos hstorable]
        apply HeldStatus.receive_row
        · intro current hcurrent
          have hlatest : latest Status.updatedAt (storableRows channelH earlier) =
              some current.status := by
            rw [← heldStatus_status, hcurrent, Option.map_some]
          obtain ⟨other, hother, hrow, _⟩ := mem_storableRows.mp (mem_of_latest hlatest)
          rw [← hrow, Status.key, Status.key]
          show (other.event.pubkey, channelH) = (delivery.event.pubkey, channelH)
          rw [(hearlier other hother).1, hpubkey]
        · exact heldStatus_clock_le channelH earlier
        · exact hintime earlier delivery [] rfl hstorable
      · rw [if_neg hstorable, if_neg hstorable]

/-- An event that arrives after a newer one leaves the row as it is. -/
def LateIgnored (db : Database) (pubkey channelH : String) (deliveries : List StatusDelivery) :
    Prop :=
  ∀ before delivery after, deliveries = before ++ delivery :: after →
    (delivery.row channelH).Storable →
    (∃ newer ∈ before, (newer.row channelH).Storable ∧ delivery.createdAt < newer.createdAt) →
    statusAfter db pubkey channelH (before ++ [delivery]) =
      statusAfter db pubkey channelH before

/-- The row reports the newest event. -/
def NewestShown (db : Database) (pubkey channelH : String) (deliveries : List StatusDelivery) :
    Prop :=
  ∀ newest ∈ deliveries, (newest.row channelH).Storable →
    (∀ delivery ∈ deliveries, (delivery.row channelH).Storable →
      delivery.createdAt ≤ newest.createdAt) →
    ∃ row, statusAfter db pubkey channelH deliveries = some row ∧
      row.Reports (newest.row channelH)

theorem LateIgnored.of_concat {last : StatusDelivery}
    (hlate : LateIgnored db pubkey channelH (deliveries ++ [last])) :
    LateIgnored db pubkey channelH deliveries := by
  intro before delivery after hsplit
  apply hlate before delivery (after ++ [last])
  rw [hsplit, List.append_assoc, List.cons_append]

/-- A newer delivery is held, or one that is newer still. -/
theorem exists_held_of_newer {newer : StatusDelivery} (hnewer : newer ∈ deliveries)
    (hstorable : (newer.row channelH).Storable) :
    ∃ held, heldStatus channelH deliveries = some held ∧
      newer.createdAt ≤ held.status.updatedAt := by
  have hrow : newer.row channelH ∈ storableRows channelH deliveries :=
    mem_storableRows.mpr ⟨newer, hnewer, rfl, hstorable⟩
  have hstatus := heldStatus_status channelH deliveries
  cases hheld : heldStatus channelH deliveries with
  | none =>
      rw [hheld, Option.map_none] at hstatus
      rw [latest_eq_none_iff.mp hstatus.symm] at hrow
      cases hrow
  | some held =>
      rw [hheld, Option.map_some] at hstatus
      exact ⟨held, rfl, le_of_latest hstatus.symm _ hrow⟩

theorem lateIgnored_of_inTime (hfresh : db.getStatus pubkey channelH = none)
    (hown : ∀ delivery ∈ deliveries, delivery.event.pubkey = pubkey ∧
      channelH ∈ delivery.event.channels)
    (hintime : InTime channelH deliveries) : LateIgnored db pubkey channelH deliveries := by
  rintro before delivery after rfl hstorable ⟨newer, hnewer, hnewerStorable, hlater⟩
  obtain ⟨hpubkey, hchannel⟩ := hown delivery (by simp)
  have hbefore : ∀ other ∈ before, other.event.pubkey = pubkey ∧ channelH ∈ other.event.channels :=
    fun other hother => hown other (List.mem_append_left _ hother)
  have hprefix : InTime channelH before := by
    rintro earlier other rest rfl
    exact hintime earlier other (rest ++ delivery :: after) (by simp)
  obtain ⟨held, hheld, hbound⟩ := exists_held_of_newer hnewer hnewerStorable
  have hovertaken := hintime before delivery after rfl hstorable
  rw [hheld] at hovertaken
  have hclock : delivery.createdAt < held.clock := by
    by_contra hnot
    apply hovertaken
    show delivery.createdAt < held.status.updatedAt ∧ held.clock ≤ delivery.createdAt
    omega
  have hrejected : ¬ held.row.updatedAt ≤ (delivery.row channelH).updatedAt := by
    show ¬ held.clock ≤ delivery.createdAt
    omega
  rw [statusAfter_concat hpubkey hchannel, if_pos hstorable,
    statusAfter_of_inTime hfresh hbefore hprefix, hheld, Option.map_some, Status.receive,
    Status.merge, if_neg hrejected]

/-- A delivery that is overtaken is accepted, and the row loses the newer event. -/
theorem inTime_of_lateIgnored (hfresh : db.getStatus pubkey channelH = none)
    (hown : ∀ delivery ∈ deliveries, delivery.event.pubkey = pubkey ∧
      channelH ∈ delivery.event.channels)
    (hlate : LateIgnored db pubkey channelH deliveries) : InTime channelH deliveries := by
  induction deliveries using List.reverseRecOn with
  | nil =>
      intro before delivery after hsplit
      simp at hsplit
  | append_singleton earlier last ih =>
      have hearlier : ∀ other ∈ earlier, other.event.pubkey = pubkey ∧
          channelH ∈ other.event.channels :=
        fun other hother => hown other (List.mem_append_left _ hother)
      have hprefix := ih hearlier hlate.of_concat
      apply hprefix.concat last
      intro hstorable hovertaken
      obtain ⟨hpubkey, hchannel⟩ := hown last (by simp)
      have hstatus := heldStatus_status channelH earlier
      cases hheld : heldStatus channelH earlier with
      | none =>
          rw [hheld] at hovertaken
          exact hovertaken
      | some held =>
          rw [hheld] at hovertaken hstatus
          have hnewer : last.createdAt < held.status.updatedAt := hovertaken.1
          have haccepted : held.row.updatedAt ≤ (last.row channelH).updatedAt := hovertaken.2
          obtain ⟨newer, hmem, hrow, hnewerStorable⟩ :=
            mem_storableRows.mp (mem_of_latest hstatus.symm)
          have htime : newer.createdAt = held.status.updatedAt := congrArg Status.updatedAt hrow
          have hsame := hlate earlier last [] rfl hstorable
            ⟨newer, hmem, hrow ▸ hnewerStorable, by omega⟩
          rw [statusAfter_concat hpubkey hchannel, if_pos hstorable,
            statusAfter_of_inTime hfresh hearlier hprefix, hheld, Option.map_some,
            Status.receive, Status.merge, if_pos haccepted, Option.some.injEq] at hsame
          -- the accepted row was seen when the late event was created
          have hseen : last.createdAt = held.status.lastSeen := congrArg Status.lastSeen hsame
          have hheldSeen : newer.createdAt = held.status.lastSeen := congrArg Status.lastSeen hrow
          omega

theorem newestShown_of_inTime (hfresh : db.getStatus pubkey channelH = none)
    (hown : ∀ delivery ∈ deliveries, delivery.event.pubkey = pubkey ∧
      channelH ∈ delivery.event.channels)
    (hconsistent : Consistent Status.updatedAt (storableRows channelH deliveries))
    (hintime : InTime channelH deliveries) : NewestShown db pubkey channelH deliveries := by
  intro newest hnewest hstorable hmax
  have hlatest : latest Status.updatedAt (storableRows channelH deliveries) =
      some (newest.row channelH) := by
    rw [latest_eq_some_iff hconsistent]
    refine ⟨mem_storableRows.mpr ⟨newest, hnewest, rfl, hstorable⟩, ?_⟩
    intro row hrow
    obtain ⟨delivery, hdelivery, rfl, hrowStorable⟩ := mem_storableRows.mp hrow
    exact hmax delivery hdelivery hrowStorable
  rw [← heldStatus_status, Option.map_eq_some_iff] at hlatest
  obtain ⟨held, hheld, hstatus⟩ := hlatest
  refine ⟨held.row, ?_, ?_⟩
  · rw [statusAfter_of_inTime hfresh hown hintime, hheld, Option.map_some]
  · rw [← hstatus]
    exact ⟨rfl, rfl, rfl, rfl, rfl, rfl, rfl⟩

/-- Last write wins exactly for the arrival orders in which no event is overtaken. -/
theorem statusLastWriteWins_iff (hfresh : db.getStatus pubkey channelH = none)
    (hown : ∀ delivery ∈ deliveries, delivery.event.pubkey = pubkey ∧
      channelH ∈ delivery.event.channels)
    (hconsistent : Consistent Status.updatedAt (storableRows channelH deliveries)) :
    (LateIgnored db pubkey channelH deliveries ∧ NewestShown db pubkey channelH deliveries) ↔
      InTime channelH deliveries := by
  constructor
  · rintro ⟨hlate, _⟩
    exact inTime_of_lateIgnored hfresh hown hlate
  · intro hintime
    exact ⟨lateIgnored_of_inTime hfresh hown hintime,
      newestShown_of_inTime hfresh hown hconsistent hintime⟩

end Convergence

/-- A status of the session `agent` in `room`. -/
def statusDelivery (activity : String) (createdAt : Nat) : StatusDelivery where
  event :=
    { pubkey := "agent"
      slug := "agent"
      channels := ["room"]
      title := "Task"
      activity := activity
      state := .working
      stateSince := 1
      expiresAt := some (createdAt + 100) }
  profileSlug := ""
  createdAt := createdAt

/-- A newer activity overwrites, and a late event from before that change is dropped. -/
def overwrittenDeliveries : List StatusDelivery :=
  [statusDelivery "reading" 100, statusDelivery "writing" 200, statusDelivery "waiting" 150]

theorem statusLastWriteWins_iff_overwritten :
    LateIgnored Database.empty "agent" "room" overwrittenDeliveries ∧
      NewestShown Database.empty "agent" "room" overwrittenDeliveries := by
  have hintime : InTime "room" overwrittenDeliveries :=
    (((inTime_nil "room").concat (statusDelivery "reading" 100) (by decide)).concat
      (statusDelivery "writing" 200) (by decide)).concat (statusDelivery "waiting" 150) (by decide)
  have hconsistent : Consistent Status.updatedAt
      (storableRows "room" overwrittenDeliveries) := by
    unfold Consistent
    decide
  exact (statusLastWriteWins_iff rfl (by decide) hconsistent).mpr hintime

/-- A lease renewal that overtakes an event loses to it: the row goes back to the
older activity. -/
theorem status_older_wins :
    ¬ ∀ (db : Database) (pubkey channelH : String) (deliveries : List StatusDelivery),
      db.getStatus pubkey channelH = none →
      (∀ delivery ∈ deliveries, delivery.event.pubkey = pubkey ∧
        channelH ∈ delivery.event.channels) →
      Consistent Status.updatedAt (storableRows channelH deliveries) →
      LateIgnored db pubkey channelH deliveries ∧
        NewestShown db pubkey channelH deliveries := by
  intro hclaim
  let deliveries := [statusDelivery "reading" 100, statusDelivery "reading" 200,
    statusDelivery "writing" 150]
  have hconsistent : Consistent Status.updatedAt (storableRows "room" deliveries) := by
    unfold Consistent
    decide
  have hshown := (hclaim Database.empty "agent" "room" deliveries rfl (by decide) hconsistent).2
    (statusDelivery "reading" 200) (by decide) (by decide) (by decide)
  obtain ⟨row, hrow, hreports⟩ := hshown
  have hactivity : (statusAfter Database.empty "agent" "room" deliveries).map Status.activity =
      some "writing" := by decide
  rw [hrow, Option.map_some, hreports.activity] at hactivity
  revert hactivity
  decide

end Mosaico
