import Mosaico.Fabric.Hydration

/-!
# Chats before or after their roster

Chats of a channel that come before its roster wait in the quarantine, chats
that come after it are admitted at once.  Either way the four tables end the
same, except for the recipients of a chat whose `created_at` the database cannot
store.

Over whole runs the admission is safe: a step writes a cell only for a chat whose
author is in the roster at that moment, and under a complete roster no chat of
the channel is left in the quarantine.
-/

namespace Mosaico

open Relational Transition

namespace Intake

/-! ## The two orders -/

/-- The chats come first, wait in the quarantine and are replayed. -/
def chatsFirst {json : WireJson} {deliveries : Deliveries json} (intake : Intake)
    (channelH : String) (snapshot : RosterSnapshot) (arrivals : List (Arrival deliveries)) :
    Intake :=
  hydrate json (run receive intake arrivals) channelH snapshot

/-- The roster comes first, and the chats are admitted at once. -/
def rosterFirst {json : WireJson} {deliveries : Deliveries json} (intake : Intake)
    (channelH : String) (snapshot : RosterSnapshot) (arrivals : List (Arrival deliveries)) :
    Intake :=
  run receive (hydrate json intake channelH snapshot) arrivals

/-- The pubkey is in the roster once the snapshot is in: it is listed, or it holds the
other role. -/
def JoinsRoster (db : Database) (channelH : String) (snapshot : RosterSnapshot)
    (pubkey : String) : Prop :=
  pubkey ∈ snapshot.pubkeys ∨
    (Database.keptRole (db.memberRole channelH pubkey) snapshot.role).isSome = true

/-- The direct path records the recipient of a chat that the database cannot store. -/
def RecordsUnstored (intake : Intake) (channelH : String) (snapshot : RosterSnapshot)
    (event : Event) (pubkey : String) : Prop :=
  Rust.i64Max < event.createdAt ∧ JoinsRoster intake.db channelH snapshot event.pubkey ∧
    pubkey ∈ collectPPubkeys event ∧ Routed intake.db.store event channelH pubkey

section Orders

variable {json : WireJson} {deliveries : Deliveries json} {intake : Intake}
  {channelH : String} {snapshot : RosterSnapshot} {arrivals : List (Arrival deliveries)}

/-- Chats without a roster change the quarantine only. -/
theorem receive_waits (hnot : ¬ Hydrated intake.db channelH)
    (hof : ∀ arrival ∈ arrivals, OfChannel channelH arrival.event)
    (hheld : intake.quarantine.All (Kept deliveries)) :
    (run receive intake arrivals).db = intake.db ∧
      SameTables (run receive intake arrivals) intake ∧
      (run receive intake arrivals).quarantine.All (Kept deliveries) ∧
      ∀ k, ((run receive intake arrivals).quarantine.find? k).isSome = true ↔
        (intake.quarantine.find? k).isSome = true ∨
          ∃ arrival ∈ arrivals, k = arrival.event.id ∧ arrival.event.createdAt ≤ Rust.i64Max := by
  induction arrivals generalizing intake with
  | nil => simp [hheld, SameTables.refl]
  | cons arrival rest ih =>
      have hfirst := hof arrival List.mem_cons_self
      have hstep := receive_unhydrated hnot hfirst
      have hdb : (receive intake arrival).db = intake.db := by
        rw [hstep]
        exact quarantineChat_db json intake arrival.event _ arrival.now
      have hsame : SameTables (receive intake arrival) intake := by
        rw [hstep]
        exact quarantineChat_sameTables _
      have hkept : (receive intake arrival).quarantine.All (Kept deliveries) := by
        rw [hstep]
        exact quarantineChat_kept arrival.verified hfirst _ hheld
      have hrows : ∀ k, ((receive intake arrival).quarantine.find? k).isSome =
          if k = arrival.event.id ∧ arrival.event.createdAt ≤ Rust.i64Max then true
          else (intake.quarantine.find? k).isSome := by
        intro k
        rw [hstep]
        exact find?_quarantineChat arrival.verified arrival.clock _ k
      obtain ⟨hdbRest, hsameRest, hkeptRest, hrowsRest⟩ := ih (hdb.symm ▸ hnot)
        (fun later hlater => hof later (List.mem_cons_of_mem arrival hlater)) hkept
      refine ⟨hdbRest.trans hdb, hsameRest.trans hsame, hkeptRest, ?_⟩
      intro k
      rw [run_cons, hrowsRest, hrows]
      by_cases hhit : k = arrival.event.id ∧ arrival.event.createdAt ≤ Rust.i64Max
      · simp [hhit]
      · simp [hhit]

/-- The roster that a snapshot completes. -/
theorem admitted_rostered_iff (hnot : ¬ Hydrated intake.db channelH)
    (hhydrated : Hydrated (intake.rostered channelH snapshot).db channelH) (event : Event) :
    Admitted (intake.rostered channelH snapshot).db channelH event ↔
      JoinsRoster intake.db channelH snapshot event.pubkey := by
  have hchanged : intake.db.materializeRoster channelH snapshot ≠ intake.db := by
    intro heq
    apply hnot
    have hcomplete := hhydrated
    rw [rostered, heq] at hcomplete
    exact hcomplete
  have hbound : snapshot.updatedAt ≤ Rust.i64Max := by
    by_contra hunstorable
    exact hchanged (Database.materializeRoster_of_unstorable hunstorable)
  have hnewer : ∀ seen, intake.db.memberSetTime channelH snapshot.role = some seen →
      seen ≤ snapshot.updatedAt := by
    intro seen hseen
    by_contra holder
    exact hchanged (Database.materializeRoster_of_older hseen (by omega))
  have hrole := (Database.materializeRoster_of_newer hbound hnewer).2 event.pubkey
  have hmember : Admitted (intake.rostered channelH snapshot).db channelH event ↔
      ((intake.rostered channelH snapshot).db.memberRole channelH event.pubkey).isSome = true := by
    rw [Admitted, Database.isChannelMember, Database.memberRole, Option.isSome_map]
  rw [hmember, rostered, hrole, JoinsRoster]
  by_cases hlisted : event.pubkey ∈ snapshot.pubkeys
  · rw [if_pos hlisted]
    cases snapshot.role with
    | admin | member => simp [hlisted]
  · rw [if_neg hlisted]
    simp [hlisted]

/-- The chats that end up admitted are the same, apart from those that cannot be stored. -/
theorem mem_waiting_receive_iff (hnot : ¬ Hydrated intake.db channelH)
    (hof : ∀ arrival ∈ arrivals, OfChannel channelH arrival.event)
    (hheld : intake.quarantine.All (Kept deliveries)) (event : Event) :
    event ∈ (run receive intake arrivals).waiting json channelH ↔
      event ∈ intake.waiting json channelH ++ arrivals.map Arrival.event ∧
        event.createdAt ≤ Rust.i64Max := by
  obtain ⟨-, -, hkept, hrows⟩ := receive_waits hnot hof hheld
  rw [mem_waiting_iff hkept, hrows, List.mem_append, mem_waiting_iff hheld, List.mem_map]
  constructor
  · intro hwaits
    obtain ⟨hverified, hchannel, hbound, hbefore | ⟨arrival, harrival, hid, -⟩⟩ := hwaits
    · exact ⟨.inl ⟨hverified, hchannel, hbound, hbefore⟩, hbound⟩
    · have heq : event = arrival.event :=
        deliveries.eq_of_id event arrival.event hverified arrival.verified hid
      exact ⟨.inr ⟨arrival, harrival, heq.symm⟩, hbound⟩
  · intro hadmitted
    obtain ⟨⟨hverified, hchannel, -, hbefore⟩ | ⟨arrival, harrival, rfl⟩, hbound⟩ := hadmitted
    · exact ⟨hverified, hchannel, hbound, .inl hbefore⟩
    · exact ⟨arrival.verified, hof arrival harrival, hbound, .inr ⟨arrival, harrival, rfl, hbound⟩⟩

/-! ## Agreement of the orders -/

theorem chatsFirst_admits (hnot : ¬ Hydrated intake.db channelH)
    (hhydrated : Hydrated (intake.rostered channelH snapshot).db channelH)
    (hof : ∀ arrival ∈ arrivals, OfChannel channelH arrival.event)
    (hheld : intake.quarantine.All (Kept deliveries)) :
    Admits json (intake.rostered channelH snapshot).db channelH
      ((run receive intake arrivals).waiting json channelH) intake
      (chatsFirst intake channelH snapshot arrivals) := by
  obtain ⟨hdb, hsame, hkept, -⟩ := receive_waits hnot hof hheld
  have hroster : ((run receive intake arrivals).rostered channelH snapshot).db =
      (intake.rostered channelH snapshot).db := by
    rw [rostered, rostered, hdb]
  have hbefore : SameTables ((run receive intake arrivals).rostered channelH snapshot) intake :=
    (rostered_sameTables (run receive intake arrivals) channelH snapshot).1.trans hsame
  have hreplay := @hydrate_admits json deliveries (run receive intake arrivals) channelH snapshot hkept
    (hroster.symm ▸ hhydrated)
  rw [hroster] at hreplay
  exact (Admits.of_same hbefore).append hreplay (fun _ hleft => absurd hleft List.not_mem_nil)

theorem rosterFirst_admits
    (hhydrated : Hydrated (intake.rostered channelH snapshot).db channelH)
    (hof : ∀ arrival ∈ arrivals, OfChannel channelH arrival.event)
    (hheld : intake.quarantine.All (Kept deliveries)) :
    Admits json (intake.rostered channelH snapshot).db channelH
      (intake.waiting json channelH ++ arrivals.map Arrival.event) intake
      (rosterFirst intake channelH snapshot arrivals) := by
  have hreplay := hydrate_admits hheld hhydrated
  have hreceive : Admits json (intake.rostered channelH snapshot).db channelH
      (arrivals.filterMap (fun arrival => some arrival.event))
      (hydrate json intake channelH snapshot) (rosterFirst intake channelH snapshot arrivals) := by
    refine @Admits.fold json deliveries (intake.rostered channelH snapshot) channelH _ _ receive id
      _ arrivals (hydrate json intake channelH snapshot) ?_ ?_ hydrate_undisturbed
    · intro state arrival
      exact materializeKindChat_undisturbed json state arrival.event arrival.now
    · intro arrival harrival
      exact ⟨arrival.event, rfl, arrival.verified,
        fun state hkept => receive_admits hkept hhydrated (hof arrival harrival)⟩
  have hmap : arrivals.filterMap (fun arrival => some arrival.event) =
      arrivals.map Arrival.event := congrFun List.filterMap_eq_map arrivals
  rw [hmap] at hreceive
  have hstart : Admits json (intake.rostered channelH snapshot).db channelH
      (intake.waiting json channelH) intake (hydrate json intake channelH snapshot) :=
    (Admits.of_same (rostered_sameTables intake channelH snapshot).1).append hreplay
      (fun _ hleft => absurd hleft List.not_mem_nil)
  refine hstart.append hreceive ?_
  intro left hleft right hright hid
  obtain ⟨arrival, -, rfl⟩ := List.mem_map.mp hright
  have hverified := ((mem_waiting_iff hheld left).mp hleft).1
  exact deliveries.eq_of_id left arrival.event hverified arrival.verified hid

/-- A cell whose writers can all be stored is the same in both orders. -/
theorem wrote_eq {α : Type} {hits : Event → Prop} {write : Event → α → α}
    {before left right : α} (hnot : ¬ Hydrated intake.db channelH)
    (hof : ∀ arrival ∈ arrivals, OfChannel channelH arrival.event)
    (hheld : intake.quarantine.All (Kept deliveries))
    (hleft : Wrote hits write ((run receive intake arrivals).waiting json channelH) before left)
    (hright : Wrote hits write (intake.waiting json channelH ++ arrivals.map Arrival.event) before
      right)
    (hstored : ∀ event ∈ arrivals.map Arrival.event, hits event →
      event.createdAt ≤ Rust.i64Max) : left = right := by
  refine hleft.congr hright ?_
  intro event hhits
  rw [mem_waiting_receive_iff hnot hof hheld]
  constructor
  · exact And.left
  · intro hmem
    refine ⟨hmem, ?_⟩
    rcases List.mem_append.mp hmem with hwaiting | harrived
    · exact ((mem_waiting_iff hheld event).mp hwaiting).2.2.1
    · exact hstored event harrived hhits

/-- The orders agree exactly if every recipient that only the direct path records was
recorded before. -/
theorem sameRows_iff (hnot : ¬ Hydrated intake.db channelH)
    (hhydrated : Hydrated (intake.rostered channelH snapshot).db channelH)
    (hof : ∀ arrival ∈ arrivals, OfChannel channelH arrival.event)
    (hheld : intake.quarantine.All (Kept deliveries)) :
    SameRows (chatsFirst intake channelH snapshot arrivals)
        (rosterFirst intake channelH snapshot arrivals) ↔
      ∀ arrival ∈ arrivals, ∀ pubkey,
        RecordsUnstored intake channelH snapshot arrival.event pubkey →
          (intake.messageRecipients.find? (arrival.event.id, pubkey)).isSome = true := by
  have hleft := chatsFirst_admits hnot hhydrated hof hheld
  have hright := rosterFirst_admits hhydrated hof hheld
  have hroster := admitted_rostered_iff hnot hhydrated
  have hstore := (rostered_sameTables intake channelH snapshot).2
  -- a chat that cannot be stored never waits, nor does another chat with its id
  have habsent : ∀ arrival ∈ arrivals, Rust.i64Max < arrival.event.createdAt →
      ∀ event ∈ (run receive intake arrivals).waiting json channelH,
        event.id ≠ arrival.event.id := by
    intro arrival _ hunstored event hwaiting hid
    obtain ⟨-, -, hkept, -⟩ := receive_waits hnot hof hheld
    obtain ⟨hverified, -, hbound, -⟩ := (mem_waiting_iff hkept event).mp hwaiting
    have heq := deliveries.eq_of_id event arrival.event hverified arrival.verified hid
    rw [heq] at hbound
    omega
  have hlost : ∀ arrival ∈ arrivals, Rust.i64Max < arrival.event.createdAt → ∀ pubkey,
      (chatsFirst intake channelH snapshot arrivals).messageRecipients.find?
          (arrival.event.id, pubkey) =
        intake.messageRecipients.find? (arrival.event.id, pubkey) := by
    intro arrival harrival hunstored pubkey
    apply (hleft.recipients (arrival.event.id, pubkey)).2
    intro event hwaiting hhit
    exact habsent arrival harrival hunstored event hwaiting hhit.2.1.symm
  constructor
  · intro hsame arrival harrival pubkey hrecords
    obtain ⟨hunstored, hjoins, hmentioned, hrouted⟩ := hrecords
    have haddressed : Addresses (intake.rostered channelH snapshot).db channelH
        (arrival.event.id, pubkey) arrival.event :=
      ⟨(hroster arrival.event).mpr hjoins, rfl, hmentioned, .inr (hstore.symm ▸ hrouted)⟩
    have hrecorded := (hright.recipients (arrival.event.id, pubkey)).1 arrival.event
      (List.mem_append_right _ (List.mem_map_of_mem harrival)) haddressed
    have hsameRow := hsame.messageRecipients (arrival.event.id, pubkey)
    rw [hlost arrival harrival hunstored, hrecorded] at hsameRow
    rw [hsameRow]
    rfl
  · intro hcovered
    constructor
    · intro k
      exact wrote_eq hnot hof hheld (hleft.events k) (hright.events k)
        (fun event _ hhit => hhit.2.2)
    · intro k
      exact wrote_eq hnot hof hheld (hleft.messages k) (hright.messages k)
        (fun event _ hhit => hhit.2.2)
    · intro k
      by_cases hunstored : ∃ arrival ∈ arrivals, Rust.i64Max < arrival.event.createdAt ∧
          Addresses (intake.rostered channelH snapshot).db channelH k arrival.event
      · -- the cell was written before, so the direct path leaves it as it is
        obtain ⟨arrival, harrival, hbeyond, haddressed⟩ := hunstored
        have hrecorded := (hright.recipients k).1 arrival.event
          (List.mem_append_right _ (List.mem_map_of_mem harrival)) haddressed
        obtain ⟨hadmitted, hid, hmentioned, hbound | hrouted⟩ := haddressed
        · omega
        · have hkey : k = (arrival.event.id, k.2) := Prod.ext hid rfl
          have hbefore := hcovered arrival harrival k.2
            ⟨hbeyond, (hroster arrival.event).mp hadmitted, hmentioned, hstore ▸ hrouted⟩
          rw [← hkey] at hbefore
          obtain ⟨row, hrow⟩ := Option.isSome_iff_exists.mp hbefore
          have hleftRow := hlost arrival harrival hbeyond k.2
          rw [← hkey] at hleftRow
          rw [hleftRow, hrecorded, hrow]
          rfl
      · refine wrote_eq hnot hof hheld (hleft.recipients k) (hright.recipients k) ?_
        intro event harrived hhit
        obtain ⟨arrival, harrival, rfl⟩ := List.mem_map.mp harrived
        by_contra hbeyond
        exact hunstored ⟨arrival, harrival, by omega, hhit⟩
    · intro k
      exact wrote_eq hnot hof hheld (hleft.inbox k) (hright.inbox k)
        (fun event _ hhit => hhit.2.2.2.2)

end Orders

/-! ## Runs -/

/-- A chat or a roster of the relay, or whatever else the daemon does to its tables. -/
inductive IntakeStep {json : WireJson} (deliveries : Deliveries json) where
  | chat (arrival : Arrival deliveries)
  | roster (channelH : String) (snapshot : RosterSnapshot)
  /-- Sessions, routes and rows change; the rosters and the quarantine do not. -/
  | elsewhere (tables : Intake)

def intakeStep {json : WireJson} {deliveries : Deliveries json} (intake : Intake) :
    IntakeStep deliveries → Intake
  | .chat arrival => receive intake arrival
  | .roster channelH snapshot => hydrate json intake channelH snapshot
  | .elsewhere tables => { tables with
      db := { tables.db with
        channelMembers := intake.db.channelMembers
        channelMemberSets := intake.db.channelMemberSets }
      quarantine := intake.quarantine }

/-- What every run keeps of the quarantine: its rows are chats, and none of them belongs to
a channel with a complete roster. -/
structure Sound {json : WireJson} (deliveries : Deliveries json) (intake : Intake) : Prop where
  kept : intake.quarantine.All (Kept deliveries)
  drained : intake.quarantine.All (fun row => ¬ Hydrated intake.db row.channelH)

/-- A row of the four tables under the id is new or has changed. -/
def Enters (before after : Intake) (id : String) : Prop :=
  after.db.events.find? id ≠ before.db.events.find? id ∨
    after.messages.find? id ≠ before.messages.find? id ∨
    (∃ recipient, after.messageRecipients.find? (id, recipient) ≠
      before.messageRecipients.find? (id, recipient)) ∨
    ∃ target, after.db.store.inbox.find? (id, target) ≠ before.db.store.inbox.find? (id, target)

section Runs

variable {json : WireJson} {deliveries : Deliveries json} {intake : Intake}

theorem step_sound (step : IntakeStep deliveries) (hsound : Sound deliveries intake) :
    Sound deliveries (intakeStep intake step) := by
  cases step with
  | chat arrival =>
      obtain ⟨channelH, hof⟩ := arrival.isChat
      have hkept : Undisturbed intake (receive intake arrival) :=
        materializeKindChat_undisturbed json intake arrival.event arrival.now
      have hrosters : ∀ other, Hydrated (receive intake arrival).db other ↔
          Hydrated intake.db other := hkept.hydrated_iff
      have hrows : (receive intake arrival).quarantine.All (Kept deliveries) ∧
          (receive intake arrival).quarantine.All (fun row => ¬ Hydrated intake.db row.channelH) := by
        by_cases hhydrated : Hydrated intake.db channelH
        · rw [receive_quarantine hhydrated hof]
          exact ⟨fun row hrow => hsound.kept row (Table.mem_of_mem_deleteWhere hrow),
            fun row hrow => hsound.drained row (Table.mem_of_mem_deleteWhere hrow)⟩
        · rw [receive_unhydrated hhydrated hof]
          exact ⟨quarantineChat_kept arrival.verified hof _ hsound.kept,
            quarantineChat_channels (P := fun other => ¬ Hydrated intake.db other) hof _
              hsound.drained hhydrated⟩
      refine ⟨hrows.1, ?_⟩
      intro row hrow hcomplete
      exact hrows.2 row hrow ((hrosters row.channelH).mp hcomplete)
  | roster channelH snapshot =>
      have hrosters : ∀ other, Hydrated (hydrate json intake channelH snapshot).db other ↔
          Hydrated (intake.rostered channelH snapshot).db other := hydrate_undisturbed.hydrated_iff
      constructor
      · intro row hrow
        exact hsound.kept row (hydrate_quarantine hsound.kept hrow).1
      · intro row hrow hcomplete
        obtain ⟨hbefore, hother⟩ := hydrate_quarantine hsound.kept hrow
        have hrostered := (hrosters row.channelH).mp hcomplete
        by_cases hchannel : row.channelH = channelH
        · exact hother (hchannel ▸ hrostered) hchannel
        · exact hsound.drained row hbefore ((rostered_hydrated_iff hchannel).mp hrostered)
  | elsewhere tables =>
      exact ⟨hsound.kept, hsound.drained⟩

theorem run_sound (steps : List (IntakeStep deliveries)) (hsound : Sound deliveries intake) :
    Sound deliveries (run intakeStep intake steps) :=
  run_invariant hsound (fun _ step hcurrent => step_sound step hcurrent) steps

/-- The cells that an admission writes belong to an admitted chat. -/
theorem Admits.exists_admitted {db : Database} {channelH : String} {chats : List Event}
    {before after : Intake} (hadmits : Admits json db channelH chats before after) {id : String}
    (henters : Enters before after id) :
    ∃ event ∈ chats, event.id = id ∧ Admitted db channelH event := by
  rcases henters with hevent | hmessage | ⟨recipient, hrecipient⟩ | ⟨target, hinbox⟩
  · obtain ⟨event, hmem, hadmitted, hid, -⟩ := (hadmits.events id).exists_hit hevent
    exact ⟨event, hmem, hid.symm, hadmitted⟩
  · obtain ⟨event, hmem, hadmitted, hid, -⟩ := (hadmits.messages id).exists_hit hmessage
    exact ⟨event, hmem, hid.symm, hadmitted⟩
  · obtain ⟨event, hmem, hadmitted, hid, -⟩ :=
      (hadmits.recipients (id, recipient)).exists_hit hrecipient
    exact ⟨event, hmem, hid.symm, hadmitted⟩
  · obtain ⟨event, hmem, hadmitted, hid, -⟩ := (hadmits.inbox (id, target)).exists_hit hinbox
    exact ⟨event, hmem, hid.symm, hadmitted⟩

theorem SameTables.not_enters {before after : Intake} (hsame : SameTables after before)
    (id : String) : ¬ Enters before after id := by
  intro henters
  rcases henters with hevent | hmessage | ⟨recipient, hrecipient⟩ | ⟨target, hinbox⟩
  · exact hevent (by rw [hsame.events])
  · exact hmessage (by rw [hsame.messages])
  · exact hrecipient (by rw [hsame.recipients])
  · exact hinbox (by rw [hsame.inbox])

/-- The chat is admitted: the roster of its channel is complete and has its author. -/
def AdmittedNow (deliveries : Deliveries json) (intake : Intake) (id : String) : Prop :=
  ∃ event channelH, deliveries.Verified event ∧ event.id = id ∧ OfChannel channelH event ∧
    Hydrated intake.db channelH ∧ intake.db.isChannelMember channelH event.pubkey = true

theorem receive_enters {arrival : Arrival deliveries} {id : String}
    (henters : Enters intake (receive intake arrival) id) :
    AdmittedNow deliveries (receive intake arrival) id := by
  obtain ⟨channelH, hof⟩ := arrival.isChat
  have hkept : Undisturbed intake (receive intake arrival) :=
    materializeKindChat_undisturbed json intake arrival.event arrival.now
  by_cases hhydrated : Hydrated intake.db channelH
  · have hadmits := receive_admits (.refl intake) hhydrated hof
    obtain ⟨event, hmem, hid, hadmitted⟩ := hadmits.exists_admitted henters
    rw [List.mem_singleton.mp hmem] at hid hadmitted
    exact ⟨arrival.event, channelH, arrival.verified, hid, hof,
      (hkept.hydrated_iff channelH).mpr hhydrated,
      (hkept.admitted_iff channelH arrival.event).mpr hadmitted⟩
  · have hsame : SameTables (receive intake arrival) intake := by
      rw [receive_unhydrated hhydrated hof]
      exact quarantineChat_sameTables _
    exact absurd henters (hsame.not_enters id)

theorem hydrate_enters {channelH : String} {snapshot : RosterSnapshot} {id : String}
    (hkept : intake.quarantine.All (Kept deliveries))
    (henters : Enters intake (hydrate json intake channelH snapshot) id) :
    AdmittedNow deliveries (hydrate json intake channelH snapshot) id := by
  have hreplay : Undisturbed (intake.rostered channelH snapshot)
      (hydrate json intake channelH snapshot) := hydrate_undisturbed
  have hrostered := (rostered_sameTables intake channelH snapshot).1
  by_cases hhydrated : Hydrated (intake.rostered channelH snapshot).db channelH
  · have hadmits : Admits json (intake.rostered channelH snapshot).db channelH
        (intake.waiting json channelH) intake (hydrate json intake channelH snapshot) :=
      (Admits.of_same hrostered).append (hydrate_admits hkept hhydrated)
        (fun _ hleft => absurd hleft List.not_mem_nil)
    obtain ⟨event, hmem, hid, hadmitted⟩ := hadmits.exists_admitted henters
    obtain ⟨hverified, hof, -⟩ := (mem_waiting_iff hkept event).mp hmem
    exact ⟨event, channelH, hverified, hid, hof, (hreplay.hydrated_iff channelH).mpr hhydrated,
      (hreplay.admitted_iff channelH event).mpr hadmitted⟩
  · have hsame : SameTables (hydrate json intake channelH snapshot) intake := by
      have hnothing : hydrate json intake channelH snapshot = intake.rostered channelH snapshot :=
        @replay_unhydrated json deliveries (intake.rostered channelH snapshot) channelH hkept
          hhydrated
      rw [hnothing]
      exact hrostered
    exact absurd henters (hsame.not_enters id)

/-- A chat that the roster of its channel accepts or rejects is not in the quarantine. -/
theorem Sound.not_quarantined (hsound : Sound deliveries intake) {event : Event}
    (hverified : deliveries.Verified event) (hgate : chatAdmission intake.db event ≠ .unhydrated) :
    intake.quarantine.find? event.id = none := by
  rw [Option.eq_none_iff_forall_ne_some]
  intro row hrow
  have hmem := Table.mem_of_find? hrow
  obtain ⟨-, other, hother, -, hof, hid, -⟩ := hsound.kept row hmem
  have hkey : row.id = event.id := Table.key_of_find? hrow
  have heq : other = event := deliveries.eq_of_id other event hother hverified (hid.symm.trans hkey)
  subst heq
  apply hgate
  rw [chatAdmission_eq intake.db hof, if_neg (hsound.drained row hmem)]

/-- In every state of a run the order of chats and roster does not matter, exactly if no
recipient is recorded of a chat that cannot be stored; what enters the tables was admitted,
and what a complete roster has rejected is gone from the quarantine. -/
theorem run_hydration_commutes_iff (hstart : Sound deliveries intake)
    (steps : List (IntakeStep deliveries)) :
    (∀ channelH snapshot, ∀ arrivals : List (Arrival deliveries),
      ¬ Hydrated (run intakeStep intake steps).db channelH →
      Hydrated ((run intakeStep intake steps).db.materializeRoster channelH snapshot) channelH →
      (∀ arrival ∈ arrivals, OfChannel channelH arrival.event) →
        (SameRows (chatsFirst (run intakeStep intake steps) channelH snapshot arrivals)
            (rosterFirst (run intakeStep intake steps) channelH snapshot arrivals) ↔
          ∀ arrival ∈ arrivals, ∀ pubkey,
            RecordsUnstored (run intakeStep intake steps) channelH snapshot arrival.event pubkey →
              ((run intakeStep intake steps).messageRecipients.find?
                (arrival.event.id, pubkey)).isSome = true)) ∧
    (∀ (arrival : Arrival deliveries) id,
      Enters (run intakeStep intake steps) (receive (run intakeStep intake steps) arrival) id →
        AdmittedNow deliveries (receive (run intakeStep intake steps) arrival) id) ∧
    (∀ channelH snapshot id,
      Enters (run intakeStep intake steps)
          (hydrate json (run intakeStep intake steps) channelH snapshot) id →
        AdmittedNow deliveries (hydrate json (run intakeStep intake steps) channelH snapshot) id) ∧
    ∀ event, deliveries.Verified event →
      chatAdmission (run intakeStep intake steps).db event ≠ .unhydrated →
        (run intakeStep intake steps).quarantine.find? event.id = none := by
  have hsound : Sound deliveries (run intakeStep intake steps) := run_sound steps hstart
  refine ⟨?_, ?_, ?_, ?_⟩
  · intro channelH snapshot arrivals hnot hhydrated hof
    exact sameRows_iff hnot hhydrated hof hsound.kept
  · intro arrival id henters
    exact receive_enters henters
  · intro channelH snapshot id henters
    exact hydrate_enters hsound.kept henters
  · intro event hverified hgate
    exact hsound.not_quarantined hverified hgate

end Runs

/-! ## One chat that can be stored and one that cannot -/

/-- A chat of alice that names an agent. -/
def namingChat (id : String) (createdAt : Nat) : Event where
  id := id
  kind := kindChat
  pubkey := "alice"
  createdAt := createdAt
  content := "hi"
  tags := [["h", "channel"], ["p", "agent"]]

def earlyText : String :=
  "\x7b\"id\":\"early\",\"pubkey\":\"alice\",\"created_at\":10,\"kind\":9,\"tags\":" ++
    "[[\"h\",\"channel\"],[\"p\",\"agent\"]],\"content\":\"hi\"\x7d"

def lateText : String :=
  "\x7b\"id\":\"late\",\"pubkey\":\"alice\",\"created_at\":9223372036854775808,\"kind\":9," ++
    "\"tags\":[[\"h\",\"channel\"],[\"p\",\"agent\"]],\"content\":\"hi\"\x7d"

/-- JSON that knows the two chats. -/
def namingJson : WireJson where
  tagsToJson := fun _ => "[[\"h\",\"channel\"],[\"p\",\"agent\"]]"
  eventToJson := fun event =>
    if event = namingChat "early" 10 then some earlyText
    else if event = namingChat "late" (2 ^ 63) then some lateText else none
  eventFromJson := fun text =>
    if text = earlyText then some (namingChat "early" 10)
    else if text = lateText then some (namingChat "late" (2 ^ 63)) else none

def namingDeliveries : Deliveries namingJson where
  Verified := fun event => event = namingChat "early" 10 ∨ event = namingChat "late" (2 ^ 63)
  eq_of_id := by
    intro left right hleft hright hid
    rcases hleft with rfl | rfl
    · rcases hright with rfl | rfl
      · rfl
      · exact absurd hid (by decide)
    · rcases hright with rfl | rfl
      · exact absurd hid (by decide)
      · rfl
  trim_id := by
    intro event hevent
    rcases hevent with rfl | rfl
    · decide +kernel
    · decide +kernel
  id_nonempty := by
    intro event hevent
    rcases hevent with rfl | rfl
    · decide
    · decide
  readBack := by
    intro event hevent
    rcases hevent with rfl | rfl
    · exact ⟨earlyText, by decide +kernel, by decide +kernel⟩
    · exact ⟨lateText, by decide +kernel, by decide +kernel⟩

def earlyArrival : Arrival namingDeliveries where
  event := namingChat "early" 10
  now := 12
  verified := .inl rfl
  isChat := ⟨"channel", _, rfl, rfl⟩
  clock := by decide

def lateArrival : Arrival namingDeliveries where
  event := namingChat "late" (2 ^ 63)
  now := 12
  verified := .inr rfl
  isChat := ⟨"channel", _, rfl, rfl⟩
  clock := by decide

/-- The admins of the channel are known, its members are not, and the agent has a route
there. -/
def awaitingMembers : Intake where
  db := { Database.empty.materializeRoster "channel" ⟨.admin, ["relay"], 2⟩ with
    store := { Store.empty with
      sessions := Table.empty.insertOrIgnore (Session.defaults "agent" 1 5)
      sessionChannels := Table.empty.insertOrIgnore ⟨"agent", "channel", 5⟩ } }
  messages := Table.empty
  messageRecipients := Table.empty
  quarantine := Table.empty

theorem awaitingMembers_sound : Sound namingDeliveries awaitingMembers := by
  constructor
  · intro row hrow
    cases hrow
  · intro row hrow
    cases hrow

def joiningMembers : RosterSnapshot := ⟨.member, ["alice", "agent"], 3⟩

theorem hydration_commutes_early :
    SameRows
      (chatsFirst (run intakeStep awaitingMembers [.chat earlyArrival]) "channel" joiningMembers
        [earlyArrival])
      (rosterFirst (run intakeStep awaitingMembers [.chat earlyArrival]) "channel" joiningMembers
        [earlyArrival]) := by
  have hrun := run_hydration_commutes_iff awaitingMembers_sound [.chat earlyArrival]
  refine (hrun.1 "channel" joiningMembers [earlyArrival] (by decide +kernel) (by decide +kernel)
    ?_).mpr ?_
  · intro arrival harrival
    rw [List.mem_singleton.mp harrival]
    exact ⟨_, rfl, rfl⟩
  · intro arrival harrival pubkey hrecords
    rw [List.mem_singleton.mp harrival] at hrecords
    exact absurd hrecords.1 (by decide)

/-- The recipient of a chat with an unstorable time is recorded only if the roster comes
first. -/
theorem unstorable_chat_diverges :
    ¬ ∀ (json : WireJson) (deliveries : Deliveries json) (intake : Intake) (channelH : String)
      (snapshot : RosterSnapshot) (arrivals : List (Arrival deliveries)),
      Sound deliveries intake → ¬ Hydrated intake.db channelH →
        Hydrated (intake.db.materializeRoster channelH snapshot) channelH →
          (∀ arrival ∈ arrivals, OfChannel channelH arrival.event) →
            SameRows (chatsFirst intake channelH snapshot arrivals)
              (rosterFirst intake channelH snapshot arrivals) := by
  intro hclaim
  have hnot : ¬ Hydrated awaitingMembers.db "channel" := by decide +kernel
  have hhydrated : Hydrated (awaitingMembers.db.materializeRoster "channel" joiningMembers)
      "channel" := by decide +kernel
  have hof : ∀ arrival ∈ [lateArrival], OfChannel "channel" arrival.event := by
    intro arrival harrival
    rw [List.mem_singleton.mp harrival]
    exact ⟨_, rfl, rfl⟩
  have hsame := hclaim namingJson namingDeliveries awaitingMembers "channel" joiningMembers
    [lateArrival] awaitingMembers_sound hnot hhydrated hof
  have hcovered := (sameRows_iff hnot hhydrated hof awaitingMembers_sound.kept).mp hsame
  have hrecords : RecordsUnstored awaitingMembers "channel" joiningMembers lateArrival.event
      "agent" := ⟨by decide, .inl (by decide), by decide +kernel, by decide +kernel⟩
  have hrow := hcovered lateArrival (List.mem_singleton_self lateArrival) "agent" hrecords
  exact absurd hrow (by decide +kernel)

end Intake

end Mosaico
