import Mosaico.Fabric.Intake
import Mosaico.Register.Latest

/-!
# The channel cache

The relay describes a channel by its newest metadata event, and the cache keeps
one row for a channel that newer metadata replaces.  For one channel this is a
register, and the order in which its events arrive does not matter.

The schema also keeps the names below one parent apart.  The register of a channel
therefore refuses metadata whose name another row still holds at that moment, and a
refused event is only logged.  A channel that takes the name another channel has
released ends with its newest metadata only if the release was stored before one of
the arrivals of that metadata.  Two siblings that exchange their names never do.
-/

namespace Mosaico

open Relational Transition Register

/-! ## Events and rows -/

/-- The row that a metadata event asks for. -/
def channelMetadata (event : Event) : Option Channel :=
  (nostrTag event "d").map (fun channelH =>
    { channelH := channelH
      name := (nostrTag event "name").getD ""
      about := (nostrTag event "about").getD ""
      parent := (nostrTag event "parent").getD ""
      createdAt := event.createdAt
      updatedAt := event.createdAt })

/-- Materialize a metadata event.  A failed upsert is logged. -/
def Database.materializeChannel (db : Database) (event : Event) : Database :=
  match nostrTag event "d" with
  | none => db
  | some channelH =>
      commit (db.upsertChannel channelH ((nostrTag event "name").getD "")
        ((nostrTag event "about").getD "") ((nostrTag event "parent").getD "")
        event.createdAt) db

/-- The rows that the events of one channel ask for, in arrival order. -/
def channelVersion (channelH : String) (event : Event) : Option Channel :=
  (channelMetadata event).filter (fun row => row.channelH = channelH)

/-- The newest metadata of a channel. -/
def newestChannel (channelH : String) (events : List Event) : Option Channel :=
  latest Channel.createdAt (events.filterMap (channelVersion channelH))

/-- The events of a channel have distinct timestamps. -/
def DistinctTimes (events : List Event) : Prop :=
  ∀ first ∈ events, ∀ second ∈ events, nostrTag first "d" = nostrTag second "d" →
    first.createdAt = second.createdAt → first = second

instance (events : List Event) : Decidable (DistinctTimes events) :=
  inferInstanceAs (Decidable (∀ first ∈ events, ∀ second ∈ events, _ → _ → first = second))

/-- The newest metadata of the channels of the events. -/
def newestChannels (events : List Event) : List Channel :=
  (events.filterMap channelMetadata).filterMap (fun row => newestChannel row.channelH events)

/-- No two live channels share both parent and name. -/
def ConsistentTree (events : List Event) : Prop :=
  ∀ first ∈ newestChannels events, ∀ second ∈ newestChannels events,
    first.isArchived = false → second.isArchived = false → first.parent = second.parent →
    first.name = second.name → first.channelH = second.channelH

instance (events : List Event) : Decidable (ConsistentTree events) :=
  inferInstanceAs (Decidable (∀ first ∈ newestChannels events,
    ∀ second ∈ newestChannels events, _ → _ → _ → _ → first.channelH = second.channelH))

/-- No other channel holds the name below the parent that the row asks for, and its
timestamp fits a statement. -/
def Database.AdmitsChannel (db : Database) (row : Channel) : Prop :=
  row.createdAt ≤ Rust.i64Max ∧
    ¬ db.channels.Any (fun other =>
      other.parent = row.parent ∧ other.name = row.name ∧ other.channelH ≠ row.channelH)

/-- The event carries channel metadata that the rows of the other channels admit. -/
def Database.AdmitsMetadata (db : Database) (event : Event) : Prop :=
  ∃ row, channelMetadata event = some row ∧ db.AdmitsChannel row

/-! ## One event -/

variable {row : Channel} {events : List Event}

theorem channelMetadata_spec {event : Event} (hrow : channelMetadata event = some row) :
    nostrTag event "d" = some row.channelH ∧ row.createdAt = event.createdAt ∧
      row.updatedAt = row.createdAt := by
  rw [channelMetadata, Option.map_eq_some_iff] at hrow
  obtain ⟨channelH, hchannel, rfl⟩ := hrow
  exact ⟨hchannel, rfl, rfl⟩

namespace Database

theorem materializeChannel_eq (db : Database) (event : Event) :
    db.materializeChannel event =
      match channelMetadata event with
      | none => db
      | some row =>
          commit (db.upsertChannel row.channelH row.name row.about row.parent row.createdAt) db := by
  unfold materializeChannel channelMetadata
  cases nostrTag event "d" with
  | none | some channelH => rfl

variable {row : Channel} {db : Database}

/-- The row of a channel after metadata of some channel was written. -/
theorem getChannel_upsert (db : Database) (hupdated : row.updatedAt = row.createdAt)
    {written : Database}
    (hok : db.upsertChannel row.channelH row.name row.about row.parent row.createdAt =
      .ok ((), written)) (channelH : String) :
    written.getChannel channelH =
      if channelH = row.channelH then replace Channel.createdAt (db.getChannel channelH) row
      else db.getChannel channelH := by
  have hrow : ({ row with updatedAt := row.createdAt } : Channel) = row := by
    cases row
    cases hupdated
    rfl
  simp only [upsertChannel, bind_eq_ok, pure_eq_ok, Prod.mk.injEq] at hok
  obtain ⟨_, _, _, _, _, rfl⟩ := hok
  rw [getChannel]
  dsimp only
  rw [Table.find?_upsert]
  split
  · rename_i hchannel
    show _ = replace Channel.createdAt (db.channels.find? channelH) row
    rw [hrow]
    cases hheld : db.channels.find? channelH with
    | none => rfl
    | some held =>
        have hkey : held.channelH = row.channelH := (Table.key_of_find? hheld).trans hchannel
        show some (if held.createdAt ≤ row.createdAt then _ else held) =
          if held.createdAt ≤ row.createdAt then some row else some held
        split
        · rw [hkey]
          exact congrArg some hrow
        · rfl
  · rfl

theorem upsertChannel_ok_of_admits (hadmits : db.AdmitsChannel row) :
    ∃ written, db.upsertChannel row.channelH row.name row.about row.parent row.createdAt =
      .ok ((), written) := by
  have hfits : ([row.createdAt].all (fun param => decide (param ≤ Rust.i64Max))) = true := by
    simpa using hadmits.1
  simp only [upsertChannel, bindParams, ensure]
  rw [if_pos hfits, if_pos (Or.inr hadmits.2)]
  exact ⟨_, rfl⟩

/-- Metadata that the other rows do not admit is refused, unless it is older than the
row and changes nothing anyway. -/
theorem older_of_not_admits {written : Database}
    (hok : db.upsertChannel row.channelH row.name row.about row.parent row.createdAt =
      .ok ((), written)) (hrefused : ¬ db.AdmitsChannel row) :
    ∃ held, db.getChannel row.channelH = some held ∧ row.createdAt < held.createdAt := by
  simp only [upsertChannel, bindParams_eq_ok, bind_eq_ok, ensure_eq_ok] at hok
  obtain ⟨_, hfits, _, hwritable, -⟩ := hok
  rcases hwritable with hnewer | hfree
  · exact hnewer
  · exact absurd ⟨hfits row.createdAt (by simp), hfree⟩ hrefused

/-- An event that brings metadata of a channel replaces its row where the other rows
admit it. -/
theorem getChannel_materializeChannel {event : Event}
    (hrow : channelMetadata event = some row) (hadmits : db.AdmitsChannel row) (channelH : String) :
    (db.materializeChannel event).getChannel channelH =
      if channelH = row.channelH then replace Channel.createdAt (db.getChannel channelH) row
      else db.getChannel channelH := by
  obtain ⟨written, hwritten⟩ := upsertChannel_ok_of_admits hadmits
  rw [materializeChannel_eq, hrow]
  dsimp only
  rw [hwritten, commit_ok]
  exact getChannel_upsert db (channelMetadata_spec hrow).2.2 hwritten channelH

/-- Any other event changes no row. -/
theorem getChannel_materializeChannel_of_refused {event : Event}
    (hrefused : ¬ db.AdmitsMetadata event) (channelH : String) :
    (db.materializeChannel event).getChannel channelH = db.getChannel channelH := by
  rw [materializeChannel_eq]
  cases hrow : channelMetadata event with
  | none => rfl
  | some row =>
      dsimp only
      have hnot : ¬ db.AdmitsChannel row := fun hadmits => hrefused ⟨row, hrow, hadmits⟩
      cases houtcome : db.upsertChannel row.channelH row.name row.about row.parent row.createdAt with
      | error error => rfl
      | ok result =>
          obtain ⟨⟨⟩, written⟩ := result
          obtain ⟨held, hheld, holder⟩ := older_of_not_admits houtcome hnot
          rw [commit_ok, getChannel_upsert db (channelMetadata_spec hrow).2.2 houtcome channelH]
          split
          · rename_i hchannel
            rw [hchannel, hheld]
            exact replace_of_older holder
          · rfl

end Database

/-! ## Runs of events -/

/-- A database that has seen no channel metadata. -/
def Database.withoutChannels (db : Database) : Database :=
  { db with channels := Table.empty }

theorem channelVersion_eq_some_iff {channelH : String} {event : Event} :
    channelVersion channelH event = some row ↔
      channelMetadata event = some row ∧ row.channelH = channelH := by
  simp [channelVersion, Option.filter_eq_some_iff]

theorem newestChannel_channelH {channelH : String}
    (hnewest : newestChannel channelH events = some row) : row.channelH = channelH := by
  obtain ⟨event, -, hversion⟩ := List.mem_filterMap.mp (mem_of_latest hnewest)
  exact (channelVersion_eq_some_iff.mp hversion).2

theorem mem_newestChannels_iff :
    row ∈ newestChannels events ↔ newestChannel row.channelH events = some row := by
  simp only [newestChannels, List.mem_filterMap]
  constructor
  · rintro ⟨other, -, hnewest⟩
    rw [newestChannel_channelH hnewest]
    exact hnewest
  · intro hnewest
    obtain ⟨event, hevent, hversion⟩ := List.mem_filterMap.mp (mem_of_latest hnewest)
    exact ⟨row, ⟨event, hevent, (channelVersion_eq_some_iff.mp hversion).1⟩, hnewest⟩

theorem DistinctTimes.consistent (hdistinct : DistinctTimes events) (channelH : String) :
    Consistent Channel.createdAt (events.filterMap (channelVersion channelH)) := by
  intro first hfirst second hsecond htime
  obtain ⟨earlier, hearlier, hversion⟩ := List.mem_filterMap.mp hfirst
  obtain ⟨later, hlater, hversion'⟩ := List.mem_filterMap.mp hsecond
  obtain ⟨hrow, hchannel⟩ := channelVersion_eq_some_iff.mp hversion
  obtain ⟨hrow', hchannel'⟩ := channelVersion_eq_some_iff.mp hversion'
  obtain ⟨htag, hcreated, -⟩ := channelMetadata_spec hrow
  obtain ⟨htag', hcreated', -⟩ := channelMetadata_spec hrow'
  have htags : nostrTag earlier "d" = nostrTag later "d" := by
    rw [htag, htag', hchannel, hchannel']
  have htimes : earlier.createdAt = later.createdAt := by
    rw [← hcreated, ← hcreated', htime]
  have hsame : earlier = later := hdistinct earlier hearlier later hlater htags htimes
  rw [hsame] at hrow
  exact Option.some.inj (hrow.symm.trans hrow')

/-- The row of a channel is a register that the names of the other channels gate. -/
theorem gated_getChannel (channelH : String) :
    Gated Channel.createdAt Database.materializeChannel (fun db => db.getChannel channelH)
      (channelVersion channelH) Database.AdmitsMetadata where
  admitted := by
    intro db event next hversion hadmits
    obtain ⟨hrow, hchannel⟩ := channelVersion_eq_some_iff.mp hversion
    obtain ⟨row, hrow', hadmitted⟩ := hadmits
    rw [hrow] at hrow'
    cases hrow'
    rw [Database.getChannel_materializeChannel hrow hadmitted channelH, if_pos hchannel.symm]
  kept := by
    intro db event hkept
    by_cases hadmits : db.AdmitsMetadata event
    · obtain ⟨row, hrow, hadmitted⟩ := id hadmits
      have hother : channelH ≠ row.channelH := by
        intro hchannel
        exact hkept row (channelVersion_eq_some_iff.mpr ⟨hrow, hchannel.symm⟩) hadmits
      rw [Database.getChannel_materializeChannel hrow hadmitted channelH, if_neg hother]
    · exact Database.getChannel_materializeChannel_of_refused hadmits channelH

/-- At one of its arrivals the metadata meets no other channel that holds its name. -/
def Database.Stores (db : Database) (events : List Event) (row : Channel) : Prop :=
  Accepted Database.materializeChannel channelMetadata Database.AdmitsMetadata db events row

theorem accepted_channelVersion_iff {db : Database}
    {channelH : String} (hchannel : row.channelH = channelH) :
    Accepted Database.materializeChannel (channelVersion channelH) Database.AdmitsMetadata db
      events row ↔ db.Stores events row := by
  simp only [Database.Stores, Accepted, channelVersion_eq_some_iff, and_iff_left hchannel]

/-- The cache ends with the newest metadata of every channel iff at one of the arrivals
of that metadata no other row held its name. -/
theorem channels_converge_iff (db : Database) {events : List Event}
    (hdistinct : DistinctTimes events) :
    (∀ channelH, (run Database.materializeChannel db.withoutChannels events).getChannel channelH =
        newestChannel channelH events) ↔
      ∀ newest ∈ newestChannels events, db.withoutChannels.Stores events newest := by
  -- Every channel is a register of its own, which other names can keep from being written.
  have hregister : ∀ channelH,
      (run Database.materializeChannel db.withoutChannels events).getChannel channelH =
          newestChannel channelH events ↔
        ∀ newest, newestChannel channelH events = some newest →
          db.withoutChannels.Stores events newest := by
    intro channelH
    have hempty : db.withoutChannels.getChannel channelH = none := rfl
    have hiff := (gated_getChannel channelH).holds_latest_iff hempty (hdistinct.consistent channelH)
    refine hiff.trans (forall_congr' fun newest => ?_)
    constructor
    · intro haccepted hnewest
      exact (accepted_channelVersion_iff (newestChannel_channelH hnewest)).mp (haccepted hnewest)
    · intro hstores hnewest
      exact (accepted_channelVersion_iff (newestChannel_channelH hnewest)).mpr (hstores hnewest)
  constructor
  · intro hconverged newest hnewest
    rw [mem_newestChannels_iff] at hnewest
    exact (hregister newest.channelH).mp (hconverged newest.channelH) newest hnewest
  · intro hstores channelH
    rw [hregister channelH]
    intro newest hnewest
    apply hstores newest
    rw [mem_newestChannels_iff, newestChannel_channelH hnewest]
    exact hnewest

/-- A metadata event of a root channel. -/
def metadataEvent (channelH name : String) (createdAt : Nat) : Event where
  id := channelH ++ name
  kind := 39000
  pubkey := "relay"
  createdAt := createdAt
  content := ""
  tags := [["d", channelH], ["name", name]]

/-- The release of a name that arrives before the name is taken. -/
theorem channels_converge_iff_released_first :
    (∀ channelH,
        (run Database.materializeChannel Database.empty.withoutChannels
          [metadataEvent "a" "x" 1, metadataEvent "a" "y" 2, metadataEvent "b" "x" 3]).getChannel
            channelH =
        newestChannel channelH
          [metadataEvent "a" "x" 1, metadataEvent "a" "y" 2, metadataEvent "b" "x" 3]) ↔
      ∀ newest ∈ newestChannels
          [metadataEvent "a" "x" 1, metadataEvent "a" "y" 2, metadataEvent "b" "x" 3],
        Database.empty.withoutChannels.Stores
          [metadataEvent "a" "x" 1, metadataEvent "a" "y" 2, metadataEvent "b" "x" 3] newest :=
  channels_converge_iff Database.empty (by decide)

/-- A name that is taken before its release arrives: the cache never learns of the
channel that took it. -/
theorem taken_name_lost :
    ¬ ∀ (db : Database) (events : List Event), DistinctTimes events → ConsistentTree events →
      ∀ channelH,
        (run Database.materializeChannel db.withoutChannels events).getChannel channelH =
          newestChannel channelH events := by
  intro hclaim
  have hrow := hclaim Database.empty
    [metadataEvent "a" "x" 1, metadataEvent "b" "x" 3, metadataEvent "a" "y" 2]
    (by decide) (by decide) "b"
  exact absurd hrow (by decide)

/-! ## Consequences for the names -/

/-- Two siblings whose metadata exchanges their names keep the old names, however often
the metadata arrives. -/
theorem exchange_never_stored {db : Database} {first second : Channel} (hne : first.channelH ≠
      second.channelH) (hfirst : db.getChannel first.channelH = some first)
    (hsecond : db.getChannel second.channelH = some second) {events : List Event}
    (hexchange : ∀ event ∈ events, ∃ row, channelMetadata event = some row ∧
      (row.channelH = first.channelH ∧ row.parent = second.parent ∧ row.name = second.name ∨
        row.channelH = second.channelH ∧ row.parent = first.parent ∧ row.name = first.name))
    (channelH : String) :
    (run Database.materializeChannel db events).getChannel channelH = db.getChannel channelH := by
  induction events using List.reverseRecOn generalizing channelH with
  | nil => rfl
  | append_singleton earlier event ih =>
      have hsame := ih (fun event hevent => hexchange event (by simp [hevent]))
      rw [run_append, run_cons, run_nil]
      rw [Database.getChannel_materializeChannel_of_refused _ channelH, hsame channelH]
      rintro ⟨row, hrow, -, hfree⟩
      obtain ⟨row', hrow', hnames⟩ := hexchange event (by simp)
      rw [hrow] at hrow'
      cases hrow'
      -- Each sibling holds the name that the other one is to get.
      apply hfree
      rcases hnames with ⟨hchannel, hparent, hname⟩ | ⟨hchannel, hparent, hname⟩
      · have hheld : (run Database.materializeChannel db earlier).channels.find? second.channelH =
            some second := (hsame second.channelH).trans hsecond
        refine ⟨second, Table.mem_of_find? hheld, hparent.symm, hname.symm, ?_⟩
        rw [hchannel]
        exact hne.symm
      · have hheld : (run Database.materializeChannel db earlier).channels.find? first.channelH =
            some first := (hsame first.channelH).trans hfirst
        refine ⟨first, Table.mem_of_find? hheld, hparent.symm, hname.symm, ?_⟩
        rw [hchannel]
        exact hne

/-- Two siblings of the names `x` and `y`. -/
def twoSiblings : Database :=
  run Database.materializeChannel Database.empty.withoutChannels
    [metadataEvent "a" "x" 1, metadataEvent "b" "y" 1]

theorem exchange_never_stored_siblings :
    (run Database.materializeChannel twoSiblings
      [metadataEvent "a" "y" 2, metadataEvent "b" "x" 2]).getChannel "a" =
        twoSiblings.getChannel "a" := by
  refine @exchange_never_stored twoSiblings ⟨"a", "x", "", "", 1, 1⟩ ⟨"b", "y", "", "", 1, 1⟩
    (by decide) (by decide) (by decide) _ ?_ "a"
  simp only [List.forall_mem_cons, List.not_mem_nil, false_implies, implies_true, and_true]
  exact ⟨⟨_, rfl, .inl ⟨rfl, rfl, rfl⟩⟩, ⟨_, rfl, .inr ⟨rfl, rfl, rfl⟩⟩⟩

end Mosaico
