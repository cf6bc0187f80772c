import Mathlib.Data.Finset.Max
import Mathlib.Data.String.Basic
import Mosaico.Fabric.Relay
import Mosaico.Register.Foremost

/-!
# Replaceable events

Of the events of one coordinate the relay log keeps one.  An event takes the coordinate over
if it is newer than the row that is there, so the log holds, coordinate by coordinate, the
foremost of the events whose time the database can store.  The protocol asks for the newest
event and, of several such, for the one with the lowest id, which is another event when the
newest time is shared.
-/

namespace Mosaico

open Relational Transition Register

/-! ## Coordinates -/

/-- What the relay keeps one event for. -/
inductive Coordinate where
  | addressable (kind : Nat) (pubkey dTag : String)
  | replaceable (kind : Nat) (pubkey : String)
  deriving DecidableEq, Repr

/-- The coordinate of an event; a regular event has none. -/
def RelayEvent.coordinate (event : RelayEvent) : Option Coordinate :=
  if Database.isAddressable event.kind = true then
    some (.addressable event.kind event.pubkey event.dTag)
  else if Database.isReplaceable event.kind = true then
    some (.replaceable event.kind event.pubkey)
  else none

theorem coordinate_eq_addressable_iff {row : RelayEvent} {kind : Nat} {pubkey dTag : String} :
    row.coordinate = some (.addressable kind pubkey dTag) ↔
      Database.isAddressable kind = true ∧ row.kind = kind ∧ row.pubkey = pubkey ∧
        row.dTag = dTag := by
  unfold RelayEvent.coordinate
  split
  · rename_i haddressable
    constructor
    · intro heq
      cases heq
      exact ⟨haddressable, rfl, rfl, rfl⟩
    · rintro ⟨_, rfl, rfl, rfl⟩
      rfl
  · rename_i hnot
    constructor
    · intro heq
      split at heq
      · cases heq
      · cases heq
    · rintro ⟨haddressable, rfl, _⟩
      exact absurd haddressable hnot

theorem coordinate_eq_replaceable_iff {row : RelayEvent} {kind : Nat} {pubkey : String} :
    row.coordinate = some (.replaceable kind pubkey) ↔
      Database.isAddressable kind = false ∧ Database.isReplaceable kind = true ∧
        row.kind = kind ∧ row.pubkey = pubkey := by
  unfold RelayEvent.coordinate
  split
  · rename_i haddressable
    constructor
    · intro heq
      cases heq
    · rintro ⟨hnot, _, rfl, _⟩
      rw [haddressable] at hnot
      cases hnot
  · rename_i hnot
    split
    · rename_i hreplaceable
      constructor
      · intro heq
        cases heq
        exact ⟨Bool.eq_false_iff.mpr hnot, hreplaceable, rfl, rfl⟩
      · rintro ⟨_, _, rfl, rfl⟩
        rfl
    · rename_i hregular
      constructor
      · intro heq
        cases heq
      · rintro ⟨_, hreplaceable, rfl, _⟩
        exact absurd hreplaceable hregular

/-- The statements of an insertion name the coordinate of the event. -/
theorem replacesEvent_iff {event row : RelayEvent} {coordinate : Coordinate}
    (hcoordinate : event.coordinate = some coordinate) :
    Database.replacesEvent event row ↔ row.coordinate = some coordinate := by
  unfold Database.replacesEvent
  cases coordinate with
  | addressable kind pubkey dTag =>
      obtain ⟨haddressable, rfl, rfl, rfl⟩ := coordinate_eq_addressable_iff.mp hcoordinate
      rw [coordinate_eq_addressable_iff]
      simp [haddressable]
  | replaceable kind pubkey =>
      obtain ⟨hnot, hreplaceable, rfl, rfl⟩ := coordinate_eq_replaceable_iff.mp hcoordinate
      rw [coordinate_eq_replaceable_iff]
      simp [hnot, hreplaceable]

/-! ## The log against the registers -/

namespace Database

/-- What the log has after an event. -/
def logged (db : Database) (event : RelayEvent) : Database :=
  commit (db.insertEvent event) db

/-- The events of a coordinate that the database can store. -/
def storableAt (coordinate : Coordinate) (deliveries : List RelayEvent) : List RelayEvent :=
  deliveries.filter fun event =>
    decide (event.coordinate = some coordinate) && decide (event.createdAt ≤ Rust.i64Max)

/-- The event that holds the coordinate after the deliveries. -/
def holder (coordinate : Coordinate) (deliveries : List RelayEvent) : Option RelayEvent :=
  foremost RelayEvent.createdAt (storableAt coordinate deliveries)

variable {coordinate other : Coordinate} {deliveries : List RelayEvent} {event row : RelayEvent}

theorem mem_storableAt :
    event ∈ storableAt coordinate deliveries ↔
      event ∈ deliveries ∧ event.coordinate = some coordinate ∧
        event.createdAt ≤ Rust.i64Max := by
  simp [storableAt]

theorem mem_of_holder (hholder : holder coordinate deliveries = some row) :
    row ∈ deliveries ∧ row.coordinate = some coordinate ∧ row.createdAt ≤ Rust.i64Max :=
  mem_storableAt.mp (mem_of_foremost hholder)

/-- A delivery supersedes the holder of its own coordinate only. -/
theorem holder_concat (hcoordinate : event.coordinate = some coordinate) (other : Coordinate) :
    holder other (deliveries ++ [event]) =
      if other = coordinate ∧ event.createdAt ≤ Rust.i64Max then
        supersede RelayEvent.createdAt (holder coordinate deliveries) event
      else holder other deliveries := by
  unfold holder storableAt
  rw [List.filter_append]
  by_cases hhere : other = coordinate ∧ event.createdAt ≤ Rust.i64Max
  · obtain ⟨rfl, hbound⟩ := hhere
    rw [if_pos ⟨rfl, hbound⟩, List.filter_cons_of_pos (by simp [hcoordinate, hbound]),
      List.filter_nil, foremost_concat]
  · rw [if_neg hhere, List.filter_cons_of_neg, List.filter_nil, List.append_nil]
    simp only [hcoordinate, Option.some.injEq, Bool.and_eq_true, decide_eq_true_eq]
    rintro ⟨heq, hbound⟩
    exact hhere ⟨heq.symm, hbound⟩

/-- The log has the holders of the coordinates, and no other rows. -/
def Holds (db : Database) (deliveries : List RelayEvent) : Prop :=
  ∀ row, row ∈ db.events.rows ↔
    ∃ coordinate, row.coordinate = some coordinate ∧ holder coordinate deliveries = some row

theorem logged_of_unbound {db : Database} (hbound : ¬ event.createdAt ≤ Rust.i64Max) :
    db.logged event = db := by
  unfold logged insertEvent
  rw [bindParams_eq_error (by simpa using hbound)]
  rfl

theorem logged_of_newer {db : Database} (hcoordinate : event.coordinate = some coordinate)
    (hrow : row ∈ db.events.rows) (hrowCoordinate : row.coordinate = some coordinate)
    (hnewer : event.createdAt ≤ row.createdAt) : db.logged event = db := by
  have hany : db.events.Any
      (fun row => replacesEvent event row ∧ event.createdAt ≤ row.createdAt) :=
    ⟨row, hrow, (replacesEvent_iff hcoordinate).mpr hrowCoordinate, hnewer⟩
  unfold logged insertEvent
  rw [if_pos hany]
  cases bindParams [event.createdAt] with
  | error error | ok value => rfl

/-- An event without a newer row takes its coordinate over. -/
theorem mem_logged {db : Database} (hcoordinate : event.coordinate = some coordinate)
    (hbound : event.createdAt ≤ Rust.i64Max)
    (holder : ∀ row ∈ db.events.rows, row.coordinate = some coordinate →
      row.createdAt < event.createdAt)
    (hids : ∀ row ∈ db.events.rows, row.id = event.id → row = event) (row : RelayEvent) :
    row ∈ (db.logged event).events.rows ↔
      row ∈ db.events.rows ∧ row.coordinate ≠ some coordinate ∨ row = event := by
  have hnone : ¬ db.events.Any
      (fun row => replacesEvent event row ∧ event.createdAt ≤ row.createdAt) := by
    rintro ⟨found, hfound, hreplaces, hnewer⟩
    have hlt := holder found hfound ((replacesEvent_iff hcoordinate).mp hreplaces)
    omega
  have hbind : bindParams [event.createdAt] = .ok () := by
    rw [bindParams_eq_ok]
    intro param hparam
    rw [List.mem_singleton.mp hparam]
    exact hbound
  have hcleared : ∀ found, found ∈ (db.events.deleteWhere (replacesEvent event)).rows ↔
      found ∈ db.events.rows ∧ found.coordinate ≠ some coordinate := by
    intro found
    simp only [Table.deleteWhere, List.mem_filter, decide_eq_true_eq,
      replacesEvent_iff hcoordinate]
  have hfree : (db.events.deleteWhere (replacesEvent event)).find? event.id = none := by
    rw [Table.find?_eq_none_iff]
    intro found hfound hid
    obtain ⟨hmem, helsewhere⟩ := (hcleared found).mp hfound
    rw [hids found hmem hid] at helsewhere
    exact helsewhere hcoordinate
  have hlogged : (db.logged event).events =
      (db.events.deleteWhere (replacesEvent event)).insertOrIgnore event := by
    unfold logged insertEvent
    rw [hbind, if_neg hnone]
    rfl
  rw [hlogged, Table.mem_insertOrIgnore hfree, hcleared]

/-- A delivery that is not stored and supersedes nothing. -/
theorem Holds.concat_of_holder_eq {db : Database} (hholds : db.Holds deliveries)
    (hsame : ∀ other, holder other (deliveries ++ [event]) = holder other deliveries) :
    db.Holds (deliveries ++ [event]) := by
  intro row
  simp only [hsame]
  exact hholds row

/-- A delivery that is newer than what the log has of its coordinate. -/
theorem holds_logged_of_newest {db : Database} (hholds : db.Holds deliveries)
    (hcoordinate : event.coordinate = some coordinate) (hbound : event.createdAt ≤ Rust.i64Max)
    (hnewest : ∀ row ∈ db.events.rows, row.coordinate = some coordinate →
      row.createdAt < event.createdAt)
    (hids : ∀ delivery ∈ deliveries, delivery.id = event.id → delivery = event) :
    (db.logged event).Holds (deliveries ++ [event]) := by
  have hrowIds : ∀ row ∈ db.events.rows, row.id = event.id → row = event := by
    intro row hrow hid
    obtain ⟨_, _, hholder⟩ := (hholds row).mp hrow
    exact hids row (mem_of_holder hholder).1 hid
  have hhere : holder coordinate (deliveries ++ [event]) = some event := by
    rw [holder_concat hcoordinate, if_pos ⟨rfl, hbound⟩]
    cases hholder : holder coordinate deliveries with
    | none => rfl
    | some row =>
        have hrowCoordinate := (mem_of_holder hholder).2.1
        have hrow := (hholds row).mpr ⟨coordinate, hrowCoordinate, hholder⟩
        have hlt := hnewest row hrow hrowCoordinate
        exact if_neg (by omega)
  have helsewhere : ∀ other, other ≠ coordinate →
      holder other (deliveries ++ [event]) = holder other deliveries := by
    intro other hne
    rw [holder_concat hcoordinate, if_neg fun hboth => hne hboth.1]
  intro row
  rw [mem_logged hcoordinate hbound hnewest hrowIds, hholds]
  constructor
  · rintro (⟨⟨other, hother, hholder⟩, hne⟩ | rfl)
    · have hotherNe : other ≠ coordinate := by
        rintro rfl
        exact hne hother
      exact ⟨other, hother, (helsewhere other hotherNe).trans hholder⟩
    · exact ⟨coordinate, hcoordinate, hhere⟩
  · rintro ⟨other, hother, hholder⟩
    by_cases heq : other = coordinate
    · subst heq
      rw [hhere, Option.some.injEq] at hholder
      exact Or.inr hholder.symm
    · refine Or.inl ⟨⟨other, hother, ?_⟩, ?_⟩
      · rw [← helsewhere other heq]
        exact hholder
      · rw [hother]
        exact fun hsame => heq (Option.some.inj hsame)

/-- The step lemma. -/
theorem holds_logged {db : Database} (hholds : db.Holds deliveries)
    (hcoordinate : event.coordinate = some coordinate)
    (hids : ∀ delivery ∈ deliveries, delivery.id = event.id → delivery = event) :
    (db.logged event).Holds (deliveries ++ [event]) := by
  by_cases hbound : event.createdAt ≤ Rust.i64Max
  · by_cases hnewer : ∃ row ∈ db.events.rows, row.coordinate = some coordinate ∧
        event.createdAt ≤ row.createdAt
    · obtain ⟨row, hrow, hrowCoordinate, hle⟩ := hnewer
      obtain ⟨found, hfound, hholder⟩ := (hholds row).mp hrow
      rw [hrowCoordinate, Option.some.injEq] at hfound
      subst hfound
      rw [logged_of_newer hcoordinate hrow hrowCoordinate hle]
      refine hholds.concat_of_holder_eq ?_
      intro other
      rw [holder_concat hcoordinate]
      split
      · rename_i hhere
        rw [hhere.1, hholder]
        exact if_pos hle
      · rfl
    · refine holds_logged_of_newest hholds hcoordinate hbound ?_ hids
      intro row hrow hrowCoordinate
      by_contra hle
      exact hnewer ⟨row, hrow, hrowCoordinate, Nat.le_of_not_lt hle⟩
  · rw [logged_of_unbound hbound]
    refine hholds.concat_of_holder_eq ?_
    intro other
    rw [holder_concat hcoordinate, if_neg fun hboth => hbound hboth.2]

/-- Every delivery has a coordinate, and the id of a delivery is that of no other. -/
structure Replaced (deliveries : List RelayEvent) : Prop where
  coordinate : ∀ event ∈ deliveries, event.coordinate ≠ none
  ids : ∀ first ∈ deliveries, ∀ second ∈ deliveries, first.id = second.id → first = second

theorem holds_run (hreplaced : Replaced deliveries) :
    (run logged Database.empty deliveries).Holds deliveries := by
  induction deliveries using List.reverseRecOn with
  | nil =>
      intro row
      constructor
      · intro hrow
        cases hrow
      · rintro ⟨_, _, hholder⟩
        cases hholder
  | append_singleton earlier event ih =>
      have hearlier : Replaced earlier := by
        constructor
        · intro other hother
          exact hreplaced.coordinate other (List.mem_append_left _ hother)
        · intro first hfirst second hsecond
          exact hreplaced.ids first (List.mem_append_left _ hfirst) second
            (List.mem_append_left _ hsecond)
      have hevent : event ∈ earlier ++ [event] := by simp
      obtain ⟨coordinate, hcoordinate⟩ :=
        Option.ne_none_iff_exists'.mp (hreplaced.coordinate event hevent)
      rw [run_append, run_cons, run_nil]
      refine holds_logged (ih hearlier) hcoordinate ?_
      intro other hother
      exact hreplaced.ids other (List.mem_append_left _ hother) event hevent

/-! ## The winner of a coordinate -/

/-- No event of the coordinate of `row` is newer, and `row` has the lowest id of those that
are as new. -/
def Wins (events : List RelayEvent) (row : RelayEvent) : Prop :=
  row ∈ events ∧ ∀ other ∈ events, other.coordinate = row.coordinate →
    other.createdAt < row.createdAt ∨ other.createdAt = row.createdAt ∧ row.id ≤ other.id

/-- The log has the winner of every coordinate, and no other rows. -/
def KeepsWinners (db : Database) (events : List RelayEvent) : Prop :=
  (∀ row, row ∈ db.events.rows ↔ Wins events row) ∧
    ∀ first ∈ db.events.rows, ∀ second ∈ db.events.rows,
      first.coordinate = second.coordinate → first = second

/-- No event of the coordinate of `event` is newer. -/
def Newest (events : List RelayEvent) (event : RelayEvent) : Prop :=
  event ∈ events ∧
    ∀ other ∈ events, other.coordinate = event.coordinate → other.createdAt ≤ event.createdAt

/-- The newest time of every coordinate can be stored and belongs to one event alone. -/
def Untied (events : List RelayEvent) : Prop :=
  ∀ event, Newest events event →
    event.createdAt ≤ Rust.i64Max ∧
      ∀ other ∈ events, other.coordinate = event.coordinate →
        other.createdAt = event.createdAt → other = event

variable {events : List RelayEvent}

theorem Wins.newest (hwins : Wins events row) : Newest events row := by
  refine ⟨hwins.1, ?_⟩
  intro other hother hcoordinate
  rcases hwins.2 other hother hcoordinate with hlt | ⟨heq, _⟩
  · omega
  · omega

/-- Of the events of the newest time one has the lowest id. -/
theorem exists_wins (hnewest : Newest events event) :
    ∃ row, Wins events row ∧ row.coordinate = event.coordinate ∧
      row.createdAt = event.createdAt := by
  let newest := events.toFinset.filter fun other =>
    other.coordinate = event.coordinate ∧ other.createdAt = event.createdAt
  have hmem : ∀ other, other ∈ newest ↔ other ∈ events ∧
      other.coordinate = event.coordinate ∧ other.createdAt = event.createdAt := by
    intro other
    simp [newest]
  have hnonempty : newest.Nonempty := ⟨event, (hmem event).mpr ⟨hnewest.1, rfl, rfl⟩⟩
  obtain ⟨row, hrow, hlowest⟩ := Finset.exists_min_image newest RelayEvent.id hnonempty
  obtain ⟨hrowMem, hrowCoordinate, hrowTime⟩ := (hmem row).mp hrow
  refine ⟨row, ⟨hrowMem, ?_⟩, hrowCoordinate, hrowTime⟩
  intro other hother hcoordinate
  have hotherCoordinate := hcoordinate.trans hrowCoordinate
  have hle := hnewest.2 other hother hotherCoordinate
  by_cases htime : other.createdAt = event.createdAt
  · have hid := hlowest other ((hmem other).mpr ⟨hother, hotherCoordinate, htime⟩)
    exact Or.inr ⟨htime.trans hrowTime.symm, hid⟩
  · exact Or.inl (by omega)

theorem Wins.eq_of_coordinate (hreplaced : Replaced events) (hfirst : Wins events event)
    (hsecond : Wins events row) (hcoordinate : event.coordinate = row.coordinate) :
    event = row := by
  apply hreplaced.ids event hfirst.1 row hsecond.1
  rcases hfirst.2 row hsecond.1 hcoordinate.symm with hlt | ⟨heq, hle⟩
  · rcases hsecond.2 event hfirst.1 hcoordinate with hlt' | ⟨heq', _⟩
    · omega
    · omega
  · rcases hsecond.2 event hfirst.1 hcoordinate with hlt' | ⟨_, hge⟩
    · omega
    · exact le_antisymm hle hge

theorem Replaced.of_members (hreplaced : Replaced events)
    (hmembers : ∀ event, event ∈ deliveries ↔ event ∈ events) : Replaced deliveries := by
  constructor
  · intro event hevent
    exact hreplaced.coordinate event ((hmembers event).mp hevent)
  · intro first hfirst second hsecond
    exact hreplaced.ids first ((hmembers first).mp hfirst) second ((hmembers second).mp hsecond)

/-- What holds a coordinate after the deliveries wins it if no newest time is shared. -/
theorem holder_eq_iff_wins (huntied : Untied events)
    (hmembers : ∀ event, event ∈ deliveries ↔ event ∈ events)
    (hcoordinate : row.coordinate = some coordinate) :
    holder coordinate deliveries = some row ↔ Wins events row := by
  have hwinner : ∀ {winner : RelayEvent}, Wins events winner →
      winner.coordinate = some coordinate → holder coordinate deliveries = some winner := by
    intro winner hwins hwinnerCoordinate
    obtain ⟨hbound, halone⟩ := huntied winner hwins.newest
    apply foremost_eq_of_alone
    · exact mem_storableAt.mpr ⟨(hmembers winner).mpr hwins.1, hwinnerCoordinate, hbound⟩
    · intro other hother hle
      obtain ⟨hdelivered, hotherCoordinate, _⟩ := mem_storableAt.mp hother
      have hmem := (hmembers other).mp hdelivered
      have hsame := hotherCoordinate.trans hwinnerCoordinate.symm
      have hge := hwins.newest.2 other hmem hsame
      exact halone other hmem hsame (by omega)
  constructor
  · intro hholder
    obtain ⟨hdelivered, _, _⟩ := mem_of_holder hholder
    -- The newest event of the coordinate has a time that fits, and wins.
    obtain ⟨newest, hnewest, hgreatest⟩ := Finset.exists_max_image
      (events.toFinset.filter fun other => other.coordinate = some coordinate)
      RelayEvent.createdAt ⟨row, by simp [hcoordinate, (hmembers row).mp hdelivered]⟩
    simp only [Finset.mem_filter, List.mem_toFinset] at hnewest hgreatest
    have hmax : Newest events newest := by
      refine ⟨hnewest.1, ?_⟩
      intro other hother hsame
      exact hgreatest other ⟨hother, hsame.trans hnewest.2⟩
    obtain ⟨winner, hwins, hwinnerCoordinate, _⟩ := exists_wins hmax
    have hheld := hwinner hwins (hwinnerCoordinate.trans hnewest.2)
    rw [hholder, Option.some.injEq] at hheld
    rw [hheld]
    exact hwins
  · intro hwins
    exact hwinner hwins hcoordinate

/-- Whatever the order, the log ends with the winners exactly if no newest time is shared or
beyond what the database can store. -/
theorem insertEvents_keepsWinners_iff (events : List RelayEvent) (hreplaced : Replaced events) :
    (∀ deliveries : List RelayEvent, (∀ event, event ∈ deliveries ↔ event ∈ events) →
        KeepsWinners (run logged Database.empty deliveries) events) ↔
      Untied events := by
  constructor
  · intro hkeeps event hnewest
    have hheld : ∀ deliveries : List RelayEvent, (∀ event, event ∈ deliveries ↔ event ∈ events) →
        ∀ row, Wins events row ↔ ∃ coordinate, row.coordinate = some coordinate ∧
          holder coordinate deliveries = some row := by
      intro deliveries hmembers row
      rw [← (hkeeps deliveries hmembers).1 row]
      exact holds_run (hreplaced.of_members hmembers) row
    have hbound : event.createdAt ≤ Rust.i64Max := by
      obtain ⟨row, hwins, _, htime⟩ := exists_wins hnewest
      obtain ⟨_, _, hholder⟩ := (hheld events (fun _ => Iff.rfl) row).mp hwins
      rw [← htime]
      exact (mem_of_holder hholder).2.2
    -- Of the events of the newest time the one that is delivered first stays.
    have hfirst : ∀ first ∈ events, first.coordinate = event.coordinate →
        first.createdAt = event.createdAt → Wins events first := by
      intro first hmem hsame htime
      obtain ⟨coordinate, hcoordinate⟩ :=
        Option.ne_none_iff_exists'.mp (hreplaced.coordinate first hmem)
      have hmembers : ∀ other, other ∈ first :: events ↔ other ∈ events := by
        intro other
        rw [List.mem_cons, or_iff_right_iff_imp]
        rintro rfl
        exact hmem
      refine (hheld (first :: events) hmembers first).mpr ⟨coordinate, hcoordinate, ?_⟩
      unfold holder storableAt
      rw [List.filter_cons_of_pos (by simp [hcoordinate, htime, hbound])]
      apply foremost_cons_of_le
      intro other hother
      obtain ⟨hotherMem, hotherCoordinate, _⟩ := mem_storableAt.mp hother
      have hle := hnewest.2 other hotherMem
        (hotherCoordinate.trans (hcoordinate.symm.trans hsame))
      omega
    refine ⟨hbound, ?_⟩
    intro other hother hsame htime
    exact (hfirst other hother hsame htime).eq_of_coordinate hreplaced
      (hfirst event hnewest.1 rfl rfl) hsame
  · intro huntied deliveries hmembers
    have hholds := holds_run (hreplaced.of_members hmembers)
    have hrows : ∀ row, row ∈ (run logged Database.empty deliveries).events.rows ↔
        Wins events row := by
      intro row
      rw [hholds row]
      constructor
      · rintro ⟨coordinate, hcoordinate, hholder⟩
        exact (holder_eq_iff_wins huntied hmembers hcoordinate).mp hholder
      · intro hwins
        obtain ⟨coordinate, hcoordinate⟩ :=
          Option.ne_none_iff_exists'.mp (hreplaced.coordinate row hwins.1)
        exact ⟨coordinate, hcoordinate,
          (holder_eq_iff_wins huntied hmembers hcoordinate).mpr hwins⟩
    refine ⟨hrows, ?_⟩
    intro first hfirst second hsecond hsame
    exact ((hrows first).mp hfirst).eq_of_coordinate hreplaced ((hrows second).mp hsecond) hsame

/-- A contact list of one author. -/
def contactList (id : String) (createdAt : Nat) : RelayEvent where
  id := id
  kind := 3
  pubkey := "alice"
  createdAt := createdAt
  channelH := ""
  dTag := ""
  content := ""
  tagsJson := "[]"

theorem replaced_contactLists {first second : String} (hne : first ≠ second) (early late : Nat) :
    Replaced [contactList first early, contactList second late] := by
  constructor
  · intro event hevent
    simp only [List.mem_cons, List.not_mem_nil, or_false] at hevent
    rcases hevent with rfl | rfl
    · exact Option.some_ne_none (Coordinate.replaceable 3 "alice")
    · exact Option.some_ne_none (Coordinate.replaceable 3 "alice")
  · intro event hevent other hother hid
    simp only [List.mem_cons, List.not_mem_nil, or_false] at hevent hother
    rcases hevent with rfl | rfl
    · rcases hother with rfl | rfl
      · rfl
      · exact absurd hid hne
    · rcases hother with rfl | rfl
      · exact absurd hid.symm hne
      · rfl

theorem insertEvents_keepsWinners_newer :
    KeepsWinners (run logged Database.empty [contactList "b" 7, contactList "a" 8])
        [contactList "b" 7, contactList "a" 8] ∧
      KeepsWinners (run logged Database.empty [contactList "a" 8, contactList "b" 7])
        [contactList "b" 7, contactList "a" 8] := by
  have huntied : Untied [contactList "b" 7, contactList "a" 8] := by
    rintro event ⟨hevent, hnewest⟩
    have hlater := hnewest (contactList "a" 8) (by simp)
    simp only [List.mem_cons, List.not_mem_nil, or_false] at hevent
    rcases hevent with rfl | rfl
    · exact absurd (hlater rfl) (by decide)
    · refine ⟨by decide, ?_⟩
      intro other hother _ htime
      simp only [List.mem_cons, List.not_mem_nil, or_false] at hother
      rcases hother with rfl | rfl
      · exact absurd htime (by decide)
      · rfl
  have hkeeps := (insertEvents_keepsWinners_iff [contactList "b" 7, contactList "a" 8]
    (replaced_contactLists (by decide) 7 8)).mpr huntied
  refine ⟨hkeeps _ (fun event => Iff.rfl), hkeeps _ (fun event => ?_)⟩
  simp only [List.mem_cons, List.not_mem_nil, or_false]
  exact or_comm

/-- Two contact lists of one second: the one with the higher id stays if it comes first. -/
theorem insertEvents_tied :
    Replaced [contactList "a" 7, contactList "b" 7] ∧
      (run logged Database.empty [contactList "b" 7, contactList "a" 7]).events.rows =
        [contactList "b" 7] ∧
      ¬ KeepsWinners (run logged Database.empty [contactList "b" 7, contactList "a" 7])
        [contactList "a" 7, contactList "b" 7] := by
  have hrows : (run logged Database.empty [contactList "b" 7, contactList "a" 7]).events.rows =
      [contactList "b" 7] := by
    decide
  refine ⟨replaced_contactLists (by decide) 7 7, hrows, ?_⟩
  rintro ⟨hwinners, _⟩
  have hwins := (hwinners (contactList "b" 7)).mp (by rw [hrows]; simp)
  rcases hwins.2 (contactList "a" 7) (by simp) rfl with hlt | ⟨_, hle⟩
  · exact absurd hlt (by decide)
  · exact absurd hle (by decide)

end Database

end Mosaico
