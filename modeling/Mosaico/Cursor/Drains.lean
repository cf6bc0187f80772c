import Mathlib.Data.List.Infix
import Mathlib.Data.List.Pairwise
import Mathlib.Data.List.Basic
import Mosaico.Transition.Run

/-!
# Draining a log behind a cursor

The entries of a log have ascending places.  A drain reads the entries behind its cursor page
by page, moves the cursor to each entry that it examines and stops at the first one that it
accepts.  Paging does not change what a drain finds; and a reader that others interrupt with
changes which keep the entries of the log in their places and append new ones has examined
exactly the entries that its cursor has passed, each of them once and in their order.
-/

namespace Cursor

open Transition

universe u v w

variable {α : Type u} {σ : Type v} {κ : Type w}

/-! ## Placed lists -/

/-- The entries behind the cursor. -/
def behind (entries : List (Int × α)) (cursor : Int) : List (Int × α) :=
  entries.filter fun entry => decide (cursor < entry.1)

/-- The entries that a cursor has passed since `start`. -/
def passed (entries : List (Int × α)) (start cursor : Int) : List (Int × α) :=
  entries.filter fun entry => decide (start < entry.1) && decide (entry.1 ≤ cursor)

/-- The places ascend. -/
def Ascending (entries : List (Int × α)) : Prop :=
  entries.Pairwise fun first second => first.1 < second.1

theorem mem_behind {entries : List (Int × α)} {cursor : Int} {entry : Int × α} :
    entry ∈ behind entries cursor ↔ entry ∈ entries ∧ cursor < entry.1 := by
  simp [behind]

theorem map_behind {name : α → κ} (entries : List (Int × α)) (cursor : Int) :
    (behind entries cursor).map (Prod.map id name) =
      behind (entries.map (Prod.map id name)) cursor := by
  rw [behind, behind, List.filter_map]
  rfl

/-- A cursor cuts an ascending list in two. -/
theorem exists_split {entries : List (Int × α)} (hascending : Ascending entries) (cursor : Int) :
    ∃ front, entries = front ++ behind entries cursor ∧ ∀ entry ∈ front, entry.1 ≤ cursor := by
  induction entries with
  | nil => exact ⟨[], rfl, fun entry hentry => by cases hentry⟩
  | cons head rest ih =>
      obtain ⟨hhead, hrest⟩ := List.pairwise_cons.mp hascending
      by_cases hbehind : cursor < head.1
      · have hall : behind (head :: rest) cursor = head :: rest := by
          refine List.filter_eq_self.mpr ?_
          intro entry hentry
          rcases List.mem_cons.mp hentry with rfl | hlater
          · exact decide_eq_true hbehind
          · have hlt := hhead entry hlater
            exact decide_eq_true (by omega)
        exact ⟨[], by rw [hall, List.nil_append], fun entry hentry => by cases hentry⟩
      · obtain ⟨front, hsplit, hfront⟩ := ih hrest
        refine ⟨head :: front, ?_, ?_⟩
        · rw [behind, List.filter_cons_of_neg (by simpa using hbehind), List.cons_append]
          exact congrArg (head :: ·) hsplit
        · intro entry hentry
          rcases List.mem_cons.mp hentry with rfl | hmem
          · omega
          · exact hfront entry hmem

/-- What is behind an entry stands after it. -/
theorem behind_of_split {entries front back : List (Int × α)} {cursor : Int} {entry : Int × α}
    (hascending : Ascending entries) (hsplit : behind entries cursor = front ++ entry :: back) :
    behind entries entry.1 = back := by
  have hbehind : cursor < entry.1 := by
    have hmem : entry ∈ behind entries cursor := by
      rw [hsplit]
      simp
    exact (mem_behind.mp hmem).2
  have hnested : behind entries entry.1 =
      (behind entries cursor).filter fun other => decide (entry.1 < other.1) := by
    rw [behind, behind, List.filter_filter]
    refine List.filter_congr ?_
    intro other _
    by_cases hlt : entry.1 < other.1
    · have hcursor : cursor < other.1 := by omega
      simp [hlt, hcursor]
    · simp [hlt]
  have hsub : Ascending (front ++ entry :: back) := by
    rw [← hsplit]
    exact hascending.sublist List.filter_sublist
  obtain ⟨_, hlater, hcross⟩ := List.pairwise_append.mp hsub
  rw [hnested, hsplit, List.filter_append, List.filter_eq_nil_iff.mpr, List.nil_append,
    List.filter_cons_of_neg (by simp), List.filter_eq_self.mpr]
  · intro other hother
    exact decide_eq_true ((List.pairwise_cons.mp hlater).1 other hother)
  · intro other hother
    have hlt := hcross other hother entry (by simp)
    simp only [decide_eq_true_eq]
    omega

/-- The next entry is the one that the cursor passes when it moves there. -/
theorem passed_next {entries back : List (Int × α)} {start cursor : Int} {entry : Int × α}
    (hascending : Ascending entries) (hstart : start ≤ cursor)
    (hnext : behind entries cursor = entry :: back) :
    passed entries start entry.1 = passed entries start cursor ++ [entry] := by
  obtain ⟨front, hsplit, hfront⟩ := exists_split hascending cursor
  have hbehind : cursor < entry.1 := by
    have hmem : entry ∈ behind entries cursor := by
      rw [hnext]
      simp
    exact (mem_behind.mp hmem).2
  have hback : ∀ other ∈ back, entry.1 < other.1 := by
    have hsub : Ascending (entry :: back) := by
      rw [← hnext]
      exact hascending.sublist List.filter_sublist
    exact (List.pairwise_cons.mp hsub).1
  -- Nothing of the front lies between the cursor and the entry, and nothing of the back before it.
  rw [hnext] at hsplit
  rw [hsplit]
  unfold passed
  rw [List.filter_append, List.filter_append]
  have hlow : front.filter (fun other => decide (start < other.1) && decide (other.1 ≤ entry.1)) =
      front.filter fun other => decide (start < other.1) && decide (other.1 ≤ cursor) := by
    refine List.filter_congr ?_
    intro other hother
    have hle := hfront other hother
    have hle' : other.1 ≤ entry.1 := by omega
    simp [hle, hle']
  have hhere : (entry :: back).filter
      (fun other => decide (start < other.1) && decide (other.1 ≤ entry.1)) = [entry] := by
    rw [List.filter_cons_of_pos, List.filter_eq_nil_iff.mpr]
    · intro other hother
      have hlt := hback other hother
      simp only [Bool.and_eq_true, decide_eq_true_eq]
      omega
    · simp only [Bool.and_eq_true, decide_eq_true_eq]
      omega
  have hnone : (entry :: back).filter
      (fun other => decide (start < other.1) && decide (other.1 ≤ cursor)) = [] := by
    refine List.filter_eq_nil_iff.mpr ?_
    intro other hother
    simp only [Bool.and_eq_true, decide_eq_true_eq]
    rcases List.mem_cons.mp hother with rfl | hlater
    · omega
    · have hlt := hback other hlater
      omega
  rw [hlow, hhere, hnone, List.append_nil]

/-! ## Logs and drains -/

/-- Entries in the order of their places. -/
structure Log (α : Type u) where
  entries : List (Int × α)
  ascending : Ascending entries

/-- The next entries behind the cursor. -/
def Log.page (log : Log α) (limit : Nat) (cursor : Int) : List (Int × α) :=
  (behind log.entries cursor).take limit

/-- Examine entries up to the first accepted one; the cursor moves along. -/
def scan (accepts : α → Bool) : Int → List (Int × α) → Option α × Int
  | cursor, [] => (none, cursor)
  | _, entry :: rest =>
      if accepts entry.2 = true then (some entry.2, entry.1) else scan accepts entry.1 rest

variable {accepts : α → Bool} {log : Log α} {limit : Nat} {cursor : Int}

theorem scan_append (first second : List (Int × α)) :
    scan accepts cursor (first ++ second) =
      if (scan accepts cursor first).1.isSome = true then scan accepts cursor first
      else scan accepts (scan accepts cursor first).2 second := by
  induction first generalizing cursor with
  | nil => rfl
  | cons entry rest ih =>
      rw [List.cons_append, scan, scan]
      split
      · rfl
      · exact ih

/-- An accepted entry is the first one that is accepted. -/
theorem scan_eq_some {entries : List (Int × α)} {content : α} {place : Int}
    (hscan : scan accepts cursor entries = (some content, place)) :
    ∃ before after, entries = before ++ (place, content) :: after ∧
      accepts content = true ∧ ∀ entry ∈ before, accepts entry.2 = false := by
  induction entries generalizing cursor with
  | nil => cases hscan
  | cons entry rest ih =>
      rw [scan] at hscan
      split at hscan
      · rename_i haccepted
        cases hscan
        exact ⟨[], rest, rfl, haccepted, fun other hother => by cases hother⟩
      · rename_i hrefused
        obtain ⟨before, after, rfl, haccepted, hbefore⟩ := ih hscan
        refine ⟨entry :: before, after, rfl, haccepted, ?_⟩
        intro other hother
        rcases List.mem_cons.mp hother with rfl | hmem
        · exact Bool.eq_false_iff.mpr hrefused
        · exact hbefore other hmem

/-- Without an accepted entry the cursor stands at the last one. -/
theorem scan_eq_none {entries : List (Int × α)} {place : Int}
    (hscan : scan accepts cursor entries = (none, place)) :
    (∀ entry ∈ entries, accepts entry.2 = false) ∧
      place = (entries.getLast?.map Prod.fst).getD cursor := by
  induction entries generalizing cursor with
  | nil =>
      cases hscan
      exact ⟨by simp, rfl⟩
  | cons entry rest ih =>
      rw [scan] at hscan
      split at hscan
      · cases hscan
      · rename_i hrefused
        obtain ⟨hrest, hplace⟩ := ih hscan
        constructor
        · intro other hother
          rcases List.mem_cons.mp hother with rfl | hmem
          · exact Bool.eq_false_iff.mpr hrefused
          · exact hrest other hmem
        · rw [hplace]
          cases rest with
          | nil => rfl
          | cons next later =>
              rw [List.getLast?_cons_cons]
              cases hlast : (next :: later).getLast? with
              | none => simp at hlast
              | some last => rfl

/-- After a scan without a find, what was not scanned is behind the cursor. -/
theorem behind_scan {entries rest : List (Int × α)} (hascending : Ascending log.entries)
    (hsplit : behind log.entries cursor = entries ++ rest)
    (hnone : (scan accepts cursor entries).1 = none) :
    behind log.entries (scan accepts cursor entries).2 = rest := by
  cases hscan : scan accepts cursor entries with
  | mk found place =>
      rw [hscan] at hnone
      obtain rfl : found = none := hnone
      obtain ⟨_, hplace⟩ := scan_eq_none hscan
      rcases List.eq_nil_or_concat entries with rfl | ⟨earlier, last, hconcat⟩
      · rw [List.getLast?_nil] at hplace
        rw [show place = cursor from hplace, hsplit, List.nil_append]
      · rw [List.concat_eq_append] at hconcat
        subst hconcat
        rw [List.getLast?_concat] at hplace
        rw [show place = last.1 from hplace]
        rw [List.append_assoc, List.singleton_append] at hsplit
        exact behind_of_split hascending hsplit

theorem length_behind_scan_lt (hpage : (log.page limit cursor).isEmpty = false)
    (hnone : (scan accepts cursor (log.page limit cursor)).1 = none) :
    (behind log.entries (scan accepts cursor (log.page limit cursor)).2).length <
      (behind log.entries cursor).length := by
  have hsplit : behind log.entries cursor =
      log.page limit cursor ++ (behind log.entries cursor).drop limit :=
    (List.take_append_drop limit _).symm
  have hlength := congrArg List.length hsplit
  have hpositive : 0 < (log.page limit cursor).length := by
    rw [List.length_pos_iff]
    intro hnil
    rw [hnil] at hpage
    cases hpage
  rw [List.length_append] at hlength
  rw [behind_scan log.ascending hsplit hnone]
  omega

/-- Read pages until one has an accepted entry or is not full. -/
def drain (limit : Nat) (accepts : α → Bool) (log : Log α) (cursor : Int) : Option α × Int :=
  if _hempty : (log.page limit cursor).isEmpty = true then (none, cursor)
  else if _hfound : (scan accepts cursor (log.page limit cursor)).1.isSome = true then
    scan accepts cursor (log.page limit cursor)
  else if (log.page limit cursor).length = limit then
    drain limit accepts log (scan accepts cursor (log.page limit cursor)).2
  else scan accepts cursor (log.page limit cursor)
termination_by (behind log.entries cursor).length
decreasing_by
  exact length_behind_scan_lt (Bool.eq_false_iff.mpr _hempty) (by simpa using _hfound)

/-- A drain finds what one scan of all the entries behind the cursor finds. -/
theorem drain_eq_scan (accepts : α → Bool) (log : Log α) (cursor : Int) (hlimit : 0 < limit) :
    drain limit accepts log cursor = scan accepts cursor (behind log.entries cursor) := by
  induction hcount : (behind log.entries cursor).length using Nat.strong_induction_on
    generalizing cursor with
  | _ count ih =>
      have hsplit : behind log.entries cursor =
          log.page limit cursor ++ (behind log.entries cursor).drop limit :=
        (List.take_append_drop limit _).symm
      rw [drain]
      split
      · rename_i hempty
        have hnil : behind log.entries cursor = [] := by
          have hpage := List.isEmpty_iff.mp hempty
          rw [Log.page, List.take_eq_nil_iff] at hpage
          rcases hpage with hzero | hnil
          · omega
          · exact hnil
        rw [hnil]
        rfl
      · rename_i hempty
        have hscan : scan accepts cursor (log.page limit cursor ++
            (behind log.entries cursor).drop limit) = _ := scan_append _ _
        rw [← hsplit] at hscan
        rw [hscan]
        split
        · rfl
        · rename_i hfound
          have hnone : (scan accepts cursor (log.page limit cursor)).1 = none := by
            simpa using hfound
          have hrest := behind_scan log.ascending hsplit hnone
          split
          · have hlt := length_behind_scan_lt (Bool.eq_false_iff.mpr hempty) hnone
            rw [ih _ (by omega) _ rfl, hrest]
          · rename_i hpartial
            have hdrop : (behind log.entries cursor).drop limit = [] := by
              rw [List.drop_eq_nil_iff]
              rw [Log.page, List.length_take] at hpartial
              omega
            rw [hdrop, scan]
            exact Prod.ext hnone rfl

/-! ## Readers among writers -/

/-- A reader that drains a log again and again, one access to the world at a time.  `batch` has
the rest of a page while one is examined, and whether that page was full; `examined` and
`answers` have what has been examined, with the verdict, and what the drains answered. -/
structure Reader (σ : Type v) (α : Type u) where
  world : σ
  cursor : Int
  batch : Option (List (Int × α) × Bool)
  examined : List ((Int × α) × Bool)
  answers : List (Option α)

/-- Somebody changes the world, or the reader makes its next access. -/
inductive Access (σ : Type v) where
  | change (world : σ)
  | proceed

/-- A world with a log, the verdict on an entry and the size of a page. -/
structure Source (σ : Type v) (α : Type u) where
  log : σ → Log α
  accepts : σ → α → Bool
  limit : Nat

/-- The entries of a world by place and name. -/
def Source.names (source : Source σ α) (name : α → κ) (world : σ) : List (Int × κ) :=
  (source.log world).entries.map (Prod.map id name)

namespace Reader

variable {source : Source σ α} {name : α → κ} {reader : Reader σ α}

/-- Read the next page; a drain ends at an empty one. -/
def readPage (source : Source σ α) (reader : Reader σ α) : Reader σ α :=
  let rows := (source.log reader.world).page source.limit reader.cursor
  if rows.isEmpty = true then
    { reader with batch := none, answers := reader.answers ++ [none] }
  else { reader with batch := some (rows, rows.length == source.limit) }

/-- Examine an entry.  A drain ends at an accepted one and behind a page that was not full. -/
def examine (source : Source σ α) (reader : Reader σ α) (entry : Int × α)
    (rest : List (Int × α)) (full : Bool) : Reader σ α :=
  let accepted := source.accepts reader.world entry.2
  { reader with
    cursor := entry.1
    batch := if accepted = true ∨ rest.isEmpty = true then none else some (rest, full)
    examined := reader.examined ++ [(entry, accepted)]
    answers := if accepted = true then reader.answers ++ [some entry.2]
      else if rest.isEmpty = true ∧ full = false then reader.answers ++ [none]
      else reader.answers }

def proceed (source : Source σ α) (reader : Reader σ α) : Reader σ α :=
  match reader.batch with
  | some (entry :: rest, full) => reader.examine source entry rest full
  | _ => reader.readPage source

/-- A change keeps the entries of the log by place and name and may append others; a change
that does not is none of this system. -/
def step [DecidableEq κ] (source : Source σ α) (name : α → κ) (reader : Reader σ α) :
    Access σ → Reader σ α
  | .change world =>
      if source.names name reader.world <+: source.names name world then
        { reader with world := world }
      else reader
  | .proceed => reader.proceed source

/-- A reader at the start of its first drain. -/
def new (world : σ) (cursor : Int) : Reader σ α where
  world := world
  cursor := cursor
  batch := none
  examined := []
  answers := []

/-- What the reader has been told. -/
def received (reader : Reader σ α) : List α := reader.answers.filterMap id

/-- The cursor stands at the last entry that was examined, it has passed what has been examined,
and what is left of a page comes next. -/
structure Tracks (source : Source σ α) (name : α → κ) (start : Int) (reader : Reader σ α) :
    Prop where
  le : start ≤ reader.cursor
  last : reader.cursor = (reader.examined.getLast?.map fun row => row.1.1).getD start
  examined : reader.examined.map (fun row => Prod.map id name row.1) =
    passed (source.names name reader.world) start reader.cursor
  pending : ∀ rows full, reader.batch = some (rows, full) →
    rows.map (Prod.map id name) <+: behind (source.names name reader.world) reader.cursor
  received : reader.received = (reader.examined.filter (·.2)).map (·.1.2)

theorem ascending_names (source : Source σ α) (name : α → κ) (world : σ) :
    Ascending (source.names name world) := by
  rw [Source.names, Ascending, List.pairwise_map]
  exact (source.log world).ascending

theorem behind_append (first second : List (Int × κ)) (cursor : Int) :
    behind (first ++ second) cursor = behind first cursor ++ behind second cursor :=
  List.filter_append first second

theorem passed_append (first second : List (Int × κ)) (start cursor : Int) :
    passed (first ++ second) start cursor = passed first start cursor ++ passed second start cursor :=
  List.filter_append first second

theorem tracks_new (world : σ) (cursor : Int) :
    Tracks source name cursor (new world cursor : Reader σ α) := by
  constructor
  · exact Int.le_refl cursor
  · rfl
  · have hnone : passed (source.names name world) cursor cursor = [] := by
      refine List.filter_eq_nil_iff.mpr ?_
      intro entry _
      simp only [Bool.and_eq_true, decide_eq_true_eq]
      omega
    exact hnone.symm
  · intro rows full hbatch
    cases hbatch
  · rfl

/-- The cursor stands where it started or at an entry. -/
theorem Tracks.standing {start : Int} (htracks : Tracks source name start reader) :
    reader.cursor = start ∨
      ∃ entry ∈ source.names name reader.world, entry.1 = reader.cursor := by
  have hlast := htracks.last
  rcases List.eq_nil_or_concat reader.examined with hnil | ⟨earlier, row, hconcat⟩
  · rw [hnil] at hlast
    exact Or.inl hlast
  · rw [List.concat_eq_append] at hconcat
    rw [hconcat, List.getLast?_concat] at hlast
    have hpassed : Prod.map id name row.1 ∈
        passed (source.names name reader.world) start reader.cursor := by
      rw [← htracks.examined, hconcat]
      simp
    exact Or.inr ⟨_, (List.mem_filter.mp hpassed).1, hlast.symm⟩

/-- What is appended to a log stands behind every cursor that is not above the log. -/
theorem Tracks.change {start : Int} (htracks : Tracks source name start reader) {world : σ}
    (hkept : source.names name reader.world <+: source.names name world) :
    Tracks source name start { reader with world := world } := by
  obtain ⟨appended, happended⟩ := hkept
  have hascending := ascending_names source name world
  rw [← happended] at hascending
  obtain ⟨_, _, hcross⟩ := List.pairwise_append.mp hascending
  have hnone : passed appended start reader.cursor = [] := by
    refine List.filter_eq_nil_iff.mpr ?_
    intro entry hentry
    simp only [Bool.and_eq_true, decide_eq_true_eq]
    rcases htracks.standing with hstart | ⟨last, hlast, hplace⟩
    · omega
    · have hlt := hcross last hlast entry hentry
      omega
  constructor
  · exact htracks.le
  · exact htracks.last
  · rw [htracks.examined]
    show _ = passed (source.names name world) start reader.cursor
    rw [← happended, passed_append, hnone, List.append_nil]
  · intro rows full hbatch
    show _ <+: behind (source.names name world) reader.cursor
    rw [← happended, behind_append]
    exact (htracks.pending rows full hbatch).trans (List.prefix_append _ _)
  · exact htracks.received

theorem Tracks.readPage {start : Int} (htracks : Tracks source name start reader) :
    Tracks source name start (reader.readPage source) := by
  unfold Reader.readPage
  simp only
  split
  · constructor
    · exact htracks.le
    · exact htracks.last
    · exact htracks.examined
    · intro rows full hbatch
      cases hbatch
    · show (reader.answers ++ [none]).filterMap id = _
      rw [List.filterMap_append, List.filterMap_cons_none rfl, List.filterMap_nil,
        List.append_nil]
      exact htracks.received
  · constructor
    · exact htracks.le
    · exact htracks.last
    · exact htracks.examined
    · intro rows full hbatch
      cases hbatch
      show (Log.page _ _ _).map (Prod.map id name) <+: behind (source.names name reader.world) _
      rw [Source.names, ← map_behind]
      exact (List.take_prefix _ _).map _
    · exact htracks.received

theorem Tracks.examine {start : Int} (htracks : Tracks source name start reader)
    {entry : Int × α} {rest : List (Int × α)} {full : Bool}
    (hbatch : reader.batch = some (entry :: rest, full)) :
    Tracks source name start (reader.examine source entry rest full) := by
  -- The entry is the first one behind the cursor.
  have hascending := ascending_names source name reader.world
  obtain ⟨later, hlater⟩ := htracks.pending _ _ hbatch
  rw [List.map_cons, List.cons_append] at hlater
  have hmem : Prod.map id name entry ∈ behind (source.names name reader.world) reader.cursor := by
    rw [← hlater]
    exact List.mem_cons_self
  obtain ⟨hentry, hlt⟩ := mem_behind.mp hmem
  have hplace : (Prod.map id name entry).1 = entry.1 := rfl
  constructor
  · have hle := htracks.le
    show start ≤ entry.1
    omega
  · show entry.1 = ((reader.examined ++ [(entry, _)]).getLast?.map _).getD start
    rw [List.getLast?_concat]
    rfl
  · show (reader.examined ++ [(entry, _)]).map _ =
      passed (source.names name reader.world) start entry.1
    rw [List.map_append, htracks.examined, ← hplace,
      passed_next hascending htracks.le hlater.symm]
    rfl
  · intro rows isFull hnext
    have hbehind : behind (source.names name reader.world) entry.1 =
        rest.map (Prod.map id name) ++ later :=
      behind_of_split hascending (hlater.symm.trans (List.nil_append _).symm)
    show _ <+: behind (source.names name reader.world) entry.1
    simp only [Reader.examine] at hnext
    split at hnext
    · cases hnext
    · cases hnext
      rw [hbehind]
      exact List.prefix_append _ _
  · have hreceived := htracks.received
    unfold Reader.received at hreceived ⊢
    simp only [Reader.examine]
    split
    · rename_i haccepted
      rw [List.filterMap_append, hreceived, List.filter_append, List.map_append, haccepted]
      rfl
    · rename_i hrefused
      rw [List.filter_append, List.filter_cons_of_neg (by simpa using hrefused), List.filter_nil,
        List.append_nil, ← hreceived]
      split
      · rw [List.filterMap_append, List.filterMap_cons_none rfl, List.filterMap_nil,
          List.append_nil]
      · rfl

theorem Tracks.proceed {start : Int} (htracks : Tracks source name start reader) :
    Tracks source name start (reader.proceed source) := by
  unfold Reader.proceed
  split
  · rename_i entry rest full hbatch
    exact htracks.examine hbatch
  · exact htracks.readPage

/-- Whatever happens in between, the reader has examined what its cursor has passed. -/
theorem tracks_run [DecidableEq κ] (source : Source σ α) (name : α → κ) (world : σ)
    (cursor : Int) (accesses : List (Access σ)) :
    Tracks source name cursor
      (run (step source name) (new world cursor : Reader σ α) accesses) := by
  refine run_invariant (I := Tracks source name cursor) (tracks_new world cursor) ?_ accesses
  intro reader access htracks
  cases access with
  | change world =>
      simp only [step]
      split
      · rename_i hkept
        exact htracks.change hkept
      · exact htracks
  | proceed => exact htracks.proceed

/-! ## A reader left alone -/

/-- What a scan adds to the answers of a reader. -/
def answered (full : Bool) : Option α → List (Option α)
  | some content => [some content]
  | none => if full = true then [] else [none]

/-- The rest of a page is examined in as many accesses. -/
theorem exists_scanned [DecidableEq κ] (source : Source σ α) (name : α → κ)
    (reader : Reader σ α) (rows : List (Int × α)) (full : Bool)
    (hrows : rows ≠ []) (hbatch : reader.batch = some (rows, full)) :
    ∃ count, let after := run (step source name) reader (List.replicate count .proceed)
      after.world = reader.world ∧ after.batch = none ∧
        after.cursor = (scan (source.accepts reader.world) reader.cursor rows).2 ∧
        after.answers = reader.answers ++
          answered full (scan (source.accepts reader.world) reader.cursor rows).1 := by
  induction rows generalizing reader with
  | nil => exact absurd rfl hrows
  | cons entry rest ih =>
      have hproceed : reader.proceed source = reader.examine source entry rest full := by
        unfold proceed
        rw [hbatch]
      -- One proceed examines the first row; an accepted row ends the batch.
      by_cases haccepted : source.accepts reader.world entry.2 = true
      · refine ⟨1, ?_⟩
        have hscan : scan (source.accepts reader.world) reader.cursor (entry :: rest) =
            (some entry.2, entry.1) := by
          rw [scan, if_pos haccepted]
        rw [hscan]
        simp only [List.replicate_one, run_cons, run_nil, step, hproceed, Reader.examine,
          haccepted]
        simp [answered]
      · have hscan : scan (source.accepts reader.world) reader.cursor (entry :: rest) =
            scan (source.accepts reader.world) entry.1 rest := by
          rw [scan, if_neg haccepted]
        rw [hscan]
        cases rest with
        | nil =>
            refine ⟨1, ?_⟩
            simp only [List.replicate_one, run_cons, run_nil, step, hproceed, Reader.examine,
              haccepted]
            cases full <;> simp [scan, answered]
        | cons next later =>
            have hnext : (reader.examine source entry (next :: later) full).batch =
                some (next :: later, full) := by
              simp [Reader.examine, haccepted]
            have hanswers : (reader.examine source entry (next :: later) full).answers =
                reader.answers := by
              simp [Reader.examine, haccepted]
            obtain ⟨count, hworld, hidle, hcursor, hafter⟩ := ih _ (List.cons_ne_nil _ _) hnext
            refine ⟨count + 1, ?_⟩
            rw [hanswers] at hafter
            rw [List.replicate_succ, run_cons]
            simp only [step, hproceed]
            exact ⟨hworld, hidle, hcursor, hafter⟩

/-- A drain that nobody interrupts ends, with the answer and the cursor of `drain`. -/
theorem exists_drained [DecidableEq κ] (source : Source σ α) (name : α → κ)
    (hbatch : reader.batch = none) :
    ∃ count, let after := run (step source name) reader (List.replicate count .proceed)
      after.world = reader.world ∧ after.batch = none ∧
        after.cursor = (drain source.limit (source.accepts reader.world)
          (source.log reader.world) reader.cursor).2 ∧
        after.answers = reader.answers ++ [(drain source.limit (source.accepts reader.world)
          (source.log reader.world) reader.cursor).1] := by
  -- Strong induction on the entries behind the cursor: a full page without an answer is read on.
  induction hlength : (behind (source.log reader.world).entries reader.cursor).length
    using Nat.strong_induction_on generalizing reader with
  | _ length ih =>
      have hproceed : reader.proceed source = reader.readPage source := by
        unfold proceed
        rw [hbatch]
      rw [drain]
      split
      · rename_i hempty
        refine ⟨1, ?_⟩
        simp [step, hproceed, readPage, hempty]
      · rename_i hempty
        have hread : reader.readPage source =
            { reader with batch := some ((source.log reader.world).page source.limit reader.cursor,
                ((source.log reader.world).page source.limit reader.cursor).length ==
                  source.limit) } := by
          unfold readPage
          simp only
          rw [if_neg hempty]
        obtain ⟨count, hworld, hidle, hcursor, hanswers⟩ :=
          exists_scanned source name (reader.readPage source)
            ((source.log reader.world).page source.limit reader.cursor)
            (((source.log reader.world).page source.limit reader.cursor).length == source.limit)
            (fun hnil => hempty (List.isEmpty_iff.mpr hnil)) (by rw [hread])
        have hrun : run (step source name) reader (List.replicate (count + 1) .proceed) =
            run (step source name) (reader.readPage source) (List.replicate count .proceed) := by
          rw [List.replicate_succ, run_cons, ← hproceed]
          rfl
        rw [← hrun] at hworld hidle hcursor hanswers
        simp only [hread] at hworld hcursor hanswers
        split
        · rename_i hfound
          refine ⟨count + 1, hworld, hidle, hcursor, ?_⟩
          obtain ⟨content, hcontent⟩ := Option.isSome_iff_exists.mp hfound
          rw [hanswers, hcontent]
          rfl
        · rename_i hfound
          have hnone : (scan (source.accepts reader.world) reader.cursor
              ((source.log reader.world).page source.limit reader.cursor)).1 = none := by
            simpa using hfound
          rw [hnone] at hanswers
          split
          · rename_i hfull
            rw [hfull, beq_self_eq_true, answered, if_pos rfl, List.append_nil] at hanswers
            -- a full page moved the cursor, so fewer entries are left
            have hlt := length_behind_scan_lt (Bool.eq_false_iff.mpr hempty) hnone
            have hshorter := hlt
            rw [← hcursor, hlength] at hshorter
            obtain ⟨more, hworld', hidle', hcursor', hanswers'⟩ :=
              ih _ (by rw [← hworld] at hshorter; exact hshorter) hidle rfl
            refine ⟨count + 1 + more, ?_⟩
            rw [List.replicate_add, run_append]
            rw [hworld, hcursor] at hcursor' hanswers'
            rw [hanswers] at hanswers'
            exact ⟨hworld'.trans hworld, hidle', hcursor', hanswers'⟩
          · rename_i hpartial
            refine ⟨count + 1, hworld, hidle, hcursor, ?_⟩
            rw [hanswers, beq_false_of_ne hpartial, hnone]
            rfl

/-- A reader that nobody interrupts gives its next answer. -/
theorem exists_answer [DecidableEq κ] (source : Source σ α) (name : α → κ)
    (reader : Reader σ α) :
    ∃ count, let after := run (step source name) reader (List.replicate count .proceed)
      after.batch = none ∧ reader.answers.length < after.answers.length := by
  have hidle : ∀ idle : Reader σ α, idle.batch = none →
      ∃ count, let after := run (step source name) idle (List.replicate count .proceed)
        after.batch = none ∧ idle.answers.length < after.answers.length := by
    intro idle hbatch
    obtain ⟨count, _, hdone, _, hanswers⟩ :=
      exists_drained source name hbatch
    refine ⟨count, hdone, ?_⟩
    rw [hanswers, List.length_append]
    simp
  cases hbatch : reader.batch with
  | none => exact hidle reader hbatch
  | some page =>
      obtain ⟨rows, full⟩ := page
      cases rows with
      | nil =>
          -- The reader goes on as one that has no page.
          obtain ⟨count, hdone, hlonger⟩ := hidle { reader with batch := none } rfl
          cases count with
          | zero => exact absurd hlonger (Nat.lt_irrefl _)
          | succ count =>
              have hsame : reader.proceed source =
                  ({ reader with batch := none } : Reader σ α).proceed source := by
                unfold proceed
                rw [hbatch]
                rfl
              refine ⟨count + 1, ?_⟩
              rw [List.replicate_succ, run_cons] at hdone hlonger ⊢
              simp only [step, hsame]
              exact ⟨hdone, hlonger⟩
      | cons entry rest =>
          obtain ⟨count, _, hscanned, _, hanswers⟩ :=
            exists_scanned source name reader (entry :: rest) full (List.cons_ne_nil _ _) hbatch
          obtain ⟨more, hdone, hlonger⟩ := hidle _ hscanned
          refine ⟨count + more, ?_⟩
          rw [List.replicate_add, run_append]
          refine ⟨hdone, ?_⟩
          rw [hanswers, List.length_append] at hlonger
          omega

/-- If the verdicts do not change, the names of what the reader has received are those of the
accepted entries that its cursor has passed. -/
theorem Tracks.received_names {start : Int} (htracks : Tracks source name start reader)
    (matching : κ → Bool) (hmatching : ∀ row ∈ reader.examined, row.2 = matching (name row.1.2)) :
    reader.received.map name =
      ((passed (source.names name reader.world) start reader.cursor).map Prod.snd).filter
        matching := by
  rw [htracks.received, ← htracks.examined, List.map_map, List.map_map, List.filter_map]
  have hfilter : reader.examined.filter (·.2) =
      reader.examined.filter (matching ∘ (Prod.snd ∘ fun row => Prod.map id name row.1)) :=
    List.filter_congr fun row hrow => hmatching row hrow
  rw [hfilter]
  rfl

end Reader

end Cursor
