import Mosaico.Fabric.ChannelPaths
import Mosaico.Text.Segments
import Mosaico.Rust.Text

/-!
# What a channel reference prints and how it is read

A reference prints the id of a root channel and, below it, the names on the way down to the
channel.  Reading it back gives the same names when the root and the names are single path
segments, and no absolute reference is read below any other root.
-/

namespace Mosaico

open Relational Forest

/-- The name that a reference prints for a channel below its root. -/
def Channel.shownName (channel : Channel) : String :=
  channel.humanName.getD channel.channelH

/-! ## The walk of the printer -/

namespace Database

variable {db : Database} {root channelH : String} {names : List String}

/-- No two channels below one parent have one name. -/
def SiblingsDistinct (db : Database) : Prop :=
  ∀ first ∈ db.channels.rows, ∀ second ∈ db.channels.rows, first.parent = second.parent →
    first.name = second.name → first.channelH = second.channelH

/-- The names printed below `root` on the way down to a channel. -/
inductive NamePath (db : Database) (root : String) : String → List String → Prop
  | root {channel : Channel} (hget : db.getChannel root = some channel)
      (hroot : channel.parent = "") : NamePath db root root []
  | child {channelH : String} {channel : Channel} {names : List String}
      (hget : db.getChannel channelH = some channel) (hparent : channel.parent ≠ "")
      (hup : NamePath db root channel.parent names) :
      NamePath db root channelH (names ++ [channel.shownName])

theorem refWalk_of_namePath (hpath : db.NamePath root channelH names) (start : String)
    (parts : List String) {fuel : Nat} (hfuel : names.length < fuel) :
    db.refWalk start fuel channelH parts = (root, names ++ parts) := by
  induction hpath generalizing fuel parts with
  | root hget hroot =>
      obtain ⟨fuel, rfl⟩ : ∃ rest, fuel = rest + 1 := ⟨fuel - 1, by omega⟩
      have hid : _ = root := Table.key_of_find? hget
      rw [refWalk, hget]
      dsimp only
      rw [if_pos hroot, hid, List.nil_append]
  | child hget hparent _ ih =>
      obtain ⟨fuel, rfl⟩ : ∃ rest, fuel = rest + 1 := ⟨fuel - 1, by omega⟩
      rw [List.length_append, List.length_singleton] at hfuel
      rw [refWalk, hget]
      dsimp only
      rw [if_neg hparent, ih _ (by omega), List.append_assoc]
      rfl

/-- A channel has one root and one list of names. -/
theorem NamePath.unique {other : String} {otherNames : List String}
    (hpath : db.NamePath root channelH names) (hother : db.NamePath other channelH otherNames) :
    root = other ∧ names = otherNames := by
  have hwalk := refWalk_of_namePath hpath channelH []
    (show names.length < names.length + otherNames.length + 1 by omega)
  rw [refWalk_of_namePath hother _ _ (by omega), Prod.mk.injEq, List.append_nil,
    List.append_nil] at hwalk
  exact ⟨hwalk.1.symm, hwalk.2.symm⟩

theorem parentLinks_of_getChannel {channel : Channel}
    (hget : db.getChannel channelH = some channel) :
    db.parentLinks channelH = some channel.parentLink := by
  rw [parentLinks, hget, Option.map_some]

theorem NamePath.rooted (hpath : db.NamePath root channelH names) :
    Rooted db.parentLinks channelH root names.length := by
  induction hpath with
  | root hget hroot =>
      refine .root ?_
      rw [parentLinks_of_getChannel hget, Channel.parentLink, if_pos hroot]
  | child hget hparent _ ih =>
      rw [List.length_append, List.length_singleton]
      refine .child ?_ ih
      rw [parentLinks_of_getChannel hget, Channel.parentLink, if_neg hparent]

/-- Every rooted channel has names down to it, one for each link. -/
theorem exists_namePath {depth : Nat} (hrooted : Rooted db.parentLinks channelH root depth) :
    ∃ names, names.length = depth ∧ db.NamePath root channelH names := by
  induction hrooted with
  | root hnode =>
      obtain ⟨channel, hget, hlink⟩ := Option.map_eq_some_iff.mp hnode
      refine ⟨[], rfl, .root hget ?_⟩
      by_contra hparent
      rw [Channel.parentLink, if_neg hparent] at hlink
      cases hlink
  | child hnode _ ih =>
      obtain ⟨names, hlength, hup⟩ := ih
      obtain ⟨channel, hget, hlink⟩ := Option.map_eq_some_iff.mp hnode
      rw [Channel.parentLink] at hlink
      split at hlink
      · cases hlink
      · rename_i hparent
        cases hlink
        refine ⟨names ++ [channel.shownName], ?_, .child hget hparent hup⟩
        rw [List.length_append, List.length_singleton, hlength]

theorem fullChannelRef_of_namePath (hpath : db.NamePath root channelH names)
    (hdepth : names.length < maxChannelRefDepth) :
    db.fullChannelRef channelH = formatChannelRef root names := by
  rw [fullChannelRef, refWalk_of_namePath hpath _ _ hdepth, List.append_nil]

end Database

/-! ## The reading of a reference -/

/-- A text that a reference holds as one segment. -/
structure IsSegment (text : String) : Prop where
  nonempty : text ≠ ""
  trimmed : Rust.trim text = text
  noSlash : '/' ∉ text.toList
  noDot : '.' ∉ text.toList

theorem toList_formatChannelRef (root : String) (names : List String) :
    (formatChannelRef root names).toList =
      '/' :: ['/'].intercalate ((root :: names).map String.toList) := by
  -- the fold appends to the reference so far, whatever it is
  have hfold : ∀ (names : List String) (front : List Char) (root : String),
      (names.foldl (fun reference descendant => reference ++ "/" ++ descendant)
        (String.ofList front ++ root)).toList =
        front ++ ['/'].intercalate ((root :: names).map String.toList) := by
    intro names
    induction names with
    | nil => intro front root; simp
    | cons name names ih =>
        intro front root
        have hnext : String.ofList front ++ root ++ "/" =
            String.ofList (front ++ root.toList ++ ['/']) := by
          rw [← String.toList_inj]
          simp
        rw [List.foldl_cons, hnext, ih, List.map_cons, List.map_cons, List.map_cons,
          List.intercalate_cons_cons]
        simp
  exact hfold names ['/'] root

theorem formatChannelRef_concat (root : String) (names : List String) (name : String) :
    formatChannelRef root (names ++ [name]) = formatChannelRef root names ++ "/" ++ name := by
  rw [formatChannelRef, List.foldl_append, List.foldl_cons, List.foldl_nil, formatChannelRef]

/-- No channel below a root shares the reference of the root. -/
theorem formatChannelRef_concat_ne (root : String) (names : List String) (name : String) :
    formatChannelRef root (names ++ [name]) ≠ formatChannelRef root [] := by
  have hlonger : (formatChannelRef root []).length ≤ (formatChannelRef root names).length := by
    induction names using List.reverseRecOn with
    | nil => exact Nat.le_refl _
    | append_singleton front last ih =>
        rw [formatChannelRef_concat, String.length_append, String.length_append]
        omega
  intro hsame
  have hlength := congrArg String.length hsame
  rw [formatChannelRef_concat, String.length_append, String.length_append] at hlength
  have hslash : ("/" : String).length = 1 := rfl
  omega

/-- The segments of the path that is printed for a root and names below it. -/
def pathSegments (root : String) (names : List String) : List (List Char) :=
  (root :: names).flatMap fun part => part.toList.splitOn '/'

/-- Two references are equal when their paths have the same segments. -/
theorem formatChannelRef_eq_iff {root other : String} {names otherNames : List String} :
    formatChannelRef root names = formatChannelRef other otherNames ↔
      pathSegments root names = pathSegments other otherNames := by
  rw [← String.toList_inj, toList_formatChannelRef, toList_formatChannelRef, List.cons_inj_right,
    Text.intercalate_eq_iff (by simp) (by simp), List.flatMap_map, List.flatMap_map]
  exact Iff.rfl

theorem mem_toList_trim {text : String} {c : Char} (hc : c ∈ (Rust.trim text).toList) :
    c ∈ text.toList := by
  rw [Rust.toList_trim] at hc
  exact (List.dropWhile_suffix _).subset ((List.rdropWhile_prefix _ _).subset hc)

/-- A printed reference stays absolute when it is trimmed. -/
theorem head?_trim_formatChannelRef (root : String) (names : List String) :
    (Rust.trim (formatChannelRef root names)).toList.head? = some '/' := by
  rw [Rust.toList_trim, toList_formatChannelRef,
    List.dropWhile_cons_of_neg (show ¬ Rust.isWhitespace '/' = true by decide)]
  generalize ['/'].intercalate ((root :: names).map String.toList) = path
  have hprefix := List.rdropWhile_prefix (p := Rust.isWhitespace) (l := '/' :: path)
  cases htrim : ('/' :: path).rdropWhile Rust.isWhitespace with
  | nil =>
      have hall := List.rdropWhile_eq_nil_iff.mp htrim '/' List.mem_cons_self
      exact absurd hall (by decide)
  | cons c rest =>
      rw [htrim] at hprefix
      obtain ⟨after, heq⟩ := hprefix
      rw [List.cons_append, List.cons.injEq] at heq
      rw [heq.1]
      rfl

section Segments

variable {root : String} {names : List String} (hparts : ∀ part ∈ root :: names, IsSegment part)

include hparts

theorem exists_segment {chars : List Char} (hchars : chars ∈ (root :: names).map String.toList) :
    ∃ part, IsSegment part ∧ part.toList = chars := by
  obtain ⟨part, hpart, rfl⟩ := List.mem_map.mp hchars
  exact ⟨part, hparts part hpart, rfl⟩

theorem ne_nil_of_segment {chars : List Char}
    (hchars : chars ∈ (root :: names).map String.toList) : chars ≠ [] := by
  obtain ⟨part, hpart, rfl⟩ := exists_segment hparts hchars
  intro hempty
  exact hpart.nonempty (String.toList_inj.mp hempty)

/-- Splitting the path behind the first slash gives the segments. -/
theorem splitOn_path :
    (['/'].intercalate ((root :: names).map String.toList)).splitOn '/' =
      (root :: names).map String.toList := by
  refine List.splitOn_intercalate '/' ?_ (List.cons_ne_nil _ _)
  intro chars hchars
  obtain ⟨part, hpart, rfl⟩ := exists_segment hparts hchars
  exact hpart.noSlash

/-- The last letter of a reference is the last letter of a segment. -/
theorem last_formatChannelRef {c : Char}
    (hc : c ∈ (formatChannelRef root names).toList.getLast?) :
    Rust.isWhitespace c = false ∧ c ≠ '/' := by
  rw [toList_formatChannelRef] at hc
  have hne : ['/'].intercalate ((root :: names).map String.toList) ≠ [] := by
    intro hempty
    have hsplit := splitOn_path hparts
    rw [hempty, List.splitOn_nil] at hsplit
    exact ne_nil_of_segment hparts (by rw [← hsplit]; exact List.mem_cons_self) rfl
  rw [List.getLast?_cons_of_ne_nil hne] at hc
  obtain ⟨chars, hchars, hend⟩ :=
    Text.getLast?_intercalate (fun _ hchars => ne_nil_of_segment hparts hchars) hc
  obtain ⟨part, hpart, rfl⟩ := exists_segment hparts hchars
  refine ⟨(Rust.trim_eq_self_iff.mp hpart.trimmed).2 c hend, ?_⟩
  rintro rfl
  exact hpart.noSlash (List.mem_of_mem_getLast? hend)

theorem trim_formatChannelRef :
    Rust.trim (formatChannelRef root names) = formatChannelRef root names := by
  refine Rust.trim_eq_self_iff.mpr ⟨?_, fun c hc => (last_formatChannelRef hparts hc).1⟩
  intro c hc
  rw [toList_formatChannelRef, List.head?_cons, Option.mem_some_iff] at hc
  rw [← hc]
  decide

theorem noDot_formatChannelRef : '.' ∉ (formatChannelRef root names).toList := by
  rw [toList_formatChannelRef]
  intro hmem
  rcases List.mem_cons.mp hmem with hcontra | hmem
  · exact absurd hcontra (by decide)
  · rcases Text.mem_intercalate hmem with hsep | ⟨chars, hchars, hin⟩
    · exact absurd (List.mem_singleton.mp hsep) (by decide)
    · obtain ⟨part, hpart, rfl⟩ := exists_segment hparts hchars
      exact hpart.noDot hin

/-- A reference of single segments is read back segment by segment. -/
theorem canonicalSegments_formatChannelRef :
    canonicalSegments root (formatChannelRef root names) = some names := by
  have hwell : ¬ ((formatChannelRef root names).toList = [] ∨
      '.' ∈ (formatChannelRef root names).toList ∨
      (formatChannelRef root names).toList.getLast? = some '/' ∨
      ['/', '/'] <:+: (formatChannelRef root names).toList) := by
    rintro (hempty | hmem | hend | htwice)
    · rw [toList_formatChannelRef] at hempty
      cases hempty
    · exact noDot_formatChannelRef hparts hmem
    · exact (last_formatChannelRef hparts hend).2 rfl
    · -- two slashes in a row would leave an empty segment
      rw [toList_formatChannelRef] at htwice
      have hgap := Text.nil_mem_splitOn htwice
      rw [splitOn_path hparts] at hgap
      exact ne_nil_of_segment hparts hgap rfl
  have hread : ((root :: names).map String.toList).map
      (fun segment => Rust.trim (String.ofList segment)) = root :: names := by
    rw [List.map_map]
    refine (List.map_congr_left ?_).trans (List.map_id _)
    intro part hpart
    show Rust.trim (String.ofList part.toList) = part
    rw [String.ofList_toList, (hparts part hpart).trimmed]
  have hempty : "" ∉ root :: names := fun hmem => (hparts "" hmem).nonempty rfl
  rw [canonicalSegments, trim_formatChannelRef hparts]
  dsimp only
  rw [if_neg hwell, toList_formatChannelRef]
  simp only [List.head?_cons, if_true, List.tail_cons, splitOn_path hparts, hread,
    if_neg hempty]

end Segments

/-- An absolute reference is read below a single segment only. -/
theorem isSegment_of_canonicalSegments {root reference : String} {segments : List String}
    (habsolute : (Rust.trim reference).toList.head? = some '/')
    (hread : canonicalSegments root reference = some segments) : IsSegment root := by
  rw [canonicalSegments] at hread
  simp only [habsolute, if_true] at hread
  split at hread
  · cases hread
  · rename_i hwell
    split at hread
    · cases hread
    · rename_i hempty
      split at hread
      · rename_i hhead
        have hmem := List.mem_of_mem_head? (Option.mem_def.mpr hhead)
        obtain ⟨part, hpart, heq⟩ := List.mem_map.mp hmem
        have hletters : ∀ c ∈ root.toList, c ≠ '/' ∧ c ∈ (Rust.trim reference).toList := by
          intro c hc
          rw [← heq] at hc
          have hin := mem_toList_trim hc
          rw [String.toList_ofList] at hin
          exact (Text.mem_splitOn hpart hin).imp_right List.mem_of_mem_tail
        refine ⟨?_, ?_, ?_, ?_⟩
        · rintro rfl
          exact hempty hmem
        · rw [← heq, Rust.trim_trim]
        · intro hslash
          exact (hletters '/' hslash).1 rfl
        · intro hdot
          exact hwell (Or.inr (Or.inl (hletters '.' hdot).2))
      · cases hread

end Mosaico
