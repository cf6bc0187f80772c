import Mathlib.Data.List.Basic
import Mathlib.Data.List.Count

/-!
# Word splitting in a POSIX shell

Blanks separate words, quotes and backslashes protect characters, and a `#` where a word could
begin starts a comment up to the end of the line.  There is no splitting if a quote is left open or
the text ends in a backslash.

A plain word is read as itself.  The converse is the main result: a text that is read as itself,
although a plain text follows it, is a plain word.
-/

namespace Shell

/-! ## The scanner -/

/-- Where the scanner is: between words, in a comment, in a word, behind a backslash, in single or
double quotes, or behind a backslash in double quotes. -/
inductive Mode where
  | between
  | comment
  | word
  | escaped
  | single
  | double
  | doubleEscaped
  deriving DecidableEq, Repr

def isBlank (c : Char) : Bool :=
  c = ' ' || c = '\t' || c = '\n'

/-- What a quote or a backslash in a word opens. -/
def opens (c : Char) : Option Mode :=
  if c = '\'' then some .single
  else if c = '"' then some .double
  else if c = '\\' then some .escaped
  else none

/-- What a backslash protects in double quotes. -/
def escapable (c : Char) : Bool :=
  c = '$' || c = '`' || c = '"' || c = '\\'

/-- Put characters before the first word. -/
def push (chars : List Char) : List (List Char) → List (List Char)
  | [] => []
  | word :: rest => (chars ++ word) :: rest

/-- Read the rest of a text.  Inside of a word the first word of the result is the rest of it. -/
def scan : Mode → List Char → Option (List (List Char))
  | .between, [] => some []
  | .comment, [] => some []
  | .word, [] => some [[]]
  | .escaped, [] => none
  | .single, [] => none
  | .double, [] => none
  | .doubleEscaped, [] => none
  | .between, c :: rest =>
      if isBlank c then scan .between rest
      else if c = '#' then scan .comment rest
      else match opens c with
        | some mode => scan mode rest
        | none => (scan .word rest).map (push [c])
  | .comment, c :: rest => if c = '\n' then scan .between rest else scan .comment rest
  | .word, c :: rest =>
      if isBlank c then (scan .between rest).map ([] :: ·)
      else match opens c with
        | some mode => scan mode rest
        | none => (scan .word rest).map (push [c])
  -- A line that is continued behind a backslash is joined without a blank.
  | .escaped, c :: rest =>
      if c = '\n' then scan .word rest else (scan .word rest).map (push [c])
  | .single, c :: rest =>
      if c = '\'' then scan .word rest else (scan .single rest).map (push [c])
  | .double, c :: rest =>
      if c = '"' then scan .word rest
      else if c = '\\' then scan .doubleEscaped rest
      else (scan .double rest).map (push [c])
  | .doubleEscaped, c :: rest =>
      if escapable c then (scan .double rest).map (push [c])
      else if c = '\n' then scan .double rest
      else (scan .double rest).map (push ['\\', c])

def words (chars : List Char) : Option (List (List Char)) :=
  scan .between chars

def split (text : String) : Option (List String) :=
  (words text.toList).map (List.map String.ofList)

example : split "a 'b c'\\ d # e\n\"$x\" f" = some ["a", "b c d", "$x", "f"] := by
  decide +kernel

/-! ## Plain words -/

/-- No blank, no quote and no backslash. -/
def Ordinary (c : Char) : Prop :=
  isBlank c = false ∧ opens c = none

/-- A word that needs no quoting. -/
structure Plain (chars : List Char) : Prop where
  ne_nil : chars ≠ []
  head : chars.head? ≠ some '#'
  ordinary : ∀ c ∈ chars, Ordinary c

/-- The test of a plain word. -/
def isPlain (chars : List Char) : Bool :=
  !chars.isEmpty && chars.head? != some '#' && chars.all fun c => !isBlank c && (opens c).isNone

theorem isPlain_iff {chars : List Char} : isPlain chars = true ↔ Plain chars := by
  rw [isPlain, Bool.and_eq_true, Bool.and_eq_true, Bool.not_eq_true', bne_iff_ne,
    List.isEmpty_eq_false_iff, List.all_eq_true]
  constructor
  · rintro ⟨⟨hne, hhead⟩, hall⟩
    refine ⟨hne, hhead, fun c hc => ?_⟩
    have hordinary := hall c hc
    rw [Bool.and_eq_true, Bool.not_eq_true', Option.isNone_iff_eq_none] at hordinary
    exact hordinary
  · rintro ⟨hne, hhead, hall⟩
    refine ⟨⟨hne, hhead⟩, fun c hc => ?_⟩
    rw [Bool.and_eq_true, Bool.not_eq_true', Option.isNone_iff_eq_none]
    exact hall c hc

instance (chars : List Char) : Decidable (Plain chars) :=
  decidable_of_iff _ isPlain_iff

theorem scan_between_cons {c : Char} (hblank : isBlank c = false) (hcomment : c ≠ '#')
    (rest : List Char) : scan .between (c :: rest) = scan .word (c :: rest) := by
  simp only [scan, hblank, Bool.false_eq_true, if_false, if_neg hcomment]

theorem scan_word_cons {c : Char} (hc : Ordinary c) (rest : List Char) :
    scan .word (c :: rest) = (scan .word rest).map (push [c]) := by
  simp only [scan, hc.1, hc.2, Bool.false_eq_true, if_false]

theorem map_push_cons (c : Char) (chars : List Char) (words : Option (List (List Char))) :
    (words.map (push chars)).map (push [c]) = words.map (push (c :: chars)) := by
  cases words with
  | none => rfl
  | some words => cases words <;> rfl

theorem scan_word_append {chars : List Char} (hall : ∀ c ∈ chars, Ordinary c)
    (rest : List Char) :
    scan .word (chars ++ rest) = (scan .word rest).map (push chars) := by
  induction chars with
  | nil =>
      cases hscan : scan .word rest with
      | none => rw [List.nil_append, hscan]; rfl
      | some words =>
          rw [List.nil_append, hscan]
          cases words <;> rfl
  | cons c chars ih =>
      rw [List.cons_append, scan_word_cons (hall c List.mem_cons_self),
        ih (fun x hx => hall x (List.mem_cons_of_mem c hx)), map_push_cons]

/-- A plain word is read as itself. -/
theorem words_plain_append {chars : List Char} (hplain : Plain chars) (rest : List Char) :
    words (chars ++ ' ' :: rest) = (words rest).map (chars :: ·) := by
  have hword : scan .word (chars ++ ' ' :: rest) = (words rest).map (chars :: ·) := by
    rw [scan_word_append hplain.ordinary, scan]
    cases hscan : scan .between rest <;> simp [words, hscan, isBlank, push]
  cases chars with
  | nil => exact absurd rfl hplain.ne_nil
  | cons c chars =>
      have hcomment : c ≠ '#' := fun hc => hplain.head (congrArg some hc)
      rw [words, List.cons_append,
        scan_between_cons (hplain.ordinary c List.mem_cons_self).1 hcomment]
      exact hword

/-! ## What is read as itself -/

theorem opens_eq_none {c : Char} (hc : opens c = none) : c ≠ '\'' ∧ c ≠ '"' ∧ c ≠ '\\' := by
  refine ⟨?_, ?_, ?_⟩ <;> rintro rfl <;> exact absurd hc (by decide)

theorem opens_eq_some {c : Char} {mode : Mode} (hc : opens c = some mode) :
    mode = .single ∨ mode = .double ∨ mode = .escaped := by
  unfold opens at hc
  split at hc
  · exact .inl (Option.some.inj hc).symm
  · split at hc
    · exact .inr (.inl (Option.some.inj hc).symm)
    · split at hc
      · exact .inr (.inr (Option.some.inj hc).symm)
      · cases hc

theorem exists_of_map_push {chars word : List Char} {rest : List (List Char)}
    {words : Option (List (List Char))} (hmap : words.map (push chars) = some (word :: rest)) :
    ∃ tail, words = some (tail :: rest) ∧ word = chars ++ tail := by
  obtain ⟨found, hfound, hpush⟩ := Option.map_eq_some_iff.mp hmap
  cases found with
  | nil => cases hpush
  | cons tail others =>
      obtain ⟨rfl, rfl⟩ := List.cons.inj hpush
      exact ⟨tail, hfound, rfl⟩

/-- Quotes keep what is no quote and no backslash. -/
theorem scan_quoted_append {mode : Mode} (hmode : mode = .single ∨ mode = .double)
    {chars : List Char} (hall : ∀ c ∈ chars, opens c = none) (rest : List Char) :
    scan mode (chars ++ rest) = (scan mode rest).map (push chars) := by
  induction chars with
  | nil =>
      cases hscan : scan mode rest with
      | none => rw [List.nil_append, hscan]; rfl
      | some words =>
          rw [List.nil_append, hscan]
          cases words <;> rfl
  | cons c chars ih =>
      obtain ⟨hsingle, hdouble, hbackslash⟩ := opens_eq_none (hall c List.mem_cons_self)
      have ih := ih (fun x hx => hall x (List.mem_cons_of_mem c hx))
      rcases hmode with rfl | rfl
      · rw [List.cons_append, scan, if_neg hsingle, ih, map_push_cons]
      · rw [List.cons_append, scan, if_neg hdouble, if_neg hbackslash, ih, map_push_cons]

/-- What the scanner can have made of a text that does not end its word, against a character that
no mode drops: inside of a word it kept an ordinary text, dropped a character, or read on behind
the text. -/
def Reads (m : Char) : Mode → List Char → List Char → Prop
  | .word, chars, word =>
      ((∀ c ∈ chars, Ordinary c) ∧ word = chars) ∨ word.length < chars.length ∨
        chars.count m < word.count m
  | .doubleEscaped, chars, word =>
      word.length ≤ chars.length + 1 ∨ chars.count m < word.count m
  | _, chars, word => word.length ≤ chars.length ∨ chars.count m < word.count m

theorem Reads.loose {m : Char} {chars word : List Char} (hreads : Reads m .word chars word) :
    word.length ≤ chars.length ∨ chars.count m < word.count m := by
  rcases hreads with ⟨-, rfl⟩ | hlength | hcount
  · exact .inl (Nat.le_refl _)
  · exact .inl (Nat.le_of_lt hlength)
  · exact .inr hcount

section ReadThrough

variable {m : Char} {mark tail : List Char}

/-- The word went on behind the text and took the mark with it. -/
theorem count_lt_of_mark (hm : m ∈ mark) (front rest : List Char) :
    List.count m [] < (front ++ (mark ++ rest)).count m := by
  rw [List.count_nil, List.count_append, List.count_append]
  have hpos := List.count_pos_iff.mpr hm
  omega

theorem reads_nil (hm : m ∈ mark) (hmark : ∀ c ∈ mark, Ordinary c) {mode : Mode}
    (hbetween : mode ≠ .between) (hcomment : mode ≠ .comment) {word : List Char}
    {rest : List (List Char)}
    (hscan : scan mode (' ' :: (mark ++ ' ' :: tail)) = some (word :: rest)) :
    Reads m mode [] word := by
  have hopens : ∀ c ∈ mark, opens c = none := fun c hc => (hmark c hc).2
  cases mode with
  | between => exact absurd rfl hbetween
  | comment => exact absurd rfl hcomment
  | word =>
      obtain ⟨words, -, hcons⟩ := Option.map_eq_some_iff.mp hscan
      obtain ⟨rfl, -⟩ := List.cons.inj hcons
      exact .inl ⟨fun c hc => absurd hc List.not_mem_nil, rfl⟩
  | escaped =>
      obtain ⟨behind, hbehind, rfl⟩ := exists_of_map_push hscan
      rw [scan_word_append hmark] at hbehind
      obtain ⟨last, -, rfl⟩ := exists_of_map_push hbehind
      exact .inr (count_lt_of_mark hm [' '] last)
  | single =>
      obtain ⟨behind, hbehind, rfl⟩ := exists_of_map_push hscan
      rw [scan_quoted_append (.inl rfl) hopens] at hbehind
      obtain ⟨last, -, rfl⟩ := exists_of_map_push hbehind
      exact .inr (count_lt_of_mark hm [' '] last)
  | double =>
      obtain ⟨behind, hbehind, rfl⟩ := exists_of_map_push hscan
      rw [scan_quoted_append (.inr rfl) hopens] at hbehind
      obtain ⟨last, -, rfl⟩ := exists_of_map_push hbehind
      exact .inr (count_lt_of_mark hm [' '] last)
  | doubleEscaped =>
      obtain ⟨behind, hbehind, rfl⟩ := exists_of_map_push hscan
      rw [scan_quoted_append (.inr rfl) hopens] at hbehind
      obtain ⟨last, -, rfl⟩ := exists_of_map_push hbehind
      exact .inr (count_lt_of_mark hm ['\\', ' '] last)

/-- One kept character on both sides. -/
theorem count_lt_cons {c : Char} {chars word : List Char} (hcount : chars.count m < word.count m) :
    (c :: chars).count m < (c :: word).count m := by
  rw [List.count_cons, List.count_cons]
  omega

/-- A dropped character. -/
theorem count_cons_lt {c : Char} {chars word : List Char} (hne : c ≠ m)
    (hcount : chars.count m < word.count m) : (c :: chars).count m < word.count m := by
  rwa [List.count_cons_of_ne hne]

theorem reads_of_scan (hm : m ∈ mark) (hmark : ∀ c ∈ mark, Ordinary c) {mode : Mode}
    (hbetween : mode ≠ .between) (hcomment : mode ≠ .comment) {chars word : List Char}
    {rest : List (List Char)}
    (hscan : scan mode (chars ++ ' ' :: (mark ++ ' ' :: tail)) = some (word :: rest)) :
    Reads m mode chars word := by
  have hnone := opens_eq_none (hmark m hm).2
  have hline : '\n' ≠ m := by
    rintro rfl
    exact absurd (hmark _ hm).1 (by decide)
  induction chars generalizing mode word rest with
  | nil => exact reads_nil hm hmark hbetween hcomment hscan
  | cons c chars ih =>
      have hlength : (c :: chars).length = chars.length + 1 := rfl
      rw [List.cons_append] at hscan
      cases mode with
      | between => exact absurd rfl hbetween
      | comment => exact absurd rfl hcomment
      | word =>
          rw [scan] at hscan
          by_cases hblank : isBlank c
          · -- The word ends within the text.
            rw [if_pos hblank] at hscan
            obtain ⟨words, -, hcons⟩ := Option.map_eq_some_iff.mp hscan
            obtain ⟨rfl, -⟩ := List.cons.inj hcons
            exact .inr (.inl (Nat.succ_pos _))
          · rw [if_neg hblank] at hscan
            cases hopens : opens c with
            | none =>
                rw [hopens] at hscan
                obtain ⟨behind, hbehind, rfl⟩ := exists_of_map_push hscan
                rcases ih (by decide) (by decide) hbehind with ⟨hall, rfl⟩ | hlt | hcount
                · refine .inl ⟨List.forall_mem_cons.mpr ⟨⟨?_, hopens⟩, hall⟩, rfl⟩
                  exact Bool.eq_false_iff.mpr hblank
                · exact .inr (.inl (Nat.succ_lt_succ hlt))
                · exact .inr (.inr (count_lt_cons hcount))
            | some inner =>
                rw [hopens] at hscan
                have hne : c ≠ m := by
                  rintro rfl
                  rw [(hmark _ hm).2] at hopens
                  cases hopens
                have hloose : word.length ≤ chars.length ∨ chars.count m < word.count m := by
                  rcases opens_eq_some hopens with rfl | rfl | rfl
                  · exact ih (by decide) (by decide) hscan
                  · exact ih (by decide) (by decide) hscan
                  · exact ih (by decide) (by decide) hscan
                rcases hloose with hle | hcount
                · exact .inr (.inl (by omega))
                · exact .inr (.inr (count_cons_lt hne hcount))
      | escaped =>
          rw [scan] at hscan
          by_cases hc : c = '\n'
          · rw [if_pos hc] at hscan
            rcases (ih (by decide) (by decide) hscan).loose with hle | hcount
            · exact .inl (by omega)
            · exact .inr (count_cons_lt (hc ▸ hline) hcount)
          · rw [if_neg hc] at hscan
            obtain ⟨behind, hbehind, rfl⟩ := exists_of_map_push hscan
            rcases (ih (by decide) (by decide) hbehind).loose with hle | hcount
            · exact .inl (Nat.succ_le_succ hle)
            · exact .inr (count_lt_cons hcount)
      | single =>
          rw [scan] at hscan
          by_cases hc : c = '\''
          · rw [if_pos hc] at hscan
            rcases (ih (by decide) (by decide) hscan).loose with hle | hcount
            · exact .inl (by omega)
            · exact .inr (count_cons_lt (hc ▸ hnone.1.symm) hcount)
          · rw [if_neg hc] at hscan
            obtain ⟨behind, hbehind, rfl⟩ := exists_of_map_push hscan
            rcases ih (by decide) (by decide) hbehind with hle | hcount
            · exact .inl (Nat.succ_le_succ hle)
            · exact .inr (count_lt_cons hcount)
      | double =>
          rw [scan] at hscan
          by_cases hc : c = '"'
          · rw [if_pos hc] at hscan
            rcases (ih (by decide) (by decide) hscan).loose with hle | hcount
            · exact .inl (by omega)
            · exact .inr (count_cons_lt (hc ▸ hnone.2.1.symm) hcount)
          · rw [if_neg hc] at hscan
            by_cases hbackslash : c = '\\'
            · rw [if_pos hbackslash] at hscan
              rcases ih (by decide) (by decide) hscan with hle | hcount
              · exact .inl (by omega)
              · exact .inr (count_cons_lt (hbackslash ▸ hnone.2.2.symm) hcount)
            · rw [if_neg hbackslash] at hscan
              obtain ⟨behind, hbehind, rfl⟩ := exists_of_map_push hscan
              rcases ih (by decide) (by decide) hbehind with hle | hcount
              · exact .inl (Nat.succ_le_succ hle)
              · exact .inr (count_lt_cons hcount)
      | doubleEscaped =>
          rw [scan] at hscan
          by_cases hescapable : escapable c
          · rw [if_pos hescapable] at hscan
            obtain ⟨behind, hbehind, rfl⟩ := exists_of_map_push hscan
            rcases ih (by decide) (by decide) hbehind with hle | hcount
            · exact .inl (Nat.le_succ_of_le (Nat.succ_le_succ hle))
            · exact .inr (count_lt_cons hcount)
          · rw [if_neg hescapable] at hscan
            by_cases hc : c = '\n'
            · rw [if_pos hc] at hscan
              rcases ih (by decide) (by decide) hscan with hle | hcount
              · exact .inl (by omega)
              · exact .inr (count_cons_lt (hc ▸ hline) hcount)
            · rw [if_neg hc] at hscan
              -- The backslash stays, so the word may be longer than the text by one.
              obtain ⟨behind, hbehind, rfl⟩ := exists_of_map_push hscan
              rcases ih (by decide) (by decide) hbehind with hle | hcount
              · exact .inl (Nat.succ_le_succ (Nat.succ_le_succ hle))
              · refine .inr ?_
                rw [List.cons_append, List.count_cons_of_ne hnone.2.2.symm]
                exact count_lt_cons hcount

end ReadThrough

/-! ## Comments -/

/-- The first thing in a text, behind blanks, is a comment. -/
def OpensComment (chars : List Char) : Prop :=
  (chars.dropWhile isBlank).head? = some '#'

instance (chars : List Char) : Decidable (OpensComment chars) :=
  inferInstanceAs (Decidable ((chars.dropWhile isBlank).head? = some '#'))

theorem words_dropWhile_append (chars rest : List Char) :
    words (chars.dropWhile isBlank ++ rest) = words (chars ++ rest) := by
  induction chars with
  | nil => rfl
  | cons c chars ih =>
      by_cases hblank : isBlank c
      · rw [List.dropWhile_cons_of_pos hblank, ih, words, words, List.cons_append, scan,
          if_pos hblank]
      · rw [List.dropWhile_cons_of_neg hblank]

theorem count_dropWhile {m : Char} (hm : isBlank m = false) (chars : List Char) :
    (chars.dropWhile isBlank).count m = chars.count m := by
  induction chars with
  | nil => rfl
  | cons c chars ih =>
      by_cases hblank : isBlank c
      · have hne : c ≠ m := by
          rintro rfl
          exact absurd (hm.symm.trans hblank) (by decide)
        rw [List.dropWhile_cons_of_pos hblank, ih, List.count_cons_of_ne hne]
      · rw [List.dropWhile_cons_of_neg hblank]

/-- A text that is read as itself although a plain text follows is a plain word, unless it begins
with a comment. -/
theorem plain_of_words {mark tail chars : List Char} {rest : List (List Char)}
    (hmark : Plain mark) (hcomment : ¬ OpensComment chars)
    (hwords : words (chars ++ ' ' :: (mark ++ ' ' :: tail)) = some (chars :: rest)) :
    Plain chars := by
  rw [← words_dropWhile_append] at hwords
  cases hdrop : chars.dropWhile isBlank with
  | nil =>
      -- Nothing but blanks: the word that is read is the mark.
      rw [hdrop, List.nil_append] at hwords
      change words (mark ++ ' ' :: tail) = _ at hwords
      rw [words_plain_append hmark] at hwords
      obtain ⟨others, -, hcons⟩ := Option.map_eq_some_iff.mp hwords
      exact (List.cons.inj hcons).1 ▸ hmark
  | cons c inner =>
      have hblank : isBlank c = false := by
        have hhead := List.head?_dropWhile_not isBlank chars
        rw [hdrop] at hhead
        exact hhead
      have hhash : c ≠ '#' := by
        rintro rfl
        exact hcomment (congrArg List.head? hdrop)
      obtain ⟨m, hm⟩ := List.exists_mem_of_ne_nil mark hmark.ne_nil
      rw [hdrop, words, List.cons_append, scan_between_cons hblank hhash, ← List.cons_append]
        at hwords
      rcases reads_of_scan hm hmark.ordinary (by decide) (by decide) hwords with
        ⟨hall, heq⟩ | hlength | hcount
      · rw [heq]
        exact ⟨List.cons_ne_nil c inner, fun hhead => hhash (Option.some.inj hhead), hall⟩
      · have hle : (chars.dropWhile isBlank).length ≤ chars.length :=
          (List.dropWhile_sublist isBlank).length_le
        rw [hdrop] at hle
        exact absurd hlength (Nat.not_lt.mpr hle)
      · have hsame := count_dropWhile (hmark.ordinary m hm).1 chars
        rw [hdrop] at hsame
        exact absurd hcount (by omega)

/-- A comment that no line ends swallows all that follows. -/
theorem scan_comment {chars : List Char} (hline : '\n' ∉ chars) :
    scan .comment chars = some [] := by
  induction chars with
  | nil => rfl
  | cons c chars ih =>
      rw [scan, if_neg (List.ne_of_not_mem_cons hline).symm]
      exact ih (List.not_mem_of_not_mem_cons hline)

theorem words_comment {chars rest : List Char} (hcomment : OpensComment chars)
    (hline : '\n' ∉ chars ++ rest) : words (chars ++ rest) = some [] := by
  rw [← words_dropWhile_append]
  cases hdrop : chars.dropWhile isBlank with
  | nil =>
      rw [OpensComment, hdrop] at hcomment
      cases hcomment
  | cons c inner =>
      rw [OpensComment, hdrop] at hcomment
      obtain rfl : c = '#' := Option.some.inj hcomment
      have hinner : '\n' ∉ inner ++ rest := by
        intro hmem
        refine hline ?_
        rcases List.mem_append.mp hmem with hmem | hmem
        · have hdropped : '\n' ∈ chars.dropWhile isBlank :=
            hdrop ▸ List.mem_cons_of_mem '#' hmem
          exact List.mem_append_left rest ((List.dropWhile_sublist isBlank).mem hdropped)
        · exact List.mem_append_right chars hmem
      exact scan_comment hinner

/-- The same for any text, if no line ends behind it. -/
theorem plain_of_words_of_line {mark tail chars : List Char} {rest : List (List Char)}
    (hmark : Plain mark)
    (hcomment : OpensComment chars → '\n' ∉ chars ++ ' ' :: (mark ++ ' ' :: tail))
    (hwords : words (chars ++ ' ' :: (mark ++ ' ' :: tail)) = some (chars :: rest)) :
    Plain chars := by
  by_cases hopens : OpensComment chars
  · rw [words_comment hopens (hcomment hopens)] at hwords
    cases hwords
  · exact plain_of_words hmark hopens hwords

end Shell
