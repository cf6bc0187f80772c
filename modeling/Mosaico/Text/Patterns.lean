import Mathlib.Computability.Language
import Mathlib.Data.List.Infix

/-!
# Patterns and what replaces them

A pattern is a regular expression without unbounded repetition.  Its language is a set of words,
and its matcher yields the ways in which a text can begin with such a word, the preferred one
first: alternatives in their order, and repetitions as long as possible.

A replacer puts a mark in the place of each match, from the left and without overlaps.  When the
mark begins and ends with characters that no match contains, and nothing in the mark matches, no
match is left in the result.  Several patterns can then be replaced one after the other, and the
later replacements restore no match of the earlier patterns.  `Replacer.matching` is the replacer
that takes the preferred match.
-/

namespace Text

inductive Pattern where
  | empty
  | charClass (admits : Char → Bool)
  | seq (first second : Pattern)
  | alt (first second : Pattern)

namespace Pattern

/-- The words of a pattern. -/
def lang : Pattern → Language Char
  | .empty => 1
  | .charClass admits => { word | ∃ c, word = [c] ∧ admits c = true }
  | .seq first second => first.lang * second.lang
  | .alt first second => first.lang + second.lang

/-! ## Building patterns -/

def literal (chars : List Char) : Pattern :=
  chars.foldr (fun c rest => .seq (.charClass (· == c)) rest) .empty

/-- The first of the alternatives is preferred. -/
def anyOf (first : Pattern) (others : List Pattern) : Pattern :=
  others.foldl .alt first

/-- At most `most` times, and as often as possible. -/
def upTo (pattern : Pattern) : Nat → Pattern
  | 0 => .empty
  | most + 1 => .alt (.seq pattern (upTo pattern most)) .empty

/-- `least` times, and at most `more` times beyond that. -/
def repeated (pattern : Pattern) (least more : Nat) : Pattern :=
  (List.replicate least pattern).foldr .seq (pattern.upTo more)

/-! ## Matching -/

/-- What can be left of a text behind a word of the pattern, the preferred word first. -/
def rests : Pattern → List Char → List (List Char)
  | .empty, text => [text]
  | .charClass _, [] => []
  | .charClass admits, c :: rest => if admits c then [rest] else []
  | .seq first second, text => (first.rests text).flatMap second.rests
  | .alt first second, text => first.rests text ++ second.rests text

/-- The length of the preferred match at the beginning of a text. -/
def matchLength (pattern : Pattern) (text : List Char) : Option Nat :=
  (pattern.rests text).head?.map (text.length - List.length ·)

theorem mem_rests_iff {pattern : Pattern} {text rest : List Char} :
    rest ∈ pattern.rests text ↔ ∃ word ∈ pattern.lang, text = word ++ rest := by
  induction pattern generalizing text rest with
  | empty =>
      simp [rests, lang, Language.mem_one, eq_comm]
  | charClass admits =>
      cases text with
      | nil =>
          constructor
          · intro hrest
            cases hrest
          · rintro ⟨word, ⟨c, rfl, -⟩, htext⟩
            cases htext
      | cons c inner =>
          constructor
          · intro hrest
            by_cases hc : admits c = true
            · rw [rests, if_pos hc, List.mem_singleton] at hrest
              exact ⟨[c], ⟨c, rfl, hc⟩, by rw [hrest]; rfl⟩
            · rw [rests, if_neg hc] at hrest
              cases hrest
          · rintro ⟨word, ⟨d, rfl, hd⟩, htext⟩
            obtain ⟨rfl, rfl⟩ := List.cons.inj htext
            rw [rests, if_pos hd]
            exact List.mem_singleton_self _
  -- The first pattern leaves a middle text, of which the second reads its word.
  | seq first second ihfirst ihsecond =>
      rw [rests, List.mem_flatMap]
      constructor
      · rintro ⟨middle, hmiddle, hrest⟩
        obtain ⟨word, hword, rfl⟩ := ihfirst.mp hmiddle
        obtain ⟨next, hnext, rfl⟩ := ihsecond.mp hrest
        exact ⟨word ++ next, Language.mem_mul.mpr ⟨word, hword, next, hnext, rfl⟩,
          (List.append_assoc word next rest).symm⟩
      · rintro ⟨whole, hwhole, rfl⟩
        obtain ⟨word, hword, next, hnext, rfl⟩ := Language.mem_mul.mp hwhole
        refine ⟨next ++ rest, ihfirst.mpr ⟨word, hword, List.append_assoc word next rest⟩, ?_⟩
        exact ihsecond.mpr ⟨next, hnext, rfl⟩
  | alt first second ihfirst ihsecond =>
      rw [rests, List.mem_append, ihfirst, ihsecond]
      constructor
      · rintro (⟨word, hword, htext⟩ | ⟨word, hword, htext⟩)
        · exact ⟨word, (Language.mem_add _ _ _).mpr (.inl hword), htext⟩
        · exact ⟨word, (Language.mem_add _ _ _).mpr (.inr hword), htext⟩
      · rintro ⟨word, hword, htext⟩
        exact ((Language.mem_add _ _ _).mp hword).imp (fun hfirst => ⟨word, hfirst, htext⟩)
          (fun hsecond => ⟨word, hsecond, htext⟩)

/-! ## Measures of a pattern -/

/-- The length of a shortest word. -/
def minLength : Pattern → Nat
  | .empty => 0
  | .charClass _ => 1
  | .seq first second => first.minLength + second.minLength
  | .alt first second => min first.minLength second.minLength

theorem minLength_le {pattern : Pattern} {word : List Char} (hword : word ∈ pattern.lang) :
    pattern.minLength ≤ word.length := by
  induction pattern generalizing word with
  | empty => exact Nat.zero_le _
  | charClass admits =>
      obtain ⟨c, rfl, -⟩ := hword
      exact Nat.le_refl 1
  | seq first second ihfirst ihsecond =>
      obtain ⟨left, hleft, right, hright, rfl⟩ := Language.mem_mul.mp hword
      rw [minLength, List.length_append]
      exact Nat.add_le_add (ihfirst hleft) (ihsecond hright)
  | alt first second ihfirst ihsecond =>
      rw [minLength]
      rcases (Language.mem_add _ _ _).mp hword with hfirst | hsecond
      · exact Nat.le_trans (Nat.min_le_left _ _) (ihfirst hfirst)
      · exact Nat.le_trans (Nat.min_le_right _ _) (ihsecond hsecond)

/-- No word of the pattern contains the character. -/
def avoids (c : Char) : Pattern → Bool
  | .empty => true
  | .charClass admits => !admits c
  | .seq first second => first.avoids c && second.avoids c
  | .alt first second => first.avoids c && second.avoids c

theorem not_mem_of_avoids {pattern : Pattern} {c : Char} {word : List Char}
    (havoids : pattern.avoids c = true) (hword : word ∈ pattern.lang) : c ∉ word := by
  induction pattern generalizing word with
  | empty =>
      rw [(Language.mem_one _).mp hword]
      exact List.not_mem_nil
  | charClass admits =>
      obtain ⟨d, rfl, hd⟩ := hword
      rw [List.mem_singleton]
      rintro rfl
      simp [avoids, hd] at havoids
  | seq first second ihfirst ihsecond =>
      rw [avoids, Bool.and_eq_true] at havoids
      obtain ⟨left, hleft, right, hright, rfl⟩ := Language.mem_mul.mp hword
      rw [List.mem_append, not_or]
      exact ⟨ihfirst havoids.1 hleft, ihsecond havoids.2 hright⟩
  | alt first second ihfirst ihsecond =>
      rw [avoids, Bool.and_eq_true] at havoids
      exact ((Language.mem_add _ _ _).mp hword).elim (ihfirst havoids.1) (ihsecond havoids.2)

/-- Nothing in the text matches. -/
def Free (pattern : Pattern) (text : List Char) : Prop :=
  ∀ word ∈ pattern.lang, ¬ word <:+: text

theorem Free.mono {pattern : Pattern} {text part : List Char} (hfree : pattern.Free text)
    (hpart : part <:+: text) : pattern.Free part :=
  fun word hword hfound => hfree word hword (hfound.trans hpart)

theorem free_of_length_lt {pattern : Pattern} {text : List Char}
    (hlength : text.length < pattern.minLength) : pattern.Free text := by
  intro word hword hfound
  have hle := minLength_le hword
  have hfits := hfound.length_le
  omega

/-- A match stays on one side of a character that it does not contain. -/
theorem infix_left_or_right {word left right : List Char} {c : Char} (hc : c ∉ word)
    (hfound : word <:+: left ++ c :: right) : word <:+: left ∨ word <:+: right := by
  obtain ⟨before, after, heq⟩ := hfound
  rcases List.append_eq_append_iff.mp heq with ⟨rest, hleft, -⟩ | ⟨rest, hword, hright⟩
  · exact .inl ⟨before, rest, hleft.symm⟩
  · cases rest with
    | nil =>
        rw [List.append_nil] at hword
        exact .inl ⟨before, [], by rw [List.append_nil, hword]⟩
    | cons d rest =>
        obtain ⟨rfl, rfl⟩ := List.cons.inj hright
        rcases List.append_eq_append_iff.mp hword with ⟨inner, -, hinner⟩ | ⟨inner, -, hinner⟩
        · exact absurd (hinner ▸ List.mem_append_right inner List.mem_cons_self) hc
        · cases inner with
          | nil =>
              rw [List.nil_append] at hinner
              exact absurd (hinner ▸ List.mem_cons_self) hc
          | cons e inner =>
              obtain ⟨-, rfl⟩ := List.cons.inj hinner
              exact .inr ⟨inner, after, rfl⟩

theorem Free.append_cons {pattern : Pattern} {left right : List Char} {c : Char}
    (hleft : pattern.Free left) (havoids : pattern.avoids c = true) (hright : pattern.Free right) :
    pattern.Free (left ++ c :: right) := by
  intro word hword hfound
  rcases infix_left_or_right (not_mem_of_avoids havoids hword) hfound with hin | hin
  · exact hleft word hword hin
  · exact hright word hword hin

/-- Joining parts makes no match that would contain the separator. -/
theorem free_intercalate {pattern : Pattern} {c : Char} (hpos : 0 < pattern.minLength)
    (havoids : pattern.avoids c = true) {parts : List (List Char)}
    (hparts : ∀ part ∈ parts, pattern.Free part) : pattern.Free ([c].intercalate parts) := by
  induction parts with
  | nil => exact free_of_length_lt hpos
  | cons first rest ih =>
      have hfirst := hparts first List.mem_cons_self
      have hrest := ih (fun part hpart => hparts part (List.mem_cons_of_mem first hpart))
      cases rest with
      | nil =>
          rw [List.intercalate_singleton]
          exact hfirst
      | cons second rest =>
          rw [List.intercalate_cons_cons, List.append_assoc]
          exact hfirst.append_cons havoids hrest

theorem splitOnP_parts (p : Char → Bool) (text : List Char) :
    ∃ first others, text.splitOnP p = first :: others ∧ first <+: text ∧
      ∀ part ∈ others, part <:+: text := by
  induction text with
  | nil => exact ⟨[], [], rfl, List.nil_prefix, fun part hpart => by cases hpart⟩
  | cons c text ih =>
      obtain ⟨first, others, hsplit, hfirst, hothers⟩ := ih
      have hbehind : ∀ {part : List Char}, part <:+: text → part <:+: c :: text :=
        fun hpart => hpart.trans (List.suffix_cons c text).isInfix
      rw [List.splitOnP_cons_eq_if_modifyHead, hsplit]
      by_cases hc : p c = true
      · refine ⟨[], first :: others, if_pos hc, List.nil_prefix, fun part hpart => ?_⟩
        rcases List.mem_cons.mp hpart with rfl | hpart
        · exact hbehind hfirst.isInfix
        · exact hbehind (hothers part hpart)
      · exact ⟨c :: first, others, if_neg hc, List.cons_prefix_cons.mpr ⟨rfl, hfirst⟩,
          fun part hpart => hbehind (hothers part hpart)⟩

theorem infix_of_mem_splitOnP {p : Char → Bool} {text part : List Char}
    (hpart : part ∈ text.splitOnP p) : part <:+: text := by
  obtain ⟨first, others, hsplit, hfirst, hothers⟩ := splitOnP_parts p text
  rw [hsplit] at hpart
  rcases List.mem_cons.mp hpart with rfl | hpart
  · exact hfirst.isInfix
  · exact hothers part hpart

end Pattern

/-! ## Marks -/

/-- A text that is put in the place of a match. -/
structure Mark where
  opening : Char
  core : List Char
  closing : Char

def Mark.text (mark : Mark) : List Char :=
  mark.opening :: (mark.core ++ [mark.closing])

/-- No match reaches into the mark from outside, and none fits into it. -/
def Mark.Apart (mark : Mark) (pattern : Pattern) : Prop :=
  pattern.avoids mark.opening = true ∧ pattern.avoids mark.closing = true ∧
    mark.core.length < pattern.minLength

instance (mark : Mark) (pattern : Pattern) : Decidable (mark.Apart pattern) :=
  inferInstanceAs (Decidable (_ ∧ _ ∧ _))

namespace Mark

variable {mark : Mark} {pattern : Pattern}

theorem Apart.minLength_pos (hapart : mark.Apart pattern) : 0 < pattern.minLength :=
  Nat.lt_of_le_of_lt (Nat.zero_le _) hapart.2.2

theorem Apart.free_append (hapart : mark.Apart pattern) {rest : List Char}
    (hrest : pattern.Free rest) : pattern.Free (mark.text ++ rest) := by
  obtain ⟨hopening, hclosing, hlength⟩ := hapart
  have hnil : pattern.Free [] :=
    Pattern.free_of_length_lt (Nat.lt_of_le_of_lt (Nat.zero_le _) hlength)
  have hcore : pattern.Free mark.core := Pattern.free_of_length_lt hlength
  have htext : mark.text ++ rest = [] ++ mark.opening :: (mark.core ++ mark.closing :: rest) := by
    simp [Mark.text]
  rw [htext]
  exact hnil.append_cons hopening (hcore.append_cons hclosing hrest)

end Mark

/-! ## Replacement -/

namespace Pattern

/-- All matches from the left become marks.  Which match is taken, of several at one place, is left
open. -/
inductive Replaced (pattern : Pattern) (mark : List Char) : List Char → List Char → Prop
  | done : Replaced pattern mark [] []
  | copied {c : Char} {rest after : List Char}
      (hnone : ∀ word ∈ pattern.lang, ¬ word <+: c :: rest)
      (hrest : Replaced pattern mark rest after) : Replaced pattern mark (c :: rest) (c :: after)
  | marked {word rest after : List Char} (hword : word ∈ pattern.lang)
      (hrest : Replaced pattern mark rest after) :
      Replaced pattern mark (word ++ rest) (mark ++ after)

variable {mark : Mark} {pattern : Pattern} {text after : List Char}

namespace Replaced

/-- Up to the first mark the text is copied. -/
theorem prefixed_of_prefixed {word : List Char} (hopening : mark.opening ∉ word)
    (hreplaced : Replaced pattern mark.text text after) (hprefixed : word <+: after) :
    word <+: text := by
  induction hreplaced generalizing word with
  | done => exact hprefixed
  | copied _ _ ih =>
      cases word with
      | nil => exact List.nil_prefix
      | cons a word =>
          rw [List.cons_prefix_cons] at hprefixed ⊢
          exact ⟨hprefixed.1, ih (List.not_mem_of_not_mem_cons hopening) hprefixed.2⟩
  | marked =>
      cases word with
      | nil => exact List.nil_prefix
      | cons a word =>
          rw [Mark.text, List.cons_append, List.cons_prefix_cons] at hprefixed
          rw [hprefixed.1] at hopening
          exact absurd List.mem_cons_self hopening

/-- What is copied begins no match of `other`, so the result has none. -/
theorem free_of_copied {other : Pattern} (hapart : mark.Apart other)
    (hreplaced : Replaced pattern mark.text text after)
    (hcopied : ∀ c rest, c :: rest <:+ text → (∀ word ∈ pattern.lang, ¬ word <+: c :: rest) →
      ∀ word ∈ other.lang, ¬ word <+: c :: rest) : other.Free after := by
  induction hreplaced with
  | done => exact free_of_length_lt hapart.minLength_pos
  | @copied c rest after hnone hrest ih =>
      have hbehind := ih fun d more hmore => hcopied d more (hmore.trans (List.suffix_cons c rest))
      -- A match of the result begins at the copied character or lies behind it.
      intro word hword hfound
      rcases List.infix_cons_iff.mp hfound with hprefixed | hinside
      · exact hcopied c rest List.suffix_rfl hnone word hword
          ((copied hnone hrest).prefixed_of_prefixed (not_mem_of_avoids hapart.1 hword) hprefixed)
      · exact hbehind word hword hinside
  | @marked word rest after _ _ ih =>
      exact hapart.free_append
        (ih fun d more hmore => hcopied d more (hmore.trans (List.suffix_append word rest)))

theorem free (hapart : mark.Apart pattern) (hreplaced : Replaced pattern mark.text text after) :
    pattern.Free after :=
  hreplaced.free_of_copied hapart fun _ _ _ hnone => hnone

/-- A replacement of one pattern restores no match of another one. -/
theorem free_other {other : Pattern} (hfree : other.Free text) (hapart : mark.Apart other)
    (hreplaced : Replaced pattern mark.text text after) : other.Free after :=
  hreplaced.free_of_copied hapart fun _ _ hsuffix _ word hword hprefixed =>
    hfree word hword (hprefixed.isInfix.trans hsuffix.isInfix)

/-- Where nothing matches, nothing is replaced. -/
theorem eq_of_free {replacement : List Char} (hfree : pattern.Free text)
    (hreplaced : Replaced pattern replacement text after) : after = text := by
  induction hreplaced with
  | done => rfl
  | @copied c rest _ _ _ ih => rw [ih (hfree.mono (List.suffix_cons c rest).isInfix)]
  | marked hword => exact absurd (List.prefix_append _ _).isInfix (hfree _ hword)

end Replaced

/-- What replaces all matches of the patterns that have no empty match. -/
structure Replacer where
  replaceAll : Pattern → List Char → List Char → List Char
  replaced : ∀ pattern, 0 < pattern.minLength → ∀ mark text,
    Replaced pattern mark text (replaceAll pattern mark text)

/-! ## The preferred match -/

/-- The rest of a replacement, of which the first `skip` characters are matched already. -/
def replaceFrom (pattern : Pattern) (mark : List Char) : Nat → List Char → List Char
  | _, [] => []
  | skip + 1, _ :: rest => replaceFrom pattern mark skip rest
  | 0, c :: rest =>
      match pattern.matchLength (c :: rest) with
      | some (more + 1) => mark ++ replaceFrom pattern mark more rest
      | _ => c :: replaceFrom pattern mark 0 rest

/-- Where a word begins the text the matcher finds one. -/
theorem matchLength_of_prefixed {word : List Char} (hword : word ∈ pattern.lang)
    (hprefixed : word <+: text) : pattern.matchLength text ≠ none := by
  obtain ⟨rest, rfl⟩ := hprefixed
  have hrest : rest ∈ pattern.rests (word ++ rest) := mem_rests_iff.mpr ⟨word, hword, rfl⟩
  simp [matchLength, List.ne_nil_of_mem hrest]

theorem matchLength_spec {length : Nat} (hmatch : pattern.matchLength text = some length) :
    ∃ word ∈ pattern.lang, word.length = length ∧ text = word ++ text.drop length := by
  obtain ⟨rest, hrest, rfl⟩ := Option.map_eq_some_iff.mp hmatch
  obtain ⟨word, hword, rfl⟩ := mem_rests_iff.mp (List.mem_of_head? hrest)
  exact ⟨word, hword, by simp, by simp⟩

theorem replaced_replaceFrom (hpos : 0 < pattern.minLength) (mark : List Char) (skip : Nat)
    (text : List Char) :
    Replaced pattern mark (text.drop skip) (pattern.replaceFrom mark skip text) := by
  induction text generalizing skip with
  | nil => cases skip <;> exact .done
  | cons c rest ih =>
      cases skip with
      | succ skip => exact ih skip
      | zero =>
          rw [replaceFrom, List.drop_zero]
          cases hmatch : pattern.matchLength (c :: rest) with
          | none =>
              exact .copied (fun _ hword hprefixed => matchLength_of_prefixed hword hprefixed hmatch)
                (ih 0)
          | some length =>
              obtain ⟨word, hword, rfl, htext⟩ := matchLength_spec hmatch
              have hle := minLength_le hword
              obtain ⟨more, hmore⟩ := Nat.exists_eq_succ_of_ne_zero (n := word.length) (by omega)
              rw [hmore] at htext ⊢
              rw [htext]
              exact .marked hword (ih more)

def Replacer.matching : Replacer where
  replaceAll pattern mark := pattern.replaceFrom mark 0
  replaced _ hpos mark := replaced_replaceFrom hpos mark 0

/-! ## Several patterns -/

variable (replacer : Replacer)

/-- One pattern after the other. -/
def replaceEach (patterns : List Pattern) (replacement text : List Char) : List Char :=
  patterns.foldl (fun text pattern => replacer.replaceAll pattern replacement text) text

variable {patterns : List Pattern}

theorem Free.replaceEach {other : Pattern} (hfree : other.Free text) (hother : mark.Apart other)
    (hapart : ∀ p ∈ patterns, mark.Apart p) :
    other.Free (replaceEach replacer patterns mark.text text) := by
  induction patterns generalizing text with
  | nil => exact hfree
  | cons pattern rest ih =>
      have hreplaced := replacer.replaced pattern (hapart pattern List.mem_cons_self).minLength_pos
        mark.text text
      exact ih (hreplaced.free_other hfree hother)
        (fun p hp => hapart p (List.mem_cons_of_mem pattern hp))

theorem free_replaceEach (hapart : ∀ p ∈ patterns, mark.Apart p) (text : List Char) :
    ∀ p ∈ patterns, p.Free (replaceEach replacer patterns mark.text text) := by
  induction patterns generalizing text with
  | nil =>
      intro p hp
      cases hp
  | cons pattern rest ih =>
      have hrest := fun q hq => hapart q (List.mem_cons_of_mem pattern hq)
      intro p hp
      rcases List.mem_cons.mp hp with rfl | hp
      · have hfirst := hapart p List.mem_cons_self
        exact ((replacer.replaced p hfirst.minLength_pos mark.text text).free hfirst).replaceEach
          replacer hfirst hrest
      · exact ih hrest _ p hp

/-- A text is left as it is exactly if it has no match. -/
theorem replaceEach_eq_self_iff (hapart : ∀ p ∈ patterns, mark.Apart p) {text : List Char} :
    replaceEach replacer patterns mark.text text = text ↔ ∀ p ∈ patterns, p.Free text := by
  constructor
  · intro heq
    have hfree := free_replaceEach replacer hapart text
    rwa [heq] at hfree
  · intro hfree
    induction patterns with
    | nil => rfl
    | cons pattern rest ih =>
        have hsame := (replacer.replaced pattern (hapart pattern List.mem_cons_self).minLength_pos
          mark.text text).eq_of_free (hfree pattern List.mem_cons_self)
        rw [replaceEach, List.foldl_cons, hsame]
        exact ih (fun p hp => hapart p (List.mem_cons_of_mem pattern hp))
          (fun p hp => hfree p (List.mem_cons_of_mem pattern hp))

end Pattern

end Text
