import Mathlib.Data.List.Infix

/-!
# Marked tokens in a word

A token of a word is a fixed mark together with the longest run of admitted letters
behind it.  `pieces` reads a word from the left and cuts it into its tokens and the
letters between them; tokens do not overlap, and a mark that stands inside the run of
an earlier token starts none.  `render` writes the parts down again, with labels in the
place of some tokens.

`replaceAll` is the textual replacement of a pattern, which knows nothing of tokens.
The last section says exactly when it acts like a label on the tokens that spell the
pattern: when no occurrence of the pattern starts outside of them.
-/

namespace Text

universe u

variable {α : Type u}

/-- A part of a word: one letter, or the mark with the run behind it. -/
inductive Piece (α : Type u) where
  | letter (a : α)
  | token (run : List α)
  deriving DecidableEq, Repr

/-- A part as it is written when the runs with a label are replaced by it. -/
def Piece.render (mark : List α) (label : List α → Option (List α)) : Piece α → List α
  | .letter a => [a]
  | .token run => (label run).getD (mark ++ run)

def render (mark : List α) (label : List α → Option (List α)) (parts : List (Piece α)) : List α :=
  parts.flatMap (Piece.render mark label)

variable [DecidableEq α]

/-- The parts of a word of which the first `skip` letters are passed already. -/
def piecesFrom (mark : List α) (inRun : α → Bool) : Nat → List α → List (Piece α)
  | _, [] => []
  | skip + 1, _ :: rest => piecesFrom mark inRun skip rest
  | 0, a :: rest =>
      if mark <+: a :: rest then
        let run := ((a :: rest).drop mark.length).takeWhile inRun
        .token run :: piecesFrom mark inRun (mark.length - 1 + run.length) rest
      else .letter a :: piecesFrom mark inRun 0 rest

/-- The parts of a word, from the left. -/
def pieces (mark : List α) (inRun : α → Bool) (word : List α) : List (Piece α) :=
  piecesFrom mark inRun 0 word

/-- The pattern stands in the word behind its first `position` letters. -/
def OccursAt (pattern word : List α) (position : Nat) : Prop :=
  pattern <+: word.drop position

instance (pattern word : List α) (position : Nat) : Decidable (OccursAt pattern word position) :=
  inferInstanceAs (Decidable (pattern <+: word.drop position))

omit [DecidableEq α] in
theorem occursAt_append_right {pattern front rest : List α} {position : Nat} :
    OccursAt pattern (front ++ rest) (front.length + position) ↔
      OccursAt pattern rest position := by
  rw [OccursAt, OccursAt, List.drop_append, List.drop_of_length_le (by omega), List.nil_append,
    Nat.add_sub_cancel_left]

/-! ## How a word is cut -/

section Pieces

variable {mark : List α} {inRun : α → Bool}

theorem piecesFrom_eq (skip : Nat) (word : List α) :
    piecesFrom mark inRun skip word = pieces mark inRun (word.drop skip) := by
  induction word generalizing skip with
  | nil => simp [pieces, piecesFrom]
  | cons a rest ih =>
      cases skip with
      | zero => rfl
      | succ skip =>
          rw [piecesFrom, List.drop_succ_cons]
          exact ih skip

@[simp] theorem pieces_nil : pieces mark inRun [] = [] := rfl

theorem pieces_cons_of_not_prefix {a : α} {rest : List α} (hmark : ¬ mark <+: a :: rest) :
    pieces mark inRun (a :: rest) = .letter a :: pieces mark inRun rest := by
  rw [pieces, piecesFrom, if_neg hmark]
  rfl

theorem pieces_mark_append (hmark : mark ≠ []) (after : List α) :
    pieces mark inRun (mark ++ after) =
      .token (after.takeWhile inRun) :: pieces mark inRun (after.dropWhile inRun) := by
  obtain ⟨a, rest, rfl⟩ := List.exists_cons_of_ne_nil hmark
  rw [List.cons_append, pieces, piecesFrom,
    if_pos (show a :: rest <+: a :: (rest ++ after) from List.prefix_append (a :: rest) after)]
  have hdrop : (a :: (rest ++ after)).drop (a :: rest).length = after := by simp
  simp only [hdrop]
  rw [piecesFrom_eq]
  congr 2
  have hlength : (a :: rest).length - 1 + (after.takeWhile inRun).length =
      rest.length + (after.takeWhile inRun).length := by simp
  rw [hlength, ← List.drop_drop, List.drop_left]
  nth_rewrite 2 [← List.takeWhile_append_dropWhile (p := inRun) (l := after)]
  exact List.drop_left

variable (inRun) in
/-- A word without the mark is all letters; in any other word the letters before the
first mark are followed by its token. -/
theorem pieces_cases (hmark : mark ≠ []) (word : List α) :
    ((∀ position, ¬ OccursAt mark word position) ∧ pieces mark inRun word = word.map .letter) ∨
      ∃ gap after, word = gap ++ (mark ++ after) ∧
        (∀ position < gap.length, ¬ OccursAt mark word position) ∧
        pieces mark inRun word = gap.map .letter ++
          .token (after.takeWhile inRun) :: pieces mark inRun (after.dropWhile inRun) := by
  induction word with
  | nil =>
      refine Or.inl ⟨?_, rfl⟩
      intro position hoccurs
      rw [OccursAt, List.drop_nil, List.prefix_nil] at hoccurs
      exact hmark hoccurs
  | cons a rest ih =>
      by_cases hhead : mark <+: a :: rest
      · obtain ⟨after, hafter⟩ := hhead
        refine Or.inr ⟨[], after, hafter.symm, ?_, ?_⟩
        · intro position hposition
          exact absurd hposition (Nat.not_lt_zero position)
        · rw [← hafter, pieces_mark_append hmark]
          rfl
      · have hcut : pieces mark inRun (a :: rest) = _ := pieces_cons_of_not_prefix hhead
        rcases ih with ⟨hnone, hletters⟩ | ⟨gap, after, hrest, hfirst, hparts⟩
        · refine Or.inl ⟨?_, by rw [hcut, hletters, List.map_cons]⟩
          intro position
          cases position with
          | zero => exact hhead
          | succ position => exact hnone position
        · refine Or.inr ⟨a :: gap, after, by rw [hrest, List.cons_append], ?_, ?_⟩
          · intro position hposition
            cases position with
            | zero => exact hhead
            | succ position => exact hfirst position (Nat.lt_of_succ_lt_succ hposition)
          · rw [hcut, hparts, List.map_cons, List.cons_append]

omit [DecidableEq α] in
theorem render_append {label : List α → Option (List α)} (first second : List (Piece α)) :
    render mark label (first ++ second) = render mark label first ++ render mark label second :=
  List.flatMap_append

omit [DecidableEq α] in
theorem render_map_letter {label : List α → Option (List α)} (letters : List α) :
    render mark label (letters.map .letter) = letters := by
  induction letters with
  | nil => rfl
  | cons a rest ih =>
      rw [List.map_cons, render, List.flatMap_cons, ← render, ih]
      rfl

/-- Nothing is lost: without labels the parts make up the word. -/
theorem render_pieces (hmark : mark ≠ []) (word : List α) :
    render mark (fun _ => none) (pieces mark inRun word) = word := by
  induction hlength : word.length using Nat.strongRecOn generalizing word with
  | ind length ih =>
      subst hlength
      rcases pieces_cases inRun hmark word with ⟨_, hletters⟩ |
        ⟨gap, after, hword, _, hparts⟩
      · rw [hletters, render_map_letter]
      · have hshorter : (after.dropWhile inRun).length < word.length := by
          have hdrop := (List.dropWhile_suffix inRun (l := after)).length_le
          have hpos := List.length_pos_iff.mpr hmark
          rw [hword, List.length_append, List.length_append]
          omega
        rw [hparts, render_append, render_map_letter, render, List.flatMap_cons, ← render,
          ih _ hshorter _ rfl, Piece.render, Option.getD_none, List.append_assoc,
          List.takeWhile_append_dropWhile, ← hword]

end Pieces

/-! ## Textual replacement -/

/-- Replacement in a word of which the first `skip` letters belong to a match. -/
def replaceFrom (pattern replacement : List α) : Nat → List α → List α
  | _, [] => []
  | skip + 1, _ :: rest => replaceFrom pattern replacement skip rest
  | 0, a :: rest =>
      if pattern <+: a :: rest then
        replacement ++ replaceFrom pattern replacement (pattern.length - 1) rest
      else a :: replaceFrom pattern replacement 0 rest

/-- Replace the matches of a nonempty pattern, from the left and without overlap. -/
def replaceAll (pattern replacement word : List α) : List α :=
  replaceFrom pattern replacement 0 word

section Replace

variable {pattern replacement : List α}

theorem replaceFrom_eq (skip : Nat) (word : List α) :
    replaceFrom pattern replacement skip word = replaceAll pattern replacement (word.drop skip) := by
  induction word generalizing skip with
  | nil => simp [replaceAll, replaceFrom]
  | cons a rest ih =>
      cases skip with
      | zero => rfl
      | succ skip =>
          rw [replaceFrom, List.drop_succ_cons]
          exact ih skip

@[simp] theorem replaceAll_nil : replaceAll pattern replacement [] = [] := rfl

theorem replaceAll_pattern_append (hpattern : pattern ≠ []) (rest : List α) :
    replaceAll pattern replacement (pattern ++ rest) =
      replacement ++ replaceAll pattern replacement rest := by
  obtain ⟨a, tail, rfl⟩ := List.exists_cons_of_ne_nil hpattern
  rw [List.cons_append, replaceAll, replaceFrom,
    if_pos (show a :: tail <+: a :: (tail ++ rest) from List.prefix_append (a :: tail) rest),
    replaceFrom_eq]
  congr 2
  exact List.drop_left

/-- The letters before the first match are copied. -/
theorem replaceAll_append_of_free {front rest : List α}
    (hfree : ∀ position < front.length, ¬ OccursAt pattern (front ++ rest) position) :
    replaceAll pattern replacement (front ++ rest) =
      front ++ replaceAll pattern replacement rest := by
  induction front with
  | nil => rfl
  | cons a front ih =>
      have hhead : ¬ pattern <+: a :: (front ++ rest) := hfree 0 (Nat.succ_pos front.length)
      rw [List.cons_append, replaceAll, replaceFrom, if_neg hhead]
      refine congrArg (a :: ·) (ih ?_)
      intro position hposition
      exact hfree (position + 1) (Nat.succ_lt_succ hposition)

end Replace

/-! ## Replacement of a token -/

section Tokens

variable {mark run replacement : List α} {label : List α → Option (List α)}

/-- The labels after the run has got its own. -/
def withLabel (label : List α → Option (List α)) (run replacement : List α) :
    List α → Option (List α) :=
  fun other => if other = run then some replacement else label other

/-- Every occurrence of the token in the rendered parts starts inside a copy of the token
that is one of the parts and has no label. -/
def OwnOnly (mark : List α) (label : List α → Option (List α)) (run : List α)
    (parts : List (Piece α)) : Prop :=
  ∀ position, OccursAt (mark ++ run) (render mark label parts) position →
    label run = none ∧ ∃ front back, parts = front ++ .token run :: back ∧
      (render mark label front).length ≤ position ∧
      position < (render mark label front).length + (mark ++ run).length

omit [DecidableEq α] in
theorem ownOnly_cons_iff {part : Piece α} {parts : List (Piece α)} :
    OwnOnly mark label run (part :: parts) ↔
      ((label run = none ∧ part = .token run) ∨
        ∀ position < (part.render mark label).length,
          ¬ OccursAt (mark ++ run) (part.render mark label ++ render mark label parts) position) ∧
      OwnOnly mark label run parts := by
  have hrender : render mark label (part :: parts) =
      part.render mark label ++ render mark label parts := List.flatMap_cons
  have howned : label run = none → (Piece.token run).render mark label = mark ++ run := by
    intro hnone
    rw [Piece.render, hnone, Option.getD_none]
  constructor
  · intro hown
    constructor
    · by_cases hpart : label run = none ∧ part = .token run
      · exact Or.inl hpart
      · refine Or.inr ?_
        intro position hposition hoccurs
        obtain ⟨hnone, front, back, hsplit, hle, _⟩ := hown position (by rwa [hrender])
        cases front with
        | nil => exact hpart ⟨hnone, (List.cons.inj hsplit).1⟩
        | cons first front =>
            -- the copy lies behind the part in which the occurrence starts
            obtain ⟨rfl, _⟩ := List.cons.inj hsplit
            rw [render, List.flatMap_cons, List.length_append] at hle
            omega
    · intro position hoccurs
      obtain ⟨hnone, front, back, hsplit, hle, hlt⟩ :=
        hown ((part.render mark label).length + position) (by
          rw [hrender]
          exact occursAt_append_right.mpr hoccurs)
      cases front with
      | nil =>
          obtain ⟨rfl, _⟩ := List.cons.inj hsplit
          rw [howned hnone] at hlt
          simp only [render, List.flatMap_nil, List.length_nil] at hlt
          omega
      | cons first front =>
          obtain ⟨rfl, hparts⟩ := List.cons.inj hsplit
          rw [render, List.flatMap_cons, List.length_append, ← render] at hle hlt
          exact ⟨hnone, front, back, hparts, by omega, by omega⟩
  · rintro ⟨hpart, hown⟩ position hoccurs
    rw [hrender] at hoccurs
    by_cases hposition : position < (part.render mark label).length
    · rcases hpart with ⟨hnone, rfl⟩ | hfree
      · rw [howned hnone] at hposition
        refine ⟨hnone, [], parts, rfl, Nat.zero_le position, ?_⟩
        simpa [render] using hposition
      · exact absurd hoccurs (hfree position hposition)
    · obtain ⟨offset, rfl⟩ := Nat.exists_eq_add_of_le (Nat.not_lt.mp hposition)
      obtain ⟨hnone, front, back, rfl, hle, hlt⟩ := hown offset (occursAt_append_right.mp hoccurs)
      refine ⟨hnone, part :: front, back, rfl, ?_, ?_⟩
      · rw [render, List.flatMap_cons, List.length_append, ← render]
        omega
      · rw [render, List.flatMap_cons, List.length_append, ← render]
        omega

/-- A match that starts inside `front` leaves a trace there, for the replacement starts with
another letter than the pattern. -/
theorem replaceAll_append_ne {pattern front rest later tail : List α} {b : α}
    (hpattern : pattern ≠ []) (hhead : pattern.head? ≠ some b) {position : Nat}
    (hposition : position < front.length)
    (hoccurs : OccursAt pattern (front ++ rest) position) :
    replaceAll pattern (b :: tail) (front ++ rest) ≠ front ++ later := by
  induction front generalizing position with
  | nil => exact absurd hposition (Nat.not_lt_zero position)
  | cons a front ih =>
      intro heq
      by_cases hmatch : pattern <+: a :: (front ++ rest)
      · obtain ⟨after, hafter⟩ := hmatch
        rw [List.cons_append, ← hafter, replaceAll_pattern_append hpattern, List.cons_append,
          List.cons_append] at heq
        obtain ⟨first, others, rfl⟩ := List.exists_cons_of_ne_nil hpattern
        have hfirst : first = a := (List.cons.inj hafter).1
        have hsame : b = a := (List.cons.inj heq).1
        rw [List.head?_cons, hfirst, hsame] at hhead
        exact hhead rfl
      · rw [List.cons_append, replaceAll, replaceFrom, if_neg hmatch, List.cons_append] at heq
        cases position with
        | zero => exact hmatch hoccurs
        | succ position =>
            exact ih (Nat.lt_of_succ_lt_succ hposition) hoccurs (List.cons.inj heq).2

/-- The replacement of a token is a label on its copies exactly when it finds nothing
else. -/
theorem replaceAll_render_iff {tail : List α} {b : α} (hmark : mark ≠ [])
    (hhead : mark.head? ≠ some b) (hlabel : ∀ old, label run = some old → old = b :: tail)
    (parts : List (Piece α)) :
    replaceAll (mark ++ run) (b :: tail) (render mark label parts) =
        render mark (withLabel label run (b :: tail)) parts ↔
      OwnOnly mark label run parts := by
  have hpattern : mark ++ run ≠ [] := by simp [hmark]
  have hpatternHead : (mark ++ run).head? ≠ some b := by
    rwa [List.head?_append_of_ne_nil _ hmark]
  induction parts with
  | nil =>
      refine iff_of_true rfl ?_
      intro position hoccurs
      rw [OccursAt, render, List.flatMap_nil, List.drop_nil, List.prefix_nil] at hoccurs
      exact absurd hoccurs hpattern
  | cons part parts ih =>
      have hcons : ∀ labels : List α → Option (List α), render mark labels (part :: parts) =
          part.render mark labels ++ render mark labels parts := fun _ => List.flatMap_cons
      rw [ownOnly_cons_iff, hcons, hcons]
      by_cases hown : label run = none ∧ part = .token run
      · -- a copy of the token: both sides start with the replacement
        obtain ⟨hnone, rfl⟩ := hown
        have hbefore : (Piece.token run).render mark label = mark ++ run := by
          rw [Piece.render, hnone, Option.getD_none]
        have hafter : (Piece.token run).render mark (withLabel label run (b :: tail)) =
            b :: tail := by
          rw [Piece.render, withLabel, if_pos rfl, Option.getD_some]
        rw [hbefore, hafter, replaceAll_pattern_append hpattern, List.append_cancel_left_eq]
        simpa [hnone] using ih
      · -- any other part is the same under both labels
        have hsame : part.render mark (withLabel label run (b :: tail)) =
            part.render mark label := by
          cases part with
          | letter a => rfl
          | token other =>
              simp only [Piece.render, withLabel]
              by_cases hother : other = run
              · subst hother
                obtain ⟨old, hold⟩ := Option.ne_none_iff_exists'.mp (fun hnone => hown ⟨hnone, rfl⟩)
                rw [if_pos rfl, hold, hlabel old hold]
              · rw [if_neg hother]
        rw [hsame]
        -- A copy of the token that begins inside this part is replaced and cannot be undone.
        by_cases hfree : ∀ position < (part.render mark label).length,
            ¬ OccursAt (mark ++ run) (part.render mark label ++ render mark label parts) position
        · rw [replaceAll_append_of_free hfree, List.append_cancel_left_eq]
          simp only [hown, false_or, and_iff_right hfree]
          exact ih
        · simp only [hown, false_or, hfree, false_and, iff_false]
          push Not at hfree
          obtain ⟨position, hposition, hoccurs⟩ := hfree
          exact replaceAll_append_ne hpattern hpatternHead hposition hoccurs

end Tokens

end Text
