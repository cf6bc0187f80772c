import Mosaico.Profile.Mentions

/-!
# Rewriting mentions is substituting tokens

The purpose of `rewrite_body_mentions` is one pass over the text that writes a label in the
place of every mention that decodes and copies the rest.  The code replaces the mentions
one after the other, each in the whole text as the turns before have left it.  A turn then
also finds its token at the front of a longer one, and in or across a label.

The two agree after every turn exactly when no turn finds its token anywhere but in the
copies of it that the text had from the start.
-/

namespace Mosaico

open Text (Piece OccursAt OwnOnly withLabel render)

section Rewriting

variable (decoders : EntityDecoders) (profileName : String → Option String)

/-- What is written in the place of a token that decodes. -/
def mentionReplacement (run : List Char) : Option (List Char) :=
  (decodeEntityPubkey decoders run).map fun pubkey => '@' :: mentionLabel profileName pubkey

/-- The labels once the given mentions have had their turn. -/
def labelsOf (passed : List (List Char × List Char)) (run : List Char) : Option (List Char) :=
  if run ∈ passed.map Prod.snd then mentionReplacement decoders profileName run else none

/-- The single pass: every mention that decodes gets its label. -/
def singlePass (text : List Char) : List Char :=
  render nostrPrefix
    (fun run => if isMention run then mentionReplacement decoders profileName run else none)
    (mentionPieces text)

/-- The text after the first turns of the loop. -/
def rewrittenBy (text : List Char) (turns : Nat) : List Char :=
  ((mentionsOf (mentionPieces text)).take turns).foldl (rewriteMention decoders profileName) text

/-- Rewriting is the single pass, and each turn on the way to it puts labels on the copies of
its token and changes nothing else. -/
structure RewritesTokens (text : List Char) : Prop where
  singlePass :
    rewriteBodyMentions decoders profileName text = .ok (singlePass decoders profileName text)
  ownToken : ∀ turns ≤ (mentionsOf (mentionPieces text)).length,
    rewrittenBy decoders profileName text turns =
      render nostrPrefix
        (labelsOf decoders profileName ((mentionsOf (mentionPieces text)).take turns))
        (mentionPieces text)

/-- A turn whose entity decodes finds its token only in the copies without a label. -/
def FindsOwnTokens (text : List Char) : Prop :=
  ∀ turns mention, (mentionsOf (mentionPieces text))[turns]? = some mention →
    (decodeEntityPubkey decoders mention.2).isSome →
    OwnOnly nostrPrefix
      (labelsOf decoders profileName ((mentionsOf (mentionPieces text)).take turns)) mention.2
      (mentionPieces text)

variable {decoders profileName}

theorem mem_mentionsOf_iff {parts : List (Piece Char)} {mention : List Char × List Char} :
    mention ∈ mentionsOf parts ↔ mention.1 = nostrPrefix ++ mention.2 ∧
      isMention mention.2 = true ∧ Piece.token mention.2 ∈ parts := by
  obtain ⟨token, run⟩ := mention
  rw [mentionsOf, List.mem_filterMap]
  constructor
  · rintro ⟨part, hpart, hmention⟩
    cases part with
    | letter c => cases hmention
    | token other =>
        simp only [Option.ite_none_right_eq_some, Option.some.injEq, Prod.mk.injEq] at hmention
        obtain ⟨hother, rfl, rfl⟩ := hmention
        exact ⟨rfl, hother, hpart⟩
  · rintro ⟨htoken, hmention, hpart⟩
    refine ⟨.token run, hpart, ?_⟩
    simp only at htoken hmention
    simp only [hmention, htoken, if_true]

/-- All mentions together carry the labels of the single pass. -/
theorem render_labelsOf_all (text : List Char) :
    render nostrPrefix (labelsOf decoders profileName (mentionsOf (mentionPieces text)))
        (mentionPieces text) = singlePass decoders profileName text := by
  rw [singlePass, render, render]
  refine List.flatMap_congr ?_
  intro part hpart
  cases part with
  | letter c => rfl
  | token run =>
      have hmem : run ∈ (mentionsOf (mentionPieces text)).map Prod.snd ↔ isMention run = true := by
        rw [List.mem_map]
        constructor
        · rintro ⟨mention, hmention, rfl⟩
          exact (mem_mentionsOf_iff.mp hmention).2.1
        · intro hmention
          exact ⟨(nostrPrefix ++ run, run), mem_mentionsOf_iff.mpr ⟨rfl, hmention, hpart⟩, rfl⟩
      simp only [Piece.render, labelsOf, hmem]

theorem labelsOf_append_of_none {passed : List (List Char × List Char)}
    {mention : List Char × List Char} (hnone : decodeEntityPubkey decoders mention.2 = none) :
    labelsOf decoders profileName (passed ++ [mention]) = labelsOf decoders profileName passed := by
  funext run
  by_cases hrun : run = mention.2
  · subst hrun
    simp [labelsOf, mentionReplacement, hnone]
  · have hmem : run ∈ (passed ++ [mention]).map Prod.snd ↔ run ∈ passed.map Prod.snd := by
      simp [hrun]
    simp only [labelsOf, hmem]

theorem labelsOf_append_of_some {passed : List (List Char × List Char)}
    {mention : List Char × List Char} {pubkey : String}
    (hsome : decodeEntityPubkey decoders mention.2 = some pubkey) :
    labelsOf decoders profileName (passed ++ [mention]) =
      withLabel (labelsOf decoders profileName passed) mention.2
        ('@' :: mentionLabel profileName pubkey) := by
  funext run
  by_cases hrun : run = mention.2
  · subst hrun
    simp [labelsOf, withLabel, mentionReplacement, hsome]
  · have hmem : run ∈ (passed ++ [mention]).map Prod.snd ↔ run ∈ passed.map Prod.snd := by
      simp [hrun]
    rw [withLabel, if_neg hrun]
    simp only [labelsOf, hmem]

/-- One turn on a text whose earlier labels are in place. -/
theorem rewriteMention_iff {parts : List (Piece Char)} {passed : List (List Char × List Char)}
    {mention : List Char × List Char} (hmention : mention ∈ mentionsOf parts) :
    rewriteMention decoders profileName
          (render nostrPrefix (labelsOf decoders profileName passed) parts) mention =
        render nostrPrefix (labelsOf decoders profileName (passed ++ [mention])) parts ↔
      ((decodeEntityPubkey decoders mention.2).isSome →
        OwnOnly nostrPrefix (labelsOf decoders profileName passed) mention.2 parts) := by
  rw [rewriteMention, (mem_mentionsOf_iff.mp hmention).1]
  cases hdecode : decodeEntityPubkey decoders mention.2 with
  | none => simp [labelsOf_append_of_none hdecode]
  | some pubkey =>
      have hold : ∀ old, labelsOf decoders profileName passed mention.2 = some old →
          old = '@' :: mentionLabel profileName pubkey := by
        intro old hsome
        simp only [labelsOf, mentionReplacement, hdecode, Option.map_some,
          Option.ite_none_right_eq_some, Option.some.injEq] at hsome
        exact hsome.2.symm
      rw [labelsOf_append_of_some hdecode]
      simp only [Option.isSome_some, true_implies]
      exact Text.replaceAll_render_iff nostrPrefix_ne_nil (by decide) hold parts

theorem rewrittenBy_succ {text : List Char} {turns : Nat} {mention : List Char × List Char}
    (hturn : (mentionsOf (mentionPieces text))[turns]? = some mention) :
    rewrittenBy decoders profileName text (turns + 1) =
      rewriteMention decoders profileName (rewrittenBy decoders profileName text turns) mention := by
  obtain ⟨hlt, hget⟩ := List.getElem?_eq_some_iff.mp hturn
  rw [rewrittenBy, List.take_succ_eq_append_getElem hlt, List.foldl_append, hget]
  rfl

theorem rewriteBodyMentions_eq {text : List Char}
    (hscan : nostrEntities text = .ok (mentionsOf (mentionPieces text))) :
    rewriteBodyMentions decoders profileName text =
      .ok (rewrittenBy decoders profileName text (mentionsOf (mentionPieces text)).length) := by
  rw [rewriteBodyMentions, hscan, rewrittenBy, List.take_length]
  rfl

/-- Where the scan succeeds, rewriting mentions is token substitution exactly when every
replacement finds its own tokens only. -/
theorem rewritesTokens_iff (text : List Char) (hscan : ∃ found, nostrEntities text = .ok found) :
    RewritesTokens decoders profileName text ↔ FindsOwnTokens decoders profileName text := by
  have hfound := nostrEntities_of_followed (nostrEntities_ok_iff.mp hscan)
  have htake : ∀ turns mention, (mentionsOf (mentionPieces text))[turns]? = some mention →
      (mentionsOf (mentionPieces text)).take (turns + 1) =
        (mentionsOf (mentionPieces text)).take turns ++ [mention] := by
    intro turns mention hturn
    obtain ⟨hlt, hget⟩ := List.getElem?_eq_some_iff.mp hturn
    rw [List.take_succ_eq_append_getElem hlt, hget]
  constructor
  · intro hrewrites turns mention hturn
    have hlt := (List.getElem?_eq_some_iff.mp hturn).1
    -- the turn leads from one text with labels to the next
    have hafter := hrewrites.ownToken (turns + 1) hlt
    rw [rewrittenBy_succ hturn, hrewrites.ownToken turns (by omega), htake turns mention hturn]
      at hafter
    exact (rewriteMention_iff (List.mem_of_getElem? hturn)).mp hafter
  · intro hown
    have hturns : ∀ turns ≤ (mentionsOf (mentionPieces text)).length,
        rewrittenBy decoders profileName text turns =
          render nostrPrefix
            (labelsOf decoders profileName ((mentionsOf (mentionPieces text)).take turns))
            (mentionPieces text) := by
      intro turns hle
      induction turns with
      | zero => exact (Text.render_pieces nostrPrefix_ne_nil text).symm
      | succ turns ih =>
          have hturn : (mentionsOf (mentionPieces text))[turns]? =
              some (mentionsOf (mentionPieces text))[turns] := List.getElem?_eq_getElem hle
          rw [rewrittenBy_succ hturn, ih (by omega), htake turns _ hturn]
          exact (rewriteMention_iff (List.getElem_mem hle)).mpr (hown turns _ hturn)
    refine ⟨?_, hturns⟩
    rw [rewriteBodyMentions_eq hfound, hturns _ le_rfl, List.take_length, render_labelsOf_all]

end Rewriting

/-! ## Two texts -/

/-- A decoder that knows one short entity. -/
private def knowsOne : EntityDecoders :=
  { parsePublicKey := fun entity =>
      if entity = ['n', 'p', 'u', 'b', '1', 'a'] then some "0123456789" else none
    nip19Profile := fun _ => none }

/-- A mention of its own is replaced by the name and the rest is copied. -/
theorem rewrites_single_mention :
    RewritesTokens knowsOne (fun _ => some "eve")
      ['n', 'o', 's', 't', 'r', ':', 'n', 'p', 'u', 'b', '1', 'a', ' ', 'o', 'k'] := by
  refine (rewritesTokens_iff _ ⟨_, by rfl⟩).mpr ?_
  intro turns mention hturn _
  have hparts : mentionPieces
      ['n', 'o', 's', 't', 'r', ':', 'n', 'p', 'u', 'b', '1', 'a', ' ', 'o', 'k'] =
      [.token ['n', 'p', 'u', 'b', '1', 'a'], .letter ' ', .letter 'o', .letter 'k'] := by decide
  rw [hparts] at hturn ⊢
  cases turns with
  | succ turns => cases turns <;> cases hturn
  | zero =>
      cases hturn
      intro position hoccurs
      refine ⟨rfl, [], [.letter ' ', .letter 'o', .letter 'k'], rfl, Nat.zero_le _, ?_⟩
      -- three letters behind the token hold no second one
      have hle := hoccurs.length_le
      rw [List.length_drop] at hle
      simp only [render, List.flatMap_nil, List.length_nil]
      have hword : (render nostrPrefix (labelsOf knowsOne (fun _ => some "eve") [])
          [.token ['n', 'p', 'u', 'b', '1', 'a'], .letter ' ', .letter 'o', .letter 'k']).length =
          15 := by decide
      have hpattern : (nostrPrefix ++ ['n', 'p', 'u', 'b', '1', 'a']).length = 12 := by decide
      simp only [List.take_zero, hword, hpattern] at hle
      omega

/-- A mention, and a token that begins like it and does not decode. -/
private def mentionAndLonger : List Char :=
  ['n', 'o', 's', 't', 'r', ':', 'n', 'p', 'u', 'b', '1', 'a', ' ',
    'n', 'o', 's', 't', 'r', ':', 'n', 'p', 'u', 'b', '1', 'a', 'b']

/-- A token that decodes is also replaced at the front of a longer one that does not. -/
theorem rewrites_longer_token :
    ¬ (∀ decoders profileName text, (∃ found, nostrEntities text = .ok found) →
        RewritesTokens decoders profileName text) ∧
      rewriteBodyMentions knowsOne (fun _ => some "eve") mentionAndLonger =
        .ok ['@', 'e', 'v', 'e', ' ', '@', 'e', 'v', 'e', 'b'] ∧
      singlePass knowsOne (fun _ => some "eve") mentionAndLonger =
        ['@', 'e', 'v', 'e', ' ', 'n', 'o', 's', 't', 'r', ':', 'n', 'p', 'u', 'b', '1', 'a', 'b'] := by
  have hcode : rewriteBodyMentions knowsOne (fun _ => some "eve") mentionAndLonger =
      .ok ['@', 'e', 'v', 'e', ' ', '@', 'e', 'v', 'e', 'b'] := by decide
  have hspec : singlePass knowsOne (fun _ => some "eve") mentionAndLonger =
      ['@', 'e', 'v', 'e', ' ', 'n', 'o', 's', 't', 'r', ':', 'n', 'p', 'u', 'b', '1', 'a', 'b'] := by
    decide
  refine ⟨?_, hcode, hspec⟩
  intro hall
  have hscan : ∃ found, nostrEntities mentionAndLonger = .ok found :=
    nostrEntities_ok_iff.mpr (by decide)
  have hrewrites := (hall knowsOne (fun _ => some "eve") mentionAndLonger hscan).singlePass
  rw [hcode, hspec] at hrewrites
  exact absurd (Except.ok.inj hrewrites) (by decide)

end Mosaico
