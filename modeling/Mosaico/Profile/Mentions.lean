import Mosaico.Rust.Slices

/-!
# Mentions in a message body

`nostr_entities` looks for `nostr:` from a byte position, takes the run of lowercase
letters and digits behind it and goes on behind the run, but at least one byte further.
`rewrite_body_mentions` then replaces every token it can decode by the name of the pubkey,
one token after the other, in the whole text.

With an empty run the forced byte is the first byte of whatever follows.  So the scanner
gets through a text exactly when no token with an empty run ends the text or stands before
a character of several bytes.

The texts are lists of characters and the positions count bytes.  The decoders of the
`nostr` crate and the names in the `profiles` table are parameters.
-/

namespace Mosaico

open Rust (byteLen sliceFrom find)
open Text (Piece OccursAt)

/-! ## The scanner -/

/-- The `PREFIX` of `nostr_entities`. -/
def nostrPrefix : List Char := ['n', 'o', 's', 't', 'r', ':']

/-- `c.is_ascii_lowercase() || c.is_ascii_digit()` -/
def isEntityChar (c : Char) : Bool :=
  c.isLower || c.isDigit

/-- Why the scanner does not answer: a slice panics, or the turns have run out. -/
inductive ScanError where
  | slice (position : Nat)
  | unfinished
  deriving DecidableEq, Repr

/-- One turn of the loop: the entity behind the next `nostr:` and the position after it. -/
def scanFrom (text : List Char) (searchFrom : Nat) :
    Except ScanError (Option (List Char × Nat)) :=
  match sliceFrom text searchFrom with
  | none => .error (.slice searchFrom)
  | some rest =>
      match find nostrPrefix rest with
      | none => .ok none
      | some rel =>
          let entityStart := searchFrom + rel + byteLen nostrPrefix
          match sliceFrom text entityStart with
          | none => .error (.slice entityStart)
          | some after =>
              let entity := after.takeWhile isEntityChar
              -- at least one byte further, whatever character the byte belongs to
              .ok (some (entity, entityStart + max (byteLen entity) 1))

/-- `entity.starts_with("npub1") || entity.starts_with("nprofile1")` -/
def isMention (entity : List Char) : Bool :=
  ['n', 'p', 'u', 'b', '1'].isPrefixOf entity ||
    ['n', 'p', 'r', 'o', 'f', 'i', 'l', 'e', '1'].isPrefixOf entity

/-- The turns of the loop, with the full token and the entity of every mention. -/
def scanEntities (text : List Char) :
    Nat → Nat → Except ScanError (List (List Char × List Char))
  | 0, _ => .error .unfinished
  | turns + 1, searchFrom =>
      match scanFrom text searchFrom with
      | .error error => .error error
      | .ok none => .ok []
      | .ok (some (entity, next)) =>
          match scanEntities text turns next with
          | .error error => .error error
          | .ok found =>
              .ok (if isMention entity then (nostrPrefix ++ entity, entity) :: found else found)

/-- `nostr_entities`.  Every turn but the last passes a `nostr:`. -/
def nostrEntities (text : List Char) : Except ScanError (List (List Char × List Char)) :=
  scanEntities text (text.length + 1) 0

/-! ## What the mentions are used for -/

/-- The two parsers of the `nostr` crate, with the pubkey in hex. -/
structure EntityDecoders where
  parsePublicKey : List Char → Option String
  nip19Profile : List Char → Option String

/-- `decode_entity_pubkey` -/
def decodeEntityPubkey (decoders : EntityDecoders) (entity : List Char) : Option String :=
  match decoders.parsePublicKey entity with
  | some pubkey => some pubkey
  | none => decoders.nip19Profile entity

/-- `body_mention_pubkeys` -/
def bodyMentionPubkeys (decoders : EntityDecoders) (text : List Char) :
    Except ScanError (List String) :=
  (nostrEntities text).map fun found =>
    found.filterMap fun mention => decodeEntityPubkey decoders mention.2

/-- `pubkey_short` -/
def pubkeyShort (id : String) : List Char :=
  id.toList.take 8

/-- The label of a pubkey: the name in its profile unless that is empty. -/
def mentionLabel (profileName : String → Option String) (pubkey : String) : List Char :=
  match profileName pubkey with
  | some name => if name.toList = [] then pubkeyShort pubkey else name.toList
  | none => pubkeyShort pubkey

/-- One turn of the loop of `rewrite_body_mentions`. -/
def rewriteMention (decoders : EntityDecoders) (profileName : String → Option String)
    (out : List Char) (mention : List Char × List Char) : List Char :=
  match decodeEntityPubkey decoders mention.2 with
  | none => out
  | some pubkey => Text.replaceAll mention.1 ('@' :: mentionLabel profileName pubkey) out

/-- `rewrite_body_mentions` -/
def rewriteBodyMentions (decoders : EntityDecoders) (profileName : String → Option String)
    (text : List Char) : Except ScanError (List Char) :=
  (nostrEntities text).map fun found => found.foldl (rewriteMention decoders profileName) text

/-! ## The text as tokens -/

/-- The `nostr:` tokens of a text and the characters between them. -/
def mentionPieces (text : List Char) : List (Piece Char) :=
  Text.pieces nostrPrefix isEntityChar text

/-- The next part is a character of one byte. -/
def LeadsWithAscii : List (Piece Char) → Prop
  | .letter c :: _ => c.utf8Size = 1
  | _ => False

/-- Behind every token with an empty run stands a character of one byte. -/
def EmptyRunsFollowed : List (Piece Char) → Prop
  | [] => True
  | part :: rest => (part = .token [] → LeadsWithAscii rest) ∧ EmptyRunsFollowed rest

instance (parts : List (Piece Char)) : Decidable (LeadsWithAscii parts) :=
  match parts with
  | [] => isFalse id
  | .letter c :: _ => inferInstanceAs (Decidable (c.utf8Size = 1))
  | .token _ :: _ => isFalse id

def decideEmptyRunsFollowed :
    (parts : List (Piece Char)) → Decidable (EmptyRunsFollowed parts)
  | [] => isTrue trivial
  | part :: rest =>
      have := decideEmptyRunsFollowed rest
      inferInstanceAs
        (Decidable ((part = .token [] → LeadsWithAscii rest) ∧ EmptyRunsFollowed rest))

instance (parts : List (Piece Char)) : Decidable (EmptyRunsFollowed parts) :=
  decideEmptyRunsFollowed parts

/-- The mentions among the tokens. -/
def mentionsOf (parts : List (Piece Char)) : List (List Char × List Char) :=
  parts.filterMap fun part =>
    match part with
    | .letter _ => none
    | .token run => if isMention run then some (nostrPrefix ++ run, run) else none

theorem nostrPrefix_ne_nil : nostrPrefix ≠ [] := List.cons_ne_nil _ _

theorem emptyRunsFollowed_letters (letters : List Char) (parts : List (Piece Char)) :
    EmptyRunsFollowed (letters.map .letter ++ parts) ↔ EmptyRunsFollowed parts := by
  induction letters with
  | nil => rfl
  | cons c rest ih =>
      rw [List.map_cons, List.cons_append, EmptyRunsFollowed, ih]
      simp

theorem mentionsOf_letters (letters : List Char) (parts : List (Piece Char)) :
    mentionsOf (letters.map .letter ++ parts) = mentionsOf parts := by
  induction letters with
  | nil => rfl
  | cons c rest ih => exact ih

theorem mentionsOf_token (run : List Char) (parts : List (Piece Char)) :
    mentionsOf (.token run :: parts) =
      if isMention run then (nostrPrefix ++ run, run) :: mentionsOf parts
      else mentionsOf parts := by
  by_cases hmention : isMention run
  · simp [mentionsOf, hmention]
  · simp [mentionsOf, hmention]

theorem emptyRunsFollowed_map_letter (letters : List Char) :
    EmptyRunsFollowed (letters.map .letter) := by
  have hletters := emptyRunsFollowed_letters letters []
  rw [List.append_nil] at hletters
  exact hletters.mpr trivial

theorem mentionsOf_map_letter (letters : List Char) : mentionsOf (letters.map .letter) = [] := by
  have hletters := mentionsOf_letters letters []
  rwa [List.append_nil] at hletters

/-! ## One turn -/

theorem scanFrom_of_free (front : List Char) {rest : List Char}
    (hfree : ∀ position, ¬ OccursAt nostrPrefix rest position) :
    scanFrom (front ++ rest) (byteLen front) = .ok none := by
  rw [scanFrom, Rust.sliceFrom_append]
  simp only [Rust.find_eq_none hfree]

theorem scanFrom_of_token (front : List Char) {gap after : List Char}
    (hfirst : ∀ position < gap.length,
      ¬ OccursAt nostrPrefix (gap ++ (nostrPrefix ++ after)) position) :
    scanFrom (front ++ (gap ++ (nostrPrefix ++ after))) (byteLen front) =
      .ok (some (after.takeWhile isEntityChar,
        byteLen (front ++ gap ++ nostrPrefix) + max (byteLen (after.takeWhile isEntityChar)) 1)) := by
  have hstart : byteLen front + byteLen gap + byteLen nostrPrefix =
      byteLen (front ++ gap ++ nostrPrefix) := by
    rw [Rust.byteLen_append, Rust.byteLen_append]
  have hafter : sliceFrom (front ++ (gap ++ (nostrPrefix ++ after)))
      (byteLen (front ++ gap ++ nostrPrefix)) = some after := by
    rw [show front ++ (gap ++ (nostrPrefix ++ after)) = (front ++ gap ++ nostrPrefix) ++ after by
      simp only [List.append_assoc]]
    exact Rust.sliceFrom_append _ _
  rw [scanFrom, Rust.sliceFrom_append]
  simp only [Rust.find_eq_some nostrPrefix_ne_nil hfirst, hstart, hafter]

/-- A character that ends a run starts no token. -/
theorem mentionPieces_cons {c : Char} (rest : List Char) (hc : isEntityChar c = false) :
    mentionPieces (c :: rest) = .letter c :: mentionPieces rest := by
  refine Text.pieces_cons_of_not_prefix ?_
  intro hprefix
  have hhead : 'n' = c := (List.cons_prefix_cons.mp hprefix).1
  rw [← hhead] at hc
  exact absurd hc (by decide)

/-- Where a turn leaves the scanner.  Either the next slice panics, or the rest of the text
has the same parts ahead as the text behind the token. -/
theorem afterToken (front after : List Char) :
    (sliceFrom (front ++ after)
          (byteLen front + max (byteLen (after.takeWhile isEntityChar)) 1) = none ∧
        ¬ EmptyRunsFollowed (.token (after.takeWhile isEntityChar) ::
          mentionPieces (after.dropWhile isEntityChar))) ∨
      ∃ passed rest, front ++ after = passed ++ rest ∧
        byteLen front + max (byteLen (after.takeWhile isEntityChar)) 1 = byteLen passed ∧
        rest.length ≤ after.length ∧
        (EmptyRunsFollowed (.token (after.takeWhile isEntityChar) ::
            mentionPieces (after.dropWhile isEntityChar)) ↔
          EmptyRunsFollowed (mentionPieces rest)) ∧
        mentionsOf (mentionPieces (after.dropWhile isEntityChar)) =
          mentionsOf (mentionPieces rest) := by
  by_cases hrun : after.takeWhile isEntityChar = []
  · rw [hrun, Rust.byteLen_nil, Nat.max_eq_right (Nat.zero_le 1)]
    cases after with
    | nil =>
        -- the mark ends the text and the forced byte lies behind it
        refine Or.inl ⟨Rust.sliceFrom_past ?_, ?_⟩
        · rw [List.append_nil]
          omega
        · rintro ⟨hleads, _⟩
          exact hleads rfl
    | cons c rest =>
        have hc : isEntityChar c = false := by
          by_contra hne
          rw [List.takeWhile_cons_of_pos (by simpa using hne)] at hrun
          exact List.cons_ne_nil _ _ hrun
        rw [List.dropWhile_cons_of_neg (by simp [hc]), mentionPieces_cons rest hc]
        have hsize := c.utf8Size_pos
        by_cases hascii : c.utf8Size = 1
        · refine Or.inr ⟨front ++ [c], rest, by simp, ?_, ?_, ?_, rfl⟩
          · rw [Rust.byteLen_append, Rust.byteLen_cons, Rust.byteLen_nil, hascii]
          · rw [List.length_cons]
            omega
          · simp [EmptyRunsFollowed, LeadsWithAscii, hascii]
        · -- the forced byte is the first of several
          refine Or.inl ⟨Rust.sliceFrom_inside front rest Nat.one_pos (by omega), ?_⟩
          rintro ⟨hleads, _⟩
          exact hascii (hleads rfl)
  · refine Or.inr ⟨front ++ after.takeWhile isEntityChar, after.dropWhile isEntityChar, ?_, ?_,
      ?_, ?_, rfl⟩
    · rw [List.append_assoc, List.takeWhile_append_dropWhile]
    · have hpos := List.length_pos_iff.mpr hrun
      have hbytes := Rust.length_le_byteLen (after.takeWhile isEntityChar)
      rw [Rust.byteLen_append]
      omega
    · exact (List.dropWhile_suffix isEntityChar).length_le
    · rw [EmptyRunsFollowed]
      simp [hrun]

/-! ## All turns -/

/-- From a character boundary the scanner answers with the mentions of the rest, or panics. -/
theorem scanEntities_eq (turns : Nat) (front rest : List Char) (hturns : rest.length < turns) :
    (EmptyRunsFollowed (mentionPieces rest) →
        scanEntities (front ++ rest) turns (byteLen front) =
          .ok (mentionsOf (mentionPieces rest))) ∧
      (¬ EmptyRunsFollowed (mentionPieces rest) →
        ∃ position, scanEntities (front ++ rest) turns (byteLen front) =
          .error (.slice position)) := by
  induction turns generalizing front rest with
  | zero => exact absurd hturns (Nat.not_lt_zero _)
  | succ turns ih =>
      rcases Text.pieces_cases isEntityChar nostrPrefix_ne_nil rest with
        ⟨hfree, hparts⟩ | ⟨gap, after, rfl, hfirst, hparts⟩
      · rw [mentionPieces, hparts, scanEntities, scanFrom_of_free front hfree]
        simp only [mentionsOf_map_letter, emptyRunsFollowed_map_letter, true_implies, not_true_eq_false,
          false_implies, and_self]
      · have hshorter : after.length < turns := by
          have hmark : nostrPrefix.length = 6 := rfl
          simp only [List.length_append] at hturns
          omega
        have hwhole : front ++ (gap ++ (nostrPrefix ++ after)) =
            (front ++ gap ++ nostrPrefix) ++ after := by simp only [List.append_assoc]
        rw [scanEntities, scanFrom_of_token front hfirst, mentionPieces, hparts,
          emptyRunsFollowed_letters, mentionsOf_letters]
        simp only
        rcases afterToken (front ++ gap ++ nostrPrefix) after with
          ⟨hnone, hstuck⟩ | ⟨passed, rest, hsplit, hnext, hle, hfollowed, hmentions⟩
        · -- the next turn is the last
          refine ⟨fun hall => absurd hall hstuck, fun _ => ?_⟩
          obtain ⟨turns, rfl⟩ : ∃ before, turns = before + 1 := ⟨turns - 1, by omega⟩
          refine ⟨byteLen (front ++ gap ++ nostrPrefix) +
            max (byteLen (after.takeWhile isEntityChar)) 1, ?_⟩
          rw [hwhole, scanEntities, scanFrom, hnone]
        · obtain ⟨hok, herror⟩ := ih passed rest (by omega)
          rw [hwhole, hsplit, hnext]
          constructor
          · intro hall
            rw [hok (hfollowed.mp hall), mentionsOf_token, ← hmentions]
            rfl
          · intro hstuck
            obtain ⟨position, hposition⟩ := herror (fun hall => hstuck (hfollowed.mpr hall))
            exact ⟨position, by rw [hposition]⟩

theorem nostrEntities_of_followed {text : List Char}
    (hall : EmptyRunsFollowed (mentionPieces text)) :
    nostrEntities text = .ok (mentionsOf (mentionPieces text)) :=
  (scanEntities_eq (text.length + 1) [] text (Nat.lt_succ_self _)).1 hall

theorem nostrEntities_ok_iff {text : List Char} :
    (∃ found, nostrEntities text = .ok found) ↔ EmptyRunsFollowed (mentionPieces text) := by
  constructor
  · rintro ⟨found, hfound⟩
    by_contra hstuck
    obtain ⟨position, herror⟩ :=
      (scanEntities_eq (text.length + 1) [] text (Nat.lt_succ_self _)).2 hstuck
    rw [nostrEntities] at hfound
    simp only [List.nil_append, Rust.byteLen_nil] at herror
    rw [herror] at hfound
    cases hfound
  · exact fun hall => ⟨_, nostrEntities_of_followed hall⟩

/-! ## The positions of the scanner -/

/-- The values `search_from` takes at the head of the loop. -/
inductive ScansAt (text : List Char) : Nat → Prop where
  | start : ScansAt text 0
  | next {position next : Nat} {entity : List Char} (hbefore : ScansAt text position)
      (hturn : scanFrom text position = .ok (some (entity, next))) : ScansAt text next

/-- The scan of a text goes through, each of its positions is a character boundary of the
text, and each turn moves forward. -/
structure ScansSafely (decoders : EntityDecoders) (profileName : String → Option String)
    (text : List Char) : Prop where
  entities : ∃ found, nostrEntities text = .ok found
  rewrites : ∃ out, rewriteBodyMentions decoders profileName text = .ok out
  pubkeys : ∃ found, bodyMentionPubkeys decoders text = .ok found
  within : ∀ position, ScansAt text position → position ≤ byteLen text
  boundary : ∀ position, ScansAt text position → ∃ rest, sliceFrom text position = some rest
  forward : ∀ position next entity, ScansAt text position →
    scanFrom text position = .ok (some (entity, next)) → position < next

theorem scanFrom_forward {text : List Char} {position next : Nat} {entity : List Char}
    (hturn : scanFrom text position = .ok (some (entity, next))) : position < next := by
  simp only [scanFrom] at hturn
  split at hturn
  · cases hturn
  · split at hturn
    · cases hturn
    · split at hturn
      · cases hturn
      · simp only [Except.ok.injEq, Option.some.injEq, Prod.mk.injEq] at hturn
        omega

/-- What holds of the text ahead of every position of a scan that meets no bad token. -/
theorem ScansAt.ahead {text : List Char} {position : Nat} (hat : ScansAt text position)
    (hall : EmptyRunsFollowed (mentionPieces text)) :
    ∃ passed rest, text = passed ++ rest ∧ position = byteLen passed ∧
      EmptyRunsFollowed (mentionPieces rest) := by
  induction hat with
  | start => exact ⟨[], text, rfl, rfl, hall⟩
  | @next position next entity hbefore hturn ih =>
      obtain ⟨front, rest, rfl, rfl, hrest⟩ := ih
      rcases Text.pieces_cases isEntityChar nostrPrefix_ne_nil rest with
        ⟨hfree, _⟩ | ⟨gap, after, rfl, hfirst, hparts⟩
      · rw [scanFrom_of_free front hfree] at hturn
        cases hturn
      · rw [mentionPieces, hparts, emptyRunsFollowed_letters] at hrest
        rw [scanFrom_of_token front hfirst] at hturn
        obtain ⟨_, rfl⟩ := Prod.mk.inj (Option.some.inj (Except.ok.inj hturn))
        rcases afterToken (front ++ gap ++ nostrPrefix) after with
          ⟨_, hstuck⟩ | ⟨passed, later, hsplit, hnext, _, hfollowed, _⟩
        · exact absurd hrest hstuck
        · refine ⟨passed, later, ?_, hnext, hfollowed.mp hrest⟩
          rw [← hsplit]
          simp only [List.append_assoc]

/-- The scanner is total on a text exactly when every token with an empty run is followed by
a character of one byte. -/
theorem scansSafely_iff (decoders : EntityDecoders) (profileName : String → Option String)
    (text : List Char) :
    ScansSafely decoders profileName text ↔ EmptyRunsFollowed (mentionPieces text) := by
  constructor
  · intro hsafe
    exact nostrEntities_ok_iff.mp hsafe.entities
  · intro hall
    have hfound := nostrEntities_of_followed hall
    refine
      { entities := ⟨_, hfound⟩
        rewrites := ?_
        pubkeys := ?_
        within := ?_
        boundary := ?_
        forward := ?_ }
    · rw [rewriteBodyMentions, hfound]
      exact ⟨_, rfl⟩
    · rw [bodyMentionPubkeys, hfound]
      exact ⟨_, rfl⟩
    · intro position hat
      obtain ⟨passed, rest, rfl, rfl, _⟩ := hat.ahead hall
      rw [Rust.byteLen_append]
      omega
    · intro position hat
      obtain ⟨passed, rest, rfl, rfl, _⟩ := hat.ahead hall
      exact ⟨rest, Rust.sliceFrom_append passed rest⟩
    · intro position next entity _ hturn
      exact scanFrom_forward hturn

/-- A body that ends in `nostr:`, and one in which a character of several bytes follows it,
make the scanner panic one byte further. -/
theorem scan_panics :
    ¬ (∀ decoders profileName text, ScansSafely decoders profileName text) ∧
      nostrEntities ['h', 'i', ' ', 'n', 'o', 's', 't', 'r', ':'] = .error (.slice 10) ∧
      nostrEntities ['n', 'o', 's', 't', 'r', ':', 'é'] = .error (.slice 7) := by
  have hend : nostrEntities ['h', 'i', ' ', 'n', 'o', 's', 't', 'r', ':'] =
      .error (.slice 10) := by decide
  refine ⟨?_, hend, by decide⟩
  intro hsafe
  obtain ⟨found, hfound⟩ :=
    (hsafe ⟨fun _ => none, fun _ => none⟩ (fun _ => none) _).entities
  rw [hend] at hfound
  cases hfound

end Mosaico
