import Mosaico.Identity.Recipients

/-!
# Settled references

A reference is settled when the pubkey it resolves to follows from the set of rows: the
holder of a leased handle, or the only profile that answers.  A lookup that takes the first
match is settled exactly if there are no two.
-/

namespace Mosaico

open Relational

namespace Directory

/-- The same rows, in whatever order the profiles, statuses and leases were stored. -/
structure SameRows (left right : Directory) : Prop where
  profiles : left.profiles.rows.Perm right.profiles.rows
  statuses : left.statuses.rows.Perm right.statuses.rows
  leases : left.store.handleLeases.rows.Perm right.store.handleLeases.rows
  rest : right.store = { left.store with handleLeases := right.store.handleLeases }

/-- The answer depends on the rows alone. -/
def OrderFree {α : Type} (dir : Directory) (lookup : Directory → α) : Prop :=
  ∀ other, dir.SameRows other → lookup other = lookup dir

/-- The handle is leased to the pubkey of a local session. -/
def Leases (dir : Directory) (token pubkey : String) : Prop :=
  (∃ lease ∈ dir.store.handleLeases.rows,
    lease.handle = trimStartMatches '@' (Rust.trim token) ∧ lease.pubkey = pubkey) ∧
      (dir.store.getSession pubkey).isSome = true

/-- The profile answers to the token as a handle that can be mentioned, or as the label of
an agent of this machine. -/
def AnswersToken (dir : Directory) (localHost token : String) (row : ProfileRow) : Prop :=
  (row.AnswersHandle (Rust.trim token) ∧ dir.HasStatus row.pubkey) ∨
    row.AnswersAgent token (Rust.trim localHost)

instance (dir : Directory) (localHost token : String) :
    DecidablePred (dir.AnswersToken localHost token) := fun _ =>
  inferInstanceAs (Decidable (_ ∨ _))

/-- The pubkey is the one the reference is for: it is named by the reference, holds the
leased handle or is the only one whose profile answers. -/
def IsRecipient (dir : Directory) (parsePubkey : String → Option String)
    (localHost target pubkey : String) : Prop :=
  match parseRef target with
  | .agent slug host => dir.profiles.Only (ProfileRow.AnswersAgent slug host) pubkey
  | .pubkey raw => pubkey = (parsePubkey raw).getD raw
  | .token token => dir.Leases token pubkey ∨
      dir.profiles.Only (dir.AnswersToken localHost token) pubkey

/-- A reference resolves to the pubkey it is for, in every order of the rows, or fails. -/
def RecipientSettled (dir : Directory) (parsePubkey : String → Option String)
    (myChannel localHost target : String) : Prop :=
  dir.OrderFree (fun current => current.resolveRecipient parsePubkey myChannel localHost target) ∧
    ∀ found, dir.resolveRecipient parsePubkey myChannel localHost target = .ok found →
      dir.IsRecipient parsePubkey localHost target found.pubkey

/-- A backend label resolves to the only backend that advertises it, or fails. -/
def BackendSettled (dir : Directory) (label : String) : Prop :=
  dir.OrderFree (fun current => current.pubkeyForBackendLabel label) ∧
    ∀ pubkey, dir.pubkeyForBackendLabel label = some pubkey →
      dir.profiles.Only (ProfileRow.AnswersBackend label) pubkey

/-- The handle is leased to a local session. -/
def LeasedToSession (dir : Directory) (token : String) : Prop :=
  ∃ pubkey ∈ dir.pubkeyForHandle token, (dir.store.getSession pubkey).isSome = true

/-- No two profiles answer to the reference where the first one would be taken. -/
def RecipientUnambiguous (dir : Directory) (localHost target : String) : Prop :=
  match parseRef target with
  | .agent slug host => dir.profiles.matching (ProfileRow.AnswersAgent slug host) ≤ 1
  | .pubkey _ => True
  | .token token => dir.LeasedToSession token ∨
      2 ≤ dir.profiles.matching (ProfileRow.AnswersHandle (Rust.trim token)) ∨
      dir.profiles.matching (dir.AnswersToken localHost token) ≤ 1

variable {dir other : Directory} {parsePubkey : String → Option String}
  {myChannel localHost target token slug host label : String}

/-! ## Leases -/

theorem sessionIdentity_eq_none_iff {store : Store} {pubkey : String} :
    store.sessionIdentity pubkey = .ok none ↔ store.getSession pubkey = none := by
  unfold Store.sessionIdentity
  split
  · simp [*]
  · split_ifs
    · split
      · simp [*]
      · simp [*]
    · simp [*]

theorem pubkey_of_sessionIdentity {store : Store} {pubkey : String} {identity : SessionIdentity}
    (hidentity : store.sessionIdentity pubkey = .ok (some identity)) :
    identity.pubkey = pubkey := by
  unfold Store.sessionIdentity at hidentity
  split at hidentity
  · cases hidentity
  · split_ifs at hidentity
    · split at hidentity
      · cases hidentity
        rfl
      · cases hidentity
    · cases hidentity
      rfl

theorem leasedRecipient_eq_none_iff :
    dir.leasedRecipient token = .ok none ↔ ¬ dir.LeasedToSession token := by
  unfold leasedRecipient LeasedToSession
  cases dir.pubkeyForHandle token with
  | none => simp
  | some pubkey =>
      have hnone : dir.store.sessionIdentity pubkey = .ok none ↔
          dir.store.getSession pubkey = none := sessionIdentity_eq_none_iff
      cases hidentity : dir.store.sessionIdentity pubkey with
      | error error =>
          rw [hidentity] at hnone
          simp [hidentity, Option.isSome_iff_ne_none, ← hnone]
      | ok found =>
          rw [hidentity] at hnone
          cases found with
          | none => simp [hidentity, hnone.mp rfl]
          | some identity =>
              have hsession : dir.store.getSession pubkey ≠ none := by
                rw [Ne, ← hnone]
                simp
              obtain ⟨session, hsession⟩ := Option.ne_none_iff_exists'.mp hsession
              simp [hidentity, pubkey_of_sessionIdentity hidentity, hsession]

theorem leases_of_leasedRecipient {found : ResolvedRecipient}
    (hleased : dir.leasedRecipient token = .ok (some found)) : dir.Leases token found.pubkey := by
  unfold leasedRecipient at hleased
  split at hleased
  · cases hleased
  · rename_i pubkey hpubkey
    split at hleased
    · cases hleased
    · cases hleased
    · rename_i identity hidentity
      split at hleased
      · cases hleased
      · rename_i session hsession
        cases hleased
        rw [pubkeyForHandle, Option.map_eq_some_iff] at hpubkey
        obtain ⟨lease, hlease, rfl⟩ := hpubkey
        exact ⟨⟨lease, Table.mem_of_find? hlease, Table.key_of_find? hlease,
          (pubkey_of_sessionIdentity hidentity).symm⟩, by rw [hsession]; rfl⟩

theorem leasedToSession_of_leases {pubkey : String} (hleases : dir.Leases token pubkey) :
    dir.LeasedToSession token := by
  obtain ⟨⟨lease, hlease, hhandle, rfl⟩, hsession⟩ := hleases
  refine ⟨lease.pubkey, ?_, hsession⟩
  rw [pubkeyForHandle, Table.find?_eq_some_iff.mpr ⟨hlease, hhandle⟩]
  rfl

/-- Leases are looked up by their handle, so their order does not matter. -/
theorem leasedRecipient_orderFree (dir : Directory) (token : String) :
    dir.OrderFree (fun current => current.leasedRecipient token) := by
  intro other hsame
  have hpubkey : other.pubkeyForHandle token = dir.pubkeyForHandle token := by
    rw [pubkeyForHandle, pubkeyForHandle, Table.find?_perm hsame.leases]
  have hsession : ∀ pubkey, other.store.getSession pubkey = dir.store.getSession pubkey := by
    intro pubkey
    rw [hsame.rest]
    rfl
  have hderived : ∀ pubkey, other.store.isDerivedSessionPubkey pubkey =
      dir.store.isDerivedSessionPubkey pubkey := by
    intro pubkey
    rw [hsame.rest]
    rfl
  have hheld : ∀ pubkey, other.store.handleForPubkey pubkey = none ↔
      dir.store.handleForPubkey pubkey = none := by
    intro pubkey
    simp [Store.handleForPubkey, Store.leaseForPubkey, hsame.leases.mem_iff]
  show other.leasedRecipient token = dir.leasedRecipient token
  unfold leasedRecipient
  rw [hpubkey]
  cases dir.pubkeyForHandle token with
  | none => rfl
  | some pubkey =>
      have hheld := hheld pubkey
      simp only [Store.sessionIdentity, hsession, hderived]
      cases dir.store.getSession pubkey with
      | none => rfl
      | some session =>
          by_cases hone : dir.store.isDerivedSessionPubkey pubkey = true
          · cases hleft : other.store.handleForPubkey pubkey with
            | none => simp [hone, hheld.mp hleft]
            | some handle =>
                cases hright : dir.store.handleForPubkey pubkey with
                | none =>
                    rw [hheld.mpr hright] at hleft
                    cases hleft
                | some held => simp [hone]
          · simp [hone]

/-! ## Handles of profiles -/

/-- The profile of a session that can be mentioned by the handle. -/
def AnswersMention (dir : Directory) (token : String) (row : ProfileRow) : Prop :=
  row.AnswersHandle (Rust.trim token) ∧ dir.HasStatus row.pubkey

instance (dir : Directory) (token : String) : DecidablePred (dir.AnswersMention token) :=
  fun _ => inferInstanceAs (Decidable (_ ∧ _))

theorem hasStatus_iff (hsame : dir.SameRows other) {pubkey : String} :
    other.HasStatus pubkey ↔ dir.HasStatus pubkey :=
  (Table.any_perm hsame.statuses).symm

theorem resolveProfileHandlePubkey_of_two
    (htwo : 2 ≤ dir.profiles.matching (ProfileRow.AnswersHandle (Rust.trim token))) :
    dir.resolveProfileHandlePubkey token = .error (.ambiguous (Rust.trim token)) := by
  rw [Table.matching] at htwo
  rw [resolveProfileHandlePubkey]
  cases hselect : dir.profiles.select (ProfileRow.AnswersHandle (Rust.trim token)) with
  | nil =>
      rw [hselect] at htwo
      simp at htwo
  | cons first rest =>
      cases rest with
      | nil =>
          rw [hselect] at htwo
          simp at htwo
      | cons second rest => rfl

/-- Without a second match the lookup finds the profile that can be mentioned. -/
theorem resolveProfileHandlePubkey_of_one
    (hone : dir.profiles.matching (ProfileRow.AnswersHandle (Rust.trim token)) ≤ 1) :
    dir.resolveProfileHandlePubkey token =
      .ok ((dir.profiles.first? (dir.AnswersMention token)).map ProfileRow.pubkey) := by
  have hmention : dir.profiles.select (dir.AnswersMention token) =
      (dir.profiles.select (ProfileRow.AnswersHandle (Rust.trim token))).filter
        (fun row => decide (dir.HasStatus row.pubkey)) := by
    rw [Table.select, Table.select, List.filter_filter]
    refine List.filter_congr ?_
    intro row _
    rw [← Bool.decide_and, decide_eq_decide]
    exact and_comm
  rw [Table.matching] at hone
  rw [resolveProfileHandlePubkey, Table.first?_eq_head?, hmention]
  cases hselect : dir.profiles.select (ProfileRow.AnswersHandle (Rust.trim token)) with
  | nil => rfl
  | cons row rest =>
      cases rest with
      | nil =>
          by_cases hstatus : dir.HasStatus row.pubkey
          · simp [hstatus]
          · simp [hstatus]
      | cons second rest =>
          rw [hselect] at hone
          simp only [List.length_cons] at hone
          omega

/-! ## Recipients -/

theorem orderFree_first? {p : Directory → ProfileRow → Prop}
    [∀ current, DecidablePred (p current)]
    (hp : ∀ other, dir.SameRows other → ∀ row, p other row ↔ p dir row)
    (hone : dir.profiles.matching (p dir) ≤ 1) :
    dir.OrderFree (fun current => current.profiles.first? (p current)) := by
  intro other hsame
  show other.profiles.first? (p other) = dir.profiles.first? (p dir)
  rw [Table.first?_perm hsame.profiles hone, Table.first?, Table.first?]
  congr 1
  funext row
  exact decide_eq_decide.mpr (hp other hsame row)

/-- A lookup that takes the first match is settled exactly if there are no two, whatever is
made of the match. -/
theorem settled_first?_iff (dir : Directory) {p : Directory → ProfileRow → Prop}
    [∀ current, DecidablePred (p current)]
    (hp : ∀ other, dir.SameRows other → ∀ row, p other row ↔ p dir row) {α : Type}
    (answer : Option ProfileRow → α) :
    (dir.OrderFree (fun current => answer (current.profiles.first? (p current))) ∧
      ∀ row, dir.profiles.first? (p dir) = some row → dir.profiles.Only (p dir) row.pubkey) ↔
      dir.profiles.matching (p dir) ≤ 1 := by
  rw [← Table.first?_only_iff]
  constructor
  · exact fun hsettled => hsettled.2
  · intro honly
    refine ⟨?_, honly⟩
    intro other hsame
    exact congrArg answer
      (orderFree_first? hp (Table.first?_only_iff.mp honly) other hsame)

theorem backendSettled_iff (dir : Directory) (label : String) :
    dir.BackendSettled label ↔ dir.profiles.matching (ProfileRow.AnswersBackend label) ≤ 1 := by
  rw [← settled_first?_iff dir (p := fun _ => ProfileRow.AnswersBackend label)
    (fun _ _ _ => Iff.rfl) (Option.map ProfileRow.pubkey)]
  refine and_congr_right fun _ => ?_
  simp [pubkeyForBackendLabel]

/-- How a token is resolved that is no leased handle and answers to one handle at most. -/
theorem resolveRecipient_token (parsePubkey : String → Option String)
    (myChannel localHost : String) (hparse : parseRef target = .token token)
    (hlease : ¬ dir.LeasedToSession token)
    (hone : dir.profiles.matching (ProfileRow.AnswersHandle (Rust.trim token)) ≤ 1) :
    dir.resolveRecipient parsePubkey myChannel localHost target =
      match dir.profiles.first? (dir.AnswersMention token) with
      | some row => .ok ⟨row.pubkey, myChannel⟩
      | none =>
          match dir.profiles.first? (ProfileRow.AnswersAgent token (Rust.trim localHost)) with
          | some row => .ok ⟨row.pubkey, myChannel⟩
          | none => .error (.unresolved target) := by
  simp only [resolveRecipient, hparse, leasedRecipient_eq_none_iff.mpr hlease,
    resolveProfileHandlePubkey_of_one hone, resolveAgentPubkey]
  cases dir.profiles.first? (dir.AnswersMention token) with
  | some row => rfl
  | none =>
      cases dir.profiles.first? (ProfileRow.AnswersAgent token (Rust.trim localHost)) with
      | some row | none => rfl

theorem leasedToSession_iff (hsame : dir.SameRows other) :
    other.LeasedToSession token ↔ dir.LeasedToSession token := by
  rw [← not_iff_not, ← leasedRecipient_eq_none_iff, ← leasedRecipient_eq_none_iff]
  exact Eq.congr_left (leasedRecipient_orderFree dir token other hsame)

/-- Where the profiles decide about a token, it is settled exactly if one of them answers at
most. -/
theorem tokenSettled_iff (hparse : parseRef target = .token token)
    (hlease : ¬ dir.LeasedToSession token)
    (hone : dir.profiles.matching (ProfileRow.AnswersHandle (Rust.trim token)) ≤ 1) :
    dir.RecipientSettled parsePubkey myChannel localHost target ↔
      dir.profiles.matching (dir.AnswersToken localHost token) ≤ 1 := by
  have hresolve := resolveRecipient_token parsePubkey myChannel localHost hparse hlease hone
  -- Without a lease the recipient is a row that is the only one to answer.
  have hrecipient : ∀ row ∈ dir.profiles.rows, dir.AnswersToken localHost token row →
      (dir.IsRecipient parsePubkey localHost target row.pubkey ↔
        dir.profiles.matching (dir.AnswersToken localHost token) ≤ 1) := by
    intro row hrow hanswers
    rw [← Table.only_iff_matching_le_one hrow hanswers]
    simp only [IsRecipient, hparse]
    exact or_iff_right (fun hleases => hlease (leasedToSession_of_leases hleases))
  have hmention : dir.profiles.matching (dir.AnswersMention token) ≤
      dir.profiles.matching (dir.AnswersToken localHost token) := by
    apply Table.matching_le_of_imp
    intro row hanswers
    exact Or.inl hanswers
  have hagent : dir.profiles.matching (ProfileRow.AnswersAgent token (Rust.trim localHost)) ≤
      dir.profiles.matching (dir.AnswersToken localHost token) := by
    apply Table.matching_le_of_imp
    intro row hanswers
    exact Or.inr hanswers
  constructor
  · rintro ⟨_, hattributed⟩
    cases hfirst : dir.profiles.first? (dir.AnswersMention token) with
    | some row =>
        obtain ⟨hrow, hanswers⟩ := Table.mem_of_first? hfirst
        have hok : dir.resolveRecipient parsePubkey myChannel localHost target =
            .ok ⟨row.pubkey, myChannel⟩ := by rw [hresolve, hfirst]
        have hnamed := hattributed ⟨row.pubkey, myChannel⟩ hok
        exact (hrecipient row hrow (Or.inl hanswers)).mp hnamed
    | none =>
        cases hsecond : dir.profiles.first?
            (ProfileRow.AnswersAgent token (Rust.trim localHost)) with
        | some row =>
            obtain ⟨hrow, hanswers⟩ := Table.mem_of_first? hsecond
            have hok : dir.resolveRecipient parsePubkey myChannel localHost target =
                .ok ⟨row.pubkey, myChannel⟩ := by rw [hresolve, hfirst, hsecond]
            have hnamed := hattributed ⟨row.pubkey, myChannel⟩ hok
            exact (hrecipient row hrow (Or.inr hanswers)).mp hnamed
        | none =>
            have hnone : ¬ dir.profiles.Any (dir.AnswersToken localHost token) := by
              rintro ⟨row, hrow, hanswers | hanswers⟩
              · exact Table.first?_eq_none_iff.mp hfirst ⟨row, hrow, hanswers⟩
              · exact Table.first?_eq_none_iff.mp hsecond ⟨row, hrow, hanswers⟩
            rw [Table.matching_eq_zero_iff.mpr hnone]
            exact Nat.zero_le 1
  · intro hsingle
    refine ⟨?_, ?_⟩
    -- A lookup that at most one row answers does not depend on the order of the rows.
    · intro other hsame
      have hleaseOther := mt (leasedToSession_iff hsame).mp hlease
      have honeOther : other.profiles.matching (ProfileRow.AnswersHandle (Rust.trim token)) ≤ 1 :=
        (Table.matching_perm hsame.profiles).symm.trans_le hone
      have hfirst : other.profiles.first? (other.AnswersMention token) =
          dir.profiles.first? (dir.AnswersMention token) :=
        orderFree_first? (p := fun current => current.AnswersMention token)
          (fun _ hsame _ => and_congr_right fun _ => hasStatus_iff hsame)
          (hmention.trans hsingle) other hsame
      have hsecond : other.profiles.first? (ProfileRow.AnswersAgent token (Rust.trim localHost)) =
          dir.profiles.first? (ProfileRow.AnswersAgent token (Rust.trim localHost)) :=
        orderFree_first? (p := fun _ => ProfileRow.AnswersAgent token (Rust.trim localHost))
          (fun _ _ _ => Iff.rfl) (hagent.trans hsingle) other hsame
      show other.resolveRecipient parsePubkey myChannel localHost target =
        dir.resolveRecipient parsePubkey myChannel localHost target
      have hother := resolveRecipient_token parsePubkey myChannel localHost hparse hleaseOther
        honeOther
      rw [hresolve, hother, hfirst, hsecond]
    · intro found hfound
      rw [hresolve] at hfound
      split at hfound
      · rename_i row hfirst
        obtain ⟨hrow, hanswers⟩ := Table.mem_of_first? hfirst
        cases hfound
        exact (hrecipient row hrow (Or.inl hanswers)).mpr hsingle
      · split at hfound
        · rename_i row hsecond
          obtain ⟨hrow, hanswers⟩ := Table.mem_of_first? hsecond
          cases hfound
          exact (hrecipient row hrow (Or.inr hanswers)).mpr hsingle
        · cases hfound

/-- A handle of a local session is settled, whatever peers advertise. -/
theorem settled_of_leased (hparse : parseRef target = .token token)
    (hlease : dir.LeasedToSession token) :
    dir.RecipientSettled parsePubkey myChannel localHost target := by
  have hsome : dir.leasedRecipient token ≠ .ok none :=
    fun hnone => leasedRecipient_eq_none_iff.mp hnone hlease
  refine ⟨?_, ?_⟩
  · intro other hsame
    have hsame := leasedRecipient_orderFree dir token other hsame
    simp only [resolveRecipient, hparse]
    rw [show other.leasedRecipient token = dir.leasedRecipient token from hsame]
    cases hleased : dir.leasedRecipient token with
    | error error => rfl
    | ok found =>
        cases found with
        | some recipient => rfl
        | none => exact absurd hleased hsome
  · intro found hfound
    simp only [resolveRecipient, hparse] at hfound
    simp only [IsRecipient, hparse]
    split at hfound
    · cases hfound
    · rename_i recipient hleased
      cases hfound
      exact Or.inl (leases_of_leasedRecipient hleased)
    · rename_i hnone
      exact absurd hnone hsome

/-- A handle that two profiles claim resolves to neither. -/
theorem settled_of_two (hparse : parseRef target = .token token)
    (hlease : ¬ dir.LeasedToSession token)
    (htwo : 2 ≤ dir.profiles.matching (ProfileRow.AnswersHandle (Rust.trim token))) :
    dir.RecipientSettled parsePubkey myChannel localHost target := by
  have hfails : ∀ current : Directory, ¬ current.LeasedToSession token →
      2 ≤ current.profiles.matching (ProfileRow.AnswersHandle (Rust.trim token)) →
      current.resolveRecipient parsePubkey myChannel localHost target =
        .error (.ambiguous (Rust.trim token)) := by
    intro current hnone hmany
    simp only [resolveRecipient, hparse, leasedRecipient_eq_none_iff.mpr hnone,
      resolveProfileHandlePubkey_of_two hmany]
  refine ⟨?_, ?_⟩
  · intro other hsame
    show other.resolveRecipient parsePubkey myChannel localHost target =
      dir.resolveRecipient parsePubkey myChannel localHost target
    rw [hfails dir hlease htwo, hfails other (mt (leasedToSession_iff hsame).mp hlease)
      (htwo.trans_eq (Table.matching_perm hsame.profiles))]
  · intro found hfound
    rw [hfails dir hlease htwo] at hfound
    cases hfound

theorem recipientSettled_iff (dir : Directory) (parsePubkey : String → Option String)
    (myChannel localHost target : String) :
    dir.RecipientSettled parsePubkey myChannel localHost target ↔
      dir.RecipientUnambiguous localHost target := by
  cases hparse : parseRef target with
  | agent slug host =>
      simp only [RecipientUnambiguous, hparse]
      rw [← settled_first?_iff dir (p := fun _ => ProfileRow.AnswersAgent slug host)
        (fun _ _ _ => Iff.rfl) (fun found => match found with
          | none => (Except.error (.noProfile slug host) : Except RecipientError ResolvedRecipient)
          | some row => .ok ⟨row.pubkey, myChannel⟩)]
      have hresolve : ∀ current : Directory,
          current.resolveRecipient parsePubkey myChannel localHost target =
            match current.profiles.first? (ProfileRow.AnswersAgent slug host) with
            | none => .error (.noProfile slug host)
            | some row => .ok ⟨row.pubkey, myChannel⟩ := by
        intro current
        simp only [resolveRecipient, hparse, resolveAgentPubkey]
        cases current.profiles.first? (ProfileRow.AnswersAgent slug host) with
        | none | some row => rfl
      simp only [RecipientSettled, hresolve, IsRecipient, hparse]
      refine and_congr_right fun _ => ?_
      cases dir.profiles.first? (ProfileRow.AnswersAgent slug host) with
      | none | some row => simp
  | pubkey raw =>
      simp only [RecipientUnambiguous, hparse, iff_true]
      refine ⟨?_, ?_⟩
      · intro other _
        simp only [resolveRecipient, hparse]
      · intro found hfound
        simp only [resolveRecipient, hparse, Except.ok.injEq] at hfound
        simp only [IsRecipient, hparse, ← hfound]
  | token token =>
      simp only [RecipientUnambiguous, hparse]
      by_cases hlease : dir.LeasedToSession token
      · exact iff_of_true (settled_of_leased hparse hlease) (Or.inl hlease)
      · by_cases hone : dir.profiles.matching (ProfileRow.AnswersHandle (Rust.trim token)) ≤ 1
        · have hnotTwo : ¬ 2 ≤ dir.profiles.matching
              (ProfileRow.AnswersHandle (Rust.trim token)) := by omega
          simp only [hlease, hnotTwo, false_or]
          exact tokenSettled_iff hparse hlease hone
        · have htwo : 2 ≤ dir.profiles.matching
              (ProfileRow.AnswersHandle (Rust.trim token)) := by omega
          exact iff_of_true (settled_of_two hparse hlease htwo) (Or.inr (Or.inl htwo))

/-- References to recipients and backend labels are settled exactly if no lookup that takes
its first match has two. -/
theorem references_settled_iff (dir : Directory) (parsePubkey : String → Option String)
    (myChannel localHost target label : String) :
    (dir.RecipientSettled parsePubkey myChannel localHost target ∧ dir.BackendSettled label) ↔
      (dir.RecipientUnambiguous localHost target ∧
        dir.profiles.matching (ProfileRow.AnswersBackend label) ≤ 1) :=
  and_congr (recipientSettled_iff dir parsePubkey myChannel localHost target)
    (backendSettled_iff dir label)

/-- A backend as its kind:0 event is materialized. -/
def backendProfile (pubkey host : String) (updatedAt : Nat) : ProfileRow where
  pubkey := pubkey
  name := host
  slug := host
  agentSlug := ""
  host := host
  isBackend := true
  updatedAt := updatedAt

def emptyDirectory : Directory where
  store := .empty
  profiles := Table.empty
  statuses := Table.empty

/-- The profile of a forged backend that was seen before the real one takes its label. -/
theorem forged_backend_label :
    ¬ ∀ (dir : Directory) (parsePubkey : String → Option String)
      (myChannel localHost target label : String),
      dir.RecipientSettled parsePubkey myChannel localHost target ∧ dir.BackendSettled label := by
  intro hall
  let dir := (emptyDirectory.upsertProfileSnapshot
    (backendProfile "forged" "tower" 1)).upsertProfileSnapshot (backendProfile "tower-key" "tower" 2)
  have hsettled := (hall dir (fun _ => none) "room" "laptop" "tower" "tower").2
  exact absurd ((backendSettled_iff dir "tower").mp hsettled) (by decide)

/-! ## Grants -/

end Directory

end Mosaico
