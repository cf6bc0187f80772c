import Mosaico.Relational.Matches
import Mosaico.Identity.Selection
import Mosaico.Fabric.Relay
import Mosaico.Rust.Text

/-!
# References to recipients

A mention names its recipient by a handle, an agent label or a pubkey, and an invitation
names its backend by a label.  Handles of this machine are leased; everything else is looked
up in the profiles that peers advertise.  The lookup of a remote handle refuses two matches.
The lookups of an agent label and of a backend label take the first match of a query without
an order, so they depend on the order of the rows as soon as two profiles match.
-/

namespace Mosaico

open Relational

/-! ## Rows -/

/-- A row of `relay_profiles`: what a pubkey advertises about itself.  The agents and
workspaces of a backend are left out. -/
structure ProfileRow where
  pubkey : String
  name : String
  slug : String
  agentSlug : String
  host : String
  isBackend : Bool
  updatedAt : Nat
  deriving DecidableEq, Repr

/-- The tables that references are looked up in. -/
structure Directory where
  store : Store
  profiles : Table ProfileRow.pubkey
  statuses : Table Status.key

/-! ## References -/

/-- `str::trim_start_matches`. -/
def trimStartMatches (c : Char) (text : String) : String :=
  String.ofList (text.toList.dropWhile (· = c))

/-- `str::rsplit_once`. -/
def rsplitAt (sep : Char) (text : String) : Option (String × String) :=
  let reversed := text.toList.reverse
  match reversed.dropWhile (· ≠ sep) with
  | [] => none
  | _ :: front => some (String.ofList front.reverse,
      String.ofList (reversed.takeWhile (· ≠ sep)).reverse)

def agentLabel (slug host : String) : String :=
  let host := Rust.trim host
  if host = "" then slug else slug ++ "@" ++ host

inductive Ref where
  | agent (slug host : String)
  | pubkey (raw : String)
  | token (token : String)
  deriving DecidableEq, Repr

def isHexDigit (c : Char) : Bool :=
  c.isDigit || ('a' ≤ c && c ≤ 'f') || ('A' ≤ c && c ≤ 'F')

def isPubkey (text : String) : Bool :=
  (text.toList.length == 64 && text.toList.all isHexDigit) || text.startsWith "npub1"

@[irreducible]
def parseRef (token : String) : Ref :=
  let text := Rust.trim token
  let bare := if isPubkey text then .pubkey text else .token text
  match rsplitAt '@' text with
  | some (slug, host) =>
      let slug := Rust.trim slug
      let host := Rust.trim host
      if slug ≠ "" ∧ host ≠ "" then .agent slug host else bare
  | none => bare

/-! ## Lookups -/

inductive RecipientError where
  | noProfile (slug host : String)
  | identity (error : IdentityError)
  | missingSession
  | ambiguous (handle : String)
  | unresolved (target : String)
  deriving DecidableEq, Repr

/-- The text of an error.  `debug` is Rust's `{:?}` rendering of a string. -/
def RecipientError.text (debug : String → String) : RecipientError → String
  | .noProfile slug host =>
      "can't resolve " ++ slug ++ "@" ++ host ++ " (no profile seen yet — try `mosaico my session`)"
  | .identity error => error.text debug
  | .missingSession => "handle points to a missing session"
  | .ambiguous handle => "remote handle " ++ debug handle ++ " is ambiguous"
  | .unresolved target =>
      "can't resolve recipient " ++ debug target ++ " (try `mosaico my session`)"

/-- The profile of an agent without a session of its own, under the label. -/
def ProfileRow.AnswersAgent (slug host : String) (row : ProfileRow) : Prop :=
  row.isBackend = false ∧ row.agentSlug = "" ∧
    (row.slug = slug ∨ row.name = agentLabel slug host) ∧ row.host = host

instance (slug host : String) : DecidablePred (ProfileRow.AnswersAgent slug host) := fun _ =>
  inferInstanceAs (Decidable (_ ∧ _))

/-- The profile of a session under the handle. -/
def ProfileRow.AnswersHandle (handle : String) (row : ProfileRow) : Prop :=
  row.isBackend = false ∧ row.agentSlug ≠ "" ∧ (row.name = handle ∨ row.slug = handle)

instance (handle : String) : DecidablePred (ProfileRow.AnswersHandle handle) := fun _ =>
  inferInstanceAs (Decidable (_ ∧ _))

/-- The profile of a backend with the label. -/
def ProfileRow.AnswersBackend (label : String) (row : ProfileRow) : Prop :=
  row.isBackend = true ∧ row.host = label

instance (label : String) : DecidablePred (ProfileRow.AnswersBackend label) := fun _ =>
  inferInstanceAs (Decidable (_ ∧ _))

namespace Directory

/-- Materialize a profile.  Older ones of the pubkey are ignored. -/
def upsertProfileSnapshot (dir : Directory) (row : ProfileRow) : Directory :=
  { dir with
    profiles := dir.profiles.upsert row
      (fun old => if old.updatedAt ≤ row.updatedAt then { row with pubkey := old.pubkey } else old)
      (by intro old; split <;> rfl) }

def pubkeyForHandle (dir : Directory) (handle : String) : Option String :=
  (dir.store.handleLeases.find? (trimStartMatches '@' (Rust.trim handle))).map HandleLease.pubkey

def resolveAgentPubkey (dir : Directory) (slug host : String) : Option String :=
  (dir.profiles.first? (ProfileRow.AnswersAgent slug host)).map ProfileRow.pubkey

/-- The pubkey has been seen with a status, current or expired. -/
def HasStatus (dir : Directory) (pubkey : String) : Prop :=
  dir.statuses.Any (fun status => status.pubkey = pubkey)

instance (dir : Directory) (pubkey : String) : Decidable (dir.HasStatus pubkey) :=
  inferInstanceAs (Decidable (dir.statuses.Any _))

def resolveProfileHandlePubkey (dir : Directory) (handle : String) :
    Except RecipientError (Option String) :=
  let handle := Rust.trim handle
  match (dir.profiles.select (ProfileRow.AnswersHandle handle)).map ProfileRow.pubkey with
  | [] => .ok none
  | [pubkey] => .ok (if dir.HasStatus pubkey then some pubkey else none)
  | _ => .error (.ambiguous handle)

def pubkeyForBackendLabel (dir : Directory) (label : String) : Option String :=
  (dir.profiles.first? (ProfileRow.AnswersBackend label)).map ProfileRow.pubkey

/-! ## Recipients -/

structure ResolvedRecipient where
  pubkey : String
  channel : String
  deriving DecidableEq, Repr

/-- The session that holds the handle, if there is one. -/
def leasedRecipient (dir : Directory) (token : String) :
    Except RecipientError (Option ResolvedRecipient) :=
  match dir.pubkeyForHandle token with
  | none => .ok none
  | some pubkey =>
      match dir.store.sessionIdentity pubkey with
      | .error error => .error (.identity error)
      | .ok none => .ok none
      | .ok (some identity) =>
          match dir.store.getSession identity.pubkey with
          | none => .error .missingSession
          | some session => .ok (some ⟨identity.pubkey, session.channelH⟩)

/-- Resolve a mention.  `parsePubkey` is the parser of keys, which yields the hex form. -/
def resolveRecipient (dir : Directory) (parsePubkey : String → Option String)
    (myChannel localHost target : String) : Except RecipientError ResolvedRecipient :=
  match parseRef target with
  | .agent slug host =>
      match dir.resolveAgentPubkey slug host with
      | none => .error (.noProfile slug host)
      | some pubkey => .ok ⟨pubkey, myChannel⟩
  | .pubkey raw => .ok ⟨(parsePubkey raw).getD raw, myChannel⟩
  | .token token =>
      match dir.leasedRecipient token with
      | .error error => .error error
      | .ok (some recipient) => .ok recipient
      | .ok none =>
          match dir.resolveProfileHandlePubkey token with
          | .error error => .error error
          | .ok (some pubkey) => .ok ⟨pubkey, myChannel⟩
          | .ok none =>
              match dir.resolveAgentPubkey token (Rust.trim localHost) with
              | some pubkey => .ok ⟨pubkey, myChannel⟩
              | none => .error (.unresolved target)

end Directory

end Mosaico
