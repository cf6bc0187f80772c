import Mosaico.Relational.Pages
import Mosaico.Fabric.Intake

/-!
# Reading the messages of channels

The queries of the channel read model, and which rows are backend traffic.

A `since` above the range of an SQLite integer is refused by the statement and read as no
rows.  No stored message is newer than such a time, so the queries below do not tell the
two apart.
-/

namespace Mosaico

open Relational

/-- Bound on the rows that one query of a read returns. -/
def channelReadCap : Nat := 10000

/-- The place of a message in the log: its time, then its id. -/
def Message.position (row : Message) : Nat ×ₗ String :=
  toLex (row.createdAt, row.messageId)

namespace Intake

/-! ## Queries -/

/-- The messages of a channel after `since`. -/
def channelLog (intake : Intake) (channelH : String) (since : Nat) : List Message :=
  intake.messages.select (fun row => row.channelH = channelH ∧ since < row.createdAt)

def chatMessagesForChannel (intake : Intake) (channelH : String) (since limit : Nat) :
    List Message :=
  (ascending Message.position (intake.channelLog channelH since)).take limit

/-- The messages of a channel after a place in its log. -/
def channelLogAfter (intake : Intake) (channelH : String) (afterCreatedAt : Nat)
    (afterId : String) : List Message :=
  intake.messages.select (fun row => row.channelH = channelH ∧
    (afterCreatedAt < row.createdAt ∨
      (row.createdAt = afterCreatedAt ∧ afterId < row.messageId)))

def chatMessagesForChannelAfter (intake : Intake) (channelH : String) (afterCreatedAt : Nat)
    (afterId : String) (limit : Nat) : List Message :=
  (ascending Message.position (intake.channelLogAfter channelH afterCreatedAt afterId)).take limit

def recentChatMessages (intake : Intake) (since limit : Nat) : List Message :=
  (descending Message.position
    (intake.messages.select (fun row => since ≤ row.createdAt))).take limit

def recipientsFor (intake : Intake) (messageId : String) : List MessageRecipient :=
  ascending MessageRecipient.recipientPubkey
    (intake.messageRecipients.select (fun row => row.messageId = messageId))

/-- Backend traffic: written by a backend or addressed to one. -/
def isBackendRow (intake : Intake) (backendPubkey : String) (row : Message) : Bool :=
  intake.db.isBackendPubkey backendPubkey row.authorPubkey ||
    (intake.recipientsFor row.messageId).any (fun recipient =>
      intake.db.isBackendPubkey backendPubkey recipient.recipientPubkey)

end Intake

theorem Message.position_lt_iff {left right : Message} :
    left.position < right.position ↔ left.createdAt < right.createdAt ∨
      (left.createdAt = right.createdAt ∧ left.messageId < right.messageId) := by
  simp [position, Prod.Lex.toLex_lt_toLex]

theorem mem_channelLog {intake : Intake} {channelH : String} {since : Nat} {row : Message} :
    row ∈ intake.channelLog channelH since ↔
      row ∈ intake.messages.rows ∧ row.channelH = channelH ∧ since < row.createdAt :=
  Table.mem_select

/-- Messages differ in their ids, and so in their places. -/
theorem nodup_positions {intake : Intake} {rows : List Message}
    (hrows : rows.Sublist intake.messages.rows) : (rows.map Message.position).Nodup := by
  have hids : (rows.map Message.messageId).Nodup :=
    (hrows.map Message.messageId).nodup intake.messages.keysNodup
  have hsplit : rows.map Message.messageId =
      (rows.map Message.position).map (fun place => (ofLex place).2) := by
    rw [List.map_map]
    rfl
  rw [hsplit] at hids
  exact hids.of_map _

/-! ## Scopes -/

/-- The channels that a read covers, each of them once. -/
structure ReadScopes where
  scopes : List String
  nodup : scopes.Nodup

instance : Membership String ReadScopes := ⟨fun read channelH => channelH ∈ read.scopes⟩

instance (channelH : String) (read : ReadScopes) : Decidable (channelH ∈ read) :=
  inferInstanceAs (Decidable (channelH ∈ read.scopes))

def ReadScopes.one (channelH : String) : ReadScopes where
  scopes := [channelH]
  nodup := List.nodup_singleton channelH

end Mosaico
