import Mosaico.Fabric.Wire
import Mosaico.Identity.Recipients
import Mosaico.View.Xml

/-!
# The renderer of the fabric document

The rows of a fabric view and the serializer that writes them.  Every function takes the document
so far and returns it with its node appended.  The channels of a workspace are trees; the
indentation grows with the depth.
-/

namespace Mosaico.View

/-! ## Rows -/

structure SelfRow where
  name : String
  host : String
  headless : Bool
  title : String
  hint : String

structure AgentRow where
  reference : String
  about : String

structure HostRow where
  name : String
  agents : List AgentRow

inductive MemberKind where
  | agent
  | human
  deriving DecidableEq, Repr

structure MemberRow where
  kind : MemberKind
  name : String
  state : SessionState
  status : String
  since : String

structure NativeFailureRow where
  outcome : String
  message : String
  since : String

structure PresenceRow where
  name : String
  state : SessionState
  status : String
  since : String
  nativeFailure : Option NativeFailureRow

structure MessageRow where
  id : String
  sender : String
  recipients : List String
  age : String
  body : String
  mention : Bool
  truncated : Bool

structure ChannelBlock where
  name : String
  id : String
  about : String
  memberCount : Option Nat
  lastActive : Option String
  members : List MemberRow
  presence : List PresenceRow
  children : List ChannelBlock
  messages : List MessageRow
  omitted : Nat

def ChannelBlock.isCompact (channel : ChannelBlock) : Bool :=
  channel.members.isEmpty && channel.presence.isEmpty && channel.children.isEmpty &&
    channel.messages.isEmpty && channel.omitted == 0

structure WorkspaceView where
  name : String
  about : String
  hosts : List String
  root : Option ChannelBlock
  channels : List ChannelBlock

structure ImportantRow where
  channelRef : String
  messageId : String

structure ReactionRow where
  reactors : List String
  emoji : String
  targetSnippet : String
  age : String

structure WarningRow where
  text : String

inductive NoticeRow where
  | noNewActivity (workspace : String)

structure FabricView where
  selfRow : Option SelfRow
  hosts : Option (List HostRow)
  workspaces : Option (List WorkspaceView)
  important : List ImportantRow
  reactions : List ReactionRow
  reactionsOmitted : Nat
  warnings : List WarningRow
  notices : List NoticeRow

/-! ## Pieces of text -/

def shortId (id : String) : String :=
  String.ofList (id.toList.take 6)

/-- `" ".repeat`. -/
def spaces (width : Nat) : String :=
  String.ofList (List.replicate width ' ')

def agentHint : String :=
  "Attachments: add `--attach label=/path/to/file` and reference `[label]` in the message."

/-! ## The serializer -/

def renderSelf (out : String) : Option SelfRow → String
  | none => out
  | some row =>
      let name := attr (trimStartMatches '@' row.name)
      let host := attr row.host
      let headless := if row.headless then "on" else "off"
      let out := out ++ "\n  <self name=\"@" ++ name ++ "\" host=\"" ++ host ++ "\" headless=\"" ++
        headless ++ "\""
      let out := if row.title = "" then out else out ++ " title=\"" ++ attr row.title ++ "\""
      let out := out ++ " />"
      if row.hint = "" then out else out ++ "\n  <notice>" ++ text row.hint ++ "</notice>"

def renderAgent (out : String) (agent : AgentRow) : String :=
  let out := out ++ "\n        <agent ref=\"" ++ attr agent.reference ++ "\""
  let out := if agent.about = "" then out else out ++ " about=\"" ++ attr agent.about ++ "\""
  out ++ " />"

def renderHost (out : String) (host : HostRow) : String :=
  let out := out ++ "\n    <host name=\"" ++ attr host.name ++ "\">"
  let out := out ++ "\n      <agents>"
  let out := host.agents.foldl renderAgent out
  out ++ "\n      </agents>\n    </host>"

def renderHosts (out : String) : Option (List HostRow) → String
  | none => out
  | some hosts =>
      let out := out ++ "\n  <hosts>"
      let out := hosts.foldl renderHost out
      out ++ "\n  </hosts>"

def renderMember (childPad : String) (out : String) (member : MemberRow) : String :=
  let tag := match member.kind with
    | .agent => "agent"
    | .human => "human"
  let name := attr (trimStartMatches '@' member.name)
  let state := member.state.asStr
  let out := out ++ "\n" ++ childPad ++ "<" ++ tag ++ " name=\"@" ++ name ++ "\" state=\"" ++
    state ++ "\""
  let out := if member.status = "" then out else out ++ " status=\"" ++ attr member.status ++ "\""
  out ++ " since=\"" ++ attr member.since ++ "\" />"

def renderMembers (out : String) (members : List MemberRow) (indent : Nat) : String :=
  if members.isEmpty then out
  else
    let pad := spaces indent
    let childPad := spaces (indent + 2)
    let out := out ++ "\n" ++ pad ++ "<members>"
    let out := members.foldl (renderMember childPad) out
    out ++ "\n" ++ pad ++ "</members>"

def renderPresenceRow (childPad : String) (out : String) (status : PresenceRow) : String :=
  let name := attr (trimStartMatches '@' status.name)
  let out :=
    if status.status = "" then out
    else out ++ "\n" ++ childPad ++ "<status name=\"@" ++ name ++ "\" state=\"" ++
      status.state.asStr ++ "\" text=\"" ++ attr status.status ++ "\" since=\"" ++
      attr status.since ++ "\" />"
  match status.nativeFailure with
  | none => out
  | some failure =>
      out ++ "\n" ++ childPad ++ "<native-outcome name=\"@" ++ name ++ "\" outcome=\"" ++
        attr failure.outcome ++ "\" text=\"" ++ attr failure.message ++ "\" since=\"" ++
        attr failure.since ++ "\" />"

def renderPresence (out : String) (presence : List PresenceRow) (indent : Nat) : String :=
  if presence.isEmpty then out
  else
    let pad := spaces indent
    let childPad := spaces (indent + 2)
    let out := out ++ "\n" ++ pad ++ "<recent-presence>"
    let out := presence.foldl (renderPresenceRow childPad) out
    out ++ "\n" ++ pad ++ "</recent-presence>"

def renderMentionMessage (out : String) (message : MessageRow) (pad : String) : String :=
  let short := shortId message.id
  let sender := attr message.sender
  let id := attr short
  let body := text message.body
  let out := out ++ "\n" ++ pad ++ "<message from=\"@" ++ sender ++ "\" id=\"" ++ id ++ "\">" ++
    body ++ "</message>"
  let out := out ++ "\n" ++ pad ++ "Reply via: `mosaico channel reply " ++ text short ++
    " --message \"hello world\"`"
  let out := out ++ "\n" ++ pad ++ agentHint
  out ++ "\n" ++ pad ++ "Ack-only? `mosaico channel react " ++ text short ++
    " 👍` — never interrupts. Reply only with substantive content; " ++
    "never send a bare \"ok\"/\"noted\"."

def renderMessage (childPad detailPad : String) (out : String) (message : MessageRow) : String :=
  if message.mention then renderMentionMessage out message childPad
  else
    let short := shortId message.id
    let sender := attr message.sender
    let id := attr short
    let out := out ++ "\n" ++ childPad ++ "<message from=\"@" ++ sender ++ "\" id=\"" ++ id ++ "\""
    let out :=
      if message.recipients.isEmpty then out
      else
        let recipients := " ".intercalate (message.recipients.map fun recipient => "@" ++ recipient)
        out ++ " for=\"" ++ attr recipients ++ "\""
    let out := out ++ " age=\"" ++ attr message.age ++ "\">"
    let out := out ++ text message.body
    let out :=
      if message.truncated then
        out ++ "\n" ++ detailPad ++ "[message truncated; run `mosaico channel read --id " ++
          text short ++ "`]"
      else out
    out ++ "</message>"

def renderMessages (out : String) (channel : ChannelBlock) (indent : Nat) : String :=
  if channel.messages.isEmpty && channel.omitted == 0 then out
  else
    let pad := spaces indent
    let childPad := spaces (indent + 2)
    let detailPad := spaces (indent + 4)
    let out := out ++ "\n" ++ pad ++ "<chatter>"
    let out :=
      if channel.omitted > 0 then
        out ++ "\n" ++ childPad ++ "<omitted count=\"" ++ channel.omitted.repr ++
          "\" window=\"last 4h\" />"
      else out
    let out := channel.messages.foldl (renderMessage childPad detailPad) out
    out ++ "\n" ++ pad ++ "</chatter>"

mutual

def renderChannel (out : String) : ChannelBlock → Nat → String
  | channel@⟨_, _, _, _, _, _, _, children, _, _⟩, indent =>
      let pad := spaces indent
      let name := attr channel.name
      let id := attr channel.id
      let out := out ++ "\n" ++ pad ++ "<channel name=\"" ++ name ++ "\" id=\"" ++ id ++ "\""
      let out :=
        if channel.about = "" then out else out ++ " about=\"" ++ attr channel.about ++ "\""
      let out := match channel.memberCount with
        | none => out
        | some count => out ++ " members=\"" ++ count.repr ++ "\""
      let out := match channel.lastActive with
        | none => out
        | some lastActive => out ++ " last-active=\"" ++ attr lastActive ++ "\""
      if channel.isCompact then out ++ " />"
      else
        let out := out ++ ">"
        let out := renderMembers out channel.members (indent + 2)
        let out := renderPresence out channel.presence (indent + 2)
        let out := renderMessages out channel (indent + 2)
        let out := renderChildren out children (indent + 2)
        out ++ "\n" ++ pad ++ "</channel>"

/-- The loop over the channels that stand directly below one node. -/
def renderChildren (out : String) : List ChannelBlock → Nat → String
  | [], _ => out
  | channel :: rest, indent => renderChildren (renderChannel out channel indent) rest indent

end

def renderWorkspace (out : String) (workspace : WorkspaceView) : String :=
  let out := out ++ "\n    <workspace name=\"" ++ attr workspace.name ++ "\""
  let out :=
    if workspace.about = "" then out else out ++ " about=\"" ++ attr workspace.about ++ "\""
  let out := out ++ " hosts=\"" ++ attr (",".intercalate workspace.hosts) ++ "\">"
  let out := match workspace.root with
    | none => out
    | some root => renderChannel out root 6
  let out := renderChildren out workspace.channels 6
  out ++ "\n    </workspace>"

def renderWorkspaces (out : String) : Option (List WorkspaceView) → String
  | none => out
  | some workspaces =>
      let out := out ++ "\n  <workspaces>"
      let out := workspaces.foldl renderWorkspace out
      out ++ "\n  </workspaces>"

def renderImportantRow (out : String) (row : ImportantRow) : String :=
  let channel := attr row.channelRef
  let messageId := attr (shortId row.messageId)
  out ++ "\n    <mention channel=\"" ++ channel ++ "\" message_id=\"" ++ messageId ++ "\" />"

def renderImportant (out : String) (rows : List ImportantRow) : String :=
  if rows.isEmpty then out
  else
    let out := out ++ "\n  <important>"
    let out := rows.foldl renderImportantRow out
    out ++ "\n  </important>"

def renderReaction (out : String) (row : ReactionRow) : String :=
  let reactors := " ".intercalate (row.reactors.map fun reactor => "@" ++ text reactor)
  out ++ "\n    " ++ reactors ++ " " ++ text row.emoji ++ " on your message \"" ++
    text row.targetSnippet ++ "\" (" ++ text row.age ++ ")"

def renderReactions (out : String) (rows : List ReactionRow) (omitted : Nat) : String :=
  if rows.isEmpty && omitted == 0 then out
  else
    let out := out ++ "\n  <reactions>"
    let out := rows.foldl renderReaction out
    let out :=
      if omitted > 0 then out ++ "\n    <omitted count=\"" ++ omitted.repr ++ "\" />" else out
    out ++ "\n  </reactions>"

def renderWarning (out : String) (row : WarningRow) : String :=
  out ++ "\n    <warning>" ++ text row.text ++ "</warning>"

def renderWarnings (out : String) (rows : List WarningRow) : String :=
  if rows.isEmpty then out
  else
    let out := out ++ "\n  <warnings>"
    let out := rows.foldl renderWarning out
    out ++ "\n  </warnings>"

def renderNotice (out : String) : NoticeRow → String
  | .noNewActivity workspace =>
      out ++ "\n  <no-new-activity workspace=\"" ++ attr workspace ++ "\">" ++
        "\n    Nothing new since your last check. The fabric surfaces only what " ++
        "changed — your channels, members, and messages are unchanged, not gone." ++
        "\n  </no-new-activity>"

def renderNotices (out : String) (rows : List NoticeRow) : String :=
  rows.foldl renderNotice out

def renderView (view : FabricView) : String :=
  let out := "<mosaico>"
  let out := renderSelf out view.selfRow
  let out := renderHosts out view.hosts
  let out := renderWorkspaces out view.workspaces
  let out := renderImportant out view.important
  let out := renderReactions out view.reactions view.reactionsOmitted
  let out := renderWarnings out view.warnings
  let out := renderNotices out view.notices
  out ++ "\n</mosaico>"

end Mosaico.View
