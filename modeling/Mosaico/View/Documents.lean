import Mosaico.View.Render

/-!
# The fabric document as literals and fields

Every function of the renderer appends the pieces listed here.
-/

namespace Mosaico.View

open Markup
open Markup.Piece (literal padding number)

/-! ## Fields -/

/-- What a field shows: a text itself, a handle without the at signs before it, the first six
characters of an id, host names with commas between them, or recipients, each with an at sign. -/
inductive Shown where
  | whole (value : String)
  | handle (name : String)
  | shortId (id : String)
  | joined (hosts : List String)
  | addressed (recipients : List String)
  deriving DecidableEq, Repr

def Shown.display : Shown → String
  | .whole value => value
  | .handle name => trimStartMatches '@' name
  | .shortId id => View.shortId id
  | .joined hosts => ",".intercalate hosts
  | .addressed recipients => " ".intercalate (recipients.map fun recipient => "@" ++ recipient)

abbrev Pieces := List (Piece Shown)

/-- The document of the pieces. -/
abbrev write (pieces : Pieces) : String :=
  render xml Shown.display pieces

/-! ## The pieces of each node -/

/-- An attribute that is left out when its value is empty.  `opening` is the name and what stands
around it. -/
def optional (opening value : String) : Pieces :=
  if value = "" then [] else [literal opening, .attr (.whole value), literal "\""]

def selfPieces : Option SelfRow → Pieces
  | none => []
  | some row =>
      [literal "\n  <self name=\"@", .attr (.handle row.name), literal "\" host=\"",
        .attr (.whole row.host), literal "\" headless=\"",
        literal (if row.headless then "on" else "off"), literal "\""] ++
      optional " title=\"" row.title ++ [literal " />"] ++
      if row.hint = "" then []
      else [literal "\n  <notice>", .text (.whole row.hint), literal "</notice>"]

def agentPieces (agent : AgentRow) : Pieces :=
  [literal "\n        <agent ref=\"", .attr (.whole agent.reference), literal "\""] ++
    optional " about=\"" agent.about ++ [literal " />"]

def hostPieces (host : HostRow) : Pieces :=
  [literal "\n    <host name=\"", .attr (.whole host.name), literal "\">",
    literal "\n      <agents>"] ++
  host.agents.flatMap agentPieces ++ [literal "\n      </agents>\n    </host>"]

def hostsPieces : Option (List HostRow) → Pieces
  | none => []
  | some hosts =>
      [literal "\n  <hosts>"] ++ hosts.flatMap hostPieces ++ [literal "\n  </hosts>"]

def memberPieces (width : Nat) (member : MemberRow) : Pieces :=
  [literal "\n", padding width, literal "<",
    literal (match member.kind with
      | .agent => "agent"
      | .human => "human"),
    literal " name=\"@", .attr (.handle member.name), literal "\" state=\"",
    literal member.state.asStr, literal "\""] ++
  optional " status=\"" member.status ++
  [literal " since=\"", .attr (.whole member.since), literal "\" />"]

def membersPieces (members : List MemberRow) (indent : Nat) : Pieces :=
  if members.isEmpty then []
  else
    [literal "\n", padding indent, literal "<members>"] ++
    members.flatMap (memberPieces (indent + 2)) ++
    [literal "\n", padding indent, literal "</members>"]

def statusPieces (width : Nat) (status : PresenceRow) : Pieces :=
  if status.status = "" then []
  else
    [literal "\n", padding width, literal "<status name=\"@", .attr (.handle status.name),
      literal "\" state=\"", literal status.state.asStr, literal "\" text=\"",
      .attr (.whole status.status), literal "\" since=\"", .attr (.whole status.since),
      literal "\" />"]

def failurePieces (width : Nat) (name : String) : Option NativeFailureRow → Pieces
  | none => []
  | some failure =>
      [literal "\n", padding width, literal "<native-outcome name=\"@", .attr (.handle name),
        literal "\" outcome=\"", .attr (.whole failure.outcome), literal "\" text=\"",
        .attr (.whole failure.message), literal "\" since=\"", .attr (.whole failure.since),
        literal "\" />"]

def presenceRowPieces (width : Nat) (status : PresenceRow) : Pieces :=
  statusPieces width status ++ failurePieces width status.name status.nativeFailure

def presencePieces (presence : List PresenceRow) (indent : Nat) : Pieces :=
  if presence.isEmpty then []
  else
    [literal "\n", padding indent, literal "<recent-presence>"] ++
    presence.flatMap (presenceRowPieces (indent + 2)) ++
    [literal "\n", padding indent, literal "</recent-presence>"]

/-- The lines below a mention: how to reply and how to react. -/
def replyPieces (width : Nat) (message : MessageRow) : Pieces :=
  [literal "\n", padding width, literal "Reply via: `mosaico channel reply ",
    .text (.shortId message.id), literal " --message \"hello world\"`",
    literal "\n", padding width, literal agentHint,
    literal "\n", padding width, literal "Ack-only? `mosaico channel react ",
    .text (.shortId message.id),
    literal " 👍` — never interrupts. Reply only with substantive content; ",
    literal "never send a bare \"ok\"/\"noted\"."]

def mentionPieces (width : Nat) (message : MessageRow) : Pieces :=
  [literal "\n", padding width, literal "<message from=\"@", .attr (.whole message.sender),
    literal "\" id=\"", .attr (.shortId message.id), literal "\">",
    .text (.whole message.body), literal "</message>"] ++
  replyPieces width message

def recipientsPieces (recipients : List String) : Pieces :=
  if recipients.isEmpty then []
  else [literal " for=\"", .attr (.addressed recipients), literal "\""]

def truncatedPieces (width : Nat) (message : MessageRow) : Pieces :=
  if message.truncated then
    [literal "\n", padding width, literal "[message truncated; run `mosaico channel read --id ",
      .text (.shortId message.id), literal "`]"]
  else []

def messagePieces (childWidth detailWidth : Nat) (message : MessageRow) : Pieces :=
  if message.mention then mentionPieces childWidth message
  else
    [literal "\n", padding childWidth, literal "<message from=\"@",
      .attr (.whole message.sender), literal "\" id=\"", .attr (.shortId message.id),
      literal "\""] ++
    recipientsPieces message.recipients ++
    [literal " age=\"", .attr (.whole message.age), literal "\">",
      .text (.whole message.body)] ++
    truncatedPieces detailWidth message ++ [literal "</message>"]

def omittedPieces (width omitted : Nat) : Pieces :=
  if omitted > 0 then
    [literal "\n", padding width, literal "<omitted count=\"", number omitted,
      literal "\" window=\"last 4h\" />"]
  else []

def messagesPieces (channel : ChannelBlock) (indent : Nat) : Pieces :=
  if channel.messages.isEmpty && channel.omitted == 0 then []
  else
    [literal "\n", padding indent, literal "<chatter>"] ++
    omittedPieces (indent + 2) channel.omitted ++
    channel.messages.flatMap (messagePieces (indent + 2) (indent + 4)) ++
    [literal "\n", padding indent, literal "</chatter>"]

def memberCountPieces : Option Nat → Pieces
  | none => []
  | some count => [literal " members=\"", number count, literal "\""]

def lastActivePieces : Option String → Pieces
  | none => []
  | some lastActive => [literal " last-active=\"", .attr (.whole lastActive), literal "\""]

/-- The tag of a channel but for its end. -/
def channelTagPieces (channel : ChannelBlock) (indent : Nat) : Pieces :=
  [literal "\n", padding indent, literal "<channel name=\"", .attr (.whole channel.name),
    literal "\" id=\"", .attr (.whole channel.id), literal "\""] ++
  optional " about=\"" channel.about ++ memberCountPieces channel.memberCount ++
  lastActivePieces channel.lastActive

mutual

def channelPieces : ChannelBlock → Nat → Pieces
  | channel@⟨_, _, _, _, _, _, _, children, _, _⟩, indent =>
      channelTagPieces channel indent ++
      if channel.isCompact then [literal " />"]
      else
        [literal ">"] ++ membersPieces channel.members (indent + 2) ++
        presencePieces channel.presence (indent + 2) ++ messagesPieces channel (indent + 2) ++
        childrenPieces children (indent + 2) ++
        [literal "\n", padding indent, literal "</channel>"]

def childrenPieces : List ChannelBlock → Nat → Pieces
  | [], _ => []
  | channel :: rest, indent => channelPieces channel indent ++ childrenPieces rest indent

end

def rootPieces : Option ChannelBlock → Pieces
  | none => []
  | some root => channelPieces root 6

def workspacePieces (workspace : WorkspaceView) : Pieces :=
  [literal "\n    <workspace name=\"", .attr (.whole workspace.name), literal "\""] ++
  optional " about=\"" workspace.about ++
  [literal " hosts=\"", .attr (.joined workspace.hosts), literal "\">"] ++
  rootPieces workspace.root ++ childrenPieces workspace.channels 6 ++
  [literal "\n    </workspace>"]

def workspacesPieces : Option (List WorkspaceView) → Pieces
  | none => []
  | some workspaces =>
      [literal "\n  <workspaces>"] ++ workspaces.flatMap workspacePieces ++
      [literal "\n  </workspaces>"]

def importantRowPieces (row : ImportantRow) : Pieces :=
  [literal "\n    <mention channel=\"", .attr (.whole row.channelRef),
    literal "\" message_id=\"", .attr (.shortId row.messageId), literal "\" />"]

def importantPieces (rows : List ImportantRow) : Pieces :=
  if rows.isEmpty then []
  else
    [literal "\n  <important>"] ++ rows.flatMap importantRowPieces ++
    [literal "\n  </important>"]

def reactorsPieces (reactors : List String) : Pieces :=
  [literal " "].intercalate
    (reactors.map fun reactor => [literal "@", .text (.whole reactor)])

def reactionPieces (row : ReactionRow) : Pieces :=
  [literal "\n    "] ++ reactorsPieces row.reactors ++
  [literal " ", .text (.whole row.emoji), literal " on your message \"",
    .text (.whole row.targetSnippet), literal "\" (", .text (.whole row.age), literal ")"]

def reactionsOmittedPieces (omitted : Nat) : Pieces :=
  if omitted > 0 then
    [literal "\n    <omitted count=\"", number omitted, literal "\" />"]
  else []

def reactionsPieces (rows : List ReactionRow) (omitted : Nat) : Pieces :=
  if rows.isEmpty && omitted == 0 then []
  else
    [literal "\n  <reactions>"] ++ rows.flatMap reactionPieces ++
    reactionsOmittedPieces omitted ++ [literal "\n  </reactions>"]

def warningPieces (row : WarningRow) : Pieces :=
  [literal "\n    <warning>", .text (.whole row.text), literal "</warning>"]

def warningsPieces (rows : List WarningRow) : Pieces :=
  if rows.isEmpty then []
  else
    [literal "\n  <warnings>"] ++ rows.flatMap warningPieces ++ [literal "\n  </warnings>"]

def noticePieces : NoticeRow → Pieces
  | .noNewActivity workspace =>
      [literal "\n  <no-new-activity workspace=\"", .attr (.whole workspace), literal "\">"] ++
      [literal "\n    Nothing new since your last check. The fabric surfaces only what ",
        literal "changed — your channels, members, and messages are unchanged, not gone."] ++
      [literal "\n  </no-new-activity>"]

def viewPieces (view : FabricView) : Pieces :=
  [literal "<mosaico>"] ++ selfPieces view.selfRow ++ hostsPieces view.hosts ++
  workspacesPieces view.workspaces ++ importantPieces view.important ++
  reactionsPieces view.reactions view.reactionsOmitted ++ warningsPieces view.warnings ++
  view.notices.flatMap noticePieces ++ [literal "\n</mosaico>"]

/-! ## The renderer writes the pieces -/

@[simp] theorem render_literal (chars : String) :
    (literal chars : Piece Shown).render xml Shown.display = chars := rfl

@[simp] theorem render_padding (width : Nat) :
    (padding width : Piece Shown).render xml Shown.display = spaces width := rfl

@[simp] theorem render_number (value : Nat) :
    (number value : Piece Shown).render xml Shown.display = value.repr := rfl

@[simp] theorem render_attr (shown : Shown) :
    (Piece.attr shown).render xml Shown.display = attr shown.display := rfl

@[simp] theorem render_text (shown : Shown) :
    (Piece.text shown).render xml Shown.display = text shown.display := rfl

/-- The optional attributes of the tags. -/
theorem append_optional (out opening value : String) :
    (if value = "" then out else out ++ opening ++ attr value ++ "\"") =
      out ++ write (optional opening value) := by
  rw [optional]
  split
  · exact String.append_empty.symm
  · simp only [render_cons, render_nil, render_literal, render_attr, Shown.display,
      String.append_assoc, String.append_empty]

theorem renderSelf_eq (out : String) (row : Option SelfRow) :
    renderSelf out row = out ++ write (selfPieces row) := by
  cases row with
  | none => exact String.append_empty.symm
  | some row =>
      simp only [renderSelf, selfPieces, append_optional]
      split <;> simp only [render_cons, render_nil, render_append, render_literal, render_attr,
        render_text, Shown.display, String.append_assoc, String.append_empty]

theorem renderAgent_eq (out : String) (agent : AgentRow) :
    renderAgent out agent = out ++ write (agentPieces agent) := by
  simp only [renderAgent, agentPieces, append_optional]
  simp only [render_cons, render_nil, render_append, render_literal, render_attr, Shown.display,
    String.append_assoc, String.append_empty]

theorem renderHost_eq (out : String) (host : HostRow) :
    renderHost out host = out ++ write (hostPieces host) := by
  simp only [renderHost, hostPieces, foldl_render xml Shown.display renderAgent_eq, render_cons,
    render_nil, render_append, render_literal, render_attr, Shown.display, String.append_assoc,
    String.append_empty]

theorem renderHosts_eq (out : String) (hosts : Option (List HostRow)) :
    renderHosts out hosts = out ++ write (hostsPieces hosts) := by
  cases hosts with
  | none => exact String.append_empty.symm
  | some hosts =>
      simp only [renderHosts, hostsPieces, foldl_render xml Shown.display renderHost_eq,
        render_cons, render_nil, render_append, render_literal, String.append_assoc,
        String.append_empty]

theorem renderMember_eq (width : Nat) (out : String) (member : MemberRow) :
    renderMember (spaces width) out member = out ++ write (memberPieces width member) := by
  obtain ⟨kind, name, state, status, since⟩ := member
  simp only [renderMember, memberPieces, append_optional]
  cases kind <;>
    simp only [render_cons, render_nil, render_append, render_literal, render_padding, render_attr,
      Shown.display, String.append_assoc, String.append_empty]

theorem renderMembers_eq (out : String) (members : List MemberRow) (indent : Nat) :
    renderMembers out members indent = out ++ write (membersPieces members indent) := by
  rw [renderMembers, membersPieces]
  split
  · exact String.append_empty.symm
  · simp only [foldl_render xml Shown.display (renderMember_eq (indent + 2)), render_cons,
      render_nil, render_append, render_literal, render_padding, String.append_assoc,
      String.append_empty]

theorem append_status (width : Nat) (out : String) (status : PresenceRow) :
    (if status.status = "" then out
      else out ++ "\n" ++ spaces width ++ "<status name=\"@" ++
        attr (trimStartMatches '@' status.name) ++ "\" state=\"" ++ status.state.asStr ++
        "\" text=\"" ++ attr status.status ++ "\" since=\"" ++ attr status.since ++ "\" />") =
      out ++ write (statusPieces width status) := by
  rw [statusPieces]
  split
  · exact String.append_empty.symm
  · simp only [render_cons, render_nil, render_literal, render_padding, render_attr,
      Shown.display, String.append_assoc, String.append_empty]

theorem renderPresenceRow_eq (width : Nat) (out : String) (status : PresenceRow) :
    renderPresenceRow (spaces width) out status =
      out ++ write (presenceRowPieces width status) := by
  rw [renderPresenceRow, presenceRowPieces, append_status]
  cases status.nativeFailure with
  | none => simp only [failurePieces, List.append_nil]
  | some failure =>
      simp only [failurePieces, render_cons, render_nil, render_append, render_literal,
        render_padding, render_attr, Shown.display, String.append_assoc, String.append_empty]

theorem renderPresence_eq (out : String) (presence : List PresenceRow) (indent : Nat) :
    renderPresence out presence indent = out ++ write (presencePieces presence indent) := by
  rw [renderPresence, presencePieces]
  split
  · exact String.append_empty.symm
  · simp only [foldl_render xml Shown.display (renderPresenceRow_eq (indent + 2)), render_cons,
      render_nil, render_append, render_literal, render_padding, String.append_assoc,
      String.append_empty]

theorem renderMentionMessage_eq (width : Nat) (out : String) (message : MessageRow) :
    renderMentionMessage out message (spaces width) =
      out ++ write (mentionPieces width message) := by
  unfold renderMentionMessage
  simp only [mentionPieces, replyPieces, render_cons, render_nil, render_append, render_literal,
    render_padding, render_attr, render_text, Shown.display, String.append_assoc,
    String.append_empty, -String.reduceAppend]

theorem append_recipients (out : String) (recipients : List String) :
    (if recipients.isEmpty then out
      else out ++ " for=\"" ++
        attr (" ".intercalate (recipients.map fun recipient => "@" ++ recipient)) ++ "\"") =
      out ++ write (recipientsPieces recipients) := by
  rw [recipientsPieces]
  split
  · exact String.append_empty.symm
  · simp only [render_cons, render_nil, render_literal, render_attr, Shown.display,
      String.append_assoc, String.append_empty]

theorem append_truncated (width : Nat) (out : String) (message : MessageRow) :
    (if message.truncated then
        out ++ "\n" ++ spaces width ++ "[message truncated; run `mosaico channel read --id " ++
          text (shortId message.id) ++ "`]"
      else out) =
      out ++ write (truncatedPieces width message) := by
  rw [truncatedPieces]
  split
  · simp only [render_cons, render_nil, render_literal, render_padding, render_text,
      Shown.display, String.append_assoc, String.append_empty]
  · exact String.append_empty.symm

theorem renderMessage_eq (childWidth detailWidth : Nat) (out : String) (message : MessageRow) :
    renderMessage (spaces childWidth) (spaces detailWidth) out message =
      out ++ write (messagePieces childWidth detailWidth message) := by
  rw [renderMessage, messagePieces]
  split
  · exact renderMentionMessage_eq childWidth out message
  · simp only [append_recipients, append_truncated]
    simp only [render_cons, render_nil, render_append, render_literal, render_padding,
      render_attr, render_text, Shown.display, String.append_assoc, String.append_empty]

theorem append_omitted (width omitted : Nat) (out : String) :
    (if omitted > 0 then
        out ++ "\n" ++ spaces width ++ "<omitted count=\"" ++ omitted.repr ++
          "\" window=\"last 4h\" />"
      else out) =
      out ++ write (omittedPieces width omitted) := by
  rw [omittedPieces]
  split
  · simp only [render_cons, render_nil, render_literal, render_padding, render_number,
      String.append_assoc, String.append_empty]
  · exact String.append_empty.symm

theorem renderMessages_eq (out : String) (channel : ChannelBlock) (indent : Nat) :
    renderMessages out channel indent = out ++ write (messagesPieces channel indent) := by
  rw [renderMessages, messagesPieces]
  split
  · exact String.append_empty.symm
  · simp only [append_omitted,
      foldl_render xml Shown.display (renderMessage_eq (indent + 2) (indent + 4))]
    simp only [render_cons, render_nil, render_append, render_literal, render_padding,
      String.append_assoc, String.append_empty]

mutual

theorem renderChannel_eq (out : String) : ∀ (channel : ChannelBlock) (indent : Nat),
    renderChannel out channel indent = out ++ write (channelPieces channel indent)
  | ⟨name, id, about, memberCount, lastActive, members, presence, children, messages, omitted⟩,
      indent => by
      rw [renderChannel, channelPieces, channelTagPieces]
      simp only [append_optional, renderMembers_eq, renderPresence_eq, renderMessages_eq,
        renderChildren_eq]
      cases memberCount <;> cases lastActive <;> split <;>
        simp only [memberCountPieces, lastActivePieces, render_cons, render_nil, render_append,
          render_literal, render_padding, render_number, render_attr, Shown.display,
          String.append_assoc, String.append_empty]

theorem renderChildren_eq (out : String) : ∀ (children : List ChannelBlock) (indent : Nat),
    renderChildren out children indent = out ++ write (childrenPieces children indent)
  | [], _ => String.append_empty.symm
  | channel :: rest, indent => by
      simp only [renderChildren, childrenPieces, renderChildren_eq, renderChannel_eq,
        render_append, String.append_assoc]

end

theorem renderWorkspace_eq (out : String) (workspace : WorkspaceView) :
    renderWorkspace out workspace = out ++ write (workspacePieces workspace) := by
  rw [renderWorkspace, workspacePieces]
  simp only [append_optional, renderChildren_eq]
  cases workspace.root <;>
    simp only [rootPieces, renderChannel_eq, render_cons, render_nil, render_append,
      render_literal, render_attr, Shown.display, String.append_assoc, String.append_empty]

theorem renderWorkspaces_eq (out : String) (workspaces : Option (List WorkspaceView)) :
    renderWorkspaces out workspaces = out ++ write (workspacesPieces workspaces) := by
  cases workspaces with
  | none => exact String.append_empty.symm
  | some workspaces =>
      simp only [renderWorkspaces, workspacesPieces,
        foldl_render xml Shown.display renderWorkspace_eq, render_cons, render_nil, render_append,
        render_literal, String.append_assoc, String.append_empty]

theorem renderImportantRow_eq (out : String) (row : ImportantRow) :
    renderImportantRow out row = out ++ write (importantRowPieces row) := by
  simp only [renderImportantRow, importantRowPieces, render_cons, render_nil, render_literal,
    render_attr, Shown.display, String.append_assoc, String.append_empty]

theorem renderImportant_eq (out : String) (rows : List ImportantRow) :
    renderImportant out rows = out ++ write (importantPieces rows) := by
  rw [renderImportant, importantPieces]
  split
  · exact String.append_empty.symm
  · simp only [foldl_render xml Shown.display renderImportantRow_eq, render_cons, render_nil,
      render_append, render_literal, String.append_assoc, String.append_empty]

theorem write_reactorsPieces (reactors : List String) :
    write (reactorsPieces reactors) =
      " ".intercalate (reactors.map fun reactor => "@" ++ text reactor) := by
  simp only [reactorsPieces, render_intercalate, List.map_map, Function.comp_def, render_cons,
    render_nil, render_literal, render_text, Shown.display, String.append_empty]

theorem renderReaction_eq (out : String) (row : ReactionRow) :
    renderReaction out row = out ++ write (reactionPieces row) := by
  have hreactors := write_reactorsPieces row.reactors
  simp only [renderReaction, reactionPieces, hreactors, render_cons, render_nil, render_append,
    render_literal, render_text, Shown.display, String.append_assoc, String.append_empty]

theorem append_reactionsOmitted (omitted : Nat) (out : String) :
    (if omitted > 0 then out ++ "\n    <omitted count=\"" ++ omitted.repr ++ "\" />" else out) =
      out ++ write (reactionsOmittedPieces omitted) := by
  rw [reactionsOmittedPieces]
  split
  · simp only [render_cons, render_nil, render_literal, render_number, String.append_assoc,
      String.append_empty]
  · exact String.append_empty.symm

theorem renderReactions_eq (out : String) (rows : List ReactionRow) (omitted : Nat) :
    renderReactions out rows omitted = out ++ write (reactionsPieces rows omitted) := by
  rw [renderReactions, reactionsPieces]
  split
  · exact String.append_empty.symm
  · simp only [append_reactionsOmitted, foldl_render xml Shown.display renderReaction_eq]
    simp only [render_cons, render_nil, render_append, render_literal, String.append_assoc,
      String.append_empty]

theorem renderWarning_eq (out : String) (row : WarningRow) :
    renderWarning out row = out ++ write (warningPieces row) := by
  simp only [renderWarning, warningPieces, render_cons, render_nil, render_literal, render_text,
    Shown.display, String.append_assoc, String.append_empty]

theorem renderWarnings_eq (out : String) (rows : List WarningRow) :
    renderWarnings out rows = out ++ write (warningsPieces rows) := by
  rw [renderWarnings, warningsPieces]
  split
  · exact String.append_empty.symm
  · simp only [foldl_render xml Shown.display renderWarning_eq, render_cons, render_nil,
      render_append, render_literal, String.append_assoc, String.append_empty]

theorem renderNotice_eq (out : String) (notice : NoticeRow) :
    renderNotice out notice = out ++ write (noticePieces notice) := by
  cases notice with
  | noNewActivity workspace =>
      simp only [renderNotice, noticePieces, render_cons, render_nil, render_append,
        render_literal, render_attr, Shown.display, String.append_assoc, String.append_empty]

/-- The renderer writes the pieces of the view. -/
theorem renderView_eq (view : FabricView) : renderView view = write (viewPieces view) := by
  simp only [renderView, viewPieces, renderNotices, renderSelf_eq, renderHosts_eq,
    renderWorkspaces_eq, renderImportant_eq, renderReactions_eq, renderWarnings_eq,
    foldl_render xml Shown.display renderNotice_eq, render_cons, render_nil, render_append,
    render_literal, String.append_assoc, String.append_empty]

end Mosaico.View
