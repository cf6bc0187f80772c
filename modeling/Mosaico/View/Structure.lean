import Mosaico.View.Documents

/-!
# The structure of the fabric document

No text that a peer supplies changes the markup of the document.  Two views of one shape are
written with the same markup, every field stands where its escaping is made for, and reading a
field back gives the text that the document shows for it.
-/

namespace Mosaico.View

open Markup
open Markup.Piece (literal padding number)

/-! ## Views of one shape -/

def EmptyAlike (first second : String) : Prop :=
  first = "" ↔ second = ""

structure SelfRow.SameShape (first second : SelfRow) : Prop where
  headless : first.headless = second.headless
  title : EmptyAlike first.title second.title
  hint : EmptyAlike first.hint second.hint

structure AgentRow.SameShape (first second : AgentRow) : Prop where
  about : EmptyAlike first.about second.about

structure HostRow.SameShape (first second : HostRow) : Prop where
  agents : List.Forall₂ AgentRow.SameShape first.agents second.agents

structure MemberRow.SameShape (first second : MemberRow) : Prop where
  kind : first.kind = second.kind
  state : first.state = second.state
  status : EmptyAlike first.status second.status

structure PresenceRow.SameShape (first second : PresenceRow) : Prop where
  state : first.state = second.state
  status : EmptyAlike first.status second.status
  nativeFailure : first.nativeFailure.isSome = second.nativeFailure.isSome

structure MessageRow.SameShape (first second : MessageRow) : Prop where
  recipients : first.recipients.length = second.recipients.length
  mention : first.mention = second.mention
  truncated : first.truncated = second.truncated

inductive ChannelBlock.SameShape : ChannelBlock → ChannelBlock → Prop
  | mk {first second : ChannelBlock} (about : EmptyAlike first.about second.about)
      (memberCount : first.memberCount = second.memberCount)
      (lastActive : first.lastActive.isSome = second.lastActive.isSome)
      (members : List.Forall₂ MemberRow.SameShape first.members second.members)
      (presence : List.Forall₂ PresenceRow.SameShape first.presence second.presence)
      (children : List.Forall₂ ChannelBlock.SameShape first.children second.children)
      (messages : List.Forall₂ MessageRow.SameShape first.messages second.messages)
      (omitted : first.omitted = second.omitted) : SameShape first second

structure WorkspaceView.SameShape (first second : WorkspaceView) : Prop where
  about : EmptyAlike first.about second.about
  root : Option.Rel ChannelBlock.SameShape first.root second.root
  channels : List.Forall₂ ChannelBlock.SameShape first.channels second.channels

structure ReactionRow.SameShape (first second : ReactionRow) : Prop where
  reactors : first.reactors.length = second.reactors.length

/-- The same rows, flags and counts, and the same texts empty.  Of the texts only those count that
decide whether something is written. -/
structure FabricView.SameShape (first second : FabricView) : Prop where
  selfRow : Option.Rel SelfRow.SameShape first.selfRow second.selfRow
  hosts : Option.Rel (List.Forall₂ HostRow.SameShape) first.hosts second.hosts
  workspaces : Option.Rel (List.Forall₂ WorkspaceView.SameShape) first.workspaces
    second.workspaces
  important : first.important.length = second.important.length
  reactions : List.Forall₂ ReactionRow.SameShape first.reactions second.reactions
  reactionsOmitted : first.reactionsOmitted = second.reactionsOmitted
  warnings : first.warnings.length = second.warnings.length
  notices : first.notices.length = second.notices.length

/-! ## Every field stands where its escaping is made for -/

theorem flow_optional {opening value : String}
    (hopening : Context.tag.close opening.toList = .value) :
    flow .tag (optional opening value) = some .tag := by
  rw [optional]
  split
  · rfl
  · rw [flow, hopening]
    rfl

theorem flow_selfPieces (row : Option SelfRow) :
    flow .content (selfPieces row) = some .content := by
  cases row with
  | none => rfl
  | some row =>
      obtain ⟨name, host, headless, title, hint⟩ := row
      refine flow_append (flow_append (flow_append ?_ (flow_optional rfl)) rfl) ?_
      · cases headless <;> simp only [Bool.false_eq_true, if_true, if_false] <;> rfl
      · dsimp only
        split <;> rfl

theorem flow_agentPieces (agent : AgentRow) :
    flow .content (agentPieces agent) = some .content :=
  flow_append (flow_append rfl (flow_optional rfl)) rfl

theorem flow_hostPieces (host : HostRow) : flow .content (hostPieces host) = some .content :=
  flow_append (flow_append rfl (flow_flatMap flow_agentPieces host.agents)) rfl

theorem flow_hostsPieces (hosts : Option (List HostRow)) :
    flow .content (hostsPieces hosts) = some .content := by
  cases hosts with
  | none => rfl
  | some hosts => exact flow_append (flow_append rfl (flow_flatMap flow_hostPieces hosts)) rfl

theorem flow_memberPieces (width : Nat) (member : MemberRow) :
    flow .content (memberPieces width member) = some .content := by
  obtain ⟨kind, name, state, status, since⟩ := member
  refine flow_append (flow_append ?_ (flow_optional rfl)) rfl
  cases kind <;> cases state <;> simp only [SessionState.asStr] <;> rfl

theorem flow_membersPieces (members : List MemberRow) (indent : Nat) :
    flow .content (membersPieces members indent) = some .content := by
  rw [membersPieces]
  split
  · rfl
  · exact flow_append (flow_append rfl (flow_flatMap (flow_memberPieces (indent + 2)) members)) rfl

theorem flow_statusPieces (width : Nat) (status : PresenceRow) :
    flow .content (statusPieces width status) = some .content := by
  obtain ⟨name, state, text, since, failure⟩ := status
  rw [statusPieces]
  split
  · rfl
  · cases state <;> simp only [SessionState.asStr] <;> rfl

theorem flow_presenceRowPieces (width : Nat) (status : PresenceRow) :
    flow .content (presenceRowPieces width status) = some .content := by
  refine flow_append (flow_statusPieces width status) ?_
  cases status.nativeFailure <;> rfl

theorem flow_presencePieces (presence : List PresenceRow) (indent : Nat) :
    flow .content (presencePieces presence indent) = some .content := by
  rw [presencePieces]
  split
  · rfl
  · exact flow_append
      (flow_append rfl (flow_flatMap (flow_presenceRowPieces (indent + 2)) presence)) rfl

/-- A literal is read as its characters. -/
theorem notMem_literal {c : Char} {chars : List Char} (hc : c ∉ chars) :
    c ∉ (String.ofList chars).toList := by
  rw [String.toList_ofList]
  exact hc

theorem flow_replyPieces (width : Nat) (message : MessageRow) :
    flow .content (replyPieces width message) = some .content := by
  have hline : '<' ∉ "\n".toList := notMem_literal (by decide)
  have hreply : '<' ∉ "Reply via: `mosaico channel reply ".toList := notMem_literal (by decide)
  have hmessage : '<' ∉ " --message \"hello world\"`".toList := notMem_literal (by decide)
  have hhint : '<' ∉ agentHint.toList := by
    rw [agentHint]
    exact notMem_literal (by decide)
  have hreact : '<' ∉ "Ack-only? `mosaico channel react ".toList := notMem_literal (by decide)
  have honly : '<' ∉ " 👍` — never interrupts. Reply only with substantive content; ".toList :=
    notMem_literal (by decide)
  have hbare : '<' ∉ "never send a bare \"ok\"/\"noted\".".toList := notMem_literal (by decide)
  have hpadding : ∀ rest : Pieces, flow .content (padding width :: rest) = flow .content rest :=
    fun _ => rfl
  have hid : ∀ rest : Pieces, flow .content (.text (.shortId message.id) :: rest) =
      flow .content rest := fun _ => rfl
  rw [replyPieces, flow_prose hline, hpadding, flow_prose hreply, hid, flow_prose hmessage,
    flow_prose hline, hpadding, flow_prose hhint, flow_prose hline, hpadding, flow_prose hreact,
    hid, flow_prose honly, flow_prose hbare]
  rfl

theorem flow_mentionPieces (width : Nat) (message : MessageRow) :
    flow .content (mentionPieces width message) = some .content :=
  flow_append rfl (flow_replyPieces width message)

theorem flow_messagePieces (childWidth detailWidth : Nat) (message : MessageRow) :
    flow .content (messagePieces childWidth detailWidth message) = some .content := by
  rw [messagePieces]
  split
  · exact flow_mentionPieces childWidth message
  · have hrecipients : flow .tag (recipientsPieces message.recipients) = some .tag := by
      rw [recipientsPieces]
      split <;> rfl
    have htruncated : flow .content (truncatedPieces detailWidth message) = some .content := by
      rw [truncatedPieces]
      split <;> rfl
    exact flow_append (flow_append (flow_append (flow_append rfl hrecipients) rfl) htruncated) rfl

theorem flow_messagesPieces (channel : ChannelBlock) (indent : Nat) :
    flow .content (messagesPieces channel indent) = some .content := by
  rw [messagesPieces]
  split
  · rfl
  · have homitted : flow .content (omittedPieces (indent + 2) channel.omitted) = some .content := by
      rw [omittedPieces]
      split <;> rfl
    have hmessages := flow_flatMap (flow_messagePieces (indent + 2) (indent + 4)) channel.messages
    exact flow_append (flow_append (flow_append rfl homitted) hmessages) rfl

theorem flow_channelTagPieces (channel : ChannelBlock) (indent : Nat) :
    flow .content (channelTagPieces channel indent) = some .tag := by
  have hcount : flow .tag (memberCountPieces channel.memberCount) = some .tag := by
    cases channel.memberCount <;> rfl
  have hactive : flow .tag (lastActivePieces channel.lastActive) = some .tag := by
    cases channel.lastActive <;> rfl
  exact flow_append (flow_append (flow_append rfl (flow_optional rfl)) hcount) hactive

mutual

theorem flow_channelPieces : ∀ (channel : ChannelBlock) (indent : Nat),
    flow .content (channelPieces channel indent) = some .content
  | ⟨_, _, _, _, _, members, presence, children, _, _⟩, indent => by
      rw [channelPieces]
      refine flow_append (flow_channelTagPieces _ indent) ?_
      split
      · rfl
      · have hmembers := flow_membersPieces members (indent + 2)
        have hpresence := flow_presencePieces presence (indent + 2)
        have hchildren := flow_childrenPieces children (indent + 2)
        exact flow_append (flow_append (flow_append (flow_append (flow_append rfl hmembers)
          hpresence) (flow_messagesPieces _ (indent + 2))) hchildren) rfl

theorem flow_childrenPieces : ∀ (children : List ChannelBlock) (indent : Nat),
    flow .content (childrenPieces children indent) = some .content
  | [], _ => rfl
  | channel :: rest, indent =>
      flow_append (flow_channelPieces channel indent) (flow_childrenPieces rest indent)

end

theorem flow_workspacePieces (workspace : WorkspaceView) :
    flow .content (workspacePieces workspace) = some .content := by
  have hroot : flow .content (rootPieces workspace.root) = some .content := by
    cases workspace.root with
    | none => rfl
    | some root => exact flow_channelPieces root 6
  have hchannels := flow_childrenPieces workspace.channels 6
  exact flow_append (flow_append (flow_append (flow_append (flow_append rfl (flow_optional rfl))
    rfl) hroot) hchannels) rfl

theorem flow_reactionPieces (row : ReactionRow) :
    flow .content (reactionPieces row) = some .content := by
  have hreactors : flow .content (reactorsPieces row.reactors) = some .content := by
    refine flow_intercalate rfl (fun part hpart => ?_)
    obtain ⟨reactor, -, rfl⟩ := List.mem_map.mp hpart
    rfl
  exact flow_append (flow_append rfl hreactors) rfl

theorem flow_reactionsPieces (rows : List ReactionRow) (omitted : Nat) :
    flow .content (reactionsPieces rows omitted) = some .content := by
  rw [reactionsPieces]
  split
  · rfl
  · have homitted : flow .content (reactionsOmittedPieces omitted) = some .content := by
      rw [reactionsOmittedPieces]
      split <;> rfl
    exact flow_append (flow_append (flow_append rfl (flow_flatMap flow_reactionPieces rows))
      homitted) rfl

theorem flow_importantPieces (rows : List ImportantRow) :
    flow .content (importantPieces rows) = some .content := by
  rw [importantPieces]
  split
  · rfl
  · exact flow_append (flow_append rfl (flow_flatMap (fun _ => rfl) rows)) rfl

theorem flow_warningsPieces (rows : List WarningRow) :
    flow .content (warningsPieces rows) = some .content := by
  rw [warningsPieces]
  split
  · rfl
  · exact flow_append (flow_append rfl (flow_flatMap (fun _ => rfl) rows)) rfl

theorem flow_workspacesPieces (workspaces : Option (List WorkspaceView)) :
    flow .content (workspacesPieces workspaces) = some .content := by
  cases workspaces with
  | none => rfl
  | some workspaces =>
      exact flow_append (flow_append rfl (flow_flatMap flow_workspacePieces workspaces)) rfl

theorem flow_noticePieces (notice : NoticeRow) :
    flow .content (noticePieces notice) = some .content := by
  have hsince : '<' ∉
      "\n    Nothing new since your last check. The fabric surfaces only what ".toList :=
    notMem_literal (by decide)
  have hchanged : '<' ∉
      "changed — your channels, members, and messages are unchanged, not gone.".toList :=
    notMem_literal (by decide)
  cases notice with
  | noNewActivity workspace =>
      have hprose := (flow_prose (φ := Shown) hsince _).trans (flow_prose hchanged [])
      exact flow_append (flow_append rfl hprose) rfl

theorem flow_viewPieces (view : FabricView) :
    flow .content (viewPieces view) = some .content := by
  have hnotices := flow_flatMap flow_noticePieces view.notices
  exact flow_append (flow_append (flow_append (flow_append (flow_append (flow_append (flow_append
    (flow_append rfl (flow_selfPieces view.selfRow)) (flow_hostsPieces view.hosts))
    (flow_workspacesPieces view.workspaces)) (flow_importantPieces view.important))
    (flow_reactionsPieces view.reactions view.reactionsOmitted))
    (flow_warningsPieces view.warnings)) hnotices) rfl

/-! ## Views of one shape have alike pieces -/

theorem isEmpty_eq {α : Type} {related : α → α → Prop} {first second : List α}
    (hrelated : List.Forall₂ related first second) : first.isEmpty = second.isEmpty := by
  cases hrelated <;> rfl

theorem related_of_length {α β : Type} {first : List α} {second : List β}
    (hlength : first.length = second.length) : List.Forall₂ (fun _ _ => True) first second :=
  List.forall₂_iff_zip.mpr ⟨hlength, fun _ => trivial⟩

theorem alike_optional {opening first second : String} (hempty : EmptyAlike first second) :
    List.Forall₂ Piece.Alike (optional opening first) (optional opening second) := by
  by_cases hfirst : first = ""
  · rw [optional, optional, if_pos hfirst, if_pos (hempty.mp hfirst)]
    exact .nil
  · rw [optional, optional, if_neg hfirst, if_neg (mt hempty.mpr hfirst)]
    simp

theorem alike_selfPieces {first second : Option SelfRow}
    (hshape : Option.Rel SelfRow.SameShape first second) :
    List.Forall₂ Piece.Alike (selfPieces first) (selfPieces second) := by
  cases hshape with
  | none => exact .nil
  | @some first second hshape =>
      refine alike_append (alike_append (alike_append ?_ (alike_optional hshape.title))
        (alike_refl _)) ?_
      · simp [hshape.headless]
      · by_cases hhint : first.hint = ""
        · rw [if_pos hhint, if_pos (hshape.hint.mp hhint)]
          exact .nil
        · rw [if_neg hhint, if_neg (mt hshape.hint.mpr hhint)]
          simp

theorem alike_agentPieces (first second : AgentRow) (hshape : first.SameShape second) :
    List.Forall₂ Piece.Alike (agentPieces first) (agentPieces second) :=
  alike_append (alike_append (by simp) (alike_optional hshape.about)) (alike_refl _)

theorem alike_hostPieces (first second : HostRow) (hshape : first.SameShape second) :
    List.Forall₂ Piece.Alike (hostPieces first) (hostPieces second) :=
  alike_append (alike_append (by simp) (alike_flatMap alike_agentPieces hshape.agents))
    (alike_refl _)

theorem alike_hostsPieces {first second : Option (List HostRow)}
    (hshape : Option.Rel (List.Forall₂ HostRow.SameShape) first second) :
    List.Forall₂ Piece.Alike (hostsPieces first) (hostsPieces second) := by
  cases hshape with
  | none => exact .nil
  | some hshape =>
      exact alike_append (alike_append (alike_refl _) (alike_flatMap alike_hostPieces hshape))
        (alike_refl _)

theorem alike_memberPieces (width : Nat) (first second : MemberRow)
    (hshape : first.SameShape second) :
    List.Forall₂ Piece.Alike (memberPieces width first) (memberPieces width second) := by
  refine alike_append (alike_append ?_ (alike_optional hshape.status)) (by simp)
  simp [hshape.kind, hshape.state]

theorem alike_membersPieces {first second : List MemberRow} (indent : Nat)
    (hshape : List.Forall₂ MemberRow.SameShape first second) :
    List.Forall₂ Piece.Alike (membersPieces first indent) (membersPieces second indent) := by
  rw [membersPieces, membersPieces, isEmpty_eq hshape]
  split
  · exact .nil
  · exact alike_append (alike_append (alike_refl _)
      (alike_flatMap (alike_memberPieces (indent + 2)) hshape)) (alike_refl _)

theorem alike_presenceRowPieces (width : Nat) (first second : PresenceRow)
    (hshape : first.SameShape second) :
    List.Forall₂ Piece.Alike (presenceRowPieces width first) (presenceRowPieces width second) := by
  refine alike_append ?_ ?_
  · rw [statusPieces, statusPieces]
    by_cases hstatus : first.status = ""
    · rw [if_pos hstatus, if_pos (hshape.status.mp hstatus)]
      exact .nil
    · rw [if_neg hstatus, if_neg (mt hshape.status.mpr hstatus)]
      simp [hshape.state]
  · have hfailure := hshape.nativeFailure
    cases hfirst : first.nativeFailure with
    | none =>
        rw [hfirst, Option.isSome_none, eq_comm, Option.isSome_eq_false_iff,
          Option.isNone_iff_eq_none] at hfailure
        rw [hfailure]
        exact .nil
    | some failure =>
        rw [hfirst, Option.isSome_some, eq_comm, Option.isSome_iff_exists] at hfailure
        obtain ⟨other, hother⟩ := hfailure
        rw [hother]
        simp [failurePieces]

theorem alike_presencePieces {first second : List PresenceRow} (indent : Nat)
    (hshape : List.Forall₂ PresenceRow.SameShape first second) :
    List.Forall₂ Piece.Alike (presencePieces first indent) (presencePieces second indent) := by
  rw [presencePieces, presencePieces, isEmpty_eq hshape]
  split
  · exact .nil
  · exact alike_append (alike_append (alike_refl _)
      (alike_flatMap (alike_presenceRowPieces (indent + 2)) hshape)) (alike_refl _)

theorem alike_messagePieces (childWidth detailWidth : Nat) (first second : MessageRow)
    (hshape : first.SameShape second) :
    List.Forall₂ Piece.Alike (messagePieces childWidth detailWidth first)
      (messagePieces childWidth detailWidth second) := by
  rw [messagePieces, messagePieces, hshape.mention]
  split
  · exact alike_append (by simp) (by simp [replyPieces])
  · have hempty := isEmpty_eq (related_of_length hshape.recipients)
    have hrecipients : List.Forall₂ Piece.Alike (recipientsPieces first.recipients)
        (recipientsPieces second.recipients) := by
      rw [recipientsPieces, recipientsPieces, hempty]
      split
      · exact .nil
      · simp
    have htruncated : List.Forall₂ Piece.Alike (truncatedPieces detailWidth first)
        (truncatedPieces detailWidth second) := by
      rw [truncatedPieces, truncatedPieces, hshape.truncated]
      split
      · simp
      · exact .nil
    exact alike_append (alike_append (alike_append (alike_append (by simp) hrecipients) (by simp))
      htruncated) (alike_refl _)

theorem alike_messagesPieces {first second : ChannelBlock} (indent : Nat)
    (hmessages : List.Forall₂ MessageRow.SameShape first.messages second.messages)
    (homitted : first.omitted = second.omitted) :
    List.Forall₂ Piece.Alike (messagesPieces first indent) (messagesPieces second indent) := by
  rw [messagesPieces, messagesPieces, isEmpty_eq hmessages, homitted]
  split
  · exact .nil
  · exact alike_append (alike_append (alike_refl _)
      (alike_flatMap (alike_messagePieces (indent + 2) (indent + 4)) hmessages)) (alike_refl _)

theorem alike_channelTagPieces {first second : ChannelBlock} (indent : Nat)
    (hshape : first.SameShape second) :
    List.Forall₂ Piece.Alike (channelTagPieces first indent) (channelTagPieces second indent) := by
  obtain ⟨about, memberCount, lastActive, -, -, -, -, -⟩ := hshape
  have hactive : List.Forall₂ Piece.Alike (lastActivePieces first.lastActive)
      (lastActivePieces second.lastActive) := by
    cases hfirst : first.lastActive <;> cases hsecond : second.lastActive <;>
      simp_all [lastActivePieces]
  rw [channelTagPieces, channelTagPieces, memberCount]
  exact alike_append (alike_append (alike_append (by simp) (alike_optional about)) (alike_refl _))
    hactive

theorem isCompact_eq {first second : ChannelBlock} (hshape : first.SameShape second) :
    first.isCompact = second.isCompact := by
  obtain ⟨-, -, -, members, presence, children, messages, omitted⟩ := hshape
  rw [ChannelBlock.isCompact, ChannelBlock.isCompact, isEmpty_eq members, isEmpty_eq presence,
    isEmpty_eq children, isEmpty_eq messages, omitted]

mutual

theorem alike_channelPieces : ∀ (first second : ChannelBlock) (indent : Nat),
    first.SameShape second →
    List.Forall₂ Piece.Alike (channelPieces first indent) (channelPieces second indent)
  | ⟨_, _, _, _, _, _, _, children, _, _⟩, ⟨_, _, _, _, _, _, _, others, _, _⟩, indent, hshape => by
      have htag := alike_channelTagPieces indent hshape
      have hcompact := isCompact_eq hshape
      obtain ⟨-, -, -, members, presence, hchildren, messages, omitted⟩ := hshape
      rw [channelPieces, channelPieces, hcompact]
      refine alike_append htag ?_
      split
      · exact alike_refl _
      · have hmembers := alike_membersPieces (indent + 2) members
        have hpresence := alike_presencePieces (indent + 2) presence
        have hmessages := alike_messagesPieces (indent + 2) messages omitted
        have hbelow := alike_childrenPieces children others (indent + 2) hchildren
        exact alike_append (alike_append (alike_append (alike_append (alike_append (alike_refl _)
          hmembers) hpresence) hmessages) hbelow) (alike_refl _)

theorem alike_childrenPieces : ∀ (first second : List ChannelBlock) (indent : Nat),
    List.Forall₂ ChannelBlock.SameShape first second →
    List.Forall₂ Piece.Alike (childrenPieces first indent) (childrenPieces second indent)
  | [], _, _, .nil => .nil
  | channel :: rest, other :: others, indent, .cons hchannel hrest =>
      alike_append (alike_channelPieces channel other indent hchannel)
        (alike_childrenPieces rest others indent hrest)

end

theorem alike_rootPieces {first second : Option ChannelBlock}
    (hshape : Option.Rel ChannelBlock.SameShape first second) :
    List.Forall₂ Piece.Alike (rootPieces first) (rootPieces second) := by
  cases hshape with
  | none => exact .nil
  | some hroot => exact alike_channelPieces _ _ 6 hroot

theorem alike_workspacePieces (first second : WorkspaceView) (hshape : first.SameShape second) :
    List.Forall₂ Piece.Alike (workspacePieces first) (workspacePieces second) := by
  have hroot := alike_rootPieces hshape.root
  have hchannels := alike_childrenPieces first.channels second.channels 6 hshape.channels
  exact alike_append (alike_append (alike_append (alike_append (alike_append (by simp)
    (alike_optional hshape.about)) (by simp)) hroot) hchannels) (alike_refl _)

theorem alike_workspacesPieces {first second : Option (List WorkspaceView)}
    (hshape : Option.Rel (List.Forall₂ WorkspaceView.SameShape) first second) :
    List.Forall₂ Piece.Alike (workspacesPieces first) (workspacesPieces second) := by
  cases hshape with
  | none => exact .nil
  | some hshape =>
      exact alike_append (alike_append (alike_refl _) (alike_flatMap alike_workspacePieces hshape))
        (alike_refl _)

theorem alike_importantPieces {first second : List ImportantRow}
    (hlength : first.length = second.length) :
    List.Forall₂ Piece.Alike (importantPieces first) (importantPieces second) := by
  have hrelated := related_of_length hlength
  rw [importantPieces, importantPieces, isEmpty_eq hrelated]
  split
  · exact .nil
  · refine alike_append (alike_append (alike_refl _) (alike_flatMap ?_ hrelated)) (alike_refl _)
    intro row other _
    simp [importantRowPieces]

theorem alike_reactionPieces (first second : ReactionRow) (hshape : first.SameShape second) :
    List.Forall₂ Piece.Alike (reactionPieces first) (reactionPieces second) := by
  have hreactors : List.Forall₂ Piece.Alike (reactorsPieces first.reactors)
      (reactorsPieces second.reactors) := by
    refine alike_intercalate ?_
    rw [List.forall₂_map_left_iff, List.forall₂_map_right_iff]
    exact (related_of_length hshape.reactors).imp fun reactor other _ => by simp
  exact alike_append (alike_append (alike_refl _) hreactors) (by simp)

theorem alike_reactionsPieces {first second : List ReactionRow} (omitted : Nat)
    (hshape : List.Forall₂ ReactionRow.SameShape first second) :
    List.Forall₂ Piece.Alike (reactionsPieces first omitted)
      (reactionsPieces second omitted) := by
  rw [reactionsPieces, reactionsPieces, isEmpty_eq hshape]
  split
  · exact .nil
  · exact alike_append (alike_append (alike_append (alike_refl _)
      (alike_flatMap alike_reactionPieces hshape)) (alike_refl _)) (alike_refl _)

theorem alike_warningsPieces {first second : List WarningRow}
    (hlength : first.length = second.length) :
    List.Forall₂ Piece.Alike (warningsPieces first) (warningsPieces second) := by
  have hrelated := related_of_length hlength
  rw [warningsPieces, warningsPieces, isEmpty_eq hrelated]
  split
  · exact .nil
  · refine alike_append (alike_append (alike_refl _) (alike_flatMap ?_ hrelated)) (alike_refl _)
    intro row other _
    simp [warningPieces]

theorem alike_noticesPieces {first second : List NoticeRow}
    (hlength : first.length = second.length) :
    List.Forall₂ Piece.Alike (first.flatMap noticePieces) (second.flatMap noticePieces) := by
  refine alike_flatMap ?_ (related_of_length hlength)
  rintro ⟨workspace⟩ ⟨other⟩ -
  exact alike_append (alike_append (by simp) (alike_refl _)) (alike_refl _)

theorem alike_viewPieces {first second : FabricView} (hshape : first.SameShape second) :
    List.Forall₂ Piece.Alike (viewPieces first) (viewPieces second) := by
  have hreactions := alike_reactionsPieces first.reactionsOmitted hshape.reactions
  rw [viewPieces, viewPieces, ← hshape.reactionsOmitted]
  exact alike_append (alike_append (alike_append (alike_append (alike_append (alike_append
    (alike_append (alike_append (alike_refl _) (alike_selfPieces hshape.selfRow))
    (alike_hostsPieces hshape.hosts)) (alike_workspacesPieces hshape.workspaces))
    (alike_importantPieces hshape.important)) hreactions) (alike_warningsPieces hshape.warnings))
    (alike_noticesPieces hshape.notices)) (alike_refl _)

/-! ## The markup of the document -/

/-- The text that a field contributes is no markup where the field stands, and reading it back
gives what the document shows. -/
def SafeField : Piece Shown → Prop
  | .attr shown =>
      (∀ c ∈ (attr shown.display).toList, c ≠ '<' ∧ c ≠ '>' ∧ c ≠ '"') ∧
        unescape (attr shown.display) = shown.display
  | .text shown =>
      (∀ c ∈ (text shown.display).toList, c ≠ '<' ∧ c ≠ '>') ∧
        unescape (text shown.display) = shown.display
  | _ => True

theorem safeField (piece : Piece Shown) : SafeField piece := by
  cases piece with
  | literal chars | padding width | number value => trivial
  | attr shown => exact ⟨xml.attr_clean shown.display, xml.unescape_attr shown.display⟩
  | text shown => exact ⟨xml.text_clean shown.display, xml.unescape_text shown.display⟩

/-- Views of one shape are written piece by piece alike and with the same markup.  In every
document an attribute field stands in an attribute value and a text field between tags, the markup
is that of the literals, and every field is safe. -/
theorem renderView_structure :
    (∀ first second : FabricView, first.SameShape second →
      marks .content (renderView first).toList = marks .content (renderView second).toList ∧
        List.Forall₂ Piece.Alike (viewPieces first) (viewPieces second)) ∧
    ∀ view : FabricView,
      renderView view = write (viewPieces view) ∧
      flow .content (viewPieces view) = some .content ∧
      marks .content (renderView view).toList = literalMarks .content (viewPieces view) ∧
      ∀ piece ∈ viewPieces view, SafeField piece := by
  constructor
  · intro first second hshape
    have halike := alike_viewPieces hshape
    rw [renderView_eq, renderView_eq]
    exact ⟨marks_render_congr xml Shown.display halike (flow_viewPieces first), halike⟩
  · intro view
    have hmarks := marks_render xml Shown.display (flow_viewPieces view)
    rw [renderView_eq]
    exact ⟨rfl, flow_viewPieces view, hmarks.1, fun piece _ => safeField piece⟩

/-! ## What a document does not tell -/

def emptyView : FabricView where
  selfRow := none
  hosts := none
  workspaces := none
  important := []
  reactions := []
  reactionsOmitted := 0
  warnings := []
  notices := []

def selfNamed (name : String) : FabricView :=
  { emptyView with
    selfRow := some { name := name, host := "h", headless := false, title := "", hint := "" } }

def mentionOf (messageId : String) : FabricView :=
  { emptyView with important := [{ channelRef := "c", messageId := messageId }] }

def hostedOn (hosts : List String) : FabricView :=
  { emptyView with
    workspaces := some
      [{ name := "w", about := "", hosts := hosts, root := none, channels := [] }] }

theorem sameShape_selfNamed (name other : String) :
    (selfNamed name).SameShape (selfNamed other) where
  selfRow := .some ⟨rfl, Iff.rfl, Iff.rfl⟩
  hosts := .none
  workspaces := .none
  important := rfl
  reactions := .nil
  reactionsOmitted := rfl
  warnings := rfl
  notices := rfl

/-- The hostile name closes its attribute and opens a channel. -/
theorem renderView_structure_selfNamed :
    marks .content (renderView (selfNamed "\" /><channel name='x'>")).toList =
      marks .content (renderView (selfNamed "ada")).toList :=
  (renderView_structure.1 (selfNamed "\" /><channel name='x'>") (selfNamed "ada")
    (sameShape_selfNamed _ _)).1

/-- A name with an at sign is shown like the name without it, an id like every id with the same
six characters, and a host with a comma like two hosts. -/
theorem not_read_back :
    (¬ ∃ read : String → String, ∀ name, read (renderView (selfNamed name)) = name) ∧
    (¬ ∃ read : String → String, ∀ id, read (renderView (mentionOf id)) = id) ∧
    ¬ ∃ read : String → List String, ∀ hosts, read (renderView (hostedOn hosts)) = hosts := by
  refine ⟨?_, ?_, ?_⟩
  · rintro ⟨read, hread⟩
    have hsame : renderView (selfNamed "@ada") = renderView (selfNamed "ada") := by
      have hname : trimStartMatches '@' "@ada" = trimStartMatches '@' "ada" := by decide
      simp only [renderView, selfNamed, renderSelf, hname]
    have hname := hread "@ada"
    rw [hsame, hread] at hname
    exact absurd hname (by decide)
  · rintro ⟨read, hread⟩
    have hsame : renderView (mentionOf "abcdef1") = renderView (mentionOf "abcdef2") := by
      have hid : shortId "abcdef1" = shortId "abcdef2" := by decide
      simp only [renderView, mentionOf, renderImportant, renderImportantRow, List.isEmpty_cons,
        Bool.false_eq_true, if_false, List.foldl_cons, List.foldl_nil, hid]
    have hid := hread "abcdef1"
    rw [hsame, hread] at hid
    exact absurd hid (by decide)
  · rintro ⟨read, hread⟩
    have hsame : renderView (hostedOn ["a,b"]) = renderView (hostedOn ["a", "b"]) := by
      have hhosts : ",".intercalate ["a,b"] = ",".intercalate ["a", "b"] := by decide
      simp only [renderView, hostedOn, renderWorkspaces, List.foldl_cons, renderWorkspace, hhosts]
    have hhosts := hread ["a,b"]
    rw [hsame, hread] at hhosts
    exact absurd hhosts (by decide)

end Mosaico.View
