import Switchboard.Event.Basic

set_option autoImplicit false

namespace Switchboard

def QuotedMessage.account (quote : QuotedMessage) : Json :=
  .ofMembers [("id", quote.id.encode), ("group_id", quote.groupId.encode),
    ("sender_id", quote.senderId.encode), ("target_id", .int quote.targetId),
    ("origin", quote.origin.encode)]

def ReceivedMessage.account (message : ReceivedMessage) : Json :=
  .ofMembers [("id", message.source.id.encode), ("time", .int message.source.time),
    ("quote", .ofOption QuotedMessage.account message.quote),
    ("content", message.content.encode), ("plain_text", .str message.plainText)]

namespace Event

def executorAccount (executor : Option Member) : String × Json :=
  ("executor", .ofOption Member.encode executor)

def payloadAccount : Event → List (String × Json)
  | ⟨.friendMessage, p⟩ => [("sender", p.sender.encode)]
  | ⟨.groupMessage, p⟩ | ⟨.tempMessage, p⟩ => [("sender", p.sender.encode)]
  | ⟨.botOnline, p⟩ => [("kind", .str p.kind.name), ("bot_id", p.botId.encode)]
  | ⟨.botOffline, p⟩ => [("kind", .str p.kind.name), ("bot_id", p.botId.encode)]
  | ⟨.botGroupPermissionChange, p⟩ =>
    [("original", p.previous.encode), ("current", p.current.encode), ("group", p.group.encode)]
  | ⟨.botMuted, p⟩ =>
    [("duration_seconds", .int p.durationSeconds), ("executor", p.executor.encode)]
  | ⟨.botUnmuted, p⟩ => [("executor", p.executor.encode)]
  | ⟨.botJoinGroup, p⟩ | ⟨.botQuit, p⟩ | ⟨.botKicked, p⟩ => [("group", p.group.encode)]
  | ⟨.groupRecall, p⟩ =>
    [("sender_id", p.senderId.encode), ("message_id", p.messageId.encode), ("time", .int p.time),
      ("group", p.group.encode), executorAccount p.executor]
  | ⟨.friendRecall, p⟩ =>
    [("sender_id", p.senderId.encode), ("message_id", p.messageId.encode), ("time", .int p.time),
      ("executor_id", p.executorId.encode)]
  | ⟨.groupNameChange, p⟩ | ⟨.groupEntranceAnnouncementChange, p⟩ =>
    [("original", .str p.previous), ("current", .str p.current), ("group", p.group.encode),
      executorAccount p.executor]
  | ⟨.groupSettingChange, p⟩ =>
    [("setting", .str p.setting.name), ("original", .bool p.previous), ("current", .bool p.current),
      ("group", p.group.encode), executorAccount p.executor]
  | ⟨.memberJoin, p⟩ | ⟨.memberQuit, p⟩ => [("member", p.member.encode)]
  | ⟨.memberKicked, p⟩ | ⟨.memberUnmuted, p⟩ =>
    [("member", p.member.encode), executorAccount p.executor]
  | ⟨.memberCardChange, p⟩ =>
    [("original", .str p.previous), ("current", .str p.current), ("member", p.member.encode),
      executorAccount p.executor]
  | ⟨.memberSpecialTitleChange, p⟩ =>
    [("original", .str p.previous), ("current", .str p.current), ("member", p.member.encode)]
  | ⟨.memberPermissionChange, p⟩ =>
    [("original", p.previous.encode), ("current", p.current.encode), ("member", p.member.encode)]
  | ⟨.memberMuted, p⟩ =>
    [("duration_seconds", .int p.durationSeconds), ("member", p.member.encode),
      executorAccount p.executor]
  | ⟨.newFriendRequest, p⟩ =>
    [("event_id", .int p.eventId), ("from_id", p.fromId.encode), ("group_id", p.groupId.encode),
      ("nick", .str p.nick), ("message", .str p.message)]
  | ⟨.memberJoinRequest, p⟩ | ⟨.botInvitedJoinGroupRequest, p⟩ =>
    [("event_id", .int p.eventId), ("from_id", p.fromId.encode), ("group_id", p.groupId.encode),
      ("group_name", .str p.groupName), ("nick", .str p.nick), ("message", .str p.message)]

def messageAccount (event : Event) : List (String × Json) :=
  match event.message? with
  | some (message, sender, reply) =>
    [("message", message.account), ("sender_id", sender.encode), ("reply", reply.encode)]
  | none => []

def participantAccount (event : Event) : List (String × Json) :=
  if event.hasParticipants then
    [("user", .ofOption UserId.encode event.user?),
      ("in_group", .ofOption GroupId.encode event.group?)]
  else []

def account (event : Event) : Json :=
  .ofMembers (("event", .str event.kind.name) ::
    (event.payloadAccount ++ event.messageAccount ++ event.participantAccount))

def brief (event : Event) : Json :=
  match event.received? with
  | some message =>
    .ofMembers [("event", .str event.kind.name), ("id", message.source.id.encode),
      ("text", .str message.plainText)]
  | none => .ofMembers [("event", .str event.kind.name)]

end Event
end Switchboard
