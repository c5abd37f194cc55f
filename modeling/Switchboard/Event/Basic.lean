import Switchboard.Message.Basic

set_option autoImplicit false

namespace Switchboard

/-- The kinds of events. -/
inductive EventKind where
  | friendMessage
  | groupMessage
  | tempMessage
  | botOnline
  | botOffline
  | botGroupPermissionChange
  | botMuted
  | botUnmuted
  | botJoinGroup
  | botQuit
  | botKicked
  | groupRecall
  | friendRecall
  | groupNameChange
  | groupEntranceAnnouncementChange
  | groupSettingChange
  | memberJoin
  | memberKicked
  | memberQuit
  | memberCardChange
  | memberSpecialTitleChange
  | memberPermissionChange
  | memberMuted
  | memberUnmuted
  | newFriendRequest
  | memberJoinRequest
  | botInvitedJoinGroupRequest
deriving DecidableEq

namespace EventKind

def name : EventKind → String
  | .friendMessage => "FriendMessage"
  | .groupMessage => "GroupMessage"
  | .tempMessage => "TempMessage"
  | .botOnline => "BotOnline"
  | .botOffline => "BotOffline"
  | .botGroupPermissionChange => "BotGroupPermissionChange"
  | .botMuted => "BotMuted"
  | .botUnmuted => "BotUnmuted"
  | .botJoinGroup => "BotJoinGroup"
  | .botQuit => "BotQuit"
  | .botKicked => "BotKicked"
  | .groupRecall => "GroupRecall"
  | .friendRecall => "FriendRecall"
  | .groupNameChange => "GroupNameChange"
  | .groupEntranceAnnouncementChange => "GroupEntranceAnnouncementChange"
  | .groupSettingChange => "GroupSettingChange"
  | .memberJoin => "MemberJoin"
  | .memberKicked => "MemberKicked"
  | .memberQuit => "MemberQuit"
  | .memberCardChange => "MemberCardChange"
  | .memberSpecialTitleChange => "MemberSpecialTitleChange"
  | .memberPermissionChange => "MemberPermissionChange"
  | .memberMuted => "MemberMuted"
  | .memberUnmuted => "MemberUnmuted"
  | .newFriendRequest => "NewFriendRequest"
  | .memberJoinRequest => "MemberJoinRequest"
  | .botInvitedJoinGroupRequest => "BotInvitedJoinGroupRequest"

def all : List EventKind :=
  [.friendMessage, .groupMessage, .tempMessage, .botOnline, .botOffline,
    .botGroupPermissionChange, .botMuted, .botUnmuted, .botJoinGroup, .botQuit, .botKicked,
    .groupRecall, .friendRecall, .groupNameChange, .groupEntranceAnnouncementChange,
    .groupSettingChange, .memberJoin, .memberKicked, .memberQuit, .memberCardChange,
    .memberSpecialTitleChange, .memberPermissionChange, .memberMuted, .memberUnmuted,
    .newFriendRequest, .memberJoinRequest, .botInvitedJoinGroupRequest]

def ofName? (name : String) : Option EventKind :=
  all.find? fun kind => kind.name = name

end EventKind

/-- A message of a friend. -/
structure FriendMessage where
  message : ReceivedMessage
  sender : Friend

/-- A message of a member, in the group or in a temporary chat. -/
structure MemberMessage where
  message : ReceivedMessage
  sender : Member

/-- How the bot came online. -/
inductive OnlineKind where
  | login
  | relogin
deriving DecidableEq

def OnlineKind.name : OnlineKind → String
  | .login => "Login"
  | .relogin => "Relogin"

/-- The bot came online. -/
structure BotOnline where
  kind : OnlineKind
  botId : UserId
deriving DecidableEq

/-- How the bot went offline: on its own, replaced by another client, or by a lost connection. -/
inductive OfflineKind where
  | active
  | forced
  | dropped
deriving DecidableEq

def OfflineKind.name : OfflineKind → String
  | .active => "Active"
  | .forced => "Forced"
  | .dropped => "Dropped"

/-- The bot went offline. -/
structure BotOffline where
  kind : OfflineKind
  botId : UserId
deriving DecidableEq

/-- The role of the bot in a group changed. -/
structure BotPermissionChange where
  previous : Permission
  current : Permission
  group : Group
deriving DecidableEq

/-- The bot was muted in a group. -/
structure BotMuted where
  durationSeconds : Int
  executor : Member
deriving DecidableEq

/-- The bot was unmuted in a group. -/
structure BotUnmuted where
  executor : Member
deriving DecidableEq

/-- Something happened to the bot in a group. -/
structure GroupNotice where
  group : Group
deriving DecidableEq

/-- A message in a group was recalled; without an executor, by the bot. -/
structure GroupRecall where
  senderId : UserId
  messageId : MessageId
  time : Int
  group : Group
  executor : Option Member
deriving DecidableEq

/-- A friend recalled a message. -/
structure FriendRecall where
  senderId : UserId
  messageId : MessageId
  time : Int
  executorId : UserId
deriving DecidableEq

/-- A text of a group changed: its name or its announcement. -/
structure GroupTextChange where
  previous : String
  current : String
  group : Group
  executor : Option Member
deriving DecidableEq

/-- The switches of a group. -/
inductive GroupSetting where
  | muteAll
  | anonymousChat
  | confessTalk
  | memberInvite
deriving DecidableEq

def GroupSetting.name : GroupSetting → String
  | .muteAll => "MuteAll"
  | .anonymousChat => "AnonymousChat"
  | .confessTalk => "ConfessTalk"
  | .memberInvite => "MemberInvite"

/-- A switch of a group changed. -/
structure GroupSettingChange where
  setting : GroupSetting
  previous : Bool
  current : Bool
  group : Group
  executor : Option Member
deriving DecidableEq

/-- A member came or went. -/
structure MemberNotice where
  member : Member
deriving DecidableEq

/-- Someone did something to a member. -/
structure MemberAction where
  member : Member
  executor : Option Member
deriving DecidableEq

/-- The card of a member changed. -/
structure MemberCardChange where
  previous : String
  current : String
  member : Member
  executor : Option Member
deriving DecidableEq

/-- The special title of a member changed. -/
structure MemberTitleChange where
  previous : String
  current : String
  member : Member
deriving DecidableEq

/-- The role of a member changed. -/
structure MemberPermissionChange where
  previous : Permission
  current : Permission
  member : Member
deriving DecidableEq

/-- A member was muted. -/
structure MemberMuted where
  durationSeconds : Int
  member : Member
  executor : Option Member
deriving DecidableEq

/-- Someone asks for friendship, perhaps found through a group. -/
structure FriendRequest where
  eventId : Int
  fromId : UserId
  groupId : GroupId
  nick : String
  message : String
deriving DecidableEq

/-- Someone asks to join a group, or invites the bot into one. -/
structure GroupRequest where
  eventId : Int
  fromId : UserId
  groupId : GroupId
  groupName : String
  nick : String
  message : String
deriving DecidableEq

abbrev Payload : EventKind → Type
  | .friendMessage => FriendMessage
  | .groupMessage => MemberMessage
  | .tempMessage => MemberMessage
  | .botOnline => BotOnline
  | .botOffline => BotOffline
  | .botGroupPermissionChange => BotPermissionChange
  | .botMuted => BotMuted
  | .botUnmuted => BotUnmuted
  | .botJoinGroup => GroupNotice
  | .botQuit => GroupNotice
  | .botKicked => GroupNotice
  | .groupRecall => GroupRecall
  | .friendRecall => FriendRecall
  | .groupNameChange => GroupTextChange
  | .groupEntranceAnnouncementChange => GroupTextChange
  | .groupSettingChange => GroupSettingChange
  | .memberJoin => MemberNotice
  | .memberKicked => MemberAction
  | .memberQuit => MemberNotice
  | .memberCardChange => MemberCardChange
  | .memberSpecialTitleChange => MemberTitleChange
  | .memberPermissionChange => MemberPermissionChange
  | .memberMuted => MemberMuted
  | .memberUnmuted => MemberAction
  | .newFriendRequest => FriendRequest
  | .memberJoinRequest => GroupRequest
  | .botInvitedJoinGroupRequest => GroupRequest

/-- One event of the stream: a kind with a payload of this kind, so that looking for the payload of
a kind cannot succeed on an event of another one. -/
structure Event where
  kind : EventKind
  payload : Payload kind

namespace Event

def isKind (event : Event) (kind : EventKind) : Bool := event.kind = kind

/-- The payload of an event, if it is of the kind. -/
def payload? (event : Event) (kind : EventKind) : Option (Payload kind) :=
  if same : event.kind = kind then some (same ▸ event.payload) else none

/-- The message, the sender and the way back, for the three kinds of messages. -/
def message? : Event → Option (ReceivedMessage × UserId × ReplyTarget)
  | ⟨.friendMessage, p⟩ => some (p.message, p.sender.id, .friend p.sender.id)
  | ⟨.groupMessage, p⟩ => some (p.message, p.sender.id, .group p.sender.group.id)
  | ⟨.tempMessage, p⟩ => some (p.message, p.sender.id, .temp p.sender.tempId)
  | _ => none

def received? (event : Event) : Option ReceivedMessage := event.message?.map (·.1)

def user? : Event → Option UserId
  | ⟨.friendMessage, p⟩ => some p.sender.id
  | ⟨.groupMessage, p⟩ => some p.sender.id
  | ⟨.tempMessage, p⟩ => some p.sender.id
  | ⟨.botMuted, p⟩ => some p.executor.id
  | ⟨.botUnmuted, p⟩ => some p.executor.id
  | ⟨.groupRecall, p⟩ => some p.senderId
  | ⟨.friendRecall, p⟩ => some p.senderId
  | ⟨.memberJoin, p⟩ => some p.member.id
  | ⟨.memberKicked, p⟩ => some p.member.id
  | ⟨.memberQuit, p⟩ => some p.member.id
  | ⟨.memberCardChange, p⟩ => some p.member.id
  | ⟨.memberSpecialTitleChange, p⟩ => some p.member.id
  | ⟨.memberPermissionChange, p⟩ => some p.member.id
  | ⟨.memberMuted, p⟩ => some p.member.id
  | ⟨.memberUnmuted, p⟩ => some p.member.id
  | ⟨.newFriendRequest, p⟩ => some p.fromId
  | ⟨.memberJoinRequest, p⟩ => some p.fromId
  | ⟨.botInvitedJoinGroupRequest, p⟩ => some p.fromId
  | _ => none

def group? : Event → Option GroupId
  | ⟨.groupMessage, p⟩ => some p.sender.group.id
  | ⟨.tempMessage, p⟩ => some p.sender.group.id
  | ⟨.botGroupPermissionChange, p⟩ => some p.group.id
  | ⟨.botMuted, p⟩ => some p.executor.group.id
  | ⟨.botUnmuted, p⟩ => some p.executor.group.id
  | ⟨.botJoinGroup, p⟩ => some p.group.id
  | ⟨.botQuit, p⟩ => some p.group.id
  | ⟨.botKicked, p⟩ => some p.group.id
  | ⟨.groupRecall, p⟩ => some p.group.id
  | ⟨.groupNameChange, p⟩ => some p.group.id
  | ⟨.groupEntranceAnnouncementChange, p⟩ => some p.group.id
  | ⟨.groupSettingChange, p⟩ => some p.group.id
  | ⟨.memberJoin, p⟩ => some p.member.group.id
  | ⟨.memberKicked, p⟩ => some p.member.group.id
  | ⟨.memberQuit, p⟩ => some p.member.group.id
  | ⟨.memberCardChange, p⟩ => some p.member.group.id
  | ⟨.memberSpecialTitleChange, p⟩ => some p.member.group.id
  | ⟨.memberPermissionChange, p⟩ => some p.member.group.id
  | ⟨.memberMuted, p⟩ => some p.member.group.id
  | ⟨.memberUnmuted, p⟩ => some p.member.group.id
  | ⟨.memberJoinRequest, p⟩ => some p.groupId
  | ⟨.botInvitedJoinGroupRequest, p⟩ => some p.groupId
  | _ => none

/-- Is the event about people or groups at all? The arrival and departure of the bot are not. -/
def hasParticipants (event : Event) : Bool :=
  match event.kind with
  | .botOnline | .botOffline => false
  | _ => true

theorem payload?_self (event : Event) : event.payload? event.kind = some event.payload := by
  simp [payload?]

theorem payload?_isSome (event : Event) (kind : EventKind) :
    (event.payload? kind).isSome = event.isKind kind := by
  by_cases same : event.kind = kind <;> simp [payload?, isKind, same]

end Event
end Switchboard
