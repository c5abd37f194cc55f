import Switchboard.Event.Basic
import Switchboard.Json.Reader

set_option autoImplicit false

namespace Switchboard

/-- Why a frame is no event. -/
inductive DecodeError where
  /-- The frame is no JSON text. -/
  | syntaxError
  /-- The object does not have the fields of the event that it names. -/
  | misfit (fault : Shape.Fault)
  | missingType
  | unknownType (name : String)
deriving DecidableEq

def DecodeError.message : DecodeError → String
  | .syntaxError => "malformed event payload: <json syntax>"
  | .misfit fault => "malformed event payload: " ++ fault.message
  | .missingType => "event payload has no \x60type\x60 discriminant"
  | .unknownType name => "unknown event type '" ++ name ++ "'"

namespace Event

open Shape (Fields)
open Shape.Fields (required defaulted optional)

def friendMessageFields : Fields FriendMessage :=
  FriendMessage.mk <$> required "messageChain" ReceivedMessage.decode <*>
    required "sender" Friend.decode

def memberMessageFields : Fields MemberMessage :=
  MemberMessage.mk <$> required "messageChain" ReceivedMessage.decode <*>
    required "sender" Member.decode

def botOnlineFields (kind : OnlineKind) : Fields BotOnline :=
  BotOnline.mk kind <$> required "qq" UserId.decode

def botOfflineFields (kind : OfflineKind) : Fields BotOffline :=
  BotOffline.mk kind <$> required "qq" UserId.decode

def botPermissionFields : Fields BotPermissionChange :=
  BotPermissionChange.mk <$> required "origin" Permission.decode <*>
    required "current" Permission.decode <*> required "group" Group.decode

def botMutedFields : Fields BotMuted :=
  BotMuted.mk <$> required "durationSeconds" Shape.int64 <*> required "operator" Member.decode

def botUnmutedFields : Fields BotUnmuted :=
  BotUnmuted.mk <$> required "operator" Member.decode

def groupNoticeFields : Fields GroupNotice :=
  GroupNotice.mk <$> required "group" Group.decode

def groupRecallFields : Fields GroupRecall :=
  GroupRecall.mk <$> required "authorId" UserId.decode <*> required "messageId" MessageId.decode <*>
    required "time" Shape.int64 <*> required "group" Group.decode <*>
    optional "operator" Member.decode

def friendRecallFields : Fields FriendRecall :=
  FriendRecall.mk <$> required "authorId" UserId.decode <*>
    required "messageId" MessageId.decode <*> required "time" Shape.int64 <*>
    required "operator" UserId.decode

def groupTextFields : Fields GroupTextChange :=
  GroupTextChange.mk <$> required "origin" Shape.text <*> required "current" Shape.text <*>
    required "group" Group.decode <*> optional "operator" Member.decode

def settingFields (setting : GroupSetting) : Fields GroupSettingChange :=
  GroupSettingChange.mk setting <$> required "origin" Shape.bool <*>
    required "current" Shape.bool <*> required "group" Group.decode <*>
    optional "operator" Member.decode

def memberNoticeFields : Fields MemberNotice :=
  MemberNotice.mk <$> required "member" Member.decode

def memberActionFields : Fields MemberAction :=
  MemberAction.mk <$> required "member" Member.decode <*> optional "operator" Member.decode

def memberCardFields : Fields MemberCardChange :=
  MemberCardChange.mk <$> required "origin" Shape.text <*> required "current" Shape.text <*>
    required "member" Member.decode <*> optional "operator" Member.decode

def memberTitleFields : Fields MemberTitleChange :=
  MemberTitleChange.mk <$> required "origin" Shape.text <*> required "current" Shape.text <*>
    required "member" Member.decode

def memberPermissionFields : Fields MemberPermissionChange :=
  MemberPermissionChange.mk <$> required "origin" Permission.decode <*>
    required "current" Permission.decode <*> required "member" Member.decode

def memberMutedFields : Fields MemberMuted :=
  MemberMuted.mk <$> required "durationSeconds" Shape.int64 <*> required "member" Member.decode <*>
    optional "operator" Member.decode

def friendRequestFields : Fields FriendRequest :=
  FriendRequest.mk <$> required "eventId" Shape.int64 <*> required "fromId" UserId.decode <*>
    defaulted "groupId" ⟨0⟩ GroupId.decode <*> defaulted "nick" "" Shape.text <*>
    defaulted "message" "" Shape.text

def groupRequestFields : Fields GroupRequest :=
  GroupRequest.mk <$> required "eventId" Shape.int64 <*> required "fromId" UserId.decode <*>
    required "groupId" GroupId.decode <*> defaulted "groupName" "" Shape.text <*>
    defaulted "nick" "" Shape.text <*> defaulted "message" "" Shape.text

def fields? : String → Option (Fields Event)
  | "FriendMessage" => some (Event.mk .friendMessage <$> friendMessageFields)
  | "GroupMessage" => some (Event.mk .groupMessage <$> memberMessageFields)
  | "TempMessage" => some (Event.mk .tempMessage <$> memberMessageFields)
  | "BotOnlineEvent" => some (Event.mk .botOnline <$> botOnlineFields .login)
  | "BotReloginEvent" => some (Event.mk .botOnline <$> botOnlineFields .relogin)
  | "BotOfflineEventActive" => some (Event.mk .botOffline <$> botOfflineFields .active)
  | "BotOfflineEventForce" => some (Event.mk .botOffline <$> botOfflineFields .forced)
  | "BotOfflineEventDropped" => some (Event.mk .botOffline <$> botOfflineFields .dropped)
  | "BotGroupPermissionChangeEvent" =>
    some (Event.mk .botGroupPermissionChange <$> botPermissionFields)
  | "BotMuteEvent" => some (Event.mk .botMuted <$> botMutedFields)
  | "BotUnmuteEvent" => some (Event.mk .botUnmuted <$> botUnmutedFields)
  | "BotJoinGroupEvent" => some (Event.mk .botJoinGroup <$> groupNoticeFields)
  | "BotLeaveEventActive" => some (Event.mk .botQuit <$> groupNoticeFields)
  | "BotLeaveEventKick" => some (Event.mk .botKicked <$> groupNoticeFields)
  | "GroupRecallEvent" => some (Event.mk .groupRecall <$> groupRecallFields)
  | "FriendRecallEvent" => some (Event.mk .friendRecall <$> friendRecallFields)
  | "GroupNameChangeEvent" => some (Event.mk .groupNameChange <$> groupTextFields)
  | "GroupEntranceAnnouncementChangeEvent" =>
    some (Event.mk .groupEntranceAnnouncementChange <$> groupTextFields)
  | "GroupMuteAllEvent" => some (Event.mk .groupSettingChange <$> settingFields .muteAll)
  | "GroupAllowAnonymousChatEvent" =>
    some (Event.mk .groupSettingChange <$> settingFields .anonymousChat)
  | "GroupAllowConfessTalkEvent" =>
    some (Event.mk .groupSettingChange <$> settingFields .confessTalk)
  | "GroupAllowMemberInviteEvent" =>
    some (Event.mk .groupSettingChange <$> settingFields .memberInvite)
  | "MemberJoinEvent" => some (Event.mk .memberJoin <$> memberNoticeFields)
  | "MemberLeaveEventKick" => some (Event.mk .memberKicked <$> memberActionFields)
  | "MemberLeaveEventQuit" => some (Event.mk .memberQuit <$> memberNoticeFields)
  | "MemberCardChangeEvent" => some (Event.mk .memberCardChange <$> memberCardFields)
  | "MemberSpecialTitleChangeEvent" =>
    some (Event.mk .memberSpecialTitleChange <$> memberTitleFields)
  | "MemberPermissionChangeEvent" =>
    some (Event.mk .memberPermissionChange <$> memberPermissionFields)
  | "MemberMuteEvent" => some (Event.mk .memberMuted <$> memberMutedFields)
  | "MemberUnmuteEvent" => some (Event.mk .memberUnmuted <$> memberActionFields)
  | "NewFriendRequestEvent" => some (Event.mk .newFriendRequest <$> friendRequestFields)
  | "MemberJoinRequestEvent" => some (Event.mk .memberJoinRequest <$> groupRequestFields)
  | "BotInvitedJoinGroupRequestEvent" =>
    some (Event.mk .botInvitedJoinGroupRequest <$> groupRequestFields)
  | _ => none

def ofJson (value : Json) : Except DecodeError Event :=
  match value.member? "type" with
  | some (.str name) =>
    match fields? name with
    | some fields => (Shape.recordOfMembers fields value.member?).mapError .misfit
    | none => .error (.unknownType name)
  | _ => .error .missingType

def decode (frame : String) : Except DecodeError Event :=
  match Json.parse? frame with
  | some value => ofJson value
  | none => .error .syntaxError

end Event
end Switchboard
