import Switchboard.Api.Call
import Switchboard.Contact.Answer
import Switchboard.Contact.Settings
import Switchboard.Duration

set_option autoImplicit false

namespace Switchboard.Api

def listFriends : Call (List Friend) := Call.askFor (Shape.list Friend.decode) "/friendList" []

def listGroups : Call (List Group) := Call.askFor (Shape.list Group.decode) "/groupList" []

def listMembers (group : GroupId) : Call (List Member) :=
  Call.askFor (Shape.list Member.decode) "/memberList" [("target", toString group.number)]

/-- Mutes a member for a time, in whole seconds. -/
def mute (group : GroupId) (member : UserId) (duration : Duration) : Call Unit :=
  Call.command "/mute" [("target", group.encode), ("memberId", member.encode),
    ("time", .int duration.seconds)]

def unmute (group : GroupId) (member : UserId) : Call Unit :=
  Call.command "/unmute" [("target", group.encode), ("memberId", member.encode)]

def muteAll (group : GroupId) : Call Unit := Call.command "/muteAll" [("target", group.encode)]

def unmuteAll (group : GroupId) : Call Unit := Call.command "/unmuteAll" [("target", group.encode)]

/-- Removes a member from a group, with a reason that is shown to them. -/
def kick (group : GroupId) (member : UserId) (reason : String) : Call Unit :=
  Call.command "/kick" [("target", group.encode), ("memberId", member.encode), ("msg", .str reason)]

/-- Leaves a group. -/
def quit (group : GroupId) : Call Unit := Call.command "/quit" [("target", group.encode)]

def respond (path : String) (eventId : Int) (user : UserId) (group : GroupId) (code : Int)
    (message : String) : Call Unit :=
  Call.command path [("eventId", .int eventId), ("fromId", user.encode), ("groupId", group.encode),
    ("operate", .int code), ("message", .str message)]

def respondNewFriend (request : FriendRequest) (answer : FriendAnswer) (message : String) :
    Call Unit :=
  respond "/resp/newFriendRequestEvent" request.eventId request.fromId request.groupId answer.code
    message

def respondMemberJoin (request : GroupRequest) (answer : JoinAnswer) (message : String) :
    Call Unit :=
  respond "/resp/memberJoinRequestEvent" request.eventId request.fromId request.groupId answer.code
    message

def respondBotInvited (request : GroupRequest) (answer : InvitationAnswer) (message : String) :
    Call Unit :=
  respond "/resp/botInvitedJoinGroupRequestEvent" request.eventId request.fromId request.groupId
    answer.code message

def groupConfig (group : GroupId) : Call GroupConfig :=
  Call.askFor GroupConfig.decode "/groupConfig" [("target", toString group.number)]

def setGroupConfig (group : GroupId) (config : GroupConfig) : Call Unit :=
  Call.command "/groupConfig" [("target", group.encode), ("config", config.encode)]

def memberInfo (group : GroupId) (member : UserId) : Call MemberInfo :=
  Call.askFor MemberInfo.decode "/memberInfo"
    [("target", toString group.number), ("memberId", toString member.number)]

def setMemberInfo (group : GroupId) (member : UserId) (info : MemberInfo) : Call Unit :=
  Call.command "/memberInfo" [("target", group.encode), ("memberId", member.encode),
    ("info", info.encode)]

def sessionConfig : Call SessionConfig := Call.askFor SessionConfig.decode "/config" []

def setSessionConfig (config : SessionConfig) : Call Unit :=
  Call.command "/config" (config.encode.members?.getD [])

end Switchboard.Api
