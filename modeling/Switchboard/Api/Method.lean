import Switchboard.Api.Management
import Switchboard.Api.Messaging
import Switchboard.Api.Polling

set_option autoImplicit false

namespace Switchboard.Api

/-- A method that needs a session. -/
inductive Method where
  | sendFriendMessage (target : UserId) (message : Message) (quote : Option MessageId)
  | sendGroupMessage (target : GroupId) (message : Message) (quote : Option MessageId)
  | sendTempMessage (target : TempId) (message : Message) (quote : Option MessageId)
  | sendMessage (target : ReplyTarget) (message : Message) (quote : Option MessageId)
  | reply (origin : Origin) (message : Message)
  | quoteReply (origin : Origin) (message : Message)
  | recallMessage (message : MessageId)
  | sendImageMessage (target : ReplyTarget) (urls : List String)
  | uploadImage (target : UploadTarget) (fileName : String) (bytes : List UInt8)
  | uploadImageFile (target : UploadTarget) (path : String)
  | uploadVoice (target : UploadTarget) (fileName : String) (bytes : List UInt8)
  | uploadVoiceFile (target : UploadTarget) (path : String)
  | pollEvents (poll : Poll) (count : Nat)
  | messageFromId (id : MessageId)
  | countMessage
  | listFriends
  | listGroups
  | listMembers (group : GroupId)
  | mute (group : GroupId) (member : UserId) (duration : Duration)
  | unmute (group : GroupId) (member : UserId)
  | muteAll (group : GroupId)
  | unmuteAll (group : GroupId)
  | kick (group : GroupId) (member : UserId) (reason : String)
  | quit (group : GroupId)
  | respondNewFriend (request : FriendRequest) (answer : FriendAnswer) (message : String)
  | respondMemberJoin (request : GroupRequest) (answer : JoinAnswer) (message : String)
  | respondBotInvited (request : GroupRequest) (answer : InvitationAnswer) (message : String)
  | groupConfig (group : GroupId)
  | setGroupConfig (group : GroupId) (config : GroupConfig)
  | memberInfo (group : GroupId) (member : UserId)
  | setMemberInfo (group : GroupId) (member : UserId) (info : MemberInfo)
  | sessionConfig
  | setSessionConfig (config : SessionConfig)

namespace Method

abbrev Result : Method → Type
  | sendFriendMessage .. | sendGroupMessage .. | sendTempMessage .. | sendMessage .. | reply ..
  | quoteReply .. => MessageId
  | sendImageMessage .. => List String
  | uploadImage .. | uploadImageFile .. => ImageRef
  | uploadVoice .. | uploadVoiceFile .. => Segment
  | pollEvents .. => List Event
  | messageFromId .. => Event
  | countMessage => Nat
  | listFriends => List Friend
  | listGroups => List Group
  | listMembers .. => List Member
  | groupConfig .. => GroupConfig
  | memberInfo .. => MemberInfo
  | sessionConfig => SessionConfig
  | recallMessage .. | mute .. | unmute .. | muteAll .. | unmuteAll .. | kick .. | quit ..
  | respondNewFriend .. | respondMemberJoin .. | respondBotInvited .. | setGroupConfig ..
  | setMemberInfo .. | setSessionConfig .. => Unit

def call : (method : Method) → Call method.Result
  | sendFriendMessage target message quote => Api.sendFriendMessage target message quote
  | sendGroupMessage target message quote => Api.sendGroupMessage target message quote
  | sendTempMessage target message quote => Api.sendTempMessage target message quote
  | sendMessage target message quote => Api.sendMessage target message quote
  | reply origin message => Api.reply origin message
  | quoteReply origin message => Api.quoteReply origin message
  | recallMessage message => Api.recallMessage message
  | sendImageMessage target urls => Api.sendImageMessage target urls
  | uploadImage target fileName bytes => Api.uploadImage target fileName bytes
  | uploadImageFile target path => Api.uploadImageFile target path
  | uploadVoice target fileName bytes => Api.uploadVoice target fileName bytes
  | uploadVoiceFile target path => Api.uploadVoiceFile target path
  | pollEvents poll count => Api.pollEvents poll count
  | messageFromId id => Api.messageFromId id
  | countMessage => Api.countMessage
  | listFriends => Api.listFriends
  | listGroups => Api.listGroups
  | listMembers group => Api.listMembers group
  | mute group member duration => Api.mute group member duration
  | unmute group member => Api.unmute group member
  | muteAll group => Api.muteAll group
  | unmuteAll group => Api.unmuteAll group
  | kick group member reason => Api.kick group member reason
  | quit group => Api.quit group
  | respondNewFriend request answer message => Api.respondNewFriend request answer message
  | respondMemberJoin request answer message => Api.respondMemberJoin request answer message
  | respondBotInvited request answer message => Api.respondBotInvited request answer message
  | groupConfig group => Api.groupConfig group
  | setGroupConfig group config => Api.setGroupConfig group config
  | memberInfo group member => Api.memberInfo group member
  | setMemberInfo group member info => Api.setMemberInfo group member info
  | sessionConfig => Api.sessionConfig
  | setSessionConfig config => Api.setSessionConfig config

def file? : Method → Option String
  | uploadImageFile _ path | uploadVoiceFile _ path => some path
  | _ => none

end Method
end Switchboard.Api
