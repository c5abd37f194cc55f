import Switchboard.Shape.Record

set_option autoImplicit false

namespace Switchboard

/-- The number of an account. -/
structure UserId where
  number : Int
deriving DecidableEq, Inhabited

/-- The number of a group. -/
structure GroupId where
  number : Int
deriving DecidableEq, Inhabited

/-- The number of a message, by which it is quoted and recalled. -/
structure MessageId where
  number : Int
deriving DecidableEq, Inhabited

/-- A member of a group in a temporary chat. -/
structure TempId where
  user : UserId
  group : GroupId
deriving DecidableEq

namespace UserId

def decode : Shape.Decoder UserId := fun value => UserId.mk <$> Shape.int64 value

def encode (id : UserId) : Json := .int id.number

end UserId

namespace GroupId

def decode : Shape.Decoder GroupId := fun value => GroupId.mk <$> Shape.int64 value

def encode (id : GroupId) : Json := .int id.number

end GroupId

namespace MessageId

def decode : Shape.Decoder MessageId := fun value => MessageId.mk <$> Shape.int64 value

def encode (id : MessageId) : Json := .int id.number

end MessageId

/-- The role of an account in a group. -/
inductive Permission where
  | member
  | administrator
  | owner
deriving DecidableEq

namespace Permission

def names : List (String × Permission) :=
  [("MEMBER", .member), ("ADMINISTRATOR", .administrator), ("OWNER", .owner)]

def name : Permission → String
  | .member => "MEMBER"
  | .administrator => "ADMINISTRATOR"
  | .owner => "OWNER"

def decode : Shape.Decoder Permission := Shape.choice .document names

def encode (permission : Permission) : Json := .str permission.name

end Permission

/-- A friend of the bot. -/
structure Friend where
  id : UserId
  nickname : String
  remark : String
deriving DecidableEq

namespace Friend

def fields : Shape.Fields Friend :=
  Friend.mk <$> .required "id" UserId.decode <*> .defaulted "nickname" "" Shape.text <*>
    .defaulted "remark" "" Shape.text

def decode : Shape.Decoder Friend := Shape.record .document "struct Friend" fields

def encode (friend : Friend) : Json :=
  .ofMembers [("id", friend.id.encode), ("nickname", .str friend.nickname),
    ("remark", .str friend.remark)]

end Friend

/-- A group, with the role of the bot in it. -/
structure Group where
  id : GroupId
  name : String
  permission : Permission
deriving DecidableEq

namespace Group

def fields : Shape.Fields Group :=
  Group.mk <$> .required "id" GroupId.decode <*> .defaulted "name" "" Shape.text <*>
    .required "permission" Permission.decode

def decode : Shape.Decoder Group := Shape.record .document "struct Group" fields

def encode (group : Group) : Json :=
  .ofMembers [("id", group.id.encode), ("name", .str group.name),
    ("permission", group.permission.encode)]

end Group

/-- A member of a group. -/
structure Member where
  id : UserId
  name : String
  permission : Permission
  group : Group
deriving DecidableEq

namespace Member

def fields : Shape.Fields Member :=
  Member.mk <$> .required "id" UserId.decode <*> .defaulted "memberName" "" Shape.text <*>
    .required "permission" Permission.decode <*> .required "group" Group.decode

def decode : Shape.Decoder Member := Shape.record .document "struct Member" fields

def encode (member : Member) : Json :=
  .ofMembers [("id", member.id.encode), ("memberName", .str member.name),
    ("permission", member.permission.encode), ("group", member.group.encode)]

def tempId (member : Member) : TempId := ⟨member.id, member.group.id⟩

end Member

/-- Where an answer goes. -/
inductive ReplyTarget where
  | friend (user : UserId)
  | group (group : GroupId)
  | temp (member : TempId)
deriving DecidableEq

def ReplyTarget.encode : ReplyTarget → Json
  | .friend id => .ofMembers [("friend", id.encode)]
  | .group id => .ofMembers [("group", id.encode)]
  | .temp id => .ofMembers [("temp", .array [id.user.encode, id.group.encode])]

end Switchboard
