import Switchboard.Contact.Basic

set_option autoImplicit false

namespace Switchboard

/-- Settings of a session. -/
structure SessionConfig where
  cacheSize : Option Int
  enableWebsocket : Option Bool
deriving DecidableEq

namespace SessionConfig

def fields : Shape.Fields SessionConfig :=
  SessionConfig.mk <$> .implied "cacheSize" Shape.int32 <*> .implied "enableWebsocket" Shape.bool

def decode : Shape.Decoder SessionConfig := Shape.record .document "struct SessionConfig" fields

def encode (config : SessionConfig) : Json :=
  .ofPresent [("cacheSize", config.cacheSize.map .int),
    ("enableWebsocket", config.enableWebsocket.map .bool)]

end SessionConfig

/-- Settings of a group. -/
structure GroupConfig where
  name : Option String
  announcement : Option String
  confessTalk : Option Bool
  allowMemberInvite : Option Bool
  autoApprove : Option Bool
  anonymousChat : Option Bool
deriving DecidableEq

namespace GroupConfig

def fields : Shape.Fields GroupConfig :=
  GroupConfig.mk <$> .implied "name" Shape.text <*> .implied "announcement" Shape.text <*>
    .implied "confessTalk" Shape.bool <*> .implied "allowMemberInvite" Shape.bool <*>
    .implied "autoApprove" Shape.bool <*> .implied "anonymousChat" Shape.bool

def decode : Shape.Decoder GroupConfig := Shape.record .document "struct GroupConfig" fields

def encode (config : GroupConfig) : Json :=
  .ofPresent [("name", config.name.map .str), ("announcement", config.announcement.map .str),
    ("confessTalk", config.confessTalk.map .bool),
    ("allowMemberInvite", config.allowMemberInvite.map .bool),
    ("autoApprove", config.autoApprove.map .bool),
    ("anonymousChat", config.anonymousChat.map .bool)]

end GroupConfig

/-- The profile of a member in a group. -/
structure MemberInfo where
  name : Option String
  specialTitle : Option String
deriving DecidableEq

namespace MemberInfo

def fields : Shape.Fields MemberInfo :=
  MemberInfo.mk <$> .implied "name" Shape.text <*> .implied "specialTitle" Shape.text

def decode : Shape.Decoder MemberInfo := Shape.record .document "struct MemberInfo" fields

def encode (info : MemberInfo) : Json :=
  .ofPresent [("name", info.name.map .str), ("specialTitle", info.specialTitle.map .str)]

end MemberInfo

end Switchboard
