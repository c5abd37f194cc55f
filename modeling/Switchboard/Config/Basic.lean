import Switchboard.Config.Logging
import Switchboard.Contact.Settings
import Switchboard.Transport.Endpoint
import Switchboard.Transport.Retry

set_option autoImplicit false

namespace Switchboard

/-- The account and the settings of its session. -/
structure SessionSettings where
  authKey : String
  botId : UserId
  cacheSize : Option Int
  enableWebsocket : Option Bool
deriving DecidableEq

namespace SessionSettings

def default : SessionSettings := ⟨"", ⟨0⟩, none, none⟩

def fields : Shape.Fields SessionSettings :=
  SessionSettings.mk <$> .defaulted "auth_key" default.authKey Shape.text <*>
    .defaulted "bot_id" default.botId UserId.decode <*>
    .optional "cache_size" Shape.int32 <*> .optional "enable_websocket" Shape.bool

def decode (medium : Shape.Medium) : Shape.Decoder SessionSettings :=
  Shape.record medium "struct SessionSettings" fields

def encode (settings : SessionSettings) : Json :=
  .ofPresent [("auth_key", some (.str settings.authKey)), ("bot_id", some settings.botId.encode),
    ("cache_size", settings.cacheSize.map .int),
    ("enable_websocket", settings.enableWebsocket.map .bool)]

/-- What is to be set once the session is open, if anything is. -/
def sessionConfig? (settings : SessionSettings) : Option SessionConfig :=
  if settings.cacheSize.isNone && settings.enableWebsocket.isNone then none
  else some ⟨settings.cacheSize, settings.enableWebsocket⟩

end SessionSettings

/-- How the event stream is kept up. -/
structure StreamSettings where
  autoReconnect : Bool
  retry : Retry
deriving DecidableEq

namespace StreamSettings

def default : StreamSettings := ⟨true, .default⟩

def fields (medium : Shape.Medium) : Shape.Fields StreamSettings :=
  StreamSettings.mk <$> .defaulted "auto_reconnect" default.autoReconnect Shape.bool <*>
    .defaulted "retry" default.retry (Retry.decode medium)

def decode (medium : Shape.Medium) : Shape.Decoder StreamSettings :=
  Shape.record medium "struct StreamSettings" (fields medium)

def encode (settings : StreamSettings) : Json :=
  .ofMembers [("auto_reconnect", .bool settings.autoReconnect), ("retry", settings.retry.encode)]

end StreamSettings

/-- The configuration of a bot. -/
structure Config where
  connection : Endpoint
  session : SessionSettings
  stream : StreamSettings
  logging : LoggingConfig
deriving DecidableEq

namespace Config

def default : Config := ⟨.default, .default, .default, .default⟩

instance : Inhabited Config := ⟨default⟩

def fields (medium : Shape.Medium) : Shape.Fields Config :=
  Config.mk <$> .defaulted "connection" default.connection (Endpoint.decode medium) <*>
    .defaulted "session" default.session (SessionSettings.decode medium) <*>
    .defaulted "stream" default.stream (StreamSettings.decode medium) <*>
    .defaulted "logging" default.logging (LoggingConfig.decode medium)

def decode (medium : Shape.Medium) : Shape.Decoder Config :=
  Shape.record medium "struct MiraiConfig" (fields medium)

def encode (config : Config) : Json :=
  .ofMembers [("connection", config.connection.encode), ("session", config.session.encode),
    ("stream", config.stream.encode), ("logging", config.logging.encode)]

end Config
end Switchboard
