import Switchboard.Duration
import Switchboard.Transport.Error

set_option autoImplicit false

namespace Switchboard

/-- Where the server listens. -/
structure Endpoint where
  host : String
  port : Nat
  useTls : Bool
  requestTimeout : Duration
deriving DecidableEq

namespace Endpoint

def default : Endpoint := ⟨"127.0.0.1", 8080, false, .ofSeconds 30⟩

instance : Inhabited Endpoint := ⟨default⟩

def ofHost (host : String) (port : Nat) : Endpoint := { default with host := host, port := port }

def fields : Shape.Fields Endpoint :=
  Endpoint.mk <$> .defaulted "host" default.host Shape.text <*>
    .defaulted "port" default.port Shape.nat16 <*>
    .defaulted "use_tls" default.useTls Shape.bool <*>
    .defaulted "request_timeout" default.requestTimeout Duration.decode

def decode (medium : Shape.Medium) : Shape.Decoder Endpoint :=
  Shape.record medium "struct EndpointConfig" fields

def encode (endpoint : Endpoint) : Json :=
  .ofMembers [("host", .str endpoint.host), ("port", .int endpoint.port),
    ("use_tls", .bool endpoint.useTls), ("request_timeout", endpoint.requestTimeout.encode)]

def address (endpoint : Endpoint) (scheme : String) : String :=
  scheme ++ "://" ++ endpoint.host ++ ":" ++ toString endpoint.port

def httpBase (endpoint : Endpoint) : String :=
  endpoint.address (if endpoint.useTls then "https" else "http")

def streamBase (endpoint : Endpoint) : String :=
  endpoint.address (if endpoint.useTls then "wss" else "ws")

def hasBlankHost (endpoint : Endpoint) : Bool := Text.isAllBlank endpoint.host

end Endpoint

/-- A client of the server. Neither half of its transport is part of this program. -/
structure Client where
  endpoint : Endpoint

namespace Client

def connect (endpoint : Endpoint) : Except TransportError Client :=
  if endpoint.hasBlankHost then .error (.invalidConfig "host must not be empty")
  else .ok ⟨endpoint⟩

def requestError : TransportError := .notAvailable "http-client"

def streamError : TransportError := .notAvailable "ws-client"

end Client
end Switchboard
