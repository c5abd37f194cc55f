import Switchboard.Config.Basic
import Switchboard.Decimal.Style
import Switchboard.Text.Parts

set_option autoImplicit false

namespace Switchboard

/-- What is wrong with the policy of reconnecting. -/
inductive BackoffFault where
  /-- The growth factor is no number or not above zero. -/
  | multiplier (value : Float)
  | maxBelowInitial
deriving DecidableEq

def BackoffFault.message : BackoffFault → String
  | .multiplier value => "multiplier must be greater than 0, got " ++ Decimal.plain.render value
  | .maxBelowInitial => "max_delay is shorter than initial_delay"

/-- Why there is no configuration. -/
inductive ConfigError where
  | fileNotFound (path : String)
  | unsupportedFormat (path : String)
  /-- A file is not in its format. -/
  | unreadable
  /-- The merged layers do not have the shape of a configuration. -/
  | misfit (fault : Shape.Fault)
  | zeroTimeout
  | missingField (field : String)
  | invalidHost (host : String)
  | invalidPort (port : Nat)
  | invalidBackoff (fault : BackoffFault)
deriving DecidableEq

namespace ConfigError

def message : ConfigError → String
  | .fileNotFound path => "Configuration file not found: " ++ path
  | .unsupportedFormat path => "Unsupported configuration format: " ++ path
  | .unreadable => "Failed to parse configuration"
  | .misfit fault => "Failed to parse configuration: " ++ fault.message
  | .zeroTimeout => "Invalid configuration: Request timeout must be greater than 0"
  | .missingField field => "Missing required configuration field: " ++ field
  | .invalidHost host => "Invalid mirai-api-http host \x60" ++ host ++ "\x60: expected a host name"
  | .invalidPort port => "Invalid mirai-api-http port: " ++ toString port
  | .invalidBackoff fault => "Invalid reconnect backoff: " ++ fault.message

end ConfigError

/-- A host that can be connected to by name, a port, and time for an answer. -/
def Endpoint.check (endpoint : Endpoint) : Except ConfigError Unit :=
  if endpoint.hasBlankHost then .error (.missingField "connection.host")
  else if Text.occursIn "://".toList endpoint.host.toList then .error (.invalidHost endpoint.host)
  else if endpoint.port = 0 then .error (.invalidPort endpoint.port)
  else if endpoint.requestTimeout.nanos = 0 then .error .zeroTimeout
  else .ok ()

/-- A growth factor above zero, and a limit that is not below the first delay. -/
def Retry.check (retry : Retry) : Except ConfigError Unit :=
  if retry.multiplier.isNaN || retry.multiplier ≤ 0 then
    .error (.invalidBackoff (.multiplier retry.multiplier))
  else if retry.maxDelay.nanos < retry.initialDelay.nanos then
    .error (.invalidBackoff .maxBelowInitial)
  else .ok ()

def LoggingConfig.check (config : LoggingConfig) : Except ConfigError Unit :=
  if config.output = .file && config.filePath.isNone then
    .error (.missingField "logging.file_path")
  else .ok ()

def Config.check (config : Config) : Except ConfigError Unit := do
  config.connection.check
  config.stream.retry.check
  config.logging.check

end Switchboard
