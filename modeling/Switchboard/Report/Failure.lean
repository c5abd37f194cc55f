import Switchboard.Api.Error
import Switchboard.Config.Valid
import Switchboard.Event.Wire
import Switchboard.Waiter.Error

set_option autoImplicit false

namespace Switchboard.Report

def failure (kind message : String) : Json :=
  .ofMembers [("error", .str kind), ("message", .str message)]

end Report

open Report (failure)

def TransportError.kind : TransportError → String
  | .connectionFailed _ _ => "ConnectionFailed"
  | .connectionClosed _ => "ConnectionClosed"
  | .httpStatus _ _ => "HttpStatus"
  | .invalidBody _ => "InvalidBody"
  | .notAvailable _ => "NotAvailable"
  | .invalidConfig _ => "InvalidConfig"
  | .io _ => "Io"

def TransportError.report (error : TransportError) : Json := failure error.kind error.message

/-- A misfit, or the panic that cut the reading short. -/
def Shape.Fault.report (fault : Shape.Fault) : Json :=
  match fault.cause with
  | .panicked message => failure "Panic" message
  | _ => failure "Deserialize" fault.message

def DecodeError.kind : DecodeError → String
  | .syntaxError => "Json"
  | .misfit _ => "Json"
  | .missingType => "MissingDiscriminant"
  | .unknownType _ => "UnknownEventType"

def DecodeError.report (error : DecodeError) : Json := failure error.kind error.message

def ApiError.kind : ApiError → String
  | .rejected status => "Status::" ++ status.name
  | .rejectedUnknown _ => "UnknownStatus"
  | .notAuthorized => "NotAuthorized"
  | .alreadyAuthorized => "AlreadyAuthorized"
  | .response _ => "Response"
  | .transport error => "Transport::" ++ error.kind

def ApiError.report (error : ApiError) : Json := failure error.kind error.message

def WaitError.kind : WaitError → String
  | .patternFailed _ => "PredicatePanicked"
  | .streamFailed error => "StreamFailed::" ++ error.kind
  | .streamClosed => "StreamClosed"
  | .closed => "Closed"
  | .kindMismatch _ _ => "TypeMismatch"

def WaitError.report (error : WaitError) : Json := failure error.kind error.message

def StreamError.kind : StreamError → String
  | .transport error => "Transport::" ++ error.kind
  | .aborted _ => "Aborted"

def StreamError.report (error : StreamError) : Json := failure error.kind error.message

namespace Shape.Cause

def kind : Shape.Cause → String
  | .missingField _ => "MissingField"
  | .wrongType _ _ => "InvalidType"
  | .wrongValue _ _ => "InvalidValue"
  | .wrongLength _ _ => "InvalidLength"
  | .unknownVariant _ _ => "UnknownVariant"
  | .noAlternative _ => "Message"
  | .malformed _ => "Message"
  | .panicked _ => "Panic"

end Shape.Cause

namespace Report

/-- A failure to read a configuration: its class and the keys that lead to it. -/
def unparsed (kind : String) (path : List String) : Json :=
  .ofMembers [("error", .str "ParseError"), ("kind", .str kind),
    ("path", .str (".".intercalate path))]

end Report

def ConfigError.report (error : ConfigError) : Json :=
  match error with
  | .fileNotFound _ => failure "FileNotFound" error.message
  | .unsupportedFormat _ => failure "UnsupportedFormat" error.message
  | .unreadable => Report.unparsed "Message" []
  | .misfit fault =>
    match fault.cause with
    | .panicked message => failure "Panic" message
    | cause => Report.unparsed cause.kind fault.path
  | .zeroTimeout => failure "ValidationError" error.message
  | .missingField _ => failure "MissingField" error.message
  | .invalidHost _ => failure "InvalidHost" error.message
  | .invalidPort _ => failure "InvalidPort" error.message
  | .invalidBackoff _ => failure "InvalidBackoff" error.message

namespace Report

def outcome {ε α : Type} (bad : ε → Json) (good : α → Json) : Except ε α → Json
  | .ok value => good value
  | .error error => bad error

/-- The report of an outcome whose success stands under `ok`. -/
def checked {ε α : Type} (bad : ε → Json) (good : α → Json) : Except ε α → Json :=
  outcome bad fun value => .ofMembers [("ok", good value)]

end Switchboard.Report
