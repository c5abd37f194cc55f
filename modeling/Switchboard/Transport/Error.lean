
set_option autoImplicit false

namespace Switchboard

/-- A failure of the transport. -/
inductive TransportError where
  | connectionFailed (url reason : String)
  | connectionClosed (reason : String)
  | httpStatus (status : Nat) (url : String)
  | invalidBody (reason : String)
  /-- This half of the transport is not part of the program. -/
  | notAvailable (transport : String)
  | invalidConfig (reason : String)
  | io (reason : String)
deriving DecidableEq, Inhabited

namespace TransportError

def message : TransportError → String
  | .connectionFailed url reason => "connection failed: " ++ url ++ " - " ++ reason
  | .connectionClosed reason => "connection closed: " ++ reason
  | .httpStatus status url => "HTTP " ++ toString status ++ " from " ++ url
  | .invalidBody reason => "invalid response body: " ++ reason
  | .notAvailable transport => "transport '" ++ transport ++ "' not available"
  | .invalidConfig reason => "invalid transport configuration: " ++ reason
  | .io reason => "I/O error: " ++ reason

end TransportError
end Switchboard
