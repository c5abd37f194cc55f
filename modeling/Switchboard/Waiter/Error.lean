import Switchboard.Event.Basic
import Switchboard.Transport.Error

set_option autoImplicit false

namespace Switchboard

/-- Why a wait ended without an event. -/
inductive WaitError where
  /-- The pattern of this wait failed while it looked at an event. -/
  | patternFailed (reason : String)
  | streamFailed (error : TransportError)
  | streamClosed
  /-- The wait was asked again after it had ended. -/
  | closed
  | kindMismatch (expected found : EventKind)
deriving DecidableEq, Inhabited

def WaitError.message : WaitError → String
  | .patternFailed reason => "predicate panicked: " ++ reason
  | .streamFailed error => "event stream failed: " ++ error.message
  | .streamClosed => "event stream closed"
  | .closed => "waiter closed"
  | .kindMismatch expected found => "expected " ++ expected.name ++ " event, got " ++ found.name

/-- How a reader of the stream ended, if not well. -/
inductive StreamError where
  | transport (error : TransportError)
  /-- The reader ended without a result. -/
  | aborted (reason : String)
deriving DecidableEq

/-- The error of a reader that panicked. -/
abbrev StreamError.dropped : StreamError := .aborted "reader task dropped"

def StreamError.message : StreamError → String
  | .transport error => error.message
  | .aborted reason => "stream reader aborted: " ++ reason

end Switchboard
