import Switchboard.Event.Wire
import Switchboard.Waiter.Claim

set_option autoImplicit false

namespace Switchboard

/-- A failure that is reported and does not end the reader. -/
inductive DispatchError where
  | undecodable (error : DecodeError)
  /-- A callback returned an error. -/
  | callbackFailed (kind : EventKind) (reason : String)
  /-- A callback crashed. -/
  | callbackCrashed (kind : EventKind) (reason : String)
deriving DecidableEq

def DispatchError.message : DispatchError → String
  | .undecodable error => "skipped undecodable frame: " ++ error.message
  | .callbackFailed kind reason => "callback for " ++ kind.name ++ " failed: " ++ reason
  | .callbackCrashed kind reason => "callback for " ++ kind.name ++ " panicked: " ++ reason

/-- What became of a frame. -/
inductive Dispatch where
  | skipped (error : DecodeError)
  /-- The event was offered to the waiters; without a winner it goes to the callback. -/
  | offered (event : Event) (claim : Claim)

/-- Decodes a frame and offers its event to the waiters. -/
def Queue.dispatch (queue : Queue) (holder : String → Option WaiterId) (frame : String) :
    Dispatch :=
  match Event.decode frame with
  | .error error => .skipped error
  | .ok event => .offered event (queue.claim holder event)

/-- What a reader does after a callback returned. -/
inductive Flow where
  | proceed
  | stop
deriving DecidableEq

def Flow.name : Flow → String
  | .proceed => "continue"
  | .stop => "stop"

/-- How a callback ended. -/
inductive CallbackEnd where
  | returned (flow : Flow)
  | failed (reason : String)
  | crashed (reason : String)
  /-- The call itself crashed, before there was anything to run. Nobody is told. -/
  | vanished
deriving DecidableEq

def CallbackEnd.fault (kind : EventKind) : CallbackEnd → Option DispatchError
  | .returned _ => none
  | .failed reason => some (.callbackFailed kind reason)
  | .crashed reason => some (.callbackCrashed kind reason)
  | .vanished => none

/-- Does the end of a callback request a stop of its reader? -/
def CallbackEnd.stops : CallbackEnd → Bool
  | .returned .stop => true
  | _ => false

end Switchboard
