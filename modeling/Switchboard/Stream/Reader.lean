import Switchboard.Waiter.Error

set_option autoImplicit false

namespace Switchboard

/-- The state of a reader as others see it. -/
inductive StreamState where
  | connecting
  | reading
  | dispatching
  | draining
  | closed
deriving DecidableEq

namespace StreamState

def name : StreamState → String
  | .connecting => "connecting"
  | .reading => "reading"
  | .dispatching => "dispatching"
  | .draining => "draining"
  | .closed => "closed"

def label (state : StreamState) : String := state.name.capitalize

def all : List StreamState := [.connecting, .reading, .dispatching, .draining, .closed]

def ofName? (name : String) : Option StreamState := all.find? fun state => state.name = name

end StreamState

abbrev StreamResult := Except StreamError Unit

/-- Where a run of a reader (`StreamReader`) stands. A run connects, reads frame after frame until a
stop, the end of the stream or a failure, then waits for the callbacks that are still running, and
is closed. -/
inductive ReaderPhase where
  | starting
  | connecting
  | reading
  /-- Reading is over, with this outcome; callbacks may still be running. -/
  | draining (outcome : Except TransportError Unit)
  | closed

/-- What a reader meets. -/
inductive ReaderSignal where
  | begun
  | stopRequested
  | connected
  | refused (error : TransportError)
  | frame (text : String)
  | ended
  | failed (error : TransportError)
  /-- No callback of this run is running any more. -/
  | drained
deriving DecidableEq

/-- What a reader does, in the order of doing. -/
inductive ReaderAction where
  | reopenQueue
  | closeQueue (reason : WaitError)
  | publish (state : StreamState)
  | dispatch (frame : String)
  | closeStream
  | finish (result : StreamResult)

namespace ReaderPhase

/-- The reason for closing the queue when reading ended with an outcome. -/
def reason : Except TransportError Unit → WaitError
  | .ok _ => .streamClosed
  | .error error => .streamFailed error

def leave (outcome : Except TransportError Unit) : ReaderPhase × List ReaderAction :=
  (.draining outcome, [.publish .draining, .closeQueue (reason outcome)])

/-- What a reader does at a signal, and where it stands afterwards. A signal that does not belong to
the phase changes nothing. -/
def react : ReaderPhase → ReaderSignal → ReaderPhase × List ReaderAction
  | .starting, .begun => (.connecting, [.reopenQueue])
  | .connecting, .stopRequested =>
    (.closed, [.closeQueue .streamClosed, .publish .closed, .finish (.ok ())])
  | .connecting, .refused error =>
    (.closed, [.closeQueue (.streamFailed error), .publish .closed,
      .finish (.error (.transport error))])
  | .connecting, .connected => (.reading, [.publish .reading])
  | .reading, .frame text =>
    (.reading, [.publish .dispatching, .dispatch text, .publish .reading])
  | .reading, .stopRequested => leave (.ok ())
  | .reading, .ended => leave (.ok ())
  | .reading, .failed error => leave (.error error)
  | .draining outcome, .drained =>
    (.closed, [.closeStream, .publish .closed, .finish (outcome.mapError .transport)])
  | phase, _ => (phase, [])

end ReaderPhase

/-- What a reader can see when it looks. -/
structure ReaderView where
  stopRequested : Bool
  /-- The outcome of connecting, once there is one. -/
  connection : Option (Except TransportError Unit)
  /-- The next signal of the stream, once there is one. -/
  next : Option ReaderSignal
  /-- The callbacks of this run that have not finished. -/
  inFlight : Nat

/-- The signal that a reader takes up, if there is any: a requested stop before anything else. -/
def ReaderPhase.listen (view : ReaderView) : ReaderPhase → Option ReaderSignal
  | .starting => some .begun
  | .connecting =>
    if view.stopRequested then some .stopRequested
    else
      match view.connection with
      | none => none
      | some (.ok _) => some .connected
      | some (.error error) => some (.refused error)
  | .reading => if view.stopRequested then some .stopRequested else view.next
  | .draining _ => if view.inFlight = 0 then some .drained else none
  | .closed => none

end Switchboard
