import Switchboard.Api.Call
import Switchboard.Transport.Retry

set_option autoImplicit false

namespace Switchboard.Monitor

/-- What follows a round. -/
inductive Next where
  /-- Another round, with so many failures in a row. -/
  | again (attempt : Nat)
  | ended (result : Except ServiceError Unit)
  /-- The clock does not reach to the end of the pause, and the monitor crashes. -/
  | crashed

def startReader : Activity (Except ApiError ReaderId) := do
  match ← Activity.perform .session with
  | none => return .error .notAuthorized
  | some session => return .ok (← Activity.perform (.startReader session.key))

/-- One connection without any other to follow. -/
def once : Activity (Except ServiceError Unit) := do
  match ← startReader with
  | .error error => return .error (.api error)
  | .ok reader => return (← Activity.perform (.awaitResult reader)).mapError .stream

/-- What follows a transport error after so many failures in a row. -/
def afterFailure (retry : Retry) (attempt : Nat) (error : TransportError) : Activity Next := do
  if ← Activity.perform .stopRequested then return .ended (.ok ())
  else if retry.maxRetries ≤ attempt then return .ended (.error (.stream (.transport error)))
  else
    match Instant.after? (← Activity.perform .now) (retry.delay attempt) with
    | none => return .crashed
    | some time =>
      if ← Activity.perform (.pause time) then return .ended (.ok ())
      else return .again (attempt + 1)

/-- One connection of the monitor (`monitor_events_with_retry`). The count of failures starts again
if its reader was seen reading. -/
def round (retry : Retry) (attempt : Nat) : Activity Next := do
  match ← startReader with
  | .error error => return .ended (.error (.api error))
  | .ok reader =>
    let wasReading ← Activity.perform (.awaitReading reader)
    match ← Activity.perform (.awaitResult reader) with
    | .ok () => return .ended (.ok ())
    | .error (.transport error) => afterFailure retry (if wasReading then 0 else attempt) error
    | .error (.aborted reason) => return .ended (.error (.stream (.aborted reason)))

end Switchboard.Monitor
