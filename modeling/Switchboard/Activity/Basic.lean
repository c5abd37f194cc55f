import Switchboard.Duration
import Switchboard.Stream.Dispatch
import Switchboard.Stream.Reader
import Switchboard.Service.Error
import Switchboard.Stream.Stop
import Switchboard.Transport.Request

set_option autoImplicit false

namespace Switchboard

abbrev Instant := Nat

namespace Instant

/-- The first whole millisecond that is not before a time in nanoseconds. -/
def ceil (nanos : Nat) : Instant := (nanos + 999999) / 1000000

/-- The nanoseconds that the clock can tell: its seconds are numbers of 63 bits. -/
def limit : Nat := 9223372036854775808000000000

/-- The time a span after another, if the clock reaches so far. Whoever needs a time that it does
not reach crashes. -/
def after? (time : Instant) (span : Duration) : Option Instant :=
  if span.nanos + 1000000 * time < limit then some (time + ceil span.nanos) else none

def overflow : String := "overflow when adding duration to instant"

end Instant

/-- A session on the server: its key, and the account it acts for. -/
structure Session where
  key : String
  botId : UserId
deriving DecidableEq

/-- What is noted down on the way. -/
inductive Entry where
  | begun (event : Event)
  | finished (event : Event) (flow : Flow)
  /-- A wait of a callback ended. -/
  | got (event : Event) (result : Except WaitError (Option Event))
  | fault (error : DispatchError)

/-- The number of a reader, in the order of starting. -/
abbrev ReaderId := Nat

/-- One operation. It says what is asked of the surroundings, and `Op.Answer` what comes back. -/
inductive Op where
  | request (request : Request)
  | readFile (path : String)
  /-- The session that is bound. -/
  | session
  /-- Binds a session if none is bound. -/
  | bindSession (session : Session)
  /-- Unbinds a session if it is still the one that is bound. -/
  | unbindSession (session : Session)
  | now
  | sleepUntil (time : Instant)
  /-- Waits for an event of a kind that a pattern accepts, until a deadline. -/
  | awaitEvent (kind : EventKind) (pattern : Pattern) (deadline : Option Instant)
  | note (entry : Entry)
  /-- Starts a reader of the stream of a session. -/
  | startReader (key : String)
  /-- Waits until a reader is seen reading, or is closed. -/
  | awaitReading (reader : ReaderId)
  | awaitResult (reader : ReaderId)
  /-- Was the bot asked to stop? -/
  | stopRequested
  /-- Sleeps, unless the bot is asked to stop; tells whether it was. -/
  | pause (time : Instant)
  /-- Waits until a stop is requested that counts for a handle. -/
  | awaitStop (handle : StopId)
  /-- Enters a text into the history of a group; tells whether it is to be repeated. -/
  | recordText (group : GroupId) (text : String)
  /-- Asks the bot to stop. -/
  | requestStop
  /-- Begins the task of a service. -/
  | beginTask
  /-- Waits for the end of the task, until a deadline. -/
  | awaitTask (deadline : Option Instant)
  /-- Gives the task up. -/
  | giveUpTask

abbrev Op.Answer : Op → Type
  | .request _ => Except TransportError Json
  | .readFile _ => Except TransportError (List UInt8)
  | .session => Option Session
  | .bindSession _ => Bool
  | .unbindSession _ => Unit
  | .now => Instant
  | .sleepUntil _ => Unit
  | .awaitEvent _ _ _ => Except WaitError (Option Event)
  | .note _ => Unit
  | .startReader _ => ReaderId
  | .awaitReading _ => Bool
  | .awaitResult _ => StreamResult
  | .stopRequested => Bool
  | .pause _ => Bool
  | .awaitStop _ => Unit
  | .recordText _ _ => Bool
  | .requestStop => Unit
  | .beginTask => Unit
  | .awaitTask _ => Option (Except ServiceError Unit)
  | .giveUpTask => Unit

/-- What runs beside other things, as a sequence of operations with a result. Between two operations
anything else may happen, so an activity can be followed with any answers, in the real order of
things or in any other. -/
inductive Activity (α : Type) where
  | done (value : α)
  | step (op : Op) (next : op.Answer → Activity α)

namespace Activity

variable {α β : Type}

def andThen (next : α → Activity β) : Activity α → Activity β
  | .done value => next value
  | .step op rest => .step op fun answer => andThen next (rest answer)

instance : Monad Activity where
  pure := .done
  bind activity next := andThen next activity

def perform (op : Op) : Activity op.Answer := .step op .done

theorem perform_bind (op : Op) (next : op.Answer → Activity β) :
    (perform op >>= next) = .step op next := rfl

theorem andThen_assoc {γ : Type} (activity : Activity α) (f : α → Activity β)
    (g : β → Activity γ) :
    (activity.andThen f).andThen g = activity.andThen fun value => (f value).andThen g := by
  induction activity with
  | done value => rfl
  | step op rest ih => simp [andThen, ih]

/-- Waits for an event for a span of time. The clock is looked at for the deadline before anything is
registered; there is no result where the clock does not reach so far. -/
def awaitWithin (kind : EventKind) (pattern : Pattern) (span : Duration) :
    Activity (Option (Except WaitError (Option Event))) := do
  match (← perform .now).after? span with
  | none => return none
  | some deadline => return some (← perform (.awaitEvent kind pattern (some deadline)))

theorem awaitWithin_bind (kind : EventKind) (pattern : Pattern) (span : Duration)
    (next : Option (Except WaitError (Option Event)) → Activity β) :
    (awaitWithin kind pattern span >>= next) = .step .now fun now =>
      match now.after? span with
      | none => next none
      | some deadline =>
        .step (.awaitEvent kind pattern (some deadline)) fun result => next (some result) := by
  refine congrArg (step .now) (funext fun now => ?_)
  dsimp only [perform, andThen]
  cases now.after? span with
  | none => rfl
  | some deadline => rfl

end Activity

end Switchboard
