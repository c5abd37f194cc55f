import Switchboard.Proofs.Trace
import Switchboard.Proofs.Stream.Vigil

set_option autoImplicit false

namespace Switchboard

open Hall (Answers)

def ReaderPhase.selects : ReaderPhase → Bool
  | .connecting | .reading => true
  | .starting | .draining _ | .closed => false

/-- What a reader does, or what happens to it. -/
inductive Motion where
  | delivered (signal : ReaderSignal)
  | woke
  /-- It looks whether a stop is requested. -/
  | looked (stop : Bool)
  /-- It goes on connecting, and may be done with it. -/
  | dialled (outcome : Option (Except TransportError Unit))
  | did (deed : Deed)
  | slept
  | crashed
  /-- A callback ends. -/
  | ended (kind : EventKind) (ending : CallbackEnd)

namespace Motion

def stops : Motion → Bool
  | .ended _ ending => ending.stops
  | _ => false

def deed? : Motion → Option Deed
  | .did deed => some deed
  | _ => none

end Motion

/-- A reader (`StreamReader`) with its stop handle (`StopHandle`): a task that is woken, does some
steps and sleeps again, or crashes. Where it connects or reads it looks for a stop each time that it
was woken or took something up. -/
structure Desk where
  handle : StopId
  /-- Its hall is the one that all readers share. -/
  station : Station
  awake : Bool
  /-- It has looked for a stop since it was woken and since it took up a signal last. -/
  looked : Bool
  /-- The state that it told last. -/
  state : StreamState
  result : Option StreamResult

namespace Desk

def start (handle : StopId) (hall : Hall) : Desk :=
  ⟨handle, .start hall, false, false, .connecting, none⟩

/-- The reader has not crashed. -/
def Alive (desk : Desk) : Prop := ∀ reason, desk.result ≠ some (.error (.aborted reason))

def within (desk : Desk) (hall : Hall) : Station := { desk.station with hall := hall }

def after (desk : Desk) (deed : Deed) (station : Station) : Desk :=
  { desk with
    station := station
    looked := desk.looked && deed.heard?.isNone
    state := deed.published?.getD desk.state
    result := deed.finished?.or desk.result }

/-- A step of a reader, or something that happens to it, as long as a stop is requested or not. -/
inductive Step (answers : Answers) (hall : Hall) (stop : Bool) (desk : Desk) :
    Motion → Desk → Hall → Prop
  | deliver (signal : ReaderSignal) (streamed : signal.isStreamed = true) :
      Step answers hall stop desk (.delivered signal)
        { desk with
          station := { desk.station with stream := desk.station.stream ++ [signal] } } hall
  | wake (asleep : desk.awake = false) (alive : desk.Alive) :
      Step answers hall stop desk .woke { desk with awake := true, looked := false } hall
  | look (awake : desk.awake = true) (selects : desk.station.phase.selects = true)
      (idle : desk.station.agenda = []) (quiet : desk.station.pursuit = none) :
      Step answers hall stop desk (.looked stop)
        { desk with
          station := { desk.station with stopping := desk.station.stopping || stop }
          looked := true } hall
  | dial (outcome : Option (Except TransportError Unit)) (awake : desk.awake = true)
      (looked : desk.looked = true) (unstopped : desk.station.stopping = false)
      (connecting : desk.station.phase = .connecting) (idle : desk.station.agenda = [])
      (pending : desk.station.connection = none) :
      Step answers hall stop desk (.dialled outcome)
        { desk with station := { desk.station with connection := outcome } } hall
  | act (deed : Deed) (station : Station) (awake : desk.awake = true)
      (own : deed.byReader = true)
      (ready : ∀ signal, deed = .heard signal → desk.station.phase.selects = true →
        desk.looked = true)
      (step : Station.Step answers (desk.within hall) deed station) :
      Step answers hall stop desk (.did deed) (desk.after deed station) station.hall
  | sleep (awake : desk.awake = true) :
      Step answers hall stop desk .slept { desk with awake := false } hall
  | crash (unfinished : desk.result = none) :
      Step answers hall stop desk .crashed
        { desk with awake := false, result := some (.error .dropped) } hall
  | finish (kind : EventKind) (ending : CallbackEnd) (running : kind ∈ desk.station.callbacks) :
      Step answers hall stop desk (.ended kind ending)
        { desk with
          station := { desk.station with callbacks := desk.station.callbacks.erase kind } } hall

end Desk

/-- The number of a monitor. -/
abbrev MonitorId := Nat

/-- A monitor at work. -/
structure Patrol where
  retry : Retry
  work : Activity Monitor.Next

/-- What happens around a bot. -/
inductive Incident where
  | acted (act : Act)
  /-- Somebody makes a stop handle, from another one or of its own. -/
  | made (parent : Option StopId)
  | stopped (handle : StopId)
  /-- Somebody starts a stream. -/
  | opened (reader : ReaderId)
  | moved (reader : ReaderId) (motion : Motion)
  | passed (span : Nat)
  /-- Somebody starts a monitor. -/
  | engaged (monitor : MonitorId) (retry : Retry)
  | answered (monitor : MonitorId) (op : Op) (answer : op.Answer)
  | resumed (monitor : MonitorId) (count : Nat)

namespace Incident

def motion? (reader : ReaderId) : Incident → Option Motion
  | .moved other motion => if other = reader then some motion else none
  | _ => none

def opens? : Incident → Option ReaderId
  | .opened reader | .answered _ (.startReader _) reader => some reader
  | _ => none

end Incident

/-- The readers of a bot (`Bot`) beside each other, on one queue of waiters, with its monitors and
all that they share. Whoever starts a stream adds a reader, with a stop handle made from the bot's.
Stops are requested at any time: of the bot, of a reader, by callbacks, and on handles that others
have made. -/
structure Fleet where
  hall : Hall
  stops : StopForest
  /-- The stop handle of the bot. -/
  botStop : StopId
  desks : ReaderId → Option Desk
  monitors : MonitorId → Option Patrol
  clock : Instant

namespace Fleet

def start (hall : Hall) : Fleet :=
  ⟨hall, StopForest.empty.addRoot.2, StopForest.empty.addRoot.1, fun _ => none, fun _ => none, 0⟩

/-- Starts a reader, with a stop handle made from the bot's. -/
def enlist (fleet : Fleet) (reader : ReaderId) : Fleet :=
  { fleet with
    stops := (fleet.stops.addChild fleet.botStop).2
    desks := Function.update fleet.desks reader
      (some (.start (fleet.stops.addChild fleet.botStop).1 fleet.hall)) }

def makeHandle (fleet : Fleet) : Option StopId → Fleet
  | none => { fleet with stops := fleet.stops.addRoot.2 }
  | some parent => { fleet with stops := (fleet.stops.addChild parent).2 }

def setMonitor (fleet : Fleet) (monitor : MonitorId) (patrol : Patrol) : Fleet :=
  { fleet with monitors := Function.update fleet.monitors monitor (some patrol) }

/-- What a monitor can be answered, and what comes of its asking. -/
inductive Answered (fleet : Fleet) : (op : Op) → op.Answer → Fleet → Prop
  | session (session : Option Session) : Answered fleet .session session fleet
  | startReader (key : String) (reader : ReaderId) (fresh : fleet.desks reader = none) :
      Answered fleet (.startReader key) reader (fleet.enlist reader)
  | reading (reader : ReaderId) (desk : Desk) (sits : fleet.desks reader = some desk)
      (shown : desk.state = .reading) : Answered fleet (.awaitReading reader) true fleet
  | closed (reader : ReaderId) (desk : Desk) (sits : fleet.desks reader = some desk)
      (unread : desk.state ≠ .reading) (ceased : desk.state = .closed ∨ ¬ desk.Alive) :
      Answered fleet (.awaitReading reader) false fleet
  | result (reader : ReaderId) (desk : Desk) (result : StreamResult)
      (sits : fleet.desks reader = some desk) (sent : desk.result = some result) :
      Answered fleet (.awaitResult reader) result fleet
  | stopRequested :
      Answered fleet .stopRequested (fleet.stops.isRequested fleet.botStop) fleet
  | now : Answered fleet .now fleet.clock fleet
  | rested (time : Instant) (late : time ≤ fleet.clock) : Answered fleet (.pause time) false fleet
  | roused (time : Instant) (asked : fleet.stops.isRequested fleet.botStop = true) :
      Answered fleet (.pause time) true fleet

/-- A step of anybody. Only on a handle that was made a stop can be requested. -/
inductive Step (answers : Answers) (fleet : Fleet) : Incident → Fleet → Prop
  | act (act : Act) (hall : Hall) (step : Hall.Step answers fleet.hall act hall) :
      Step answers fleet (.acted act) { fleet with hall := hall }
  | make (parent : Option StopId) : Step answers fleet (.made parent) (fleet.makeHandle parent)
  | stop (handle : StopId) (made : handle < fleet.stops.ancestry.length) :
      Step answers fleet (.stopped handle)
        { fleet with stops := fleet.stops.request handle }
  | start (reader : ReaderId) (fresh : fleet.desks reader = none) :
      Step answers fleet (.opened reader) (fleet.enlist reader)
  | move (reader : ReaderId) (motion : Motion) (desk after : Desk) (hall : Hall)
      (sits : fleet.desks reader = some desk)
      (step : Desk.Step answers fleet.hall (fleet.stops.isRequested desk.handle) desk motion
        after hall) :
      Step answers fleet (.moved reader motion)
        { fleet with
          hall := hall
          stops := if motion.stops then fleet.stops.request desk.handle else fleet.stops
          desks := Function.update fleet.desks reader (some after) }
  | pass (span : Nat) :
      Step answers fleet (.passed span) { fleet with clock := fleet.clock + span }
  | engage (monitor : MonitorId) (retry : Retry) (fresh : fleet.monitors monitor = none) :
      Step answers fleet (.engaged monitor retry)
        (fleet.setMonitor monitor ⟨retry, Monitor.round retry 0⟩)
  | answer (monitor : MonitorId) (retry : Retry) (op : Op) (answer : op.Answer)
      (next : op.Answer → Activity Monitor.Next) (after : Fleet)
      (asks : fleet.monitors monitor = some ⟨retry, .step op next⟩)
      (answered : Answered fleet op answer after) :
      Step answers fleet (.answered monitor op answer)
        (after.setMonitor monitor ⟨retry, next answer⟩)
  | resume (monitor : MonitorId) (retry : Retry) (count : Nat)
      (goes_on : fleet.monitors monitor = some ⟨retry, .done (.again count)⟩) :
      Step answers fleet (.resumed monitor count)
        (fleet.setMonitor monitor ⟨retry, Monitor.round retry count⟩)

/-- Steps of anybody in any order. -/
abbrev Run (answers : Answers) : Fleet → List Incident → Fleet → Prop := Trace (Step answers)

/-- What a step means to the readers and their stop handles. It does not matter who starts a
reader. -/
inductive Change (answers : Answers) (fleet : Fleet) : Incident → Fleet → Prop
  | hall (act : Act) (hall : Hall) (step : Hall.Step answers fleet.hall act hall) :
      Change answers fleet (.acted act) { fleet with hall := hall }
  | handle (parent : Option StopId) : Change answers fleet (.made parent) (fleet.makeHandle parent)
  | stop (handle : StopId) (made : handle < fleet.stops.ancestry.length) :
      Change answers fleet (.stopped handle) { fleet with stops := fleet.stops.request handle }
  | reader (incident : Incident) (reader : ReaderId) (monitors : MonitorId → Option Patrol)
      (opens : incident.opens? = some reader) (fresh : fleet.desks reader = none) :
      Change answers fleet incident { fleet.enlist reader with monitors := monitors }
  | motion (reader : ReaderId) (motion : Motion) (desk after : Desk) (hall : Hall)
      (sits : fleet.desks reader = some desk)
      (step : Desk.Step answers fleet.hall (fleet.stops.isRequested desk.handle) desk motion
        after hall) :
      Change answers fleet (.moved reader motion)
        { fleet with
          hall := hall
          stops := if motion.stops then fleet.stops.request desk.handle else fleet.stops
          desks := Function.update fleet.desks reader (some after) }
  | aside (incident : Incident) (monitors : MonitorId → Option Patrol) (clock : Instant)
      (unstopped : ∀ handle, incident ≠ .stopped handle)
      (unmoved : ∀ reader, incident.motion? reader = none) (unopened : incident.opens? = none) :
      Change answers fleet incident { fleet with monitors := monitors, clock := clock }

theorem Step.change {answers : Answers} {fleet next : Fleet} {incident : Incident}
    (step : Step answers fleet incident next) : Change answers fleet incident next := by
  cases step with
  | act act hall step => exact .hall act hall step
  | make parent => exact .handle parent
  | stop handle made => exact .stop handle made
  | start reader fresh => exact .reader _ reader _ rfl fresh
  | move reader motion desk after hall sits step =>
    exact .motion reader motion desk after hall sits step
  | pass | engage | resume => exact .aside _ _ _ nofun (fun _ => rfl) rfl
  | answer monitor retry op answer next after asks answered =>
    cases answered with
    | startReader key reader fresh => exact .reader _ reader _ rfl fresh
    | _ => exact .aside _ _ _ nofun (fun _ => rfl) rfl

/-- What happens from when a bot is made: its queue has a history of its own by then. -/
inductive Reached (answers : Answers) (history : List Incident) (fleet : Fleet) : Prop
  | intro {before : List Act} {hall : Hall} (reached : Hall.Reached answers before hall)
      (run : Run answers (start hall) history fleet) : Reached answers history fleet

end Fleet
end Switchboard
