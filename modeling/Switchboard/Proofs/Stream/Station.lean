import Switchboard.Proofs.Waiter.History
import Switchboard.Proofs.Waiter.Uninterrupted
import Switchboard.Stream.Dispatch
import Switchboard.Stream.Reader

set_option autoImplicit false

namespace Switchboard

/-- An errand that a reader waits for. -/
inductive Pursuit where
  | offering (frame : String) (errand : ErrandId) (event : Event)
  | closing (errand : ErrandId) (reason : WaitError)

/-- One step of the reader, or of anybody else. -/
inductive Deed where
  | party (act : Act)
  | delivered (signal : ReaderSignal)
  | stopRequested
  | connected (outcome : Except TransportError Unit)
  /-- The reader takes up a signal. -/
  | heard (signal : ReaderSignal)
  | reopened
  | closing (errand : ErrandId) (reason : WaitError)
  | closed (errand : ErrandId) (reason : WaitError)
  /-- A frame cannot be decoded and is reported. -/
  | skipped (frame : String) (error : DecodeError)
  | offered (frame : String) (errand : ErrandId) (event : Event)
  /-- The reader hears that a waiter took the event. -/
  | claimed (frame : String) (errand : ErrandId) (event : Event)
  /-- The reader gets the event back and starts the callback with it. -/
  | spawned (frame : String) (errand : ErrandId) (event : Event)
  | published (state : StreamState)
  /-- The reader closes its stream, which may fail. -/
  | streamClosed (outcome : Except TransportError Unit)
  | finished (result : StreamResult)
  | callbackEnded (kind : EventKind) (ending : CallbackEnd)

namespace Deed

def act? : Deed → Option Act
  | .party act => some act
  | .reopened => some .reopened
  | .closing errand reason => some (.asked errand (.sweep reason true))
  | .offered _ errand event => some (.asked errand (.offer event))
  | _ => none

def report? : Deed → Option DispatchError
  | .skipped _ error => some (.undecodable error)
  | .callbackEnded kind ending => ending.fault kind
  | _ => none

end Deed

/-- The hall with a reader (`StreamReader`) at work among everybody who is busy with its queue of
waiters. -/
structure Station where
  hall : Hall
  phase : ReaderPhase
  /-- What the reader has still to do about the last signal. -/
  agenda : List ReaderAction
  pursuit : Option Pursuit
  /-- The signals that the stream has delivered and the reader has not taken up. -/
  stream : List ReaderSignal
  connection : Option (Except TransportError Unit)
  stopping : Bool
  /-- The events that callbacks are running for. -/
  callbacks : List EventKind

def ReaderSignal.isStreamed : ReaderSignal → Bool
  | .frame _ | .ended | .failed _ => true
  | _ => false

namespace Station

def start (hall : Hall) : Station := ⟨hall, .starting, [], none, [], none, false, []⟩

def view (station : Station) : ReaderView :=
  ⟨station.stopping, station.connection, station.stream.head?, station.callbacks.length⟩

def hear (station : Station) (signal : ReaderSignal) : Station :=
  let (phase, agenda) := station.phase.react signal
  { station with
    phase := phase
    agenda := agenda
    stream := if signal.isStreamed then station.stream.tail else station.stream }

/-- A step of the reader or of anybody else. The stream delivers signals when it likes, anybody may
ask for a stop, callbacks end when they like, and all parties of the hall go on between any two
steps of the reader. The reader takes up one signal at a time and then does what it has to do about
it, one thing after the other; for the answers to its errands it waits. That it looks for a stop and
then polls the stream (`next_frame`) is one step, `hear`: a stop that is requested between the two
is as good as one requested after the step, and counts from the next look on. -/
inductive Step (answers : Hall.Answers) (station : Station) : Deed → Station → Prop
  | party (act : Act) (hall : Hall) (step : Hall.Step answers station.hall act hall) :
      Step answers station (.party act) { station with hall := hall }
  | deliver (signal : ReaderSignal) (streamed : signal.isStreamed = true) :
      Step answers station (.delivered signal)
        { station with stream := station.stream ++ [signal] }
  | requestStop : Step answers station .stopRequested { station with stopping := true }
  | connect (outcome : Except TransportError Unit) (pending : station.connection = none) :
      Step answers station (.connected outcome) { station with connection := some outcome }
  | hear (signal : ReaderSignal) (idle : station.agenda = []) (quiet : station.pursuit = none)
      (heard : station.phase.listen station.view = some signal) :
      Step answers station (.heard signal) (station.hear signal)
  | reopen (rest : List ReaderAction) (hall : Hall) (quiet : station.pursuit = none)
      (next : station.agenda = .reopenQueue :: rest)
      (step : Hall.Step answers station.hall .reopened hall) :
      Step answers station .reopened { station with hall := hall, agenda := rest }
  | close (reason : WaitError) (rest : List ReaderAction) (errand : ErrandId) (hall : Hall)
      (quiet : station.pursuit = none) (next : station.agenda = .closeQueue reason :: rest)
      (step : Hall.Step answers station.hall (.asked errand (.sweep reason true)) hall) :
      Step answers station (.closing errand reason)
        { station with hall := hall, agenda := rest, pursuit := some (.closing errand reason) }
  | closed (reason : WaitError) (errand : ErrandId) (request : Errand) (reply : Reply)
      (pursued : station.pursuit = some (.closing errand reason))
      (answered : station.hall.errands errand = .answered request reply) :
      Step answers station (.closed errand reason) { station with pursuit := none }
  | skip (frame : String) (error : DecodeError) (rest : List ReaderAction)
      (quiet : station.pursuit = none) (next : station.agenda = .dispatch frame :: rest)
      (decoded : Event.decode frame = .error error) :
      Step answers station (.skipped frame error) { station with agenda := rest }
  | offer (frame : String) (event : Event) (rest : List ReaderAction) (errand : ErrandId)
      (hall : Hall) (quiet : station.pursuit = none)
      (next : station.agenda = .dispatch frame :: rest) (decoded : Event.decode frame = .ok event)
      (step : Hall.Step answers station.hall (.asked errand (.offer event)) hall) :
      Step answers station (.offered frame errand event)
        { station with
          hall := hall, agenda := rest, pursuit := some (.offering frame errand event) }
  | claimed (frame : String) (errand : ErrandId) (event : Event) (request : Errand)
      (pursued : station.pursuit = some (.offering frame errand event))
      (answered : station.hall.errands errand = .answered request .claimed) :
      Step answers station (.claimed frame errand event) { station with pursuit := none }
  | spawn (frame : String) (errand : ErrandId) (event back : Event) (request : Errand)
      (pursued : station.pursuit = some (.offering frame errand event))
      (answered : station.hall.errands errand = .answered request (.unclaimed back)) :
      Step answers station (.spawned frame errand back)
        { station with pursuit := none, callbacks := station.callbacks ++ [back.kind] }
  | publish (state : StreamState) (rest : List ReaderAction) (quiet : station.pursuit = none)
      (next : station.agenda = .publish state :: rest) :
      Step answers station (.published state) { station with agenda := rest }
  | closeStream (outcome : Except TransportError Unit) (rest : List ReaderAction)
      (quiet : station.pursuit = none) (next : station.agenda = .closeStream :: rest) :
      Step answers station (.streamClosed outcome) { station with agenda := rest }
  | finish (result : StreamResult) (rest : List ReaderAction) (quiet : station.pursuit = none)
      (next : station.agenda = .finish result :: rest) :
      Step answers station (.finished result) { station with agenda := rest }
  | endCallback (kind : EventKind) (ending : CallbackEnd) (running : kind ∈ station.callbacks) :
      Step answers station (.callbackEnded kind ending)
        { station with
          callbacks := station.callbacks.erase kind
          stopping := station.stopping || ending.stops }

def acts (history : List Deed) : List Act := history.filterMap Deed.act?

/-- What happens from when a reader is made: the hall has a history of its own by then. -/
inductive Reached (answers : Hall.Answers) (before : List Act) : List Deed → Station → Prop
  | start {hall : Hall} (reached : Hall.Reached answers before hall) :
      Reached answers before [] (start hall)
  | snoc {history : List Deed} {station next : Station} {deed : Deed}
      (reached : Reached answers before history station)
      (step : Step answers station deed next) :
      Reached answers before (history ++ [deed]) next

/-- Steps of anybody at a station. -/
inductive Run (answers : Hall.Answers) (first : Station) : List Deed → Station → Prop
  | nil : Run answers first [] first
  | snoc {deeds : List Deed} {station next : Station} {deed : Deed}
      (run : Run answers first deeds station) (step : Step answers station deed next) :
      Run answers first (deeds ++ [deed]) next

theorem Run.reached {answers : Hall.Answers} {before : List Act} {hall : Hall} {deeds : List Deed}
    {station : Station} (run : Run answers (start hall) deeds station)
    (begun : Hall.Reached answers before hall) : Reached answers before deeds station := by
  induction run with
  | nil => exact .start begun
  | snoc run step ih => exact ih.snoc step

section Uninterrupted

variable {answers : Hall.Answers} {before : List Act} {history : List Deed} {station : Station}

theorem Reached.parties (reached : Reached answers before history station) {hall : Hall}
    {during : List Act} (run : Hall.Run answers station.hall during hall) :
    Reached answers before (history ++ during.map .party) { station with hall := hall } := by
  induction run with
  | nil =>
    rw [List.map_nil, List.append_nil]
    exact reached
  | snoc run step ih =>
    rw [List.map_append, ← List.append_assoc]
    exact ih.snoc (.party _ _ step)

/-- What a reader does about a frame at a stroke, it does step by step when nobody comes between its
steps. -/
theorem Reached.dispatch (reached : Reached Hall.evaluated before history station)
    {holder : String → Option WaiterId} {frame : String} {rest : List ReaderAction}
    {errand : ErrandId} (quiet : station.pursuit = none)
    (next : station.agenda = .dispatch frame :: rest) (keeps : station.hall.Keeps holder)
    (free : station.hall.lock = .free) (fresh : station.hall.errands errand = .unasked) :
    match station.hall.queue.dispatch holder frame with
    | .skipped error =>
      Reached Hall.evaluated before (history ++ [.skipped frame error])
        { station with agenda := rest }
    | .offered event claim => ∃ (during : List Act) (hall : Hall), hall.queue = claim.queue ∧
      Reached Hall.evaluated before
        (history ++ [.offered frame errand event] ++ during.map .party ++
          [if claim.winner.isSome then .claimed frame errand event
            else .spawned frame errand event])
        { station with
          hall := hall
          agenda := rest
          callbacks :=
            if claim.winner.isSome then station.callbacks
            else station.callbacks ++ [event.kind] } := by
  rw [Queue.dispatch]
  cases decoded : Event.decode frame with
  | error error => exact reached.snoc (.skip frame error rest quiet next decoded)
  | ok event =>
    have offers := reached.snoc
      (.offer frame event rest errand _ quiet next decoded (.ask errand (.offer event) fresh))
    have keeping : (station.hall.setErrand errand (.asked (.offer event))).Keeps holder := keeps
    obtain ⟨during, run⟩ := Hall.leads_claim keeping free (Hall.setErrand_errands ..)
    have waits := offers.parties run
    have same : (station.hall.setErrand errand (.asked (.offer event))).queue =
        station.hall.queue := rfl
    rw [same] at waits
    simp only [quiet]
    cases winner : (station.hall.queue.claim holder event).winner with
    | some id =>
      rw [winner] at waits
      have claims := waits.snoc (.claimed frame errand event _ rfl (Hall.setErrand_errands ..))
      exact ⟨during, _, rfl, claims⟩
    | none =>
      rw [winner] at waits
      have spawns := waits.snoc
        (.spawn frame errand event event _ rfl (Hall.setErrand_errands ..))
      exact ⟨during, _, rfl, spawns⟩

end Uninterrupted

end Station
end Switchboard
