import Switchboard.Files.Folder
import Switchboard.Rehearsal.Task
import Switchboard.Repeater.History

set_option autoImplicit false

namespace Switchboard.Rehearsal

/-- How connecting ends. -/
inductive ConnectEnd where
  | succeeds
  | fails (error : TransportError)
  | never
  | crashes

/-- Where the stream of a reader comes from. -/
inductive Source where
  /-- The server opens it for a session. -/
  | server (key : String)
  /-- Connecting takes a time and then ends as written down. -/
  | scripted (delay : Nat) (ending : ConnectEnd) (feed : FeedId)

/-- A reader. -/
structure Reader where
  name : Option String
  task : TaskId
  stop : StopId
  source : Source
  /-- When scripted connecting ends. -/
  due : Option Instant
  feed : Option FeedId
  phase : ReaderPhase
  /-- The state that others see. -/
  published : StreamState
  inFlight : Nat
  /-- Failures are not noted. -/
  quiet : Bool
  result : Option StreamResult
  crashed : Bool

/-- A task with a name that ended. -/
structure Finished where
  name : String
  time : Instant
  result : Result

/-- What the tasks share: the clock, the queue of waiters, the readers with their streams, the
server, the tasks that are ready in the order of waking, and what was noted down. Time passes only
when nothing is ready, and timers that are due at the same time wake their tasks in the order in
which they were set. -/
structure Stage where
  now : Instant
  queue : Queue
  stops : StopForest
  /-- The stop handle of the bot. -/
  botStop : StopId
  session : Option Session
  /-- Somebody who is no task holds the bot. -/
  held : Bool
  /-- Nobody holds the bot any more. -/
  botGone : Bool
  server : Server
  feeds : List Feed
  readers : List Reader
  tasks : List Task
  ready : List TaskId
  timers : List (Instant × TaskId)
  /-- The waiters that are kept under names. -/
  tickets : List (String × Ticket)
  /-- The stop handles that are kept under names. -/
  handles : List (String × StopId)
  folder : Folder (List UInt8)
  history : Repeater.History
  cast : Cast
  /-- The failures of readers of the bot are not noted. -/
  quiet : Bool
  job : Activity Outcome
  jobTask : Option TaskId
  jobEnd : Option (Except ServiceError Unit)
  log : List Entry
  traffic : List Traffic
  finished : List Finished

/-- The one who plays the scenes. It is no task: to wake it does nothing, and its timers only let
time pass. -/
def player : TaskId := 0

namespace Stage

/-- The stage before anything happens, with a bot or without one. -/
def start (server : Server) (cast : Cast) (withBot quiet : Bool) : Stage where
  now := 0
  queue := .empty
  stops := StopForest.empty.addRoot.2
  botStop := StopForest.empty.addRoot.1
  session := none
  held := withBot
  botGone := !withBot
  server := server
  feeds := []
  readers := []
  tasks := [.ofWork .over]
  ready := []
  timers := []
  tickets := []
  handles := []
  folder := ⟨[], [[]]⟩
  history := []
  cast := cast
  quiet := quiet
  job := .done .silent
  jobTask := none
  jobEnd := none
  log := []
  traffic := []
  finished := []

/-- Makes a task ready, unless it is over or ready already. -/
def wake (stage : Stage) (id : TaskId) : Stage :=
  if stage.tasks[id]?.all Task.isOver || stage.ready.contains id then stage
  else { stage with ready := stage.ready ++ [id] }

def wakeAll (stage : Stage) (ids : List TaskId) : Stage := ids.foldl wake stage

def tasksWhere (stage : Stage) (property : Task → Bool) : List TaskId :=
  (List.range stage.tasks.length).filter fun id => stage.tasks[id]?.any property

def spawn (stage : Stage) (task : Task) : Stage :=
  { stage with tasks := stage.tasks ++ [task] }.wake stage.tasks.length

def setWork (stage : Stage) (id : TaskId) (work : Work) : Stage :=
  { stage with tasks := stage.tasks.modify id fun task => { task with work := work } }

def setTimer (stage : Stage) (time : Instant) (id : TaskId) : Stage :=
  { stage with timers := stage.timers ++ [(time, id)] }

def clearTimers (stage : Stage) (id : TaskId) : Stage :=
  { stage with timers := stage.timers.filter fun timer => timer.2 ≠ id }

def nextTimer? (stage : Stage) : Option Instant := (stage.timers.map (·.1)).min?

/-- Lets time pass; the tasks whose timers are due become ready. -/
def moveTo (stage : Stage) (time : Instant) : Stage :=
  let (due, later) := stage.timers.partition fun timer => timer.1 ≤ time
  { stage with now := time, timers := later }.wakeAll (due.map Prod.snd)

def note (stage : Stage) (entry : Entry) : Stage := { stage with log := stage.log ++ [entry] }

/-- Wakes the tasks that wait for outcomes, in the order in which these were sent. -/
def wakeHolders (stage : Stage) (ids : List WaiterId) : Stage :=
  stage.wakeAll (ids.flatMap fun id =>
    stage.tasksWhere fun task => task.ticket?.any (·.id = id))

/-- Empties the queue and refuses new waiters. Tells how many waiters were resolved. -/
def closeQueue (stage : Stage) (reason : WaitError) : Nat × Stage :=
  let (ids, queue) := stage.queue.close reason
  (ids.length, { stage with queue := queue }.wakeHolders ids)

/-- Empties the queue. Tells how many waiters were resolved. -/
def cancelAll (stage : Stage) (reason : WaitError) : Nat × Stage :=
  let (ids, queue) := stage.queue.cancelAll reason
  (ids.length, { stage with queue := queue }.wakeHolders ids)

def ticket? (stage : Stage) (name : String) : Option Ticket :=
  (stage.tickets.find? fun entry => entry.1 = name).map (·.2)

def removeTicket (stage : Stage) (name : String) : Stage :=
  { stage with tickets := stage.tickets.filter fun entry => entry.1 ≠ name }

/-- Gives the waiter under a name up, if there is one. -/
def dropTicket (stage : Stage) (name : String) : Stage :=
  match stage.ticket? name with
  | some ticket => { stage.removeTicket name with queue := ticket.drop stage.queue }
  | none => stage

/-- Keeps a waiter under a name. The one that was kept there before is given up. -/
def keepTicket (stage : Stage) (name : String) (ticket : Ticket) : Stage :=
  let free := stage.dropTicket name
  { free with tickets := free.tickets ++ [(name, ticket)] }

/-- The waiter under a name that can still be withdrawn. -/
def holder (stage : Stage) (name : String) : Option WaiterId :=
  match stage.ticket? name with
  | some ticket => if ticket.settled then none else some ticket.id
  | none => none

/-- A name from under which a waiter was withdrawn in the middle of a search keeps nothing any more.
An outcome that the waiter got all the same is lost. -/
def forgetName (stage : Stage) (name : String) : Stage :=
  match stage.ticket? name with
  | some ticket => { stage.removeTicket name with queue := stage.queue.forget ticket.id }
  | none => stage

/-- Takes over what came of offering an event. -/
def applyClaim (stage : Stage) (claim : Claim) : Stage :=
  let told := { stage with queue := claim.queue }.wakeHolders claim.resolved
  let removing := claim.withdrawn.foldl (fun stage id => stage.spawn (.ofWork (.removing id))) told
  claim.names.foldl forgetName removing

/-- Offers an event to the waiters. Tells whether one took it. -/
def offer (stage : Stage) (event : Event) : Bool × Stage :=
  let claim := stage.queue.claim stage.holder event
  (claim.winner.isSome, stage.applyClaim claim)

def requestStop (stage : Stage) (handle : StopId) : Stage :=
  let asked := { stage with stops := stage.stops.request handle }
  asked.wakeAll ((asked.stops.reached handle).flatMap fun other =>
    (asked.readers.filter fun reader => reader.stop = other).map (·.task) ++
      asked.tasksWhere fun task => task.heeds stage.botStop other)

def modifyReader (stage : Stage) (id : ReaderId) (change : Reader → Reader) : Stage :=
  { stage with readers := stage.readers.modify id change }

def wakeWatchers (stage : Stage) (id : ReaderId) : Stage :=
  stage.wakeAll (stage.tasksWhere fun task => task.watches id)

def readerId? (stage : Stage) (name : String) : Option ReaderId :=
  stage.readers.findIdx? fun reader => reader.name = some name

/-- Adds a reader that starts. One that had the name before loses it. -/
def addReader (stage : Stage) (name : Option String) (stop : StopId) (source : Source)
    (feed : Option FeedId) (quiet : Bool) : Stage :=
  let free := match name.bind stage.readerId? with
    | some old => stage.modifyReader old fun reader => { reader with name := none }
    | none => stage
  let reader : Reader :=
    ⟨name, free.tasks.length, stop, source, none, feed, .starting, .connecting, 0, quiet, none,
      false⟩
  { free with readers := free.readers ++ [reader] }.spawn (.ofWork (.reading free.readers.length))

def startBotReader (stage : Stage) (name : Option String) (key : String) : Stage :=
  let (stop, stops) := stage.stops.addChild stage.botStop
  { stage with stops := stops }.addReader name stop (.server key) none stage.quiet

def modifyFeed (stage : Stage) (id : FeedId) (change : Feed → Feed) : Stage :=
  { stage with feeds := stage.feeds.modify id change }

def wakeReaderOf (stage : Stage) (id : FeedId) : Stage :=
  stage.wakeAll ((stage.readers.filter fun reader => reader.feed = some id).map (·.task))

def feedId? (stage : Stage) (name : String) : Option FeedId :=
  stage.feeds.findIdx? fun feed => feed.name = some name

/-- Puts a signal into a feed; tells whether it can still be read. -/
def offerFeed (stage : Stage) (id : FeedId) (signal : ReaderSignal) : Bool × Stage :=
  match stage.feeds[id]? with
  | none => (false, stage)
  | some feed =>
    let (accepted, fed) := feed.offer signal
    (accepted, (stage.modifyFeed id fun _ => fed).wakeReaderOf id)

/-- Puts no more into a feed. -/
def endFeed (stage : Stage) (id : FeedId) : Stage :=
  (stage.modifyFeed id fun feed => { feed with ended := true }).wakeReaderOf id

/-- Adds a feed. One that had the name before ends and loses its name. -/
def addFeed (stage : Stage) (name : Option String) : FeedId × Stage :=
  let free := match name.bind stage.feedId? with
    | some old => (stage.endFeed old).modifyFeed old fun feed => { feed with name := none }
    | none => stage
  (free.feeds.length, { free with feeds := free.feeds ++ [.ofName name] })

/-- If nobody holds the bot any more, its readers are asked to stop and its session is given
back. -/
def releaseBot (stage : Stage) : Stage :=
  if stage.botGone || stage.held ||
      stage.tasks.any (fun task => task.holdsBot && !task.isOver) then stage
  else
    let stopped := { stage with botGone := true }.requestStop stage.botStop
    match stopped.session with
    | none => stopped
    | some session =>
      { stopped with session := none }.spawn (.ofActivity none false do
        let _ ← Activity.perform (.request session.releaseRequest)
        return .silent)

def endTask (stage : Stage) (id : TaskId) : Stage :=
  ((stage.clearTimers id).setWork id .over).releaseBot

end Stage
end Switchboard.Rehearsal
