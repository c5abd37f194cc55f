import Switchboard.Rehearsal.Stage

set_option autoImplicit false

namespace Switchboard.Rehearsal

/-- What comes of looking at an operation. -/
inductive Attempt (α : Type) where
  | answered (answer : α) (stage : Stage)
  | blocked (progress : Progress) (stage : Stage)

namespace Stage

/-- The content of a file, or the fault as an error of the transport. -/
def fetch (stage : Stage) (path : String) : Except TransportError (List UInt8) :=
  (stage.folder.read path).mapError fun fault => .io fault.message

def answerAt {α : Type} (stage : Stage) (id : TaskId) (time : Instant) (answer : α)
    (progress : Progress) : Progress → Attempt α
  | .fresh =>
    if time ≤ stage.now then .answered answer stage
    else .blocked progress (stage.setTimer time id)
  | _ => if time ≤ stage.now then .answered answer stage else .blocked progress stage

/-- Makes a request; the reply is decided at once and may be on its way for a time. -/
def attemptRequest (stage : Stage) (id : TaskId) (request : Request) :
    Progress → Attempt (Except TransportError Json)
  | .arriving due result =>
    stage.answerAt id due result (.arriving due result) (.arriving due result)
  | _ =>
    let (reply, server) := stage.server.takeReply request.path
    let due := stage.now + reply.delay
    let traffic := stage.traffic ++ [Traffic.request request]
    let sent := { stage with server := server, traffic := traffic }
    sent.answerAt id due reply.result (.arriving due reply.result) .fresh

/-- Looks for the outcome of a wait, then for its deadline. -/
def lookForEvent (stage : Stage) (ticket : Ticket) (deadline : Option Instant) :
    Attempt (Except WaitError (Option Event)) :=
  match ticket.collect stage.queue with
  | (some result, _, queue) => .answered (result.map some) { stage with queue := queue }
  | (none, _, _) =>
    if deadline.any (· ≤ stage.now) then
      match ticket.cancel stage.queue with
      | (some result, queue) => .answered result { stage with queue := queue }
      | (none, queue) => .blocked (.waiting ticket) { stage with queue := queue }
    else .blocked (.waiting ticket) stage

/-- Waits for an event. The waiter is registered first, even if the deadline has passed. -/
def attemptEvent (stage : Stage) (id : TaskId) (kind : EventKind) (pattern : Pattern)
    (deadline : Option Instant) : Progress → Attempt (Except WaitError (Option Event))
  | .waiting ticket => stage.lookForEvent ticket deadline
  | _ =>
    let (waiter, queue) := stage.queue.enqueue kind pattern
    let registered := { stage with queue := queue }
    let timed := match deadline with
      | some time => registered.setTimer time id
      | none => registered
    timed.lookForEvent (.fresh waiter kind) deadline

/-- Waits until a reader is seen reading, or is closed or crashed. -/
def attemptReading (stage : Stage) (reader : ReaderId) : Attempt Bool :=
  match stage.readers[reader]? with
  | none => .answered false stage
  | some state =>
    if state.published = .reading then .answered true stage
    else if state.published = .closed || state.crashed then .answered false stage
    else .blocked .asleep stage

def attemptResult (stage : Stage) (reader : ReaderId) : Attempt StreamResult :=
  match stage.readers[reader]?.bind (·.result) with
  | some result => .answered result stage
  | none => .blocked .asleep stage

def attemptPause (stage : Stage) (id : TaskId) (time : Instant) (progress : Progress) :
    Attempt Bool :=
  if stage.stops.isRequested stage.botStop then .answered true stage
  else stage.answerAt id time false .asleep progress

/-- Waits for the end of the job, or for the deadline. -/
def attemptJob (stage : Stage) (id : TaskId) (deadline : Option Instant) (progress : Progress) :
    Attempt (Option (Except ServiceError Unit)) :=
  match stage.jobEnd, deadline with
  | some result, _ => .answered (some result) stage
  | none, none => .blocked .asleep stage
  | none, some time => stage.answerAt id time none .asleep progress

def attempt (stage : Stage) (id : TaskId) (op : Op) (progress : Progress) : Attempt op.Answer :=
  match op with
  | .request request => stage.attemptRequest id request progress
  | .readFile path =>
    match progress with
    | .fetching => .answered (stage.fetch path) stage
    | _ => .blocked .fetching (stage.wake id)
  | .session => .answered stage.session stage
  | .bindSession session =>
    if stage.session.isSome then .answered false stage
    else .answered true { stage with session := some session }
  | .unbindSession session =>
    .answered () (if stage.session = some session then { stage with session := none } else stage)
  | .now => .answered stage.now stage
  | .sleepUntil time => stage.answerAt id time () .asleep progress
  | .awaitEvent kind pattern deadline => stage.attemptEvent id kind pattern deadline progress
  | .note entry => .answered () (stage.note entry)
  | .startReader key => .answered stage.readers.length (stage.startBotReader none key)
  | .awaitReading reader => stage.attemptReading reader
  | .awaitResult reader => stage.attemptResult reader
  | .stopRequested => .answered (stage.stops.isRequested stage.botStop) stage
  | .pause time => stage.attemptPause id time progress
  | .awaitStop handle =>
    if stage.stops.isRequested handle then .answered () stage else .blocked .asleep stage
  | .recordText group text =>
    let (repeats, history) := stage.history.record group text
    .answered repeats { stage with history := history }
  | .requestStop => .answered () (stage.requestStop stage.botStop)
  | .beginTask =>
    .answered () ({ stage with jobTask := some stage.tasks.length }.spawn
      (.ofActivity none true stage.job))
  | .giveUpTask =>
    .answered () (match stage.jobTask with
      | some task => stage.endTask task
      | none => stage)
  | .awaitTask deadline => stage.attemptJob id deadline progress

/-- What came of connecting so far. -/
inductive Connection where
  | waiting
  | ended (outcome : Except TransportError Unit)
  | crashed

def streamPath : String := "/all"

def openStream (stage : Stage) (id : ReaderId) (key : String) : Connection × Stage :=
  let (stream, server) := stage.server.takeStream streamPath
  let traffic := stage.traffic ++ [Traffic.opening streamPath [("sessionKey", key)]]
  let asked := { stage with server := server, traffic := traffic }
  match stream with
  | .ok feed =>
    (.ended (.ok ()), asked.modifyReader id fun reader => { reader with feed := some feed })
  | .error error => (.ended (.error error), asked)

def scriptedEnd : ConnectEnd → Connection
  | .succeeds => .ended (.ok ())
  | .fails error => .ended (.error error)
  | .never => .waiting
  | .crashes => .crashed

def connect (stage : Stage) (id : ReaderId) (reader : Reader) : Connection × Stage :=
  match reader.source with
  | .server key => stage.openStream id key
  | .scripted delay ending _ =>
    match reader.due with
    | some time => if time ≤ stage.now then (scriptedEnd ending, stage) else (.waiting, stage)
    | none =>
      if delay = 0 then (scriptedEnd ending, stage)
      else
        let due := stage.now + delay
        (.waiting, (stage.setTimer due reader.task).modifyReader id fun reader =>
          { reader with due := some due })

def abandonFeed (stage : Stage) (reader : Reader) : Stage :=
  match reader.feed with
  | some feed => stage.modifyFeed feed fun feed => { feed with abandoned := true }
  | none => stage

def finishReader (stage : Stage) (id : ReaderId) (result : StreamResult) : Stage :=
  match stage.readers[id]? with
  | none => stage
  | some reader =>
    let left := stage.abandonFeed reader
    let told := left.modifyReader id fun reader => { reader with result := some result }
    (told.endTask reader.task).wakeWatchers id

/-- A reader crashes: nothing is done any more, and its result is that it has none. -/
def crashReader (stage : Stage) (id : ReaderId) : Stage :=
  (stage.modifyReader id fun reader => { reader with crashed := true }).finishReader id
    (.error .dropped)

/-- Notes a failure of a reader, unless it is a quiet one. -/
def report (stage : Stage) (reader : Reader) (error : DispatchError) : Stage :=
  if reader.quiet then stage else stage.note (.fault error)

/-- The fallback callback of an event, as an activity. -/
def callback (stage : Stage) (id : ReaderId) (event : Event) : Activity Outcome := do
  return .callbackEnded id event (← (stage.cast.scriptOf event).run event)

def dispatch (stage : Stage) (id : ReaderId) (reader : Reader) (frame : String) : Stage :=
  match stage.queue.dispatch stage.holder frame with
  | .skipped error => stage.report reader (.undecodable error)
  | .offered event claim =>
    let claimed := stage.applyClaim claim
    if claim.winner.isSome then claimed
    else
      (claimed.modifyReader id fun reader =>
        { reader with inFlight := reader.inFlight + 1 }).spawn
          (.ofActivity none false (claimed.callback id event))

def act (id : ReaderId) (stage : Stage) (action : ReaderAction) : Stage :=
  match stage.readers[id]? with
  | none => stage
  | some reader =>
    match action with
    | .reopenQueue => { stage with queue := stage.queue.reopen }
    | .closeQueue reason => (stage.closeQueue reason).2
    | .publish state =>
      (stage.modifyReader id fun reader => { reader with published := state }).wakeWatchers id
    | .dispatch frame => stage.dispatch id reader frame
    | .closeStream =>
      match reader.feed with
      | some feed => stage.modifyFeed feed fun feed => { feed with closed := true }
      | none => stage
    | .finish result => stage.finishReader id result

/-- A reader looks at its stream and takes what it will act on. -/
def takeNext (stage : Stage) (reader : Reader) : Option ReaderSignal × Stage :=
  match reader.feed with
  | none => (none, stage)
  | some feed =>
    ((stage.feeds[feed]?.bind Feed.next?), stage.modifyFeed feed Feed.advance)

/-- A reader looks around. It does not go on connecting or reading once it is asked to stop. -/
def look (stage : Stage) (id : ReaderId) (reader : Reader) : Option ReaderView × Stage :=
  let stop := stage.stops.isRequested reader.stop
  match reader.phase, stop with
  | .connecting, false =>
    match stage.connect id reader with
    | (.waiting, next) => (some ⟨stop, none, none, reader.inFlight⟩, next)
    | (.ended outcome, next) => (some ⟨stop, some outcome, none, reader.inFlight⟩, next)
    | (.crashed, next) => (none, next.crashReader id)
  | .reading, false =>
    let (signal, next) := stage.takeNext reader
    (some ⟨stop, none, signal, reader.inFlight⟩, next)
  | _, _ => (some ⟨stop, none, none, reader.inFlight⟩, stage)

/-- A reader acts on one signal after the other, until there is none. -/
def read (id : ReaderId) : Nat → Stage → Stage
  | 0, stage => stage
  | fuel + 1, stage =>
    match stage.readers[id]? with
    | none => stage
    | some reader =>
      match stage.look id reader with
      | (none, crashed) => crashed
      | (some view, seen) =>
        match reader.phase.listen view with
        | none => seen
        | some signal =>
          let (phase, actions) := reader.phase.react signal
          let moved := seen.modifyReader id fun reader => { reader with phase := phase }
          read id fuel (actions.foldl (act id) moved)

/-- The turn of a reader. Beside the frames it acts on five signals at most. -/
def readerTurn (stage : Stage) (id : ReaderId) : Stage :=
  stage.read id (stage.feeds.foldl (fun count feed => count + feed.pending.length) 6)

/-- A task ends with a result, which is told if the task has a name. -/
def tell (stage : Stage) (id : TaskId) (result : Result) : Stage :=
  match stage.tasks[id]?.bind (·.name) with
  | some name =>
    let finished := stage.finished ++ [Finished.mk name stage.now result]
    { stage with finished := finished }.endTask id
  | none => stage.endTask id

/-- A callback ended. Its failure is noted and its stop requested before it counts as finished. -/
def concludeCallback (stage : Stage) (id : ReaderId) (event : Event) (ending : CallbackEnd) :
    Stage :=
  match stage.readers[id]? with
  | none => stage
  | some reader =>
    let reported := match ending.fault event.kind with
      | some fault => stage.report reader fault
      | none => stage
    let asked := if ending.stops then reported.requestStop reader.stop else reported
    let counted := asked.modifyReader id fun reader =>
      { reader with inFlight := reader.inFlight - 1 }
    if reader.inFlight = 1 then counted.wake reader.task else counted

/-- A task goes on with another activity, before any other task has its turn. -/
def goOn (stage : Stage) (id : TaskId) (activity : Activity Outcome) : Stage :=
  let more := stage.setWork id (.running activity)
  { more with ready := id :: more.ready.filter (· ≠ id) }

def conclude (stage : Stage) (id : TaskId) : Outcome → Stage
  | .named result => stage.tell id result
  | .callbackEnded reader event ending => (stage.concludeCallback reader event ending).endTask id
  | .round retry (.again attempt) job => stage.goOn id (monitoring retry attempt job)
  | .round _ .crashed _ => stage.endTask id
  | .round _ (.ended result) none => stage.tell id (.monitored result)
  | .round _ (.ended result) (some job) => stage.goOn id (job.afterMonitor result)
  | .jobEnded result => { stage with jobEnd := some result }.endTask id
  | .silent => stage.endTask id

/-- Runs an activity of a task until an operation is not answered. -/
def pursue (id : TaskId) : Activity Outcome → Stage → Stage
  | .done outcome, stage => stage.conclude id outcome
  | .step op next, stage =>
    match stage.attempt id op .fresh with
    | .answered answer after => pursue id (next answer) (after.clearTimers id)
    | .blocked progress after => after.setWork id (.blocked op progress next)

/-- The end of a task that was aborted. It gives its waiter up. -/
def abandon (stage : Stage) (id : TaskId) (task : Task) : Stage :=
  let free := match task.ticket? with
    | some ticket => { stage with queue := ticket.drop stage.queue }
    | none => stage
  free.endTask id

def turn (stage : Stage) (id : TaskId) : Stage :=
  match stage.tasks[id]? with
  | none => stage
  | some task =>
    if task.aborted && !task.isOver then stage.abandon id task
    else
      match task.work with
      | .running activity => pursue id activity stage
      | .blocked op progress next =>
        match stage.attempt id op progress with
        | .answered answer after => pursue id (next answer) (after.clearTimers id)
        | .blocked progress after => after.setWork id (.blocked op progress next)
      | .reading reader => stage.readerTurn reader
      | .removing waiter => { stage with queue := stage.queue.remove waiter }.endTask id
      | .over => stage

end Stage
end Switchboard.Rehearsal
