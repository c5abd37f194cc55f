import Switchboard.Rehearsal.Run

set_option autoImplicit false

namespace Switchboard.Rehearsal

/-- How a reader is started by the player. -/
structure ReaderPlan where
  name : String
  delay : Nat
  ending : ConnectEnd
  /-- The name of the stop handle to use. -/
  stop : Option String
  quiet : Bool

/-- A step of the player, on the queue of waiters, on readers and their feeds, or on the bot. After
each the tasks do what can be done. The steps that need the bot do nothing once the player has given
it up. -/
inductive Step where
  | enqueue (name : String) (kind : EventKind) (pattern : Pattern)
  | claim (event : Except DecodeError Event)
  | poll (name : String)
  | cancel (name : String)
  | drop (name : String)
  | showWaiter (name : String)
  | cancelAll (reason : WaitError)
  | close (reason : WaitError)
  | reopen
  | wait (name : String) (kind : EventKind) (pattern : Pattern) (patience : Patience)
  | abort (name : String)
  | advance (span : Nat)
  | batch (steps : List Step)
  | debug
  | start (plan : ReaderPlan)
  | feed (name frame : String)
  | fail (name : String) (error : TransportError)
  | finish (name : String)
  | stop (name : String)
  | awaitState (name : String) (state : StreamState)
  | showReader (name : String)
  | newStop (name : String) (parent : Option String)
  | requestStop (name : String)
  | stops
  | waitStopped (name handle : String)
  | dropBot
  | respond (path : String) (reply : Reply)
  | pushStream (stream : Except TransportError String)
  | startStream (name : String)
  | monitor (name : String) (retry : Option Retry)
  | stopBot
  | sleep (name : String) (patience : Patience)
  | writeFile (name : String) (bytes : List UInt8)
  | demo (name : String) (event : Except DecodeError Event)
  | call (name : Option String) (call : Call Json)

/-- What a step is answered. -/
inductive Answer where
  | nothing
  | flag (value : Bool)
  | text (value : String)
  | count (value : Nat)
  | pending
  | gone
  | noBot
  | claimed
  | unclaimed (event : Event)
  | undecodable (error : DecodeError)
  | outcome (result : Except WaitError (Option Event))
  | called (result : Except ApiError Json)
  | stopTable (entries : List (String × Bool))
  | several (answers : List Answer)

namespace Stage

def enqueue (stage : Stage) (name : String) (kind : EventKind) (pattern : Pattern) :
    Answer × Stage :=
  let (id, queue) := stage.queue.enqueue kind pattern
  (.text ("w" ++ toString id),
    { stage with queue := queue }.keepTicket name (.fresh id kind))

def claim (stage : Stage) : Except DecodeError Event → Answer × Stage
  | .error error => (.undecodable error, stage)
  | .ok event =>
    let (taken, after) := stage.offer event
    (if taken then .claimed else .unclaimed event, after)

def poll (stage : Stage) (name : String) : Answer × Stage :=
  match stage.ticket? name with
  | none => (.gone, stage)
  | some ticket =>
    match ticket.collect stage.queue with
    | (none, _, _) => (.pending, stage)
    | (some result, settled, queue) =>
      (.outcome (result.map some), { stage with
        queue := queue
        tickets := stage.tickets.map fun entry =>
          if entry.1 = name then (name, settled) else entry })

def cancel (stage : Stage) (name : String) : Answer × Stage :=
  match stage.ticket? name with
  | none => (.gone, stage)
  | some ticket =>
    let (result, queue) := ticket.cancel stage.queue
    (match result with
      | some result => .outcome result
      | none => .pending, { stage.removeTicket name with queue := queue })

def drop (stage : Stage) (name : String) : Answer × Stage :=
  (.flag (stage.ticket? name).isSome, stage.dropTicket name)

def showWaiter (stage : Stage) (name : String) : Answer :=
  match stage.ticket? name with
  | some ticket => .text ticket.display
  | none => .gone

def perform (stage : Stage) (name : String) (holdsBot : Bool) (activity : Activity Outcome) :
    Stage :=
  stage.spawn (.ofActivity (some name) holdsBot activity)

/-- Waits for an event, for as long as the patience lasts. -/
def waiting (kind : EventKind) (pattern : Pattern) (patience : Patience) : Activity Outcome := do
  match ← patience.awaitEvent 0 kind pattern with
  | none => return .silent
  | some result => return .named (.waited result)

def sleeping : Patience → Activity Outcome
  | .endless => return .named .slept
  | .within span => do
    match (← Activity.perform .now).after? span with
    | none => return .silent
    | some time =>
      Activity.perform (.sleepUntil time)
      return .named .slept
  | .mark offset => do
    Activity.perform (.sleepUntil offset)
    return .named .slept

def untilStopped (handle : StopId) : Activity Outcome := do
  Activity.perform (.awaitStop handle)
  return .named .stopped

/-- The tasks with a name are abandoned at their next turns. -/
def abort (stage : Stage) (name : String) : Stage :=
  let ids := stage.tasksWhere fun task => task.name = some name && !task.isOver
  let mark := fun (tasks : List Task) (id : TaskId) =>
    tasks.modify id fun task => { task with aborted := true }
  { stage with tasks := ids.foldl mark stage.tasks }.wakeAll ids

def handle? (stage : Stage) (name : String) : Option StopId :=
  (stage.handles.find? fun entry => entry.1 = name).map (·.2)

def keepHandle (stage : Stage) (name : String) (handle : StopId) : Stage :=
  { stage with
    handles := stage.handles.filter (fun entry => entry.1 ≠ name) ++ [(name, handle)] }

def newStop (stage : Stage) (name : String) (parent : Option String) : Stage :=
  let (handle, stops) := match parent.bind stage.handle? with
    | some parent => stage.stops.addChild parent
    | none => stage.stops.addRoot
  { stage with stops := stops }.keepHandle name handle

def startReader (stage : Stage) (plan : ReaderPlan) : Stage :=
  let (feed, fed) := stage.addFeed (some plan.name)
  let (stop, stops) := match plan.stop.bind stage.handle? with
    | some handle => (handle, fed.stops)
    | none => fed.stops.addRoot
  { fed with stops := stops }.addReader (some plan.name) stop
    (.scripted plan.delay plan.ending feed) (some feed) plan.quiet

def feed (stage : Stage) (name : String) (signal : ReaderSignal) : Answer × Stage :=
  match stage.feedId? name with
  | none => (.gone, stage)
  | some id =>
    let (accepted, after) := stage.offerFeed id signal
    (.flag accepted, after)

def finishFeed (stage : Stage) (name : String) : Answer × Stage :=
  match stage.feedId? name with
  | none => (.gone, stage)
  | some id => (.nothing, stage.endFeed id)

def reader? (stage : Stage) (name : String) : Option Reader :=
  stage.readers.find? fun reader => reader.name = some name

def stopReader (stage : Stage) (name : String) : Answer × Stage :=
  match stage.reader? name with
  | none => (.gone, stage)
  | some reader => (.nothing, stage.requestStop reader.stop)

/-- Is a reader in a state? It will never be once it is closed or has crashed. -/
def seesState (stage : Stage) (name : String) (state : StreamState) : Answer :=
  match stage.reader? name with
  | none => .gone
  | some reader =>
    if reader.published = state then .flag true
    else if reader.published = .closed || reader.crashed then .flag false
    else .pending

def showReader (stage : Stage) (name : String) : Answer :=
  match stage.reader? name with
  | none => .gone
  | some reader =>
    .text ("StreamHandle \x7b state: " ++ reader.published.label ++
      ", stop_requested: " ++ toString (stage.stops.isRequested reader.stop) ++ " \x7d")

def display (stage : Stage) : String :=
  if stage.held then
    let account := match stage.session with
      | some session => "Some(UserId(" ++ toString session.botId.number ++ "))"
      | none => "None"
    "Bot \x7b bot_id: " ++ account ++ ", queue: " ++ stage.queue.display ++ ", .. \x7d"
  else stage.queue.display

def pushStream (stage : Stage) : Except TransportError String → Stage
  | .error error => { stage with server := stage.server.addStream (.error error) }
  | .ok name =>
    let (feed, fed) := stage.addFeed (some name)
    { fed with server := fed.server.addStream (.ok feed) }

def startStream (stage : Stage) (name : String) : Answer × Stage :=
  match stage.session with
  | none => (.called (.error .notAuthorized), stage)
  | some session => (.text "ok", stage.startBotReader (some name) session.key)

def startMonitor (stage : Stage) (name : String) : Option Retry → Stage
  | none => stage.perform name true do return .named (.monitored (← Monitor.once))
  | some retry => stage.perform name true (monitoring retry 0 none)

/-- A call of the player, in its own task if it has a name. -/
def call (stage : Stage) (call : Call Json) : Option String → Answer × Stage
  | some name => (.nothing, stage.perform name true do return .named (.called (← call.run)))
  | none =>
    match stage.play call.run with
    | some (result, after) => (.called result, after)
    | none => (.pending, stage)

def demo (stage : Stage) (name : String) : Except DecodeError Event → Answer × Stage
  | .error error => (.undecodable error, stage)
  | .ok event =>
    (.nothing, stage.perform name true do
      match ← (Repeater.handle event).run with
      | .error (.crash _) => return .silent
      | result => return .named (.handled result))

/-- Does something if the player holds the bot. -/
def withBot (stage : Stage) (next : Stage → Answer × Stage) : Answer × Stage :=
  if stage.held then next stage else (.noBot, stage)

end Stage

mutual

/-- Does a step. The tasks do not have their turns yet. -/
def Step.perform : Step → Stage → Answer × Stage
  | .enqueue name kind pattern, stage => stage.enqueue name kind pattern
  | .claim event, stage => stage.claim event
  | .poll name, stage => stage.poll name
  | .cancel name, stage => stage.cancel name
  | .drop name, stage => stage.drop name
  | .showWaiter name, stage => (stage.showWaiter name, stage)
  | .cancelAll reason, stage =>
    let (count, after) := stage.cancelAll reason
    (.count count, after)
  | .close reason, stage =>
    let (count, after) := stage.closeQueue reason
    (.count count, after)
  | .reopen, stage => (.nothing, { stage with queue := stage.queue.reopen })
  | .wait name kind pattern patience, stage =>
    (.nothing, stage.perform name stage.held (Stage.waiting kind pattern patience))
  | .abort name, stage => (.nothing, stage.abort name)
  | .advance span, stage => (.nothing, stage.pass span)
  | .batch steps, stage =>
    let (answers, after) := Step.performAll steps stage
    (.several answers, after)
  | .debug, stage => (.text stage.display, stage)
  | .start plan, stage => (.nothing, stage.startReader plan)
  | .feed name frame, stage => stage.feed name (.frame frame)
  | .fail name error, stage => stage.feed name (.failed error)
  | .finish name, stage => stage.finishFeed name
  | .stop name, stage => stage.stopReader name
  | .awaitState name state, stage => (stage.seesState name state, stage)
  | .showReader name, stage => (stage.showReader name, stage)
  | .newStop name parent, stage => (.nothing, stage.newStop name parent)
  | .requestStop name, stage =>
    match stage.handle? name with
    | some handle => (.nothing, stage.requestStop handle)
    | none => (.gone, stage)
  | .stops, stage =>
    (.stopTable (stage.handles.map fun entry => (entry.1, stage.stops.isRequested entry.2)), stage)
  | .waitStopped name handle, stage =>
    match stage.handle? handle with
    | some handle => (.nothing, stage.perform name false (Stage.untilStopped handle))
    | none => (.gone, stage)
  | .dropBot, stage =>
    stage.withBot fun stage => (.nothing, { stage with held := false }.releaseBot)
  | .respond path reply, stage =>
    stage.withBot fun stage => (.nothing, { stage with server := stage.server.addReply path reply })
  | .pushStream stream, stage => stage.withBot fun stage => (.nothing, stage.pushStream stream)
  | .startStream name, stage => stage.withBot fun stage => stage.startStream name
  | .monitor name retry, stage =>
    stage.withBot fun stage => (.nothing, stage.startMonitor name retry)
  | .stopBot, stage =>
    stage.withBot fun stage => (.flag true, stage.requestStop stage.botStop)
  | .sleep name patience, stage =>
    stage.withBot fun stage => (.nothing, stage.perform name true (Stage.sleeping patience))
  | .writeFile name bytes, stage =>
    stage.withBot fun stage => (.nothing, { stage with folder := stage.folder.write name bytes })
  | .demo name event, stage => stage.withBot fun stage => stage.demo name event
  | .call name action, stage => stage.withBot fun stage => stage.call action name

def Step.performAll : List Step → Stage → List Answer × Stage
  | [], stage => ([], stage)
  | step :: rest, stage =>
    let (answer, after) := step.perform stage
    let (answers, final) := Step.performAll rest after
    (answer :: answers, final)

end

end Switchboard.Rehearsal
