import Switchboard.Config.Basic
import Switchboard.Rehearsal.Script
import Switchboard.Rehearsal.Server
import Switchboard.Repeater.Answer
import Switchboard.Session.Lifecycle
import Switchboard.Stream.Monitor

set_option autoImplicit false

namespace Switchboard.Rehearsal

/-- The number of a task, in the order of starting. -/
abbrev TaskId := Nat

/-- The result of a task with a name. -/
inductive Result where
  | slept
  | stopped
  | waited (result : Except WaitError (Option Event))
  | monitored (result : Except ServiceError Unit)
  | called (result : Except ApiError Json)
  | handled (result : Except Repeater.Fault Unit)

/-- The task of a service: it sleeps, keeps the event stream up, gives the session back and fails,
as far as it is told to. -/
structure Job where
  sleep : Nat
  monitor : Bool
  release : Bool
  failure : Option String
deriving DecidableEq

/-- What an activity comes to. -/
inductive Outcome where
  | named (result : Result)
  | callbackEnded (reader : ReaderId) (event : Event) (ending : CallbackEnd)
  /-- A round of a monitor ended. The monitor is a task of its own or a part of a job. -/
  | round (retry : Retry) (next : Monitor.Next) (job : Option Job)
  | jobEnded (result : Except ServiceError Unit)
  | silent

def monitoring (retry : Retry) (attempt : Nat) (job : Option Job) : Activity Outcome := do
  return .round retry (← Monitor.round retry attempt) job

namespace Job

def finish (job : Job) : Activity Outcome := do
  let released ← if job.release then Session.release.run else pure (.ok ())
  match released with
  | .error error => return .jobEnded (.error (.api error))
  | .ok _ =>
    return .jobEnded (match job.failure with
      | some reason => .error (.task reason)
      | none => .ok ())

def afterMonitor (job : Job) : Except ServiceError Unit → Activity Outcome
  | .error error => return .jobEnded (.error error)
  | .ok _ => job.finish

def perform (job : Job) (settings : StreamSettings) : Activity Outcome := do
  let now ← Activity.perform .now
  Activity.perform (.sleepUntil (now + job.sleep))
  if !job.monitor then job.finish
  else if settings.autoReconnect then monitoring settings.retry 0 (some job)
  else job.afterMonitor (← Monitor.once)

end Job

/-- How far an operation has come. -/
inductive Progress where
  | fresh
  | arriving (due : Instant) (result : Except TransportError Json)
  | fetching
  | waiting (ticket : Ticket)
  | asleep

/-- What a task has to do. -/
inductive Work where
  | running (activity : Activity Outcome)
  | blocked (op : Op) (progress : Progress) (next : op.Answer → Activity Outcome)
  | reading (reader : ReaderId)
  /-- Takes the slot of a withdrawn waiter out of the queue. -/
  | removing (waiter : WaiterId)
  | over

/-- A task: an activity that runs until an operation is not answered at once, is woken when the
answer may have come, and looks again. -/
structure Task where
  name : Option String
  work : Work
  holdsBot : Bool
  aborted : Bool

namespace Task

def ofActivity (name : Option String) (holdsBot : Bool) (activity : Activity Outcome) : Task :=
  ⟨name, .running activity, holdsBot, false⟩

def ofWork (work : Work) : Task := ⟨none, work, false, false⟩

def isOver (task : Task) : Bool :=
  match task.work with
  | .over => true
  | _ => false

def ticket? (task : Task) : Option Ticket :=
  match task.work with
  | .blocked _ (.waiting ticket) _ => some ticket
  | _ => none

def watches (task : Task) (reader : ReaderId) : Bool :=
  match task.work with
  | .blocked (.awaitReading other) _ _ => other = reader
  | .blocked (.awaitResult other) _ _ => other = reader
  | _ => false

/-- Does a task wait for a stop request on a handle? The one of the bot is given. -/
def heeds (task : Task) (botStop handle : StopId) : Bool :=
  match task.work with
  | .blocked (.awaitStop other) _ _ => other = handle
  | .blocked (.pause _) _ _ => handle = botStop
  | _ => false

end Task
end Switchboard.Rehearsal
