import Switchboard.Rehearsal.Account
import Switchboard.Service.Basic

set_option autoImplicit false

namespace Switchboard.Rehearsal

/-- A stream that the server hands out: its frames are there already, and it may end after them. -/
structure StreamPlan where
  frames : List String
  ended : Bool

/-- What a service comes to. -/
inductive Course where
  /-- The session could not be started. -/
  | refused (error : ServiceError) (traffic : List Traffic)
  | ran (session : Option Session) (opening traffic : List Traffic) (elapsed : Nat)
      (result : Except ServiceError Unit) (log : List Entry)

namespace Stage

/-- Adds a stream that the server hands out, or an error in the place of one. -/
def addStream (stage : Stage) : Except TransportError StreamPlan → Stage
  | .error error => { stage with server := stage.server.addStream (.error error) }
  | .ok plan =>
    let (id, fed) := stage.addFeed none
    let filled := fed.modifyFeed id fun feed =>
      { feed with pending := plan.frames.map .frame, ended := plan.ended }
    { filled with server := filled.server.addStream (.ok id) }

/-- Runs a service on its session. The shutdown comes after a time, if it comes. -/
def serve (stage : Stage) (session : Option Session) (opening : List Traffic)
    (shutdown : Option Nat) : Option Course := do
  let deadline := shutdown.map fun span => stage.now + span
  let (result, ended) ← stage.play (Service.run deadline)
  return .ran session opening ended.traffic (ended.now - stage.now) result ended.log

/-- Starts the session of a service and runs the service with a job. There is no course if the
service would wait for ever. -/
def course (stage : Stage) (config : Config) (job : Job) (shutdown : Option Nat) :
    Option Course := do
  let given := { stage with job := job.perform config.stream }
  let (opened, started) ← given.play (Service.startSession config.session).run
  match opened with
  | .error error => return .refused (.api error) started.traffic
  | .ok _ => started.told.serve started.session started.traffic shutdown

end Stage

namespace Course

def sessionAccount (session : Session) : Json :=
  .ofMembers [("key", .str session.key), ("bot_id", session.botId.encode)]

def account : Course → Json
  | .refused error traffic =>
    .ofMembers [("session", error.report), ("requests", .array (traffic.map trafficAccount))]
  | .ran session opening traffic elapsed result log =>
    .ofMembers [("session", .ofOption sessionAccount session),
      ("opening", .array (opening.map trafficAccount)),
      ("requests", .array (traffic.map trafficAccount)), ("elapsed_ms", .int elapsed),
      ("run", Report.outcome ServiceError.report plainSuccess result),
      ("log", .array (logAccount log))]

end Course
end Switchboard.Rehearsal
