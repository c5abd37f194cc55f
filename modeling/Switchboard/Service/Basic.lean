import Switchboard.Api.Management
import Switchboard.Config.Basic
import Switchboard.Session.Lifecycle

set_option autoImplicit false

namespace Switchboard.Service

/-- Binds the session that is configured, and changes its settings if any are configured. -/
def startSession (settings : SessionSettings) : Call Unit := do
  Session.authorize settings.authKey settings.botId
  match settings.sessionConfig? with
  | some config => Api.setSessionConfig config
  | none => return ()

/-- How long a task may go on after a shutdown, in milliseconds. -/
def grace : Nat := 5000

/-- Waits for the end of the task. A shutdown asks the bot to stop; a task that does not end in time
is given up and counts as done. -/
def awaitEnd (shutdown : Option Instant) : Activity (Except ServiceError Unit) := do
  match ← Activity.perform (.awaitTask shutdown) with
  | some result => return result
  | none =>
    Activity.perform .requestStop
    let now ← Activity.perform .now
    match ← Activity.perform (.awaitTask (some (now + grace))) with
    | some result => return result
    | none =>
      Activity.perform .giveUpTask
      return .ok ()

/-- Runs the task, then gives the session back. -/
def run (shutdown : Option Instant) : Activity (Except ServiceError Unit) := do
  Activity.perform .beginTask
  let outcome ← awaitEnd shutdown
  if (← Activity.perform .session).isSome then
    let _ ← Session.release.run
  return outcome.mapError fun error => .task error.message

/-- A whole service: it starts its session, and if that succeeds it runs. It ends with its task, or
some time after a shutdown at the latest, and gives the session back in every case. -/
def serve (settings : SessionSettings) (shutdown : Option Instant) :
    Activity (Except ServiceError Unit) := do
  match ← (startSession settings).run with
  | .error error => return .error (.api error)
  | .ok () => run shutdown

/-- Runs a service on a client of its own. The client has no transport, so the first request of the
session ends it. -/
def launch (config : Config) : Except ServiceError Unit :=
  match Client.connect config.connection with
  | .error error => .error (.transport error)
  | .ok _ => .error (.api (.transport Client.requestError))

end Switchboard.Service
