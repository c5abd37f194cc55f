import Switchboard.Activity.Basic

set_option autoImplicit false

namespace Switchboard.Rehearsal

/-- How long a scripted wait may take. -/
inductive Patience where
  | endless
  | within (span : Duration)
  /-- Until a time that counts from the start of the callback. -/
  | mark (offset : Nat)
deriving DecidableEq

/-- Waits for an event, for as long as the patience lasts. -/
def Patience.awaitEvent (start : Instant) (kind : EventKind) (pattern : Pattern) :
    Patience → Activity (Option (Except WaitError (Option Event)))
  | .endless => some <$> Activity.perform (.awaitEvent kind pattern none)
  | .within span => Activity.awaitWithin kind pattern span
  | .mark offset => some <$> Activity.perform (.awaitEvent kind pattern (some (start + offset)))

/-- One action of a callback. -/
inductive Action where
  | sleep (span : Nat)
  | wait (kind : EventKind) (pattern : Pattern) (patience : Patience)
  | fail (reason : String)
  | crash (reason : String)
  | stop

/-- What a callback does. -/
inductive Script where
  | acts (actions : List Action)
  /-- The call itself crashes. -/
  | vanishes

namespace Script

/-- Performs actions in order. A failure or a stop ends the callback. -/
def perform (event : Event) (start : Instant) : List Action → Activity CallbackEnd
  | [] => return .returned .proceed
  | .sleep span :: rest => do
    let now ← Activity.perform .now
    Activity.perform (.sleepUntil (now + span))
    perform event start rest
  | .wait kind pattern patience :: rest => do
    match ← patience.awaitEvent start kind pattern with
    | none => return .crashed Instant.overflow
    | some result =>
      Activity.perform (.note (.got event result))
      perform event start rest
  | .fail reason :: _ => return .failed reason
  | .crash reason :: _ => return .crashed reason
  | .stop :: _ => return .returned .stop

def noteEnd (event : Event) : CallbackEnd → Activity Unit
  | .returned flow => Activity.perform (.note (.finished event flow))
  | _ => return ()

/-- Acts after the begin was noted. The end is noted if the callback returns. -/
def act (event : Event) : Script → Activity CallbackEnd
  | .vanishes => return .vanished
  | .acts actions => do
    let start ← Activity.perform .now
    let ending ← perform event start actions
    noteEnd event ending
    return ending

def run (event : Event) (script : Script) : Activity CallbackEnd := do
  Activity.perform (.note (.begun event))
  script.act event

end Script

abbrev Cast := List (String × Script)

namespace Cast

/-- The name of an event: the text of a message, else the kind. -/
def nameOf (event : Event) : String :=
  match event.received? with
  | some message => message.plainText
  | none => event.kind.name

def script? (cast : Cast) (name : String) : Option Script :=
  (cast.find? fun entry => entry.1 = name).map (·.2)

/-- The script of an event. The name `*` stands for every event without a script of its own. -/
def scriptOf (cast : Cast) (event : Event) : Script :=
  ((cast.script? (nameOf event)).orElse fun _ => cast.script? "*").getD (.acts [])

end Cast
end Switchboard.Rehearsal
