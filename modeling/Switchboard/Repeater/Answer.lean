import Switchboard.Api.Messaging
import Switchboard.Repeater.History
import Switchboard.Text.Blank

set_option autoImplicit false

namespace Switchboard.Repeater

/-- Why a message was not handled to its end. -/
inductive Fault where
  | api (error : ApiError)
  | wait (error : WaitError)
  /-- The handling panicked. -/
  | crash (reason : String)
deriving DecidableEq

def Fault.message : Fault → String
  | .api error => error.message
  | .wait error => error.message
  | .crash reason => reason

abbrev Handling (α : Type) := ExceptT Fault Activity α

def calling {α : Type} (call : Call α) : Handling α :=
  ExceptT.mk do return (← call.run).mapError .api

/-- How long an answer is waited for, in milliseconds. -/
def answerTime : Nat := 30000

/-- The messages that answer somebody in a chat. A temporary chat is answered as a friend. -/
def answerPattern (asker : UserId) : ReplyTarget → EventKind × Pattern
  | .group group => (.groupMessage, .all [.fromUser asker, .fromGroup group])
  | _ => (.friendMessage, .fromUser asker)

def awaitAnswer (asker : UserId) (target : ReplyTarget) : Handling (Option String) := do
  let (kind, pattern) := answerPattern asker target
  match ← ExceptT.lift (Activity.awaitWithin kind pattern (.ofMillis answerTime)) with
  | none => throw (.crash Instant.overflow)
  | some (.error error) => throw (.wait error)
  | some (.ok event) => return (event.bind Event.received?).map ReceivedMessage.plainText

def ask (asker : UserId) (origin : Api.Origin) : Handling Unit := do
  let _ ← calling (Api.reply origin (.ofText "What is your favourite colour?"))
  match ← awaitAnswer asker origin.target with
  | some colour =>
    let _ ← calling (Api.quoteReply origin (.ofText (colour ++ " is a fine colour.")))
  | none =>
    let _ ← calling (Api.reply origin (.ofText "Too slow!"))

/-- What a message asks for. -/
inductive Command where
  | ping
  | echo (text : String)
  | ask
  /-- Talk, to be repeated if it is said twice. -/
  | talk (text : String)
deriving DecidableEq

def echoed? : List Char → Option (List Char)
  | '/' :: 'e' :: 'c' :: 'h' :: 'o' :: ' ' :: rest => some rest
  | _ => none

/-- The command of a text, without the white space around it. -/
def Command.ofText (text : String) : Command :=
  let trimmed := Text.trim text
  if trimmed = "/ping" then .ping
  else
    match echoed? trimmed.toList with
    | some rest => .echo (String.ofList rest)
    | none => if trimmed = "/ask" then .ask else .talk trimmed

/-- Repeats talk in a group, if it is time to. -/
def repeatTalk (origin : Api.Origin) (content : Message) (text : String) : Handling Unit := do
  match origin.target with
  | .group group =>
    if text = "" then return ()
    else if ← ExceptT.lift (Activity.perform (.recordText group text)) then
      let _ ← calling (Api.sendMessage origin.target content none)
  | _ => return ()

/-- Handles an event; only messages are answered. `/ping` and `/echo` are answered at once, `/ask`
asks a question and waits for the answer of the same person, and a text that is said twice in a
group is repeated. -/
def handle (event : Event) : Handling Unit := do
  match event.message? with
  | none => return ()
  | some (message, sender, target) =>
    let origin : Api.Origin := ⟨target, message.source.id⟩
    match Command.ofText message.plainText with
    | .ping =>
      let _ ← calling (Api.reply origin (.ofText "Pong!"))
    | .echo text =>
      let _ ← calling (Api.reply origin (.ofText text))
    | .ask => ask sender origin
    | .talk text => repeatTalk origin message.content text

end Switchboard.Repeater
