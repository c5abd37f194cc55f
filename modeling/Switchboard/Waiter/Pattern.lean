import Switchboard.Event.Basic
import Switchboard.Text.Parts

set_option autoImplicit false

namespace Switchboard

/-- A predicate over events. It may fail on an event instead of answering, and looking at an event
may make the holders of other waiters withdraw them. -/
inductive Pattern where
  | any
  | never
  | fromUser (user : UserId)
  | fromGroup (group : GroupId)
  | fromTemp (member : TempId)
  /-- Messages that quote a message. -/
  | replying (id : MessageId)
  | textEq (text : String)
  | contains (text : String)
  /-- All of the patterns; the first that does not accept decides. -/
  | all (patterns : List Pattern)
  /-- Fails on every event. -/
  | fails (reason : String)
  /-- Withdraws the waiter kept under a name, then goes on with another pattern. -/
  | withdrawing (name : String) (next : Pattern)

/-- The answer of a pattern. -/
inductive Verdict where
  | accepts
  | rejects
  | fails (reason : String)
deriving DecidableEq

namespace Verdict

def ofBool (accepted : Bool) : Verdict := if accepted then .accepts else .rejects

end Verdict

namespace Pattern

def onMessage (event : Event) (condition : ReceivedMessage → Bool) : Verdict :=
  .ofBool (event.received?.any condition)

mutual

/-- The answer to an event, after the names of the waiters withdrawn on the way. -/
def evaluate (event : Event) : Pattern → List String × Verdict
  | .any => ([], .accepts)
  | .never => ([], .rejects)
  | .fromUser user => ([], .ofBool (event.user? = some user))
  | .fromGroup group => ([], .ofBool (event.group? = some group))
  | .fromTemp member =>
    ([], .ofBool (event.user? = some member.user && event.group? = some member.group))
  | .replying id => ([], onMessage event fun message => message.quote.any (·.id = id))
  | .textEq text => ([], onMessage event (·.plainText = text))
  | .contains text =>
    ([], onMessage event fun message => Text.occursIn text.toList message.plainText.toList)
  | .all patterns => evaluateAll event patterns
  | .fails reason => ([], .fails reason)
  | .withdrawing name next =>
    let (names, verdict) := evaluate event next
    (name :: names, verdict)

/-- The answer of the first pattern that does not accept. -/
def evaluateAll (event : Event) : List Pattern → List String × Verdict
  | [] => ([], .accepts)
  | pattern :: rest =>
    match evaluate event pattern with
    | (names, .accepts) =>
      let (later, verdict) := evaluateAll event rest
      (names ++ later, verdict)
    | refused => refused

end

def accepts (pattern : Pattern) (event : Event) : Bool :=
  (pattern.evaluate event).2 = .accepts

end Pattern
end Switchboard
