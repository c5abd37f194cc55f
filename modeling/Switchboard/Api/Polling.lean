import Switchboard.Api.Call

set_option autoImplicit false

namespace Switchboard.Api

/-- The ways to ask for events that the server keeps. -/
inductive Poll where
  | fetch
  | fetchLatest
  | peek
  | peekLatest
deriving DecidableEq

def Poll.path : Poll → String
  | .fetch => "/fetchMessage"
  | .fetchLatest => "/fetchLatestMessage"
  | .peek => "/peekMessage"
  | .peekLatest => "/peekLatestMessage"

/-- The events among values; what is none is skipped. -/
def eventsOf (values : List Json) : List Event :=
  values.filterMap fun value => (Event.ofJson value).toOption

def pollEvents (poll : Poll) (count : Nat) : Call (List Event) := do
  let response ← Call.ask poll.path [("count", toString count)]
  let values ← Call.ofExcept (Call.decodeMember (Shape.list Except.ok) "data" response)
  return eventsOf values

def messageFromId (id : MessageId) : Call Event := do
  let response ← Call.ask "/messageFromId" [("id", toString id.number)]
  let value ← Call.ofExcept (Call.decodeMember Except.ok "data" response)
  Call.ofExcept ((Event.ofJson value).mapError fun error => .response error.message)

def countDecoder : Shape.Decoder Nat := Shape.natUpTo 18446744073709551615 "usize"

def countMessage : Call Nat := do
  Call.ofExcept (Call.decodeMember countDecoder "data" (← Call.ask "/countMessage" []))

end Switchboard.Api
