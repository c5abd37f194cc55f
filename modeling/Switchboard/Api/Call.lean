import Switchboard.Activity.Basic

set_option autoImplicit false

namespace Switchboard

abbrev Call (α : Type) := ExceptT ApiError Activity α

namespace Call

def perform (op : Op) : Call op.Answer := ExceptT.lift (Activity.perform op)

/-- Goes on with a result, or ends with its error. -/
def ofExcept {α : Type} (result : Except ApiError α) : Call α := ExceptT.mk (pure result)

/-- The code of an answer, if it holds one of 64 bits with a sign. -/
def codeOf (response : Json) : Option Int :=
  match response.member? "code" with
  | some (.int code) => if code < 9223372036854775808 then some code else none
  | _ => none

/-- An answer is refused if its code is not zero. An answer without a code is taken as it is. -/
def checkStatus (response : Json) : Except ApiError Json :=
  match codeOf response with
  | none => .ok response
  | some code => if code = 0 then .ok response else .error (.ofCode code)

def send (request : Request) : Call Json := do
  match ← perform (.request request) with
  | .ok response => ofExcept (checkStatus response)
  | .error error => throw (.transport error)

def sessionKey : Call String := do
  match ← perform .session with
  | some session => return session.key
  | none => throw .notAuthorized

def decode {α : Type} (decoder : Shape.Decoder α) (response : Json) : Except ApiError α :=
  (decoder response).mapError fun fault => .response fault.message

def decodeMember {α : Type} (decoder : Shape.Decoder α) (name : String) (response : Json) :
    Except ApiError α :=
  match response.member? name with
  | none => .error (.response ("missing " ++ Shape.ticked name))
  | some value => decode decoder value

def post (path : String) (members : List (String × Json)) : Call Json := do
  let key ← sessionKey
  send (.postJson path (.ofMembers (members ++ [("sessionKey", .str key)])))

/-- Posts members and reads nothing from the answer. -/
def command (path : String) (members : List (String × Json)) : Call Unit := do
  let _ ← post path members

/-- Asks with a query that starts with the key of the session. -/
def ask (path : String) (query : List (String × String)) : Call Json := do
  let key ← sessionKey
  send (.get path (("sessionKey", key) :: query))

def askFor {α : Type} (decoder : Shape.Decoder α) (path : String)
    (query : List (String × String)) : Call α := do
  ofExcept (decode decoder (← ask path query))

end Call
end Switchboard
