import Switchboard.Api.Call

set_option autoImplicit false

namespace Switchboard.Session

def releaseRequest (session : Session) : Request :=
  .postJson "/release" (.ofMembers [("sessionKey", .str session.key), ("qq", session.botId.encode)])

/-- Opens a session: the server gives a key for the secret of the account. -/
def openRequest (authKey : String) : Request :=
  .postJson "/auth" (.ofMembers [("authKey", .str authKey)])

/-- Ties an open session to an account. -/
def verifyRequest (session : Session) : Request :=
  .postJson "/verify" (.ofMembers [("sessionKey", .str session.key), ("qq", session.botId.encode)])

def keyOf (response : Json) : Except ApiError String :=
  match (response.member? "session").bind Json.str? with
  | some key => .ok key
  | none => .error (.response ("missing " ++ Shape.ticked "session"))

/-- Opens a session for an account and binds it. Another party may bind one between the two
requests; whoever comes second gives the session it opened back. -/
def authorize (authKey : String) (botId : UserId) : Call Unit := do
  if (← Call.perform .session).isSome then throw .alreadyAuthorized
  let key ← Call.ofExcept (keyOf (← Call.send (openRequest authKey)))
  let session : Session := ⟨key, botId⟩
  let _ ← Call.send (verifyRequest session)
  if ← Call.perform (.bindSession session) then return ()
  else
    let _ ← Call.perform (.request session.releaseRequest)
    throw .alreadyAuthorized

def release : Call Unit := do
  match ← Call.perform .session with
  | none => throw .notAuthorized
  | some session =>
    let _ ← Call.send session.releaseRequest
    Call.perform (.unbindSession session)

/-- What others may know of a session. -/
structure Standing where
  authorized : Bool
  botId : Option UserId

def standing : Call Standing := do
  let session ← Call.perform .session
  return ⟨session.isSome, session.map Session.botId⟩

end Switchboard.Session
