import Switchboard.Transport.Error

set_option autoImplicit false

namespace Switchboard

/-- The codes of the server. -/
inductive Status where
  | success
  | incorrectAuthKey
  | botNotExist
  | sessionInvalid
  | sessionNotVerified
  | targetNotExist
  | fileNotExist
  | noPermission
  | botMuted
  | messageTooLong
  | erroneousAccess
deriving DecidableEq

namespace Status

def all : List Status :=
  [.success, .incorrectAuthKey, .botNotExist, .sessionInvalid, .sessionNotVerified,
    .targetNotExist, .fileNotExist, .noPermission, .botMuted, .messageTooLong, .erroneousAccess]

def code : Status → Int
  | .success => 0
  | .incorrectAuthKey => 1
  | .botNotExist => 2
  | .sessionInvalid => 3
  | .sessionNotVerified => 4
  | .targetNotExist => 5
  | .fileNotExist => 6
  | .noPermission => 10
  | .botMuted => 20
  | .messageTooLong => 30
  | .erroneousAccess => 400

def ofCode? (code : Int) : Option Status :=
  all.find? fun status => status.code = code

def name : Status → String
  | .success => "Success"
  | .incorrectAuthKey => "IncorrectAuthKey"
  | .botNotExist => "BotNotExist"
  | .sessionInvalid => "SessionInvalid"
  | .sessionNotVerified => "SessionNotVerified"
  | .targetNotExist => "TargetNotExist"
  | .fileNotExist => "FileNotExist"
  | .noPermission => "NoPermission"
  | .botMuted => "BotMuted"
  | .messageTooLong => "MessageTooLong"
  | .erroneousAccess => "ErroneousAccess"

def description : Status → String
  | .success => "success"
  | .incorrectAuthKey => "incorrect auth key"
  | .botNotExist => "the bot does not exist"
  | .sessionInvalid => "the session is invalid or does not exist"
  | .sessionNotVerified => "the session has not been verified"
  | .targetNotExist => "the target of the message does not exist"
  | .fileNotExist => "the requested file does not exist"
  | .noPermission => "the bot has no permission for this operation"
  | .botMuted => "the bot is muted in this group"
  | .messageTooLong => "the message is too long"
  | .erroneousAccess => "erroneous access"

def display (status : Status) : String :=
  status.description ++ " (" ++ toString status.code ++ ")"

end Status

/-- The error of a request. -/
inductive ApiError where
  | rejected (status : Status)
  | rejectedUnknown (code : Int)
  | notAuthorized
  | alreadyAuthorized
  /-- The answer does not have the expected form. -/
  | response (reason : String)
  | transport (error : TransportError)
deriving DecidableEq, Inhabited

namespace ApiError

def ofCode (code : Int) : ApiError :=
  match Status.ofCode? code with
  | some status => .rejected status
  | none => .rejectedUnknown code

def message : ApiError → String
  | .rejected status => "request rejected: " ++ status.display
  | .rejectedUnknown code => "request rejected with unknown status code " ++ toString code
  | .notAuthorized => "session is not authorized"
  | .alreadyAuthorized => "session is already authorized"
  | .response reason => "unexpected response: " ++ reason
  | .transport error => error.message

end ApiError
end Switchboard
