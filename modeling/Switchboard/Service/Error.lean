import Switchboard.Api.Error
import Switchboard.Waiter.Error

set_option autoImplicit false

namespace Switchboard

/-- Why a bot ended. -/
inductive ServiceError where
  /-- There is no client for the server. -/
  | transport (error : TransportError)
  | api (error : ApiError)
  | stream (error : StreamError)
  /-- The task of the bot failed. -/
  | task (reason : String)
deriving DecidableEq

def ServiceError.message : ServiceError → String
  | .transport error => "failed to build transport: " ++ error.message
  | .api error => error.message
  | .stream error => "event stream failed: " ++ error.message
  | .task reason => "bot task failed: " ++ reason

end Switchboard
