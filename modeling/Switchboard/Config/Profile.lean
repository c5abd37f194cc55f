import Switchboard.Text.Lowercase

set_option autoImplicit false

namespace Switchboard

/-- A profile. Any name but those of the first two, in small letters, is a profile of its own. -/
inductive Profile where
  | development
  | production
  | custom (name : String)
deriving DecidableEq

namespace Profile

def default : Profile := .development

instance : Inhabited Profile := ⟨default⟩

def name : Profile → String
  | .development => "development"
  | .production => "production"
  | .custom name => name

def ofName (text : String) : Profile :=
  let lower := Text.lowercase text
  if lower = "production" || lower = "prod" then .production
  else if lower = "development" || lower = "dev" then .development
  else .custom lower

end Profile
end Switchboard
