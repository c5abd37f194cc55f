import Switchboard.Json.Value

set_option autoImplicit false

namespace Switchboard

inductive Method where
  | get
  | post
deriving DecidableEq

/-- A part of an upload. -/
inductive Part where
  | text (name value : String)
  | file (name fileName mime : String) (bytes : List UInt8)
deriving DecidableEq

inductive Body where
  | empty
  | json (value : Json)
  | multipart (parts : List Part)

/-- One request. The path is relative to the root of the server. -/
structure Request where
  method : Method
  path : String
  query : List (String × String)
  body : Body

namespace Request

def get (path : String) (query : List (String × String)) : Request := ⟨.get, path, query, .empty⟩

def postJson (path : String) (value : Json) : Request := ⟨.post, path, [], .json value⟩

def postMultipart (path : String) (parts : List Part) : Request :=
  ⟨.post, path, [], .multipart parts⟩

end Request
end Switchboard
