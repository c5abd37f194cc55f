import Switchboard.Json.Value

set_option autoImplicit false

namespace Switchboard.Layer

mutual

/-- A value laid over another one. Objects are united key by key, at every depth; anything else
hides what lies below. -/
def overlay (lower : Json) : Json → Json
  | .object members =>
    match lower with
    | .object held => .object (overlayMembers held members)
    | _ => .object members
  | upper => upper

def overlayMembers (lower : List (String × Json)) : List (String × Json) → List (String × Json)
  | [] => lower
  | (key, value) :: rest =>
    let merged := match Json.lookup key lower with
      | some held => overlay held value
      | none => value
    overlayMembers (Json.insertMember key merged lower) rest

end

def stack (layers : List Json) : Json := layers.foldl overlay (.object [])

end Switchboard.Layer
