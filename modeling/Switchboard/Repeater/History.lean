import Switchboard.Contact.Basic

set_option autoImplicit false

namespace Switchboard.Repeater

/-- The last text of each group, with the mark that it was repeated. -/
abbrev History := List (GroupId × String × Bool)

namespace History

/-- The last text of a group; before any text, an empty one that was not repeated. -/
def last (history : History) (group : GroupId) : String × Bool :=
  match history.find? fun entry => entry.1 = group with
  | some entry => entry.2
  | none => ("", false)

/-- The history with another last text for a group. -/
def put (history : History) (group : GroupId) (text : String) (repeated : Bool) : History :=
  (group, text, repeated) :: history.filter fun entry => entry.1 ≠ group

/-- Enters a text; tells whether it is the last text again and was not repeated yet. -/
def record (history : History) (group : GroupId) (text : String) : Bool × History :=
  let (previous, repeated) := history.last group
  if previous = text then (!repeated, history.put group text true)
  else (false, history.put group text false)

end History
end Switchboard.Repeater
