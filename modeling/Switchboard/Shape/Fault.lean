import Switchboard.Json.Writer
import Switchboard.Text.Quoted

set_option autoImplicit false

namespace Switchboard.Shape

/-- What stood in the data where something else was expected. -/
inductive Found where
  | null
  | bool (value : Bool)
  | int (value : Int)
  | float (value : Float)
  | text (value : String)
  | sequence
  | map
deriving DecidableEq

/-- What a value looks like from outside. -/
def Found.ofJson : Json → Found
  | .null => .null
  | .bool value => .bool value
  | .int value => .int value
  | .float value => .float value
  | .str value => .text value
  | .char value => .text (String.singleton value)
  | .array _ => .sequence
  | .object _ => .map

/-- The name of what was found, with the value of a scalar. -/
def Found.phrase : Found → String
  | .null => "null"
  | .bool value => "boolean \x60" ++ (if value then "true" else "false") ++ "\x60"
  | .int value => "integer \x60" ++ toString value ++ "\x60"
  | .float value => "floating point \x60" ++ Json.floatStyle.render value ++ "\x60"
  | .text value => "string " ++ Text.quoted value
  | .sequence => "sequence"
  | .map => "map"

/-- The cause of a misfit. -/
inductive Cause where
  | missingField (name : String)
  | wrongType (found : Found) (expected : String)
  | wrongValue (found : Found) (expected : String)
  | wrongLength (length : Nat) (expected : String)
  | unknownVariant (name : String) (known : List String)
  /-- None of the alternatives of an untagged choice fits. -/
  | noAlternative (choice : String)
  /-- A text that is no value of its own little language. -/
  | malformed (reason : String)
  /-- Nothing is wrong with the shape: the reading itself panicked. -/
  | panicked (message : String)
deriving DecidableEq

def ticked (name : String) : String := "\x60" ++ name ++ "\x60"

/-- The alternatives of a choice: one name, two names joined by `or`, or a list. -/
def alternatives : List String → String
  | [] => "there are no variants"
  | [only] => "expected " ++ ticked only
  | [first, second] => "expected " ++ ticked first ++ " or " ++ ticked second
  | many => "expected one of " ++ ", ".intercalate (many.map ticked)

def Cause.message : Cause → String
  | .missingField name => "missing field " ++ ticked name
  | .wrongType found expected => "invalid type: " ++ found.phrase ++ ", expected " ++ expected
  | .wrongValue found expected => "invalid value: " ++ found.phrase ++ ", expected " ++ expected
  | .wrongLength length expected =>
    "invalid length " ++ toString length ++ ", expected " ++ expected
  | .unknownVariant name known => "unknown variant " ++ ticked name ++ ", " ++ alternatives known
  | .noAlternative choice => "data did not match any variant of untagged enum " ++ choice
  | .malformed reason => reason
  | .panicked message => message

/-- A misfit and its place: the keys and positions that lead to it from the value that was read. -/
structure Fault where
  path : List String
  cause : Cause
deriving DecidableEq

def Fault.here (cause : Cause) : Fault := ⟨[], cause⟩

def Fault.under (step : String) (fault : Fault) : Fault :=
  { fault with path := step :: fault.path }

/-- The text of a misfit; the place is not part of it. -/
def Fault.message (fault : Fault) : String := fault.cause.message

end Switchboard.Shape
