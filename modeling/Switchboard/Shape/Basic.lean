import Switchboard.Shape.Fault

set_option autoImplicit false

namespace Switchboard.Shape

abbrev Decoder (α : Type) := Json → Except Fault α

/-- Where the data comes from. The sources differ in what they check. -/
inductive Medium where
  /-- A JSON document: an array for a record may not be too long, and an object for a plain choice
  holds one member. -/
  | document
  /-- Data set aside until the tag of its object was found. -/
  | buffered
  /-- Merged configuration layers: surplus is ignored. -/
  | layered
deriving DecidableEq

def mismatch {α : Type} (value : Json) (expected : String) : Except Fault α :=
  .error (.here (.wrongType (.ofJson value) expected))

def text : Decoder String
  | .str value => .ok value
  | .char value => .ok (String.singleton value)
  | other => mismatch other "a string"

def filePath : Decoder String
  | .str value => .ok value
  | .char value => .ok (String.singleton value)
  | other => mismatch other "path string"

def bool : Decoder Bool
  | .bool value => .ok value
  | other => mismatch other "a boolean"

def intBetween (low high : Int) (expected : String) : Decoder Int
  | .int value =>
    if low ≤ value ∧ value ≤ high then .ok value
    else .error (.here (.wrongValue (.int value) expected))
  | other => mismatch other expected

def natUpTo (high : Nat) (expected : String) : Decoder Nat := fun value =>
  (intBetween 0 high expected value).map Int.toNat

def int64 : Decoder Int := intBetween (-9223372036854775808) 9223372036854775807 "i64"

def int32 : Decoder Int := intBetween (-2147483648) 2147483647 "i32"

def nat16 : Decoder Nat := natUpTo 65535 "u16"

def nat32 : Decoder Nat := natUpTo 4294967295 "u32"

def floatOfInt (value : Int) : Float :=
  if value < 0 then -(UInt64.ofNat value.natAbs).toFloat else (UInt64.ofNat value.natAbs).toFloat

def float : Decoder Float
  | .int value => .ok (floatOfInt value)
  | .float value => .ok value
  | other => mismatch other "f64"

/-- A value that may be left out by writing `null`. -/
def nullable {α : Type} (decode : Decoder α) : Decoder (Option α)
  | .null => .ok none
  | value => (decode value).map some

/-- The items of an array, each at its position. -/
def itemsFrom {α : Type} (decode : Decoder α) (position : Nat) : List Json → Except Fault (List α)
  | [] => .ok []
  | item :: rest => do
    let first ← (decode item).mapError (Fault.under (toString position))
    let others ← itemsFrom decode (position + 1) rest
    return first :: others

def list {α : Type} (decode : Decoder α) : Decoder (List α)
  | .array items => itemsFrom decode 0 items
  | other => mismatch other "a sequence"

/-- The members of an object, each under its key. -/
def membersOf {α : Type} (decode : Decoder α) :
    List (String × Json) → Except Fault (List (String × α))
  | [] => .ok []
  | (key, value) :: rest => do
    let first ← (decode value).mapError (Fault.under key)
    let others ← membersOf decode rest
    return (key, first) :: others

def dictionary {α : Type} (decode : Decoder α) : Decoder (List (String × α))
  | .object members => membersOf decode members
  | other => mismatch other "a map"

/-- The alternative of a plain choice that a name stands for. -/
def pick {α : Type} (alternatives : List (String × α)) (name : String) : Except Fault α :=
  match alternatives.find? fun alternative => alternative.1 = name with
  | some alternative => .ok alternative.2
  | none => .error (.here (.unknownVariant name (alternatives.map (·.1))))

/-- A plain choice by name. The name may also be the only key of an object with the value `null`. -/
def choice {α : Type} (medium : Medium) (alternatives : List (String × α)) : Decoder α
  | .str name => pick alternatives name
  | .object [] =>
    match medium with
    | .layered => .error (.here (.wrongType .map "enum"))
    | _ => .error (.here (.wrongValue .map "map with a single key"))
  | .object ((name, value) :: rest) =>
    if medium ≠ .layered && !rest.isEmpty then
      .error (.here (.wrongValue .map "map with a single key"))
    else do
      let chosen ← pick alternatives name
      match value with
      | .null => return chosen
      | other => (mismatch other "unit").mapError (Fault.under name)
  | other => mismatch other "string or map"

end Switchboard.Shape
