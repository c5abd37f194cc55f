import Switchboard.Json.Value
import Switchboard.Decimal.Style

set_option autoImplicit false

namespace Switchboard.Json

/-- How fractions are written: without an exponent from `0.00001` to below `10 ^ 16`. -/
def floatStyle : Decimal.Style := ⟨some (-5, 15), true, "null", "null"⟩

def hexDigit (n : Nat) : Char := Nat.digitChar (n % 16)

/-- A fraction. What is no finite number is written as `null`. -/
def writeFloat (value : Float) : String :=
  match Decimal.classify value with
  | .finite _ => floatStyle.render value
  | _ => "null"

def escapeChar (c : Char) : String :=
  match c with
  | '"' => "\\\""
  | '\\' => "\\\\"
  | '\x08' => "\\b"
  | '\x0c' => "\\f"
  | '\n' => "\\n"
  | '\r' => "\\r"
  | '\t' => "\\t"
  | c =>
    if c.toNat < 0x20 then
      "\\u00" ++ String.ofList [hexDigit (c.toNat / 16), hexDigit c.toNat]
    else String.singleton c

def writeText (value : String) : String :=
  value.toList.foldl (fun written c => written ++ escapeChar c) "\"" ++ "\""

mutual

def write : Json → String
  | .null => "null"
  | .bool value => if value then "true" else "false"
  | .int value => toString value
  | .float value => writeFloat value
  | .str value => writeText value
  | .char value => writeText (String.singleton value)
  | .array items => "[" ++ writeItems items ++ "]"
  | .object members => "\x7b" ++ writeMembers members ++ "\x7d"

def writeItems : List Json → String
  | [] => ""
  | [item] => write item
  | item :: next :: rest => write item ++ "," ++ writeItems (next :: rest)

/-- The members of an object, divided by commas. -/
def writeMembers : List (String × Json) → String
  | [] => ""
  | [(key, value)] => writeText key ++ ":" ++ write value
  | (key, value) :: next :: rest =>
    writeText key ++ ":" ++ write value ++ "," ++ writeMembers (next :: rest)

end

end Switchboard.Json
