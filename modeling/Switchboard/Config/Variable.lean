import Switchboard.Config.Layer
import Switchboard.Text.Blank
import Switchboard.Text.Parts
import Switchboard.Toml.Scalar

set_option autoImplicit false

namespace Switchboard.Variable

/-- White space of ASCII. -/
def isSpace (c : Char) : Bool := c = ' ' || c = '\t' || c = '\n' || c = '\x0c' || c = '\r'

def skipSpace (text : List Char) : List Char := text.dropWhile isSpace

/-- May a character stand in a word without quotes? -/
def isWordChar (c : Char) : Bool :=
  !(c = ',' || c = '{' || c = '}' || c = '[' || c = ']')

/-- The whole number that makes up a text; a sign may stand before it. -/
def integer? (text : List Char) : Option Int :=
  let (negative, unsigned) := Decimal.takeSign text
  match Decimal.takeDigits unsigned with
  | ([], _) => none
  | (digits, []) =>
    let magnitude := Decimal.digitsValue digits
    if negative then (if magnitude ≤ 9223372036854775808 then some (-magnitude) else none)
    else if magnitude < 18446744073709551616 then some magnitude
    else none
  | _ => none

/-- The value of a word without quotes. Only a word with a point can be a fraction. -/
def word (text : List Char) : Json :=
  let fraction := if text.contains '.' then Decimal.Literal.ofText? text else none
  match fraction with
  | some literal => .float literal.value
  | none =>
    match integer? text with
    | some value => .int value
    | none => .str (String.ofList text)

def takeKey : List Char → Option (String × List Char)
  | '"' :: rest => (Toml.takeBasic (rest.length + 1) rest).map fun (chars, after) =>
      (String.ofList chars, after)
  | text =>
    match text.takeWhile Toml.isKeyChar with
    | [] => none
    | chars => some (String.ofList chars, text.dropWhile Toml.isKeyChar)

mutual

/-- A value at the start of a text, with the white space around it. -/
def takeValue (fuel : Nat) (text : List Char) : Option (Json × List Char) :=
  match fuel with
  | 0 => none
  | fuel + 1 => do
    let (value, after) ← match skipSpace text with
      | 't' :: 'r' :: 'u' :: 'e' :: rest => some (.bool true, rest)
      | 'f' :: 'a' :: 'l' :: 's' :: 'e' :: rest => some (.bool false, rest)
      | '{' :: rest => (takeMembers fuel rest).map fun (members, after) =>
          (Json.ofMembers members, after)
      | '[' :: rest => (takeItems fuel rest).map fun (items, after) => (.array items, after)
      | '"' :: rest => (Toml.takeBasic (rest.length + 1) rest).map fun (chars, after) =>
          (.str (String.ofList chars), after)
      | '\'' :: c :: '\'' :: rest => some (.char c, rest)
      | '\'' :: _ => none
      | start => some (word (Text.trimChars (start.takeWhile isWordChar)),
          start.dropWhile isWordChar)
    return (value, skipSpace after)

/-- The items of a list up to its closing bracket; a comma may stand behind the last one. -/
def takeItems (fuel : Nat) (text : List Char) : Option (List Json × List Char) :=
  match fuel with
  | 0 => none
  | fuel + 1 =>
    match text with
    | ']' :: after => some ([], after)
    | start => do
      let (value, afterValue) ← takeValue fuel start
      match afterValue with
      | ']' :: after => return ([value], after)
      | ',' :: rest =>
        let (items, after) ← takeItems fuel rest
        return (value :: items, after)
      | _ => none

/-- The members of a table up to its closing brace; a comma may stand behind the last one. -/
def takeMembers (fuel : Nat) (text : List Char) : Option (List (String × Json) × List Char) :=
  match fuel with
  | 0 => none
  | fuel + 1 =>
    match text with
    | '}' :: after => some ([], after)
    | start => do
      let (key, afterKey) ← takeKey (skipSpace start)
      let afterSign ← Json.takeWord ['='] (skipSpace afterKey)
      let (value, afterValue) ← takeValue fuel afterSign
      match afterValue with
      | '}' :: after => return ([(key, value)], after)
      | ',' :: rest =>
        let (members, after) ← takeMembers fuel rest
        return ((key, value) :: members, after)
      | _ => none

end

/-- The value of a variable: a truth value, a number, a quoted text, a list in brackets or a table
in braces. A text that is nothing of this stays as it is. -/
def value (text : String) : Json :=
  let chars := text.toList
  match takeValue (2 * chars.length + 2) chars with
  | some (value, []) => value
  | _ => .str text

/-- The part of a name behind the prefix of configuration variables. -/
def withoutPrefix? (name : List Char) : Option (List Char) :=
  match name with
  | m :: i :: r :: a :: j :: '_' :: rest =>
    if [m, i, r, a, j].map Char.toLower = "mirai".toList then some rest else none
  | _ => none

/-- Puts a point in place of every two underscores. -/
def dotted : List Char → List Char
  | '_' :: '_' :: rest => '.' :: dotted rest
  | c :: rest => c :: dotted rest
  | [] => []

/-- The keys that lead to the setting of a variable, in small letters; none of them is empty. The
name begins with the prefix, in letters of either case, and two underscores in the rest of it lead
into a table. -/
def path? (name : String) : Option (List String) :=
  match withoutPrefix? (Text.trimChars name.toList) with
  | none => none
  | some rest =>
    let parts := Text.partsBetween '.' (Text.trimChars (dotted rest))
    if parts.any List.isEmpty then none
    else some (parts.map fun part => String.ofList (part.map Char.toLower))

def nest (value : Json) : List String → Json
  | [] => value
  | key :: path => .object [(key, nest value path)]

/-- The layer of the variables. Of two settings of one key the later one counts. -/
def layer (environment : List (String × String)) : Json :=
  Layer.stack (environment.filterMap fun (name, text) => (path? name).map (nest (value text)))

end Switchboard.Variable
