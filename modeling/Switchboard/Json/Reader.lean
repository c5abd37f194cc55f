import Switchboard.Json.Number

set_option autoImplicit false

namespace Switchboard.Json

/-- How deep arrays and objects may nest. -/
def maxDepth : Nat := 127

def isBlank (c : Char) : Bool :=
  c = ' ' || c = '\t' || c = '\n' || c = '\r'

def skipBlank (text : List Char) : List Char :=
  text.dropWhile isBlank

def digit? (c : Char) : Option Nat :=
  if '0' ≤ c && c ≤ '9' then some (c.toNat - '0'.toNat) else none

/-- The value of a hexadecimal digit of either case. -/
def hexDigit? (c : Char) : Option Nat :=
  if '0' ≤ c && c ≤ '9' then some (c.toNat - '0'.toNat)
  else if 'a' ≤ c && c ≤ 'f' then some (c.toNat - 'a'.toNat + 10)
  else if 'A' ≤ c && c ≤ 'F' then some (c.toNat - 'A'.toNat + 10)
  else none

/-- The longest run of digits at the start of a text, and the text after it. -/
def takeDigits : List Char → List Nat × List Char
  | [] => ([], [])
  | c :: rest =>
    match digit? c with
    | none => ([], c :: rest)
    | some d =>
      let (digits, after) := takeDigits rest
      (d :: digits, after)

/-- The fraction of a number, if there is a point: at least one digit. -/
def takeFraction : List Char → Option (List Nat × List Char)
  | '.' :: rest =>
    match takeDigits rest with
    | ([], _) => none
    | (digits, after) => some (digits, after)
  | text => some ([], text)

/-- The digits of a power of ten: at least one. -/
def takePowerDigits (negative : Bool) (text : List Char) :
    Option (Option (Bool × List Nat) × List Char) :=
  match takeDigits text with
  | ([], _) => none
  | (digits, after) => some (some (negative, digits), after)

/-- The power of ten of a number, if there is one. -/
def takePower : List Char → Option (Option (Bool × List Nat) × List Char)
  | 'e' :: rest | 'E' :: rest =>
    match rest with
    | '+' :: digits => takePowerDigits false digits
    | '-' :: digits => takePowerDigits true digits
    | digits => takePowerDigits false digits
  | text => some (none, text)

/-- The whole part of a number: one zero, or digits that do not start with zero. -/
def takeWhole (text : List Char) : Option (List Nat × List Char) :=
  match takeDigits text with
  | ([], _) => none
  | (0 :: _ :: _, _) => none
  | (digits, after) => some (digits, after)

def takeNumber (text : List Char) : Option (NumberLiteral × List Char) := do
  let (negative, unsigned) := match text with
    | '-' :: rest => (true, rest)
    | _ => (false, text)
  let (whole, afterWhole) ← takeWhole unsigned
  let (fraction, afterFraction) ← takeFraction afterWhole
  let (power, after) ← takePower afterFraction
  return (⟨negative, whole, fraction, power⟩, after)

def codeUnit? (a b c d : Char) : Option Nat := do
  return ((← hexDigit? a) * 16 + (← hexDigit? b)) * 256 + ((← hexDigit? c) * 16 + (← hexDigit? d))

def escaped? : Char → Option Char
  | '"' => some '"'
  | '\\' => some '\\'
  | '/' => some '/'
  | 'b' => some '\x08'
  | 'f' => some '\x0c'
  | 'n' => some '\n'
  | 'r' => some '\r'
  | 't' => some '\t'
  | _ => none

def isLeading (unit : Nat) : Bool := 0xD800 ≤ unit && unit < 0xDC00

def isTrailing (unit : Nat) : Bool := 0xDC00 ≤ unit && unit < 0xE000

/-- The characters of a string up to its closing quote, and the text after it. -/
def takeString (fuel : Nat) (text : List Char) : Option (List Char × List Char) :=
  match fuel with
  | 0 => none
  | fuel + 1 =>
    match text with
    | [] => none
    | '"' :: rest => some ([], rest)
    | '\\' :: 'u' :: a :: b :: c :: d :: rest => do
      let unit ← codeUnit? a b c d
      if isLeading unit then
        match rest with
        | '\\' :: 'u' :: e :: f :: g :: h :: later => do
          let second ← codeUnit? e f g h
          if isTrailing second then
            let (chars, after) ← takeString fuel later
            let point := 0x10000 + (unit - 0xD800) * 0x400 + (second - 0xDC00)
            return (Char.ofNat point :: chars, after)
          else none
        | _ => none
      else if isTrailing unit then none
      else
        let (chars, after) ← takeString fuel rest
        return (Char.ofNat unit :: chars, after)
    | '\\' :: c :: rest => do
      let value ← escaped? c
      let (chars, after) ← takeString fuel rest
      return (value :: chars, after)
    | c :: rest =>
      if c.toNat < 0x20 || c = '\\' then none
      else do
        let (chars, after) ← takeString fuel rest
        return (c :: chars, after)

def takeWord : List Char → List Char → Option (List Char)
  | [], text => some text
  | c :: word, d :: text => if c = d then takeWord word text else none
  | _ :: _, [] => none

mutual

/-- A value at the start of a text, with `depth` levels of nesting left. -/
def takeValue (fuel depth : Nat) (text : List Char) : Option (Json × List Char) :=
  match fuel with
  | 0 => none
  | fuel + 1 =>
    match skipBlank text with
    | [] => none
    | 'n' :: rest => (takeWord ['u', 'l', 'l'] rest).map (Json.null, ·)
    | 't' :: rest => (takeWord ['r', 'u', 'e'] rest).map (Json.bool true, ·)
    | 'f' :: rest => (takeWord ['a', 'l', 's', 'e'] rest).map (Json.bool false, ·)
    | '"' :: rest => (takeString (rest.length + 1) rest).map fun (chars, after) =>
        (Json.str (String.ofList chars), after)
    | '[' :: rest =>
      match depth with
      | 0 => none
      | depth + 1 =>
        match skipBlank rest with
        | ']' :: after => some (.array [], after)
        | items => (takeItems fuel depth items).map fun (values, after) => (.array values, after)
    | '{' :: rest =>
      match depth with
      | 0 => none
      | depth + 1 =>
        match skipBlank rest with
        | '}' :: after => some (.object [], after)
        | members => (takeMembers fuel depth members).map fun (values, after) =>
            (ofMembers values, after)
    | start => do
      let (literal, after) ← takeNumber start
      return (← literal.value, after)

/-- The items of an array up to its closing bracket; at least one. -/
def takeItems (fuel depth : Nat) (text : List Char) : Option (List Json × List Char) :=
  match fuel with
  | 0 => none
  | fuel + 1 => do
    let (value, after) ← takeValue fuel depth text
    match skipBlank after with
    | ']' :: rest => return ([value], rest)
    | ',' :: rest =>
      let (values, final) ← takeItems fuel depth rest
      return (value :: values, final)
    | _ => none

/-- The members of an object up to its closing brace; at least one. -/
def takeMembers (fuel depth : Nat) (text : List Char) :
    Option (List (String × Json) × List Char) :=
  match fuel with
  | 0 => none
  | fuel + 1 => do
    let key ← takeWord ['"'] (skipBlank text)
    let (chars, afterKey) ← takeString (key.length + 1) key
    let colon ← takeWord [':'] (skipBlank afterKey)
    let (value, after) ← takeValue fuel depth colon
    let member := (String.ofList chars, value)
    match skipBlank after with
    | '}' :: rest => return ([member], rest)
    | ',' :: rest =>
      let (members, final) ← takeMembers fuel depth rest
      return (member :: members, final)
    | _ => none

end

/-- The value of a JSON text. Each value takes at least one character, and each level of nesting
two steps, so twice the length of the text bounds the steps. -/
def parse? (text : String) : Option Json :=
  let chars := text.toList
  match takeValue (2 * chars.length + 2) maxDepth chars with
  | some (value, after) => if (skipBlank after).isEmpty then some value else none
  | none => none

end Switchboard.Json
