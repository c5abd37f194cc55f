import Switchboard.Decimal.Read
import Switchboard.Toml.Text

set_option autoImplicit false

namespace Switchboard.Toml

/-- Digits of a kind with single underscores between them; at least one digit. -/
def takeGrouped (digit? : Char → Option Nat) : List Char → Option (List Nat × List Char)
  | [] => none
  | c :: '_' :: next =>
    match digit? c with
    | none => none
    | some d => (takeGrouped digit? next).map fun (digits, after) => (d :: digits, after)
  | c :: rest =>
    match digit? c with
    | none => none
    | some d =>
      match takeGrouped digit? rest with
      | some (digits, after) => some (d :: digits, after)
      | none => some ([d], rest)

def lowDigit? (base : Nat) (c : Char) : Option Nat :=
  match Decimal.digit? c with
  | some d => if d < base then some d else none
  | none => none

def valueInBase (base : Nat) (digits : List Nat) : Nat :=
  digits.foldl (fun value digit => value * base + digit) 0

def inRange (value : Int) : Bool := -9223372036854775808 ≤ value && value < 9223372036854775808

/-- The digits of a whole number: a zero does not stand in front of others. -/
def takeWhole (text : List Char) : Option (List Nat × List Char) :=
  match text with
  | '0' :: rest => some ([0], rest)
  | _ => takeGrouped Decimal.digit? text

/-- An integer. Only decimal ones have a sign. -/
def takeInteger (text : List Char) : Option (Json × List Char) :=
  let based (base : Nat) (read : Option (List Nat × List Char)) : Option (Json × List Char) :=
    match read with
    | none => none
    | some (digits, after) =>
      let value : Int := valueInBase base digits
      if inRange value then some (.int value, after) else none
  match text with
  | '0' :: 'x' :: rest => based 16 (takeGrouped Json.hexDigit? rest)
  | '0' :: 'o' :: rest => based 8 (takeGrouped (lowDigit? 8) rest)
  | '0' :: 'b' :: rest => based 2 (takeGrouped (lowDigit? 2) rest)
  | _ =>
    let (negative, unsigned) := Decimal.takeSign text
    match takeWhole unsigned with
    | none => none
    | some (digits, after) =>
      let magnitude : Int := valueInBase 10 digits
      let value := if negative then -magnitude else magnitude
      if inRange value then some (.int value, after) else none

/-- The fraction of a number: a point with digits behind it. -/
def takePoint : List Char → Option (List Nat × List Char)
  | '.' :: rest => takeGrouped Decimal.digit? rest
  | _ => none

def takePower : List Char → Option (Int × List Char)
  | c :: rest =>
    if c = 'e' || c = 'E' then
      let (negative, unsigned) := Decimal.takeSign rest
      match takeGrouped Decimal.digit? unsigned with
      | none => none
      | some (digits, after) =>
        let power : Int := valueInBase 10 digits
        some (if negative then -power else power, after)
    else none
  | [] => none

/-- A fraction: a point or a power of ten makes a number one. Too large a positive one is none. -/
def takeFraction (text : List Char) : Option (Json × List Char) := do
  let (negative, unsigned) := Decimal.takeSign text
  match unsigned with
  | 'i' :: 'n' :: 'f' :: after => return (.float (if negative then -(1 / 0) else 1 / 0), after)
  | 'n' :: 'a' :: 'n' :: after => return (.float (0 / 0), after)
  | _ =>
    let (whole, afterWhole) ← takeWhole unsigned
    let point := takePoint afterWhole
    let (fraction, afterPoint) := point.getD ([], afterWhole)
    let power := takePower afterPoint
    if point.isNone && power.isNone then none
    else
      let (exponent, after) := power.getD (0, afterPoint)
      let literal : Decimal.Literal := ⟨negative, whole ++ fraction, exponent - fraction.length⟩
      let value := literal.value
      if value.isInf && !negative then none else return (.float value, after)

def takeFixed : Nat → List Char → Option (Nat × List Char)
  | 0, text => some (0, text)
  | count + 1, text =>
    match takeFixed count text with
    | some (value, c :: after) => (Decimal.digit? c).map fun d => (value * 10 + d, after)
    | _ => none

/-- Exactly so many digits with a value between two bounds. -/
def takeBetween (count low high : Nat) (text : List Char) : Option (Nat × List Char) :=
  match takeFixed count text with
  | some (value, after) => if low ≤ value && value ≤ high then some (value, after) else none
  | none => none

def isLeapYear (year : Nat) : Bool := year % 4 = 0 && (year % 100 ≠ 0 || year % 400 = 0)

def daysIn (year month : Nat) : Nat :=
  if month = 2 then (if isLeapYear year then 29 else 28)
  else if month = 4 || month = 6 || month = 9 || month = 11 then 30
  else 31

def takeDate (text : List Char) : Option (List Char) := do
  let (year, afterYear) ← takeFixed 4 text
  let afterDash ← Json.takeWord ['-'] afterYear
  let (month, afterMonth) ← takeBetween 2 1 12 afterDash
  let (_, after) ← takeBetween 2 1 (daysIn year month) (← Json.takeWord ['-'] afterMonth)
  return after

def takeTime (text : List Char) : Option (List Char) := do
  let (_, afterHour) ← takeBetween 2 0 23 text
  let (_, afterMinute) ← takeBetween 2 0 59 (← Json.takeWord [':'] afterHour)
  let (_, after) ← takeBetween 2 0 60 (← Json.takeWord [':'] afterMinute)
  match after with
  | '.' :: rest =>
    match Decimal.takeDigits rest with
    | ([], _) => return after
    | (_, final) => return final
  | _ => return after

def takeOffset (text : List Char) : Option (List Char) :=
  let distance (rest : List Char) : Option (List Char) := do
    let (_, afterHour) ← takeBetween 2 0 23 rest
    let (_, after) ← takeBetween 2 0 59 (← Json.takeWord [':'] afterHour)
    return after
  match text with
  | 'Z' :: rest => some rest
  | 'z' :: rest => some rest
  | '+' :: rest => distance rest
  | '-' :: rest => distance rest
  | _ => none

/-- The text after a date with a time behind it, if there is one. -/
def takeMomentEnd (text : List Char) : Option (List Char) := do
  let afterDate ← takeDate text
  let withTime (rest : List Char) : List Char :=
    match takeTime rest with
    | none => afterDate
    | some afterTime => (takeOffset afterTime).getD afterTime
  match afterDate with
  | 'T' :: rest => return withTime rest
  | 't' :: rest => return withTime rest
  | ' ' :: rest => return withTime rest
  | _ => return afterDate

/-- The reserved key of a point in time. -/
def momentKey : String := "$__toml_private_datetime"

def takeMoment (text : List Char) : Option (Json × List Char) :=
  match (takeMomentEnd text).orElse fun _ => takeTime text with
  | none => none
  | some after =>
    let written := String.ofList (text.take (text.length - after.length))
    some (.object [(momentKey, .str written)], after)

def takeNumber (text : List Char) : Option (Json × List Char) :=
  ((takeMoment text).orElse fun _ => takeFraction text).orElse fun _ => takeInteger text

end Switchboard.Toml
