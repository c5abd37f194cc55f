
set_option autoImplicit false

namespace Switchboard.Decimal

/-- A decimal number: digits, of which the last stands at a power of ten. -/
structure Literal where
  negative : Bool
  digits : List Nat
  exponent : Int
deriving DecidableEq

def digitsValue (digits : List Nat) : Nat :=
  digits.foldl (fun value digit => value * 10 + digit) 0

/-- Beyond ten to this power a double is infinite, below its inverse it is zero. -/
def powerLimit : Int := 400

/-- The double nearest to a number of so many digits, the last at a power of ten. -/
def nearest (value : Nat) (exponent : Int) : Float :=
  let top : Int := exponent + (Nat.toDigits 10 value).length
  if value = 0 || top < -powerLimit then 0
  else if powerLimit < top then 1 / 0
  else Float.ofScientific value (decide (exponent < 0)) exponent.natAbs

/-- The double nearest to a literal. -/
def Literal.value (literal : Literal) : Float :=
  let magnitude := nearest (digitsValue literal.digits) literal.exponent
  if literal.negative then -magnitude else magnitude

def digit? (c : Char) : Option Nat :=
  if '0' ≤ c && c ≤ '9' then some (c.toNat - '0'.toNat) else none

/-- The longest run of digits at the start of a text, and the text after it. -/
def takeDigits : List Char → List Nat × List Char
  | [] => ([], [])
  | c :: rest =>
    match digit? c with
    | none => ([], c :: rest)
    | some d =>
      let (digits, after) := takeDigits rest
      (d :: digits, after)

/-- A sign, if there is one: is it a minus sign, and the text after it. -/
def takeSign : List Char → Bool × List Char
  | '+' :: rest => (false, rest)
  | '-' :: rest => (true, rest)
  | text => (false, text)

/-- The power of ten behind a number that makes up the rest of a text. -/
def powerOf? : List Char → Option Int
  | [] => some 0
  | c :: rest =>
    if c = 'e' || c = 'E' then
      let (negative, unsigned) := takeSign rest
      match takeDigits unsigned with
      | ([], _) => none
      | (digits, []) =>
        let power : Int := digitsValue digits
        some (if negative then -power else power)
      | _ => none
    else none

/-- The literal that makes up a text: digits with a point among or beside them, at least one digit,
and perhaps a power of ten. -/
def Literal.ofText? (text : List Char) : Option Literal :=
  let (negative, unsigned) := takeSign text
  let (whole, afterWhole) := takeDigits unsigned
  let (fraction, after) := match afterWhole with
    | '.' :: rest => takeDigits rest
    | _ => ([], afterWhole)
  if whole.isEmpty && fraction.isEmpty then none
  else (powerOf? after).map fun power => ⟨negative, whole ++ fraction, power - fraction.length⟩

end Switchboard.Decimal
