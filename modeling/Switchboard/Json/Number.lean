import Switchboard.Json.Value

set_option autoImplicit false

namespace Switchboard.Json

/-- A number literal, cut into its parts. -/
structure NumberLiteral where
  negative : Bool
  whole : List Nat
  /-- The digits after the point, empty if there is no point. -/
  fraction : List Nat
  /-- Is the power of ten negative, and its digits. -/
  power : Option (Bool × List Nat)
deriving Repr, DecidableEq

/-- Words hold the numbers below this one. -/
def wordBound : Nat := 18446744073709551616

/-- Appends digits to a significand as long as it stays a word. The second part counts the digits
appended, the third those left out. -/
def appendDigits (significand : Nat) : List Nat → Nat × Nat × Nat
  | [] => (significand, 0, 0)
  | digit :: rest =>
    if significand * 10 + digit < wordBound then
      let (final, appended, left) := appendDigits (significand * 10 + digit) rest
      (final, appended + 1, left)
    else (significand, 0, rest.length + 1)

def digitsValue (digits : List Nat) : Nat :=
  digits.foldl (fun value digit => value * 10 + digit) 0

/-- Scales by a power of ten that may be beyond the largest power a double holds: a negative power
is then taken off in portions. Two portions bring any word to zero, so four are enough. -/
def scaleSmall (x : Float) (power : Nat) : Nat → Float
  | 0 => 0
  | portions + 1 =>
    if power ≤ 308 then x / Float.ofScientific 1 false power
    else if x == 0 then x
    else scaleSmall (x / Float.ofScientific 1 false 308) (power - 308) portions

/-- The double nearest to a word, times a power of ten; nothing if that is infinite. -/
def scaleWord (significand : Nat) (power : Int) : Option Float :=
  let x := (UInt64.ofNat significand).toFloat
  match power with
  | .ofNat k =>
    if k ≤ 308 then
      let scaled := x * Float.ofScientific 1 false k
      if scaled.isInf then none else some scaled
    else if x == 0 then some x
    else none
  | .negSucc k => some (scaleSmall x (k + 1) 4)

/-- The largest power of ten that is kept as it is written. -/
def powerBound : Nat := 2147483648

/-- The magnitude of a literal with a fraction, a power of ten or too many digits: its leading
digits, as many as fit a word, are scaled by a power of ten, and each of the two steps rounds
once. -/
def NumberLiteral.magnitude (literal : NumberLiteral) : Option Float :=
  let (whole, _, leftOut) := appendDigits 0 literal.whole
  let (significand, appended, _) := appendDigits whole literal.fraction
  let base : Int := (leftOut : Int) - appended
  match literal.power with
  | none => scaleWord significand base
  | some (negative, digits) =>
    let written := digitsValue digits
    if powerBound ≤ written then
      if significand ≠ 0 && !negative then none else some 0
    else scaleWord significand (if negative then base - written else base + written)

/-- Integers below this magnitude may have a minus sign. -/
def signedBound : Nat := 9223372036854775808

def NumberLiteral.value (literal : NumberLiteral) : Option Json :=
  let n := digitsValue literal.whole
  let isWhole := literal.fraction.isEmpty && literal.power.isNone && n < wordBound
  if isWhole && !literal.negative then some (.int n)
  else if isWhole && 0 < n && n ≤ signedBound then some (.int (-n))
  else literal.magnitude.map fun x => .float (if literal.negative then -x else x)

end Switchboard.Json
