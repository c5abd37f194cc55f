import Switchboard.Decimal.Binary

set_option autoImplicit false

namespace Switchboard.Decimal

/-- The decimal number `digits * 10 ^ exponent`. -/
structure Digits where
  digits : Nat
  exponent : Int
deriving Repr, DecidableEq

/-- A fraction of whole numbers with a positive denominator. -/
structure Ratio where
  num : Nat
  den : Nat
deriving Repr, DecidableEq

/-- The number `n * 2 ^ e`. -/
def Ratio.ofBinary (n : Nat) (e : Int) : Ratio :=
  match e with
  | .ofNat k => ⟨n * Nat.pow 2 k, 1⟩
  | .negSucc k => ⟨n, Nat.pow 2 (k + 1)⟩

/-- The ratio divided by `10 ^ e`. -/
def Ratio.scale (r : Ratio) (e : Int) : Ratio :=
  match e with
  | .ofNat k => ⟨r.num, r.den * Nat.pow 10 k⟩
  | .negSucc k => ⟨r.num * Nat.pow 10 (k + 1), r.den⟩

/-- How often a positive number below one has to be multiplied by ten to reach one. -/
def Ratio.leadingZeros (r : Ratio) : Nat → Nat
  | 0 => 0
  | fuel + 1 => if r.den ≤ r.num then 0 else Ratio.leadingZeros ⟨r.num * 10, r.den⟩ fuel + 1

/-- The power of ten of the first digit of a positive ratio. -/
def Ratio.magnitude (r : Ratio) : Int :=
  if r.den ≤ r.num then (Nat.toDigits 10 (r.num / r.den)).length - 1
  else -(r.leadingZeros 400 : Int)

/-- The reals that round to one double, between two ratios with a common denominator. The ends
belong to it when the significand of the double is even. -/
structure Interval where
  low : Nat
  value : Nat
  high : Nat
  den : Nat
  /-- Do the ends round to the double as well? -/
  closed : Bool
deriving Repr, DecidableEq

/-- The interval of a positive double, in quarters of its last place. -/
def Binary.interval (b : Binary) : Interval :=
  let unit := Ratio.ofBinary 1 (b.exponent - 2)
  let below := if b.lowest then 4 * b.significand - 1 else 4 * b.significand - 2
  ⟨below * unit.num, 4 * b.significand * unit.num, (4 * b.significand + 2) * unit.num, unit.den,
    b.significand % 2 = 0⟩

/-- Does `candidate * 10 ^ e` lie in the interval? -/
def Interval.holds (i : Interval) (candidate : Nat) (e : Int) : Bool :=
  let scaled := Ratio.scale ⟨1, 1⟩ e
  let point := candidate * i.den * scaled.den
  let low := i.low * scaled.num
  let high := i.high * scaled.num
  if i.closed then low ≤ point && point ≤ high else low < point && point < high

/-- The decimal on the grid of step `10 ^ e` nearest to the value, if one reads back. Of two at the
same distance the even one is taken. -/
def Interval.nearestOn (i : Interval) (e : Int) : Option Digits :=
  let r := Ratio.scale ⟨i.value, i.den⟩ e
  let under := r.num / r.den
  let rest := r.num % r.den
  let preferUnder := 2 * rest < r.den || (2 * rest = r.den && under % 2 = 0)
  let first := if preferUnder then under else under + 1
  let second := if preferUnder then under + 1 else under
  if 0 < first && i.holds first e then some ⟨first, e⟩
  else if 0 < second && i.holds second e then some ⟨second, e⟩
  else none

def Digits.trimmed (d : Digits) : Nat → Digits
  | 0 => d
  | fuel + 1 =>
    if d.digits % 10 = 0 && 0 < d.digits then Digits.trimmed ⟨d.digits / 10, d.exponent + 1⟩ fuel
    else d

/-- The first hit among the grids of `count`, `count + 1`, … digits. On each grid only the two
neighbours of the double can be nearest to it, so the first grid of which one lies in the interval
gives the digits. -/
def Interval.search (i : Interval) (magnitude : Int) (count : Nat) : Nat → Digits
  | 0 => ⟨0, 0⟩
  | fuel + 1 =>
    match i.nearestOn (magnitude - count + 1) with
    | some found => found.trimmed 20
    | none => Interval.search i magnitude (count + 1) fuel

/-- The shortest decimal that reads back as the magnitude of a double. Zero is `0 * 10 ^ 0`. -/
def Binary.shortest (b : Binary) : Digits :=
  if b.significand = 0 then ⟨0, 0⟩
  else
    let i := b.interval
    i.search (Ratio.magnitude ⟨i.value, i.den⟩) 1 17

end Switchboard.Decimal
