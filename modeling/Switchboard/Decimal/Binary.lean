
set_option autoImplicit false

namespace Switchboard.Decimal

/-- A binary floating point number taken apart: the magnitude `significand * 2 ^ exponent` with a
sign. All arithmetic on the parts is exact. -/
structure Binary where
  negative : Bool
  significand : Nat
  exponent : Int
  /-- The significand is the least one of its binade, above the smallest binade. -/
  lowest : Bool
deriving Repr, DecidableEq

/-- What a double is. -/
inductive Kind where
  | finite (parts : Binary)
  | infinite (negative : Bool)
  | undefined
deriving Repr, DecidableEq

/-- Takes a double apart by its bits. -/
def classify (x : Float) : Kind :=
  let bits : Nat := x.toBits.toNat
  let negative : Bool := bits / 9223372036854775808 = 1
  let biased : Nat := bits / 4503599627370496 % 2048
  let fraction : Nat := bits % 4503599627370496
  if biased = 2047 then
    if fraction = 0 then .infinite negative else .undefined
  else if biased = 0 then
    .finite ⟨negative, fraction, -1074, false⟩
  else
    .finite
      ⟨negative, 4503599627370496 + fraction, (biased : Int) - 1075, fraction = 0 ∧ 1 < biased⟩

end Switchboard.Decimal
