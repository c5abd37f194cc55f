import Switchboard.Decimal.Shortest

set_option autoImplicit false

namespace Switchboard.Decimal

/-- The decisions of a number format. The digits are always the shortest that read back; a style
says when they are written positionally, and how. -/
structure Style where
  /-- The powers of ten of the first digit that are written without an exponent; `none`: all. -/
  positional : Option (Int × Int)
  /-- Does a whole number end in `.0`? -/
  wholePoint : Bool
  undefinedText : String
  infiniteText : String
deriving Repr, DecidableEq

def zeros (count : Nat) : String :=
  String.ofList (List.replicate count '0')

/-- The digits with the point after position `point`, counted from the first digit. -/
def positionalText (wholePoint : Bool) (digits : String) (point : Int) : String :=
  if point ≤ 0 then "0." ++ zeros (-point).toNat ++ digits
  else if digits.length ≤ point.toNat then
    digits ++ zeros (point.toNat - digits.length) ++ (if wholePoint then ".0" else "")
  else
    String.ofList (digits.toList.take point.toNat) ++ "." ++
      String.ofList (digits.toList.drop point.toNat)

/-- One digit, a point if more follow, and the signed power of ten. -/
def exponentText (digits : String) (power : Int) : String :=
  let lead := String.ofList (digits.toList.take 1)
  let rest := String.ofList (digits.toList.drop 1)
  let point := if rest.isEmpty then "" else "."
  let sign := if power < 0 then "-" else "+"
  lead ++ point ++ rest ++ "e" ++ sign ++ toString power.natAbs

def Style.magnitudeText (style : Style) (d : Digits) : String :=
  if d.digits = 0 then (if style.wholePoint then "0.0" else "0")
  else
    let digits := String.ofList (Nat.toDigits 10 d.digits)
    let power := d.exponent + digits.length - 1
    let fits := match style.positional with
      | none => true
      | some (low, high) => low ≤ power && power ≤ high
    if fits then positionalText style.wholePoint digits (power + 1) else exponentText digits power

/-- The text of a double in a style. The sign of zero is written. -/
def Style.render (style : Style) (x : Float) : String :=
  match classify x with
  | .undefined => style.undefinedText
  | .infinite negative => (if negative then "-" else "") ++ style.infiniteText
  | .finite b => (if b.negative then "-" else "") ++ style.magnitudeText b.shortest

/-- Numbers in messages for people: never an exponent, and no point after a whole number. -/
def plain : Style := ⟨none, false, "NaN", "inf"⟩

end Switchboard.Decimal
