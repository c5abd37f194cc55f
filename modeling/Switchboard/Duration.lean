import Switchboard.Shape.Record
import Switchboard.Text.Blank

set_option autoImplicit false

namespace Switchboard

/-- A length of time. -/
structure Duration where
  nanos : Nat
deriving DecidableEq, Inhabited

namespace Duration

def ofSeconds (seconds : Nat) : Duration := ⟨seconds * 1000000000⟩

def ofMillis (millis : Nat) : Duration := ⟨millis * 1000000⟩

def seconds (d : Duration) : Nat := d.nanos / 1000000000

def subNanos (d : Duration) : Nat := d.nanos % 1000000000

def millis (d : Duration) : Nat := d.nanos / 1000000

def subMillis (d : Duration) : Nat := d.subNanos / 1000000

/-- Why a text is no whole number. -/
inductive NumberFault where
  | empty
  | notDigit
  | tooLarge
deriving DecidableEq

def NumberFault.message : NumberFault → String
  | .empty => "cannot parse integer from empty string"
  | .notDigit => "invalid digit found in string"
  | .tooLarge => "number too large to fit in target type"

/-- Numbers of 64 bits are below this one. -/
def bound : Nat := 18446744073709551616

/-- Appends decimal digits to a number of 64 bits; the first fault counts. -/
def appendDigits (value : Nat) : List Char → Except NumberFault Nat
  | [] => .ok value
  | c :: rest =>
    if '0' ≤ c ∧ c ≤ '9' then
      let next := value * 10 + (c.toNat - '0'.toNat)
      if next < bound then appendDigits next rest else .error .tooLarge
    else .error .notDigit

/-- The number of 64 bits that a text is; a plus sign may stand before it. -/
def parseNumber : List Char → Except NumberFault Nat
  | [] => .error .empty
  | '+' :: [] => .error .notDigit
  | '+' :: digits => appendDigits 0 digits
  | digits => appendDigits 0 digits

/-- The units of a duration. -/
inductive Unit where
  | millis
  | seconds
  | minutes
deriving DecidableEq

/-- How a text fails to be a duration: it is refused for a reason, or its reading panics. -/
inductive Misreading where
  | refused (reason : String)
  | overflow
deriving DecidableEq

/-- What a build does where a number of 64 bits overflows: it panics if it checks its arithmetic,
and wraps around if it does not. -/
inductive Overflow where
  | panics
  | wraps
deriving DecidableEq

/-- A product of 64 bits. -/
def Overflow.product (policy : Overflow) (a b : Nat) : Except Misreading Nat :=
  if a * b < bound then .ok (a * b)
  else match policy with
    | .panics => .error .overflow
    | .wraps => .ok (a * b % bound)

theorem Overflow.product_of_lt (policy : Overflow) {a b : Nat} (fits : a * b < bound) :
    policy.product a b = .ok (a * b) :=
  if_pos fits

theorem Overflow.product_of_le (policy : Overflow) {a b : Nat} (runs : bound ≤ a * b) :
    policy.product a b = match policy with
      | .panics => .error .overflow
      | .wraps => .ok (a * b % bound) :=
  if_neg (Nat.not_lt.mpr runs)

/-- So many of a unit. The seconds of the minutes are the only product that can overflow. -/
def ofUnits (policy : Overflow) (count : Nat) : Unit → Except Misreading Duration
  | .millis => .ok (ofMillis count)
  | .seconds => .ok (ofSeconds count)
  | .minutes => (policy.product count 60).map ofSeconds

/-- Cuts the unit off a text, given in reverse. -/
def splitUnit : List Char → Unit × List Char
  | 's' :: 'm' :: rest => (.millis, rest.reverse)
  | 's' :: rest => (.seconds, rest.reverse)
  | 'm' :: rest => (.minutes, rest.reverse)
  | text => (.seconds, text.reverse)

/-- The duration that a text is. It is a whole number with the unit `ms`, `s` or `m`, or without a
unit for seconds; white space is allowed around the text and before the unit. -/
def parse (policy : Overflow) (text : String) : Except Misreading Duration :=
  let trimmed := Text.trimChars text.toList
  let (unit, digits) := splitUnit trimmed.reverse
  match parseNumber (Text.trimChars digits) with
  | .error fault => .error (.refused ("'" ++ String.ofList trimmed ++ "': " ++ fault.message))
  | .ok count => ofUnits policy count unit

/-- The text of a duration: in seconds, or in milliseconds if it has some. -/
def render (d : Duration) : String :=
  if d.subMillis = 0 then toString d.seconds ++ "s" else toString d.millis ++ "ms"

def Misreading.cause : Misreading → Shape.Cause
  | .refused reason => .malformed reason
  | .overflow => .panicked "attempt to multiply with overflow"

/-- A number of seconds, or a text, read by a build that checks its arithmetic. -/
def decode : Shape.Decoder Duration
  | .int seconds =>
    if 0 ≤ seconds ∧ seconds < bound then .ok (ofSeconds seconds.toNat)
    else .error (.here (.noAlternative "Raw"))
  | .str text => (parse .panics text).mapError fun misread => .here misread.cause
  | _ => .error (.here (.noAlternative "Raw"))

def encode (d : Duration) : Json := .str d.render

end Duration
end Switchboard
