import Switchboard.Duration
import Switchboard.Decimal.Binary

set_option autoImplicit false

namespace Switchboard

/-- A policy of reconnecting. -/
structure Retry where
  maxRetries : Nat
  initialDelay : Duration
  maxDelay : Duration
  multiplier : Float
deriving DecidableEq

namespace Retry

def default : Retry := ⟨3, .ofSeconds 1, .ofSeconds 30, 2⟩

instance : Inhabited Retry := ⟨default⟩

def fields : Shape.Fields Retry :=
  Retry.mk <$> .defaulted "max_retries" default.maxRetries Shape.nat32 <*>
    .defaulted "initial_delay" default.initialDelay Duration.decode <*>
    .defaulted "max_delay" default.maxDelay Duration.decode <*>
    .defaulted "multiplier" default.multiplier Shape.float

def decode (medium : Shape.Medium) : Shape.Decoder Retry :=
  Shape.record medium "struct RetryConfig" fields

def encode (retry : Retry) : Json :=
  .ofMembers [("max_retries", .int retry.maxRetries), ("initial_delay", retry.initialDelay.encode),
    ("max_delay", retry.maxDelay.encode), ("multiplier", .float retry.multiplier)]

def secondsOf (d : Duration) : Float :=
  (UInt64.ofNat d.seconds).toFloat + (UInt64.ofNat d.subNanos).toFloat / 1000000000

/-- A power by repeated squaring, each product rounded. -/
def powerFrom (result base : Float) (exponent : Nat) : Nat → Float
  | 0 => result
  | steps + 1 =>
    let next := if exponent % 2 = 1 then result * base else result
    if exponent / 2 = 0 then next else powerFrom next (base * base) (exponent / 2) steps

/-- The power of a double to an exponent of at most 31 bits. -/
def power (base : Float) (exponent : Nat) : Float := powerFrom 1 base exponent 32

/-- The whole number nearest to a fraction, a tie to the even one. -/
def roundHalfEven (num den : Nat) : Nat :=
  let quotient := num / den
  let rest := num % den
  if 2 * rest < den then quotient
  else if den < 2 * rest then quotient + 1
  else quotient + quotient % 2

/-- The duration of so many seconds, if they are a magnitude. -/
def ofSecondsFloat (x : Float) : Duration :=
  match Decimal.classify x with
  | .finite ⟨_, significand, .ofNat k, _⟩ => ⟨significand * Nat.pow 2 k * 1000000000⟩
  | .finite ⟨_, significand, .negSucc k, _⟩ =>
    ⟨roundHalfEven (significand * 1000000000) (Nat.pow 2 (k + 1))⟩
  | _ => ⟨0⟩

/-- The greatest exponent of the growth factor. -/
def maxExponent : Nat := 2147483647

/-- The factor by which the delay grows: never below one. -/
def growth (retry : Retry) : Float :=
  if 1 < retry.multiplier then retry.multiplier else 1

/-- The delay after so many failures before. It is computed in doubles and rounded to the nearest
nanosecond, a tie to the even one; a delay that is not below the limit, or no number, is the
limit. -/
def delay (retry : Retry) (attempt : Nat) : Duration :=
  let seconds := secondsOf retry.initialDelay * power retry.growth (min attempt maxExponent)
  if !seconds.isFinite || secondsOf retry.maxDelay ≤ seconds then retry.maxDelay
  else ofSecondsFloat seconds

end Retry
end Switchboard
