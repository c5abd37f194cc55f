
set_option autoImplicit false

namespace Switchboard.Url

def isUnreserved (byte : UInt8) : Bool :=
  let n := byte.toNat
  (0x41 ≤ n && n ≤ 0x5A) || (0x61 ≤ n && n ≤ 0x7A) || (0x30 ≤ n && n ≤ 0x39) ||
    n = 0x2D || n = 0x5F || n = 0x2E || n = 0x7E

def hexDigit (n : Nat) : Char := (Nat.digitChar (n % 16)).toUpper

def escapeByte (byte : UInt8) : List Char :=
  if isUnreserved byte then [Char.ofNat byte.toNat]
  else ['%', hexDigit (byte.toNat / 16), hexDigit byte.toNat]

def escape (text : String) : List Char :=
  text.toUTF8.data.toList.flatMap escapeByte

/-- The parameters of a query, divided by `&`. -/
def queryText : List (String × String) → List Char
  | [] => []
  | [(key, value)] => escape key ++ '=' :: escape value
  | (key, value) :: next :: rest =>
    escape key ++ '=' :: escape value ++ '&' :: queryText (next :: rest)

def withoutTrailingSlashes (text : List Char) : List Char :=
  (text.reverse.dropWhile (· = '/')).reverse

def build (base path : String) (query : List (String × String)) : String :=
  let suffix := if query.isEmpty then [] else '?' :: queryText query
  String.ofList (withoutTrailingSlashes base.toList ++
    '/' :: (path.toList.dropWhile (· = '/') ++ suffix))

end Switchboard.Url
