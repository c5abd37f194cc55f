import Switchboard.Text.Visible

set_option autoImplicit false

namespace Switchboard.Text

def hexText (n : Nat) : String :=
  String.ofList (Nat.toDigits 16 n)

def quoteChar (c : Char) : String :=
  match c with
  | '\x00' => "\\0"
  | '\t' => "\\t"
  | '\r' => "\\r"
  | '\n' => "\\n"
  | '"' => "\\\""
  | '\\' => "\\\\"
  | c => if isVisible c then String.singleton c else "\\u\x7b" ++ hexText c.toNat ++ "\x7d"

/-- A text between double quotes, each character written in a way of its own. -/
def quotedWith (write : Char → String) (text : String) : String :=
  text.toList.foldl (fun written c => written ++ write c) "\"" ++ "\""

def quoted (text : String) : String := quotedWith quoteChar text

/-- The path of a file between double quotes. In a path an apostrophe has an escape too. -/
def quotedPath (path : String) : String :=
  quotedWith (fun c => if c = '\'' then "\\'" else quoteChar c) path

end Switchboard.Text
