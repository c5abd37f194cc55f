import Switchboard.Json.Reader

set_option autoImplicit false

namespace Switchboard.Toml

/-- White space inside a line. -/
def isSpace (c : Char) : Bool := c = ' ' || c = '\t'

def skipSpace (text : List Char) : List Char := text.dropWhile isSpace

/-- May a character stand in a comment or a literal string? No control but the tabulator may. -/
def isPlain (c : Char) : Bool := c = '\t' || (0x20 ≤ c.toNat && c.toNat ≠ 0x7F)

/-- The text after a comment, up to the end of its line. -/
def skipComment : List Char → Option (List Char)
  | [] => some []
  | '\n' :: rest => some ('\n' :: rest)
  | '\r' :: '\n' :: rest => some ('\r' :: '\n' :: rest)
  | c :: rest => if isPlain c then skipComment rest else none

/-- The text after white space, line ends and comments. -/
def skipFiller (inComment : Bool) : List Char → Option (List Char)
  | [] => some []
  | '\n' :: rest => skipFiller false rest
  | '\r' :: '\n' :: rest => skipFiller false rest
  | c :: rest =>
    if inComment then (if isPlain c then skipFiller true rest else none)
    else if isSpace c then skipFiller false rest
    else if c = '#' then skipFiller true rest
    else some (c :: rest)

/-- The text after the end of a line: white space, perhaps a comment, and the line end, which may be
missing at the end of the document. -/
def takeLineEnd (text : List Char) : Option (List Char) :=
  let trailing := match skipSpace text with
    | '#' :: comment => skipComment comment
    | other => some other
  match trailing with
  | some [] => some []
  | some ('\n' :: rest) => some rest
  | some ('\r' :: '\n' :: rest) => some rest
  | _ => none

def escaped? : Char → Option Char
  | 'b' => some '\x08'
  | 't' => some '\t'
  | 'n' => some '\n'
  | 'f' => some '\x0c'
  | 'r' => some '\r'
  | '"' => some '"'
  | '\\' => some '\\'
  | _ => none

/-- The character of a code point in hexadecimal digits; halves of pairs are none. -/
def character? (digits : List Char) : Option Char := do
  let values ← digits.mapM Json.hexDigit?
  let point := values.foldl (fun value digit => value * 16 + digit) 0
  if point < 0xD800 || (0xE000 ≤ point && point < 0x110000) then return Char.ofNat point
  else none

def takeEscape : List Char → Option (Char × List Char)
  | 'u' :: rest =>
    if rest.length < 4 then none
    else (character? (rest.take 4)).map fun c => (c, rest.drop 4)
  | 'U' :: rest =>
    if rest.length < 8 then none
    else (character? (rest.take 8)).map fun c => (c, rest.drop 8)
  | c :: rest => (escaped? c).map fun value => (value, rest)
  | [] => none

/-- A string with escapes, up to its closing quote. -/
def takeBasic (fuel : Nat) (text : List Char) : Option (List Char × List Char) :=
  match fuel with
  | 0 => none
  | fuel + 1 =>
    match text with
    | [] => none
    | '"' :: rest => some ([], rest)
    | '\\' :: escape => do
      let (c, rest) ← takeEscape escape
      let (chars, after) ← takeBasic fuel rest
      return (c :: chars, after)
    | c :: rest =>
      if isPlain c then (takeBasic fuel rest).map fun (chars, after) => (c :: chars, after)
      else none

/-- A string without escapes, up to its closing quote. -/
def takeLiteral : List Char → Option (List Char × List Char)
  | [] => none
  | '\'' :: rest => some ([], rest)
  | c :: rest =>
    if isPlain c then (takeLiteral rest).map fun (chars, after) => (c :: chars, after) else none

/-- The text without its first line end, if it starts with one. -/
def dropLineEnd : List Char → List Char
  | '\n' :: rest => rest
  | '\r' :: '\n' :: rest => rest
  | text => text

/-- The text after a backslash at the end of a line: white space up to the line end, and all white
space and line ends after it. -/
def skipContinuation (text : List Char) : Option (List Char) :=
  match skipSpace text with
  | '\n' :: rest => skip rest
  | '\r' :: '\n' :: rest => skip rest
  | _ => none
where
  skip : List Char → Option (List Char)
    | '\r' :: '\n' :: rest => skip rest
    | c :: rest => if isSpace c || c = '\n' then skip rest else some (c :: rest)
    | [] => some []

/-- A string of several lines with escapes, up to its three closing quotes. Up to two quotes may
stand directly before them. -/
def takeLongBasic (fuel : Nat) (text : List Char) : Option (List Char × List Char) :=
  match fuel with
  | 0 => none
  | fuel + 1 =>
    match text with
    | [] => none
    | '"' :: '"' :: '"' :: '"' :: '"' :: rest => some (['"', '"'], rest)
    | '"' :: '"' :: '"' :: '"' :: rest => some (['"'], rest)
    | '"' :: '"' :: '"' :: rest => some ([], rest)
    | '\\' :: escape =>
      match skipContinuation escape with
      | some rest => takeLongBasic fuel rest
      | none => do
        let (c, rest) ← takeEscape escape
        let (chars, after) ← takeLongBasic fuel rest
        return (c :: chars, after)
    | '\r' :: '\n' :: rest =>
      (takeLongBasic fuel rest).map fun (chars, after) => ('\n' :: chars, after)
    | c :: rest =>
      if isPlain c || c = '\n' then
        (takeLongBasic fuel rest).map fun (chars, after) => (c :: chars, after)
      else none

/-- A string of several lines without escapes, up to its three closing quotes. -/
def takeLongLiteral : List Char → Option (List Char × List Char)
  | [] => none
  | '\'' :: '\'' :: '\'' :: '\'' :: '\'' :: rest => some (['\'', '\''], rest)
  | '\'' :: '\'' :: '\'' :: '\'' :: rest => some (['\''], rest)
  | '\'' :: '\'' :: '\'' :: rest => some ([], rest)
  | '\r' :: '\n' :: rest => (takeLongLiteral rest).map fun (chars, after) => ('\n' :: chars, after)
  | c :: rest =>
    if isPlain c || c = '\n' then
      (takeLongLiteral rest).map fun (chars, after) => (c :: chars, after)
    else none

/-- A string of one line, if the text starts with one. -/
def takeShort : List Char → Option (List Char × List Char)
  | '"' :: rest => takeBasic (rest.length + 1) rest
  | '\'' :: rest => takeLiteral rest
  | _ => none

/-- A string of any kind, if the text starts with one. -/
def takeString : List Char → Option (List Char × List Char)
  | '"' :: '"' :: '"' :: rest => takeLongBasic (rest.length + 1) (dropLineEnd rest)
  | '\'' :: '\'' :: '\'' :: rest => takeLongLiteral (dropLineEnd rest)
  | text => takeShort text

/-- May a character stand in a key without quotes? -/
def isKeyChar (c : Char) : Bool := c.isAlphanum || c = '_' || c = '-'

def takeKeyPart (text : List Char) : Option (String × List Char) :=
  match takeShort text with
  | some (chars, after) => some (String.ofList chars, after)
  | none =>
    match text.takeWhile isKeyChar with
    | [] => none
    | chars => some (String.ofList chars, text.dropWhile isKeyChar)

/-- The number of parts that a key has to stay below. -/
def maxKeyParts : Nat := 80

/-- A key: parts divided by dots. White space around the parts does not count. -/
def takeKey (parts : Nat) (text : List Char) : Option ((List String × String) × List Char) :=
  match parts with
  | 0 => none
  | parts + 1 => do
    let (part, after) ← takeKeyPart (skipSpace text)
    match skipSpace after with
    | '.' :: rest =>
      let ((path, key), final) ← takeKey parts rest
      return ((part :: path, key), final)
    | rest => return (([], part), rest)

end Switchboard.Toml
