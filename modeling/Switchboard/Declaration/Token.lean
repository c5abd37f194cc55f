import Switchboard.Text.Blank
import Switchboard.Text.Identifier

set_option autoImplicit false

namespace Switchboard.Declaration

/-- The kinds of brackets. -/
inductive Bracket where
  | round
  | square
  | curly
deriving DecidableEq

inductive Token where
  /-- A name or a keyword. A raw name keeps its mark `r#`. -/
  | word (text : String)
  | text (value : String)
  | number
  /-- A literal that is neither a text nor a number. -/
  | literal
  /-- A mark, and whether another mark follows at once. -/
  | mark (char : Char) (joint : Bool)
  | group (bracket : Bracket) (inside : List Token)

/-- What is read at a time: a token, or one of a pair of brackets. -/
inductive Piece where
  | token (token : Token)
  | opening (bracket : Bracket)
  | closing (bracket : Bracket)

namespace Piece

/-- Blanks are white space and the marks that set the direction of writing. -/
def isBlank (c : Char) : Bool := Text.isBlank c || c = '\u200e' || c = '\u200f'

/-- The rest after a comment between brackets, which may hold others. -/
def skipComment (depth : Nat) : List Char → Option (List Char)
  | '*' :: '/' :: rest => if depth = 0 then some rest else skipComment (depth - 1) rest
  | '/' :: '*' :: rest => skipComment (depth + 1) rest
  | _ :: rest => skipComment depth rest
  | [] => none

def skipBlanks : Nat → List Char → Option (List Char)
  | 0, text => some text
  | fuel + 1, '/' :: '/' :: rest => skipBlanks fuel (rest.dropWhile (· ≠ '\n'))
  | fuel + 1, '/' :: '*' :: rest => (skipComment 0 rest).bind (skipBlanks fuel)
  | fuel + 1, c :: rest => if isBlank c then skipBlanks fuel rest else some (c :: rest)
  | _, [] => some []

def hexValue? (c : Char) : Option Nat :=
  if c.isDigit then some (c.toNat - '0'.toNat)
  else if 'a' ≤ c.toLower && c.toLower ≤ 'f' then some (c.toLower.toNat - 'a'.toNat + 10)
  else none

/-- The number of hexadecimal digits, with low lines between them. -/
def hexNumber? (digits : List Char) : Option Nat :=
  (digits.filter (· ≠ '_')).foldlM (fun value c => (hexValue? c).map (value * 16 + ·)) 0

def charOf? (n : Nat) : Option Char :=
  if n < 0xD800 || (0xDFFF < n && n < 0x110000) then some (Char.ofNat n) else none

/-- The character behind `\u`: up to six digits in curly brackets. -/
def codePoint (text : List Char) : Option (Char × List Char) :=
  match text with
  | '\x7b' :: rest =>
    let digits := rest.takeWhile (· ≠ '\x7d')
    let count := (digits.filter (· ≠ '_')).length
    if count = 0 || 6 < count || digits.head? = some '_' then none
    else
      match (hexNumber? digits).bind charOf?, rest.drop digits.length with
      | some c, _ :: after => some (c, after)
      | _, _ => none
  | _ => none

def escaped : List Char → Option (Char × List Char)
  | 'n' :: rest => some ('\n', rest)
  | 'r' :: rest => some ('\r', rest)
  | 't' :: rest => some ('\t', rest)
  | '0' :: rest => some ('\x00', rest)
  | '\\' :: rest => some ('\\', rest)
  | '\'' :: rest => some ('\'', rest)
  | '"' :: rest => some ('"', rest)
  | 'x' :: high :: low :: rest =>
    match hexNumber? [high, low] with
    | some n => if n < 0x80 then some (Char.ofNat n, rest) else none
    | none => none
  | 'u' :: rest => codePoint rest
  | _ => none

/-- White space that is left out behind a backslash at the end of a line. -/
def isIndent (c : Char) : Bool := c = ' ' || c = '\t' || c = '\n' || c = '\r'

/-- The value of a text up to the closing quote, and the rest. -/
def quotedText : Nat → List Char → Option (List Char × List Char)
  | 0, _ => none
  | _, [] => none
  | _, '"' :: rest => some ([], rest)
  | fuel + 1, '\r' :: rest =>
    match rest with
    | '\n' :: after => (quotedText fuel after).map fun (value, left) => ('\n' :: value, left)
    | _ => none
  | fuel + 1, '\\' :: '\n' :: rest => quotedText fuel (rest.dropWhile isIndent)
  | fuel + 1, '\\' :: rest =>
    match escaped rest with
    | some (c, after) => (quotedText fuel after).map fun (value, left) => (c :: value, left)
    | none => none
  | fuel + 1, c :: rest => (quotedText fuel rest).map fun (value, left) => (c :: value, left)

/-- The value of a raw text up to a quote that the same number of `#` follows. -/
def closeRaw (fence : List Char) : List Char → Option (List Char × List Char)
  | [] => none
  | c :: rest =>
    if c = '"' && fence.isPrefixOf rest then some ([], rest.drop fence.length)
    else (closeRaw fence rest).map fun (value, left) => (c :: value, left)

def rawText (text : List Char) : Option (List Char × List Char) :=
  let fence := text.takeWhile (· = '#')
  match text.drop fence.length with
  | '"' :: rest => closeRaw fence rest
  | _ => none

/-- The rest behind a name that is joined to a literal. -/
def skipSuffix (text : List Char) : List Char :=
  if text.head?.any Text.startsName then text.dropWhile Text.continuesName else text

def textLiteral (found : Option (List Char × List Char)) : Option (Piece × List Char) :=
  found.map fun (value, rest) => (.token (.text (String.ofList value)), skipSuffix rest)

def otherLiteral (found : Option (List Char × List Char)) : Option (Piece × List Char) :=
  found.map fun (_, rest) => (.token .literal, skipSuffix rest)

/-- The rest behind a character literal, behind its first quote. -/
def character : List Char → Option (List Char × List Char)
  | '\\' :: rest =>
    match escaped rest with
    | some (_, '\'' :: after) => some ([], after)
    | _ => none
  | _ :: '\'' :: rest => some ([], rest)
  | _ => none

def word (text : List Char) : Option (Piece × List Char) :=
  let name := text.takeWhile Text.continuesName
  some (.token (.word (String.ofList name)), text.drop name.length)

/-- Words that cannot be raw names. -/
def neverRaw : List String := ["_", "super", "self", "Self", "crate"]

def rawName (text : List Char) : Option (Piece × List Char) :=
  let name := text.takeWhile Text.continuesName
  if !text.head?.any Text.startsName || neverRaw.contains (String.ofList name) then none
  else some (.token (.word ("r#" ++ String.ofList name)), text.drop name.length)

def skipFraction : List Char → List Char
  | '.' :: c :: rest => if c.isDigit then rest.dropWhile Text.continuesName else '.' :: c :: rest
  | text => text

def number (text : List Char) : Option (Piece × List Char) :=
  some (.token .number, skipFraction (text.dropWhile Text.continuesName))

def isMark (c : Char) : Bool := "~!@#$%^&*-=+|;:,<.>/?'".toList.contains c

/-- A mark. An apostrophe belongs to the name that follows it. -/
def mark (c : Char) (rest : List Char) : Option (Piece × List Char) :=
  if c = '\'' then
    if rest.head?.any Text.startsName then some (.token (.mark c true), rest) else none
  else some (.token (.mark c (rest.head?.any isMark)), rest)

def wordOrMark (c : Char) (rest : List Char) : Option (Piece × List Char) :=
  if Text.startsName c then word (c :: rest)
  else if c.isDigit then number (c :: rest)
  else if isMark c then mark c rest
  else none

/-- Reads one piece, which starts with the first character. -/
def read (text : List Char) : Option (Piece × List Char) :=
  let fuel := text.length
  match text with
  | '(' :: rest => some (.opening .round, rest)
  | ')' :: rest => some (.closing .round, rest)
  | '[' :: rest => some (.opening .square, rest)
  | ']' :: rest => some (.closing .square, rest)
  | '\x7b' :: rest => some (.opening .curly, rest)
  | '\x7d' :: rest => some (.closing .curly, rest)
  | '"' :: rest => textLiteral (quotedText fuel rest)
  | 'b' :: '"' :: rest | 'c' :: '"' :: rest => otherLiteral (quotedText fuel rest)
  | 'b' :: '\'' :: rest => otherLiteral (character rest)
  | 'r' :: '"' :: rest => textLiteral (rawText ('"' :: rest))
  | 'r' :: '#' :: rest =>
    (textLiteral (rawText ('#' :: rest))).orElse fun _ => rawName rest
  | 'b' :: 'r' :: rest | 'c' :: 'r' :: rest =>
    (otherLiteral (rawText rest)).orElse fun _ => word text
  | '\'' :: rest => (otherLiteral (character rest)).orElse fun _ => mark '\'' rest
  | c :: rest => wordOrMark c rest
  | [] => none

def readAll : Nat → List Char → Option (List Piece)
  | 0, _ => none
  | fuel + 1, text =>
    match skipBlanks (text.length + 1) text with
    | none => none
    | some [] => some []
    | some start =>
      match read start with
      | none => none
      | some (first, rest) => (readAll fuel rest).map (first :: ·)

end Piece

namespace Token

/-- Puts pieces together. The groups that are open are given with the tokens before them, the
innermost first, and the tokens of the current group, the last first. -/
def nest : List (Bracket × List Token) → List Token → List Piece → Option (List Token)
  | [], current, [] => some current.reverse
  | _ :: _, _, [] => none
  | outer, current, Piece.token token :: rest => nest outer (token :: current) rest
  | outer, current, .opening bracket :: rest => nest ((bracket, current) :: outer) [] rest
  | [], _, .closing _ :: _ => none
  | (bracket, before) :: outer, current, .closing other :: rest =>
    if bracket = other then nest outer (.group bracket current.reverse :: before) rest else none

/-- The tokens of a text, if it falls into tokens and its brackets match. -/
def ofText? (text : String) : Option (List Token) :=
  (Piece.readAll (text.length + 1) text.toList).bind (nest [] [])

end Token

def keywords : List String :=
  ["_", "abstract", "as", "async", "await", "become", "box", "break", "const", "continue", "crate",
    "do", "dyn", "else", "enum", "extern", "false", "final", "fn", "for", "if", "impl", "in", "let",
    "loop", "macro", "match", "mod", "move", "mut", "override", "priv", "pub", "ref", "return",
    "Self", "self", "static", "struct", "super", "trait", "true", "try", "type", "typeof", "unsafe",
    "unsized", "use", "virtual", "where", "while", "yield"]

def isName (word : String) : Bool := !keywords.contains word

end Switchboard.Declaration
