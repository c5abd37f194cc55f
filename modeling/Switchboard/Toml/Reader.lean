import Switchboard.Toml.Draft
import Switchboard.Toml.Scalar

set_option autoImplicit false

namespace Switchboard.Toml

/-- How deep arrays and tables in one line may nest. -/
def maxDepth : Nat := 80

/-- The text after a comma, or nothing at the closing character. -/
inductive Next where
  | more (rest : List Char)
  | closed (rest : List Char)

/-- What follows an item of an array or a table in one line. -/
def takeNext (closing : Char) : List Char → Option Next
  | ',' :: rest => some (.more rest)
  | c :: rest => if c = closing then some (.closed rest) else none
  | [] => none

mutual

/-- A value at the start of a text, with `depth` levels of nesting left. -/
def takeValue (fuel depth : Nat) (text : List Char) : Option (Json × List Char) :=
  match fuel with
  | 0 => none
  | fuel + 1 =>
    match text with
    | [] => none
    | '[' :: rest =>
      match depth with
      | 0 => none
      | depth + 1 => (takeItems fuel depth rest).map fun (items, after) => (.array items, after)
    | '{' :: rest =>
      match depth with
      | 0 => none
      | depth + 1 =>
        match skipSpace rest with
        | '}' :: after => some (.object [], after)
        | members => (takeMembers fuel depth [] members).map fun (held, after) =>
            (.ofMembers (membersToJson held), after)
    | 't' :: rest => (Json.takeWord ['r', 'u', 'e'] rest).map fun after => (.bool true, after)
    | 'f' :: rest => (Json.takeWord ['a', 'l', 's', 'e'] rest).map fun after => (.bool false, after)
    | c :: _ =>
      if c = '"' || c = '\'' then
        (takeString text).map fun (chars, after) => (.str (String.ofList chars), after)
      else takeNumber text

/-- The items of an array up to its closing bracket. Line ends may stand between them, and a comma
behind the last one. -/
def takeItems (fuel depth : Nat) (text : List Char) : Option (List Json × List Char) :=
  match fuel with
  | 0 => none
  | fuel + 1 => do
    match ← skipFiller false text with
    | ']' :: after => return ([], after)
    | start =>
      let (value, afterValue) ← takeValue fuel depth start
      match ← takeNext ']' (← skipFiller false afterValue) with
      | .closed after => return ([value], after)
      | .more rest =>
        let (items, after) ← takeItems fuel depth rest
        return (value :: items, after)

/-- The members of a table in one line up to its closing brace, added to those before; at least
one. -/
def takeMembers (fuel depth : Nat) (held : Members) (text : List Char) :
    Option (Members × List Char) :=
  match fuel with
  | 0 => none
  | fuel + 1 => do
    let ((path, key), afterKey) ← takeKey maxKeyParts text
    let afterSign ← Json.takeWord ['='] afterKey
    let (value, afterValue) ← takeValue fuel depth (skipSpace afterSign)
    let added ← define path key value held
    match ← takeNext '}' (skipSpace afterValue) with
    | .closed after => return (added, after)
    | .more rest => takeMembers fuel depth added rest

end

def takeAssignment (draft : Draft) (text : List Char) : Option (Draft × List Char) := do
  let ((path, key), afterKey) ← takeKey maxKeyParts text
  let afterSign ← Json.takeWord ['='] afterKey
  let start := skipSpace afterSign
  let (value, after) ← takeValue (2 * start.length + 2) maxDepth start
  return (← draft.assign path key value, after)

/-- The header of a table, or of one more table of a list. -/
def takeHeader (draft : Draft) : List Char → Option (Draft × List Char)
  | '[' :: rest => do
    let ((path, key), afterKey) ← takeKey maxKeyParts rest
    let after ← Json.takeWord [']', ']'] afterKey
    return (← draft.openItem path key, after)
  | rest => do
    let ((path, key), afterKey) ← takeKey maxKeyParts rest
    let after ← Json.takeWord [']'] afterKey
    return (← draft.openTable path key, after)

/-- One line: empty, a header, or a key with its value. -/
def takeLine (draft : Draft) (text : List Char) : Option (Draft × List Char) := do
  let (next, after) ← match text with
    | [] => some (draft, [])
    | '#' :: _ => some (draft, text)
    | '\n' :: _ => some (draft, text)
    | '\r' :: _ => some (draft, text)
    | '[' :: rest => takeHeader draft rest
    | _ => takeAssignment draft text
  return (next, ← takeLineEnd after)

def takeLines (fuel : Nat) (draft : Draft) (text : List Char) : Option Draft :=
  match fuel with
  | 0 => none
  | fuel + 1 =>
    match skipSpace text with
    | [] => some draft
    | start =>
      match takeLine draft start with
      | none => none
      | some (next, rest) => takeLines fuel next rest

/-- The value of a TOML document. A byte order mark may stand at its start. Each line takes at least
one character. -/
def parse? (document : String) : Option Json :=
  let chars := match document.toList with
    | '\uFEFF' :: rest => rest
    | all => all
  (takeLines (chars.length + 1) .empty chars).map Draft.toJson

end Switchboard.Toml
