import Switchboard.Text.Parts

set_option autoImplicit false

namespace Switchboard.Path

def parts (path : String) : List String :=
  (Text.partsBetween '/' path.toList).map String.ofList

/-- A path below a directory. A path that starts with a slash stays as it is. -/
def join (directory path : String) : String :=
  match path.toList with
  | '/' :: _ => path
  | _ =>
    if directory = "" || directory.toList.getLast? = some '/' then directory ++ path
    else directory ++ "/" ++ path

/-- The last part of a path that is no sign for the directory itself; nothing if the path ends with
the sign for the directory above. -/
def fileName? (path : String) : Option String :=
  match (parts path).reverse.find? fun part => part ≠ "" && part ≠ "." with
  | some ".." => none
  | other => other

/-- What stands before and behind the last point of a name, if it has one. -/
def cutEnding? (name : String) : Option (String × String) :=
  let reversed := name.toList.reverse
  match reversed.dropWhile (· ≠ '.') with
  | [] => none
  | _ :: stem =>
    some (String.ofList stem.reverse, String.ofList (reversed.takeWhile (· ≠ '.')).reverse)

/-- What stands behind the last point of a file name, if the name does not start with it. -/
def extension? (path : String) : Option String :=
  match fileName? path with
  | none => none
  | some name =>
    let reversed := name.toList.reverse
    match reversed.dropWhile (· ≠ '.') with
    | [] => none
    | [_] => none
    | _ => some (String.ofList (reversed.takeWhile (· ≠ '.')).reverse)

end Switchboard.Path
