import Switchboard.Files.Path

set_option autoImplicit false

namespace Switchboard

/-- Why a file cannot be read. -/
inductive ReadFault where
  | notFound
  | notDirectory
  | isDirectory
deriving DecidableEq

def ReadFault.message : ReadFault → String
  | .notFound => "No such file or directory (os error 2)"
  | .notDirectory => "Not a directory (os error 20)"
  | .isDirectory => "Is a directory (os error 21)"

/-- The files that can be seen, each at the parts of its path, and directories that exist though
they may be empty. -/
structure Folder (α : Type) where
  files : List (List String × α)
  directories : List (List String)

namespace Folder

variable {α : Type}

/-- The folder with one file more. A file at the same path is replaced. -/
def write (folder : Folder α) (path : String) (content : α) : Folder α :=
  let place := Path.parts path
  { folder with files := folder.files.filter (fun file => file.1 ≠ place) ++ [(place, content)] }

def contentAt? (folder : Folder α) (place : List String) : Option α :=
  (folder.files.find? fun file => file.1 = place).map (·.2)

/-- Is a place a directory? Whatever a file or a directory lies in is one. -/
def isDirectory (folder : Folder α) (place : List String) : Bool :=
  folder.directories.any (fun directory => place.isPrefixOf directory) ||
    folder.files.any fun file => place.isPrefixOf file.1 && place ≠ file.1

/-- Follows the parts of a path from a place on. -/
def follow (folder : Folder α) (place : List String) : List String → Except ReadFault (List String)
  | [] => .ok place
  | part :: rest =>
    if folder.isDirectory place then
      if part = "" || part = "." then follow folder place rest
      else if part = ".." then follow folder place.dropLast rest
      else follow folder (place ++ [part]) rest
    else if (folder.contentAt? place).isSome then .error .notDirectory
    else .error .notFound

/-- The content of the file at the end of a path. -/
def read (folder : Folder α) (path : String) : Except ReadFault α := do
  let place ← folder.follow [] (Path.parts path)
  match folder.contentAt? place with
  | some content => return content
  | none => .error (if folder.isDirectory place then .isDirectory else .notFound)

/-- Is there a file or a directory at the end of a path? -/
def hasPath (folder : Folder α) (path : String) : Bool :=
  match folder.read path with
  | .ok _ => true
  | .error fault => fault = .isDirectory

end Folder
end Switchboard
