import Switchboard.Json.Value

set_option autoImplicit false

namespace Switchboard.Toml

/-- How a table came to be. -/
inductive Origin where
  /-- By a header of its own. -/
  | declared
  /-- By the header of a table inside it. -/
  | implied
  /-- By a key with dots. -/
  | dotted
deriving DecidableEq

/-- What a key stands for. -/
inductive Node where
  | value (value : Json)
  | table (origin : Origin) (members : List (String × Node))
  /-- A list of tables, each begun by a header in double brackets; the last one is open. -/
  | tables (items : List (List (String × Node)))

abbrev Members := List (String × Node)

def find? (key : String) (members : Members) : Option Node :=
  (members.find? fun member => member.1 = key).map (·.2)

def put (key : String) (node : Node) (members : Members) : Members :=
  members.filter (fun member => member.1 ≠ key) ++ [(key, node)]

def changeLast (change : Members → Option Members) : List Members → Option (List Members)
  | [] => none
  | [last] => (change last).map fun changed => [changed]
  | first :: next :: rest => (changeLast change (next :: rest)).map (first :: ·)

/-- Changes the table at the end of a path. Tables that are missing on the way are made. The change
is told whether its table was made by keys with dots. A path of dots may not enter a table that has
a header; no path enters a value. -/
def changeAt (byDots : Bool) (change : Bool → Members → Option Members) :
    List String → Bool → Members → Option Members
  | [], isDotted, members => change isDotted members
  | key :: path, _, members =>
    match find? key members with
    | none =>
      (changeAt byDots change path byDots []).map fun inner =>
        put key (.table (if byDots then .dotted else .implied) inner) members
    | some (.value _) => none
    | some (.table origin inner) =>
      if byDots && origin = .declared then none
      else (changeAt byDots change path (origin = .dotted) inner).map fun changed =>
        put key (.table origin changed) members
    | some (.tables items) =>
      (changeLast (changeAt byDots change path false) items).map fun changed =>
        put key (.tables changed) members

/-- Gives a new key its value. A key behind dots goes into a table made by dots, and a key without
dots into any other. -/
def define (path : List String) (key : String) (value : Json) (members : Members) :
    Option Members :=
  changeAt true (fun isDotted inner =>
    if isDotted = path.isEmpty then none
    else match find? key inner with
      | some _ => none
      | none => some (put key (.value value) inner)) path false members

/-- A document that is being read: its content, and the path of the open table. Headers and keys
with dots make tables on the way to what they name; how a table came to be decides what may be added
to it later. Nothing is ever defined twice. -/
structure Draft where
  members : Members
  current : List String

namespace Draft

def empty : Draft := ⟨[], []⟩

def assign (draft : Draft) (path : List String) (key : String) (value : Json) : Option Draft :=
  (changeAt false (fun _ inner => define path key value inner) draft.current false
    draft.members).map fun members => { draft with members := members }

/-- Opens a table. It may exist already only as the surroundings of other tables. -/
def openTable (draft : Draft) (path : List String) (key : String) : Option Draft :=
  (changeAt false (fun _ inner =>
    match find? key inner with
    | none => some (put key (.table .declared []) inner)
    | some (.table .implied members) => some (put key (.table .declared members) inner)
    | some _ => none) path false draft.members).map fun members => ⟨members, path ++ [key]⟩

def openItem (draft : Draft) (path : List String) (key : String) : Option Draft :=
  (changeAt false (fun _ inner =>
    match find? key inner with
    | none => some (put key (.tables [[]]) inner)
    | some (.tables items) => some (put key (.tables (items ++ [[]])) inner)
    | some _ => none) path false draft.members).map fun members => ⟨members, path ++ [key]⟩

end Draft

mutual

def Node.toJson : Node → Json
  | .value value => value
  | .table _ members => .ofMembers (membersToJson members)
  | .tables items => .array (itemsToJson items)

def membersToJson : List (String × Node) → List (String × Json)
  | [] => []
  | (key, node) :: rest => (key, node.toJson) :: membersToJson rest

def itemsToJson : List (List (String × Node)) → List Json
  | [] => []
  | members :: rest => .ofMembers (membersToJson members) :: itemsToJson rest

end

def Draft.toJson (draft : Draft) : Json := .ofMembers (membersToJson draft.members)

end Switchboard.Toml
