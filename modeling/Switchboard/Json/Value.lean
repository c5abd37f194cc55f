
set_option autoImplicit false

namespace Switchboard

/-- A JSON value. Integers and fractions are kept apart, because only an integer literal may stand
for an integer. -/
inductive Json where
  | null
  | bool (value : Bool)
  | int (value : Int)
  | float (value : Float)
  | str (value : String)
  /-- A single character. No document holds one; only a setting from outside can be one. -/
  | char (value : Char)
  | array (items : List Json)
  | object (members : List (String × Json))
deriving Inhabited

namespace Json

/-- Puts a member into an ascending list of members, replacing one with the same key. -/
def insertMember (key : String) (value : Json) : List (String × Json) → List (String × Json)
  | [] => [(key, value)]
  | (other, held) :: rest =>
    if key < other then (key, value) :: (other, held) :: rest
    else if key = other then (key, value) :: rest
    else (other, held) :: insertMember key value rest

def lookup (key : String) : List (String × Json) → Option Json
  | [] => none
  | (other, held) :: rest => if key = other then some held else lookup key rest

/-- The object with the given members; of several members with one key the last counts. -/
def ofMembers (members : List (String × Json)) : Json :=
  .object (members.foldl (fun held member => insertMember member.1 member.2 held) [])

def ofPresent (members : List (String × Option Json)) : Json :=
  ofMembers (members.filterMap fun member => member.2.map fun value => (member.1, value))

/-- The member of an object under a key; nothing for any other value. -/
def member? (value : Json) (key : String) : Option Json :=
  match value with
  | .object members => lookup key members
  | _ => none

def str? : Json → Option String
  | .str value => some value
  | _ => none

theorem str?_eq_some {json : Json} {value : String} :
    json.str? = some value ↔ json = .str value := by
  cases json <;> simp [str?]

def int? : Json → Option Int
  | .int value => some value
  | _ => none

theorem int?_eq_some {json : Json} {value : Int} :
    json.int? = some value ↔ json = .int value := by
  cases json <;> simp [int?]

def bool? : Json → Option Bool
  | .bool value => some value
  | _ => none

def items? : Json → Option (List Json)
  | .array items => some items
  | _ => none

def members? : Json → Option (List (String × Json))
  | .object members => some members
  | _ => none

def ofOption {α : Type} (encode : α → Json) : Option α → Json
  | none => .null
  | some value => encode value

/-- The same object with one more member. Other values stay as they are. -/
def withMember (value : Json) (key : String) (added : Json) : Json :=
  match value with
  | .object members => .object (insertMember key added members)
  | other => other

theorem lookup_insertMember_self (key : String) (value : Json) (members : List (String × Json)) :
    lookup key (insertMember key value members) = some value := by
  induction members with
  | nil => simp [insertMember, lookup]
  | cons head rest ih =>
    obtain ⟨other, held⟩ := head
    unfold insertMember
    split
    · simp [lookup]
    · next hlt =>
      split
      · simp [lookup]
      · next hne => simp [lookup, hne, ih]

theorem lookup_insertMember_of_ne {key wanted : String} (value : Json)
    (members : List (String × Json)) (differs : wanted ≠ key) :
    lookup wanted (insertMember key value members) = lookup wanted members := by
  induction members with
  | nil => simp [insertMember, lookup, differs]
  | cons head rest ih =>
    obtain ⟨other, held⟩ := head
    unfold insertMember
    split
    · simp [lookup, differs]
    · split
      · next heq => subst heq; simp [lookup, differs]
      · simp [lookup, ih]

end Json
end Switchboard
