import Switchboard.Shape.Basic

set_option autoImplicit false

namespace Switchboard.Shape

/-- Why an object does not hold the fields of a record. -/
inductive Problem where
  | bad (key : String) (fault : Fault)
  | missing (name : String)

/-- Of two problems, the one that is met first: a bad field before a missing one, bad fields in the
order of their keys, missing fields in the order of declaration. -/
def Problem.first : Problem → Problem → Problem
  | .bad key fault, .bad key' fault' => if key' < key then .bad key' fault' else .bad key fault
  | .bad key fault, .missing _ => .bad key fault
  | .missing _, .bad key fault => .bad key fault
  | .missing name, .missing _ => .missing name

def Problem.fault : Problem → Fault
  | .bad _ fault => fault
  | .missing name => .here (.missingField name)

def combine {α β : Type} : Except Problem (α → β) → Except Problem α → Except Problem β
  | .ok f, .ok a => .ok (f a)
  | .ok _, .error problem => .error problem
  | .error problem, .ok _ => .error problem
  | .error problem, .error later => .error (problem.first later)

/-- Why an array does not hold the fields of a record. -/
inductive ArrayFault where
  /-- The array ends before a field without default; the place of that field. -/
  | short (place : Nat)
  | bad (fault : Fault)

/-- The fields of a record and how they are read, built field by field with `<$>` and `<*>`: from
the values of their keys in an object, and from the items of an array from a position on. An object
is seen only through the values of these keys. Present fields are read in ascending order of the
keys, and only then missing ones are looked for, in the order of declaration; the first problem met
is the fault. -/
structure Fields (α : Type) where
  count : Nat
  fromMembers : (String → Option Json) → Except Problem α
  fromItems : Nat → List Json → Except ArrayFault (α × Nat × List Json)

namespace Fields

def const {α : Type} (value : α) : Fields α where
  count := 0
  fromMembers _ := .ok value
  fromItems position items := .ok (value, position, items)

def both {α β : Type} (f : Fields (α → β)) (a : Fields α) : Fields β where
  count := f.count + a.count
  fromMembers get := combine (f.fromMembers get) (a.fromMembers get)
  fromItems position items := do
    let (g, next, rest) ← f.fromItems position items
    let (value, final, after) ← a.fromItems next rest
    return (g value, final, after)

instance : Applicative Fields where
  pure := const
  seq f a := both f (a ())

/-- One field. The two alternatives say what happens where it is absent. -/
def single {α : Type} (key : String) (decode : Decoder α) (absentMember : Except Problem α)
    (absentItem : Option α) : Fields α where
  count := 1
  fromMembers get :=
    match get key with
    | none => absentMember
    | some value =>
      match decode value with
      | .ok result => .ok result
      | .error fault => .error (.bad key (fault.under key))
  fromItems position items :=
    match items with
    | item :: rest =>
      match decode item with
      | .ok result => .ok (result, position + 1, rest)
      | .error fault => .error (.bad (fault.under (toString position)))
    | [] =>
      match absentItem with
      | some result => .ok (result, position + 1, [])
      | none => .error (.short position)

def required {α : Type} (key : String) (decode : Decoder α) : Fields α :=
  single key decode (.error (.missing key)) none

def defaulted {α : Type} (key : String) (default : α) (decode : Decoder α) : Fields α :=
  single key decode (.ok default) (some default)

def optional {α : Type} (key : String) (decode : Decoder α) : Fields (Option α) :=
  single key (nullable decode) (.ok none) (some none)

/-- A field that may be absent from an object, and may be `null` in both forms. -/
def implied {α : Type} (key : String) (decode : Decoder α) : Fields (Option α) :=
  single key (nullable decode) (.ok none) none

end Fields

def elements (count : Nat) : String :=
  toString count ++ (if count = 1 then " element" else " elements")

/-- What is said of an array with more items than a record has fields. -/
def surplus (medium : Medium) (length used : Nat) : Option Cause :=
  match medium with
  | .document => some (.wrongLength length "fewer elements in array")
  | .buffered => some (.wrongLength length (elements used ++ " in sequence"))
  | .layered => none

/-- The record that an array of items stands for. -/
def recordOfItems {α : Type} (medium : Medium) (title : String) (fields : Fields α)
    (items : List Json) : Except Fault α :=
  match fields.fromItems 0 items with
  | .ok (value, _, []) => .ok value
  | .ok (value, used, _ :: _) =>
    match surplus medium items.length used with
    | some cause => .error (.here cause)
    | none => .ok value
  | .error (.bad fault) => .error fault
  | .error (.short position) =>
    .error (.here (.wrongLength position (title ++ " with " ++ elements fields.count)))

/-- The record that the values of the keys stand for. -/
def recordOfMembers {α : Type} (fields : Fields α) (get : String → Option Json) : Except Fault α :=
  (fields.fromMembers get).mapError Problem.fault

/-- A record. The title names its type in messages. -/
def record {α : Type} (medium : Medium) (title : String) (fields : Fields α) : Decoder α
  | .object members => recordOfMembers fields fun key => Json.lookup key members
  | .array items => recordOfItems medium title fields items
  | other => mismatch other title

end Switchboard.Shape
