import Switchboard.Declaration.Token

set_option autoImplicit false

namespace Switchboard

/-- What stands behind the path of an attribute. -/
inductive Declaration.Arguments where
  | absent
  /-- A value behind an equals sign. -/
  | value
  | list (inside : List Declaration.Token)

/-- An attribute. A path that starts at the root has an empty first part. -/
structure Declaration.Attribute where
  path : List String
  arguments : Declaration.Arguments

/-- A declaration. -/
structure Declaration where
  attributes : List Declaration.Attribute
  isStruct : Bool
  name : String
  /-- The number of parameters of the type. -/
  arity : Nat

namespace Declaration

def pathParts : List Token → Option (List String × List Token)
  | .mark ':' true :: .mark ':' _ :: .word part :: rest =>
    (pathParts rest).map fun (parts, left) => (part :: parts, left)
  | .mark ':' true :: .mark ':' _ :: _ => none
  | rest => some ([], rest)

/-- May a word start the path of an attribute? -/
def startsPath (word : String) : Bool :=
  isName word || ["super", "self", "Self", "crate", "unsafe"].contains word

def readPath : List Token → Option (List String × List Token)
  | .mark ':' true :: .mark ':' second :: .word first :: rest =>
    if startsPath first then
      (pathParts (.mark ':' true :: .mark ':' second :: .word first :: rest)).map
        fun (parts, left) => ("" :: parts, left)
    else none
  | .word first :: rest =>
    if startsPath first then (pathParts rest).map fun (parts, left) => (first :: parts, left)
    else none
  | _ => none

/-- The value of an attribute: a literal, a group, or a path with an exclamation mark and a
group. -/
def isValue : List Token → Bool
  | [.text _] | [.number] | [.literal] | [.mark '-' _, .number] | [.group _ _] => true
  | tokens =>
    match readPath tokens with
    | some (_, []) => true
    | some (_, [.mark '!' _, .group _ _]) => true
    | _ => false

def Attribute.ofTokens? (inside : List Token) : Option Attribute :=
  match readPath inside with
  | some (parts, []) => some ⟨parts, .absent⟩
  | some (parts, [.group _ arguments]) => some ⟨parts, .list arguments⟩
  | some (parts, .mark '=' _ :: value) => if isValue value then some ⟨parts, .value⟩ else none
  | _ => none

/-- The attributes in front of something, and the rest. -/
def leadingAttributes : List Token → Option (List Attribute × List Token)
  | .mark '#' _ :: .group .square inside :: rest => do
    let first ← Attribute.ofTokens? inside
    let (others, left) ← leadingAttributes rest
    return (first :: others, left)
  | rest => some ([], rest)

/-- The parameters of a type, divided by commas, up to the closing angle bracket. -/
def parameters (depth : Nat) (current : List Token) :
    List Token → Option (List (List Token) × List Token)
  | [] => none
  | .mark '-' true :: .mark '>' joint :: rest =>
    parameters depth (.mark '>' joint :: .mark '-' true :: current) rest
  | .mark '>' joint :: rest =>
    if depth = 0 then some ([current.reverse], rest)
    else parameters (depth - 1) (.mark '>' joint :: current) rest
  | .mark '<' joint :: rest => parameters (depth + 1) (.mark '<' joint :: current) rest
  | .mark ',' joint :: rest =>
    if depth = 0 then
      (parameters 0 [] rest).map fun (others, left) => (current.reverse :: others, left)
    else parameters depth (.mark ',' joint :: current) rest
  | token :: rest => parameters depth (token :: current) rest

/-- May these tokens follow the name of a parameter: nothing, bounds or a default? -/
def isBound : List Token → Bool
  | [] => true
  | .mark ':' _ :: _ => true
  | .mark '=' _ :: _ :: _ => true
  | _ => false

/-- Is this a parameter: a lifetime, a constant with its type, or a type? -/
def isParameter (tokens : List Token) : Bool :=
  match leadingAttributes tokens with
  | some (_, .mark '\'' _ :: .word _ :: rest) => isBound rest
  | some (_, .word "const" :: .word name :: .mark ':' _ :: _ :: _) => isName name
  | some (_, .word name :: rest) => (isName name || name = "_") && isBound rest
  | _ => false

/-- The number of parameters behind the name of a type, and the rest. A comma may end the list. -/
def arity? : List Token → Option (Nat × List Token)
  | .mark '<' _ :: rest => do
    let (chunks, left) ← parameters 0 [] rest
    let given := if (chunks.getLast?.getD []).isEmpty then chunks.dropLast else chunks
    if given.all isParameter then return (given.length, left) else none
  | rest => some (0, rest)

/-- Is this the body of a type, perhaps after conditions? -/
def isBody (isStruct : Bool) : List Token → Bool
  | [.group .curly _] => true
  | [.mark ';' _] => isStruct
  | .word "where" :: rest =>
    match rest.getLast? with
    | some (.group .curly _) => true
    | some (.mark ';' _) => isStruct
    | _ => false
  | _ => false

def parse? (text : String) : Option Declaration := do
  let (attributes, rest) ← leadingAttributes (← Token.ofText? text)
  match rest with
  | .word kind :: .word name :: rest =>
    let isStruct := kind = "struct"
    if !(["struct", "enum", "union"].contains kind && isName name) then none
    else
      let (arity, body) ← arity? rest
      if isBody isStruct body then return ⟨attributes, isStruct, name, arity⟩ else none
  | _ => none

end Declaration
end Switchboard
