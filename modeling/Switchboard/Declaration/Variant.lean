import Switchboard.Declaration.Basic

set_option autoImplicit false

namespace Switchboard.Declaration

/-- Why no variant can be chosen. -/
inductive Fault where
  | notStruct
  | generic
  /-- The attribute has no arguments, or a value in their place. -/
  | noArguments
  | valueForArguments
  /-- An argument starts with something that is no name. -/
  | noKey
  | literalKey
  | badKey
  | noSegment (atEnd : Bool)
  | unknownKey
  | noEquals
  | noText (atEnd : Bool)
  | noComma
  | badVariant
  | noVariant
deriving DecidableEq

namespace Fault

/-- A message about something that is missing, perhaps because there is nothing more. -/
def missing (atEnd : Bool) (what : String) : String :=
  if atEnd then "unexpected end of input, " ++ what else what

def message : Fault → String
  | .notStruct => "ConcreteEvent can only be derived for structs"
  | .generic => "ConcreteEvent cannot be derived for generic structs"
  | .noArguments => "expected attribute arguments in parentheses: #[event(...)]"
  | .valueForArguments => "expected parentheses: #[event(...)]"
  | .noKey => missing true "expected nested attribute"
  | .literalKey => "unexpected literal in nested attribute, expected ident"
  | .badKey => "unexpected token in nested attribute, expected ident"
  | .noSegment atEnd => missing atEnd "expected ident"
  | .unknownKey => "unsupported #[event] key, expected \x60variant\x60"
  | .noEquals => "expected \x60=\x60"
  | .noText atEnd => missing atEnd "expected string literal"
  | .noComma => "expected \x60,\x60"
  | .badVariant => "\x60variant\x60 must be a valid identifier"
  | .noVariant => "cannot infer the event variant; add #[event(variant = \"...\")]"

end Fault

def keyParts : List Token → Except Fault (List String × List Token)
  | .mark ':' true :: .mark ':' _ :: .word part :: rest => do
    let (parts, left) ← keyParts rest
    return (part :: parts, left)
  | .mark ':' true :: .mark ':' _ :: rest => .error (.noSegment rest.isEmpty)
  | rest => .ok ([], rest)

def keyStart : List Token → Except Fault (String × List Token)
  | .word first :: rest => .ok (first, rest)
  | [] => .error .noKey
  | .text _ :: _ | .number :: _ | .literal :: _ | .mark '-' _ :: .number :: _ =>
    .error .literalKey
  | _ => .error .badKey

/-- The key of an argument. A key that starts at the root has an empty first part. -/
def key (tokens : List Token) : Except Fault (List String × List Token) := do
  match tokens with
  | .mark ':' true :: .mark ':' _ :: rest =>
    let (first, rest) ← keyStart rest
    let (parts, left) ← keyParts rest
    return ("" :: first :: parts, left)
  | _ =>
    let (first, rest) ← keyStart tokens
    let (parts, left) ← keyParts rest
    return (first :: parts, left)

def assignedText : List Token → Except Fault (String × List Token)
  | .mark '=' _ :: .text value :: rest => .ok (value, rest)
  | .mark '=' _ :: rest => .error (.noText rest.isEmpty)
  | _ => .error .noEquals

/-- Goes through the arguments; the last variant that is named counts. -/
def namedVariant (named : Option String) : Nat → List Token → Except Fault (Option String)
  | 0, _ => .ok named
  | _, [] => .ok named
  | fuel + 1, tokens => do
    let (path, rest) ← key tokens
    if path ≠ ["variant"] then throw .unknownKey
    let (value, rest) ← assignedText rest
    match rest with
    | [] => return some value
    | .mark ',' _ :: more => namedVariant (some value) fuel more
    | _ => throw .noComma

def attributeVariant (named : Option String) : List Attribute → Except Fault (Option String)
  | [] => .ok named
  | first :: rest => do
    if first.path ≠ ["event"] then attributeVariant named rest
    else
      match first.arguments with
      | .absent => throw .noArguments
      | .value => throw .valueForArguments
      | .list inside =>
        attributeVariant (← namedVariant named (inside.length + 1) inside) rest

/-- The name that a text holds, with nothing but blanks around it. -/
def nameIn? (text : String) : Option String :=
  match Token.ofText? text with
  | some [.word name] => if isName name then some name else none
  | _ => none

/-- The name of a type without `Event` at its end. -/
def stem? (name : String) : Option String :=
  match name.toList.reverse with
  | 't' :: 'n' :: 'e' :: 'v' :: 'E' :: rest =>
    if rest.isEmpty then none else some (String.ofList rest.reverse)
  | _ => none

/-- The variant of a declared type. Only a struct without parameters has one. -/
def variant (declaration : Declaration) : Except Fault String := do
  if !declaration.isStruct then throw .notStruct
  if declaration.arity ≠ 0 then throw .generic
  match ← attributeVariant none declaration.attributes with
  | some text =>
    match nameIn? text with
    | some name => return name
    | none => throw .badVariant
  | none =>
    match stem? declaration.name with
    | some stem => return stem
    | none => throw .noVariant

end Switchboard.Declaration
