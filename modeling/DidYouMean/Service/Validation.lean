import DidYouMean.Json.Value

/-!
# Validating request bodies

A body is checked field by field.  All that is wrong with it is reported, each problem with the path
to its place and the value there, in the order of the fields.

## Main definitions

- `Problem`, `Invalid`: what is wrong with a value, and where
- `Checked`: a checked value, or all that is wrong with it
- `Check`: a check of a value at a place
- `required`, `optional`: checks of the fields of an object
-/

namespace DidYouMean.Service

open Json (Value)

/-- What is wrong with a value. -/
inductive Problem where
  | missing
  | notText
  | notEncodable
  | tooShort
  | notList
  | notTruth
  | unreadableTruth
  | notObject
  | rejected (message : String)
  | noJson
  deriving Repr, DecidableEq

def Problem.kind : Problem → String
  | .missing => "missing"
  | .notText => "string_type"
  | .notEncodable => "string_unicode"
  | .tooShort => "string_too_short"
  | .notList => "list_type"
  | .notTruth => "bool_type"
  | .unreadableTruth => "bool_parsing"
  | .notObject => "model_attributes_type"
  | .rejected _ => "value_error"
  | .noJson => "json_invalid"

def Problem.message : Problem → String
  | .missing => "Field required"
  | .notText => "Input should be a valid string"
  | .notEncodable => "Input should be a valid string, unable to parse raw data as a unicode string"
  | .tooShort => "String should have at least 1 character"
  | .notList => "Input should be a valid list"
  | .notTruth => "Input should be a valid boolean"
  | .unreadableTruth => "Input should be a valid boolean, unable to interpret input"
  | .notObject => "Input should be a valid dictionary or object to extract fields from"
  | .rejected message => "Value error, " ++ message
  | .noJson => "JSON decode error"

/-- A step on the way to a value: into a field, or to an item or a position. -/
inductive Step where
  | field (name : String)
  | index (n : Nat)
  deriving Repr, DecidableEq

/-- A problem, the way to the value that has it, and the value. -/
structure Invalid where
  problem : Problem
  path : List Step
  given : Value

/-- A checked value, or all that is wrong with it. -/
inductive Checked (α : Type) where
  | valid (x : α)
  | invalid (problems : List Invalid)

def Checked.map {α β : Type} (f : α → β) : Checked α → Checked β
  | .valid x => .valid (f x)
  | .invalid problems => .invalid problems

/-- Applies a checked function to a checked value; all that is wrong with either is kept. -/
def Checked.ap {α β : Type} : Checked (α → β) → Checked α → Checked β
  | .valid f, x => x.map f
  | .invalid problems, .valid _ => .invalid problems
  | .invalid problems, .invalid more => .invalid (problems ++ more)

/-- A check of a value, to which the path leads. -/
abbrev Check (α : Type) := List Step → Value → Checked α

/-- The value at the path has a problem. -/
def fail {α : Type} (problem : Problem) (path : List Step) (given : Value) : Checked α :=
  .invalid [⟨problem, path, given⟩]

def text : Check String
  | _, .text s => .valid s
  | path, v => fail .notText path v

/-- Checks that the value is a text with at least one character, and that it can be encoded, which
other texts need not. -/
def filledText (encodes : Char → Bool) : Check String
  | path, .text s =>
    if !s.toList.all encodes then fail .notEncodable path (.text s)
    else if s = "" then fail .tooShort path (.text s)
    else .valid s
  | path, v => fail .notText path v

/-- Checks items, the first of which has the index. -/
def itemsFrom {α : Type} (check : Check α) (path : List Step) (index : Nat) :
    List Value → Checked (List α)
  | [] => .valid []
  | v :: rest =>
    ((check (path ++ [.index index]) v).map List.cons).ap (itemsFrom check path (index + 1) rest)

/-- Checks that the value is a list, and its items. -/
def list {α : Type} (check : Check α) : Check (List α)
  | path, .list items => itemsFrom check path 0 items
  | path, v => fail .notList path v

/-- Checks a value, unless it is null. -/
def nullable {α : Type} (check : Check α) : Check (Option α)
  | _, .null => .valid none
  | path, v => (check path v).map some

/-- The texts for true and for false. -/
def truthWords : List (String × Bool) := [
  ("0", false), ("off", false), ("f", false), ("false", false), ("n", false), ("no", false),
  ("1", true), ("on", true), ("t", true), ("true", true), ("y", true), ("yes", true)]

/-- Whether a whole number fits into 64 bits. -/
def fitsWord (n : Int) : Bool :=
  -9223372036854775808 ≤ n && n < 9223372036854775808

/-- Whether a number has no fraction and lies within 64 bits. -/
def isWhole (x : Float) : Bool :=
  x.floor == x && -9223372036854775808.0 < x && x < 9223372036854775808.0

/-- Checks that the value is a truth value, or a number or a text for one. -/
def truth : Check Bool
  | _, .bool b => .valid b
  | path, .int n =>
    if n = 0 then .valid false
    else if n = 1 then .valid true
    else if fitsWord n then fail .unreadableTruth path (.int n)
    else fail .notTruth path (.int n)
  | path, .real x =>
    if x == 0.0 then .valid false
    else if x == 1.0 then .valid true
    else if isWhole x then fail .unreadableTruth path (.real x)
    else fail .notTruth path (.real x)
  | path, .text s =>
    match truthWords.lookup s.toLower with
    | some b => .valid b
    | none => fail .unreadableTruth path (.text s)
  | path, v => fail .notTruth path v

/-- Checks that the value is an object, and its fields. -/
def object {α : Type} (check : List Step → List (String × Value) → Checked α) : Check α
  | path, .object fields => check path fields
  | path, v => fail .notObject path v

/-- Checks a field that has to be there. -/
def required {α : Type} (check : Check α) (name : String) (path : List Step)
    (fields : List (String × Value)) : Checked α :=
  match fields.lookup name with
  | some v => check (path ++ [.field name]) v
  | none => fail .missing (path ++ [.field name]) (.object fields)

/-- Checks a field that may be missing. -/
def optional {α : Type} (check : Check α) (usual : α) (name : String) (path : List Step)
    (fields : List (String × Value)) : Checked α :=
  match fields.lookup name with
  | some v => check (path ++ [.field name]) v
  | none => .valid usual

end DidYouMean.Service
