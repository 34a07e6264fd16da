import DidYouMean.Decimal.Shortest
import DidYouMean.Text.Quoted

/-!
# JSON values

A JSON value, and how messages speak of one.  Objects keep the order of their keys, and whole
numbers are kept apart from the others.

## Main definitions

- `Value`: a JSON value
- `Value.shown`: the value as a message quotes it
- `Value.text`: the value turned into a text, which leaves a text as it is
- `Value.typeName`: the name of its type in messages
- `Value.isFilled`: whether the value counts as given: neither null, false, zero nor empty
- `Value.field?`: a field of an object
- `Value.isEncodable`: whether the value can be sent
-/

namespace DidYouMean.Json

inductive Value where
  | null
  | bool (b : Bool)
  | int (n : Int)
  | real (x : Float)
  | text (s : String)
  | list (items : List Value)
  | object (fields : List (String × Value))
  deriving Inhabited

mutual

/-- The value as a message quotes it. -/
def Value.shown : Value → String
  | .null => "None"
  | .bool b => if b then "True" else "False"
  | .int n => toString n
  | .real x => Decimal.plain.text x
  | .text s => Text.quoted s
  | .list items => "[" ++ ", ".intercalate (shownItems items) ++ "]"
  | .object fields => "\x7b" ++ ", ".intercalate (shownFields fields) ++ "\x7d"

def shownItems : List Value → List String
  | [] => []
  | v :: rest => v.shown :: shownItems rest

def shownFields : List (String × Value) → List String
  | [] => []
  | (key, v) :: rest => (Text.quoted key ++ ": " ++ v.shown) :: shownFields rest

end

/-- The value turned into a text: a text is itself, all else is as a message quotes it. -/
def Value.asText : Value → String
  | .text s => s
  | v => v.shown

/-- The name of the value's type in messages. -/
def Value.typeName : Value → String
  | .null => "NoneType"
  | .bool _ => "bool"
  | .int _ => "int"
  | .real _ => "float"
  | .text _ => "str"
  | .list _ => "list"
  | .object _ => "dict"

/-- Whether the value counts as given: neither null, false, zero nor empty. -/
def Value.isFilled : Value → Bool
  | .null => false
  | .bool b => b
  | .int n => n != 0
  | .real x => x != 0.0
  | .text s => s != ""
  | .list items => !items.isEmpty
  | .object fields => !fields.isEmpty

mutual

/-- Whether the value can be sent: its texts can be encoded, and its numbers are finite. -/
def Value.isEncodable (encodes : Char → Bool) : Value → Bool
  | .null | .bool _ | .int _ => true
  | .real x => x.isFinite
  | .text s => s.toList.all encodes
  | .list items => areEncodable encodes items
  | .object fields => fieldsAreEncodable encodes fields

def areEncodable (encodes : Char → Bool) : List Value → Bool
  | [] => true
  | v :: rest => v.isEncodable encodes && areEncodable encodes rest

def fieldsAreEncodable (encodes : Char → Bool) : List (String × Value) → Bool
  | [] => true
  | (key, v) :: rest =>
    key.toList.all encodes && v.isEncodable encodes && fieldsAreEncodable encodes rest

end

/-- A field of an object; no other value has fields. -/
def Value.field? : Value → String → Option Value
  | .object fields, key => fields.lookup key
  | _, _ => none

/-- Sets a field: a key that is already there keeps its place. -/
def setField (fields : List (String × Value)) (key : String) (v : Value) :
    List (String × Value) :=
  if fields.any (·.1 == key) then
    fields.map fun (k, old) => if k == key then (k, v) else (k, old)
  else fields ++ [(key, v)]

end DidYouMean.Json
