import DidYouMean.Json.Value
import DidYouMean.Text.LetterCase
import DidYouMean.Universe.Tree

/-!
# Reading namespace trees

A namespace tree is read from a JSON document.  A namespace is an object with a `name` and lists
`types` and `namespaces`; a type is an object with a `name`, a `kind` and lists `bases` and
`nested`.  All fields may be missing but the name of a type, and an empty value counts as missing.

## Main definitions

- `ShapeError`: why a document is no namespace tree
- `readType`, `readNamespace`: reading a node under a path
- `ofValue`: reading a whole document

## Design notes

A list may also be written as a text or an object: its items are then the characters or the keys.
As base types these are as good as any others.  None of them is a node, though, so the first one
is reported as malformed.
-/

namespace DidYouMean.Universe

open Json (Value)

/-- Why a document is no namespace tree. -/
inductive ShapeError where
  | malformedType (path : String) (given : Value)
  | unknownKind (kind : String) (qualifiedName : String)
  | malformedNamespace (path : String) (given : Value)
  | notIterable (given : Value)

/-- How messages name the place of a node. -/
def shownPath (path : String) : String :=
  if path = "" then "<global>" else path

def ShapeError.message : ShapeError → String
  | .malformedType path v =>
    "Malformed type node under '" ++ shownPath path ++ "': " ++ v.shown
  | .unknownKind kind name =>
    "Unknown type kind '" ++ kind ++ "' for type '" ++ name ++ "'"
  | .malformedNamespace path v =>
    "Malformed namespace node under '" ++ shownPath path ++ "': " ++ v.shown
  | .notIterable v => "'" ++ v.typeName ++ "' object is not iterable"

/-- Whether the error is one of the document's contents, not of the type of a list. -/
def ShapeError.isMalformed : ShapeError → Bool
  | .notIterable _ => false
  | _ => true

/-- A field that counts as given. -/
def filledField? (fields : List (String × Value)) (key : String) : Option Value :=
  (fields.lookup key).filter (·.isFilled)

/-- The items of a field as texts. -/
def textItems (fields : List (String × Value)) (key : String) :
    Except ShapeError (List String) :=
  match filledField? fields key with
  | none => .ok []
  | some (.list items) => .ok (items.map (·.asText))
  | some (.text s) => .ok (s.toList.map String.singleton)
  | some (.object entries) => .ok (entries.map (·.1))
  | some v => .error (.notIterable v)

/-- The items of a field that holds nodes.  If it holds a text or an object, its first item is
malformed. -/
def nodeItems (malformed : Value → ShapeError) (fields : List (String × Value)) (key : String) :
    Except ShapeError (List Value) :=
  match filledField? fields key with
  | none => .ok []
  | some (.list items) => .ok items
  | some (.text s) => .error (malformed (.text (String.ofList (s.toList.take 1))))
  | some (.object entries) => .error (malformed (.text ((entries.head?.map (·.1)).getD "")))
  | some v => .error (.notIterable v)

/-- The kind of a type; a missing one is that of a class. -/
def readKind (fields : List (String × Value)) (qualifiedName : String) :
    Except ShapeError TypeKind :=
  match fields.lookup "kind" with
  | none => .ok .classType
  | some v =>
    let label := Text.lower v.asText
    match TypeKind.ofLabel? label with
    | some kind => .ok kind
    | none => .error (.unknownKind label qualifiedName)

theorem sizeOf_lookup_lt {fields : List (String × Value)} {key : String} {v : Value}
    (h : fields.lookup key = some v) : sizeOf v < sizeOf fields := by
  induction fields with
  | nil => simp at h
  | cons entry rest ih =>
    obtain ⟨k, w⟩ := entry
    simp only [List.lookup_cons] at h
    split at h
    · cases h
      simp
      omega
    · have := ih h
      simp
      omega

/-- Items of a field are smaller than the fields. -/
theorem sizeOf_nodeItems_le {malformed : Value → ShapeError} {fields : List (String × Value)}
    {key : String} {items : List Value} (h : nodeItems malformed fields key = .ok items) :
    sizeOf items ≤ sizeOf fields := by
  unfold nodeItems filledField? at h
  cases hl : fields.lookup key with
  | none =>
    simp [hl] at h
    subst h
    cases fields <;> simp
    omega
  | some v =>
    have hv := sizeOf_lookup_lt hl
    simp only [hl, Option.filter_some] at h
    cases hf : v.isFilled with
    | false =>
      simp [hf] at h
      subst h
      simp
      omega
    | true =>
      simp only [hf, if_true] at h
      cases v <;> simp at h
      subst h
      simp at hv
      omega

mutual

/-- Reads a type under a path. -/
def readType (path : String) (v : Value) : Except ShapeError TypeNode :=
  match v with
  | .object fields =>
    match fields.lookup "name" with
    | some (.text name) =>
      if name = "" then .error (.malformedType path v)
      else
        let here := joinName path name
        match readKind fields here, textItems fields "bases" with
        | .error e, _ => .error e
        | .ok _, .error e => .error e
        | .ok kind, .ok bases =>
          match _h : nodeItems (.malformedType here) fields "nested" with
          | .error e => .error e
          | .ok items =>
            match readTypes here items with
            | .ok nested => .ok ⟨name, kind, bases, nested⟩
            | .error e => .error e
    | _ => .error (.malformedType path v)
  | _ => .error (.malformedType path v)
termination_by sizeOf v
decreasing_by
  have := sizeOf_nodeItems_le _h
  simp
  omega

def readTypes (path : String) : List Value → Except ShapeError (List TypeNode)
  | [] => .ok []
  | v :: rest =>
    match readType path v with
    | .error e => .error e
    | .ok node =>
      match readTypes path rest with
      | .ok nodes => .ok (node :: nodes)
      | .error e => .error e
termination_by items => sizeOf items

end

/-- The name of a namespace: any value as a text, an empty one as no name. -/
def readNamespaceName (fields : List (String × Value)) : String :=
  ((filledField? fields "name").map (·.asText)).getD ""

mutual

/-- Reads a namespace under a path. -/
def readNamespace (path : String) (v : Value) : Except ShapeError NamespaceNode :=
  match v with
  | .object fields =>
    let name := readNamespaceName fields
    let here := joinName path name
    match (nodeItems (.malformedType here) fields "types").bind (readTypes here) with
    | .error e => .error e
    | .ok types =>
      match _h : nodeItems (.malformedNamespace here) fields "namespaces" with
      | .error e => .error e
      | .ok items =>
        match readNamespaces here items with
        | .ok namespaces => .ok ⟨name, types, namespaces⟩
        | .error e => .error e
  | _ => .error (.malformedNamespace path v)
termination_by sizeOf v
decreasing_by
  have := sizeOf_nodeItems_le _h
  simp
  omega

def readNamespaces (path : String) : List Value → Except ShapeError (List NamespaceNode)
  | [] => .ok []
  | v :: rest =>
    match readNamespace path v with
    | .error e => .error e
    | .ok node =>
      match readNamespaces path rest with
      | .ok nodes => .ok (node :: nodes)
      | .error e => .error e
termination_by items => sizeOf items

end

/-- The namespace tree of a document. -/
def ofValue (v : Value) : Except ShapeError NamespaceNode :=
  readNamespace "" v

end DidYouMean.Universe
