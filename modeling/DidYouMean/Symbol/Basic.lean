import DidYouMean.Name.Segments

/-!
# Symbols

A symbol is what a name stands for in a program: a method, a variable, a type, a namespace, or no
more than the name itself.

## Main definitions

- `SymbolKind`, `TypeKind`: what kind of thing a symbol is
- `Symbol`: a symbol
- `Symbol.identityKey`: the key by which one symbol found twice is recognised
- `Symbol.shortName`: the name without the path before it
-/

namespace DidYouMean

/-- What kind of thing a symbol is. -/
inductive SymbolKind where
  | method
  | property
  | field
  | event
  | localVariable
  | parameter
  | type
  | namespaceName
  | rawName
  deriving Repr, DecidableEq

def SymbolKind.all : List SymbolKind :=
  [.method, .property, .field, .event, .localVariable, .parameter, .type, .namespaceName,
    .rawName]

def SymbolKind.label : SymbolKind → String
  | .method => "method"
  | .property => "property"
  | .field => "field"
  | .event => "event"
  | .localVariable => "local"
  | .parameter => "parameter"
  | .type => "type"
  | .namespaceName => "namespace"
  | .rawName => "raw_name"

def SymbolKind.ofLabel? (label : String) : Option SymbolKind :=
  SymbolKind.all.find? (·.label == label)

/-- What kind of type a type is. -/
inductive TypeKind where
  | classType
  | struct
  | interface
  | enum
  | delegate
  | other
  deriving Repr, DecidableEq

def TypeKind.all : List TypeKind :=
  [.classType, .struct, .interface, .enum, .delegate, .other]

def TypeKind.label : TypeKind → String
  | .classType => "class"
  | .struct => "struct"
  | .interface => "interface"
  | .enum => "enum"
  | .delegate => "delegate"
  | .other => "other"

def TypeKind.ofLabel? (label : String) : Option TypeKind :=
  TypeKind.all.find? (·.label == label)

/-- The kind that a caller attaches to a type: a known one, or any other word. -/
inductive TypeLabel where
  | known (kind : TypeKind)
  | foreign (word : String)
  deriving Repr, DecidableEq

/-- The label that is written so. -/
def TypeLabel.ofWord (word : String) : TypeLabel :=
  match TypeKind.ofLabel? word with
  | some kind => .known kind
  | none => .foreign word

def TypeLabel.word : TypeLabel → String
  | .known kind => kind.label
  | .foreign word => word

/-- A symbol.  `typeLabel` is only given for types; `baseTypes` holds the qualified names of all
types that a type inherits from, the nearest first. -/
structure Symbol where
  kind : SymbolKind
  name : String
  qualifiedName : String
  typeLabel : Option TypeLabel
  baseTypes : List String
  deriving Repr, DecidableEq

namespace Symbol

/-- A name about which nothing else is known. -/
def raw (name : String) : Symbol :=
  ⟨.rawName, name, "", none, []⟩

/-- A namespace, given by its qualified name. -/
def ofNamespace (qualifiedName : String) : Symbol :=
  ⟨.namespaceName, Name.lastSegment qualifiedName, qualifiedName, none, []⟩

def ofType (name qualifiedName : String) (kind : TypeKind) (baseTypes : List String) : Symbol :=
  ⟨.type, name, qualifiedName, some (.known kind), baseTypes⟩

/-- The key by which one symbol found twice is recognised: the qualified name, if there is one. -/
def identityKey (s : Symbol) : String :=
  if s.qualifiedName = "" then s.name else s.qualifiedName

/-- The name without the path that a raw name may hold. -/
def shortName (s : Symbol) : String :=
  if s.kind = .rawName then Name.lastSegment s.name else s.name

end Symbol

end DidYouMean
