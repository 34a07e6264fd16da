import DidYouMean.Symbol.Basic

/-!
# Usage positions

How the name asked for is used in the program decides which symbols it can stand for.

## Main definitions

- `UsagePosition`: the positions
- `UsagePosition.fits`: which symbols can stand in a position
- `Usage`, `Usage.admits`: the position as a caller states it
-/

namespace DidYouMean

/-- A position in which a name is used. -/
inductive UsagePosition where
  | unknown
  | type
  | value
  | attribute
  | namespaceName
  deriving Repr, DecidableEq

namespace UsagePosition

def all : List UsagePosition := [.unknown, .type, .value, .attribute, .namespaceName]

def label : UsagePosition → String
  | .unknown => "unknown"
  | .type => "type"
  | .value => "value"
  | .attribute => "attribute"
  | .namespaceName => "namespace"

def ofLabel? (label : String) : Option UsagePosition :=
  all.find? (·.label == label)

end UsagePosition

/-- The type that all attributes inherit from. -/
def attributeBase : String := "System.Attribute"

/-- How the name of an attribute ends. -/
def attributeEnding : String := "Attribute"

namespace Symbol

/-- Whether the symbol is labelled with one of the kinds of types. -/
def hasTypeKind (s : Symbol) (kinds : List TypeKind) : Bool :=
  match s.typeLabel with
  | some (.known kind) => kinds.contains kind
  | _ => false

/-- Whether the symbol can stand where a type is named.  A bare name may be a type. -/
def fitsType (s : Symbol) : Bool :=
  match s.kind with
  | .type => s.hasTypeKind [.classType, .struct, .interface, .enum, .delegate]
  | .rawName => true
  | _ => false

def fitsValue (s : Symbol) : Bool :=
  match s.kind with
  | .method | .property | .field | .localVariable | .parameter => true
  | .type => s.hasTypeKind [.enum, .classType, .struct]
  | .rawName => true
  | _ => false

def fitsAttribute (s : Symbol) : Bool :=
  match s.kind with
  | .type => s.baseTypes.contains attributeBase
  | .rawName => attributeEnding.toList.isSuffixOf s.name.toList
  | _ => false

def fitsNamespace (s : Symbol) : Bool :=
  match s.kind with
  | .namespaceName => true
  | .rawName => s.name.toList.contains '.'
  | _ => false

end Symbol

/-- Whether a symbol can stand in the position. -/
def UsagePosition.fits : UsagePosition → Symbol → Bool
  | .unknown, _ => true
  | .type, s => s.fitsType
  | .value, s => s.fitsValue
  | .attribute, s => s.fitsAttribute
  | .namespaceName, s => s.fitsNamespace

/-- The position as a caller states it: not at all, as a position, or in a word of its own. -/
inductive Usage where
  | unspecified
  | position (p : UsagePosition)
  | word (text : String)
  deriving Repr, DecidableEq

/-- The position that is meant; a word means the position that is written so. -/
def Usage.position? : Usage → Option UsagePosition
  | .unspecified => none
  | .position p => some p
  | .word text => UsagePosition.ofLabel? text

/-- Whether a symbol can be used so.  Where no position is meant, every symbol can. -/
def Usage.admits (u : Usage) (s : Symbol) : Bool :=
  match u.position? with
  | some p => p.fits s
  | none => true

/-- How log messages name the usage. -/
def Usage.shown : Usage → String
  | .unspecified => "None"
  | .position .unknown => "UsagePosition.UNKNOWN"
  | .position .type => "UsagePosition.TYPE"
  | .position .value => "UsagePosition.VALUE"
  | .position .attribute => "UsagePosition.ATTRIBUTE"
  | .position .namespaceName => "UsagePosition.NAMESPACE"
  | .word text => text

end DidYouMean
