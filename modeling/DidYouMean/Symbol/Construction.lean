import DidYouMean.Candidate
import DidYouMean.Refusal

/-!
# Building symbols and candidates

Symbols and candidates are built from parts that a caller supplies and that may be of any type.
What is no promised part is refused; the first broken promise counts.

## Main definitions

- `Given`: a part that should be one of a few known things, and may be any value
- `SymbolParts.build`, `CandidateParts.build`: the symbol or candidate of some parts
- `namespaceSymbol`: the namespace of a qualified name that may be any value
-/

namespace DidYouMean

open Json (Value)

/-- A known thing, or any value in its place. -/
inductive Given (α : Type) where
  | known (x : α)
  | foreign (given : Value)

/-- What iterating a value yields: the items of a list, the characters of a text, the keys of an
object. -/
def Json.Value.elements? : Value → Option (List Value)
  | .list items => some items
  | .text s => some (s.toList.map fun c => .text (String.singleton c))
  | .object fields => some (fields.map fun (key, _) => .text key)
  | _ => none

/-- The parts of a symbol. -/
structure SymbolParts where
  kind : Given SymbolKind
  name : Value
  qualifiedName : String
  typeLabel : Option TypeLabel
  baseTypes : Value

def SymbolParts.build (parts : SymbolParts) : Except Refusal Symbol :=
  match parts.kind, parts.name with
  | .foreign v, _ => .error (.contract (.symbolKind v))
  | .known kind, .text name =>
    if parts.typeLabel.isSome && kind ≠ .type then
      .error (.contract (.misplacedTypeKind kind))
    else match parts.baseTypes.elements? with
      | some bases =>
        .ok ⟨kind, name, parts.qualifiedName, parts.typeLabel, bases.map Value.asText⟩
      | none => .error (.notIterable parts.baseTypes)
  | .known _, v => .error (.contract (.symbolName v))

/-- Of parts that are what they should be, only a misplaced type kind is refused. -/
theorem SymbolParts.build_known (kind : SymbolKind) (name qualifiedName : String)
    (typeLabel : Option TypeLabel) (baseTypes : List String) :
    SymbolParts.build ⟨.known kind, .text name, qualifiedName, typeLabel,
        .list (baseTypes.map .text)⟩ =
      if typeLabel.isSome && kind ≠ .type then .error (.contract (.misplacedTypeKind kind))
      else .ok ⟨kind, name, qualifiedName, typeLabel, baseTypes⟩ := by
  have hbases : (baseTypes.map Value.text).map Value.asText = baseTypes := by
    rw [List.map_map]
    exact List.map_id _
  simp only [build, Value.elements?, hbases]

/-- The namespace that a value names. -/
def namespaceSymbol (given : Value) : Except Refusal Symbol :=
  match given with
  | .text name => .ok (.ofNamespace name)
  | v => if v.isFilled then .error (.missingAttribute v.typeName "rfind") else .ok (.ofNamespace "")

/-- The tier of a candidate as a caller states it: not found out yet, or a tier. -/
inductive Provenance where
  | unknown
  | tier (t : Tier)
  deriving Repr, DecidableEq

/-- The parts of a candidate. -/
structure CandidateParts where
  key : Value
  symbol : Given Symbol
  provenance : Given Provenance

def CandidateParts.build (parts : CandidateParts) : Except Refusal Candidate :=
  match parts.key, parts.symbol, parts.provenance with
  | .text key, .known symbol, .known (.tier tier) => .ok ⟨key, symbol, tier⟩
  | .text key, .known _, .known .unknown => .error (.contract (.unclassified key))
  | .text _, .known _, .foreign v => .error (.contract (.candidateTier v))
  | .text _, .foreign v, _ => .error (.contract (.candidateSymbol v))
  | v, _, _ => .error (.contract (.candidateKey v))

end DidYouMean
