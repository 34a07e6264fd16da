import DidYouMean.Json.Value
import DidYouMean.Symbol.Basic

/-!
# Refusals

Why the engine refuses what a caller hands in.  Callers promise to hand in symbols and candidates
that are complete; each broken promise is a contract violation with a message of its own.

## Main definitions

- `ContractViolation`: the broken promises
- `Refusal`: these, and the misuses of values that are of the wrong type altogether
-/

namespace DidYouMean

open Json (Value)

/-- A promise that a caller broke. -/
inductive ContractViolation where
  | symbolKind (given : Value)
  | symbolName (given : Value)
  | misplacedTypeKind (kind : SymbolKind)
  | candidateKey (given : Value)
  | candidateSymbol (given : Value)
  | candidateTier (given : Value)
  | unclassified (key : String)
  | noBonus (shownTier : String)
  | notACandidate (typeName : String)
  | unknownSymbolKind (given : String)
  | unknownTypeKind (given : String)

def ContractViolation.message : ContractViolation → String
  | .symbolKind v => "symbol kind must be a SymbolKind, got " ++ v.shown
  | .symbolName v => "symbol name must be a string, got " ++ v.typeName
  | .misplacedTypeKind kind => "type_kind is only valid on type symbols (got " ++ kind.label ++ ")"
  | .candidateKey v => "candidate key must be a string, got " ++ v.typeName
  | .candidateSymbol v => "candidate value must be a Symbol, got " ++ v.typeName
  | .candidateTier v => "candidate tier must be a ProvenanceTier, got " ++ v.shown
  | .unclassified key => "candidate " ++ Text.quoted key ++ " has no provenance tier (UNKNOWN)"
  | .noBonus tier => "no bonus defined for provenance tier " ++ tier
  | .notACandidate typeName => "expected Candidate, got " ++ typeName
  | .unknownSymbolKind given => "unknown symbol kind " ++ Text.quoted given
  | .unknownTypeKind given => "unknown type kind " ++ Text.quoted given

/-- Why a caller's input is refused. -/
inductive Refusal where
  | contract (violation : ContractViolation)
  | notIterable (given : Value)
  | notHashable (given : Value)
  | missingAttribute (typeName name : String)

def Refusal.message : Refusal → String
  | .contract violation => violation.message
  | .notIterable v => "'" ++ v.typeName ++ "' object is not iterable"
  | .notHashable v => "unhashable type: '" ++ v.typeName ++ "'"
  | .missingAttribute typeName name =>
    "'" ++ typeName ++ "' object has no attribute '" ++ name ++ "'"

end DidYouMean
