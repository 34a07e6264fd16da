import DidYouMean.Symbol.Construction
import DidYouMean.Universe.Walk

/-!
# Building what a walk yields

A walk builds the symbol of each type that it comes to.  Whoever takes it makes something of the
symbol before the walk goes on.  The first refusal ends the walk.

## Main definitions

- `TypeNode.parts`, `libraryParts`: what symbols and candidates are built from
- `gatherTypes`: what is made of all types of a namespace
- `countTypes`, `buildLibrary`: their number, and all of them as candidates
-/

namespace DidYouMean.Universe

/-- The parts of the symbol of a type node. -/
def TypeNode.parts (path : String) (node : TypeNode) : SymbolParts :=
  ⟨.known .type, .text (Name.shortTypeName node.name), joinName path node.name,
    some (.known node.kind), .list (node.bases.map .text)⟩

/-- The parts of a type as a candidate from an external library. -/
def libraryParts (s : Symbol) : CandidateParts :=
  ⟨.text s.name, .known s, .known (.tier .externalLibrary)⟩

variable {β : Type}

mutual

/-- What is made of a type and of all types nested in it. -/
def gatherNested (make : Symbol → Except Refusal (List β)) (path : String) :
    TypeNode → Except Refusal (List β)
  | ⟨name, kind, bases, nested⟩ => do
    let symbol ← (TypeNode.parts path ⟨name, kind, bases, nested⟩).build
    let first ← make symbol
    let rest ← gatherNestedList make (joinName path name) nested
    return first ++ rest

def gatherNestedList (make : Symbol → Except Refusal (List β)) (path : String) :
    List TypeNode → Except Refusal (List β)
  | [] => return []
  | node :: rest => do
    let first ← gatherNested make path node
    let rest ← gatherNestedList make path rest
    return first ++ rest

end

mutual

/-- What is made of all types in a namespace. -/
def gatherTypes (make : Symbol → Except Refusal (List β)) (path : String) :
    NamespaceNode → Except Refusal (List β)
  | ⟨name, types, namespaces⟩ => do
    let here := joinName path name
    let first ← gatherNestedList make here types
    let rest ← gatherTypesList make here namespaces
    return first ++ rest

def gatherTypesList (make : Symbol → Except Refusal (List β)) (path : String) :
    List NamespaceNode → Except Refusal (List β)
  | [] => return []
  | node :: rest => do
    let first ← gatherTypes make path node
    let rest ← gatherTypesList make path rest
    return first ++ rest

end

/-- The number of types in a universe. -/
def countTypes (root : NamespaceNode) : Except Refusal Nat := do
  let symbols ← gatherTypes (fun s => return [s]) "" root
  return symbols.length

/-- All types of a universe as candidates, but those whose qualified names are excluded. -/
def buildLibrary (exclude : List String) (root : NamespaceNode) :
    Except Refusal (List Candidate) :=
  gatherTypes (fun s => do
    if exclude.contains s.qualifiedName then return []
    else
      let c ← (libraryParts s).build
      return [c]) "" root

end DidYouMean.Universe
