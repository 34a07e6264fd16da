import DidYouMean.Candidate
import DidYouMean.Universe.Tree

/-!
# Walks through a universe

A walk visits a tree depth first: a type before the types nested in it, the types of a namespace
before the namespaces in it, and neighbours in their order.

## Main definitions

- `typeSymbols`, `namespaceNames`, `libraryCandidates`: the full walks, as lists
- `TypeWalk`, `NamespaceWalk`: the same walks taken step by step
- `Tour`: a walk of one of the three sorts that is under way
- `Tours`: tours that are under way side by side

## Design notes

A walk that is under way is a stack of what it has still to visit, so walks know nothing of each
other, and every walk of a universe begins with the whole tree.
-/

namespace DidYouMean.Universe

/-- A type node as a symbol.  It goes by its short name. -/
def TypeNode.symbol (path : String) (node : TypeNode) : Symbol :=
  .ofType (Name.shortTypeName node.name) (joinName path node.name) node.kind node.bases

mutual

/-- The symbols of a type and of all types nested in it. -/
def nestedSymbols (path : String) : TypeNode → List Symbol
  | ⟨name, kind, bases, nested⟩ =>
    TypeNode.symbol path ⟨name, kind, bases, nested⟩
      :: nestedSymbolsList (joinName path name) nested

def nestedSymbolsList (path : String) : List TypeNode → List Symbol
  | [] => []
  | node :: rest => nestedSymbols path node ++ nestedSymbolsList path rest

end

mutual

/-- The symbols of all types in a namespace. -/
def typeSymbols (path : String) : NamespaceNode → List Symbol
  | ⟨name, types, namespaces⟩ =>
    let here := joinName path name
    nestedSymbolsList here types ++ typeSymbolsList here namespaces

def typeSymbolsList (path : String) : List NamespaceNode → List Symbol
  | [] => []
  | node :: rest => typeSymbols path node ++ typeSymbolsList path rest

end

mutual

/-- The qualified names of a namespace and of those in it; the global one has none. -/
def namespaceNames (path : String) : NamespaceNode → List String
  | ⟨name, _, namespaces⟩ =>
    let here := joinName path name
    (if here = "" then [] else [here]) ++ namespaceNamesList here namespaces

def namespaceNamesList (path : String) : List NamespaceNode → List String
  | [] => []
  | node :: rest => namespaceNames path node ++ namespaceNamesList path rest

end

/-- A type as a candidate from an external library. -/
def libraryCandidate (s : Symbol) : Candidate :=
  ⟨s.name, s, .externalLibrary⟩

/-- All types of a universe as candidates, but those whose qualified names are excluded. -/
def libraryCandidates (exclude : List String) (root : NamespaceNode) : List Candidate :=
  ((typeSymbols "" root).filter fun s => !exclude.contains s.qualifiedName).map libraryCandidate

/-- Neighbours that a walk through types has still to visit, under their path. -/
inductive Pending where
  | types (path : String) (nodes : List TypeNode)
  | spaces (path : String) (nodes : List NamespaceNode)

/-- A walk through types that is under way: what it has still to visit, the nearest first. -/
abbrev TypeWalk := List Pending

/-- How much there is in some neighbours. -/
noncomputable def Pending.weight : Pending → Nat
  | .types _ nodes => sizeOf nodes
  | .spaces _ nodes => sizeOf nodes

/-- How much a walk has still to visit. -/
noncomputable def TypeWalk.weight : TypeWalk → Nat
  | [] => 0
  | pending :: rest => pending.weight + TypeWalk.weight rest

/-- The next type of a walk and the walk from there on; `none` at the end. -/
def TypeWalk.next? : TypeWalk → Option (Symbol × TypeWalk)
  | [] => none
  | .types _ [] :: rest => TypeWalk.next? rest
  | .types path (node :: more) :: rest =>
    let here := joinName path node.name
    some (node.symbol path, .types here node.nested :: .types path more :: rest)
  | .spaces _ [] :: rest => TypeWalk.next? rest
  | .spaces path (node :: more) :: rest =>
    let here := joinName path node.name
    TypeWalk.next? (.types here node.types :: .spaces here node.namespaces
      :: .spaces path more :: rest)
termination_by walk => walk.weight
decreasing_by
  · simp [TypeWalk.weight, Pending.weight]
  · simp [TypeWalk.weight, Pending.weight]
  · cases node
    simp [TypeWalk.weight, Pending.weight]
    omega

/-- Each step of a walk visits a node. -/
theorem TypeWalk.weight_next? {walk walk' : TypeWalk} {s : Symbol}
    (h : walk.next? = some (s, walk')) : walk'.weight < walk.weight := by
  fun_induction TypeWalk.next? walk with
  | case1 => simp at h
  | case2 path rest ih =>
    have := ih h
    simp only [TypeWalk.weight, Pending.weight]
    omega
  | case3 path node more rest =>
    simp only [Option.some.injEq, Prod.mk.injEq] at h
    rw [← h.2]
    cases node
    simp [TypeWalk.weight, Pending.weight]
    omega
  | case4 path rest ih =>
    have := ih h
    simp only [TypeWalk.weight, Pending.weight]
    omega
  | case5 path node more rest here ih =>
    have := ih h
    cases node
    simp [TypeWalk.weight, Pending.weight] at this ⊢
    omega

/-- The next type of a walk that is not excluded, and the walk from there on. -/
def TypeWalk.nextExcept? (exclude : List String) (walk : TypeWalk) :
    Option (Symbol × TypeWalk) :=
  match _h : walk.next? with
  | none => none
  | some (s, walk') =>
    if exclude.contains s.qualifiedName then TypeWalk.nextExcept? exclude walk'
    else some (s, walk')
termination_by walk.weight
decreasing_by exact TypeWalk.weight_next? _h

/-- The beginning of a walk through all types. -/
def TypeWalk.start (root : NamespaceNode) : TypeWalk :=
  [.spaces "" [root]]

/-- A walk through namespaces that is under way: the neighbours it has still to visit, under their
path, the nearest first. -/
abbrev NamespaceWalk := List (String × List NamespaceNode)

/-- How much a walk has still to visit. -/
noncomputable def NamespaceWalk.weight : NamespaceWalk → Nat
  | [] => 0
  | (_, nodes) :: rest => sizeOf nodes + NamespaceWalk.weight rest

/-- The next namespace of a walk and the walk from there on; `none` at the end. -/
def NamespaceWalk.next? : NamespaceWalk → Option (String × NamespaceWalk)
  | [] => none
  | (_, []) :: rest => NamespaceWalk.next? rest
  | (path, node :: more) :: rest =>
    let here := joinName path node.name
    if here = "" then NamespaceWalk.next? ((here, node.namespaces) :: (path, more) :: rest)
    else some (here, (here, node.namespaces) :: (path, more) :: rest)
termination_by walk => walk.weight
decreasing_by
  · simp [NamespaceWalk.weight]
  · cases node
    simp [NamespaceWalk.weight]
    omega

/-- The beginning of a walk through all namespaces. -/
def NamespaceWalk.start (root : NamespaceNode) : NamespaceWalk :=
  [("", [root])]

/-- A walk of one of three sorts: through types, through namespaces, or through the types of the
library that are not excluded. -/
inductive Tour where
  | types (walk : TypeWalk)
  | namespaces (walk : NamespaceWalk)
  | library (exclude : List String) (walk : TypeWalk)

/-- What a tour comes across: a type, the name of a namespace, or a candidate of the library. -/
inductive Sight where
  | type (s : Symbol)
  | namespaceName (name : String)
  | candidate (c : Candidate)
  deriving Repr, DecidableEq

/-- How a sight is told: by the identity of a type, the name of a namespace, or the key of a
candidate. -/
def Sight.shown : Sight → String
  | .type s => s.identityKey
  | .namespaceName name => name
  | .candidate c => c.key

/-- What a tour comes across next, and the tour from there on; `none` at the end. -/
def Tour.next? : Tour → Option (Sight × Tour)
  | .types walk => walk.next?.map fun (s, walk) => (.type s, .types walk)
  | .namespaces walk => walk.next?.map fun (name, walk) => (.namespaceName name, .namespaces walk)
  | .library exclude walk =>
    (walk.nextExcept? exclude).map fun (s, walk) =>
      (.candidate (libraryCandidate s), .library exclude walk)

/-- The tours that are under way, each under a name of its own. -/
abbrev Tours := List (String × Tour)

/-- Begins a tour, or begins it anew. -/
def Tours.begin (tours : Tours) (name : String) (tour : Tour) : Tours :=
  (name, tour) :: tours.filter (·.1 != name)

/-- Takes a step of a tour; the others stay where they are. -/
def Tours.visit (tours : Tours) (name : String) : Option Sight × Tours :=
  match (tours.lookup name).bind Tour.next? with
  | some (sight, tour) => (some sight, tours.begin name tour)
  | none => (none, tours)

/-- Takes a step of a tour and tells what it came across. -/
def Tours.advance (tours : Tours) (name : String) : Option String × Tours :=
  let (sight, tours) := tours.visit name
  (sight.map Sight.shown, tours)

end DidYouMean.Universe
