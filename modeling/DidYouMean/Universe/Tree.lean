import DidYouMean.Symbol.Basic

/-!
# Namespace trees

A universe holds every type and namespace that is known, as a tree of namespaces.

## Main definitions

- `TypeNode`, `NamespaceNode`: the nodes of the tree
- `joinName`: the qualified name of a node
-/

namespace DidYouMean.Universe

/-- A type with the types nested in it. -/
structure TypeNode where
  name : String
  kind : TypeKind
  bases : List String
  nested : List TypeNode

/-- A namespace with its types and the namespaces in it. -/
structure NamespaceNode where
  name : String
  types : List TypeNode
  namespaces : List NamespaceNode

/-- Puts a dot between two names; an empty name adds nothing. -/
def joinName (path name : String) : String :=
  if path = "" then name
  else if name = "" then path
  else path ++ "." ++ name

end DidYouMean.Universe
