import DidYouMean.Universe.Library

/-!
# Walks that build what they yield

The parts that a type node supplies are what a symbol promises to have, and the symbol in turn is what a
candidate promises to have.  So a walk is only refused what its taker refuses, and it comes to the types
of the list of all types.

## Main definitions

- `NamespaceNode.HoldsType`: there is a type somewhere in a namespace

## Main statements

- `TypeNode.build_parts`, `build_libraryParts`: what is built of a node is its symbol and its candidate
- `forall_mem_typeSymbols`: what holds of the symbol of every node holds of all types
- `identityKey_of_mem_libraryCandidates`: the library has no candidate whose identity is excluded
- `libraryCandidates_eq_nil_iff`: there are no candidates if there is no type
- `gatherTypes_of_make`: a walk whose taker refuses nothing ends with what is made of all types
- `countTypes_eq`, `buildLibrary_eq`: so the types can be counted, and made candidates of
-/

namespace DidYouMean.Universe

/-- The symbol built of a type node is the one that the node stands for. -/
theorem TypeNode.build_parts (path : String) (node : TypeNode) :
    (node.parts path).build = .ok (node.symbol path) := by
  rw [TypeNode.parts, SymbolParts.build_known]
  rfl

theorem build_libraryParts (s : Symbol) : (libraryParts s).build = .ok (libraryCandidate s) := rfl

section Symbols

variable {P : Symbol → Prop}

mutual

theorem forall_mem_nestedSymbols (h : ∀ path (node : TypeNode), P (node.symbol path))
    (path : String) (node : TypeNode) : ∀ s ∈ nestedSymbols path node, P s := by
  obtain ⟨name, kind, bases, nested⟩ := node
  rw [nestedSymbols]
  exact List.forall_mem_cons.mpr
    ⟨h path _, forall_mem_nestedSymbolsList h (joinName path name) nested⟩

theorem forall_mem_nestedSymbolsList (h : ∀ path (node : TypeNode), P (node.symbol path))
    (path : String) (nodes : List TypeNode) : ∀ s ∈ nestedSymbolsList path nodes, P s := by
  cases nodes with
  | nil => exact List.forall_mem_nil _
  | cons node rest =>
    rw [nestedSymbolsList]
    exact List.forall_mem_append.mpr
      ⟨forall_mem_nestedSymbols h path node, forall_mem_nestedSymbolsList h path rest⟩

end

mutual

/-- What holds of the symbol of every type node holds of all types of a universe. -/
theorem forall_mem_typeSymbols (h : ∀ path (node : TypeNode), P (node.symbol path))
    (path : String) (node : NamespaceNode) : ∀ s ∈ typeSymbols path node, P s := by
  obtain ⟨name, types, namespaces⟩ := node
  rw [typeSymbols]
  exact List.forall_mem_append.mpr ⟨forall_mem_nestedSymbolsList h _ types,
    forall_mem_typeSymbolsList h (joinName path name) namespaces⟩

theorem forall_mem_typeSymbolsList (h : ∀ path (node : TypeNode), P (node.symbol path))
    (path : String) (nodes : List NamespaceNode) : ∀ s ∈ typeSymbolsList path nodes, P s := by
  cases nodes with
  | nil => exact List.forall_mem_nil _
  | cons node rest =>
    rw [typeSymbolsList]
    exact List.forall_mem_append.mpr
      ⟨forall_mem_typeSymbols h path node, forall_mem_typeSymbolsList h path rest⟩

end

/-- A type without a qualified name has no name at all. -/
theorem TypeNode.name_symbol_of_unqualified {path : String} {node : TypeNode}
    (h : (node.symbol path).qualifiedName = "") : (node.symbol path).name = "" := by
  have hjoined : joinName path node.name = "" := h
  have hname : node.name = "" := by
    rw [joinName] at hjoined
    by_cases hpath : path = ""
    · rwa [if_pos hpath] at hjoined
    · rw [if_neg hpath] at hjoined
      by_cases hname : node.name = ""
      · exact hname
      · rw [if_neg hname] at hjoined
        have hlength := congrArg String.length hjoined
        simp at hlength
  have hshort : (node.symbol path).name = Name.shortTypeName node.name := rfl
  rw [hshort, hname]
  decide

/-- The library has no candidate whose identity is excluded. -/
theorem identityKey_of_mem_libraryCandidates {exclude : List String} {root : NamespaceNode}
    {c : Candidate} (h : c ∈ libraryCandidates exclude root) :
    c.symbol.identityKey = "" ∨ c.symbol.identityKey ∉ exclude := by
  obtain ⟨s, hs, rfl⟩ := List.mem_map.mp h
  obtain ⟨hmem, hexcluded⟩ := List.mem_filter.mp hs
  have hunqualified : s.qualifiedName = "" → s.name = "" :=
    forall_mem_typeSymbols (P := fun s => s.qualifiedName = "" → s.name = "")
      (fun _ _ => TypeNode.name_symbol_of_unqualified) "" root s hmem
  show s.identityKey = "" ∨ s.identityKey ∉ exclude
  rw [Symbol.identityKey]
  by_cases hname : s.qualifiedName = ""
  · rw [if_pos hname]
    exact .inl (hunqualified hname)
  · rw [if_neg hname]
    exact .inr (by simpa using hexcluded)

end Symbols

section Types

/-- There is a type in a namespace, or in one of the namespaces in it. -/
inductive NamespaceNode.HoldsType : NamespaceNode → Prop where
  | own {name : String} {types : List TypeNode} {namespaces : List NamespaceNode}
      (h : types ≠ []) : HoldsType ⟨name, types, namespaces⟩
  | inner {name : String} {types : List TypeNode} {namespaces : List NamespaceNode}
      {node : NamespaceNode} (hnode : node ∈ namespaces) (h : HoldsType node) :
      HoldsType ⟨name, types, namespaces⟩

theorem NamespaceNode.not_holdsType_iff {name : String} {types : List TypeNode}
    {namespaces : List NamespaceNode} : ¬HoldsType ⟨name, types, namespaces⟩ ↔
      types = [] ∧ ∀ node ∈ namespaces, ¬node.HoldsType := by
  constructor
  · intro hnone
    exact ⟨Classical.byContradiction fun h => hnone (.own h), fun node hnode h =>
      hnone (.inner hnode h)⟩
  · rintro ⟨htypes, hnamespaces⟩ h
    cases h with
    | own h => exact h htypes
    | inner hnode h => exact hnamespaces _ hnode h

theorem nestedSymbolsList_eq_nil_iff {path : String} {nodes : List TypeNode} :
    nestedSymbolsList path nodes = [] ↔ nodes = [] := by
  cases nodes with
  | nil => simp [nestedSymbolsList]
  | cons node rest =>
    obtain ⟨name, kind, bases, nested⟩ := node
    simp [nestedSymbolsList, nestedSymbols]

mutual

/-- A universe has no types if there is no type anywhere in it. -/
theorem typeSymbols_eq_nil_iff (path : String) (node : NamespaceNode) :
    typeSymbols path node = [] ↔ ¬node.HoldsType := by
  obtain ⟨name, types, namespaces⟩ := node
  rw [typeSymbols, List.append_eq_nil_iff, nestedSymbolsList_eq_nil_iff,
    typeSymbolsList_eq_nil_iff (joinName path name) namespaces, NamespaceNode.not_holdsType_iff]

theorem typeSymbolsList_eq_nil_iff (path : String) (nodes : List NamespaceNode) :
    typeSymbolsList path nodes = [] ↔ ∀ node ∈ nodes, ¬node.HoldsType := by
  cases nodes with
  | nil => simp [typeSymbolsList]
  | cons node rest =>
    rw [typeSymbolsList, List.append_eq_nil_iff, typeSymbols_eq_nil_iff path node,
      typeSymbolsList_eq_nil_iff path rest, List.forall_mem_cons]

end

/-- There are no candidates from a universe if there is no type anywhere in it. -/
theorem libraryCandidates_eq_nil_iff (root : NamespaceNode) :
    libraryCandidates [] root = [] ↔ ¬root.HoldsType := by
  have hall : (typeSymbols "" root).filter (fun s => !([] : List String).contains s.qualifiedName) =
      typeSymbols "" root :=
    List.filter_eq_self.mpr fun _ _ => rfl
  rw [libraryCandidates, hall, List.map_eq_nil_iff, typeSymbols_eq_nil_iff]

end Types

section Walks

variable {β : Type} {make : Symbol → Except Refusal (List β)} {made : Symbol → List β}

mutual

theorem gatherNested_of_make (h : ∀ s, make s = .ok (made s)) (path : String) (node : TypeNode) :
    gatherNested make path node = .ok ((nestedSymbols path node).flatMap made) := by
  obtain ⟨name, kind, bases, nested⟩ := node
  rw [gatherNested, TypeNode.build_parts, nestedSymbols, List.flatMap_cons]
  simp only [bind, Except.bind, h, gatherNestedList_of_make h (joinName path name) nested]
  rfl

theorem gatherNestedList_of_make (h : ∀ s, make s = .ok (made s)) (path : String)
    (nodes : List TypeNode) :
    gatherNestedList make path nodes = .ok ((nestedSymbolsList path nodes).flatMap made) := by
  cases nodes with
  | nil => rfl
  | cons node rest =>
    rw [gatherNestedList, nestedSymbolsList, List.flatMap_append, gatherNested_of_make h path node,
      gatherNestedList_of_make h path rest]
    rfl

end

mutual

/-- A walk whose taker makes something of every type comes to the end. -/
theorem gatherTypes_of_make (h : ∀ s, make s = .ok (made s)) (path : String)
    (node : NamespaceNode) :
    gatherTypes make path node = .ok ((typeSymbols path node).flatMap made) := by
  obtain ⟨name, types, namespaces⟩ := node
  rw [gatherTypes, typeSymbols, List.flatMap_append, gatherNestedList_of_make h,
    gatherTypesList_of_make h (joinName path name) namespaces]
  rfl

theorem gatherTypesList_of_make (h : ∀ s, make s = .ok (made s)) (path : String)
    (nodes : List NamespaceNode) :
    gatherTypesList make path nodes = .ok ((typeSymbolsList path nodes).flatMap made) := by
  cases nodes with
  | nil => rfl
  | cons node rest =>
    rw [gatherTypesList, typeSymbolsList, List.flatMap_append, gatherTypes_of_make h path node,
      gatherTypesList_of_make h path rest]
    rfl

end

end Walks

/-- The types of every universe can be counted. -/
theorem countTypes_eq (root : NamespaceNode) :
    countTypes root = .ok (typeSymbols "" root).length := by
  have hgather : gatherTypes (fun s => return [s]) "" root =
      .ok ((typeSymbols "" root).flatMap fun s => [s]) :=
    gatherTypes_of_make (fun _ => rfl) "" root
  rw [countTypes, hgather, List.flatMap_singleton']
  rfl

/-- All types of a universe can be made candidates of. -/
theorem buildLibrary_eq (exclude : List String) (root : NamespaceNode) :
    buildLibrary exclude root = .ok (libraryCandidates exclude root) := by
  let made : Symbol → List Candidate := fun s =>
    if exclude.contains s.qualifiedName then [] else [libraryCandidate s]
  have hfilter : ∀ symbols : List Symbol, symbols.flatMap made =
      (symbols.filter fun s => !exclude.contains s.qualifiedName).map libraryCandidate := by
    intro symbols
    induction symbols with
    | nil => rfl
    | cons s symbols ih =>
      rw [List.flatMap_cons, ih]
      cases hs : exclude.contains s.qualifiedName with
      | true =>
        rw [List.filter_cons_of_neg (by rw [hs]; decide), show made s = [] from if_pos hs]
        rfl
      | false =>
        have hmade : made s = [libraryCandidate s] := if_neg (by rw [hs]; decide)
        rw [List.filter_cons_of_pos (by rw [hs]; rfl), hmade]
        rfl
  rw [buildLibrary, libraryCandidates, ← hfilter]
  apply gatherTypes_of_make
  intro s
  by_cases hs : exclude.contains s.qualifiedName
  · simp only [made, if_pos hs]
    rfl
  · simp only [made, if_neg hs, build_libraryParts]
    rfl

end DidYouMean.Universe
