import DidYouMean.Proofs.Name.Segments
import DidYouMean.Proofs.Universe.Addresses

/-!
# Keys of generic types

The library offers each type under its short name.  A generic type is offered under its plain name,
unless its type parameters hold a dot.

## Main definitions

- `Place.candidate?`: a type at a place as a candidate from the library

## Main statements

- `exists_tour_libraryCandidates`: the library offers the types of a universe in depth-first order
- `keys_of_generic_types`: the keys of generic types, wherever in a universe they are
-/

namespace DidYouMean.Universe

/-- A type at a place as a candidate from the library, unless its qualified name is excluded. -/
def Place.candidate? (exclude : List String) (place : Place) : Option Candidate :=
  ((place.symbol? "").filter fun s => !exclude.contains s.qualifiedName).map libraryCandidate

/-- The library offers the types of a universe in depth-first order, and each of them once. -/
theorem exists_tour_libraryCandidates (exclude : List String) (root : NamespaceNode) :
    ∃ addresses, (Node.space root).IsTour addresses ∧ libraryCandidates exclude root =
      addresses.filterMap fun a => ((Node.space root).locate? a).bind (Place.candidate? exclude) := by
  obtain ⟨addresses, hwalked⟩ := exists_isWalked (.space root)
  have hsymbols : typeSymbols "" root = addresses.filterMap
      fun a => ((Node.space root).locate? a).bind (Place.symbol? "") :=
    hwalked.walked isWalk_symbols ""
  refine ⟨addresses, hwalked.toIsTour, ?_⟩
  rw [libraryCandidates, hsymbols, List.filter_filterMap, List.map_filterMap]
  refine List.filterMap_congr fun a _ => ?_
  cases (Node.space root).locate? a with
  | none => rfl
  | some place => rfl

theorem key_of_candidate? {exclude names : List String} {node : TypeNode} {c : Candidate}
    (h : Place.candidate? exclude ⟨names, .type node⟩ = some c) :
    c.key = Name.shortTypeName node.name := by
  obtain ⟨s, hs, rfl⟩ := Option.map_eq_some_iff.mp h
  obtain ⟨hsymbol, -⟩ := Option.filter_eq_some_iff.mp hs
  obtain rfl := Option.some.inj hsymbol
  rfl

/-- Wherever a type with type parameters is in a universe, its key is its plain name if and only if no dot
is among the parameters, or if what stands behind the last of these dots is shortened to the same name.
The same goes for its qualified name, whatever the path is. -/
theorem keys_of_generic_types {name suffix : String} (hname : Name.IsBare name)
    (hsuffix : Name.IsParameters suffix) :
    let kept := '.' ∉ suffix.toList ∨ Name.shortTypeName suffix = name
    (∀ (exclude : List String) (root : NamespaceNode), ∃ addresses,
      (Node.space root).IsTour addresses ∧
      libraryCandidates exclude root = addresses.filterMap
        (fun a => ((Node.space root).locate? a).bind (Place.candidate? exclude)) ∧
      ∀ a ∈ addresses, ∀ names node c, (Node.space root).locate? a = some ⟨names, .type node⟩ →
        Place.candidate? exclude ⟨names, .type node⟩ = some c → node.name = name ++ suffix →
          (c.key = name ↔ kept)) ∧
    ∀ path, Name.shortTypeName (path ++ "." ++ name ++ suffix) = name ↔ kept := by
  intro kept
  have hshort : Name.shortTypeName (name ++ suffix) = name ↔ kept :=
    Name.shortTypeName_append_iff hname hsuffix
  refine ⟨fun exclude root => ?_, fun path => ?_⟩
  · obtain ⟨addresses, htour, hcandidates⟩ := exists_tour_libraryCandidates exclude root
    refine ⟨addresses, htour, hcandidates, fun a _ names node c _ hc hnode => ?_⟩
    rw [key_of_candidate? hc, hnode, hshort]
  · rw [String.append_assoc, Name.shortTypeName_dotted, hshort]

section Lists

/-- A universe with a type in one namespace. -/
def systemTree (typeName : String) : NamespaceNode :=
  ⟨"", [], [⟨"System", [⟨typeName, .classType, [], []⟩], []⟩]⟩

def systemPlace (typeName : String) : Place :=
  ⟨["", "System", typeName], .type ⟨typeName, .classType, [], []⟩⟩

theorem locate?_systemTree (typeName : String) :
    (Node.space (systemTree typeName)).locate? [0, 0] = some (systemPlace typeName) := rfl

theorem exists_candidate?_systemPlace (typeName : String) :
    ∃ c, (systemPlace typeName).candidate? [] = some c :=
  ⟨_, rfl⟩

/-- A list of anything, in the namespace `System`. -/
theorem keys_of_generic_types_list :
    Name.IsBare "List" ∧ Name.IsParameters "<T>" ∧
      Name.shortTypeName ("System" ++ "." ++ "List" ++ "<T>") = "List" ∧
      ∃ c, (systemPlace "List<T>").candidate? [] = some c ∧ c.key = "List" := by
  have hbare : Name.IsBare "List" := by decide
  have hparams : Name.IsParameters "<T>" := by simp [Name.IsParameters]
  have hkept : '.' ∉ "<T>".toList ∨ Name.shortTypeName "<T>" = "List" := .inl (by decide)
  obtain ⟨hlibrary, hpaths⟩ := keys_of_generic_types hbare hparams
  obtain ⟨addresses, htour, -, hkeys⟩ := hlibrary [] (systemTree "List<T>")
  obtain ⟨c, hc⟩ := exists_candidate?_systemPlace "List<T>"
  have hplace := locate?_systemTree "List<T>"
  have hmem : [0, 0] ∈ addresses := (htour.mem_iff _).mpr (by rw [hplace]; rfl)
  exact ⟨hbare, hparams, (hpaths "System").mpr hkept, c, hc,
    (hkeys _ hmem _ _ c hplace hc rfl).mpr hkept⟩

/-- A list of `System.Int32` has the key `Int32>`. -/
theorem not_keys_of_generic_types : ¬∀ name suffix : String, name ≠ "" → Name.IsBare name →
    Name.IsParameters suffix →
    (∀ (root : NamespaceNode) (a : List Nat) (names : List String) (node : TypeNode) (c : Candidate),
      (Node.space root).locate? a = some ⟨names, .type node⟩ → node.name = name ++ suffix →
      Place.candidate? [] ⟨names, .type node⟩ = some c → c.key = name) ∧
    ∀ path, (∀ c ∈ path.toList, c ∉ ['<', '\x60']) →
      Name.shortTypeName (path ++ "." ++ name ++ suffix) = name := by
  intro hall
  have hparams : Name.IsParameters "<System.Int32>" := by simp [Name.IsParameters]
  obtain ⟨hkeys, -⟩ := hall "List" "<System.Int32>" (by decide) (by decide) hparams
  obtain ⟨c, hc⟩ := exists_candidate?_systemPlace "List<System.Int32>"
  have hkey := hkeys _ _ _ _ c (locate?_systemTree "List<System.Int32>") rfl hc
  rw [key_of_candidate? hc] at hkey
  revert hkey
  decide

end Lists

end DidYouMean.Universe
