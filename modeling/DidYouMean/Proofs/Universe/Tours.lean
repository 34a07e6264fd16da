import DidYouMean.Proofs.Files.Tree
import DidYouMean.Universe.Walk

/-!
# Tours of a universe

A tour that is under way has a rest of the full walk before it.  A visit takes the first sight of
this rest, and nothing else changes it, and so tours that are under way side by side come across
what each of them would come across alone.

## Main definitions

- `TypeWalk.rest`, `NamespaceWalk.rest`, `Tour.rest`: what is still to come
- `Route`: what a tour is begun for, with the full walk that belongs to it
- `TourStep`, `Tours.after`: beginnings and visits of tours, in any order

## Main statements

- `Tour.rest_eq`: the next sight is the first one of the rest
- `Route.rest_tour`: a tour begins with the full walk
- `Tours.rest?_after`: where a tour is after any steps
- `Tours.visit_after`: the sights of a tour are those of the full walk, one after the other
-/

namespace DidYouMean.Universe

/-- The types in some neighbours. -/
def Pending.symbols : Pending → List Symbol
  | .types path nodes => nestedSymbolsList path nodes
  | .spaces path nodes => typeSymbolsList path nodes

/-- The types that a walk has still to visit. -/
def TypeWalk.rest (walk : TypeWalk) : List Symbol :=
  walk.flatMap Pending.symbols

/-- The namespaces that a walk has still to visit. -/
def NamespaceWalk.rest (walk : NamespaceWalk) : List String :=
  walk.flatMap fun (path, nodes) => namespaceNamesList path nodes

/-- The types of a library as sights, but those that are excluded. -/
def librarySights (exclude : List String) (symbols : List Symbol) : List Sight :=
  (symbols.filter fun s => !exclude.contains s.qualifiedName).map
    fun s => .candidate (libraryCandidate s)

/-- What a tour has still to come across. -/
def Tour.rest : Tour → List Sight
  | .types walk => walk.rest.map .type
  | .namespaces walk => walk.rest.map .namespaceName
  | .library exclude walk => librarySights exclude walk.rest

/-- What a tour is begun for. -/
inductive Route where
  | types
  | namespaces
  | library (exclude : List String)
  deriving Repr, DecidableEq

/-- The beginning of a tour. -/
def Route.tour (root : NamespaceNode) : Route → Tour
  | .types => .types (.start root)
  | .namespaces => .namespaces (.start root)
  | .library exclude => .library exclude (.start root)

/-- The full walk. -/
def Route.sights (root : NamespaceNode) : Route → List Sight
  | .types => (typeSymbols "" root).map .type
  | .namespaces => (namespaceNames "" root).map .namespaceName
  | .library exclude => (libraryCandidates exclude root).map .candidate

/-- Begins a tour under a name, or takes a step of the tour of this name. -/
inductive TourStep where
  | begin (name : String) (route : Route)
  | visit (name : String)
  deriving Repr, DecidableEq

/-- The tours after one more step. -/
def Tours.take (root : NamespaceNode) (tours : Tours) : TourStep → Tours
  | .begin name route => tours.begin name (route.tour root)
  | .visit name => (tours.visit name).2

/-- The tours after a row of steps. -/
def Tours.after (root : NamespaceNode) (steps : List TourStep) : Tours :=
  steps.foldl (Tours.take root) []

/-- What the tour of a name has still to come across. -/
def Tours.rest? (tours : Tours) (name : String) : Option (List Sight) :=
  (tours.lookup name).map Tour.rest

section Walks

theorem TypeWalk.rest_cons (pending : Pending) (walk : TypeWalk) :
    TypeWalk.rest (pending :: walk) = pending.symbols ++ walk.rest :=
  List.flatMap_cons

theorem nestedSymbolsList_cons (path : String) (node : TypeNode) (more : List TypeNode) :
    nestedSymbolsList path (node :: more) =
      node.symbol path ::
        (nestedSymbolsList (joinName path node.name) node.nested ++
          nestedSymbolsList path more) := by
  cases node
  rw [nestedSymbolsList, nestedSymbols]
  rfl

theorem typeSymbolsList_cons (path : String) (node : NamespaceNode) (more : List NamespaceNode) :
    typeSymbolsList path (node :: more) =
      nestedSymbolsList (joinName path node.name) node.types ++
        (typeSymbolsList (joinName path node.name) node.namespaces ++
          typeSymbolsList path more) := by
  cases node
  rw [typeSymbolsList, typeSymbols, List.append_assoc]

theorem namespaceNamesList_cons (path : String) (node : NamespaceNode)
    (more : List NamespaceNode) :
    namespaceNamesList path (node :: more) =
      (if joinName path node.name = "" then [] else [joinName path node.name]) ++
        (namespaceNamesList (joinName path node.name) node.namespaces ++
          namespaceNamesList path more) := by
  cases node
  rw [namespaceNamesList, namespaceNames, List.append_assoc]

/-- The next type of a walk is the first one of the rest. -/
theorem TypeWalk.rest_eq (walk : TypeWalk) :
    walk.rest = match walk.next? with
      | none => []
      | some (s, walk') => s :: walk'.rest := by
  -- a step that finds no type only splits the neighbours in front, which leaves the rest as it is
  fun_induction TypeWalk.next? walk with
  | case1 => rfl
  | case2 path walk ih =>
    rw [← ih, rest_cons, Pending.symbols, nestedSymbolsList, List.nil_append]
  | case3 path node more walk here =>
    simp only [rest_cons, Pending.symbols, nestedSymbolsList_cons, List.cons_append,
      List.append_assoc]
    rfl
  | case4 path walk ih =>
    rw [← ih, rest_cons, Pending.symbols, typeSymbolsList, List.nil_append]
  | case5 path node more walk here ih =>
    rw [← ih]
    simp only [rest_cons, Pending.symbols, typeSymbolsList_cons, List.append_assoc]
    rfl

/-- Types that are excluded are passed. -/
theorem TypeWalk.librarySights_rest (exclude : List String) (walk : TypeWalk) :
    librarySights exclude walk.rest = match walk.nextExcept? exclude with
      | none => []
      | some (s, walk') =>
        .candidate (libraryCandidate s) :: librarySights exclude walk'.rest := by
  fun_induction TypeWalk.nextExcept? exclude walk with
  | case1 walk hnext =>
    rw [rest_eq, hnext]
    rfl
  | case2 walk s walk' hnext hexcluded ih =>
    rw [← ih, rest_eq walk, hnext]
    simp only [librarySights, List.filter_cons, hexcluded]
    rfl
  | case3 walk s walk' hnext hkept =>
    rw [rest_eq walk, hnext]
    simp only [librarySights, List.filter_cons, hkept]
    rfl

/-- The next namespace of a walk is the first one of the rest. -/
theorem NamespaceWalk.rest_eq (walk : NamespaceWalk) :
    walk.rest = match walk.next? with
      | none => []
      | some (name, walk') => name :: walk'.rest := by
  fun_induction NamespaceWalk.next? walk with
  | case1 => rfl
  | case2 path walk ih => exact ih
  | case3 path node more walk here hglobal ih =>
    rw [← ih]
    simp only [rest, List.flatMap_cons, namespaceNamesList_cons]
    rw [if_pos hglobal, List.nil_append, List.append_assoc]
  | case4 path node more walk here hnamed =>
    simp only [rest, List.flatMap_cons, namespaceNamesList_cons]
    rw [if_neg hnamed, List.append_assoc, List.append_assoc]
    rfl

/-- The next sight of a tour is the first one of the rest. -/
theorem Tour.rest_eq (tour : Tour) :
    tour.rest = match tour.next? with
      | none => []
      | some (sight, tour') => sight :: tour'.rest := by
  cases tour with
  | types walk =>
    rw [rest, next?, walk.rest_eq]
    cases walk.next? <;> rfl
  | namespaces walk =>
    rw [rest, next?, walk.rest_eq]
    cases walk.next? <;> rfl
  | library exclude walk =>
    rw [rest, next?, walk.librarySights_rest]
    cases walk.nextExcept? exclude <;> rfl

theorem TypeWalk.rest_start (root : NamespaceNode) :
    (TypeWalk.start root).rest = typeSymbols "" root := by
  simp only [start, rest, List.flatMap_cons, List.flatMap_nil, Pending.symbols, typeSymbolsList,
    List.append_nil]

theorem NamespaceWalk.rest_start (root : NamespaceNode) :
    (NamespaceWalk.start root).rest = namespaceNames "" root := by
  simp only [start, rest, List.flatMap_cons, List.flatMap_nil, namespaceNamesList, List.append_nil]

/-- Every tour begins with the full walk. -/
theorem Route.rest_tour (root : NamespaceNode) (route : Route) :
    (route.tour root).rest = route.sights root := by
  cases route with
  | types => rw [tour, Tour.rest, TypeWalk.rest_start, sights]
  | namespaces => rw [tour, Tour.rest, NamespaceWalk.rest_start, sights]
  | library exclude =>
    rw [tour, Tour.rest, TypeWalk.rest_start, sights, libraryCandidates, List.map_map]
    rfl

end Walks

namespace Tours

variable (root : NamespaceNode) (tours : Tours) (name other : String)

theorem rest?_begin (tour : Tour) :
    (tours.begin name tour).rest? other =
      if other = name then some tour.rest else tours.rest? other := by
  rw [rest?, begin, List.lookup_cons, lookup_filter_ne]
  by_cases hother : other = name
  · simp [hother]
  · simp [hother, beq_false_of_ne hother, rest?]

/-- A visit finds the first sight that is still to come, if there is one. -/
theorem visit_fst : (tours.visit name).1 = (tours.rest? name).bind List.head? := by
  rw [visit, rest?]
  cases tours.lookup name with
  | none => rfl
  | some tour =>
    rw [Option.map_some, Option.bind_some, Option.bind_some, tour.rest_eq]
    cases tour.next? <;> rfl

/-- A visit leaves what comes after the first sight, and all other tours where they are. -/
theorem rest?_visit :
    (tours.visit name).2.rest? other =
      if other = name then (tours.rest? name).map List.tail else tours.rest? other := by
  rw [visit]
  cases hlookup : tours.lookup name with
  | none =>
    by_cases hother : other = name
    · simp [hother, rest?, hlookup]
    · simp [hother]
  | some tour =>
    have hrest : tours.rest? name = some tour.rest := by rw [rest?, hlookup, Option.map_some]
    rw [hrest, tour.rest_eq, Option.bind_some]
    cases hnext : tour.next? with
    | some next => exact rest?_begin tours name other next.2
    | none =>
      rw [tour.rest_eq, hnext] at hrest
      by_cases hother : other = name
      · simp [hother, hrest]
      · simp [hother]

theorem after_append_singleton (steps : List TourStep) (last : TourStep) :
    after root (steps ++ [last]) = (after root steps).take root last := by
  rw [after, List.foldl_append]
  rfl

/-- Since a tour was begun, each visit of it has taken one sight of the full walk, whatever was done
with other tours. -/
theorem rest?_after (before since : List TourStep) (route : Route)
    (hsince : ∀ route', .begin name route' ∉ since) :
    (after root (before ++ .begin name route :: since)).rest? name =
      some ((route.sights root).drop (since.count (.visit name))) := by
  -- the last step begins another tour, or visits this one or another one
  induction since using List.reverseRecOn with
  | nil =>
    rw [after_append_singleton, take, rest?_begin, if_pos rfl, route.rest_tour]
    rfl
  | append_singleton since last ih =>
    have hbegun := ih fun route' hmem => hsince route' (List.mem_append_left _ hmem)
    rw [← List.cons_append, ← List.append_assoc, after_append_singleton, List.count_append]
    cases last with
    | begin name' route' =>
      have hname : name ≠ name' := by
        rintro rfl
        exact hsince route' (by simp)
      rw [take, rest?_begin, if_neg hname, hbegun]
      simp
    | visit name' =>
      rw [take, rest?_visit]
      by_cases hname : name = name'
      · subst hname
        rw [if_pos rfl, hbegun, Option.map_some, List.tail_drop]
        simp
      · rw [if_neg hname, hbegun]
        simp [Ne.symm hname]

/-- The sights of a tour are those of the full walk, one after the other, and then there are no more,
whatever is done with other tours. -/
theorem visit_after (before since : List TourStep) (route : Route)
    (hsince : ∀ route', .begin name route' ∉ since) :
    ((after root (before ++ .begin name route :: since)).visit name).1 =
      (route.sights root)[since.count (.visit name)]? := by
  rw [visit_fst, rest?_after root name before since route hsince, Option.bind_some,
    List.head?_drop]

/-- A third visit, with steps of two other tours in between. -/
theorem visit_after_palette :
    let root : NamespaceNode := ⟨"", [⟨"Palette", .classType, [], [⟨"Entry", .struct, [], []⟩]⟩],
      [⟨"Paint", [⟨"Brush", .classType, [], []⟩], []⟩]⟩
    let before : List TourStep := [.begin "spaces" .namespaces, .visit "spaces"]
    let since : List TourStep := [.visit "all", .begin "library" (.library ["Palette"]),
      .visit "library", .visit "all", .visit "spaces"]
    (∀ route', .begin "all" route' ∉ since) ∧
      ((after root (before ++ .begin "all" .types :: since)).visit "all").1 =
        some (.type (.ofType "Brush" "Paint.Brush" .classType [])) := by
  intro root before since
  have hsince : ∀ route', .begin "all" route' ∉ since := by simp [since]
  have hthird : (Route.types.sights root)[since.count (.visit "all")]? =
      some (.type (.ofType "Brush" "Paint.Brush" .classType [])) := by
    decide +kernel
  exact ⟨hsince, (visit_after root "all" before since .types hsince).trans hthird⟩

end Tours

end DidYouMean.Universe
