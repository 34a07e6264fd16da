import DidYouMean.Universe.Walk
import Mathlib.Data.List.Basic
import Mathlib.Data.String.Basic

/-!
# Addresses in a universe

A node of a universe is found by the numbers of the branches that lead to it, where the types of a
namespace are counted before the namespaces in it.  The lexicographic order of these addresses is the
depth-first order: a node is before what it holds, and neighbours are in their order with all that
they hold.  Walks come to the nodes in this order, and to each of them once.

## Main definitions

- `Node.locate?`: the node at an address, with the names on the way to it
- `Node.IsTour`: the addresses of all nodes in depth-first order
- `dotted`: the qualified name that a row of names makes

## Main statements

- `joinName_assoc`, `dotted_cons`: a path can be joined to a row of names name by name
- `IsWalk.eq_filterMap`: what a walk yields is seen along the tour
- `walks_depth_first`: the types and namespaces of a universe
-/

namespace DidYouMean.Universe

section Names

/-- The qualified name that a row of names makes: with dots between those that are not empty. -/
def dotted (names : List String) : String :=
  ".".intercalate (names.filter (· ≠ ""))

theorem joinName_empty_left (name : String) : joinName "" name = name := if_pos rfl

theorem joinName_empty_right (path : String) : joinName path "" = path := by
  by_cases hpath : path = ""
  · rw [hpath, joinName_empty_left]
  · rw [joinName, if_neg hpath, if_pos rfl]

theorem joinName_of_ne {path name : String} (hpath : path ≠ "") (hname : name ≠ "") :
    joinName path name = path ++ "." ++ name := by
  rw [joinName, if_neg hpath, if_neg hname]

theorem joinName_assoc (a b c : String) :
    joinName (joinName a b) c = joinName a (joinName b c) := by
  by_cases ha : a = ""
  · rw [ha, joinName_empty_left, joinName_empty_left]
  by_cases hb : b = ""
  · rw [hb, joinName_empty_left, joinName_empty_right]
  by_cases hc : c = ""
  · rw [hc, joinName_empty_right, joinName_empty_right]
  have hab : a ++ "." ++ b ≠ "" := by simp
  have hbc : b ++ "." ++ c ≠ "" := by simp
  rw [joinName_of_ne ha hb, joinName_of_ne hb hc, joinName_of_ne hab hc, joinName_of_ne ha hbc]
  simp only [String.append_assoc]

/-- The first name of a row is joined to the qualified name of the others. -/
theorem dotted_cons (name : String) (names : List String) :
    dotted (name :: names) = joinName name (dotted names) := by
  by_cases hname : name = ""
  · rw [hname, joinName_empty_left, dotted, dotted, List.filter_cons_of_neg (by simp)]
  rw [dotted, dotted, List.filter_cons_of_pos (by simpa using hname)]
  cases hrest : names.filter (· ≠ "") with
  | nil => rw [String.intercalate_singleton, String.intercalate_nil, joinName_empty_right]
  | cons next more =>
    have hnext : next ≠ "" := by
      have hmem : next ∈ names.filter (· ≠ "") := by rw [hrest]; exact List.mem_cons_self
      simpa using (List.mem_filter.mp hmem).2
    have hfilled : ".".intercalate (next :: more) ≠ "" := by
      cases more with
      | nil => rwa [String.intercalate_singleton]
      | cons _ _ => simp [String.intercalate_cons_cons]
    rw [String.intercalate_cons_cons, joinName_of_ne hname hfilled]

theorem dotted_cons_cons (path name : String) (names : List String) :
    dotted (path :: name :: names) = dotted (joinName path name :: names) := by
  rw [dotted_cons, dotted_cons, dotted_cons, joinName_assoc]

end Names

/-- A node of a universe. -/
inductive Node where
  | type (node : TypeNode)
  | space (node : NamespaceNode)

/-- A node with the names on the way to it, its own name last. -/
structure Place where
  names : List String
  node : Node

namespace Node

def name : Node → String
  | .type node => node.name
  | .space node => node.name

/-- What a node holds: its types, and after them its namespaces. -/
def children : Node → List Node
  | .type node => node.nested.map .type
  | .space node => node.types.map .type ++ node.namespaces.map .space

/-- The node at an address, which numbers the branches on the way. -/
def locate? (node : Node) : List Nat → Option Place
  | [] => some ⟨[node.name], node⟩
  | i :: rest => (node.children[i]?).bind fun child =>
    (child.locate? rest).map fun place => { place with names := node.name :: place.names }

/-- The addresses of a node and of all below it, each of them once, in depth-first order. -/
structure IsTour (node : Node) (addresses : List (List Nat)) : Prop where
  sorted : addresses.Pairwise (· < ·)
  mem_iff : ∀ a, a ∈ addresses ↔ (node.locate? a).isSome

/-- What a node holds is smaller than the node. -/
theorem sizeOf_lt_of_mem_children {node child : Node} (h : child ∈ node.children) :
    sizeOf child < sizeOf node := by
  cases node with
  | type node =>
    obtain ⟨name, kind, bases, nested⟩ := node
    obtain ⟨t, ht, rfl⟩ := List.mem_map.mp h
    have hlt : sizeOf t < sizeOf nested := List.sizeOf_lt_of_mem ht
    simp only [type.sizeOf_spec, TypeNode.mk.sizeOf_spec]
    omega
  | space node =>
    obtain ⟨name, types, namespaces⟩ := node
    rcases List.mem_append.mp h with h | h
    · obtain ⟨t, ht, rfl⟩ := List.mem_map.mp h
      have hlt : sizeOf t < sizeOf types := List.sizeOf_lt_of_mem ht
      simp only [type.sizeOf_spec, space.sizeOf_spec, NamespaceNode.mk.sizeOf_spec]
      omega
    · obtain ⟨n, hn, rfl⟩ := List.mem_map.mp h
      have hlt : sizeOf n < sizeOf namespaces := List.sizeOf_lt_of_mem hn
      simp only [space.sizeOf_spec, NamespaceNode.mk.sizeOf_spec]
      omega

/-- What a node has if all that it holds have it, every node has. -/
theorem induction_on_children {P : Node → Prop}
    (h : ∀ node : Node, (∀ child ∈ node.children, P child) → P node) (node : Node) : P node :=
  h node fun child _ => induction_on_children h child
termination_by sizeOf node
decreasing_by exact sizeOf_lt_of_mem_children ‹_›

end Node

/-- A walk that sees something at some places.  It comes to a node before what the node holds, and takes
the name of the node into the path. -/
structure IsWalk {σ : Type} (walk : String → Node → List σ) (see? : String → Place → Option σ) :
    Prop where
  step : ∀ path node, walk path node = (see? path ⟨[node.name], node⟩).toList ++
    node.children.flatMap (walk (joinName path node.name))
  below : ∀ path name names node, see? path ⟨name :: names, node⟩ =
    see? (joinName path name) ⟨names, node⟩

section Tours

/-- The node at an address below some neighbours, which are counted from `i` on. -/
def locateAmong? (i : Nat) (nodes : List Node) : List Nat → Option Place
  | [] => none
  | k :: rest => if k < i then none else (nodes[k - i]?).bind fun node => node.locate? rest

/-- The addresses below some neighbours are a tour of them, and walks yield what is seen along it. -/
structure IsRow (i : Nat) (nodes : List Node) (addresses : List (List Nat)) : Prop where
  sorted : addresses.Pairwise (· < ·)
  mem_iff : ∀ a, a ∈ addresses ↔ (locateAmong? i nodes a).isSome
  walked : ∀ {σ : Type} {walk : String → Node → List σ} {see? : String → Place → Option σ},
    IsWalk walk see? → ∀ path, nodes.flatMap (walk path) =
      addresses.filterMap fun a => (locateAmong? i nodes a).bind (see? path)

/-- The addresses are a tour of the node, and walks yield what is seen along it. -/
structure IsWalked (node : Node) (addresses : List (List Nat)) : Prop
    extends node.IsTour addresses where
  walked : ∀ {σ : Type} {walk : String → Node → List σ} {see? : String → Place → Option σ},
    IsWalk walk see? → ∀ path, walk path node =
      addresses.filterMap fun a => (node.locate? a).bind (see? path)

variable {i : Nat} {node : Node} {nodes : List Node}

theorem locateAmong?_cons_self (rest : List Nat) :
    locateAmong? i (node :: nodes) (i :: rest) = node.locate? rest := by
  simp [locateAmong?]

theorem locateAmong?_cons_of_lt {k : Nat} (hlt : i < k) (rest : List Nat) :
    locateAmong? i (node :: nodes) (k :: rest) = locateAmong? (i + 1) nodes (k :: rest) := by
  rw [locateAmong?, locateAmong?, if_neg (by omega), if_neg (by omega),
    show k - i = k - (i + 1) + 1 by omega, List.getElem?_cons_succ]

theorem exists_lt_of_locateAmong? {a : List Nat} (h : (locateAmong? (i + 1) nodes a).isSome) :
    ∃ k rest, a = k :: rest ∧ i < k := by
  cases a with
  | nil => simp [locateAmong?] at h
  | cons k rest =>
    refine ⟨k, rest, rfl, ?_⟩
    by_contra hle
    rw [locateAmong?, if_pos (by omega)] at h
    simp at h

/-- A node is put in front of its neighbours. -/
theorem IsRow.cons {head row : List (List Nat)} (hnode : IsWalked node head)
    (hrow : IsRow (i + 1) nodes row) : IsRow i (node :: nodes) (head.map (i :: ·) ++ row) where
  sorted := by
    refine List.pairwise_append.mpr ⟨?_, hrow.sorted, ?_⟩
    · exact List.pairwise_map.mpr (hnode.sorted.imp fun h => List.cons_lt_cons_self.mpr h)
    · intro a ha b hb
      obtain ⟨rest, -, rfl⟩ := List.mem_map.mp ha
      obtain ⟨k, rest', rfl, hlt⟩ := exists_lt_of_locateAmong? ((hrow.mem_iff b).mp hb)
      exact List.cons_lt_cons_iff.mpr (.inl hlt)
  mem_iff a := by
    rw [List.mem_append, hrow.mem_iff, List.mem_map]
    cases a with
    | nil => simp [locateAmong?]
    | cons k rest =>
      rcases Nat.lt_trichotomy k i with hlt | rfl | hlt
      · simp [locateAmong?, hlt, Nat.lt_succ_of_lt hlt, Nat.ne_of_gt hlt]
      · rw [locateAmong?_cons_self, ← hnode.mem_iff]
        simp [locateAmong?]
      · rw [locateAmong?_cons_of_lt hlt]
        simp [Nat.ne_of_lt hlt]
  walked hwalk path := by
    rw [List.flatMap_cons, hnode.walked hwalk, hrow.walked hwalk, List.filterMap_append,
      List.filterMap_map]
    congr 1
    · exact List.filterMap_congr fun a _ => by rw [Function.comp_apply, locateAmong?_cons_self]
    · refine List.filterMap_congr fun a ha => ?_
      obtain ⟨k, rest, rfl, hlt⟩ := exists_lt_of_locateAmong? ((hrow.mem_iff a).mp ha)
      rw [locateAmong?_cons_of_lt hlt]

theorem exists_isRow (h : ∀ node ∈ nodes, ∃ addresses, IsWalked node addresses) (i : Nat) :
    ∃ addresses, IsRow i nodes addresses := by
  induction nodes generalizing i with
  | nil =>
    have hnone : ∀ a, locateAmong? i [] a = none := by
      intro a
      cases a <;> simp [locateAmong?]
    exact ⟨[], .nil, fun a => by simp [hnone], fun _ _ => rfl⟩
  | cons node nodes ih =>
    obtain ⟨hnode, hnodes⟩ := List.forall_mem_cons.mp h
    obtain ⟨head, hhead⟩ := hnode
    obtain ⟨row, hrow⟩ := ih hnodes (i + 1)
    exact ⟨_, .cons hhead hrow⟩

theorem locate?_cons (k : Nat) (rest : List Nat) : node.locate? (k :: rest) =
    (locateAmong? 0 node.children (k :: rest)).map fun place =>
      { place with names := node.name :: place.names } := by
  rw [Node.locate?, locateAmong?, if_neg (Nat.not_lt_zero k), Nat.sub_zero, Option.map_bind]
  rfl

/-- A node is at the empty address, before what it holds. -/
theorem IsRow.isWalked {row : List (List Nat)} (hrow : IsRow 0 node.children row) :
    IsWalked node ([] :: row) where
  sorted := by
    refine List.pairwise_cons.mpr ⟨fun a ha => ?_, hrow.sorted⟩
    cases a with
    | nil => simp [hrow.mem_iff, locateAmong?] at ha
    | cons k rest => exact List.nil_lt_cons k rest
  mem_iff a := by
    rw [List.mem_cons, hrow.mem_iff]
    cases a with
    | nil => simp [Node.locate?]
    | cons k rest => simp [locate?_cons]
  walked {_ _ see?} hwalk path := by
    have hself : ∀ more, List.filterMap (fun a => (node.locate? a).bind (see? path)) ([] :: more) =
        (see? path ⟨[node.name], node⟩).toList ++
          more.filterMap fun a => (node.locate? a).bind (see? path) := by
      intro more
      cases hsee : see? path ⟨[node.name], node⟩ <;> simp [Node.locate?, hsee]
    rw [hwalk.step, hrow.walked hwalk, hself]
    refine congrArg _ (List.filterMap_congr fun a ha => ?_)
    cases a with
    | nil => simp [hrow.mem_iff, locateAmong?] at ha
    | cons k rest =>
      rw [locate?_cons, Option.bind_map]
      exact congrArg _ (funext fun place => (hwalk.below path _ _ _).symm)

/-- Every node has a tour, and all walks yield what is seen along it. -/
theorem exists_isWalked (node : Node) : ∃ addresses, IsWalked node addresses :=
  node.induction_on_children fun _ hchildren =>
    let ⟨_, hrow⟩ := exists_isRow hchildren 0
    ⟨_, hrow.isWalked⟩

end Tours

section Walks

/-- A type at a place, as a symbol under a path. -/
def Place.symbol? (path : String) : Place → Option Symbol
  | ⟨names, .type node⟩ =>
    some (.ofType (Name.shortTypeName node.name) (dotted (path :: names)) node.kind node.bases)
  | ⟨_, .space _⟩ => none

/-- The qualified name of a namespace at a place under a path; the global one has none. -/
def Place.namespaceName? (path : String) : Place → Option String
  | ⟨_, .type _⟩ => none
  | ⟨names, .space _⟩ => if dotted (path :: names) = "" then none else some (dotted (path :: names))

/-- The symbols of all types of a node. -/
def Node.symbols (path : String) : Node → List Symbol
  | .type node => nestedSymbols path node
  | .space node => typeSymbols path node

/-- The qualified names of all namespaces of a node. -/
def Node.namespaceNames (path : String) : Node → List String
  | .type _ => []
  | .space node => Universe.namespaceNames path node

theorem nestedSymbolsList_eq (path : String) (nodes : List TypeNode) :
    nestedSymbolsList path nodes = nodes.flatMap (nestedSymbols path) := by
  induction nodes with
  | nil => rfl
  | cons node nodes ih => rw [nestedSymbolsList, ih, List.flatMap_cons]

theorem typeSymbolsList_eq (path : String) (nodes : List NamespaceNode) :
    typeSymbolsList path nodes = nodes.flatMap (typeSymbols path) := by
  induction nodes with
  | nil => rfl
  | cons node nodes ih => rw [typeSymbolsList, ih, List.flatMap_cons]

theorem namespaceNamesList_eq (path : String) (nodes : List NamespaceNode) :
    namespaceNamesList path nodes = nodes.flatMap (namespaceNames path) := by
  induction nodes with
  | nil => rfl
  | cons node nodes ih => rw [namespaceNamesList, ih, List.flatMap_cons]

theorem dotted_pair (path name : String) : dotted [path, name] = joinName path name := by
  rw [dotted_cons, dotted_cons]
  exact congrArg (joinName path) (joinName_empty_right name)

theorem isWalk_symbols : IsWalk Node.symbols Place.symbol? where
  step path node := by
    cases node with
    | type node =>
      obtain ⟨name, kind, bases, nested⟩ := node
      simp only [Node.symbols, Node.children, List.flatMap_map, nestedSymbols,
        nestedSymbolsList_eq, Place.symbol?, Node.name, dotted_pair]
      rfl
    | space node =>
      obtain ⟨name, types, namespaces⟩ := node
      simp only [Node.symbols, Node.children, List.flatMap_append, List.flatMap_map, typeSymbols,
        nestedSymbolsList_eq, typeSymbolsList_eq, Place.symbol?, Node.name]
      rfl
  below path name names node := by
    cases node with
    | type node => rw [Place.symbol?, Place.symbol?, dotted_cons_cons]
    | space node => rfl

theorem isWalk_namespaceNames : IsWalk Node.namespaceNames Place.namespaceName? where
  step path node := by
    cases node with
    | type node => simp [Node.namespaceNames, Node.children, Place.namespaceName?]
    | space node =>
      obtain ⟨name, types, namespaces⟩ := node
      have htypes : types.flatMap (fun _ => ([] : List String)) = [] := by simp
      simp only [Node.namespaceNames, Node.children, List.flatMap_append, List.flatMap_map,
        htypes, namespaceNames, namespaceNamesList_eq, Place.namespaceName?, Node.name, dotted_pair,
        List.nil_append]
      split_ifs <;> rfl
  below path name names node := by
    cases node with
    | type node => rfl
    | space node => rw [Place.namespaceName?, Place.namespaceName?, dotted_cons_cons]

/-- A path is put in front of the qualified name of a type, and changes nothing else. -/
theorem Place.symbol?_path (path : String) (place : Place) : place.symbol? path =
    (place.symbol? "").map fun s => { s with qualifiedName := joinName path s.qualifiedName } := by
  obtain ⟨names, node | node⟩ := place
  · rw [symbol?, symbol?, dotted_cons path, dotted_cons "", joinName_empty_left]
    rfl
  · rfl

theorem joinName_eq_left_iff {path name : String} : joinName path name = path ↔ name = "" := by
  refine ⟨fun h => ?_, fun h => h ▸ joinName_empty_right path⟩
  by_contra hname
  by_cases hpath : path = ""
  · rw [hpath, joinName_empty_left] at h
    exact hname h
  · rw [joinName_of_ne hpath hname] at h
    have hlength := congrArg String.length h
    rw [String.length_append, String.length_append] at hlength
    have hdot : ".".length = 1 := rfl
    omega

/-- A path is put in front of the qualified name of a namespace.  It is itself the name of those that
have none without it. -/
theorem Place.namespaceName?_path (path : String) (place : Place) :
    (place.namespaceName? "").map (joinName path) =
      (place.namespaceName? path).filter (· ≠ path) := by
  obtain ⟨names, node | node⟩ := place
  · rfl
  rw [namespaceName?, namespaceName?, dotted_cons path, dotted_cons "", joinName_empty_left]
  by_cases hnames : dotted names = ""
  · rw [if_pos hnames, hnames, joinName_empty_right]
    split_ifs
    · rfl
    · exact (if_neg (by simp)).symm
  · have hpath : joinName path (dotted names) ≠ path := mt joinName_eq_left_iff.mp hnames
    have hfilled : joinName path (dotted names) ≠ "" := by
      by_cases hempty : path = ""
      · rwa [hempty, joinName_empty_left]
      · rw [joinName_of_ne hempty hnames]
        simp
    rw [if_neg hnames, if_neg hfilled]
    exact (if_pos (decide_eq_true hpath)).symm

end Walks

/-- The walks of a universe come to its nodes in depth-first order and to each of them once.  The types
are yielded as symbols, the namespaces by name unless they are global.  Each qualified name is made of
the path, the names on the way to the node and its own name, and so the path is only put in front of
the qualified names, and names those namespaces that have no name without it. -/
theorem walks_depth_first (path : String) (root : NamespaceNode) :
    (∃ addresses, (Node.space root).IsTour addresses ∧
      typeSymbols path root = addresses.filterMap
        (fun a => ((Node.space root).locate? a).bind (Place.symbol? path)) ∧
      namespaceNames path root = addresses.filterMap
        (fun a => ((Node.space root).locate? a).bind (Place.namespaceName? path))) ∧
    typeSymbols path root = ((typeSymbols "" root).map
      fun s => { s with qualifiedName := joinName path s.qualifiedName }) ∧
    (namespaceNames path root).filter (· ≠ path) =
      (namespaceNames "" root).map (joinName path) := by
  obtain ⟨addresses, hwalked⟩ := exists_isWalked (.space root)
  have hsymbols : ∀ path, typeSymbols path root = addresses.filterMap
      fun a => ((Node.space root).locate? a).bind (Place.symbol? path) :=
    hwalked.walked isWalk_symbols
  have hnames : ∀ path, namespaceNames path root = addresses.filterMap
      fun a => ((Node.space root).locate? a).bind (Place.namespaceName? path) :=
    hwalked.walked isWalk_namespaceNames
  refine ⟨⟨addresses, hwalked.toIsTour, hsymbols path, hnames path⟩, ?_, ?_⟩
  · rw [hsymbols path, hsymbols "", List.map_filterMap]
    refine List.filterMap_congr fun a _ => ?_
    rw [Option.map_bind]
    exact congrArg _ (funext (Place.symbol?_path path))
  · rw [hnames path, hnames "", List.map_filterMap, List.filter_filterMap]
    refine List.filterMap_congr fun a _ => ?_
    cases (Node.space root).locate? a with
    | none => rfl
    | some place => exact (place.namespaceName?_path path).symm

end DidYouMean.Universe
