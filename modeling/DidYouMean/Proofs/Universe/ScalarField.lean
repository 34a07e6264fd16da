import DidYouMean.Proofs.Universe.Shape

/-!
# Scalars in place of lists

A document is refused as malformed at its first fault, with one exception: a field that should be a
list, but holds a number or `true`, ends the reading with an error of another sort.

## Main definitions

- `ScalarField`: a field holds such a value
- `TypeTrips`, `NamespaceTrips`: the first fault of a document is such a field
- `Trips`: a reading ends with the other sort of error

## Main statements

- `ofValue_ok_or_malformed_iff`: when a document is read or else refused as malformed
- `not_ofValue_ok_or_malformed`: this is not so of every document
-/

namespace DidYouMean.Universe

open Json (Value)

/-- The field holds a value that counts as given and cannot be gone through. -/
def ScalarField (fields : List (String × Value)) (key : String) : Prop :=
  ∃ v, fields.lookup key = some v ∧ v.isFilled ∧ v.elements? = none

/-- A type has a name and a known kind, which are looked at before its lists. -/
structure TypeHead (fields : List (String × Value)) : Prop where
  named : ∃ name, fields.lookup "name" = some (.text name) ∧ name ≠ ""
  kind : ∃ kind, KindField fields kind

/-- The first fault of a type is a scalar in place of a list. -/
inductive TypeTrips : Value → Prop
  | bases {fields : List (String × Value)} :
      TypeHead fields → ScalarField fields "bases" → TypeTrips (.object fields)
  | nested {fields : List (String × Value)} :
      TypeHead fields → (∃ bases, TextsField fields "bases" bases) →
      ScalarField fields "nested" → TypeTrips (.object fields)
  | inside {fields : List (String × Value)} {before after : List Value} {item : Value} :
      TypeHead fields → (∃ bases, TextsField fields "bases" bases) →
      ListField fields "nested" (before ++ item :: after) → (∀ v ∈ before, IsType v) →
      TypeTrips item → TypeTrips (.object fields)

theorem TypeTrips.head {fields : List (String × Value)} (h : TypeTrips (.object fields)) :
    TypeHead fields := by
  cases h with
  | bases hhead _ => exact hhead
  | nested hhead _ _ => exact hhead
  | inside hhead _ _ _ _ => exact hhead

/-- The first fault of a namespace is a scalar in place of a list. -/
inductive NamespaceTrips : Value → Prop
  | types {fields : List (String × Value)} :
      ScalarField fields "types" → NamespaceTrips (.object fields)
  | insideType {fields : List (String × Value)} {before after : List Value} {item : Value} :
      ListField fields "types" (before ++ item :: after) → (∀ v ∈ before, IsType v) →
      TypeTrips item → NamespaceTrips (.object fields)
  | namespaces {fields : List (String × Value)} {types : List Value} :
      ListField fields "types" types → (∀ v ∈ types, IsType v) →
      ScalarField fields "namespaces" → NamespaceTrips (.object fields)
  | insideNamespace {fields : List (String × Value)} {types before after : List Value}
      {item : Value} :
      ListField fields "types" types → (∀ v ∈ types, IsType v) →
      ListField fields "namespaces" (before ++ item :: after) → (∀ v ∈ before, IsNamespace v) →
      NamespaceTrips item → NamespaceTrips (.object fields)

/-- The reading ends with an error that does not tell what is malformed. -/
def Trips {α : Type} (x : Except ShapeError α) : Prop :=
  ∃ e, x = .error e ∧ e.isMalformed = false

section Checks

variable {α β : Type}

theorem trips_bind_iff {x : Except ShapeError α} {f : α → Except ShapeError β} :
    Trips (x.bind f) ↔ Trips x ∨ ∃ a, x = .ok a ∧ Trips (f a) := by
  cases x <;> simp [Trips, Except.bind]

theorem trips_map_iff {x : Except ShapeError α} {f : α → β} : Trips (x.map f) ↔ Trips x := by
  simp only [Trips, map_eq_error_iff]

theorem trips_mapM_iff {f : α → Except ShapeError β} {xs : List α} : Trips (xs.mapM f) ↔
    ∃ before x after, xs = before ++ x :: after ∧ (∀ y ∈ before, ∃ z, f y = .ok z) ∧
      Trips (f x) := by
  simp only [Trips, mapM_eq_error_iff]
  constructor
  · rintro ⟨e, ⟨before, x, after, rfl, hbefore, hx⟩, he⟩
    exact ⟨before, x, after, rfl, hbefore, e, hx, he⟩
  · rintro ⟨before, x, after, rfl, hbefore, e, hx, he⟩
    exact ⟨e, ⟨before, x, after, rfl, hbefore, hx⟩, he⟩

variable {fields : List (String × Value)} {key : String}

theorem scalarField_iff {v : Value} (hlook : fields.lookup key = some v) (hfilled : v.isFilled) :
    ScalarField fields key ↔ v.elements? = none := by
  simp [ScalarField, hlook, hfilled]

theorem not_scalarField_of_empty (hempty : EmptyField fields key) : ¬ScalarField fields key := by
  rintro ⟨v, hlook, hfilled, -⟩
  rw [hempty v hlook] at hfilled
  cases hfilled

theorem trips_nodeItems_iff {malformed : Value → ShapeError}
    (hmalformed : ∀ v, (malformed v).isMalformed) :
    Trips (nodeItems malformed fields key) ↔ ScalarField fields key := by
  rw [nodeItems]
  rcases filledField?_cases fields key with ⟨hempty, hnone⟩ | ⟨v, hlook, hfilled, hsome⟩
  · rw [hnone]
    simp [Trips, not_scalarField_of_empty hempty]
  · rw [hsome, scalarField_iff hlook hfilled]
    cases v with
    | text s => simp [Trips, Value.elements?, hmalformed]
    | object entries => simp [Trips, Value.elements?, hmalformed]
    | _ => simp [Trips, Value.elements?, ShapeError.isMalformed]

theorem trips_textItems_iff : Trips (textItems fields key) ↔ ScalarField fields key := by
  rw [textItems]
  rcases filledField?_cases fields key with ⟨hempty, hnone⟩ | ⟨v, hlook, hfilled, hsome⟩
  · rw [hnone]
    simp [Trips, not_scalarField_of_empty hempty]
  · rw [hsome, scalarField_iff hlook hfilled]
    cases v <;> simp [Trips, Value.elements?, ShapeError.isMalformed]

theorem not_trips_readKind (name : String) : ¬Trips (readKind fields name) := by
  rw [readKind]
  cases fields.lookup "kind" with
  | none => simp [Trips]
  | some v =>
    dsimp only
    cases TypeKind.ofLabel? (Text.lower v.asText) <;> simp [Trips, ShapeError.isMalformed]

end Checks

section Documents

/-- A row of nodes trips where the first node does that is not read. -/
theorem trips_mapM_nodes_iff {α : Type} {f : Value → Except ShapeError α} {p q : Value → Prop}
    {items : List Value} (hread : ∀ v, (∃ node, f v = .ok node) ↔ p v)
    (htrips : ∀ v ∈ items, Trips (f v) ↔ q v) : Trips (items.mapM f) ↔
      ∃ before item after, items = before ++ item :: after ∧ (∀ v ∈ before, p v) ∧ q item := by
  rw [trips_mapM_iff]
  constructor
  · rintro ⟨before, item, after, rfl, hbefore, hitem⟩
    exact ⟨before, item, after, rfl, fun v hv => (hread v).mp (hbefore v hv),
      (htrips item (by simp)).mp hitem⟩
  · rintro ⟨before, item, after, rfl, hbefore, hitem⟩
    exact ⟨before, item, after, rfl, fun v hv => (hread v).mpr (hbefore v hv),
      (htrips item (by simp)).mpr hitem⟩

theorem exists_readType_iff (path : String) (v : Value) :
    (∃ node, readType path v = .ok node) ↔ IsType v := by
  simp only [readType_eq_ok_iff, exists_typeMirrors_iff]

theorem exists_mapM_readType_iff (path : String) (items : List Value) :
    (∃ nodes, items.mapM (readType path) = .ok nodes) ↔ ∀ v ∈ items, IsType v := by
  simp only [mapM_eq_ok_iff, exists_forall₂_iff, exists_readType_iff]

theorem exists_readNamespace_iff (path : String) (v : Value) :
    (∃ node, readNamespace path v = .ok node) ↔ IsNamespace v := by
  simp only [readNamespace_eq_ok_iff, exists_namespaceMirrors_iff]

/-- The checks of a type that has a name, up to the first one that may trip. -/
theorem trips_readType_object_iff {fields : List (String × Value)} {path name : String}
    (hname : fields.lookup "name" = some (.text name)) (hne : name ≠ "") :
    Trips (readType path (.object fields)) ↔
      ∃ kind, KindField fields kind ∧ (ScalarField fields "bases" ∨
        ∃ bases, TextsField fields "bases" bases ∧ (ScalarField fields "nested" ∨
          ∃ items, ListField fields "nested" items ∧
            Trips (items.mapM (readType (joinName path name))))) := by
  have hnested : Trips (nodeItems (.malformedType (joinName path name)) fields "nested") ↔
      ScalarField fields "nested" := trips_nodeItems_iff fun _ => rfl
  simp only [readType_object hname hne, trips_bind_iff, trips_map_iff, not_trips_readKind,
    trips_textItems_iff, hnested, readKind_eq_ok_iff, textItems_eq_ok_iff, nodeItems_eq_ok_iff,
    false_or]

theorem trips_readType_iff (v : Value) : ∀ path, Trips (readType path v) ↔ TypeTrips v := by
  induction v using document_induction with
  | other v hv =>
    intro path
    rw [readType_of_nameless fun fields _ hfields => absurd hfields (hv fields)]
    constructor
    · rintro ⟨_, ⟨⟩, ⟨⟩⟩
    · rintro ⟨⟩
      all_goals exact absurd rfl (hv _)
  | object fields ih =>
    intro path
    by_cases hnamed : ∃ name, fields.lookup "name" = some (.text name) ∧ name ≠ ""
    · obtain ⟨name, hname, hne⟩ := hnamed
      have hinside : ∀ items, ListField fields "nested" items →
          (Trips (items.mapM (readType (joinName path name))) ↔ ∃ before item after,
            items = before ++ item :: after ∧ (∀ v ∈ before, IsType v) ∧ TypeTrips item) :=
        fun items hitems => trips_mapM_nodes_iff (exists_readType_iff _) fun v hv =>
          ih _ items hitems v hv _
      rw [trips_readType_object_iff hname hne]
      -- one case for each check that may trip, in the order of the checks
      constructor
      · rintro ⟨kind, hkind, hbases | ⟨bases, hbases, hnested | ⟨items, hitems, htrips⟩⟩⟩
        · exact .bases ⟨⟨name, hname, hne⟩, kind, hkind⟩ hbases
        · exact .nested ⟨⟨name, hname, hne⟩, kind, hkind⟩ ⟨bases, hbases⟩ hnested
        · obtain ⟨before, item, after, rfl, hbefore, hitem⟩ := (hinside items hitems).mp htrips
          exact .inside ⟨⟨name, hname, hne⟩, kind, hkind⟩ ⟨bases, hbases⟩ hitems hbefore hitem
      · rintro (⟨⟨-, kind, hkind⟩, hbases⟩ | ⟨⟨-, kind, hkind⟩, ⟨bases, hbases⟩, hnested⟩ |
          @⟨_, before, after, item, ⟨-, kind, hkind⟩, ⟨bases, hbases⟩, hitems, hbefore, hitem⟩)
        · exact ⟨kind, hkind, .inl hbases⟩
        · exact ⟨kind, hkind, .inr ⟨bases, hbases, .inl hnested⟩⟩
        · refine ⟨kind, hkind, .inr ⟨bases, hbases, .inr ⟨_, hitems, ?_⟩⟩⟩
          exact (hinside _ hitems).mpr ⟨before, item, after, rfl, hbefore, hitem⟩
    · rw [readType_of_nameless]
      · constructor
        · rintro ⟨_, ⟨⟩, ⟨⟩⟩
        · intro htrips
          exact absurd htrips.head.named hnamed
      · rintro fields' name ⟨⟩ hname
        by_contra hne
        exact hnamed ⟨name, hname, hne⟩

/-- The checks of a namespace, up to the first one that may trip. -/
theorem trips_readNamespace_object_iff (path : String) (fields : List (String × Value)) :
    Trips (readNamespace path (.object fields)) ↔
      let here := joinName path (readNamespaceName fields)
      ScalarField fields "types" ∨ ∃ items, ListField fields "types" items ∧
        (Trips (items.mapM (readType here)) ∨ (∀ v ∈ items, IsType v) ∧
          (ScalarField fields "namespaces" ∨ ∃ spaces, ListField fields "namespaces" spaces ∧
            Trips (spaces.mapM (readNamespace here)))) := by
  let here := joinName path (readNamespaceName fields)
  have htypes : Trips (nodeItems (.malformedType here) fields "types") ↔
      ScalarField fields "types" := trips_nodeItems_iff fun _ => rfl
  have hspaces : Trips (nodeItems (.malformedNamespace here) fields "namespaces") ↔
      ScalarField fields "namespaces" := trips_nodeItems_iff fun _ => rfl
  simp only [readNamespace_object, trips_bind_iff, trips_map_iff, htypes, hspaces,
    nodeItems_eq_ok_iff, exists_and_right, exists_mapM_readType_iff, here]

theorem trips_readNamespace_iff (v : Value) :
    ∀ path, Trips (readNamespace path v) ↔ NamespaceTrips v := by
  induction v using document_induction with
  | other v hv =>
    intro path
    rw [readNamespace_of_other hv]
    constructor
    · rintro ⟨_, ⟨⟩, ⟨⟩⟩
    · rintro ⟨⟩
      all_goals exact absurd rfl (hv _)
  | object fields ih =>
    intro path
    have htypes : ∀ here items, Trips (items.mapM (readType here)) ↔ ∃ before item after,
        items = before ++ item :: after ∧ (∀ v ∈ before, IsType v) ∧ TypeTrips item :=
      fun here items => trips_mapM_nodes_iff (exists_readType_iff _) fun v _ =>
        trips_readType_iff v _
    -- namespaces are nested in namespaces and so need the induction; types are settled already
    have hspaces : ∀ here items, ListField fields "namespaces" items →
        (Trips (items.mapM (readNamespace here)) ↔ ∃ before item after,
          items = before ++ item :: after ∧ (∀ v ∈ before, IsNamespace v) ∧ NamespaceTrips item) :=
      fun here items hitems => trips_mapM_nodes_iff (exists_readNamespace_iff _) fun v hv =>
        ih _ items hitems v hv _
    rw [trips_readNamespace_object_iff]
    constructor
    · rintro (hscalar | ⟨items, hitems, htrips | ⟨hread, hscalar | ⟨spaces, hlist, htrips⟩⟩⟩)
      · exact .types hscalar
      · obtain ⟨before, item, after, rfl, hbefore, hitem⟩ := (htypes _ items).mp htrips
        exact .insideType hitems hbefore hitem
      · exact .namespaces hitems hread hscalar
      · obtain ⟨before, item, after, rfl, hbefore, hitem⟩ := (hspaces _ _ hlist).mp htrips
        exact .insideNamespace hitems hread hlist hbefore hitem
    · rintro (hscalar | @⟨_, before, after, item, hitems, hbefore, hitem⟩ |
        @⟨_, items, hitems, hread, hscalar⟩ |
        @⟨_, items, before, after, item, hitems, hread, hlist, hbefore, hitem⟩)
      · exact .inl hscalar
      · refine .inr ⟨_, hitems, .inl ?_⟩
        exact (htypes _ _).mpr ⟨before, item, after, rfl, hbefore, hitem⟩
      · exact .inr ⟨items, hitems, .inr ⟨hread, .inl hscalar⟩⟩
      · refine .inr ⟨items, hitems, .inr ⟨hread, .inr ⟨_, hlist, ?_⟩⟩⟩
        exact (hspaces _ _ hlist).mpr ⟨before, item, after, rfl, hbefore, hitem⟩

/-- A document is read or else refused as malformed, unless its first fault is a scalar in place of
a list. -/
theorem ofValue_ok_or_malformed_iff (v : Value) :
    ((∃ root, ofValue v = .ok root) ∨ ∃ e, ofValue v = .error e ∧ e.isMalformed) ↔
      ¬NamespaceTrips v := by
  rw [← trips_readNamespace_iff v "", ← ofValue]
  cases ofValue v <;> simp [Trips]

/-- A namespace whose types are a number is neither read nor refused as malformed. -/
theorem not_ofValue_ok_or_malformed :
    ¬∀ v, (∃ root, ofValue v = .ok root) ∨ ∃ e, ofValue v = .error e ∧ e.isMalformed := by
  intro hall
  have htrips : NamespaceTrips (.object [("types", .int 5)]) := .types ⟨.int 5, rfl, rfl, rfl⟩
  obtain ⟨e, he, hother⟩ := (trips_readNamespace_iff _ "").mpr htrips
  rcases hall (.object [("types", .int 5)]) with ⟨root, hroot⟩ | ⟨e', he', hmalformed⟩
  · cases he.symm.trans hroot
  · cases he.symm.trans he'
    cases hother.symm.trans hmalformed

end Documents

end DidYouMean.Universe
