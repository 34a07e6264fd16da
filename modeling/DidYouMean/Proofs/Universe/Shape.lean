import DidYouMean.Proofs.Json.Shown
import DidYouMean.Proofs.Traversal
import DidYouMean.Symbol.Construction
import DidYouMean.Universe.Reader

/-!
# The shape of universe documents

Which documents are namespace trees, and which tree such a document writes down, said without the
order in which its fields are read.

## Main definitions

- `EmptyField`, `ListField`, `TextsField`, `KindField`, `NameField`: what a field of an object says
- `IsType`, `IsNamespace`: the documents that are well-formed
- `TypeMirrors`, `NamespaceMirrors`: a tree mirrors a document node by node

## Main statements

- `readType_eq_ok_iff`, `readNamespace_eq_ok_iff`: reading gives the tree that mirrors the document
- `ofValue_accepts_and_mirrors`: the documents read are those that are well-formed

## Design notes

Reading fails at the first fault, and its result depends on the path of the node only in errors.
So each reader is first written as a row of checks, of which each may fail.
-/

namespace DidYouMean.Universe

open Json (Value)

section Fields

variable {fields : List (String × Value)} {key : String}

/-- The field is absent, or what it holds counts as missing. -/
def EmptyField (fields : List (String × Value)) (key : String) : Prop :=
  ∀ v, fields.lookup key = some v → v.isFilled = false

/-- The items of a field that holds a list; an empty field has none. -/
inductive ListField (fields : List (String × Value)) (key : String) : List Value → Prop
  | empty : EmptyField fields key → ListField fields key []
  | list {items : List Value} : fields.lookup key = some (.list items) →
      ListField fields key items

/-- The texts of what a field holds: items, characters or keys, each turned into a text.  An empty
field has none. -/
inductive TextsField (fields : List (String × Value)) (key : String) : List String → Prop
  | empty : EmptyField fields key → TextsField fields key []
  | elements {v : Value} {items : List Value} : fields.lookup key = some v →
      v.elements? = some items → TextsField fields key (items.map Value.asText)

/-- The kind of a type: that of a class if the field is absent, or else the kind of which it holds
the label in any case. -/
inductive KindField (fields : List (String × Value)) : TypeKind → Prop
  | absent : fields.lookup "kind" = none → KindField fields .classType
  | label {word : String} {kind : TypeKind} : fields.lookup "kind" = some (.text word) →
      Text.lower word = kind.label → KindField fields kind

/-- The name of a namespace: any value as a text, and no name if the field is empty. -/
inductive NameField (fields : List (String × Value)) : String → Prop
  | empty : EmptyField fields "name" → NameField fields ""
  | given {v : Value} : fields.lookup "name" = some v → v.isFilled → NameField fields v.asText

theorem filledField?_eq_none_iff : filledField? fields key = none ↔ EmptyField fields key := by
  rw [filledField?, EmptyField]
  cases fields.lookup key <;> simp [Option.filter_some]

theorem filledField?_eq_some_iff {v : Value} :
    filledField? fields key = some v ↔ fields.lookup key = some v ∧ v.isFilled := by
  simp [filledField?, Option.filter_eq_some_iff]

theorem filledField?_cases (fields : List (String × Value)) (key : String) :
    EmptyField fields key ∧ filledField? fields key = none ∨
      ∃ v, fields.lookup key = some v ∧ v.isFilled ∧ filledField? fields key = some v := by
  cases h : filledField? fields key with
  | none => exact .inl ⟨filledField?_eq_none_iff.mp h, rfl⟩
  | some v =>
    obtain ⟨hlook, hfilled⟩ := filledField?_eq_some_iff.mp h
    exact .inr ⟨v, hlook, hfilled, rfl⟩

/-- A field that holds an empty list is an empty field. -/
theorem ListField.eq_nil (h : EmptyField fields key) {items : List Value}
    (hitems : ListField fields key items) : items = [] := by
  cases hitems with
  | empty => rfl
  | list hlook => simpa [Value.isFilled] using h _ hlook

theorem nodeItems_eq_ok_iff {malformed : Value → ShapeError} {items : List Value} :
    nodeItems malformed fields key = .ok items ↔ ListField fields key items := by
  rw [nodeItems]
  rcases filledField?_cases fields key with ⟨hempty, hnone⟩ | ⟨v, hlook, hfilled, hsome⟩
  · rw [hnone]
    constructor
    · rintro ⟨⟩
      exact .empty hempty
    · intro h
      rw [h.eq_nil hempty]
  · rw [hsome]
    have hlist : ListField fields key items ↔ v = .list items := by
      constructor
      · rintro (hempty | hlook')
        · exact absurd (hempty v hlook) (by simp [hfilled])
        · exact Option.some.inj (hlook.symm.trans hlook')
      · rintro rfl
        exact .list hlook
    rw [hlist]
    cases v <;> simp

theorem TextsField.eq_nil (h : EmptyField fields key) {texts : List String}
    (htexts : TextsField fields key texts) : texts = [] := by
  cases htexts with
  | empty => rfl
  | @elements v items hlook hitems =>
    have hunfilled := h v hlook
    cases v <;> simp_all [Value.isFilled, Value.elements?]

theorem textItems_eq_ok_iff {texts : List String} :
    textItems fields key = .ok texts ↔ TextsField fields key texts := by
  rw [textItems]
  rcases filledField?_cases fields key with ⟨hempty, hnone⟩ | ⟨v, hlook, hfilled, hsome⟩
  · rw [hnone]
    constructor
    · rintro ⟨⟩
      exact .empty hempty
    · intro h
      rw [h.eq_nil hempty]
  · rw [hsome]
    have helements : TextsField fields key texts ↔
        ∃ items, v.elements? = some items ∧ items.map Value.asText = texts := by
      constructor
      · rintro (hempty | ⟨hlook', hitems⟩)
        · exact absurd (hempty v hlook) (by simp [hfilled])
        · obtain rfl := Option.some.inj (hlook.symm.trans hlook')
          exact ⟨_, hitems, rfl⟩
      · rintro ⟨items, hitems, rfl⟩
        exact .elements hlook hitems
    rw [helements]
    cases v with
    | text s => simp [Value.elements?, Function.comp_def, Value.asText]
    | object entries => simp [Value.elements?, Function.comp_def, Value.asText]
    | _ => simp [Value.elements?]

theorem readNamespaceName_eq_iff {name : String} :
    readNamespaceName fields = name ↔ NameField fields name := by
  rw [readNamespaceName]
  rcases filledField?_cases fields "name" with ⟨hempty, hnone⟩ | ⟨v, hlook, hfilled, hsome⟩
  · rw [hnone]
    constructor
    · rintro rfl
      exact .empty hempty
    · rintro (- | ⟨hlook, hfilled⟩)
      · rfl
      · exact absurd (hempty _ hlook) (by simp [hfilled])
  · rw [hsome]
    constructor
    · rintro rfl
      exact .given hlook hfilled
    · rintro (hempty | ⟨hlook', -⟩)
      · exact absurd (hempty v hlook) (by simp [hfilled])
      · obtain rfl := Option.some.inj (hlook.symm.trans hlook')
        rfl

end Fields

section Kinds

theorem ofLabel?_eq_some_iff {label : String} {kind : TypeKind} :
    TypeKind.ofLabel? label = some kind ↔ label = kind.label := by
  constructor
  · intro h
    have hlabel := List.find?_some h
    exact (beq_iff_eq.mp hlabel).symm
  · rintro rfl
    cases kind <;> decide

theorem not_hasMark_label (kind : TypeKind) : ¬Json.HasMark kind.label := by
  rintro ⟨c, hc, hmark⟩
  have hnone : kind.label.toList.any Json.isMark = false := by cases kind <;> decide
  exact List.any_eq_false.mp hnone c hc hmark

/-- A value that is no text is never written like the label of a kind. -/
theorem lower_shown_ne_label (kind : TypeKind) {v : Value} (hv : ∀ s, v ≠ .text s) :
    Text.lower v.shown ≠ kind.label := by
  intro heq
  rcases Value.hasMark_or_word_shown hv with hmark | hword
  · exact not_hasMark_label kind (heq ▸ hmark.lower)
  · have hwords : ∀ word ∈ ["None", "True", "False", "nan", "inf"], ∀ kind ∈ TypeKind.all,
        Text.lower word ≠ kind.label := by decide
    exact hwords _ hword kind (by cases kind <;> decide) heq

theorem readKind_eq_ok_iff {fields : List (String × Value)} {name : String} {kind : TypeKind} :
    readKind fields name = .ok kind ↔ KindField fields kind := by
  rw [readKind]
  cases hlook : fields.lookup "kind" with
  | none =>
    constructor
    · rintro ⟨⟩
      exact .absent hlook
    · rintro (- | ⟨hlook', -⟩)
      · rfl
      · cases hlook.symm.trans hlook'
  | some v =>
    have hfield : KindField fields kind ↔ Text.lower v.asText = kind.label := by
      constructor
      · rintro (hlook' | ⟨hlook', hlabel⟩)
        · cases hlook.symm.trans hlook'
        · obtain rfl := Option.some.inj (hlook.symm.trans hlook')
          exact hlabel
      · intro hlabel
        cases v with
        | text word => exact .label hlook hlabel
        | _ => exact absurd hlabel (lower_shown_ne_label kind (by simp))
    rw [hfield, ← ofLabel?_eq_some_iff]
    dsimp only
    cases TypeKind.ofLabel? (Text.lower v.asText) <;> simp

end Kinds

section Readers

variable {fields : List (String × Value)} {path : String}

theorem readTypes_eq_mapM (path : String) (items : List Value) :
    readTypes path items = items.mapM (readType path) := by
  induction items with
  | nil => rw [readTypes]; rfl
  | cons v rest ih =>
    rw [readTypes, mapM_cons_eq, ih]
    cases readType path v with
    | error e => rfl
    | ok node => cases rest.mapM (readType path) <;> rfl

theorem readNamespaces_eq_mapM (path : String) (items : List Value) :
    readNamespaces path items = items.mapM (readNamespace path) := by
  induction items with
  | nil => rw [readNamespaces]; rfl
  | cons v rest ih =>
    rw [readNamespaces, mapM_cons_eq, ih]
    cases readNamespace path v with
    | error e => rfl
    | ok node => cases rest.mapM (readNamespace path) <;> rfl

/-- The reading of a type that has a name, as a row of checks. -/
theorem readType_object {name : String} (hname : fields.lookup "name" = some (.text name))
    (hne : name ≠ "") :
    readType path (.object fields) =
      (readKind fields (joinName path name)).bind fun kind =>
        (textItems fields "bases").bind fun bases =>
          (nodeItems (.malformedType (joinName path name)) fields "nested").bind fun items =>
            (items.mapM (readType (joinName path name))).map fun nested =>
              ⟨name, kind, bases, nested⟩ := by
  simp only [readType, hname, hne, if_false]
  cases readKind fields (joinName path name) with
  | error e => rfl
  | ok kind =>
    cases textItems fields "bases" with
    | error e => rfl
    | ok bases =>
      simp only [Except.bind]
      split
      · next e he => simp [he]
      · next items hitems =>
        simp only [hitems, readTypes_eq_mapM]
        cases items.mapM (readType (joinName path name)) <;> rfl

/-- A type without a name is malformed, and so is all that is no object. -/
theorem readType_of_nameless {v : Value}
    (h : ∀ fields name, v = .object fields → fields.lookup "name" = some (.text name) → name = "") :
    readType path v = .error (.malformedType path v) := by
  cases v with
  | object fields =>
    rw [readType]
    split
    · next name hname => rw [if_pos (h fields name rfl hname)]
    · rfl
  | _ => rw [readType]; simp

theorem readNamespace_of_other {v : Value} (h : ∀ fields, v ≠ .object fields) :
    readNamespace path v = .error (.malformedNamespace path v) := by
  cases v with
  | object fields => exact absurd rfl (h fields)
  | _ => rw [readNamespace]; simp

/-- The reading of a namespace as a row of checks. -/
theorem readNamespace_object (path : String) (fields : List (String × Value)) :
    readNamespace path (.object fields) =
      let here := joinName path (readNamespaceName fields)
      (nodeItems (.malformedType here) fields "types").bind fun items =>
        (items.mapM (readType here)).bind fun types =>
          (nodeItems (.malformedNamespace here) fields "namespaces").bind fun items =>
            (items.mapM (readNamespace here)).map fun namespaces =>
              ⟨readNamespaceName fields, types, namespaces⟩ := by
  rw [readNamespace]
  dsimp only
  set here := joinName path (readNamespaceName fields)
  cases nodeItems (.malformedType here) fields "types" with
  | error e => rfl
  | ok items =>
    simp only [Except.bind, readTypes_eq_mapM]
    cases items.mapM (readType here) with
    | error e => rfl
    | ok types =>
      dsimp only
      split
      · next e he => simp [he]
      · next items hitems =>
        simp only [hitems, readNamespaces_eq_mapM]
        cases items.mapM (readNamespace here) <;> rfl

end Readers

section Documents

/-- A well-formed type: an object with a name, a known kind, base types that can be gone through,
and well-formed types in a list. -/
inductive IsType : Value → Prop
  | object {fields : List (String × Value)} {name : String} {items : List Value} :
      fields.lookup "name" = some (.text name) → name ≠ "" →
      (∃ kind, KindField fields kind) → (∃ bases, TextsField fields "bases" bases) →
      ListField fields "nested" items → (∀ item ∈ items, IsType item) → IsType (.object fields)

/-- A well-formed namespace: an object with well-formed types and namespaces in two lists. -/
inductive IsNamespace : Value → Prop
  | object {fields : List (String × Value)} {types namespaces : List Value} :
      ListField fields "types" types → (∀ item ∈ types, IsType item) →
      ListField fields "namespaces" namespaces → (∀ item ∈ namespaces, IsNamespace item) →
      IsNamespace (.object fields)

/-- A type node holds what a document says of a type, with the nested types in their order. -/
inductive TypeMirrors : Value → TypeNode → Prop
  | object {fields : List (String × Value)} {node : TypeNode} {items : List Value} :
      fields.lookup "name" = some (.text node.name) → node.name ≠ "" →
      KindField fields node.kind → TextsField fields "bases" node.bases →
      ListField fields "nested" items → List.Forall₂ TypeMirrors items node.nested →
      TypeMirrors (.object fields) node

/-- A namespace node holds what a document says of a namespace, with the types and namespaces in
their order. -/
inductive NamespaceMirrors : Value → NamespaceNode → Prop
  | object {fields : List (String × Value)} {node : NamespaceNode} {types namespaces : List Value} :
      NameField fields node.name →
      ListField fields "types" types → List.Forall₂ TypeMirrors types node.types →
      ListField fields "namespaces" namespaces →
      List.Forall₂ NamespaceMirrors namespaces node.namespaces →
      NamespaceMirrors (.object fields) node

/-- Items of a list in a field are smaller than the object. -/
theorem ListField.sizeOf_lt {fields : List (String × Value)} {key : String} {items : List Value}
    (h : ListField fields key items) {item : Value} (hitem : item ∈ items) :
    sizeOf item < sizeOf (Value.object fields) := by
  cases h with
  | empty => simp at hitem
  | list hlook =>
    have hlist := sizeOf_lookup_lt hlook
    have hmem := List.sizeOf_lt_of_mem hitem
    simp only [Value.list.sizeOf_spec, Value.object.sizeOf_spec] at hlist ⊢
    omega

/-- A document has a property if an object has it whenever the items of its lists do, and all else
has it too. -/
theorem document_induction {p : Value → Prop} (other : ∀ v, (∀ fields, v ≠ .object fields) → p v)
    (object : ∀ fields, (∀ key items, ListField fields key items → ∀ item ∈ items, p item) →
      p (.object fields)) (v : Value) : p v := by
  induction hsize : sizeOf v using Nat.strongRecOn generalizing v with
  | ind size ih =>
    subst hsize
    cases v with
    | object fields =>
      refine object fields fun key items hitems item hitem => ?_
      exact ih _ (hitems.sizeOf_lt hitem) item rfl
    | _ => exact other _ (by simp)

theorem readType_eq_ok_iff (v : Value) : ∀ (path : String) (node : TypeNode),
    readType path v = .ok node ↔ TypeMirrors v node := by
  -- the path stays general: nested types are read below the path of their type
  induction v using document_induction with
  | other v hv =>
    intro path node
    rw [readType_of_nameless fun fields _ hfields => absurd hfields (hv fields)]
    constructor
    · rintro ⟨⟩
    · rintro ⟨⟩
      exact absurd rfl (hv _)
  | object fields ih =>
    intro path node
    -- without a name no other field is looked at
    by_cases hnamed : ∃ name, fields.lookup "name" = some (.text name) ∧ name ≠ ""
    · obtain ⟨name, hname, hne⟩ := hnamed
      simp only [readType_object hname hne, bind_eq_ok_iff, map_eq_ok_iff, readKind_eq_ok_iff,
        textItems_eq_ok_iff, nodeItems_eq_ok_iff, mapM_eq_ok_iff]
      constructor
      · rintro ⟨kind, hkind, bases, hbases, items, hitems, nested, hnested, rfl⟩
        refine .object hname hne hkind hbases hitems ?_
        exact (forall₂_congr_of_mem fun item hitem => ih _ _ hitems item hitem _).mp hnested
      · rintro (@⟨_, ⟨name', kind, bases, nested⟩, items, hname', -, hkind, hbases, hitems,
          hnested⟩)
        obtain rfl : name = name' := by simpa [hname] using hname'
        refine ⟨kind, hkind, bases, hbases, items, hitems, nested, ?_, rfl⟩
        exact (forall₂_congr_of_mem fun item hitem => ih _ _ hitems item hitem _).mpr hnested
    · rw [readType_of_nameless]
      · constructor
        · rintro ⟨⟩
        · rintro ⟨hname, hne⟩
          exact absurd ⟨_, hname, hne⟩ hnamed
      · rintro fields' name ⟨⟩ hname
        by_contra hne
        exact hnamed ⟨name, hname, hne⟩

theorem readNamespace_eq_ok_iff (v : Value) : ∀ (path : String) (node : NamespaceNode),
    readNamespace path v = .ok node ↔ NamespaceMirrors v node := by
  induction v using document_induction with
  | other v hv =>
    intro path node
    rw [readNamespace_of_other hv]
    constructor
    · rintro ⟨⟩
    · rintro ⟨⟩
      exact absurd rfl (hv _)
  | object fields ih =>
    intro path node
    simp only [readNamespace_object, bind_eq_ok_iff, map_eq_ok_iff, nodeItems_eq_ok_iff,
      mapM_eq_ok_iff, readType_eq_ok_iff]
    constructor
    · rintro ⟨items, hitems, types, htypes, spaces, hspaces, namespaces, hnamespaces, rfl⟩
      refine .object (readNamespaceName_eq_iff.mp rfl) hitems htypes hspaces ?_
      exact (forall₂_congr_of_mem fun item hitem => ih _ _ hspaces item hitem _).mp hnamespaces
    · rintro (@⟨_, ⟨name, types, namespaces⟩, items, spaces, hname, hitems, htypes, hspaces,
        hnamespaces⟩)
      obtain rfl := readNamespaceName_eq_iff.mpr hname
      refine ⟨items, hitems, types, htypes, spaces, hspaces, namespaces, ?_, rfl⟩
      exact (forall₂_congr_of_mem fun item hitem => ih _ _ hspaces item hitem _).mpr hnamespaces

/-- The well-formed types are those that a node mirrors. -/
theorem exists_typeMirrors_iff (v : Value) : (∃ node, TypeMirrors v node) ↔ IsType v := by
  induction v using document_induction with
  | other v hv =>
    constructor
    · rintro ⟨_, ⟨⟩⟩
      exact absurd rfl (hv _)
    · rintro ⟨⟩
      exact absurd rfl (hv _)
  | object fields ih =>
    constructor
    · rintro ⟨_, @⟨_, node, items, hname, hne, hkind, hbases, hitems, hnested⟩⟩
      refine .object hname hne ⟨_, hkind⟩ ⟨_, hbases⟩ hitems fun item hitem => ?_
      exact (ih _ _ hitems item hitem).mp (exists_forall₂_iff.mp ⟨_, hnested⟩ item hitem)
    · rintro (@⟨_, name, items, hname, hne, ⟨kind, hkind⟩, ⟨bases, hbases⟩, hitems, hnested⟩)
      obtain ⟨nested, hnested⟩ := exists_forall₂_iff.mpr fun item hitem =>
        (ih _ _ hitems item hitem).mpr (hnested item hitem)
      exact ⟨⟨name, kind, bases, nested⟩, .object hname hne hkind hbases hitems hnested⟩

/-- The well-formed namespaces are those that a node mirrors. -/
theorem exists_namespaceMirrors_iff (v : Value) :
    (∃ node, NamespaceMirrors v node) ↔ IsNamespace v := by
  induction v using document_induction with
  | other v hv =>
    constructor
    · rintro ⟨_, ⟨⟩⟩
      exact absurd rfl (hv _)
    · rintro ⟨⟩
      exact absurd rfl (hv _)
  | object fields ih =>
    constructor
    · rintro ⟨_, @⟨_, node, items, spaces, -, hitems, htypes, hspaces, hnamespaces⟩⟩
      refine .object hitems (fun item hitem => ?_) hspaces fun item hitem => ?_
      · exact (exists_typeMirrors_iff item).mp (exists_forall₂_iff.mp ⟨_, htypes⟩ item hitem)
      · exact (ih _ _ hspaces item hitem).mp (exists_forall₂_iff.mp ⟨_, hnamespaces⟩ item hitem)
    · rintro (@⟨_, items, spaces, hitems, htypes, hspaces, hnamespaces⟩)
      obtain ⟨types, htypes⟩ := exists_forall₂_iff.mpr fun item hitem =>
        (exists_typeMirrors_iff item).mpr (htypes item hitem)
      obtain ⟨namespaces, hnamespaces⟩ := exists_forall₂_iff.mpr fun item hitem =>
        (ih _ _ hspaces item hitem).mpr (hnamespaces item hitem)
      exact ⟨⟨readNamespaceName fields, types, namespaces⟩,
        .object (readNamespaceName_eq_iff.mp rfl) hitems htypes hspaces hnamespaces⟩

/-- The documents that are read are the well-formed namespaces, and the tree that is read mirrors
the document node by node. -/
theorem ofValue_accepts_and_mirrors (v : Value) :
    ((∃ root, ofValue v = .ok root) ↔ IsNamespace v) ∧
      ∀ root, ofValue v = .ok root → NamespaceMirrors v root := by
  constructor
  · rw [← exists_namespaceMirrors_iff]
    exact exists_congr fun root => readNamespace_eq_ok_iff v "" root
  · intro root hroot
    exact (readNamespace_eq_ok_iff v "" root).mp hroot

end Documents

end DidYouMean.Universe
