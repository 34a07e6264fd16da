import DidYouMean.Proofs.Ranking.Additions
import DidYouMean.Proofs.Service.Suggest

/-!
# The caller's own types beside the library

The library is added at the end of a pool, and without the types that the caller brings.  So the
suggestions for these types are those that the caller would get without the library.  Others may be
pushed off the list, or be replaced where a library type goes by their identity.

## Main definitions

- `SuggestRequest.ownsType`: a request brings a type of this qualified name

## Main statements

- `SuggestRequest.pool_eq_ok_iff`: the candidates of a request and those of the library
- `not_ownsType_of_mem_library`: the library has none of the types that a request brings
- `suggest_keeps_own_types`: suggestions with and without the library
-/

namespace DidYouMean.Service

/-- A request brings a type whose qualified name is the key. -/
def SuggestRequest.ownsType (r : SuggestRequest) (key : String) : Bool :=
  key ≠ "" && r.candidates.any fun c =>
    folded c.symbol.kind = SymbolKind.type.label && c.symbol.qualifiedName = key

section Pools

variable {r : SuggestRequest} {universeRoot : Option Universe.NamespaceNode}
  {candidates library pool : List Candidate}

theorem SuggestRequest.pool_eq_ok_iff : r.pool universeRoot = .ok pool ↔
    ∃ candidates library, r.candidates.mapM CandidateRequest.toCandidate = .ok candidates ∧
      libraryFor r universeRoot candidates = .ok library ∧ pool = candidates ++ library := by
  have hpool : r.pool universeRoot =
      (r.candidates.mapM CandidateRequest.toCandidate).bind fun candidates =>
        (libraryFor r universeRoot candidates).bind fun library => .ok (candidates ++ library) := rfl
  simp only [hpool, bind_eq_ok_iff, Except.ok.injEq]
  constructor
  · rintro ⟨candidates, hall, library, hlibrary, heq⟩
    exact ⟨candidates, library, hall, hlibrary, heq.symm⟩
  · rintro ⟨candidates, library, hall, hlibrary, heq⟩
    exact ⟨candidates, hall, library, hlibrary, heq.symm⟩

theorem type_of_label_eq {kind : SymbolKind} (h : kind.label = SymbolKind.type.label) :
    kind = .type := by
  cases kind <;> first | rfl | exact absurd h (by decide)

/-- The qualified names that are kept out of the library are those of the types that a request
brings. -/
theorem mem_callerTypes_of_ownsType (hall : r.candidates.mapM CandidateRequest.toCandidate =
    .ok candidates) {key : String} (hown : r.ownsType key) : key ∈ callerTypes candidates := by
  simp only [SuggestRequest.ownsType, ne_eq, decide_not, Bool.and_eq_true, Bool.not_eq_true',
    decide_eq_false_iff_not, List.any_eq_true, decide_eq_true_eq] at hown
  obtain ⟨hkey, c, hc, hkind, rfl⟩ := hown
  obtain ⟨candidate, hmem, hcandidate⟩ := exists_mem_of_mapM_eq_ok hall hc
  rcases c.symbol.toSymbol_cases with ⟨-, violation, hsymbol⟩ | ⟨-, symbol, hsymbol, hlabel, hname⟩
  · cases hcandidate.symm.trans (CandidateRequest.toCandidate_of_error hsymbol)
  · obtain rfl := Except.ok.inj (hcandidate.symm.trans (CandidateRequest.toCandidate_of_ok hsymbol))
    refine List.mem_map.mpr ⟨_, List.mem_filter.mpr ⟨hmem, ?_⟩, hname⟩
    have htype : symbol.kind = .type := type_of_label_eq (hlabel.trans hkind)
    simp [htype, hname, hkey]

/-- The library has none of the types that a request brings. -/
theorem not_ownsType_of_mem_library (hall : r.candidates.mapM CandidateRequest.toCandidate =
    .ok candidates) (hlibrary : libraryFor r universeRoot candidates = .ok library) {c : Candidate}
    (hc : c ∈ library) : ¬r.ownsType c.symbol.identityKey := by
  intro hown
  unfold libraryFor at hlibrary
  split at hlibrary
  · rw [Universe.buildLibrary_eq] at hlibrary
    obtain rfl := Except.ok.inj hlibrary
    rcases Universe.identityKey_of_mem_libraryCandidates hc with hempty | hother
    · rw [hempty] at hown
      exact absurd hown (by simp [SuggestRequest.ownsType])
    · exact hother (mem_callerTypes_of_ownsType hall hown)
  · obtain rfl := Except.ok.inj hlibrary
    cases hc

end Pools

/-- What is suggested for the types that a request brings is suggested without the library, too: with
the same scores, and in the same order. -/
theorem suggest_keeps_own_types (universeRoot : Option Universe.NamespaceNode) (r : SuggestRequest)
    (found : List (Suggestion Float))
    (h : (suggest universeRoot { r with includeLibrary := true }).1 = .suggestions found) :
    ∃ found', (suggest universeRoot { r with includeLibrary := false }).1 = .suggestions found' ∧
      (found.filter fun s => r.ownsType s.identityKey).Sublist found' ∧
      found'.Pairwise fun s t => s.identityKey ≠ t.identityKey := by
  obtain ⟨hquery, pool, hpool, rfl⟩ := suggest_eq_suggestions_iff.mp h
  obtain ⟨candidates, library, hall, hlibrary, rfl⟩ := SuggestRequest.pool_eq_ok_iff.mp hpool
  have halone : SuggestRequest.pool { r with includeLibrary := false } universeRoot =
      .ok candidates :=
    SuggestRequest.pool_eq_ok_iff.mpr ⟨candidates, [], hall, rfl, (List.append_nil _).symm⟩
  have hothers : ∀ c ∈ library, ¬r.ownsType (r.question.identity c.symbol) := fun c hc =>
    not_ownsType_of_mem_library hall hlibrary hc
  exact ⟨_, suggest_eq_suggestions_iff.mpr ⟨hquery, candidates, halone, rfl⟩,
    r.question.sublist_suggestions_append rfl candidates hothers,
    r.question.pairwise_identityKey_suggestions candidates rfl⟩

/-- A library with a type in a namespace. -/
def lengthLibrary : Universe.NamespaceNode :=
  ⟨"", [], [⟨"Lib", [⟨"Length", .classType, [], []⟩], []⟩]⟩

/-- A request that brings a type of the same name in another namespace. -/
def lengthRequest : SuggestRequest :=
  ⟨"lenght", [⟨"Length", .currentProject, ⟨"type", "Length", "App.Length", none, []⟩⟩], .unknown,
    true⟩

/-- Both types as candidates. -/
def lengthPool : List Candidate :=
  [⟨"Length", .ofType "Length" "App.Length" .classType [], .currentProject⟩,
    ⟨"Length", .ofType "Length" "Lib.Length" .classType [], .externalLibrary⟩]

theorem pool_lengthRequest : lengthRequest.pool (some lengthLibrary) = .ok lengthPool := by
  rfl

theorem identityKeys_lengthPool :
    (lengthRequest.question.rank lengthPool : Ranking Float).suggestions.map (·.identityKey) =
      ["App.Length", "Lib.Length"] :=
  lengthRequest.question.map_suggestions_rank lengthPool (by decide +kernel) (·.identityKey)
    ["App.Length", "Lib.Length"] rfl (by decide +kernel) (by decide +kernel)

/-- The type of the library comes second, and the own type is suggested with and without it. -/
theorem suggest_keeps_own_types_length :
    ∃ found, (suggest (some lengthLibrary) { lengthRequest with includeLibrary := true }).1 =
        .suggestions found ∧ found.map (·.identityKey) = ["App.Length", "Lib.Length"] ∧
      ∃ found', (suggest (some lengthLibrary) { lengthRequest with includeLibrary := false }).1 =
        .suggestions found' ∧ ∃ s ∈ found, s.identityKey = "App.Length" ∧ s ∈ found' := by
  have hquery : Text.trim lengthRequest.query ≠ "" := by decide +kernel
  have hfound := suggest_eq_suggestions_iff.mpr ⟨hquery, lengthPool, pool_lengthRequest, rfl⟩
  refine ⟨_, hfound, identityKeys_lengthPool, ?_⟩
  obtain ⟨found', hfound', hsublist, -⟩ :=
    suggest_keeps_own_types (some lengthLibrary) lengthRequest _ hfound
  have hown : lengthRequest.ownsType "App.Length" := by decide +kernel
  have hfirst : "App.Length" ∈ (lengthRequest.question.rank lengthPool :
      Ranking Float).suggestions.map (·.identityKey) := by
    rw [identityKeys_lengthPool]
    exact List.mem_cons_self
  obtain ⟨s, hs, hkey⟩ := List.mem_map.mp hfirst
  rw [← hkey] at hown
  exact ⟨found', hfound', s, hs, hkey, hsublist.subset (List.mem_filter.mpr ⟨hs, hown⟩)⟩

end DidYouMean.Service
