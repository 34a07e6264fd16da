import DidYouMean.Proofs.Command.Explanations
import DidYouMean.Proofs.Universe.Library

/-!
# The exit status of a run

A run that suggests names ends with one of three statuses.  They stand for a run that was not told what
to suggest from, for one that suggested something, and for one that had nothing to suggest.  A run looks
at its candidates to know what it was told, though, and files that load may have none: a names file
without names, a universe without types.

## Main definitions

- `Settings.Loads`: the files that a run is to read load
- `Settings.HasSource`, `Settings.Offers`: a run is told what to suggest from, and there is something
- `Settings.StatusTells`: the status of a run tells what happened

## Main statements

- `Settings.loads_iff`: there is a pool if and only if the files load
- `Settings.offers_iff`: the pool is not empty if and only if the files offer something
- `Settings.suggest_outcome`: the three ways in which a run ends, and what it prints
- `Settings.statusTells_iff`: the status tells what happened unless files are given that offer nothing
- `Settings.not_statusTells`: a names file with nothing but a comment
-/

namespace DidYouMean.Command

namespace Settings

variable {s : Settings} {files : FileTree} {candidates : List Candidate}

/-- The files that a run is to read load. -/
structure Loads (s : Settings) (files : FileTree) : Prop where
  names : ∀ path, s.names = some path → ∃ names, Name.readNames files path = .ok names
  library : ∀ path, s.universePath = some path →
    ∃ root, Universe.resolvedTreeAt files path = .ok root

/-- A run is told what to suggest from. -/
def HasSource (s : Settings) : Prop :=
  s.names ≠ none ∨ s.universePath ≠ none

/-- The names file has a name in it. -/
def OffersName (s : Settings) (files : FileTree) : Prop :=
  ∃ path names, s.names = some path ∧ Name.readNames files path = .ok names ∧ names ≠ []

/-- The universe has a type in it. -/
def OffersType (s : Settings) (files : FileTree) : Prop :=
  ∃ path root, s.universePath = some path ∧
    Universe.resolvedTreeAt files path = .ok root ∧ root.HoldsType

/-- There is something to suggest from. -/
def Offers (s : Settings) (files : FileTree) : Prop :=
  s.OffersName files ∨ s.OffersType files

/-- The status of a run tells what happened: two if it was not told what to suggest from, zero if it
printed suggestions, and one in every other case. -/
structure StatusTells (s : Settings) (files : FileTree) : Prop where
  two : (s.suggest files).ending = .status 2 ↔ ¬s.HasSource
  zero : (s.suggest files).ending = .status 0 ↔ s.printed files ≠ []
  one : (s.suggest files).ending = .status 1 ↔ s.HasSource ∧ s.printed files = []

section Pool

theorem exists_nameCandidates_iff : (∃ known, s.nameCandidates files = .ok known) ↔
    ∀ path, s.names = some path → ∃ names, Name.readNames files path = .ok names := by
  simp only [nameCandidates_eq_ok_iff]
  cases s.names <;> simp

theorem exists_libraryCandidates_iff : (∃ library, (s.libraryCandidates files).2 = .ok library) ↔
    ∀ path, s.universePath = some path →
      ∃ root, Universe.resolvedTreeAt files path = .ok root := by
  simp only [libraryCandidates_eq_ok_iff]
  cases s.universePath <;> simp

/-- There is a pool if and only if the files load. -/
theorem loads_iff : s.Loads files ↔ ∃ candidates, s.pool files = .ok candidates := by
  constructor
  · rintro ⟨hnames, hlibrary⟩
    obtain ⟨known, hknown⟩ := exists_nameCandidates_iff.mpr hnames
    obtain ⟨library, hrest⟩ := exists_libraryCandidates_iff.mpr hlibrary
    exact ⟨known ++ library,
      bind_eq_ok_iff.mpr ⟨known, hknown, map_eq_ok_iff.mpr ⟨library, hrest, rfl⟩⟩⟩
  · rintro ⟨candidates, hpool⟩
    obtain ⟨known, hknown, hrest⟩ := bind_eq_ok_iff.mp hpool
    obtain ⟨library, hlibrary, -⟩ := map_eq_ok_iff.mp hrest
    exact ⟨exists_nameCandidates_iff.mp ⟨known, hknown⟩,
      exists_libraryCandidates_iff.mp ⟨library, hlibrary⟩⟩

theorem offersName_iff {known : List Candidate} (h : s.nameCandidates files = .ok known) :
    s.OffersName files ↔ known ≠ [] := by
  obtain ⟨hnone, rfl⟩ | ⟨path, names, hpath, hread, rfl⟩ := nameCandidates_eq_ok_iff.mp h
  · simp [OffersName, hnone]
  · simp [OffersName, hpath, hread]

theorem offersType_iff {library : List Candidate}
    (h : (s.libraryCandidates files).2 = .ok library) : s.OffersType files ↔ library ≠ [] := by
  obtain ⟨hnone, rfl⟩ | ⟨path, root, hpath, hload, rfl⟩ := libraryCandidates_eq_ok_iff.mp h
  · simp [OffersType, hnone]
  · simp [OffersType, hpath, hload, Universe.libraryCandidates_eq_nil_iff]

/-- The files offer something if and only if the pool is not empty. -/
theorem offers_iff (h : s.pool files = .ok candidates) : s.Offers files ↔ candidates ≠ [] := by
  obtain ⟨known, hknown, hrest⟩ := bind_eq_ok_iff.mp h
  obtain ⟨library, hlibrary, rfl⟩ := map_eq_ok_iff.mp hrest
  rw [Offers, offersName_iff hknown, offersType_iff hlibrary, ne_eq (known ++ library),
    List.append_eq_nil_iff, not_and_or]

theorem Offers.hasSource (h : s.Offers files) : s.HasSource := by
  obtain ⟨path, names, hpath, -⟩ | ⟨path, root, hpath, -⟩ := h
  · exact .inl (by simp [hpath])
  · exact .inr (by simp [hpath])

end Pool

section Outcomes

/-- The three ways in which a run ends whose files load. -/
theorem suggest_outcome (h : s.Loads files) :
    (¬s.Offers files ∧ s.printed files = [] ∧
      ∃ log, s.suggest files = ⟨[], [noSourceComplaint], log, .status 2⟩) ∨
    (s.Offers files ∧ s.printed files = [] ∧
      ∃ log, s.suggest files = ⟨[nothingLine], [], log, .status 1⟩) ∨
    (s.Offers files ∧ s.printed files ≠ [] ∧
      ∃ log, s.suggest files =
        ⟨((s.printed files).mapIdx (suggestionLines s.query s.explain)).flatten, [], log,
          .status 0⟩) := by
  obtain ⟨candidates, hpool⟩ := loads_iff.mp h
  obtain ⟨log, failure, hfail, -⟩ | ⟨log, candidates', hpool', hrun⟩ := s.suggest_cases files
  · cases hpool.symm.trans hfail
  · obtain rfl : candidates' = candidates := Except.ok.inj (hpool'.symm.trans hpool)
    have hoffers := offers_iff hpool
    rw [printed_of_pool hpool, hrun]
    obtain ⟨hempty, hnone, hamong⟩ | ⟨hfilled, hnone, hamong⟩ | ⟨hfilled, hsome, hamong⟩ :=
      s.suggestAmong_cases log candidates'
    · exact .inl ⟨fun hoffer => hoffers.mp hoffer hempty, hnone, log, hamong⟩
    · exact .inr (.inl ⟨hoffers.mpr hfilled, hnone, hamong⟩)
    · exact .inr (.inr ⟨hoffers.mpr hfilled, hsome, hamong⟩)

theorem ending_eq_two_iff (h : s.Loads files) :
    (s.suggest files).ending = .status 2 ↔ ¬s.Offers files := by
  obtain ⟨hnone, -, log, hrun⟩ | ⟨hoffers, -, log, hrun⟩ | ⟨hoffers, -, log, hrun⟩ :=
    suggest_outcome h
  · simp [hrun, hnone]
  · simp [hrun, hoffers]
  · simp [hrun, hoffers]

theorem ending_eq_zero_iff (h : s.Loads files) :
    (s.suggest files).ending = .status 0 ↔ s.printed files ≠ [] := by
  obtain ⟨-, hnone, log, hrun⟩ | ⟨-, hnone, log, hrun⟩ | ⟨-, hsome, log, hrun⟩ := suggest_outcome h
  · simp [hrun, hnone]
  · simp [hrun, hnone]
  · simp [hrun, hsome]

theorem ending_eq_one_iff (h : s.Loads files) :
    (s.suggest files).ending = .status 1 ↔ s.Offers files ∧ s.printed files = [] := by
  obtain ⟨hnone, -, log, hrun⟩ | ⟨hoffers, hnone, log, hrun⟩ | ⟨-, hsome, log, hrun⟩ :=
    suggest_outcome h
  · simp [hrun, hnone]
  · simp [hrun, hoffers, hnone]
  · simp [hrun, hsome]

/-- The status is two if the files offer nothing, whether or not there are files.  So it tells what
happened unless files are given that offer nothing.  Of the two other statuses, zero stands for a run
that printed lines for its suggestions, and one for a run that printed that it has none. -/
theorem statusTells_iff (h : s.Loads files) :
    (s.StatusTells files ↔ (s.HasSource → s.Offers files)) ∧
    ((s.suggest files).ending = .status 2 ↔ ¬s.Offers files) ∧
    ((s.suggest files).ending = .status 0 ↔ s.printed files ≠ []) ∧
    ((s.suggest files).ending = .status 1 ↔ s.Offers files ∧ s.printed files = []) ∧
    (s.printed files ≠ [] → (s.suggest files).output =
      ((s.printed files).mapIdx (suggestionLines s.query s.explain)).flatten) := by
  have htwo := ending_eq_two_iff h
  have hzero := ending_eq_zero_iff h
  have hone := ending_eq_one_iff h
  refine ⟨⟨?_, ?_⟩, htwo, hzero, hone, ?_⟩
  · intro htells hsource
    by_contra hnone
    exact htells.two.mp (htwo.mpr hnone) hsource
  · intro hoffers
    have hsame : s.Offers files ↔ s.HasSource := ⟨Offers.hasSource, hoffers⟩
    rw [hsame] at htwo hone
    exact ⟨htwo, hzero, hone⟩
  · intro hsome
    exact (s.output_suggest files).resolve_right fun hnone => hsome hnone.1

end Outcomes

section Samples

/-- The files of `twoFiles` offer a name and a type, and both are suggested. -/
theorem statusTells_iff_onne : explaining.Loads twoFiles ∧ explaining.StatusTells twoFiles ∧
    (explaining.suggest twoFiles).ending = .status 0 := by
  have hloads : explaining.Loads twoFiles := loads_iff.mpr ⟨_, pool_twoFiles⟩
  have hoffers : explaining.Offers twoFiles := (offers_iff pool_twoFiles).mpr (List.cons_ne_nil _ _)
  have hsome : explaining.printed twoFiles ≠ [] := fun hnone => by
    simpa [hnone] using printed_twoFiles
  obtain ⟨htells, -, hzero, -⟩ := statusTells_iff hloads
  exact ⟨hloads, htells.mpr fun _ => hoffers, hzero.mpr hsome⟩

/-- A names file with nothing but a comment. -/
def commentFiles : FileTree :=
  ⟨[(["names.txt"], .file (.bytes (Text.encode "# no names yet\n")) 0), ([], .folder 0)], [], 1⟩

/-- Suggestions from a names file. -/
def fromNames : Settings :=
  { Settings.initial none with query := "Lenght", names := some (.ofText "names.txt") }

theorem pool_commentFiles : fromNames.pool commentFiles = .ok [] := by
  cbv

/-- A run whose names file has no names in it ends like a run that was not given one. -/
theorem not_statusTells :
    ¬∀ (s : Settings) (files : FileTree), s.Loads files → s.StatusTells files := by
  intro hall
  have hloads : fromNames.Loads commentFiles := loads_iff.mpr ⟨_, pool_commentFiles⟩
  have hnone : ¬fromNames.Offers commentFiles := fun hoffers =>
    (offers_iff pool_commentFiles).mp hoffers rfl
  have hsource : fromNames.HasSource := .inl (Option.some_ne_none _)
  exact (hall _ _ hloads).two.mp ((ending_eq_two_iff hloads).mpr hnone) hsource

end Samples

end Settings

end DidYouMean.Command
