import DidYouMean.Command.Run
import DidYouMean.Proofs.Ranking.Suggestions
import DidYouMean.Proofs.Traversal
import DidYouMean.Proofs.Universe.Session

/-!
# Printed suggestions and their explanations

The suggestions that a run prints come from a pool with two sources: the names of a file, and the
types of a universe.  Each is printed with the score that it was ranked by.  The parts of a score,
which go below it if they are wanted, are computed anew from the name of the symbol.

## Main definitions

- `Settings.pool`: the candidates that a run suggests from
- `Settings.printed`: the suggestions that a run prints
- `explainedLines`: the lines for a suggestion if its score is the total of the parts below it

## Main statements

- `Settings.nameCandidates_eq_ok_iff`, `Settings.libraryCandidates_eq_ok_iff`: the candidates of each
  source
- `Settings.suggest_cases`: a run fails as the pool does, or it suggests from the pool
- `Settings.suggestAmong_cases`: what comes of suggesting from a pool
- `Settings.output_suggest`: the output of a run has lines for the suggestions printed
- `Settings.key_eq_name_of_mem_pool`: candidates of both sources are compared by their names
- `Settings.suggest_explains`: the parts that are printed make up the score above them

## Design notes

A suggestion keeps the symbol of a candidate and the score of its key.  The parts belong to that score
because the suggestion has both from the same candidate, and the candidate has the symbol's name as
its key.
-/

namespace DidYouMean.Command

/-- The lines for a suggestion if its score is the total of the parts of its name's score. -/
def explainedLines (query : String) (index : Nat) (g : Suggestion Float) : List String :=
  let parts := Score.breakdown query g.symbol.name
  [placed index g.identityKey ++ " final=" ++ shownScore g.final ++ " sim=" ++ shownScore parts.total
      ++ " [" ++ g.tier.label ++ "]",
    "    " ++ breakdownLine parts]

namespace Settings

variable {s : Settings} {files : FileTree} {candidates : List Candidate}

/-- The candidates that a run suggests from: the known names, then the library. -/
def pool (s : Settings) (files : FileTree) : Except Failure (List Candidate) :=
  (s.nameCandidates files).bind fun known =>
    (s.libraryCandidates files).2.map fun library => known ++ library

/-- The suggestions that a run prints. -/
def printed (s : Settings) (files : FileTree) : List (Suggestion Float) :=
  match s.pool files with
  | .ok candidates => (s.question.rank candidates).suggestions
  | .error _ => []

section Sources

/-- The known names are those in the names file. -/
theorem nameCandidates_of_path {path : Path} (h : s.names = some path) : s.nameCandidates files =
    ((Name.readNames files path).mapError Failure.noNames).map fun names =>
      names.map Candidate.ofName := by
  unfold nameCandidates
  rw [h]
  dsimp only
  cases Name.readNames files path <;> rfl

/-- The library is that of the universe file. -/
theorem libraryCandidates_of_path {path : Path} (h : s.universePath = some path) :
    (s.libraryCandidates files).2 =
      ((Universe.resolvedTreeAt files path).mapError Failure.noUniverse).map
        (Universe.libraryCandidates []) := by
  have hloaded : (loadUniverse files path).result =
      (Universe.resolvedTreeAt files path).map (⟨0, ·⟩) :=
    Universe.Cache.result_get_nil files 0 path
  unfold libraryCandidates
  rw [h]
  dsimp only
  rw [hloaded]
  cases Universe.resolvedTreeAt files path <;> rfl

theorem nameCandidates_eq_ok_iff {known : List Candidate} : s.nameCandidates files = .ok known ↔
    (s.names = none ∧ known = []) ∨
      ∃ path names, s.names = some path ∧ Name.readNames files path = .ok names ∧
        known = names.map Candidate.ofName := by
  cases hnames : s.names with
  | none =>
    rw [nameCandidates, hnames]
    simp [eq_comm]
  | some path =>
    rw [nameCandidates_of_path hnames, map_eq_ok_iff]
    simp only [mapError_eq_ok_iff, eq_comm (b := known)]
    simp

theorem libraryCandidates_eq_ok_iff {library : List Candidate} :
    (s.libraryCandidates files).2 = .ok library ↔
      (s.universePath = none ∧ library = []) ∨
        ∃ path root, s.universePath = some path ∧
          Universe.resolvedTreeAt files path = .ok root ∧
          library = Universe.libraryCandidates [] root := by
  cases huniverse : s.universePath with
  | none =>
    rw [libraryCandidates, huniverse]
    simp [eq_comm]
  | some path =>
    rw [libraryCandidates_of_path huniverse, map_eq_ok_iff]
    simp only [mapError_eq_ok_iff, eq_comm (b := library)]
    simp

theorem forall_mem_nameCandidates {known : List Candidate} (h : s.nameCandidates files = .ok known) :
    ∀ c ∈ known, c.key = c.symbol.name := by
  obtain ⟨-, rfl⟩ | ⟨path, names, -, -, rfl⟩ := nameCandidates_eq_ok_iff.mp h
  · exact List.forall_mem_nil _
  · exact List.forall_mem_map.mpr fun name _ => rfl

theorem forall_mem_libraryCandidates {library : List Candidate}
    (h : (s.libraryCandidates files).2 = .ok library) : ∀ c ∈ library, c.key = c.symbol.name := by
  obtain ⟨-, rfl⟩ | ⟨path, root, -, -, rfl⟩ := libraryCandidates_eq_ok_iff.mp h
  · exact List.forall_mem_nil _
  · exact List.forall_mem_map.mpr fun symbol _ => rfl

/-- From whichever source a candidate comes, it is compared by the name of its symbol. -/
theorem key_eq_name_of_mem_pool (h : s.pool files = .ok candidates) :
    ∀ c ∈ candidates, c.key = c.symbol.name := by
  obtain ⟨known, hknown, hrest⟩ := bind_eq_ok_iff.mp h
  obtain ⟨library, hlibrary, rfl⟩ := map_eq_ok_iff.mp hrest
  exact List.forall_mem_append.mpr
    ⟨forall_mem_nameCandidates hknown, forall_mem_libraryCandidates hlibrary⟩

end Sources

section Runs

/-- A run fails as the pool does, or it suggests from the pool. -/
theorem suggest_cases (s : Settings) (files : FileTree) :
    (∃ log failure, s.pool files = .error failure ∧ s.suggest files = failing log failure) ∨
      ∃ log candidates, s.pool files = .ok candidates ∧
        s.suggest files = s.suggestAmong log candidates := by
  unfold pool suggest
  cases s.nameCandidates files with
  | error failure => exact .inl ⟨[], failure, rfl, rfl⟩
  | ok known =>
    obtain ⟨log, library⟩ := s.libraryCandidates files
    cases library with
    | error failure => exact .inl ⟨log, failure, rfl, rfl⟩
    | ok library => exact .inr ⟨log, known ++ library, rfl, rfl⟩

theorem printed_of_pool (h : s.pool files = .ok candidates) :
    s.printed files = (s.question.rank candidates).suggestions := by
  rw [printed, h]

theorem printed_of_error {failure : Failure} (h : s.pool files = .error failure) :
    s.printed files = [] := by
  rw [printed, h]

/-- There is nothing to suggest from an empty pool. -/
theorem suggestions_rank_nil (q : Query) : (q.rank [] : Ranking Float).suggestions = [] := by
  apply List.eq_nil_iff_forall_not_mem.mpr
  intro g hg
  obtain ⟨c, hc, -⟩ := q.exists_admits_of_mem_suggestions [] hg
  exact List.not_mem_nil hc

/-- Suggesting among candidates is complained about if there are none.  Otherwise it is answered, if only
with the line that there is nothing to suggest. -/
theorem suggestAmong_cases (s : Settings) (log : List Log.Record) (candidates : List Candidate) :
    let suggestions := (s.question.rank candidates : Ranking Float).suggestions
    (candidates = [] ∧ suggestions = [] ∧
      s.suggestAmong log candidates = ⟨[], [noSourceComplaint], log, .status 2⟩) ∨
    (candidates ≠ [] ∧ suggestions = [] ∧
      ∃ log', s.suggestAmong log candidates = ⟨[nothingLine], [], log', .status 1⟩) ∨
    (candidates ≠ [] ∧ suggestions ≠ [] ∧
      ∃ log', s.suggestAmong log candidates =
        ⟨(suggestions.mapIdx (suggestionLines s.query s.explain)).flatten, [], log', .status 0⟩) := by
  intro suggestions
  cases candidates with
  | nil => exact .inl ⟨rfl, suggestions_rank_nil _, rfl⟩
  | cons c rest =>
    have hfilled : c :: rest ≠ [] := List.cons_ne_nil c rest
    rw [suggestAmong]
    simp only [List.isEmpty_cons, Bool.false_eq_true, if_false, answering, List.isEmpty_iff,
      List.mapIdx_eq_nil_iff]
    by_cases hnone : suggestions = []
    · exact .inr (.inl ⟨hfilled, hnone, _, if_pos hnone⟩)
    · exact .inr (.inr ⟨hfilled, hnone, _, if_neg hnone⟩)

/-- A run prints lines for its suggestions.  If it has none, it prints at most that there are none. -/
theorem output_suggest (s : Settings) (files : FileTree) :
    (s.suggest files).output =
        ((s.printed files).mapIdx (suggestionLines s.query s.explain)).flatten ∨
      s.printed files = [] ∧ (s.suggest files).output = [nothingLine] := by
  obtain ⟨log, failure, hpool, hrun⟩ | ⟨log, candidates, hpool, hrun⟩ := s.suggest_cases files
  · rw [printed_of_error hpool, hrun]
    exact .inl rfl
  · rw [printed_of_pool hpool, hrun]
    obtain ⟨-, hnone, hamong⟩ | ⟨-, hnone, log', hamong⟩ | ⟨-, -, log', hamong⟩ :=
      s.suggestAmong_cases log candidates
    · rw [hamong, hnone]
      exact .inl rfl
    · rw [hamong]
      exact .inr ⟨hnone, rfl⟩
    · rw [hamong]
      exact .inl rfl

/-- What is printed was ranked by the score of its name. -/
theorem similarity_of_mem_printed {g : Suggestion Float} (hg : g ∈ s.printed files) :
    g.similarity = Score.composite s.query g.symbol.name := by
  obtain ⟨-, failure, hpool, -⟩ | ⟨-, candidates, hpool, -⟩ := s.suggest_cases files
  · rw [printed_of_error hpool] at hg
    cases hg
  · rw [printed_of_pool hpool] at hg
    obtain ⟨c, hc, -, rfl⟩ := s.question.exists_admits_of_mem_suggestions candidates hg
    have hkey := key_eq_name_of_mem_pool hpool c hc
    show Score.composite s.query c.key = Score.composite s.query c.symbol.name
    rw [hkey]

theorem suggestionLines_of_mem_printed {g : Suggestion Float} (hg : g ∈ s.printed files)
    (index : Nat) : suggestionLines s.query true index g = explainedLines s.query index g := by
  have hscore : g.similarity = (Score.breakdown s.query g.symbol.name).total :=
    similarity_of_mem_printed hg
  rw [explainedLines, ← hscore]
  rfl

/-- If explanations are wanted, the score of each suggestion printed is the total of the parts that are
printed below it. -/
theorem suggest_explains (files : FileTree) (h : s.explain = true) :
    (∀ g ∈ s.printed files, g.similarity = (Score.breakdown s.query g.symbol.name).total) ∧
      ((s.suggest files).output =
          ((s.printed files).mapIdx (explainedLines s.query)).flatten ∨
        s.printed files = [] ∧ (s.suggest files).output = [nothingLine]) := by
  constructor
  · exact fun g hg => similarity_of_mem_printed hg
  · have hlines : (s.printed files).mapIdx (suggestionLines s.query true) =
        (s.printed files).mapIdx (explainedLines s.query) := by
      apply List.mapIdx_eq_mapIdx_iff.mpr
      intro index hindex
      exact suggestionLines_of_mem_printed (List.getElem_mem hindex) index
    rw [← hlines, ← h]
    exact s.output_suggest files

end Runs

section Samples

open Universe

/-- A names file with one name, and a universe file with one type. -/
def twoFiles : FileTree :=
  ⟨[(["names.txt"], .file (.bytes (Text.encode "Onn\n")) 0),
    (["u.json"], .file (sampleFile "One") 0), ([], .folder 0)], [], 1⟩

/-- Explained suggestions from both files. -/
def explaining : Settings :=
  { Settings.initial (some samplePath) with
    query := "Onne", names := some (.ofText "names.txt"), explain := true }

theorem pool_twoFiles : explaining.pool twoFiles =
    .ok [.ofName "Onn", libraryCandidate (.ofType "One" "One" .classType [])] := by
  have hknown : explaining.nameCandidates twoFiles = .ok [.ofName "Onn"] := by cbv
  have hkey : twoFiles.resolve samplePath = .ok sampleKey := by cbv
  have hlook : twoFiles.look? sampleKey = some (.file (sampleFile "One") 0) :=
    FileTree.look?_of_home_nil rfl rfl rfl (by decide)
  have htree : treeAt twoFiles sampleKey = .ok (sampleTree "One") := by
    rw [treeAt_of_file hlook]
    cbv
  rw [pool, hknown, Except.bind, libraryCandidates_of_path rfl, resolvedTreeAt_of_resolve hkey, htree]
  rfl

theorem printed_twoFiles : (explaining.printed twoFiles).map (·.identityKey) = ["Onn", "One"] := by
  rw [printed_of_pool pool_twoFiles]
  exact explaining.question.map_suggestions_rank _ (by decide) _ ["Onn", "One"] rfl
    (by decide +kernel) (by decide +kernel)

end Samples

/-- A name from each source is suggested. -/
theorem suggest_explains_onne : explaining.explain = true ∧
    (explaining.printed twoFiles).map (·.identityKey) = ["Onn", "One"] ∧
    (∀ g ∈ explaining.printed twoFiles,
      g.similarity = (Score.breakdown "Onne" g.symbol.name).total) ∧
    (explaining.suggest twoFiles).output =
      ((explaining.printed twoFiles).mapIdx (explainedLines "Onne")).flatten := by
  have hexplain : explaining.explain = true := rfl
  obtain ⟨hscores, hlines⟩ := suggest_explains twoFiles hexplain
  have hsome : explaining.printed twoFiles ≠ [] := by
    intro hnone
    have hkeys := printed_twoFiles
    rw [hnone] at hkeys
    cases hkeys
  exact ⟨hexplain, printed_twoFiles, hscores, hlines.resolve_right fun h => hsome h.1⟩

end Settings

end DidYouMean.Command
