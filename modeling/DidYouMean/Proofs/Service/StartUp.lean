import DidYouMean.Proofs.Universe.ScalarField
import DidYouMean.Proofs.Universe.Session
import DidYouMean.Service.Basic

/-!
# Starting the service

A start-up loads the universe that is configured.  It goes on without one if there is nothing to
load, but a document with a scalar in place of a list ends it.

## Main definitions

- `documentAt?`: the document in the file that a path leads to
- `Service.IsUpToDate`: the universe kept for a path, if one is, is what its file holds

## Main statements

- `treeAt_unexpected_iff`: when loading ends with an error that a start-up does not expect
- `Service.start_outcome`: what comes of a start-up, whatever the file is
- `Service.not_start_completes`: a start-up need not complete
-/

namespace DidYouMean

namespace Universe

/-- The document that some bytes are the text of. -/
def documentOf? (bytes : List UInt8) : Option Json.Value :=
  match Text.decode bytes with
  | .error _ => none
  | .ok cs => (Json.read (String.ofList (Text.unifyLineEnds cs))).toOption

/-- The document in the file that a path leads to. -/
def documentAt? (files : FileTree) (path : Path) : Option Json.Value :=
  match files.look? path with
  | some (.file content _) => documentOf? content.toBytes
  | _ => none

theorem treeOfBytes_of_document {bytes : List UInt8} {document : Json.Value}
    (h : documentOf? bytes = some document) :
    treeOfBytes bytes = (ofValue document).mapError .misshapen := by
  rw [documentOf?] at h
  rw [treeOfBytes]
  cases hdecode : Text.decode bytes with
  | error e => simp [hdecode] at h
  | ok cs =>
    dsimp only
    cases hread : Json.read (String.ofList (Text.unifyLineEnds cs)) with
    | error e => simp [hdecode, hread, Except.toOption] at h
    | ok v =>
      obtain rfl : v = document := by simpa [hdecode, hread, Except.toOption] using h
      rfl

theorem treeOfBytes_of_no_document {bytes : List UInt8} (h : documentOf? bytes = none) :
    ∃ e, treeOfBytes bytes = .error e ∧ e.isExpected := by
  rw [documentOf?] at h
  rw [treeOfBytes]
  cases hdecode : Text.decode bytes with
  | error e => exact ⟨.undecodable e, rfl, rfl⟩
  | ok cs =>
    dsimp only
    cases hread : Json.read (String.ofList (Text.unifyLineEnds cs)) with
    | error e => exact ⟨.noJson e, rfl, rfl⟩
    | ok v => simp [hdecode, hread, Except.toOption] at h

/-- What is there and no file fails to load in a way that is expected. -/
theorem treeAt_of_not_file {files : FileTree} {path : Path} {entry : Entry}
    (hlook : files.look? path = some entry) (hfile : ∀ content stamp, entry ≠ .file content stamp) :
    ∃ e, treeAt files path = .error e ∧ e.isExpected := by
  cases hread : files.read path with
  | error e => exact ⟨.unreadable e, by simp [treeAt, hlook, hread], rfl⟩
  | ok content =>
    obtain ⟨stamp, hlook'⟩ := FileTree.read_eq_ok_iff.mp hread
    exact absurd (Option.some.inj (hlook.symm.trans hlook')) (hfile content stamp)

/-- Without a document, loading fails in a way that is expected. -/
theorem treeAt_of_no_document {files : FileTree} {path : Path}
    (h : documentAt? files path = none) : ∃ e, treeAt files path = .error e ∧ e.isExpected := by
  rw [documentAt?] at h
  cases hlook : files.look? path with
  | none => exact ⟨_, treeAt_of_missing hlook, rfl⟩
  | some entry =>
    cases entry with
    | file content stamp =>
      rw [hlook] at h
      rw [treeAt_of_file hlook]
      exact treeOfBytes_of_no_document h
    | folder stamp => exact treeAt_of_not_file hlook fun content stamp => by simp
    | link target => exact treeAt_of_not_file hlook fun content stamp => by simp

theorem treeAt_of_document {files : FileTree} {path : Path} {document : Json.Value}
    (h : documentAt? files path = some document) :
    treeAt files path = (ofValue document).mapError .misshapen := by
  rw [documentAt?] at h
  cases hlook : files.look? path with
  | none => simp [hlook] at h
  | some entry =>
    cases entry with
    | file content stamp =>
      rw [hlook] at h
      rw [treeAt_of_file hlook]
      exact treeOfBytes_of_document h
    | _ => simp [hlook] at h

/-- Loading fails in a way that is not expected if and only if the file holds a document whose first
fault is a scalar in place of a list. -/
theorem treeAt_unexpected_iff (files : FileTree) (path : Path) :
    (∃ e, treeAt files path = .error e ∧ e.isExpected = false) ↔
      ∃ document, documentAt? files path = some document ∧ NamespaceTrips document := by
  cases hdocument : documentAt? files path with
  | none =>
    obtain ⟨e, he, hexpected⟩ := treeAt_of_no_document hdocument
    simp [he, hexpected]
  | some document =>
    rw [treeAt_of_document hdocument]
    simp only [Option.some.injEq, exists_eq_left']
    rw [← trips_readNamespace_iff document "", ← ofValue]
    cases ofValue document <;> simp [Trips, Except.mapError, LoadError.isExpected]

end Universe

namespace Service

open Universe

/-- What is kept for the resolved path, with the time of its file, is what the file holds. -/
def IsUpToDate (s : Service) (path : Path) : Prop :=
  ∀ key u, s.files.resolve path = .ok key → s.cache.hit? s.files key = some u →
    treeAt s.files key = .ok u.root

/-- A cache that does not answer with an outdated universe gives what the file holds. -/
theorem root_result_get {s : Service} {path : Path} (hcache : s.IsUpToDate path) :
    (s.cache.get s.files s.loaded path).2.result.map (·.root) = resolvedTreeAt s.files path := by
  cases hkey : s.files.resolve path with
  | error loop =>
    rw [Cache.get_of_linkLoop hkey, resolvedTreeAt_of_linkLoop hkey]
    rfl
  | ok key =>
    rw [Cache.result_get_of_resolve hkey, resolvedTreeAt_of_resolve hkey]
    cases hhit : s.cache.hit? s.files key with
    | some u => exact (hcache key u hkey hhit).symm
    | none =>
      simp only [load]
      cases treeAt s.files key <;> rfl

theorem startWith_of_ok {s : Service} {path : Path} {root : NamespaceNode}
    (h : (s.cache.get s.files s.loaded path).2.result.map (·.root) = .ok root) :
    (s.startWith path).failure = none ∧
      (s.startWith path).service.inUse.map (·.root) = some root := by
  obtain ⟨u, hgot, rfl⟩ := map_eq_ok_iff.mp h
  rw [startWith]
  simp [hgot]

theorem startWith_of_expected {s : Service} {path : Path} {e : LoadError}
    (h : (s.cache.get s.files s.loaded path).2.result.map (·.root) = .error e)
    (he : e.isExpected) :
    (s.startWith path).failure = none ∧ (s.startWith path).service.inUse = none := by
  have hgot := map_eq_error_iff.mp h
  rw [startWith]
  simp [hgot, he]

theorem startWith_of_unexpected {s : Service} {path : Path} {e : LoadError}
    (h : (s.cache.get s.files s.loaded path).2.result.map (·.root) = .error e)
    (he : e.isExpected = false) :
    (s.startWith path).failure = some e ∧ (s.startWith path).service = s := by
  have hgot := map_eq_error_iff.mp h
  rw [startWith]
  simp [hgot, he]

/-- A start-up of a service whose cache does not answer with an outdated universe for the file. -/
theorem start_outcome (s : Service) (configured : Option Path) (usual path : Path)
    (hpath : s.universePath? configured usual = some path) (hcache : s.IsUpToDate path) :
    let up := s.start configured usual
    (up.failure = none ↔ ∃ key, s.files.resolve path = .ok key ∧
      ¬∃ document, documentAt? s.files key = some document ∧ NamespaceTrips document) ∧
    (up.failure = none →
      up.service.inUse.map (·.root) = (resolvedTreeAt s.files path).toOption) ∧
    (up.failure ≠ none → up.service = s) := by
  intro up
  have hgot := root_result_get hcache
  have hup : up = s.startWith path := by
    simp only [up, start, hpath]
  rw [hup]
  simp only [← treeAt_unexpected_iff]
  cases hkey : s.files.resolve path with
  | error loop =>
    rw [resolvedTreeAt_of_linkLoop hkey] at hgot
    obtain ⟨hfailure, hservice⟩ := startWith_of_unexpected hgot rfl
    simp [hfailure, hservice]
  | ok key =>
    rw [resolvedTreeAt_of_resolve hkey] at hgot ⊢
    -- a start-up tells three results of loading apart: a tree, an error it expects, and any other
    cases htree : treeAt s.files key with
    | ok root =>
      obtain ⟨hfailure, hinUse⟩ := startWith_of_ok (hgot.trans htree)
      simp [hfailure, hinUse, htree, Except.toOption]
    | error e =>
      cases hexpected : e.isExpected with
      | true =>
        obtain ⟨hfailure, hinUse⟩ := startWith_of_expected (hgot.trans htree) hexpected
        simp [hfailure, hinUse, htree, hexpected, Except.toOption]
      | false =>
        obtain ⟨hfailure, hservice⟩ := startWith_of_unexpected (hgot.trans htree) hexpected
        simp [hfailure, hservice, htree, hexpected]

/-- A file with a universe of one type, at a first start-up. -/
theorem start_outcome_one :
    let s := initial (sampleFiles "One" 1)
    let up := s.start (some samplePath) sampleKey
    s.universePath? (some samplePath) sampleKey = some samplePath ∧ s.IsUpToDate samplePath ∧
      up.failure = none ∧ up.service.inUse.map (·.root) = some (sampleTree "One") := by
  intro s up
  have hkey : s.files.resolve samplePath = .ok sampleKey := resolve_sampleFiles "One" 1
  have htree : treeAt s.files sampleKey = .ok (sampleTree "One") := treeAt_sampleKey_one 1
  have hcache : s.IsUpToDate samplePath := by
    rintro key u - ⟨⟩
  obtain ⟨hcompletes, hinUse, -⟩ :=
    start_outcome s (some samplePath) sampleKey samplePath rfl hcache
  have hdone : up.failure = none := by
    refine hcompletes.mpr ⟨sampleKey, hkey, fun htrips => ?_⟩
    obtain ⟨e, he, -⟩ := (treeAt_unexpected_iff _ _).mpr htrips
    cases htree.symm.trans he
  refine ⟨rfl, hcache, hdone, ?_⟩
  rw [hinUse hdone, resolvedTreeAt_of_resolve hkey, htree]
  rfl

/-- A universe file with a number in place of the list of types. -/
def scalarFile : Content :=
  .bytes (Text.encode "\x7b\"types\":5\x7d")

/-- Such a file alone in a folder. -/
def scalarFiles : FileTree :=
  ⟨[(["u.json"], .file scalarFile 0), ([], .folder 0)], [], 1⟩

theorem resolve_scalarFiles : scalarFiles.resolve samplePath = .ok sampleKey := by
  cbv

theorem look?_scalarFiles : scalarFiles.look? sampleKey = some (.file scalarFile 0) :=
  FileTree.look?_of_home_nil rfl rfl rfl (by decide)

/-- The text in such a file. -/
def scalarText : List Char :=
  ['\x7b', '"', 't', 'y', 'p', 'e', 's', '"', ':', '5', '\x7d']

theorem decode_scalarFile : Text.decode scalarFile.toBytes = .ok scalarText := by
  cbv

set_option maxRecDepth 2000 in
theorem readUnmarked_scalarText :
    Json.readUnmarked scalarText = .ok (.object [("types", .int 5)]) := by
  rfl

theorem documentAt?_scalarFiles :
    documentAt? scalarFiles sampleKey = some (.object [("types", .int 5)]) := by
  have hunify : Text.unifyLineEnds scalarText = scalarText := by rfl
  rw [documentAt?, look?_scalarFiles]
  dsimp only
  rw [documentOf?, decode_scalarFile]
  dsimp only
  rw [hunify, Json.read, String.toList_ofList, readUnmarked_scalarText]
  rfl

/-- A first start-up on a universe file with a number in place of the list of types does not
complete. -/
theorem not_start_completes :
    ¬∀ (s : Service) (configured : Option Path) (usual path : Path),
      s.universePath? configured usual = some path → s.cache = [] →
        let up := s.start configured usual
        up.failure = none ∧ up.service.inUse.map (·.root) =
          (resolvedTreeAt s.files path).toOption := by
  intro hall
  obtain ⟨hdone, -⟩ := hall (initial scalarFiles) (some samplePath) sampleKey samplePath rfl rfl
  have htrips : NamespaceTrips (.object [("types", .int 5)]) := .types ⟨.int 5, rfl, rfl, rfl⟩
  obtain ⟨e, htree, hunexpected⟩ := (treeAt_unexpected_iff scalarFiles sampleKey).mpr
    ⟨_, documentAt?_scalarFiles, htrips⟩
  have hcache : (initial scalarFiles).IsUpToDate samplePath := by
    rintro key u - ⟨⟩
  have hgot : ((initial scalarFiles).cache.get scalarFiles 0 samplePath).2.result.map (·.root) =
      treeAt scalarFiles sampleKey :=
    (root_result_get hcache).trans (resolvedTreeAt_of_resolve resolve_scalarFiles)
  obtain ⟨hfailed, -⟩ := startWith_of_unexpected (hgot.trans htree) hunexpected
  cases hdone.symm.trans hfailed

end Service

end DidYouMean
