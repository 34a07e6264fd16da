import DidYouMean.Proofs.Universe.Session

/-!
# Getting universes of files that do not exist

A file that does not exist counts as one that was last changed a second before the epoch.  A universe
that is kept from a file with that very time answers for the file after it is gone.

## Main definitions

- `Session.KeepsUndated`: a step that gets a universe from a file with the time of missing ones
- `Session.EndsUndated`: a step after which that universe is kept no longer

## Main statements

- `Session.lookup_missingTime_iff`: when a universe is kept with the time of missing files
- `Session.get_of_missing`: what getting a universe answers where no file is
- `Session.not_get_of_missing_notFound`: it need not be an error
-/

namespace DidYouMean.Universe

namespace Session

/-- The step gets a universe from a file that has the time of files that do not exist. -/
def KeepsUndated (key : Path) (s : Session) (step : Step) : Prop :=
  ∃ u stamp, s.Obtains key u step ∧ s.files.stamp? key = some stamp ∧ stamp.seconds = missingTime

/-- The step drops what is kept for a path, or gets a universe from a file that has another time. -/
def EndsUndated (key : Path) (s : Session) (step : Step) : Prop :=
  s.Drops key step ∨ ∃ u, s.Obtains key u step ∧ timeOf s.files key ≠ missingTime

variable {s : Session} {key : Path} {step : Step}

theorem KeepsUndated.timeOf_eq (h : KeepsUndated key s step) : timeOf s.files key = missingTime := by
  obtain ⟨u, stamp, -, hstamp, hseconds⟩ := h
  rw [timeOf_of_stamp? hstamp, hseconds]

/-- A universe with the time of files that do not exist is got from a file with this time, or it was
kept before. -/
theorem Obtains.keepsUndated_or_lookup {u : Loaded} (h : s.Obtains key u step)
    (htime : timeOf s.files key = missingTime) :
    KeepsUndated key s step ∨ s.cache.lookup key = some ⟨missingTime, u⟩ := by
  rcases h.source with hlook | htree
  · exact .inr (htime ▸ hlook)
  -- only a file can be loaded, so the time is that of a file
  · obtain ⟨content, stamp, hfile, -⟩ := treeAt_eq_ok htree
    refine .inl ⟨u, stamp, h, by rw [FileTree.stamp?, hfile]; rfl, ?_⟩
    rw [← timeOf_of_file hfile, htime]

/-- After a step, what is kept has the time of files that do not exist if the step got it from a file
with this time, or if it had that time and the step does not put an end to that. -/
theorem lookup_take_missingTime_iff (s : Session) (key : Path) (step : Step) :
    (∃ u, (s.take step).1.cache.lookup key = some ⟨missingTime, u⟩) ↔
      KeepsUndated key s step ∨
        (∃ u, s.cache.lookup key = some ⟨missingTime, u⟩) ∧ ¬EndsUndated key s step := by
  rcases s.lookup_take key step with ⟨hdrops, hlook⟩ | ⟨u, hobtains, hlook⟩ | ⟨hdrops, hobtains, hlook⟩
  · rw [hlook]
    constructor
    · rintro ⟨u, hnone⟩
      cases hnone
    · rintro (⟨u, stamp, hobtains, -⟩ | ⟨-, hends⟩)
      · exact absurd hdrops hobtains.not_drops
      · exact absurd (.inl hdrops) hends
  · rw [hlook]
    constructor
    · rintro ⟨u', hsome⟩
      have htime : timeOf s.files key = missingTime := congrArg Kept.time (Option.some.inj hsome)
      rcases hobtains.keepsUndated_or_lookup htime with hkeeps | hlook'
      · exact .inl hkeeps
      · refine .inr ⟨⟨u, hlook'⟩, ?_⟩
        rintro (hdrops | ⟨-, -, hother⟩)
        · exact hobtains.not_drops hdrops
        · exact hother htime
    · intro h
      have htime : timeOf s.files key = missingTime := by
        rcases h with hkeeps | ⟨-, hends⟩
        · exact hkeeps.timeOf_eq
        · by_contra hother
          exact hends (.inr ⟨u, hobtains, hother⟩)
      exact ⟨u, by rw [htime]⟩
  · rw [hlook]
    constructor
    · intro hkept
      refine .inr ⟨hkept, ?_⟩
      rintro (hdrops' | ⟨u, hobtains', -⟩)
      · exact hdrops hdrops'
      · exact hobtains u hobtains'
    · rintro (⟨u, stamp, hobtains', -⟩ | ⟨hkept, -⟩)
      · exact absurd hobtains' (hobtains u)
      · exact hkept

/-- What is kept for a path has the time of files that do not exist if and only if it was got from a
file with that time, and since then nothing has put an end to that. -/
theorem lookup_missingTime_iff (files : FileTree) (key : Path) (steps : List Step) :
    (∃ u, ((start files).after steps).cache.lookup key = some ⟨missingTime, u⟩) ↔
      (start files).Since steps (KeepsUndated key) (EndsUndated key) := by
  induction steps using List.reverseRecOn with
  | nil => simp [start, after, Since]
  | append_singleton steps last ih =>
    rw [after_append_singleton, since_append_singleton, lookup_take_missingTime_iff, ih]

/-- Where no file is, getting a universe fails, unless the one of a file with the time of files that do
not exist is kept still.  It always fails where the path cannot be resolved. -/
theorem get_of_missing (files : FileTree) (steps : List Step) (path : Path) :
    let s := (start files).after steps
    (∀ loop, s.files.resolve path = .error loop →
      (s.take (.get path)).2.answer = .loadError (.linkLoop loop)) ∧
    ∀ key, s.files.resolve path = .ok key → s.files.look? key = none →
      let undated := (start files).Since steps (KeepsUndated key) (EndsUndated key)
      (undated → ∃ u, (s.take (.get path)).2.answer = .found u) ∧
        (¬undated → (s.take (.get path)).2.answer = .loadError (.notFound key)) := by
  intro s
  refine ⟨fun loop hloop => answer_get_of_linkLoop hloop, fun key hkey hmissing => ?_⟩
  have htime : timeOf s.files key = missingTime := timeOf_of_missing hmissing
  have hkept := lookup_missingTime_iff files key steps
  refine ⟨fun h => ?_, fun h => ?_⟩
  · obtain ⟨u, hlook⟩ := hkept.mpr h
    exact ⟨u, answer_get_of_kept hkey (htime.symm ▸ hlook)⟩
  · refine answer_get_of_error hkey ?_ (treeAt_of_missing hmissing)
    refine Option.eq_none_iff_forall_ne_some.mpr fun u hhit => h (hkept.mp ⟨u, ?_⟩)
    exact htime ▸ Cache.hit?_eq_some_iff.mp hhit

/-- A universe file gets the time of files that do not exist, and is deleted once its universe was
got. -/
def undating : List Step :=
  [.write samplePath (sampleFile "One") (some 1000000000), .touch samplePath (-1000000000),
    .get samplePath, .delete samplePath]

theorem files_undating :
    ((start (.ofHome [] 0)).after (undating.take 2)).files = sampleFiles "One" (-1) ∧
      ((start (.ofHome [] 0)).after undating).files = .ofHome [] 0 := by
  rw [files_after, files_after]
  constructor <;> cbv

theorem resolve_undating :
    ((start (.ofHome [] 0)).after (undating.take 2)).files.resolve samplePath = .ok sampleKey ∧
      ((start (.ofHome [] 0)).after undating).files.resolve samplePath = .ok sampleKey := by
  rw [files_undating.1, files_undating.2]
  exact ⟨resolve_sampleFiles _ _, resolve_ofHome⟩

/-- The get of this run finds the universe of the file. -/
theorem answer_undating :
    let s := (start (.ofHome [] 0)).after (undating.take 2)
    (s.take (.get samplePath)).2.answer = .found ⟨s.loaded, sampleTree "One"⟩ := by
  intro s
  refine answer_get_of_tree resolve_undating.1 ?_ ?_
  · rw [show s.cache = [] from (cache_change _ _).trans (cache_change _ _)]
    rfl
  · rw [files_undating.1, treeAt_sampleKey_one]

theorem look?_undating : ((start (.ofHome [] 0)).after undating).files.look? sampleKey = none := by
  rw [files_undating.2, look?_ofHome_sampleKey]

theorem get_of_missing_undating :
    let s := (start (.ofHome [] 0)).after undating
    s.files.resolve samplePath = .ok sampleKey ∧ s.files.look? sampleKey = none ∧
      ∃ u, (s.take (.get samplePath)).2.answer = .found u := by
  intro s
  refine ⟨resolve_undating.2, look?_undating, ((get_of_missing (.ofHome [] 0) undating
    samplePath).2 sampleKey resolve_undating.2 look?_undating).1 ?_⟩
  refine ⟨2, .get samplePath, rfl, ⟨_, -1 * 1000000000,
    ⟨samplePath, rfl, resolve_undating.1, answer_undating⟩, ?_, by decide⟩, fun j step hj hstep => ?_⟩
  · rw [files_undating.1, FileTree.stamp?, look?_sampleKey]
    rfl
  · obtain ⟨hlt, -⟩ := List.getElem?_eq_some_iff.mp hstep
    change j < 4 at hlt
    obtain rfl : j = 3 := by omega
    obtain rfl := Option.some.inj hstep
    simp [EndsUndated, Drops, Obtains]

/-- A get where no file is can find a universe nevertheless. -/
theorem not_get_of_missing_notFound :
    ¬∀ (files : FileTree) (steps : List Step) (path key : Path),
      let s := (start files).after steps
      s.files.resolve path = .ok key → s.files.look? key = none →
        (s.take (.get path)).2.answer = .loadError (.notFound key) := by
  intro hraises
  have herror := hraises (.ofHome [] 0) undating samplePath sampleKey resolve_undating.2
    look?_undating
  obtain ⟨u, hgot⟩ : ∃ u, (((start (.ofHome [] 0)).after (undating.take 2)).take
      (.get samplePath)).2.answer = .found u := ⟨_, answer_undating⟩
  -- the file is gone, but what was kept of it has the time of a file that does not exist
  have hkept := lookup_take_get resolve_undating.1 hgot
  rw [files_undating.1, timeOf_sampleKey] at hkept
  have hfound : (((start (.ofHome [] 0)).after undating).take (.get samplePath)).2.answer =
      .found u := by
    refine answer_get_of_kept resolve_undating.2 ?_
    rw [files_undating.2, timeOf_of_missing look?_ofHome_sampleKey,
      show missingTime = Stamp.seconds (-1 * 1000000000) by decide]
    exact (congrArg (List.lookup _) (cache_change _ _)).trans hkept
  rw [hfound] at herror
  cases herror

end Session

end DidYouMean.Universe
