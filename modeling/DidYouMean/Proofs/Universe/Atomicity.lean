import DidYouMean.Proofs.Traversal
import DidYouMean.Proofs.Universe.Library
import DidYouMean.Proofs.Universe.Session

/-!
# Steps that fail leave the cache alone

A universe is kept before its types are counted for the record.  Were the count refused, the step would
fail and yet have changed the cache.  It never is: getting a universe either fails before anything is
kept, or it succeeds.

## Main definitions

- `GetFailure`: why getting a universe in stages fails
- `Cache.getStaged`: getting a universe in stages

## Main statements

- `Cache.getStaged_eq`: the stages have the outcome that getting a universe has
- `Cache.get_of_error`: getting a universe fails before anything is kept
- `Session.failed_steps_keep_cache`: what steps that get or load a universe leave in the cache
-/

namespace DidYouMean.Universe

/-- Why getting a universe fails: its file holds none, or its types are not counted. -/
inductive GetFailure where
  | load (error : LoadError)
  | count (refusal : Refusal)

/-- What comes of getting a universe in stages. -/
structure Getting where
  cache : Cache
  log : List Log.Record
  result : Except GetFailure Loaded

namespace Cache

/-- Getting a universe in stages: what is loaded is kept, and only then its types are counted. -/
def getStaged (cache : Cache) (files : FileTree) (serial : Nat) (path : Path) : Getting :=
  match files.resolve path with
  | .error e => ⟨cache, [], .error (.load (.linkLoop e))⟩
  | .ok key =>
    match cache.hit? files key with
    | some u => ⟨cache, [], .ok u⟩
    | none =>
      let loading := load files serial key
      match loading.result with
      | .error e => ⟨cache, loading.log, .error (.load e)⟩
      | .ok u =>
        let kept := cache.keep key ⟨timeOf files key, u⟩
        match countTypes u.root with
        | .error refusal => ⟨kept, loading.log, .error (.count refusal)⟩
        | .ok count => ⟨kept, loading.log ++ [countRecord key count], .ok u⟩

variable (cache : Cache) (files : FileTree) (serial : Nat) (path : Path)

/-- The stages have the outcome that getting a universe has. -/
theorem getStaged_eq :
    let (after, loading) := cache.get files serial path
    cache.getStaged files serial path = ⟨after, loading.log, loading.result.mapError .load⟩ := by
  rw [get, getStaged]
  cases files.resolve path with
  | error e => rfl
  | ok key =>
    dsimp only
    rw [getResolved]
    cases cache.hit? files key with
    | some u => rfl
    | none =>
      dsimp only
      cases hload : (load files serial key).result with
      | error e =>
        simp only [hload]
        rfl
      | ok u =>
        simp only [countTypes_eq]
        rfl

/-- Getting a universe fails as loading it fails, and before anything is kept. -/
theorem get_of_error {e : LoadError} (h : (cache.get files serial path).2.result = .error e) :
    (cache.get files serial path).1 = cache ∧ resolvedTreeAt files path = .error e := by
  cases hkey : files.resolve path with
  | error loop =>
    rw [get_of_linkLoop hkey] at h ⊢
    obtain rfl := Except.error.inj h
    exact ⟨rfl, resolvedTreeAt_of_linkLoop hkey⟩
  | ok key =>
    rw [result_get_of_resolve hkey] at h
    rw [resolvedTreeAt_of_resolve hkey, get_of_resolve hkey, getResolved]
    cases hhit : cache.hit? files key with
    | some u =>
      rw [hhit] at h
      cases h
    | none =>
      rw [hhit] at h
      refine ⟨?_, map_eq_error_iff.mp h⟩
      simp only [h]

/-- Getting a universe leaves alone what is kept for all other paths. -/
theorem lookup_get_of_ne {key : Path} (h : files.resolve path ≠ .ok key) :
    (cache.get files serial path).1.lookup key = cache.lookup key := by
  cases hkey : files.resolve path with
  | error loop => rw [get_of_linkLoop hkey]
  | ok key' =>
    have hne : key ≠ key' := fun heq => h (heq ▸ hkey)
    rw [get_of_resolve hkey, lookup_getResolved, if_neg hne]

end Cache

namespace Session

/-- In whatever state, a get that fails in any stage leaves the whole cache as it was, and so does every
load.  A get that succeeds changes what is kept for its own resolved path at most.  The only stage that
fails is that of loading, to which the path has to be resolved first: the types of a universe in a file
can always be counted. -/
theorem failed_steps_keep_cache (s : Session) (path : Path) :
    let getting := s.cache.getStaged s.files s.loaded path
    let (after, reply) := s.take (.get path)
    (after.cache = getting.cache ∧ reply.log = getting.log ∧
      (∀ u, reply.answer = .found u ↔ getting.result = .ok u) ∧
      ∀ e, reply.answer = .loadError e ↔ getting.result = .error (.load e)) ∧
    (∀ failure, getting.result = .error failure → getting.cache = s.cache ∧
      ∃ e, failure = .load e ∧ resolvedTreeAt s.files path = .error e) ∧
    (∀ key, s.files.resolve path ≠ .ok key → getting.cache.lookup key = s.cache.lookup key) ∧
    (s.take (.load path)).1.cache = s.cache ∧
    ∀ root, treeAt s.files path = .ok root → ∃ count, countTypes root = .ok count := by
  intro getting
  have hstaged : getting = ⟨(s.cache.get s.files s.loaded path).1,
      (s.cache.get s.files s.loaded path).2.log,
      (s.cache.get s.files s.loaded path).2.result.mapError .load⟩ :=
    s.cache.getStaged_eq s.files s.loaded path
  rw [hstaged]
  refine ⟨⟨rfl, rfl, fun u => ?_, fun e => ?_⟩, fun failure hfailure => ?_, fun key hkey => ?_,
    rfl, fun root _ => ⟨_, countTypes_eq root⟩⟩
  · refine answer_get_eq_found.trans ?_
    cases (s.cache.get s.files s.loaded path).2.result <;> simp [Except.mapError]
  · refine answer_get_eq_loadError.trans ?_
    cases (s.cache.get s.files s.loaded path).2.result <;> simp [Except.mapError]
  · cases hresult : (s.cache.get s.files s.loaded path).2.result with
    | ok u =>
      rw [hresult] at hfailure
      cases hfailure
    | error e =>
      rw [hresult] at hfailure
      obtain rfl := Except.error.inj hfailure
      obtain ⟨hcache, htree⟩ := s.cache.get_of_error s.files s.loaded path hresult
      exact ⟨hcache, e, rfl, htree⟩
  · exact s.cache.lookup_get_of_ne s.files s.loaded path hkey

/-- The file of a universe that is kept is gone. -/
theorem failed_steps_keep_cache_missing :
    let s : Session := ⟨.ofHome [] 0, [(sampleKey, ⟨1.0, ⟨0, sampleTree "One"⟩⟩)], 1⟩
    let (after, reply) := s.take (.get samplePath)
    reply.answer = .loadError (.notFound sampleKey) ∧ after.cache = s.cache := by
  intro s
  have hmiss : s.cache.hit? s.files sampleKey = none := by
    rw [Cache.hit?, timeOf_of_missing look?_ofHome_sampleKey]
    exact if_neg (by decide)
  have hfails : (s.take (.get samplePath)).2.answer = .loadError (.notFound sampleKey) :=
    answer_get_of_error resolve_ofHome hmiss (treeAt_of_missing look?_ofHome_sampleKey)
  obtain ⟨⟨hcache, -, -, hload⟩, hkeeps, -⟩ := s.failed_steps_keep_cache samplePath
  exact ⟨hfails, hcache.trans (hkeeps _ ((hload _).mp hfails)).1⟩

end Session

end DidYouMean.Universe
