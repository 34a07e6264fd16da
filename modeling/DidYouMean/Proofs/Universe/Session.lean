import DidYouMean.Proofs.Traversal
import DidYouMean.Proofs.Universe.Cache
import DidYouMean.Universe.Session
import Mathlib

/-!
# Runs of a session

What is kept for a path is decided by the last step that concerns it: a step that drops it, or a
get of it that succeeds.

## Main definitions

- `Session.after`, `Session.moments`: the session after a row of steps, and the files at every moment
- `Session.Drops`, `Session.Obtains`: the steps that concern what is kept for a path
- `Session.Since`: a step of one kind was taken, and none of another kind since then
- `Step.apply`: what a step does to the files alone

## Main statements

- `Session.lookup_take`: what one step does to what is kept for a path
- `Session.since_append_singleton`: one more step in a row
- `Session.getElem?_run`: the replies of a run, step by step
- `Session.moments_eq_scanl`: the files never depend on what is kept
-/

namespace DidYouMean.Universe

/-- What a step that gets or loads a universe answers: the tree, or why there is none. -/
def Answer.tree? : Answer → Option (Except LoadError NamespaceNode)
  | .found u => some (.ok u.root)
  | .loadError e => some (.error e)
  | .done | .fileError _ | .linkLoop _ => none

/-- The files after a step. -/
def Step.apply (files : FileTree) : Step → FileTree
  | .write path content stamp => (files.write path content stamp).toOption.getD files
  | .makeFolder path => (files.makeFolder path).toOption.getD files
  | .touch path stamp => (files.touch path stamp).toOption.getD files
  | .delete path => (files.delete path).toOption.getD files
  | .link path target => (files.link path target).toOption.getD files
  | .clear | .forget _ | .get _ | .load _ => files

namespace Session

/-- The session after a row of steps. -/
def after (s : Session) (steps : List Step) : Session :=
  steps.foldl (fun s step => (s.take step).1) s

/-- The files at every moment of a run: at the start, and after each step. -/
def moments (s : Session) : List Step → List FileTree
  | [] => [s.files]
  | step :: rest => s.files :: (s.take step).1.moments rest

/-- The step drops what is kept for a resolved path. -/
def Drops (s : Session) (key : Path) (step : Step) : Prop :=
  step = .clear ∨ ∃ path, step = .forget path ∧ s.files.resolve path = .ok key

/-- The step gets the universe of a resolved path. -/
def Obtains (s : Session) (key : Path) (u : Loaded) (step : Step) : Prop :=
  ∃ path, step = .get path ∧ s.files.resolve path = .ok key ∧
    (s.take step).2.answer = .found u

/-- A step of the first kind was taken, and after it none of the second kind. -/
def Since (s : Session) (steps : List Step) (starts ends : Session → Step → Prop) : Prop :=
  ∃ i step, steps[i]? = some step ∧ starts (s.after (steps.take i)) step ∧
    ∀ j step', i < j → steps[j]? = some step' → ¬ends (s.after (steps.take j)) step'

section Runs

variable {s : Session} {steps : List Step} {last : Step}

theorem after_append_singleton (s : Session) (steps : List Step) (last : Step) :
    s.after (steps ++ [last]) = ((s.after steps).take last).1 := by
  rw [after, List.foldl_append]
  rfl

theorem moments_append_singleton (s : Session) (steps : List Step) (last : Step) :
    s.moments (steps ++ [last]) = s.moments steps ++ [(s.after (steps ++ [last])).files] := by
  induction steps generalizing s with
  | nil => rfl
  | cons step steps ih => exact congrArg (s.files :: ·) (ih (s.take step).1)

/-- The moments up to a step are the first moments of the run. -/
theorem moments_take_prefix (s : Session) (steps : List Step) (i : Nat) :
    s.moments (steps.take i) <+: s.moments steps := by
  induction steps generalizing s i with
  | nil => simp
  | cons step steps ih =>
    cases i with
    | zero => exact ⟨_, rfl⟩
    | succ i => exact List.cons_prefix_cons.mpr ⟨rfl, ih (s.take step).1 i⟩

/-- Each reply of a run is that of its step in the session as it is then. -/
theorem getElem?_run (s : Session) (steps : List Step) (i : Nat) :
    (s.run steps)[i]? = steps[i]?.map fun step => ((s.after (steps.take i)).take step).2 := by
  induction steps generalizing s i with
  | nil => rfl
  | cons step steps ih =>
    cases i with
    | zero => rfl
    | succ i =>
      rw [run, List.getElem?_cons_succ, List.getElem?_cons_succ, List.take_succ_cons]
      exact ih (s.take step).1 i

theorem cache_change (s : Session) (result : Except FileError FileTree) :
    (s.change result).1.cache = s.cache := by
  cases result <;> rfl

theorem files_change (s : Session) (result : Except FileError FileTree) :
    (s.change result).1.files = result.toOption.getD s.files := by
  cases result <;> rfl

theorem files_drop (s : Session) (result : Except LinkLoop Cache) :
    (s.drop result).1.files = s.files := by
  cases result <;> rfl

theorem files_take (s : Session) (step : Step) : (s.take step).1.files = step.apply s.files := by
  cases step with
  | write | makeFolder | touch | delete | link => exact files_change s _
  | forget => exact files_drop s _
  | clear | get | load => rfl

/-- The files after a row of steps. -/
theorem files_after (s : Session) (steps : List Step) :
    (s.after steps).files = steps.foldl Step.apply s.files := by
  induction steps generalizing s with
  | nil => rfl
  | cons step steps ih =>
    rw [List.foldl_cons, ← files_take]
    exact ih (s.take step).1

/-- The files at every moment never depend on what is kept. -/
theorem moments_eq_scanl (s : Session) (steps : List Step) :
    s.moments steps = steps.scanl Step.apply s.files := by
  induction steps generalizing s with
  | nil => simp [moments]
  | cons step steps ih => rw [moments, ih, List.scanl_cons, files_take]

theorem since_append_singleton {starts ends : Session → Step → Prop} :
    s.Since (steps ++ [last]) starts ends ↔
      starts (s.after steps) last ∨ s.Since steps starts ends ∧ ¬ends (s.after steps) last := by
  have hlast : (steps ++ [last])[steps.length]? = some last := by simp
  -- an old step stands where it stood, after the same steps
  have hold : ∀ {i step}, steps[i]? = some step →
      (steps ++ [last])[i]? = some step ∧ (steps ++ [last]).take i = steps.take i := by
    intro i step hi
    obtain ⟨hlt, -⟩ := List.getElem?_eq_some_iff.mp hi
    exact ⟨by rw [List.getElem?_append_left hlt, hi],
      List.take_append_of_le_length (Nat.le_of_lt hlt)⟩
  -- any other step is the last one
  have hcase : ∀ {i step}, (steps ++ [last])[i]? = some step →
      steps[i]? = some step ∨ i = steps.length ∧ step = last := by
    intro i step hi
    obtain ⟨hlt, -⟩ := List.getElem?_eq_some_iff.mp hi
    rw [List.length_append, List.length_singleton] at hlt
    rcases Nat.lt_or_ge i steps.length with hlt' | hge
    · rw [List.getElem?_append_left hlt'] at hi
      exact .inl hi
    · obtain rfl : i = steps.length := by omega
      exact .inr ⟨rfl, Option.some.inj (hi.symm.trans hlast)⟩
  constructor
  · rintro ⟨i, step, hi, hstart, hend⟩
    rcases hcase hi with hi | ⟨rfl, rfl⟩
    · obtain ⟨hlt, -⟩ := List.getElem?_eq_some_iff.mp hi
      rw [(hold hi).2] at hstart
      refine .inr ⟨⟨i, step, hi, hstart, fun j step' hij hj => ?_⟩, ?_⟩
      · rw [← (hold hj).2]
        exact hend j step' hij (hold hj).1
      · simpa using hend steps.length last hlt hlast
    · simp only [List.take_left'] at hstart
      exact .inl hstart
  · rintro (hstart | ⟨⟨i, step, hi, hstart, hend⟩, hlastend⟩)
    · refine ⟨steps.length, last, hlast, by simpa using hstart, fun j step' hlt hj => ?_⟩
      rcases hcase hj with hj | ⟨rfl, -⟩
      · obtain ⟨hlt', -⟩ := List.getElem?_eq_some_iff.mp hj
        omega
      · omega
    · refine ⟨i, step, (hold hi).1, by rw [(hold hi).2]; exact hstart, fun j step' hij hj => ?_⟩
      rcases hcase hj with hj | ⟨rfl, rfl⟩
      · rw [(hold hj).2]
        exact hend j step' hij hj
      · simpa using hlastend

end Runs

section Steps

variable {s : Session} {key path : Path} {u : Loaded} {e : LoadError} {step : Step}

theorem cache_take_get (s : Session) (path : Path) :
    (s.take (.get path)).1.cache = (s.cache.get s.files s.loaded path).1 := rfl

theorem answer_get_eq_found : (s.take (.get path)).2.answer = .found u ↔
    (s.cache.get s.files s.loaded path).2.result = .ok u := by
  simp only [take, receive]
  cases (s.cache.get s.files s.loaded path).2.result <;> simp

theorem answer_get_eq_loadError : (s.take (.get path)).2.answer = .loadError e ↔
    (s.cache.get s.files s.loaded path).2.result = .error e := by
  simp only [take, receive]
  cases (s.cache.get s.files s.loaded path).2.result <;> simp

theorem answer_get_of_linkLoop {loop : LinkLoop} (h : s.files.resolve path = .error loop) :
    (s.take (.get path)).2.answer = .loadError (.linkLoop loop) := by
  rw [answer_get_eq_loadError, Cache.get_of_linkLoop h]

theorem answer_get_of_kept (hkey : s.files.resolve path = .ok key)
    (h : s.cache.lookup key = some ⟨timeOf s.files key, u⟩) :
    (s.take (.get path)).2.answer = .found u := by
  rw [answer_get_eq_found, Cache.result_get_of_resolve hkey, Cache.hit?_eq_some_iff.mpr h]

theorem answer_get_of_tree {root : NamespaceNode} (hkey : s.files.resolve path = .ok key)
    (hhit : s.cache.hit? s.files key = none) (htree : treeAt s.files key = .ok root) :
    (s.take (.get path)).2.answer = .found ⟨s.loaded, root⟩ := by
  rw [answer_get_eq_found, Cache.result_get_of_resolve hkey, hhit]
  simp only [load, htree]
  rfl

theorem answer_get_of_error (hkey : s.files.resolve path = .ok key)
    (hhit : s.cache.hit? s.files key = none) (htree : treeAt s.files key = .error e) :
    (s.take (.get path)).2.answer = .loadError e := by
  rw [answer_get_eq_loadError, Cache.result_get_of_resolve hkey, hhit]
  simp only [load, htree]
  rfl

/-- Loading answers with what is in the file. -/
theorem tree?_take_load (s : Session) (path : Path) :
    (s.take (.load path)).2.answer.tree? = some (treeAt s.files path) := by
  simp only [take, receive, load]
  cases treeAt s.files path <;> rfl

/-- A universe that is got is kept, with the time of its file. -/
theorem lookup_take_get (hkey : s.files.resolve path = .ok key)
    (h : (s.take (.get path)).2.answer = .found u) :
    (s.take (.get path)).1.cache.lookup key = some ⟨timeOf s.files key, u⟩ := by
  have hresult := answer_get_eq_found.mp h
  rw [Cache.get_of_resolve hkey] at hresult
  rw [cache_take_get, Cache.get_of_resolve hkey, Cache.lookup_getResolved, if_pos rfl, hresult]

/-- A universe that is obtained is kept already, with the time of its file, or it is loaded and gets
the next serial number. -/
theorem Obtains.kept_or_loaded (h : s.Obtains key u step) :
    s.cache.lookup key = some ⟨timeOf s.files key, u⟩ ∨
      s.cache.hit? s.files key = none ∧ treeAt s.files key = .ok u.root ∧ u.serial = s.loaded := by
  obtain ⟨path, rfl, hkey, hanswer⟩ := h
  have hresult := answer_get_eq_found.mp hanswer
  rw [Cache.result_get_of_resolve hkey] at hresult
  cases hhit : s.cache.hit? s.files key with
  | some kept =>
    rw [hhit] at hresult
    obtain rfl := Except.ok.inj hresult
    exact .inl (Cache.hit?_eq_some_iff.mp hhit)
  | none =>
    rw [hhit] at hresult
    obtain ⟨root, htree, rfl⟩ := map_eq_ok_iff.mp hresult
    exact .inr ⟨rfl, htree, rfl⟩

theorem Obtains.source (h : s.Obtains key u step) :
    s.cache.lookup key = some ⟨timeOf s.files key, u⟩ ∨ treeAt s.files key = .ok u.root :=
  h.kept_or_loaded.imp_right fun ⟨_, htree, _⟩ => htree

theorem Obtains.not_drops (h : s.Obtains key u step) : ¬s.Drops key step := by
  obtain ⟨path, rfl, -⟩ := h
  simp [Drops]

/-- What a step does to what is kept for a path: it drops it, it puts there what it obtains, or it
leaves it as it is. -/
theorem lookup_take (s : Session) (key : Path) (step : Step) :
    (s.Drops key step ∧ (s.take step).1.cache.lookup key = none) ∨
    (∃ u, s.Obtains key u step ∧
      (s.take step).1.cache.lookup key = some ⟨timeOf s.files key, u⟩) ∨
    (¬s.Drops key step ∧ (∀ u, ¬s.Obtains key u step) ∧
      (s.take step).1.cache.lookup key = s.cache.lookup key) := by
  cases step with
  | write | makeFolder | touch | delete | link =>
    refine .inr (.inr ⟨by simp [Drops], by simp [Obtains], ?_⟩)
    rw [take, cache_change]
  | clear => exact .inl ⟨.inl rfl, rfl⟩
  | forget path =>
    rw [take]
    cases hforget : s.cache.forget s.files path with
    | error loop =>
      -- a path that cannot be resolved drops nothing
      have hloop := map_eq_error_iff.mp hforget
      exact .inr (.inr ⟨by simp [Drops, hloop], by simp [Obtains], rfl⟩)
    | ok cache =>
      obtain ⟨key', hresolve, hlook⟩ := Cache.lookup_forget hforget key
      by_cases hkey : key = key'
      · exact .inl ⟨.inr ⟨path, rfl, hkey ▸ hresolve⟩, hlook.trans (if_pos hkey)⟩
      · refine .inr (.inr ⟨?_, by simp [Obtains], hlook.trans (if_neg hkey)⟩)
        simpa [Drops, hresolve] using Ne.symm hkey
  | get path =>
    -- only a get that finds a universe concerns a path, and that is the path resolved
    have hother : ∀ e, (s.cache.get s.files s.loaded path).2.result = .error e →
        ∀ u, ¬s.Obtains key u (.get path) := by
      rintro e hresult u ⟨path', hpath, -, hanswer⟩
      obtain rfl := Step.get.inj hpath
      rw [answer_get_eq_found, hresult] at hanswer
      cases hanswer
    cases hresolve : s.files.resolve path with
    | error loop =>
      have hget : s.cache.get s.files s.loaded path = (s.cache, ⟨[], .error (.linkLoop loop)⟩) :=
        Cache.get_of_linkLoop hresolve
      exact .inr (.inr ⟨by simp [Drops], hother _ (by rw [hget]),
        by rw [cache_take_get, hget]⟩)
    | ok key' =>
      have hget : s.cache.get s.files s.loaded path = s.cache.getResolved s.files s.loaded key' :=
        Cache.get_of_resolve hresolve
      have hlook := Cache.lookup_getResolved s.cache s.files s.loaded key' key
      rw [← hget, ← cache_take_get] at hlook
      by_cases hkey : key = key'
      · cases hresult : (s.cache.get s.files s.loaded path).2.result with
        | ok u =>
          have hanswer := answer_get_eq_found.mpr hresult
          obtain rfl := hkey
          exact .inr (.inl ⟨u, ⟨path, rfl, hresolve, hanswer⟩, lookup_take_get hresolve hanswer⟩)
        | error e =>
          -- what was kept of an older file stays
          rw [if_pos hkey, hresult] at hlook
          exact .inr (.inr ⟨by simp [Drops], hother e hresult, hlook⟩)
      · refine .inr (.inr ⟨by simp [Drops], ?_, hlook.trans (if_neg hkey)⟩)
        rintro u ⟨path', hpath, hkey', -⟩
        obtain rfl := Step.get.inj hpath
        exact hkey (Except.ok.inj (hkey'.symm.trans hresolve))
  | load path => exact .inr (.inr ⟨by simp [Drops], by simp [Obtains], rfl⟩)

end Steps

end Session

section Samples

/-- A universe file with nothing but a type in it. -/
def sampleFile (name : String) : Content :=
  .bytes (Text.encode ("\x7b\"types\":[\x7b\"name\":\"" ++ name ++ "\"\x7d]\x7d"))

/-- The tree in such a file. -/
def sampleTree (name : String) : NamespaceNode :=
  ⟨"", [⟨name, .classType, [], []⟩], []⟩

/-- The path of such a file. -/
def samplePath : Path := .ofText "u.json"

/-- The resolved path of such a file. -/
def sampleKey : Path := .ofPlace ["u.json"]

/-- Such a file alone in a folder, with a time in seconds. -/
def sampleFiles (name : String) (seconds : Int) : FileTree :=
  ⟨[(["u.json"], .file (sampleFile name) (seconds * 1000000000)), ([], .folder 0)], [], 1⟩

theorem resolve_ofHome : (FileTree.ofHome [] 0).resolve samplePath = .ok sampleKey := by
  cbv

theorem look?_ofHome_sampleKey : (FileTree.ofHome [] 0).look? sampleKey = none := by
  cbv

theorem placed_sampleFiles (name : String) (seconds : Int) :
    FileTree.entry? (sampleFiles name seconds) ["u.json"] =
      some (.file (sampleFile name) (seconds * 1000000000)) := rfl

theorem resolve_sampleFiles (name : String) (seconds : Int) :
    (sampleFiles name seconds).resolve samplePath = .ok sampleKey := by
  have hpath : samplePath = ⟨"", ["u.json"]⟩ := by cbv
  rw [hpath]
  refine FileTree.resolve_of_home_nil rfl rfl (fun target => ?_) (by decide)
  rw [placed_sampleFiles]
  simp

theorem look?_sampleKey (name : String) (seconds : Int) :
    (sampleFiles name seconds).look? sampleKey =
      some (.file (sampleFile name) (seconds * 1000000000)) :=
  FileTree.look?_of_home_nil rfl rfl (placed_sampleFiles name seconds) (by decide)

theorem timeOf_sampleKey (name : String) (seconds : Int) :
    timeOf (sampleFiles name seconds) sampleKey = Stamp.seconds (seconds * 1000000000) :=
  timeOf_of_file (look?_sampleKey name seconds)

theorem treeAt_sampleKey_one (seconds : Int) :
    treeAt (sampleFiles "One" seconds) sampleKey = .ok (sampleTree "One") := by
  rw [treeAt_of_file (look?_sampleKey "One" seconds)]
  cbv

theorem treeAt_sampleKey_two (seconds : Int) :
    treeAt (sampleFiles "Two" seconds) sampleKey = .ok (sampleTree "Two") := by
  rw [treeAt_of_file (look?_sampleKey "Two" seconds)]
  cbv

theorem look?_sampleFiles {name : String} {seconds : Int} {p : Path} {content : Content}
    {stamp : Stamp} (h : (sampleFiles name seconds).look? p = some (.file content stamp)) :
    content = sampleFile name ∧ stamp = seconds * 1000000000 := by
  obtain ⟨place, hmem⟩ := FileTree.exists_mem_of_look? h
  have hentry : place = ["u.json"] ∧ content = sampleFile name ∧ stamp = seconds * 1000000000 := by
    simpa [sampleFiles] using hmem
  exact hentry.2

theorem timeOf_sampleFiles (name : String) (seconds : Int) (p : Path) :
    timeOf (sampleFiles name seconds) p = missingTime ∨
      timeOf (sampleFiles name seconds) p = Stamp.seconds 0 ∨
        timeOf (sampleFiles name seconds) p = Stamp.seconds (seconds * 1000000000) := by
  rcases timeOf_cases (sampleFiles name seconds) p with hmissing | ⟨_, entry, stamp, hmem, hstamp, htime⟩
  · exact .inl hmissing
  · simp only [sampleFiles, List.mem_cons, Prod.mk.injEq, List.not_mem_nil, or_false] at hmem
    rcases hmem with ⟨-, rfl⟩ | ⟨-, rfl⟩
    · obtain rfl := Option.some.inj hstamp
      exact .inr (.inr htime)
    · obtain rfl := Option.some.inj hstamp
      exact .inr (.inl htime)

theorem look?_ofHome {p : Path} {content : Content} {stamp : Stamp} :
    (FileTree.ofHome [] 0).look? p ≠ some (.file content stamp) := by
  intro hlook
  obtain ⟨place, hmem⟩ := FileTree.exists_mem_of_look? hlook
  have hentries : (FileTree.ofHome [] 0).entries = [([], .folder 0)] := rfl
  simp [hentries] at hmem

theorem timeOf_ofHome (p : Path) : timeOf (.ofHome [] 0) p = missingTime ∨
    timeOf (.ofHome [] 0) p = Stamp.seconds 0 := by
  rcases timeOf_cases (.ofHome [] 0) p with hmissing | ⟨_, entry, stamp, hmem, hstamp, htime⟩
  · exact .inl hmissing
  · have hentries : (FileTree.ofHome [] 0).entries = [([], .folder 0)] := rfl
    rw [hentries, List.mem_singleton, Prod.mk.injEq] at hmem
    obtain ⟨-, rfl⟩ := hmem
    obtain rfl := Option.some.inj hstamp
    exact .inr htime

end Samples

end DidYouMean.Universe
