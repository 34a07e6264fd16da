import DidYouMean.Proofs.Universe.Session

/-!
# What the cache answers while times tell files apart

As long as the time of a file tells its content, getting a universe is as good as loading it.

## Main definitions

- `TimesTell`: the times of files at one moment tell what they held at an earlier one
- `Steady`: a row of files in which they always do
- `Renews`: a row of files in which new content comes with a new time
- `Session.loadResolved`: what loading a path answers once it is resolved
- `Version`: a universe that was once in the file of a path, with the time it had then

## Main statements

- `Session.version_of_lookup`: what is kept is a version of some moment past
- `Session.get_eq_load`: getting a universe is as good as loading it, in steady files
- `Session.not_get_eq_load_of_renews`: new times for new content are not enough

## Design notes

New content with a new time is too weak a promise, since an old time can be set again without any
new content: what is kept from then is taken for the file again.
-/

namespace DidYouMean.Universe

/-- What a resolved path leads to at the time of an earlier file there is a file with the same content.
A path that leads nowhere has the time of a file that does not exist. -/
def TimesTell (earlier later : FileTree) : Prop :=
  ∀ p p' key content stamp, earlier.resolve p = .ok key → later.resolve p' = .ok key →
    earlier.look? key = some (.file content stamp) → timeOf later key = stamp.seconds →
      ∃ stamp', later.look? key = some (.file content stamp')

/-- At each of these moments, the times of files tell what they held at the moments before. -/
def Steady (moments : List FileTree) : Prop :=
  moments.Pairwise TimesTell

/-- The universe was in the file of a resolved path at some of these moments, and the file had the
time that is kept. -/
def Version (moments : List FileTree) (key : Path) (kept : Kept) : Prop :=
  ∃ t ∈ moments, (∃ p, t.resolve p = .ok key) ∧ timeOf t key = kept.time ∧
    treeAt t key = .ok kept.loaded.root

theorem Version.mono {moments moments' : List FileTree} {key : Path} {kept : Kept}
    (hsub : moments ⊆ moments') (h : Version moments key kept) : Version moments' key kept := by
  obtain ⟨t, ht, hkept⟩ := h
  exact ⟨t, hsub ht, hkept⟩

/-- While the time of a file tells its content, the version of an earlier moment is the file itself if
it has its time. -/
theorem Version.treeAt_eq {past : List FileTree} {now : FileTree} {path key : Path} {kept : Kept}
    (hsteady : Steady (past ++ [now])) (hkey : now.resolve path = .ok key)
    (h : Version past key kept) (htime : timeOf now key = kept.time) :
    treeAt now key = .ok kept.loaded.root := by
  obtain ⟨t, ht, ⟨p, hp⟩, hkept, htree⟩ := h
  obtain ⟨content, stamp, hfile, hbytes⟩ := treeAt_eq_ok htree
  have hstamp : timeOf now key = stamp.seconds := by
    rw [htime, ← hkept, timeOf_of_file hfile]
  have hpair := (List.pairwise_append.mp hsteady).2.2 t ht now List.mem_cons_self
  obtain ⟨stamp', hsame⟩ := hpair p path key content stamp hp hkey hfile hstamp
  rw [treeAt_of_file hsame, hbytes]

namespace Session

variable {s : Session} {steps : List Step} {key : Path} {kept : Kept}

/-- One step keeps versions of moments past, and of the moment before it. -/
theorem version_of_lookup_take {past : List FileTree} {step : Step}
    (hold : ∀ key kept, s.cache.lookup key = some kept → Version past key kept)
    (hkept : (s.take step).1.cache.lookup key = some kept) :
    Version (past ++ [s.files]) key kept := by
  rcases s.lookup_take key step with ⟨-, hnone⟩ | ⟨u, hobtains, hsome⟩ | ⟨-, -, hsame⟩
  · rw [hnone] at hkept
    cases hkept
  · rw [hsome] at hkept
    obtain rfl := Option.some.inj hkept
    -- what was kept before is an old version, and what is loaded is one of this moment
    rcases hobtains.source with hlook | htree
    · exact (hold key _ hlook).mono (List.subset_append_left _ _)
    · obtain ⟨path, -, hpath, -⟩ := hobtains
      exact ⟨s.files, by simp, ⟨path, hpath⟩, rfl, htree⟩
  · rw [hsame] at hkept
    exact (hold key kept hkept).mono (List.subset_append_left _ _)

/-- Whatever is kept for a path is a version of some moment past. -/
theorem version_of_lookup (files : FileTree) (steps : List Step) :
    ∃ past, (start files).moments steps = past ++ [((start files).after steps).files] ∧
      ∀ key kept, ((start files).after steps).cache.lookup key = some kept →
        Version past key kept := by
  induction steps using List.reverseRecOn with
  | nil => exact ⟨[], rfl, fun key kept hkept => nomatch hkept⟩
  | append_singleton steps last ih =>
    obtain ⟨past, hmoments, hold⟩ := ih
    refine ⟨past ++ [((start files).after steps).files], ?_, fun key kept hkept => ?_⟩
    · rw [moments_append_singleton, hmoments]
    · rw [after_append_singleton] at hkept
      exact version_of_lookup_take hold hkept

/-- What loading a path answers once it is resolved: the tree, or why there is none.  There is none if
it cannot be resolved. -/
def loadResolved (s : Session) (path : Path) : Option (Except LoadError NamespaceNode) :=
  match s.files.resolve path with
  | .error e => some (.error (.linkLoop e))
  | .ok key => (s.take (.load key)).2.answer.tree?

theorem loadResolved_of_resolve {path : Path} (h : s.files.resolve path = .ok key) :
    s.loadResolved path = some (treeAt s.files key) := by
  rw [loadResolved, h]
  exact tree?_take_load s key

/-- Getting answers with what is in the file where what is kept for its time is that. -/
theorem tree?_take_get {path : Path}
    (hfresh : ∀ key kept, s.files.resolve path = .ok key → s.cache.lookup key = some kept →
      timeOf s.files key = kept.time → treeAt s.files key = .ok kept.loaded.root) :
    (s.take (.get path)).2.answer.tree? = s.loadResolved path := by
  cases hkey : s.files.resolve path with
  | error loop =>
    rw [answer_get_of_linkLoop hkey, loadResolved, hkey]
    rfl
  | ok key =>
    rw [loadResolved_of_resolve hkey]
    cases hhit : s.cache.hit? s.files key with
    | some u =>
      have hkept := Cache.hit?_eq_some_iff.mp hhit
      rw [answer_get_of_kept hkey hkept, hfresh key _ hkey hkept rfl]
      rfl
    | none =>
      cases htree : treeAt s.files key with
      | ok root =>
        rw [answer_get_of_tree hkey hhit htree]
        rfl
      | error e =>
        rw [answer_get_of_error hkey hhit htree]
        rfl

/-- In steady files, every get of a run answers with the tree or the error that loading the resolved
path gives at that moment. -/
theorem get_eq_load (files : FileTree) (steps : List Step) (i : Nat) (path : Path)
    (hsteady : Steady ((start files).moments steps)) (hstep : steps[i]? = some (.get path)) :
    let s := (start files).after (steps.take i)
    ((start files).run steps)[i]?.map (·.answer.tree?) = some (s.loadResolved path) := by
  intro s
  rw [getElem?_run, hstep]
  refine congrArg some (tree?_take_get fun key kept hkey hkept htime => ?_)
  obtain ⟨past, hmoments, hold⟩ := version_of_lookup files (steps.take i)
  have hprefix := moments_take_prefix (start files) steps i
  have hsteady' : Steady (past ++ [s.files]) := by
    rw [← hmoments]
    exact hsteady.sublist hprefix.sublist
  exact (hold _ kept hkept).treeAt_eq hsteady' hkey htime

/-- A universe file is written again with a later time, and its universe is got each time. -/
def rewriting : List Step :=
  [.write samplePath (sampleFile "One") (some 1000000000), .get samplePath,
    .write samplePath (sampleFile "Two") (some 2000000000), .get samplePath]

theorem steady_rewriting : Steady ((start (.ofHome [] 0)).moments rewriting) := by
  have hmoments : (start (.ofHome [] 0)).moments rewriting =
      [.ofHome [] 0, sampleFiles "One" 1, sampleFiles "One" 1, sampleFiles "Two" 2,
        sampleFiles "Two" 2] := by
    rw [moments_eq_scanl]
    cbv
  have hsame : ∀ t, TimesTell t t :=
    fun t p p' key content stamp _ _ hlook _ => ⟨stamp, hlook⟩
  have hempty : ∀ t, TimesTell (.ofHome [] 0) t :=
    fun t p p' key content stamp _ _ hlook => absurd hlook look?_ofHome
  have hlater : TimesTell (sampleFiles "One" 1) (sampleFiles "Two" 2) := by
    intro p p' key content stamp _ _ hlook htime
    obtain ⟨-, rfl⟩ := look?_sampleFiles hlook
    rcases timeOf_sampleFiles "Two" 2 key with h | h | h
    · exact absurd (h.symm.trans htime) (by decide)
    · exact absurd (h.symm.trans htime) (by decide)
    · exact absurd (h.symm.trans htime) (by decide)
  rw [hmoments, Steady]
  simp [hsame, hempty, hlater]

theorem get_eq_load_rewriting :
    Steady ((start (.ofHome [] 0)).moments rewriting) ∧
      rewriting[3]? = some (.get samplePath) ∧
      ((start (.ofHome [] 0)).run rewriting)[3]?.map (·.answer.tree?) =
        some (some (.ok (sampleTree "Two"))) := by
  refine ⟨steady_rewriting, rfl, ?_⟩
  have hfiles : ((start (.ofHome [] 0)).after (rewriting.take 3)).files = sampleFiles "Two" 2 := by
    rw [files_after]
    cbv
  have hkey : ((start (.ofHome [] 0)).after (rewriting.take 3)).files.resolve samplePath =
      .ok sampleKey := by
    rw [hfiles, resolve_sampleFiles]
  rw [get_eq_load _ _ 3 samplePath steady_rewriting rfl, loadResolved_of_resolve hkey, hfiles,
    treeAt_sampleKey_two]

end Session

/-- In these files at one moment after the other, new content always comes with a time that its
resolved path did not have before, and no file has the time of those that do not exist. -/
structure Renews (moments : List FileTree) : Prop where
  time : ∀ i t t', moments[i]? = some t → moments[i + 1]? = some t' → ∀ p key content stamp,
    t'.resolve p = .ok key → t'.look? key = some (.file content stamp) →
      (∀ stamp', t.look? key ≠ some (.file content stamp')) →
        ∀ j earlier, j ≤ i → moments[j]? = some earlier → timeOf earlier key ≠ stamp.seconds
  dated : ∀ t ∈ moments, ∀ p key content stamp,
    t.resolve p = .ok key → t.look? key = some (.file content stamp) → stamp.seconds ≠ missingTime

namespace Session

/-- A universe file is written again with a later time, and then gets its first time back. -/
def backdating : List Step :=
  [.write samplePath (sampleFile "One") (some 1000000000), .get samplePath,
    .write samplePath (sampleFile "Two") (some 2000000000), .touch samplePath 1000000000,
    .get samplePath]

theorem moments_backdating : (start (.ofHome [] 0)).moments backdating =
    [.ofHome [] 0, sampleFiles "One" 1, sampleFiles "One" 1, sampleFiles "Two" 2,
      sampleFiles "Two" 1, sampleFiles "Two" 1] := by
  rw [moments_eq_scanl]
  cbv

theorem renews_backdating : Renews ((start (.ofHome [] 0)).moments backdating) := by
  have hempty : ∀ p, timeOf (.ofHome [] 0) p ≠ Stamp.seconds (1 * 1000000000) ∧
      timeOf (.ofHome [] 0) p ≠ Stamp.seconds (2 * 1000000000) := by
    intro p
    rcases timeOf_ofHome p with h | h <;> rw [h] <;> decide
  have hone : ∀ p, timeOf (sampleFiles "One" 1) p ≠ Stamp.seconds (2 * 1000000000) := by
    intro p
    rcases timeOf_sampleFiles "One" 1 p with h | h | h <;> rw [h] <;> decide
  have htouch : (sampleFiles "Two" 2).touch samplePath 1000000000 = .ok (sampleFiles "Two" 1) := by
    cbv
  rw [moments_backdating]
  constructor
  · intro i t t' ht ht' p key content stamp _ hlook hnew j earlier hj hearlier
    obtain ⟨hlt, -⟩ := List.getElem?_eq_some_iff.mp ht'
    change i + 1 < 6 at hlt
    obtain rfl | rfl | rfl | rfl | rfl : i = 0 ∨ i = 1 ∨ i = 2 ∨ i = 3 ∨ i = 4 := by omega
    -- the first file
    · obtain rfl := Option.some.inj ht'
      obtain ⟨-, rfl⟩ := look?_sampleFiles hlook
      obtain rfl : j = 0 := by omega
      obtain rfl := Option.some.inj hearlier
      exact (hempty _).1
    · obtain rfl := Option.some.inj ht
      obtain rfl := Option.some.inj ht'
      exact absurd hlook (hnew stamp)
    -- the second file
    · obtain rfl := Option.some.inj ht'
      obtain ⟨-, rfl⟩ := look?_sampleFiles hlook
      obtain rfl | rfl | rfl : j = 0 ∨ j = 1 ∨ j = 2 := by omega
      · obtain rfl := Option.some.inj hearlier
        exact (hempty _).2
      · obtain rfl := Option.some.inj hearlier
        exact hone _
      · obtain rfl := Option.some.inj hearlier
        exact hone _
    -- only its time is new
    · obtain rfl := Option.some.inj ht
      obtain rfl := Option.some.inj ht'
      obtain ⟨old, hold⟩ := FileTree.look?_touch htouch hlook
      exact absurd hold (hnew old)
    · obtain rfl := Option.some.inj ht
      obtain rfl := Option.some.inj ht'
      exact absurd hlook (hnew stamp)
  · intro t ht p key content stamp _ hlook
    simp only [List.mem_cons, List.not_mem_nil, or_false] at ht
    rcases ht with rfl | rfl | rfl | rfl | rfl | rfl
    · exact absurd hlook look?_ofHome
    all_goals
      obtain ⟨-, rfl⟩ := look?_sampleFiles hlook
      decide

theorem files_backdating :
    ((start (.ofHome [] 0)).after (backdating.take 1)).files = sampleFiles "One" 1 ∧
      ((start (.ofHome [] 0)).after (backdating.take 4)).files = sampleFiles "Two" 1 := by
  rw [files_after, files_after]
  constructor <;> cbv

/-- The universe of the first file is kept until the end. -/
theorem lookup_backdating : ∃ u, u.root = sampleTree "One" ∧
    ((start (.ofHome [] 0)).after (backdating.take 4)).cache.lookup sampleKey =
      some ⟨Stamp.seconds (1 * 1000000000), u⟩ := by
  set s := (start (.ofHome [] 0)).after (backdating.take 1) with hs
  have hfiles : s.files = sampleFiles "One" 1 := files_backdating.1
  have hkey : s.files.resolve samplePath = .ok sampleKey := by
    rw [hfiles, resolve_sampleFiles]
  have hgot : (s.take (.get samplePath)).2.answer = .found ⟨s.loaded, sampleTree "One"⟩ := by
    refine answer_get_of_tree hkey ?_ ?_
    · rw [show s.cache = [] from cache_change _ _]
      rfl
    · rw [hfiles, treeAt_sampleKey_one]
  have hkept := lookup_take_get hkey hgot
  rw [hfiles, timeOf_sampleKey] at hkept
  refine ⟨⟨s.loaded, sampleTree "One"⟩, rfl, ?_⟩
  rw [← hkept]
  exact congrArg (List.lookup _) ((cache_change _ _).trans (cache_change _ _))

/-- New content with a new time is not enough for a get to be as good as loading: the universe that is
kept from the first time is taken for the file again. -/
theorem not_get_eq_load_of_renews :
    ¬∀ (files : FileTree) (steps : List Step) (i : Nat) (path : Path),
      Renews ((start files).moments steps) → steps[i]? = some (.get path) →
        let s := (start files).after (steps.take i)
        ((start files).run steps)[i]?.map (·.answer.tree?) = some (s.loadResolved path) := by
  intro hfresh
  have hkey : ((start (.ofHome [] 0)).after (backdating.take 4)).files.resolve samplePath =
      .ok sampleKey := by
    rw [files_backdating.2, resolve_sampleFiles]
  have hagree := hfresh (.ofHome [] 0) backdating 4 samplePath renews_backdating rfl
  dsimp only at hagree
  rw [loadResolved_of_resolve hkey, files_backdating.2, treeAt_sampleKey_two,
    getElem?_run] at hagree
  obtain ⟨u, hroot, hkept⟩ := lookup_backdating
  have hget : (((start (.ofHome [] 0)).after (backdating.take 4)).take
      (.get samplePath)).2.answer = .found u := by
    refine answer_get_of_kept hkey ?_
    rw [files_backdating.2, timeOf_sampleKey]
    exact hkept
  have hroots := (congrArg Answer.tree? hget).symm.trans (Option.some.inj hagree)
  rw [Answer.tree?, hroot] at hroots
  simp [sampleTree] at hroots

end Session

end DidYouMean.Universe
