import DidYouMean.Proofs.Universe.Session

/-!
# When a universe is found again

Two gets of one path find the same universe if and only if the file has the same time at both, and
what was kept of it was not dropped in between.

## Main definitions

- `Session.FindsAt`, `Session.DropsAt`, `Session.timeAt`: what happens at a step of a run

## Main statements

- `Session.lookup_since_found`: what is kept for a path until it is got again
- `Session.found_again_iff`: when the universe that is got again is the same
-/

namespace DidYouMean.Universe

namespace Session

/-- At this step a run gets the universe of a resolved path, and finds it. -/
def FindsAt (s : Session) (steps : List Step) (key : Path) (i : Nat) (u : Loaded) : Prop :=
  ∃ path, steps[i]? = some (.get path) ∧ (s.after (steps.take i)).files.resolve path = .ok key ∧
    (s.run steps)[i]?.map (·.answer) = some (.found u)

/-- At this step a run drops what is kept for a resolved path. -/
def DropsAt (s : Session) (steps : List Step) (key : Path) (i : Nat) : Prop :=
  ∃ step, steps[i]? = some step ∧ (s.after (steps.take i)).Drops key step

/-- The time of the file of a resolved path when a run comes to a step.  A file that does not exist
has a time, too. -/
def timeAt (s : Session) (steps : List Step) (key : Path) (i : Nat) : Float :=
  timeOf (s.after (steps.take i)).files key

section Serials

variable {s : Session} {key : Path} {u : Loaded} {step : Step}

theorem loaded_change (s : Session) (result : Except FileError FileTree) :
    (s.change result).1.loaded = s.loaded := by
  cases result <;> rfl

theorem loaded_drop (s : Session) (result : Except LinkLoop Cache) :
    (s.drop result).1.loaded = s.loaded := by
  cases result <;> rfl

theorem loaded_le_take (s : Session) (step : Step) : s.loaded ≤ (s.take step).1.loaded := by
  have hcount : ∀ result, s.loaded ≤ s.countLoaded result := by
    intro result
    cases result with
    | ok u => exact Nat.le_max_left _ _
    | error e => exact Nat.le_refl _
  cases step with
  | write | makeFolder | touch | delete | link => exact Nat.le_of_eq (loaded_change s _).symm
  | clear => exact Nat.le_refl _
  | forget => exact Nat.le_of_eq (loaded_drop s _).symm
  | get path => exact hcount _
  | load path => exact hcount _

/-- The serial number of a universe that was obtained is taken from then on. -/
theorem Obtains.serial_lt (h : s.Obtains key u step) : u.serial < (s.take step).1.loaded := by
  obtain ⟨path, rfl, -, hanswer⟩ := h
  have hloaded : (s.take (.get path)).1.loaded =
      s.countLoaded (s.cache.get s.files s.loaded path).2.result := rfl
  rw [hloaded, answer_get_eq_found.mp hanswer, countLoaded]
  omega

end Serials

section Runs

variable {s : Session} {steps : List Step} {key : Path} {u : Loaded} {i j : Nat}

theorem after_take_succ {step : Step} (hi : steps[i]? = some step) :
    s.after (steps.take (i + 1)) = ((s.after (steps.take i)).take step).1 := by
  rw [List.take_add_one, hi, Option.toList_some, after_append_singleton]

/-- The number of universes loaded does not fall. -/
theorem loaded_le_after (hij : i ≤ j) :
    (s.after (steps.take i)).loaded ≤ (s.after (steps.take j)).loaded := by
  induction j, hij using Nat.le_induction with
  | base => exact Nat.le_refl _
  | succ j _ ih =>
    cases hj : steps[j]? with
    | none =>
      have hlength := List.getElem?_eq_none_iff.mp hj
      rw [List.take_of_length_le hlength] at ih
      have hlength' : steps.length ≤ j + 1 := by omega
      rwa [List.take_of_length_le hlength']
    | some step =>
      rw [after_take_succ hj]
      exact Nat.le_trans ih (loaded_le_take _ step)

theorem findsAt_iff : s.FindsAt steps key i u ↔
    ∃ step, steps[i]? = some step ∧ (s.after (steps.take i)).Obtains key u step := by
  rw [FindsAt, getElem?_run]
  constructor
  · rintro ⟨path, hi, hkey, hanswer⟩
    rw [hi] at hanswer
    exact ⟨_, hi, path, rfl, hkey, Option.some.inj hanswer⟩
  · rintro ⟨step, hi, path, rfl, hkey, hanswer⟩
    refine ⟨path, hi, hkey, ?_⟩
    rw [hi]
    exact congrArg some hanswer

/-- From the step that finds a universe on, it is kept with the time of its file until it is dropped;
after that, nothing is kept until one is found again. -/
theorem lookup_since_found (hfirst : s.FindsAt steps key i u) (hend : j ≤ steps.length)
    (hnone : ∀ m w, i < m → m < j → ¬s.FindsAt steps key m w) (hij : i + 1 ≤ j) :
    (∀ m, i < m → m < j → ¬s.DropsAt steps key m) ∧
        (s.after (steps.take j)).cache.lookup key = some ⟨s.timeAt steps key i, u⟩ ∨
      (∃ m, i < m ∧ m < j ∧ s.DropsAt steps key m) ∧
        (s.after (steps.take j)).cache.lookup key = none := by
  induction j, hij using Nat.le_induction with
  | base =>
    obtain ⟨step, hi, path, rfl, hkey, hanswer⟩ := findsAt_iff.mp hfirst
    refine .inl ⟨fun m him hm => by omega, ?_⟩
    rw [after_take_succ hi]
    exact lookup_take_get hkey hanswer
  | succ j hij ih =>
    have hold := ih (by omega) fun m w him hm => hnone m w him (by omega)
    have hstep : steps[j]? = some steps[j] := List.getElem?_eq_getElem (by omega)
    have hearlier : ∀ m, m < j + 1 → m < j ∨ m = j := fun m hm => by omega
    rw [after_take_succ hstep]
    rcases (s.after (steps.take j)).lookup_take key steps[j] with
      ⟨hdrops, hlook⟩ | ⟨w, hobtains, -⟩ | ⟨hdrops, -, hlook⟩
    · exact .inr ⟨⟨j, by omega, by omega, steps[j], hstep, hdrops⟩, hlook⟩
    · exact absurd (findsAt_iff.mpr ⟨_, hstep, hobtains⟩) (hnone j w (by omega) (by omega))
    · rw [hlook]
      refine hold.imp (fun ⟨hkeeps, hsame⟩ => ⟨fun m him hm => ?_, hsame⟩)
        fun ⟨⟨m, him, hm, hdropped⟩, hgone⟩ => ⟨⟨m, him, by omega, hdropped⟩, hgone⟩
      rcases hearlier m hm with hm | rfl
      · exact hkeeps m him hm
      · rintro ⟨step, hm, hstepDrops⟩
        obtain rfl := Option.some.inj (hstep.symm.trans hm)
        exact hdrops hstepDrops

/-- Of two gets that find a universe of one path, with no such get in between, the second one finds the
same universe if and only if the file has the same time at both and what was kept of it was not
dropped in between. -/
theorem found_again_iff (files : FileTree) (steps : List Step) (key : Path) {i j : Nat}
    {u v : Loaded} (hij : i < j) (hfirst : (start files).FindsAt steps key i u)
    (hsecond : (start files).FindsAt steps key j v)
    (hnone : ∀ m w, i < m → m < j → ¬(start files).FindsAt steps key m w) :
    (v.serial = u.serial ↔
      (start files).timeAt steps key i = (start files).timeAt steps key j ∧
        ∀ m, i < m → m < j → ¬(start files).DropsAt steps key m) ∧
    (v.serial = u.serial → v = u) := by
  obtain ⟨step, hi, hobtained⟩ := findsAt_iff.mp hfirst
  obtain ⟨step', hj, hobtains⟩ := findsAt_iff.mp hsecond
  obtain ⟨hlength, -⟩ := List.getElem?_eq_some_iff.mp hj
  set now := (start files).after (steps.take j) with hnow
  -- a universe that is loaded at the second get has a serial number that was not taken at the first
  have htaken : u.serial < now.loaded := by
    have hthen := hobtained.serial_lt
    rw [← after_take_succ hi] at hthen
    exact Nat.lt_of_lt_of_le hthen (loaded_le_after hij)
  rcases lookup_since_found hfirst hlength.le hnone hij with
    ⟨hkeeps, hlook⟩ | ⟨hdropped, hlook⟩
  · rcases hobtains.kept_or_loaded with hkept | ⟨hmiss, -, hserial⟩
    · obtain ⟨htime, rfl⟩ := Kept.mk.inj (Option.some.inj (hlook.symm.trans hkept))
      exact ⟨iff_of_true rfl ⟨htime, hkeeps⟩, fun _ => rfl⟩
    · have hother : (start files).timeAt steps key i ≠ (start files).timeAt steps key j := by
        intro htime
        rw [htime] at hlook
        rw [Cache.hit?_eq_some_iff.mpr hlook] at hmiss
        cases hmiss
      have hne : v.serial ≠ u.serial := by omega
      exact ⟨iff_of_false hne fun h => hother h.1, fun h => absurd h hne⟩
  · rcases hobtains.kept_or_loaded with hkept | ⟨-, -, hserial⟩
    · rw [← hnow] at hlook
      rw [hlook] at hkept
      cases hkept
    · have hne : v.serial ≠ u.serial := by omega
      obtain ⟨m, him, hmj, hdrops⟩ := hdropped
      exact ⟨iff_of_false hne fun h => h.2 m him hmj hdrops, fun h => absurd h hne⟩

/-- A universe file is deleted once its universe was got, and then it is written again with its old
time.  In between there is a link to itself in its place, and so the universe cannot be dropped. -/
def restoring : List Step :=
  [.write samplePath (sampleFile "One") (some 1000000000), .get samplePath, .delete samplePath,
    .get samplePath, .load samplePath, .link samplePath samplePath, .forget samplePath,
    .get samplePath, .delete samplePath, .write samplePath (sampleFile "One") (some 1000000000),
    .get samplePath]

/-- The link in the place of the file. -/
def loopFiles : FileTree :=
  ⟨[(["u.json"], .link samplePath), ([], .folder 0)], [], 1⟩

theorem resolve_loopFiles : loopFiles.resolve samplePath = .error ⟨sampleKey⟩ := by
  cbv

theorem files_restoring :
    ((start (.ofHome [] 0)).after (restoring.take 1)).files = sampleFiles "One" 1 ∧
      ((start (.ofHome [] 0)).after (restoring.take 3)).files = .ofHome [] 0 ∧
        ((start (.ofHome [] 0)).after (restoring.take 6)).files = loopFiles ∧
          ((start (.ofHome [] 0)).after (restoring.take 7)).files = loopFiles ∧
            ((start (.ofHome [] 0)).after (restoring.take 10)).files = sampleFiles "One" 1 := by
  simp only [files_after]
  refine ⟨?_, ?_, ?_, ?_, ?_⟩ <;> cbv

/-- The first get of this run finds the universe of the file. -/
theorem findsAt_restoring :
    (start (.ofHome [] 0)).FindsAt restoring sampleKey 1 ⟨0, sampleTree "One"⟩ := by
  set s := (start (.ofHome [] 0)).after (restoring.take 1) with hs
  have hfiles : s.files = sampleFiles "One" 1 := files_restoring.1
  have hloaded : s.loaded = 0 := loaded_change _ _
  have hkey : s.files.resolve samplePath = .ok sampleKey := by
    rw [hfiles, resolve_sampleFiles]
  refine findsAt_iff.mpr ⟨_, rfl, samplePath, rfl, hkey, ?_⟩
  rw [← hs, ← hloaded]
  refine answer_get_of_tree hkey ?_ ?_
  · rw [show s.cache = [] from cache_change _ _]
    rfl
  · rw [hfiles, treeAt_sampleKey_one]

/-- The only step that is to drop the universe fails. -/
theorem not_dropsAt_restoring (m : Nat) : ¬(start (.ofHome [] 0)).DropsAt restoring sampleKey m := by
  rintro ⟨step, hstep, hdrops⟩
  obtain ⟨hlt, -⟩ := List.getElem?_eq_some_iff.mp hstep
  obtain rfl | hm := eq_or_ne m 6
  · obtain rfl := Option.some.inj hstep
    simp [Drops, files_restoring.2.2.1, resolve_loopFiles] at hdrops
  · change m < 11 at hlt
    interval_cases m <;> obtain rfl := Option.some.inj hstep <;> simp [Drops] at hdrops hm

/-- As long as no other universe is found, that of the file is kept. -/
theorem lookup_restoring {j : Nat} (hij : 2 ≤ j) (hend : j ≤ 11)
    (hnone : ∀ m w, 1 < m → m < j → ¬(start (.ofHome [] 0)).FindsAt restoring sampleKey m w) :
    ((start (.ofHome [] 0)).after (restoring.take j)).cache.lookup sampleKey =
      some ⟨Stamp.seconds (1 * 1000000000), ⟨0, sampleTree "One"⟩⟩ := by
  rcases lookup_since_found findsAt_restoring hend hnone hij with
    ⟨-, hlook⟩ | ⟨⟨m, -, -, hdrops⟩, -⟩
  · rw [hlook, timeAt, files_restoring.1, timeOf_sampleKey]
  · exact absurd hdrops (not_dropsAt_restoring m)

/-- Of the steps in between, two get the universe.  The file is gone at one of them, and at the other one
the path cannot be resolved. -/
theorem not_findsAt_restoring (m : Nat) (w : Loaded) (him : 1 < m) (hm : m < 10) :
    ¬(start (.ofHome [] 0)).FindsAt restoring sampleKey m w := by
  intro hfinds
  have hgets : ∀ n w, (start (.ofHome [] 0)).FindsAt restoring sampleKey n w → n < 10 →
      n = 1 ∨ n = 3 ∨ n = 7 := by
    rintro n w ⟨path, hstep, -⟩ hn
    interval_cases n <;> simp [restoring] at hstep ⊢
  obtain rfl | rfl | rfl := hgets m w hfinds hm
  · omega
  · have hlook := lookup_restoring (j := 3) (by omega) (by omega) fun n w hn hn' hfinds => by
      have hget := hgets n w hfinds (by omega)
      omega
    obtain ⟨step, hstep', hobtains⟩ := findsAt_iff.mp hfinds
    have hmissing : timeOf ((start (.ofHome [] 0)).after (restoring.take 3)).files sampleKey =
        missingTime := by
      rw [files_restoring.2.1, timeOf_of_missing look?_ofHome_sampleKey]
    rcases hobtains.source with hkept | htree
    · rw [hlook, hmissing] at hkept
      have htime : Stamp.seconds (1 * 1000000000) = missingTime :=
        congrArg Kept.time (Option.some.inj hkept)
      exact absurd htime (by decide)
    · rw [files_restoring.2.1, treeAt_of_missing look?_ofHome_sampleKey] at htree
      cases htree
  · obtain ⟨path, hstep, hkey, -⟩ := hfinds
    obtain rfl := Step.get.inj (Option.some.inj hstep)
    rw [files_restoring.2.2.2.1, resolve_loopFiles] at hkey
    cases hkey

/-- A get that fails, a load that fails, a link that leads into itself, and a time that returns. -/
theorem found_again_iff_restoring :
    let s := start (.ofHome [] 0)
    ∃ u v, s.FindsAt restoring sampleKey 1 u ∧ s.FindsAt restoring sampleKey 10 v ∧
      (∀ m w, 1 < m → m < 10 → ¬s.FindsAt restoring sampleKey m w) ∧
      (s.run restoring)[6]?.map (·.answer) = some (.linkLoop ⟨sampleKey⟩) ∧ v = u := by
  intro s
  have hlook := lookup_restoring (j := 10) (by omega) (by omega) not_findsAt_restoring
  have hfiles := files_restoring.2.2.2.2
  have hkey : (s.after (restoring.take 10)).files.resolve samplePath = .ok sampleKey := by
    rw [hfiles, resolve_sampleFiles]
  have hsecond : s.FindsAt restoring sampleKey 10 ⟨0, sampleTree "One"⟩ := by
    refine findsAt_iff.mpr ⟨_, rfl, samplePath, rfl, hkey, answer_get_of_kept hkey ?_⟩
    rw [hfiles, timeOf_sampleKey, hlook]
  have hfailed : (s.run restoring)[6]?.map (·.answer) = some (.linkLoop ⟨sampleKey⟩) := by
    have hloop : (s.after (restoring.take 6)).files.resolve samplePath = .error ⟨sampleKey⟩ := by
      rw [files_restoring.2.2.1, resolve_loopFiles]
    have hforget : (s.after (restoring.take 6)).cache.forget (s.after (restoring.take 6)).files
        samplePath = .error ⟨sampleKey⟩ := map_eq_error_iff.mpr hloop
    rw [getElem?_run]
    exact congrArg (fun result => some ((s.after (restoring.take 6)).drop result).2.answer) hforget
  obtain ⟨hsame, heq⟩ := found_again_iff (.ofHome [] 0) restoring sampleKey (by decide)
    findsAt_restoring hsecond not_findsAt_restoring
  refine ⟨_, _, findsAt_restoring, hsecond, not_findsAt_restoring, hfailed, heq (hsame.mpr ⟨?_, ?_⟩)⟩
  · rw [timeAt, timeAt, files_restoring.1, hfiles]
  · exact fun m _ _ => not_dropsAt_restoring m

end Runs

end Session

end DidYouMean.Universe
