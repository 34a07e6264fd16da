import DidYouMean.Files.Tree
import Mathlib

/-!
# Looking up paths in a file tree

## Main definitions

- `FileTree.SameButTimes`: two trees with the same files, folders and links

## Main statements

- `FileTree.exists_mem_of_look?`: what a path leads to is in the tree
- `FileTree.read_eq_ok_iff`: only a file can be read
- `FileTree.look?_of_home_nil`, `resolve_of_home_nil`: a file is found by its name
- `FileTree.SameButTimes.follow_eq`: times do not matter to where paths lead
- `FileTree.look?_touch`: a change of times changes no content
-/

namespace DidYouMean

/-- Entries of other keys are found as before when those of one key are taken out. -/
theorem lookup_filter_ne {κ β : Type} [BEq κ] [LawfulBEq κ] (entries : List (κ × β)) (key k : κ) :
    (entries.filter (·.1 != key)).lookup k = if k == key then none else entries.lookup k := by
  induction entries with
  | nil => simp
  | cons e entries ih =>
    by_cases hkey : e.1 = key
    · rw [List.filter_cons_of_neg (by simp [hkey]), ih, List.lookup_cons, hkey]
      by_cases hk : k = key
      · simp [hk]
      · simp [beq_false_of_ne hk]
    · rw [List.filter_cons_of_pos (by simp [hkey]), List.lookup_cons, List.lookup_cons, ih]
      by_cases hk : k = e.1
      · simp [hk, beq_false_of_ne hkey]
      · simp [beq_false_of_ne hk]

@[simp]
theorem Entry.restamp_restamp (a b : Stamp) (e : Entry) : (e.restamp a).restamp b = e.restamp b := by
  cases e <;> rfl

theorem Entry.restamp_eq_file {a b : Stamp} {content : Content} {e : Entry}
    (h : e.restamp a = .file content b) : ∃ stamp, e = .file content stamp := by
  cases e with
  | file content' stamp =>
    obtain ⟨rfl, -⟩ := Entry.file.inj h
    exact ⟨stamp, rfl⟩
  | folder stamp => cases h
  | link target => cases h

theorem Entry.restamp_eq_link {a : Stamp} {target : Path} {e : Entry} :
    e.restamp a = .link target ↔ e = .link target := by
  cases e <;> simp [restamp]

namespace FileTree

variable {t t' : FileTree} {p q : Path} {place : Place} {entry : Entry}

theorem look?_eq_some_iff : t.look? p = some entry ↔
    ∃ place, t.followPath p = .ok place ∧ t.entry? place = some entry := by
  rw [look?]
  cases t.followPath p <;> simp

/-- What a path leads to is at some place of the tree. -/
theorem exists_mem_of_look? (h : t.look? p = some entry) :
    ∃ place, (place, entry) ∈ t.entries := by
  obtain ⟨place, -, hentry⟩ := look?_eq_some_iff.mp h
  obtain ⟨before, after, hentries, -⟩ := List.lookup_eq_some_iff.mp hentry
  exact ⟨place, hentries ▸ List.mem_append_right _ List.mem_cons_self⟩

/-- Only a file can be read. -/
theorem read_eq_ok_iff {content : Content} : t.read p = .ok content ↔
    ∃ stamp, t.look? p = some (.file content stamp) := by
  rw [read, look?]
  cases t.followPath p with
  | error obstacle => simp
  | ok place =>
    dsimp only
    rcases t.entry? place with _ | (_ | _ | _) <;> simp

theorem obstacle?_eq_none_iff : t.obstacle? place = none ↔ t.isFolder place := by
  rw [obstacle?, isFolder]
  rcases t.entry? place with _ | (_ | _ | _) <;> simp

/-- A name that is no link leads to its own place. -/
theorem follow_cons {links : Nat} {name : String} {rest : List String}
    (hfolder : t.obstacle? place = none) (hname : name ≠ "..")
    (hlink : ∀ target, t.entry? (place ++ [name]) ≠ some (.link target)) :
    t.follow links place (name :: rest) = t.follow links (place ++ [name]) rest := by
  rw [follow.eq_def]
  simp only [hfolder, if_neg hname]
  split
  · exact absurd ‹_› (hlink _)
  · exact absurd ‹_› (hlink _)
  · rfl

section RootFolder

variable {root name : String}

/-- A name in the root folder is followed to its place, if that is the working directory and there is
no link. -/
theorem followPath_of_home_nil (hhome : t.home = []) (hfolder : t.isFolder [])
    (hlink : ∀ target, t.entry? [name] ≠ some (.link target)) (hname : name ≠ "..") :
    t.followPath ⟨root, [name]⟩ = .ok [name] := by
  have hstart : t.obstacle? [] = none := obstacle?_eq_none_iff.mpr hfolder
  rw [followPath, hhome, ite_self, follow_cons hstart hname hlink, follow, List.nil_append]

/-- A file in the root folder is found by its name, if that is the working directory. -/
theorem look?_of_home_nil {content : Content} {stamp : Stamp} (hhome : t.home = [])
    (hfolder : t.isFolder []) (hentry : t.entry? [name] = some (.file content stamp))
    (hname : name ≠ "..") : t.look? ⟨root, [name]⟩ = some (.file content stamp) := by
  refine look?_eq_some_iff.mpr ⟨[name], followPath_of_home_nil hhome hfolder ?_ hname, hentry⟩
  simp [hentry]

/-- A name in the root folder is resolved to itself, if that is the working directory and there is no
link. -/
theorem resolve_of_home_nil (hhome : t.home = []) (hfolder : t.isFolder [])
    (hlink : ∀ target, t.entry? [name] ≠ some (.link target)) (hname : name ≠ "..") :
    t.resolve ⟨"", [name]⟩ = .ok (.ofPlace [name]) := by
  have hplain : t.plainPlace ⟨"", [name]⟩ = [name] := by
    simp [plainPlace, hhome, hname]
  have hreach : t.resolveFrom t.depthLimit [] ⟨"", []⟩ [name] = (⟨"", [name]⟩, true) := by
    rw [resolveFrom.eq_def]
    simp only [if_neg hname, Path.enter, List.nil_append, hplain]
    split
    · exact absurd ‹_› (hlink _)
    · exact absurd ‹_› (hlink _)
    · rw [resolveFrom]
  have hbase : Path.base ⟨"", [name]⟩ = ⟨"", []⟩ := rfl
  have hfollow : t.followPath (.ofPlace [name]) = .ok [name] :=
    followPath_of_home_nil hhome hfolder hlink hname
  rw [resolve, hbase, hreach, hplain, hfollow]

end RootFolder

theorem lookup_put (t : FileTree) (place : Place) (entry : Entry) (place' : Place) :
    FileTree.entry? (t.put place entry) place' = if place' = place then some entry else t.entry? place' := by
  unfold entry? put
  rw [List.lookup_cons, lookup_filter_ne]
  by_cases hplace : place' = place
  · simp [hplace]
  · simp [hplace, beq_false_of_ne hplace]

/-- Two trees have the same files, folders and links, and may differ in when they were changed. -/
def SameButTimes (t t' : FileTree) : Prop :=
  ∀ place, (t.entry? place).map (Entry.restamp 0) = (t'.entry? place).map (Entry.restamp 0)

namespace SameButTimes

theorem isSome_eq (h : t.SameButTimes t') (place : Place) :
    (t.entry? place).isSome = (t'.entry? place).isSome := by
  simpa only [Option.isSome_map] using congrArg Option.isSome (h place)

theorem isFolder_eq (h : t.SameButTimes t') (place : Place) :
    t.isFolder place = t'.isFolder place := by
  have hfolder : ∀ t : FileTree, t.isFolder place ↔
      (t.entry? place).map (Entry.restamp 0) = some (.folder 0) := by
    intro t
    rw [isFolder]
    rcases t.entry? place with _ | (_ | _ | _) <;> simp [Entry.restamp]
  rw [Bool.eq_iff_iff, hfolder, hfolder, h place]

theorem link_iff (h : t.SameButTimes t') {target : Path} :
    t.entry? place = some (.link target) ↔ t'.entry? place = some (.link target) := by
  have hlink : ∀ t : FileTree, t.entry? place = some (.link target) ↔
      (t.entry? place).map (Entry.restamp 0) = some (.link target) := by
    intro t
    cases t.entry? place <;> simp [Entry.restamp_eq_link]
  rw [hlink, hlink, h place]

theorem obstacle?_eq (h : t.SameButTimes t') (place : Place) :
    t.obstacle? place = t'.obstacle? place := by
  have hobstacle : ∀ t : FileTree, t.obstacle? place =
      if t.isFolder place then none
      else some (if (t.entry? place).isSome then .notFolder else .missing) := by
    intro t
    rw [obstacle?, isFolder]
    rcases t.entry? place with _ | (_ | _ | _) <;> simp
  rw [hobstacle, hobstacle, h.isFolder_eq, h.isSome_eq]

/-- Where names lead depends on the files, folders and links alone. -/
theorem follow_eq (h : t.SameButTimes t') (links : Nat) (here : Place) (names : List String) :
    t.follow links here names = t'.follow links here names := by
  -- the cases are no name, an obstacle, a double dot, a link too many, a link, and any other name
  induction links, here, names using follow.induct t with
  | case1 links here => rw [follow, follow]
  | case2 links here name rest obstacle hobstacle =>
    have hobstacle' := h.obstacle?_eq here ▸ hobstacle
    rw [follow.eq_def, follow.eq_def]
    simp only [hobstacle, hobstacle']
  | case3 links here rest hobstacle ih =>
    have hobstacle' := h.obstacle?_eq here ▸ hobstacle
    rw [follow.eq_def, follow.eq_def t']
    simp only [hobstacle, hobstacle', if_true]
    exact ih
  | case4 here name rest hobstacle hname target hlink =>
    have hobstacle' := h.obstacle?_eq here ▸ hobstacle
    rw [follow.eq_def, follow.eq_def]
    simp only [hobstacle, hobstacle', if_neg hname, hlink, h.link_iff.mp hlink]
  | case5 here name rest hobstacle hname links target hlink ih =>
    have hobstacle' := h.obstacle?_eq here ▸ hobstacle
    rw [follow.eq_def, follow.eq_def t']
    simp only [hobstacle, hobstacle', if_neg hname, hlink, h.link_iff.mp hlink]
    exact ih
  | case6 here name rest hobstacle hname links hnone hsome ih =>
    have hobstacle' := h.obstacle?_eq here ▸ hobstacle
    have hlink : ∀ target, t.entry? (here ++ [name]) ≠ some (.link target) := by
      intro target hlink
      cases links with
      | zero => exact hnone target rfl hlink
      | succ links => exact hsome links target rfl hlink
    rw [follow_cons hobstacle hname hlink, ih, follow_cons hobstacle' hname]
    exact fun target hlink' => hlink target (h.link_iff.mpr hlink')

theorem followPath_eq (h : t.SameButTimes t') (hhome : t.home = t'.home) (p : Path) :
    t.followPath p = t'.followPath p := by
  rw [followPath, followPath, hhome, h.follow_eq]

theorem map_look? (h : t.SameButTimes t') (hhome : t.home = t'.home) (p : Path) :
    (t.look? p).map (Entry.restamp 0) = (t'.look? p).map (Entry.restamp 0) := by
  rw [look?, look?, h.followPath_eq hhome]
  cases t'.followPath p with
  | error obstacle => rfl
  | ok place => exact h place

end SameButTimes

theorem sameButTimes_touch {stamp : Stamp} (h : t.touch p stamp = .ok t') :
    t.SameButTimes t' ∧ t.home = t'.home := by
  rw [touch] at h
  cases hplace : t.followPath p with
  | error obstacle => simp [hplace] at h
  | ok place =>
    cases hentry : t.entry? place with
    | none => simp [hplace, hentry] at h
    | some entry =>
      simp only [hplace, hentry, Except.ok.injEq] at h
      obtain rfl := h
      refine ⟨fun place' => ?_, rfl⟩
      rw [lookup_put]
      by_cases hsame : place' = place
      · rw [if_pos hsame, hsame, hentry]
        simp
      · rw [if_neg hsame]

/-- A change of times changes no content. -/
theorem look?_touch {stamp stamp' : Stamp} {content : Content} (h : t.touch p stamp = .ok t')
    (hlook : t'.look? q = some (.file content stamp')) :
    ∃ old, t.look? q = some (.file content old) := by
  obtain ⟨hsame, hhome⟩ := sameButTimes_touch h
  have hq := hsame.map_look? hhome q
  rw [hlook] at hq
  obtain ⟨entry, hentry, hfile⟩ := Option.map_eq_some_iff.mp hq
  obtain ⟨old, rfl⟩ := Entry.restamp_eq_file hfile
  exact ⟨old, hentry⟩

end FileTree

end DidYouMean
