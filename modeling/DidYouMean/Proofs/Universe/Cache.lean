import DidYouMean.Proofs.Files.Tree
import DidYouMean.Proofs.Traversal
import DidYouMean.Universe.Cache

/-!
# Operations of the universe cache

What each operation leaves under each path, and what getting a universe answers.

## Main definitions

- `resolvedTreeAt`: the tree in the file of a path that is resolved first

## Main statements

- `Cache.hit?_eq_some_iff`: a hit is an entry with the time of the file
- `Cache.get_of_resolve`, `Cache.get_of_linkLoop`: a path is resolved before anything else
- `Cache.result_getResolved`, `Cache.lookup_getResolved`: getting a universe
- `Cache.lookup_forget`: dropping that of one path
- `treeAt_eq_ok`: only a file can be loaded
-/

namespace DidYouMean.Universe

/-- The tree in the file of a path that is resolved first. -/
def resolvedTreeAt (files : FileTree) (path : Path) : Except LoadError NamespaceNode :=
  ((files.resolve path).mapError .linkLoop).bind (treeAt files)

theorem resolvedTreeAt_of_resolve {files : FileTree} {path key : Path}
    (h : files.resolve path = .ok key) : resolvedTreeAt files path = treeAt files key := by
  rw [resolvedTreeAt, h]
  rfl

theorem resolvedTreeAt_of_linkLoop {files : FileTree} {path : Path} {e : LinkLoop}
    (h : files.resolve path = .error e) : resolvedTreeAt files path = .error (.linkLoop e) := by
  rw [resolvedTreeAt, h]
  rfl

namespace Cache

variable {cache : Cache} {files : FileTree} {serial : Nat} {path key : Path} {u : Loaded}

theorem hit?_eq_some_iff : cache.hit? files key = some u ↔
    cache.lookup key = some ⟨timeOf files key, u⟩ := by
  rw [hit?]
  cases cache.lookup key with
  | none => simp
  | some kept =>
    obtain ⟨time, loaded⟩ := kept
    by_cases htime : time = timeOf files key <;> simp [htime]

theorem lookup_keep (cache : Cache) (key : Path) (kept : Kept) (k : Path) :
    (cache.keep key kept).lookup k = if k = key then some kept else cache.lookup k := by
  rw [keep, List.lookup_cons, lookup_filter_ne]
  by_cases hk : k = key
  · simp [hk]
  · simp [hk, beq_false_of_ne hk]

theorem lookup_forget {cache' : Cache} (h : cache.forget files path = .ok cache') (k : Path) :
    ∃ key, files.resolve path = .ok key ∧
      cache'.lookup k = if k = key then none else cache.lookup k := by
  obtain ⟨key, hkey, rfl⟩ := map_eq_ok_iff.mp h
  refine ⟨key, hkey, ?_⟩
  rw [lookup_filter_ne]
  by_cases hk : k = key <;> simp [hk]

theorem get_of_resolve (h : files.resolve path = .ok key) :
    cache.get files serial path = cache.getResolved files serial key := by
  rw [get, h]

/-- Without a resolved path, nothing is got and the cache stays as it is. -/
theorem get_of_linkLoop {e : LinkLoop} (h : files.resolve path = .error e) :
    cache.get files serial path = (cache, ⟨[], .error (.linkLoop e)⟩) := by
  rw [get, h]

/-- Getting a universe answers with the one that is kept, or else with what loading the resolved path
gives. -/
theorem result_getResolved (cache : Cache) (files : FileTree) (serial : Nat) (key : Path) :
    (cache.getResolved files serial key).2.result =
      match cache.hit? files key with
      | some u => .ok u
      | none => (load files serial key).result := by
  rw [getResolved]
  cases cache.hit? files key with
  | some u => rfl
  | none =>
    dsimp only
    split <;> simp [*]

theorem result_get_of_resolve (h : files.resolve path = .ok key) :
    (cache.get files serial path).2.result =
      match cache.hit? files key with
      | some u => .ok u
      | none => (load files serial key).result := by
  rw [get_of_resolve h, result_getResolved]

/-- As long as nothing is kept, getting a universe is loading it. -/
theorem result_get_nil (files : FileTree) (serial : Nat) (path : Path) :
    (get [] files serial path).2.result = (resolvedTreeAt files path).map (⟨serial, ·⟩) := by
  cases hkey : files.resolve path with
  | error loop =>
    rw [get_of_linkLoop hkey, resolvedTreeAt_of_linkLoop hkey]
    rfl
  | ok key =>
    rw [result_get_of_resolve hkey, resolvedTreeAt_of_resolve hkey]
    rfl

/-- Getting a universe keeps it under the resolved path with the time of its file.  Failing to get one
leaves the cache as it was, and so do the entries of all other paths. -/
theorem lookup_getResolved (cache : Cache) (files : FileTree) (serial : Nat) (key k : Path) :
    (cache.getResolved files serial key).1.lookup k =
      if k = key then
        match (cache.getResolved files serial key).2.result with
        | .ok u => some ⟨timeOf files key, u⟩
        | .error _ => cache.lookup k
      else cache.lookup k := by
  rw [result_getResolved, getResolved]
  cases hhit : cache.hit? files key with
  | some u =>
    dsimp only
    by_cases hk : k = key
    · rw [if_pos hk, hk, hit?_eq_some_iff.mp hhit]
    · rw [if_neg hk]
  | none =>
    dsimp only
    cases (load files serial key).result with
    | error e => simp
    | ok u => exact lookup_keep cache _ _ k

end Cache

section Loading

variable {files : FileTree} {path : Path} {root : NamespaceNode}

/-- Only a file can be loaded, and its content alone decides what it gives. -/
theorem treeAt_eq_ok (h : treeAt files path = .ok root) :
    ∃ content stamp, files.look? path = some (.file content stamp) ∧
      treeOfBytes content.toBytes = .ok root := by
  rw [treeAt] at h
  split at h
  · cases h
  · cases hread : files.read path with
    | error e => simp [hread] at h
    | ok content =>
      obtain ⟨stamp, hlook⟩ := FileTree.read_eq_ok_iff.mp hread
      rw [hread] at h
      exact ⟨content, stamp, hlook, h⟩

theorem treeAt_of_file {content : Content} {stamp : Stamp}
    (h : files.look? path = some (.file content stamp)) :
    treeAt files path = treeOfBytes content.toBytes := by
  have hread : files.read path = .ok content := FileTree.read_eq_ok_iff.mpr ⟨stamp, h⟩
  simp [treeAt, h, hread]

theorem treeAt_of_missing (h : files.look? path = none) :
    treeAt files path = .error (.notFound path) := by
  simp [treeAt, h]

theorem timeOf_of_stamp? {stamp : Stamp} (h : files.stamp? path = some stamp) :
    timeOf files path = stamp.seconds := by
  rw [timeOf, h]

theorem timeOf_of_file {content : Content} {stamp : Stamp}
    (h : files.look? path = some (.file content stamp)) : timeOf files path = stamp.seconds :=
  timeOf_of_stamp? (by rw [FileTree.stamp?, h]; rfl)

theorem timeOf_of_missing (h : files.look? path = none) : timeOf files path = missingTime := by
  simp [timeOf, FileTree.stamp?, h]

/-- A path has the time of something in the tree, or that of a file that does not exist. -/
theorem timeOf_cases (files : FileTree) (path : Path) : timeOf files path = missingTime ∨
    ∃ place entry stamp, (place, entry) ∈ files.entries ∧ entry.stamp? = some stamp ∧
      timeOf files path = stamp.seconds := by
  cases hlook : files.look? path with
  | none => exact .inl (timeOf_of_missing hlook)
  | some entry =>
    obtain ⟨place, hmem⟩ := FileTree.exists_mem_of_look? hlook
    cases hstamp : entry.stamp? with
    | none => exact .inl (by simp [timeOf, FileTree.stamp?, hlook, hstamp])
    | some stamp =>
      refine .inr ⟨place, entry, stamp, hmem, hstamp, timeOf_of_stamp? ?_⟩
      rw [FileTree.stamp?, hlook]
      exact hstamp

end Loading

end DidYouMean.Universe
