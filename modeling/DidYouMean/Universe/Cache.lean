import DidYouMean.Universe.Load
import DidYouMean.Universe.Walk

/-!
# The universe cache

Universes that were loaded once are kept, each under the resolved path of its file together with
the time of the file's last change.  As long as that time stays the same, the universe is not loaded
again.

## Main definitions

- `Loaded`: a loaded universe, told apart from others by its serial number
- `Cache`: the universes that are kept
- `Cache.get`: the universe of a path, from the cache or loaded
- `Cache.getResolved`: the same for a path that is resolved
- `Cache.clear`, `Cache.forget`: dropping all universes, or that of a path

## Design notes

A universe that fails to load leaves the cache as it was, with the older universe of that file, if
there is one.  So does a path that cannot be resolved, whether its universe is to be got or to be
dropped.  The time of a file that does not exist is the one before the epoch by a second.

Times are compared in seconds.  None of these doubles is a negative zero or no number at all, so that
equal ones are the same.
-/

namespace DidYouMean.Universe

/-- A loaded universe.  The serial number tells it from others with the same tree. -/
structure Loaded where
  serial : Nat
  root : NamespaceNode

/-- A universe that is kept, with the time of its file. -/
structure Kept where
  time : Float
  loaded : Loaded

/-- The universes that are kept, by resolved path. -/
abbrev Cache := List (Path × Kept)

/-- What comes of getting or loading a universe: the records on the way, and the universe. -/
structure Loading where
  log : List Log.Record
  result : Except LoadError Loaded

/-- Loads the universe of a path; it gets the serial number. -/
def load (files : FileTree) (serial : Nat) (path : Path) : Loading :=
  ⟨loadLog files path, (treeAt files path).map (⟨serial, ·⟩)⟩

/-- The time of a file that does not exist. -/
def missingTime : Float := -1.0

/-- The time by which the cache tells whether a file has changed. -/
def timeOf (files : FileTree) (key : Path) : Float :=
  match files.stamp? key with
  | some stamp => stamp.seconds
  | none => missingTime

namespace Cache

/-- The universe that is kept for a resolved path, if its file has not changed. -/
def hit? (cache : Cache) (files : FileTree) (key : Path) : Option Loaded :=
  match cache.lookup key with
  | some kept => if kept.time = timeOf files key then some kept.loaded else none
  | none => none

/-- Keeps a universe in place of the one that was kept for the path. -/
def keep (cache : Cache) (key : Path) (kept : Kept) : Cache :=
  (key, kept) :: cache.filter (·.1 != key)

/-- The record that a universe with so many types is kept. -/
def countRecord (key : Path) (count : Nat) : Log.Record :=
  ⟨.info, "Cached universe " ++ key.shown ++ ": " ++ toString count ++ " types"⟩

/-- The record that a universe is kept. -/
def keptRecord (key : Path) (root : NamespaceNode) : Log.Record :=
  countRecord key (typeSymbols "" root).length

/-- The universe of a resolved path, and the cache afterwards.  If it has to be loaded, it gets the
serial number. -/
def getResolved (cache : Cache) (files : FileTree) (serial : Nat) (key : Path) : Cache × Loading :=
  match cache.hit? files key with
  | some u => (cache, ⟨[], .ok u⟩)
  | none =>
    let loading := load files serial key
    match loading.result with
    | .error _ => (cache, loading)
    | .ok u =>
      (cache.keep key ⟨timeOf files key, u⟩,
        { loading with log := loading.log ++ [keptRecord key u.root] })

/-- The universe of a path, and the cache afterwards. -/
def get (cache : Cache) (files : FileTree) (serial : Nat) (path : Path) : Cache × Loading :=
  match files.resolve path with
  | .error e => (cache, ⟨[], .error (.linkLoop e)⟩)
  | .ok key => cache.getResolved files serial key

def clear (_cache : Cache) : Cache := []

def forget (cache : Cache) (files : FileTree) (path : Path) : Except LinkLoop Cache :=
  (files.resolve path).map fun key => cache.filter (·.1 != key)

end Cache

end DidYouMean.Universe
