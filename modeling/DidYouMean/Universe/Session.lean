import DidYouMean.Universe.Cache

/-!
# Sessions

A session is a row of steps that change files, or get and load universes.  Later steps see what
earlier ones did.

## Main definitions

- `Step`: a step
- `Session`: the files, the cache and the number of universes loaded so far
- `Session.take`, `Session.run`: taking one step, and taking steps one after the other
-/

namespace DidYouMean.Universe

/-- A step of a session. -/
inductive Step where
  | write (path : Path) (content : Content) (stamp : Option Stamp)
  | makeFolder (path : Path)
  | touch (path : Path) (stamp : Stamp)
  | delete (path : Path)
  | link (path target : Path)
  | clear
  | forget (path : Path)
  | get (path : Path)
  | load (path : Path)

/-- The state between steps. -/
structure Session where
  files : FileTree
  cache : Cache
  loaded : Nat

/-- What a step answers: nothing, a universe, or why it failed. -/
inductive Answer where
  | done
  | found (u : Loaded)
  | fileError (error : FileError)
  | loadError (error : LoadError)
  | linkLoop (loop : LinkLoop)

/-- An answer with the records of its step. -/
structure Reply where
  log : List Log.Record
  answer : Answer

namespace Session

/-- A session that begins with these files and an empty cache. -/
def start (files : FileTree) : Session :=
  ⟨files, [], 0⟩

/-- The reply of a step that changes files, and the session afterwards. -/
def change (s : Session) : Except FileError FileTree → Session × Reply
  | .ok files => ({ s with files }, ⟨[], .done⟩)
  | .error e => (s, ⟨[], .fileError e⟩)

/-- The number of universes loaded after a loading. -/
def countLoaded (s : Session) : Except LoadError Loaded → Nat
  | .ok u => max s.loaded (u.serial + 1)
  | .error _ => s.loaded

/-- The reply of a step that gets or loads a universe, and the session afterwards. -/
def receive (s : Session) (cache : Cache) (loading : Loading) : Session × Reply :=
  let answer := match loading.result with
    | .ok u => .found u
    | .error e => .loadError e
  ({ s with cache, loaded := s.countLoaded loading.result }, ⟨loading.log, answer⟩)

/-- The reply of a step that drops the universe of a path, and the session afterwards. -/
def drop (s : Session) : Except LinkLoop Cache → Session × Reply
  | .ok cache => ({ s with cache }, ⟨[], .done⟩)
  | .error e => (s, ⟨[], .linkLoop e⟩)

def take (s : Session) : Step → Session × Reply
  | .write path content stamp => s.change (s.files.write path content stamp)
  | .makeFolder path => s.change (s.files.makeFolder path)
  | .touch path stamp => s.change (s.files.touch path stamp)
  | .delete path => s.change (s.files.delete path)
  | .link path target => s.change (s.files.link path target)
  | .clear => ({ s with cache := s.cache.clear }, ⟨[], .done⟩)
  | .forget path => s.drop (s.cache.forget s.files path)
  | .get path =>
    let (cache, loading) := s.cache.get s.files s.loaded path
    s.receive cache loading
  | .load path => s.receive s.cache (Universe.load s.files s.loaded path)

def run (s : Session) : List Step → List Reply
  | [] => []
  | step :: rest =>
    let (s, reply) := s.take step
    reply :: s.run rest

end Session

end DidYouMean.Universe
