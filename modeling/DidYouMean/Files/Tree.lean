import DidYouMean.Files.Path
import DidYouMean.Json.Value

/-!
# File trees

A snapshot of files, folders and links, and the changes that can be made to it.

## Main definitions

- `Entry`: what is at a place of the tree
- `FileTree`: the tree, with a working directory and a clock
- `FileTree.followPath`: the place that a path leads to, or what is in the way
- `FileTree.resolve`: a path from the root without links and double dots
- `FileTree.look?`: what a path leads to
- `FileTree.write`, `touch`, `delete`, `link`: the changes

## Design notes

A path is followed name by name, and every name but the last has to lead to a folder.  Resolving a path
does not ask for that: where nothing is, names are kept and double dots take one back.  Following a path
ends after so many links; resolving goes on until a link leads into itself, and fails if the path then
still leads into that loop.

A link is told from another by the path on which it was met, so that the same link counts as another
one where it is met from the root instead of the working directory.

Changes take place at the time that the clock shows, if they do not name one, and no two at the
same time.  A change that fails leaves the tree as it was, folders on the way included.
-/

namespace DidYouMean

/-- A place in the tree: the names from the root to it. -/
abbrev Place := List String

/-- A time in nanoseconds. -/
abbrev Stamp := Int

/-- The time in seconds, as a double that is rounded where nanoseconds are lost. -/
def Stamp.seconds (stamp : Stamp) : Float :=
  .ofInt (stamp / 1000000000) + 1e-9 * .ofInt (stamp % 1000000000)

/-- What a file holds: bytes, or the rows of a workbook. -/
inductive Content where
  | bytes (bs : List UInt8)
  | workbook (rows : List (List Json.Value))

/-- The first bytes of every workbook. -/
def workbookBytes : List UInt8 := [0x50, 0x4B, 0x03, 0x04]

/-- The content as bytes; of a workbook, no more than its first ones. -/
def Content.toBytes : Content → List UInt8
  | .bytes bs => bs
  | .workbook _ => workbookBytes

/-- What is at a place: a file or a folder with the time of its last change, or a link. -/
inductive Entry where
  | file (content : Content) (stamp : Stamp)
  | folder (stamp : Stamp)
  | link (target : Path)

/-- When a file or folder was changed last. -/
def Entry.stamp? : Entry → Option Stamp
  | .file _ stamp | .folder stamp => some stamp
  | .link _ => none

/-- A file or folder with another time of its last change. -/
def Entry.restamp (stamp : Stamp) : Entry → Entry
  | .file content _ => .file content stamp
  | .folder _ => .folder stamp
  | .link target => .link target

/-- What is in the way of a file operation. -/
inductive Obstacle where
  | missing
  | occupied
  | notFolder
  | isFolder
  | tooManyLinks
  deriving Repr, DecidableEq

def Obstacle.message : Obstacle → String
  | .missing => "[Errno 2] No such file or directory"
  | .occupied => "[Errno 17] File exists"
  | .notFolder => "[Errno 20] Not a directory"
  | .isFolder => "[Errno 21] Is a directory"
  | .tooManyLinks => "[Errno 40] Too many levels of symbolic links"

/-- Why a file operation fails, with the paths that are named in the message. -/
structure FileError where
  obstacle : Obstacle
  paths : List Path
  deriving Repr, DecidableEq

def FileError.message (e : FileError) : String :=
  if e.paths.isEmpty then e.obstacle.message
  else e.obstacle.message ++ ": " ++ " -> ".intercalate (e.paths.map Path.quoted)

/-- A path that cannot be resolved, because a link on it leads into itself: what is known of it from
the root on. -/
structure LinkLoop where
  path : Path
  deriving Repr, DecidableEq

def LinkLoop.message (e : LinkLoop) : String :=
  "Symlink loop from " ++ e.path.quoted

/-- A tree of files: what is at each place, the working directory, and the time of the next
change. -/
structure FileTree where
  entries : List (Place × Entry)
  home : Place
  clock : Stamp

namespace FileTree

def entry? (t : FileTree) (place : Place) : Option Entry :=
  t.entries.lookup place

def isFolder (t : FileTree) (place : Place) : Bool :=
  match t.entry? place with
  | some (.folder _) => true
  | _ => false

def put (t : FileTree) (place : Place) (entry : Entry) : FileTree :=
  { t with entries := (place, entry) :: t.entries.filter (·.1 != place) }

def drop (t : FileTree) (place : Place) : FileTree :=
  { t with entries := t.entries.filter (·.1 != place) }

/-- Lets time pass. -/
def tick (t : FileTree) : FileTree :=
  { t with clock := t.clock + 1 }

/-- Makes a folder at a place where nothing is. -/
def putFolder (t : FileTree) (place : Place) : FileTree :=
  if (t.entry? place).isSome then t else (t.put place (.folder t.clock)).tick

/-- The tree that holds nothing but the working directory. -/
def ofHome (home : Place) (clock : Stamp) : FileTree :=
  (List.range (home.length + 1)).foldl (fun t n => t.putFolder (home.take n)) ⟨[], home, clock⟩

/-- How many links are followed in one path. -/
def linkLimit : Nat := 40

/-- What is in the way of going on from a place: all but a folder is. -/
def obstacle? (t : FileTree) (here : Place) : Option Obstacle :=
  match t.entry? here with
  | some (.folder _) => none
  | some _ => some .notFolder
  | none => some .missing

/-- Follows names from a place on, at most `links` of which are links.  All names but the last have to
lead to a folder. -/
def follow (t : FileTree) (links : Nat) (here : Place) (names : List String) :
    Except Obstacle Place :=
  match names with
  | [] => .ok here
  | name :: rest =>
    match t.obstacle? here with
    | some obstacle => .error obstacle
    | none =>
      if name = ".." then t.follow links here.dropLast rest
      else
        match links, t.entry? (here ++ [name]) with
        | 0, some (.link _) => .error .tooManyLinks
        | links + 1, some (.link target) =>
          t.follow links (if target.isRooted then [] else here) (target.parts ++ rest)
        | links, _ => t.follow links (here ++ [name]) rest
termination_by (links, names.length)

/-- Follows a path from the root or from the working directory. -/
def followPath (t : FileTree) (p : Path) : Except Obstacle Place :=
  t.follow linkLimit (if p.isRooted then [] else t.home) p.parts

/-- The place that a path names if none of its names is a link. -/
def plainPlace (t : FileTree) (p : Path) : Place :=
  p.parts.foldl (fun here name => if name = ".." then here.dropLast else here ++ [name])
    (if p.isRooted then [] else t.home)

def linkCount (t : FileTree) : Nat :=
  t.entries.countP fun e => match e.2 with
    | .link _ => true
    | _ => false

/-- How many links within links are followed.  A path can name a link from the root, and from each
folder on the way to the working directory. -/
def depthLimit (t : FileTree) : Nat :=
  t.linkCount * (t.home.length + 2)

/-- Follows names on from a path without links, whatever is there.  The path that they lead to comes
with whether all links were followed: none is that is among the `opened` ones, of which it is a part.
What is left of the names then stands at the end of the path. -/
def resolveFrom (t : FileTree) (depth : Nat) (opened : List Path) (here : Path)
    (names : List String) : Path × Bool :=
  match names with
  | [] => (here, true)
  | name :: rest =>
    if name = ".." then t.resolveFrom depth opened here.back rest
    else
      let there := here.enter name
      match depth, t.entry? (t.plainPlace there) with
      | 0, some (.link _) => (rest.foldl Path.enter there, false)
      | depth + 1, some (.link target) =>
        if there ∈ opened then (rest.foldl Path.enter there, false)
        else
          let (reached, followed) := t.resolveFrom depth (there :: opened)
            (if target.isRooted then target.base else here) target.parts
          if followed then t.resolveFrom (depth + 1) opened reached rest
          else (rest.foldl Path.enter reached, false)
      | depth, _ => t.resolveFrom depth opened there rest
termination_by (depth, names.length)

/-- The path from the root to where a path leads, without links and double dots.  If a link leads into
itself, the double dots behind it take back a name each, and the path has to come out of the loop. -/
def resolve (t : FileTree) (p : Path) : Except LinkLoop Path :=
  let key := Path.ofPlace (t.plainPlace (t.resolveFrom t.depthLimit [] p.base p.parts).1)
  match t.followPath key with
  | .error .tooManyLinks => .error ⟨key⟩
  | _ => .ok key

/-- What a path leads to. -/
def look? (t : FileTree) (p : Path) : Option Entry :=
  match t.followPath p with
  | .ok place => t.entry? place
  | .error _ => none

def read (t : FileTree) (p : Path) : Except FileError Content :=
  match t.followPath p with
  | .error obstacle => .error ⟨obstacle, [p]⟩
  | .ok place =>
    match t.entry? place with
    | some (.file content _) => .ok content
    | some (.folder _) => .error ⟨.isFolder, [p]⟩
    | some (.link _) | none => .error ⟨.missing, [p]⟩

def stamp? (t : FileTree) (p : Path) : Option Stamp :=
  (t.look? p).bind Entry.stamp?

def folderOf (p : Path) : Path :=
  { p with parts := p.parts.dropLast }

/-- The place of a path's last name, which may be a link: only the names before it are followed, and
they have to lead to a folder.  A path that has no such name meets the obstacle `unnamed`. -/
def placeOfName (t : FileTree) (p : Path) (unnamed : Obstacle) : Except Obstacle Place :=
  match p.parts.getLast? with
  | none => .error unnamed
  | some name =>
    match t.followPath (folderOf p) with
    | .error obstacle => .error obstacle
    | .ok folder =>
      match t.obstacle? folder with
      | some obstacle => .error obstacle
      | none => if name = ".." then .error unnamed else .ok (folder ++ [name])

/-- Makes the folder of a path, if it is not there yet. -/
def ensureFolder (t : FileTree) (p : Path) : Except FileError FileTree :=
  match t.placeOfName p .occupied with
  | .error .missing => .error ⟨.missing, [p]⟩
  | .error obstacle =>
    match t.look? p with
    | some (.folder _) => .ok t
    | _ => .error ⟨obstacle, [p]⟩
  | .ok place =>
    match t.entry? place, t.look? p with
    | none, _ => .ok (t.putFolder place)
    | some _, some (.folder _) => .ok t
    | some _, _ => .error ⟨.occupied, [p]⟩

/-- Makes the folder of a path, and first the folders on the way to it that are missing. -/
def makeFolder (t : FileTree) (p : Path) : Except FileError FileTree :=
  match t.ensureFolder p with
  | .error ⟨.missing, paths⟩ =>
    if p.parts = [] then .error ⟨.missing, paths⟩
    else
      match t.makeFolder (folderOf p) with
      | .ok t => t.ensureFolder p
      | .error e => .error e
  | made => made
termination_by p.parts.length
decreasing_by
  have hpos : 0 < p.parts.length := List.length_pos_iff.mpr ‹_›
  simp only [folderOf, List.length_dropLast]
  omega

/-- Writes a file, with the folders on the way to it. -/
def write (t : FileTree) (p : Path) (content : Content) (stamp : Option Stamp) :
    Except FileError FileTree :=
  match t.makeFolder (folderOf p) with
  | .error e => .error e
  | .ok t =>
    match t.followPath p with
    | .error obstacle => .error ⟨obstacle, [p]⟩
    | .ok place =>
      if t.isFolder place then .error ⟨.isFolder, [p]⟩
      else match stamp with
        | some stamp => .ok (t.put place (.file content stamp))
        | none => .ok (t.put place (.file content t.clock)).tick

def touch (t : FileTree) (p : Path) (stamp : Stamp) : Except FileError FileTree :=
  match t.followPath p with
  | .error obstacle => .error ⟨obstacle, []⟩
  | .ok place =>
    match t.entry? place with
    | some entry => .ok (t.put place (entry.restamp stamp))
    | none => .error ⟨.missing, []⟩

def delete (t : FileTree) (p : Path) : Except FileError FileTree :=
  match t.placeOfName p .isFolder with
  | .error obstacle => .error ⟨obstacle, [p]⟩
  | .ok place =>
    match t.entry? place with
    | some (.folder _) => .error ⟨.isFolder, [p]⟩
    | some _ => .ok (t.drop place)
    | none => .error ⟨.missing, [p]⟩

/-- Makes a link to a target, with the folders on the way to it. -/
def link (t : FileTree) (p target : Path) : Except FileError FileTree :=
  match t.makeFolder (folderOf p) with
  | .error e => .error e
  | .ok t =>
    match t.placeOfName p .occupied with
    | .error obstacle => .error ⟨obstacle, [target, p]⟩
    | .ok place =>
      if (t.entry? place).isSome then .error ⟨.occupied, [target, p]⟩
      else .ok (t.put place (.link target))

end FileTree

end DidYouMean
