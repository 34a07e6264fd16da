import DidYouMean.Text.Quoted
import DidYouMean.Text.Split

/-!
# Paths

A path names a file from the root or from the working directory.  Empty parts and single dots mean
nothing and are dropped; double dots are kept, since what they mean depends on links.

## Main definitions

- `Path`: a path
- `Path.ofText`, `Path.shown`: reading and writing a path
- `Path.enter`, `Path.back`: a path that goes on or takes a name back
- `Path.ending`: the file ending, with its dot
-/

namespace DidYouMean

/-- A path: the slashes it starts with, if it starts at the root, and the names on the way. -/
structure Path where
  root : String
  parts : List String
  deriving Repr, DecidableEq

namespace Path

def isRooted (p : Path) : Bool :=
  p.root != ""

/-- The slashes that a path at the root is written with: exactly two are kept, more mean one. -/
def rootOf (cs : List Char) : String :=
  match (cs.takeWhile (· == '/')).length with
  | 0 => ""
  | 2 => "//"
  | _ => "/"

def ofText (s : String) : Path :=
  ⟨rootOf s.toList,
    ((Text.splitAt '/' s.toList).map String.ofList).filter fun part => part ≠ "" && part ≠ "."⟩

/-- The path from the root that goes by these names. -/
def ofPlace (parts : List String) : Path :=
  ⟨"/", parts⟩

/-- The path without names: the root, or the working directory. -/
def base (p : Path) : Path :=
  if p.isRooted then .ofPlace [] else ⟨"", []⟩

def enter (p : Path) (name : String) : Path :=
  { p with parts := p.parts ++ [name] }

/-- Takes the last name of a path back.  There is nothing before the root, and what is before the
working directory takes double dots. -/
def back (p : Path) : Path :=
  match p.parts.getLast? with
  | none => if p.isRooted then p else p.enter ".."
  | some ".." => p.enter ".."
  | some _ => { p with parts := p.parts.dropLast }

/-- How a path is written. -/
def shown (p : Path) : String :=
  if p.root = "" && p.parts.isEmpty then "." else p.root ++ "/".intercalate p.parts

/-- The path in quotes, as messages write it. -/
def quoted (p : Path) : String :=
  Text.quoted p.shown

/-- The file ending, from the last dot of the last name on.  A dot at either end of the name makes
no ending. -/
def ending (p : Path) : String :=
  let name := (p.parts.getLast?.getD "").toList
  let tail := (name.reverse.takeWhile (· != '.')).reverse
  if tail.isEmpty || name.length ≤ tail.length + 1 then ""
  else String.ofList ('.' :: tail)

end Path

end DidYouMean
