import DidYouMean.Files.Tree
import DidYouMean.Text.Blank
import DidYouMean.Text.Lines
import DidYouMean.Text.Utf8

/-!
# Names files

A names file holds one name a line.  White space around a name does not count, and empty lines and
lines that start with `#` hold no name.

## Main definitions

- `namesOf`: the names in the characters of a file
- `readNames`: the names in the file that a path leads to
-/

namespace DidYouMean.Name

/-- Why a file holds no names. -/
inductive FileFault where
  | notFound (path : Path)
  | unreadable (error : FileError)
  | undecodable (error : Text.DecodeError)

def FileFault.message : FileFault → String
  | .notFound path => "Names file not found: " ++ path.shown
  | .unreadable e => e.message
  | .undecodable e => e.message

/-- Whether a line, without the white space around it, holds a name. -/
def holdsName (line : List Char) : Bool :=
  match line with
  | [] => false
  | c :: _ => c != '#'

/-- The names in the characters of a file. -/
def namesOf (cs : List Char) : List String :=
  (((Text.lines cs).map Text.trimChars).filter holdsName).map String.ofList

def namesOfBytes (bytes : List UInt8) : Except FileFault (List String) :=
  match Text.decodeInChunks bytes with
  | .error e => .error (.undecodable e)
  | .ok cs => .ok (namesOf cs)

/-- The names in the file that a path leads to. -/
def readNames (files : FileTree) (path : Path) : Except FileFault (List String) :=
  if (files.look? path).isNone then .error (.notFound path)
  else match files.read path with
    | .error e => .error (.unreadable e)
    | .ok content => namesOfBytes content.toBytes

end DidYouMean.Name
