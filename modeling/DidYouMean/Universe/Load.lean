import DidYouMean.Files.Tree
import DidYouMean.Json.Reader
import DidYouMean.Log
import DidYouMean.Text.Lines
import DidYouMean.Text.Utf8
import DidYouMean.Universe.Reader

/-!
# Loading universes

A universe file is a UTF-8 text that holds a namespace tree as a JSON document.

## Main definitions

- `LoadError`: why a file holds no universe
- `treeOfBytes`: the tree in the bytes of a file
- `treeAt`: the tree in the file that a path leads to
- `loadLog`: the records on the way
-/

namespace DidYouMean.Universe

/-- Why a file holds no universe, or cannot be told from others. -/
inductive LoadError where
  | linkLoop (loop : LinkLoop)
  | notFound (path : Path)
  | unreadable (error : FileError)
  | undecodable (error : Text.DecodeError)
  | noJson (error : Json.ReadError)
  | misshapen (error : ShapeError)

def LoadError.message : LoadError → String
  | .linkLoop e => e.message
  | .notFound path => "Universe file not found: " ++ path.shown
  | .unreadable e => e.message
  | .undecodable e => e.message
  | .noJson e => e.message
  | .misshapen e => e.message

/-- Whether the error tells of the file and its contents, as all do but that of a link which leads
into itself and that of a field which is of the wrong type altogether. -/
def LoadError.isExpected : LoadError → Bool
  | .linkLoop _ => false
  | .misshapen e => e.isMalformed
  | _ => true

/-- The tree in the bytes of a file. -/
def treeOfBytes (bytes : List UInt8) : Except LoadError NamespaceNode :=
  match Text.decode bytes with
  | .error e => .error (.undecodable e)
  | .ok cs =>
    match Json.read (String.ofList (Text.unifyLineEnds cs)) with
    | .error e => .error (.noJson e)
    | .ok document => (ofValue document).mapError .misshapen

/-- The tree in the file that a path leads to. -/
def treeAt (files : FileTree) (path : Path) : Except LoadError NamespaceNode :=
  if (files.look? path).isNone then .error (.notFound path)
  else match files.read path with
    | .error e => .error (.unreadable e)
    | .ok content => treeOfBytes content.toBytes

/-- The records of loading: none if nothing is there to load. -/
def loadLog (files : FileTree) (path : Path) : List Log.Record :=
  if (files.look? path).isNone then []
  else [⟨.info, "Loading symbol universe from " ++ path.shown⟩]

end DidYouMean.Universe
