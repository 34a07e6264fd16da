import DidYouMean.Command.Evaluate

/-!
# The program

The suggestion program on real files.  If the first argument is `evaluate`, the evaluation program
runs on the other arguments.

## Design notes

The files that the command line names are read first.  All that follows is a pure run on them.
-/

namespace DidYouMean

open Command

/-- Adds what is at a path to the files, if something is there. -/
def addFile (files : FileTree) (path : Path) : IO FileTree := do
  try
    let bytes ← IO.FS.readBinFile path.shown
    match files.write path (.bytes bytes.toList) none with
    | .ok files => return files
    | .error _ => return files
  catch
    | .inappropriateType .. => return (files.makeFolder path).toOption.getD files
    | _ => return files

/-- The files at some paths. -/
def readFiles (paths : List Path) : IO FileTree := do
  let home := (Path.ofText (toString (← IO.currentDir))).parts
  paths.foldlM addFile (.ofHome home 0)

/-- The paths that a command line of the suggestion program names. -/
def suggestionPaths (env : Environment) (arguments : List String) : List Path :=
  match Settings.read env.universePath arguments with
  | .ok settings => settings.names.toList ++ settings.universePath.toList
  | .error _ => []

/-- The paths that a command line of the evaluation program names. -/
def evaluationPaths (arguments : List String) : List Path :=
  match evaluationGrammar.readAll .initial arguments with
  | .ok settings => [settings.gold, settings.names]
  | .error _ => []

/-- What the environment variables say. -/
def readEnvironment : IO Environment := do
  let path := (← IO.getEnv "NAMESUGGEST_UNIVERSE").filter (· ≠ "")
  let level ← IO.getEnv "NAMESUGGEST_LOG_LEVEL"
  return ⟨path.map Path.ofText, level.getD Log.usualLevel⟩

/-- Prints what a run leaves behind; its exit status. -/
def report (run : Run) : IO UInt32 := do
  for record in run.log do IO.eprintln record.line
  for line in run.output do IO.println line
  for line in run.complaints do IO.eprintln line
  match run.ending with
  | .finished => return 0
  | .status code => return code.toUInt32
  | .failed failure =>
    IO.eprintln failure.message
    return 1

end DidYouMean

open DidYouMean Command in
/-- Runs the program that the arguments ask for. -/
def main (arguments : List String) : IO UInt32 := do
  match arguments with
  | "evaluate" :: rest =>
    report (evaluationProgram (← readFiles (evaluationPaths rest)) rest)
  | _ =>
    let env ← readEnvironment
    report (suggestionProgram env (← readFiles (suggestionPaths env arguments)) arguments)
