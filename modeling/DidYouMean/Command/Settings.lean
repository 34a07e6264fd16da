import DidYouMean.Command.Reader
import DidYouMean.Files.Path
import DidYouMean.Limit
import DidYouMean.Text.Integer
import DidYouMean.Usage

/-!
# Settings of the suggestion program

What the command line of the suggestion program says: which of its three commands is to run, and
how.

## Main definitions

- `Task`: the three commands
- `Settings`: all that a command line says
- `Settings.read`: the settings of a command line
-/

namespace DidYouMean.Command

/-- What the program does: suggest names, suggest namespaces, or score a pair of names. -/
inductive Task where
  | suggest
  | namespaces
  | score
  deriving Repr, DecidableEq

def Task.ofName (name : String) : Task :=
  if name = "suggest" then .suggest
  else if name = "namespaces" then .namespaces
  else .score

/-- All that a command line says.  Only some of it matters to each task. -/
structure Settings where
  logLevel : Option String
  task : Task
  query : String
  key : String
  names : Option Path
  universePath : Option Path
  usage : UsagePosition
  limit : Limit
  explain : Bool

/-- The settings if a command line says nothing; the universe may be known beforehand. -/
def Settings.initial (universePath : Option Path) : Settings :=
  { logLevel := none, task := .suggest, query := "", key := "", names := none, universePath
    usage := .unknown, limit := .usual, explain := false }

def integerArgument (s : String) : Except String Int :=
  match Text.readInt? s with
  | some n => .ok n
  | none => .error ("invalid int value: " ++ Text.quoted s)

def programName : String := "namesuggest"

def queryOperand : Operand Settings :=
  .single "query" fun s settings => .ok { settings with query := s }

def universeFlag (required : Bool) : Flag Settings :=
  ⟨["--universe"], .one, required, .set (oneArgument fun s settings =>
    .ok { settings with universePath := some (Path.ofText s) })⟩

def limitFlag : Flag Settings :=
  ⟨["--top-k"], .one, false, .set (oneArgument fun s settings =>
    (integerArgument s).map fun n => { settings with limit := some n })⟩

def namesFlag : Flag Settings :=
  ⟨["--names"], .one, false, .set (oneArgument fun s settings =>
    .ok { settings with names := some (Path.ofText s) })⟩

def usageFlag : Flag Settings :=
  ⟨["--usage"], .one, false, .set (oneArgument fun s settings =>
    match UsagePosition.ofLabel? s with
    | some usage => .ok { settings with usage }
    | none => .error (invalidChoice s (UsagePosition.all.map (·.label))))⟩

def explainFlag : Flag Settings :=
  ⟨["--explain"], .none, false, .set fun _ settings => .ok { settings with explain := true }⟩

def logLevelFlag : Flag Settings :=
  ⟨["--log-level"], .one, false, .set (oneArgument fun s settings =>
    .ok { settings with logLevel := some s })⟩

def taskGrammars : List (String × Grammar Settings) := [
  ("suggest", ⟨programName ++ " suggest", [queryOperand],
    [helpFlag, namesFlag, universeFlag false, usageFlag, limitFlag, explainFlag]⟩),
  ("namespaces", ⟨programName ++ " namespaces", [queryOperand],
    [helpFlag, universeFlag true, limitFlag]⟩),
  ("score", ⟨programName ++ " score",
    [queryOperand, .single "key" fun s settings => .ok { settings with key := s }], [helpFlag]⟩)]

/-- What the suggestion program takes on its command line. -/
def settingsGrammar : Grammar Settings :=
  ⟨programName,
    [commands programName "command" (fun name settings => { settings with task := .ofName name })
      taskGrammars],
    [helpFlag, logLevelFlag]⟩

/-- The settings of a command line. -/
def Settings.read (universePath : Option Path) (arguments : List String) : Except Stop Settings :=
  settingsGrammar.readAll (.initial universePath) arguments

end DidYouMean.Command
