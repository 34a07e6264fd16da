import DidYouMean.Command.Report
import DidYouMean.Command.Settings
import DidYouMean.Name.File
import DidYouMean.Score.Namespaces
import DidYouMean.Universe.Cache

/-!
# Running the suggestion program

A run of the program reads the files that its command line names, prints its answers line by line,
and ends with an exit status or with the failure of a file.

## Main definitions

- `Run`: what a run leaves behind
- `Settings.run`: the run for some settings
- `suggestionProgram`: the run for a command line

## Design notes

The exit status is 0 if something was suggested, 1 if nothing was, and 2 if the program was not told
what to suggest from.
-/

namespace DidYouMean.Command

/-- Why a run ends before its time. -/
inductive Failure where
  | noNames (fault : Name.FileFault)
  | noUniverse (error : Universe.LoadError)
  | noGold (fault : GoldFault)
  | noLevel (error : Log.UnknownLevel)

def Failure.message : Failure → String
  | .noNames e => e.message
  | .noUniverse e => e.message
  | .noGold e => e.message
  | .noLevel e => e.message

/-- How a run ends: by itself, with an exit status, or in a failure. -/
inductive Ending where
  | finished
  | status (code : Nat)
  | failed (failure : Failure)

/-- What a run leaves behind: the lines printed, the complaints, the records of the log that were
kept, and how it ended. -/
structure Run where
  output : List String
  complaints : List String
  log : List Log.Record
  ending : Ending

/-- The run that a command line ends at once. -/
def Stop.run : Stop → Run
  | .misuse program message => ⟨[], [program ++ ": error: " ++ message], [], .status 2⟩
  | .help => ⟨[], [], [], .status 0⟩

def noSourceComplaint : String := "error: give --names and/or --universe"

/-- The run that prints answers, or that there are none. -/
def answering (log : List Log.Record) (answers : List (List String)) : Run :=
  if answers.isEmpty then ⟨[nothingLine], [], log, .status 1⟩
  else ⟨answers.flatten, [], log, .status 0⟩

def failing (log : List Log.Record) (failure : Failure) : Run :=
  ⟨[], [], log, .failed failure⟩

namespace Settings

/-- The universe of a path, loaded anew, with the records on the way. -/
def loadUniverse (files : FileTree) (path : Path) : Universe.Loading :=
  (Universe.Cache.get [] files 0 path).2

def nameCandidates (s : Settings) (files : FileTree) : Except Failure (List Candidate) :=
  match s.names with
  | none => .ok []
  | some path =>
    match Name.readNames files path with
    | .ok names => .ok (names.map Candidate.ofName)
    | .error e => .error (.noNames e)

/-- The candidates from the universe, with the records of loading it. -/
def libraryCandidates (s : Settings) (files : FileTree) :
    List Log.Record × Except Failure (List Candidate) :=
  match s.universePath with
  | none => ([], .ok [])
  | some path =>
    let loading := loadUniverse files path
    match loading.result with
    | .ok u => (loading.log, .ok (Universe.libraryCandidates [] u.root))
    | .error e => (loading.log, .error (.noUniverse e))

def question (s : Settings) : Query :=
  ⟨s.query, .position s.usage, Symbol.identityKey, s.limit⟩

/-- Suggests names among some candidates. -/
def suggestAmong (s : Settings) (log : List Log.Record) (candidates : List Candidate) : Run :=
  if candidates.isEmpty then ⟨[], [noSourceComplaint], log, .status 2⟩
  else
    let ranking : Ranking Float := s.question.rank candidates
    answering (log ++ s.question.log none ranking)
      (ranking.suggestions.mapIdx (suggestionLines s.query s.explain))

def suggest (s : Settings) (files : FileTree) : Run :=
  match s.nameCandidates files with
  | .error failure => failing [] failure
  | .ok known =>
    match s.libraryCandidates files with
    | (log, .error failure) => failing log failure
    | (log, .ok library) => s.suggestAmong log (known ++ library)

/-- Suggests namespaces.  The grammar requires a universe for it. -/
def suggestNamespaces (s : Settings) (files : FileTree) : Run :=
  match s.universePath with
  | none => ⟨[], [noSourceComplaint], [], .status 2⟩
  | some path =>
    let loading := loadUniverse files path
    match loading.result with
    | .error e => failing loading.log (.noUniverse e)
    | .ok u =>
      let found := Score.suggestNamespaces s.query (Universe.namespaceNames "" u.root) s.limit
      answering loading.log ((found.mapIdx namespaceLine).map fun line => [line])

/-- Carries out the task, keeping all records. -/
def carryOut (s : Settings) (files : FileTree) : Run :=
  match s.task with
  | .suggest => s.suggest files
  | .namespaces => s.suggestNamespaces files
  | .score => ⟨scoreLines s.query s.key, [], [], .status 0⟩

/-- The run for some settings.  The level of the log is `fallback`, if the settings name none. -/
def run (s : Settings) (fallback : String) (files : FileTree) : Run :=
  match Log.configure s.logLevel fallback false with
  | .error e => failing [] (.noLevel e)
  | .ok (sinks, first) =>
    let done := s.carryOut files
    { done with log := sinks.kept (first :: done.log) }

end Settings

/-- What is known to the program before its command line is read: a universe, and the level of the
log. -/
structure Environment where
  universePath : Option Path
  logLevel : String

def Environment.usual : Environment := ⟨none, Log.usualLevel⟩

/-- The run of the suggestion program for a command line. -/
def suggestionProgram (env : Environment) (files : FileTree) (arguments : List String) : Run :=
  match Settings.read env.universePath arguments with
  | .error stop => stop.run
  | .ok settings => settings.run env.logLevel files

end DidYouMean.Command
