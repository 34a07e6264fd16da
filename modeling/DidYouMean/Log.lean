import DidYouMean.Text.LetterCase

/-!
# Log records

What the program reports about its own work, and where such records go: to the error stream and,
if wanted, to a file.  Both take the records of a level and above.

## Main definitions

- `Level`, `Record`: a severity, and a text of that severity
- `Sinks`: where records go
- `configure`: the sinks for a level given by name
-/

namespace DidYouMean.Log

/-- How severe a record is. -/
inductive Level where
  | trace
  | debug
  | info
  | success
  | warning
  | error
  | critical
  deriving Repr, DecidableEq

def Level.all : List Level := [.trace, .debug, .info, .success, .warning, .error, .critical]

def Level.label : Level → String
  | .trace => "TRACE"
  | .debug => "DEBUG"
  | .info => "INFO"
  | .success => "SUCCESS"
  | .warning => "WARNING"
  | .error => "ERROR"
  | .critical => "CRITICAL"

def Level.ofLabel? (label : String) : Option Level :=
  Level.all.find? (·.label == label)

def Level.severity : Level → Nat
  | .trace => 5
  | .debug => 10
  | .info => 20
  | .success => 25
  | .warning => 30
  | .error => 40
  | .critical => 50

/-- A text with its level. -/
structure Record where
  level : Level
  text : String
  deriving Repr, DecidableEq

def Record.line (r : Record) : String :=
  r.level.label ++ " " ++ r.text

/-- Where records go: the level from which on they are kept, and whether a file gets them too. -/
structure Sinks where
  threshold : Level
  toFile : Bool
  deriving Repr, DecidableEq

/-- Whether the sinks keep the record. -/
def Sinks.keeps (s : Sinks) (r : Record) : Bool :=
  s.threshold.severity ≤ r.level.severity

def Sinks.kept (s : Sinks) (records : List Record) : List Record :=
  records.filter s.keeps

/-- A level that does not exist. -/
structure UnknownLevel where
  label : String
  deriving Repr, DecidableEq

def UnknownLevel.message (e : UnknownLevel) : String :=
  "Level '" ++ e.label ++ "' does not exist"

/-- The level if nothing names one. -/
def usualLevel : String := "INFO"

/-- The sinks for a level, named in any case, and the record that they are in place.  An empty
name counts as none, and `fallback` is used. -/
def configure (level : Option String) (fallback : String) (toFile : Bool) :
    Except UnknownLevel (Sinks × Record) :=
  let named := (level.filter (· ≠ "")).getD fallback
  let label := Text.upper named
  match Level.ofLabel? label with
  | some threshold =>
    let sink := if toFile then "True" else "False"
    let text := "Logging configured at " ++ label ++ " (file sink: " ++ sink ++ ")"
    .ok (⟨threshold, toFile⟩, ⟨.debug, text⟩)
  | none => .error ⟨label⟩

end DidYouMean.Log
