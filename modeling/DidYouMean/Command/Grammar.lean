/-!
# Command-line grammars

What a program takes on its command line: flags, which start with a minus sign and may take
arguments, and operands, which are told apart by their order.  The last operand may be a command
with a grammar of its own for all that follows.

## Main definitions

- `Flag`, `Operand`, `Grammar`: the parts of a grammar
- `Stop`: why reading ends without settings

## Design notes

Flags and operands say what they do to the settings, which may be of any type.
-/

namespace DidYouMean.Command

/-- Why reading ends without settings: a misuse, which the program named reports, or a call for
help. -/
inductive Stop where
  | misuse (program message : String)
  | help
  deriving Repr, DecidableEq

/-- How many arguments a flag takes. -/
inductive Count where
  | none
  | one
  | oneOrMore
  deriving Repr, DecidableEq

/-- What a flag does: it asks for help, or it changes the settings or says what is wrong with its
arguments. -/
inductive Effect (σ : Type) where
  | help
  | set (change : List String → σ → Except String σ)

/-- A flag with all its names. -/
structure Flag (σ : Type) where
  names : List String
  count : Count
  required : Bool
  effect : Effect σ

/-- How messages name the flag. -/
def Flag.title {σ : Type} (f : Flag σ) : String :=
  "/".intercalate f.names

/-- An operand: a single argument, or a command with all arguments that follow.  A command also
gives back the arguments that it cannot use. -/
inductive Operand (σ : Type) where
  | single (name : String) (change : String → σ → Except String σ)
  | command (name : String) (change : List String → σ → Except Stop (σ × List String))

def Operand.title {σ : Type} : Operand σ → String
  | .single name _ => name
  | .command name _ => name

/-- What a program takes on its command line. -/
structure Grammar (σ : Type) where
  program : String
  operands : List (Operand σ)
  flags : List (Flag σ)

def helpFlag {σ : Type} : Flag σ :=
  ⟨["-h", "--help"], .none, false, .help⟩

namespace Grammar

variable {σ : Type}

def names (g : Grammar σ) : List (String × Flag σ) :=
  g.flags.flatMap fun f => f.names.map (·, f)

def flag? (g : Grammar σ) (name : String) : Option (Flag σ) :=
  g.names.lookup name

def misuse (g : Grammar σ) (message : String) : Stop :=
  .misuse g.program message

def argumentMisuse (g : Grammar σ) (title message : String) : Stop :=
  g.misuse ("argument " ++ title ++ ": " ++ message)

end Grammar

end DidYouMean.Command
