import DidYouMean.Command.Grammar
import DidYouMean.Text.Digit

/-!
# Arguments on the command line

What each argument is under a grammar: a flag, possibly shortened or with text attached to it, or
an operand.  After a divider all arguments are operands.

## Main definitions

- `Role`, `Token`: what an argument is
- `Grammar.roleOf`: the role of an argument before the divider
- `Grammar.tokens`: all arguments with their roles

## Design notes

A long name may be shortened as long as one flag alone has a name that starts so.  Negative numbers
and texts with spaces are operands, unless they name a flag.
-/

namespace DidYouMean.Command

/-- A text attached to a flag: after an equals sign, or right after the letter. -/
inductive Attached where
  | equals (text : List Char)
  | letters (text : List Char)
  deriving Repr, DecidableEq

/-- What an argument is. -/
inductive Role (σ : Type) where
  | divider
  | operand
  | flag (f : Flag σ) (attached : Option Attached)
  | unknownFlag

/-- An argument with its role. -/
structure Token (σ : Type) where
  text : String
  role : Role σ

variable {σ : Type}

def Token.isFlag (t : Token σ) : Bool :=
  match t.role with
  | .flag _ _ | .unknownFlag => true
  | _ => false

def Token.isOperand (t : Token σ) : Bool :=
  match t.role with
  | .operand => true
  | _ => false

def Token.isDivider (t : Token σ) : Bool :=
  match t.role with
  | .divider => true
  | _ => false

/-- Digits up to the end, or up to a line feed at the end. -/
def isDigitsToEnd : List Char → Bool
  | [] => false
  | [c] => Text.isDecimal c
  | [c, '\n'] => Text.isDecimal c
  | c :: rest => Text.isDecimal c && isDigitsToEnd rest

/-- Whether the characters are those of a negative number, possibly with a point. -/
def isNegativeNumber : List Char → Bool
  | '-' :: rest =>
    isDigitsToEnd rest ||
      match rest.dropWhile Text.isDecimal with
      | '.' :: rest => isDigitsToEnd rest
      | _ => false
  | _ => false

/-- A flag name that an argument may stand for: the name, its flag and the text attached. -/
abbrev Reading (σ : Type) := String × Flag σ × Option Attached

/-- The characters before the first equals sign, and those after it if there is one. -/
def splitEquals (cs : List Char) : List Char × Option (List Char) :=
  match cs.dropWhile (· != '=') with
  | [] => (cs, none)
  | _ :: rest => (cs.takeWhile (· != '='), some rest)

namespace Grammar

/-- The names that begin like a long one. -/
def longReadings (g : Grammar σ) (cs : List Char) : List (Reading σ) :=
  let (front, text) := splitEquals cs
  (g.names.filter fun (name, _) => front.isPrefixOf name.toList).map
    fun (name, f) => (name, f, text.map .equals)

/-- The names that a single letter stands for, or that begin with the characters. -/
def shortReadings (g : Grammar σ) (cs : List Char) : List (Reading σ) :=
  g.names.filterMap fun (name, f) =>
    if name.toList = cs.take 2 then some (name, f, some (.letters (cs.drop 2)))
    else if cs.isPrefixOf name.toList then some (name, f, none)
    else none

/-- The names that the characters may stand for. -/
def readings (g : Grammar σ) (cs : List Char) : List (Reading σ) :=
  match cs with
  | '-' :: '-' :: _ => g.longReadings cs
  | _ => g.shortReadings cs

/-- The flag that the characters name, alone or with a text after an equals sign. -/
def exactFlag? (g : Grammar σ) (cs : List Char) : Option (Flag σ × Option Attached) :=
  match g.flag? (String.ofList cs), splitEquals cs with
  | some f, _ => some (f, none)
  | none, (front, some text) =>
    (g.flag? (String.ofList front)).map fun f => (f, some (.equals text))
  | none, (_, none) => none

/-- The role of an argument before the divider. -/
def roleOf (g : Grammar σ) (argument : String) : Except Stop (Role σ) :=
  let cs := argument.toList
  if cs.head? ≠ some '-' then .ok .operand
  else match g.exactFlag? cs with
    | some (f, attached) => .ok (.flag f attached)
    | none =>
      if cs.length = 1 then .ok .operand
      else match g.readings cs with
        | [(_, f, attached)] => .ok (.flag f attached)
        | [] =>
          if isNegativeNumber cs || cs.contains ' ' then .ok .operand else .ok .unknownFlag
        | several => .error (g.misuse ("ambiguous option: " ++ argument ++ " could match "
            ++ ", ".intercalate (several.map (·.1))))

def tokens (g : Grammar σ) : List String → Except Stop (List (Token σ))
  | [] => .ok []
  | argument :: rest =>
    if argument = "--" then .ok (⟨argument, .divider⟩ :: rest.map (⟨·, .operand⟩))
    else
      match g.roleOf argument with
      | .error stop => .error stop
      | .ok role => (g.tokens rest).map (⟨argument, role⟩ :: ·)

end Grammar

end DidYouMean.Command
