import DidYouMean.Command.Token
import DidYouMean.Text.Quoted

/-!
# Reading command lines

Flags and operands are taken from left to right.  Operands are taken as soon as they come, as many
as there are in a row; arguments for which there is no use are left over.

## Main definitions

- `Progress`: how far a command line has been read
- `Grammar.read`: the settings of a command line, and the arguments left over
- `Grammar.readAll`: the settings, if no argument is left over
- `commands`: the operand that names one of some commands
-/

namespace DidYouMean.Command

variable {σ : Type}

/-- How far a command line has been read: the settings so far, the operands still to come, the
titles of the flags seen, and the arguments left over, by this grammar and by a command's. -/
structure Progress (σ : Type) where
  settings : σ
  awaited : List (Operand σ)
  seen : List String
  leftOver : List String
  commandLeftOver : List String

/-- How many tokens an operand takes from the front: it may stand among dividers, and a command
takes all. -/
def Operand.span? (o : Operand σ) (tokens : List (Token σ)) : Option Nat :=
  let before := (tokens.takeWhile Token.isDivider).length
  match tokens.drop before with
  | [] => none
  | t :: rest =>
    if !t.isOperand then none
    else match o with
      | .command _ _ => some tokens.length
      | .single _ _ => some (before + 1 + (rest.takeWhile Token.isDivider).length)

namespace Grammar

def takeOperand (g : Grammar σ) (o : Operand σ) (texts : List String) (p : Progress σ) :
    Except Stop (Progress σ) :=
  match o with
  | .single title change =>
    match change ((texts.erase "--").head?.getD "") p.settings with
    | .ok settings => .ok { p with settings, awaited := p.awaited.drop 1 }
    | .error message => .error (g.argumentMisuse title message)
  | .command _ change =>
    match change texts p.settings with
    | .ok (settings, left) =>
      .ok { p with settings, awaited := p.awaited.drop 1, commandLeftOver := left }
    | .error stop => .error stop

/-- Takes operands as long as there are arguments for them.  The number of tokens taken comes with
the progress. -/
def takeOperands (g : Grammar σ) :
    List (Operand σ) → List (Token σ) → Progress σ → Except Stop (Nat × Progress σ)
  | [], _, p => .ok (0, p)
  | o :: rest, tokens, p =>
    match o.span? tokens with
    | none => .ok (0, p)
    | some n =>
      match g.takeOperand o ((tokens.take n).map (·.text)) p with
      | .error stop => .error stop
      | .ok p => (g.takeOperands rest (tokens.drop n) p).map fun (m, p) => (n + m, p)

def takeFlag (g : Grammar σ) (f : Flag σ) (arguments : List String) (p : Progress σ) :
    Except Stop (Progress σ) :=
  match f.effect with
  | .help => .error .help
  | .set change =>
    match change arguments p.settings with
    | .ok settings => .ok { p with settings, seen := f.title :: p.seen }
    | .error message => .error (g.argumentMisuse f.title message)

/-- What is wrong with a text attached to a flag that takes no arguments.  Letters may follow a
letter, and the first that is no flag ends them. -/
def attachedFault? (g : Grammar σ) : Attached → Option (List Char)
  | .equals text => some text
  | .letters text => go text
where
  /-- What is wrong with letters that follow a letter. -/
  go : List Char → Option (List Char)
    | [] => none
    | '-' :: rest => some ('-' :: rest)
    | c :: '=' :: rest =>
      if (g.flag? (String.ofList ['-', c])).isSome then some rest else none
    | c :: rest => if (g.flag? (String.ofList ['-', c])).isSome then go rest else none

def takeAttached (g : Grammar σ) (f : Flag σ) (attached : Attached) (p : Progress σ) :
    Except Stop (Progress σ) :=
  match f.count with
  | .none =>
    match g.attachedFault? attached with
    | some text => .error (g.argumentMisuse f.title
        ("ignored explicit argument " ++ Text.quoted (String.ofList text)))
    | none => g.takeFlag f [] p
  | _ =>
    match attached with
    | .equals text | .letters text => g.takeFlag f [String.ofList text] p

def argumentCount (g : Grammar σ) (f : Flag σ) (tokens : List (Token σ)) : Except Stop Nat :=
  let n := (tokens.takeWhile Token.isOperand).length
  match f.count with
  | .none => .ok 0
  | .one => if n = 0 then .error (g.argumentMisuse f.title "expected one argument") else .ok 1
  | .oneOrMore =>
    if n = 0 then .error (g.argumentMisuse f.title "expected at least one argument") else .ok n

def leave (tokens : List (Token σ)) (p : Progress σ) : Progress σ :=
  { p with leftOver := p.leftOver ++ tokens.map (·.text) }

/-- Reads tokens up to the last flag. -/
def readTokens (g : Grammar σ) (tokens : List (Token σ)) (p : Progress σ) :
    Except Stop (Progress σ) :=
  match tokens with
  | [] => finish [] p
  | t :: rest =>
    match t.role with
    | .unknownFlag => g.readTokens rest (leave [t] p)
    | .flag f (some attached) =>
      match g.takeAttached f attached p with
      | .error stop => .error stop
      | .ok p => g.readTokens rest p
    | .flag f none =>
      match g.argumentCount f rest with
      | .error stop => .error stop
      | .ok n =>
        match g.takeFlag f ((rest.take n).map (·.text)) p with
        | .error stop => .error stop
        | .ok p => g.readTokens (rest.drop n) p
    | .operand | .divider =>
      if !rest.any Token.isFlag then finish (t :: rest) p
      else match g.takeOperands p.awaited (t :: rest) p with
        | .error stop => .error stop
        | .ok (n + 1, p) => g.readTokens (rest.drop n) p
        | .ok (0, p) =>
          let others := rest.takeWhile (!·.isFlag)
          g.readTokens (rest.drop others.length) (leave (t :: others) p)
termination_by tokens.length
decreasing_by all_goals simp; try omega
where
  /-- Reads the tokens after the last flag. -/
  finish (tokens : List (Token σ)) (p : Progress σ) : Except Stop (Progress σ) :=
    (g.takeOperands p.awaited tokens p).map fun (n, p) => leave (tokens.drop n) p

/-- What is required and has not come. -/
def missing (g : Grammar σ) (p : Progress σ) : List String :=
  p.awaited.map (·.title)
    ++ (g.flags.filter fun f => f.required && !p.seen.contains f.title).map (·.title)

/-- The settings of a command line, and the arguments left over. -/
def read (g : Grammar σ) (settings : σ) (arguments : List String) :
    Except Stop (σ × List String) :=
  match g.tokens arguments with
  | .error stop => .error stop
  | .ok tokens =>
    match g.readTokens tokens ⟨settings, g.operands, [], [], []⟩ with
    | .error stop => .error stop
    | .ok p =>
      match g.missing p with
      | [] => .ok (p.settings, p.leftOver ++ p.commandLeftOver)
      | missing => .error (g.misuse ("the following arguments are required: "
          ++ ", ".intercalate missing))

/-- The settings of a command line on which no argument is left over. -/
def readAll (g : Grammar σ) (settings : σ) (arguments : List String) : Except Stop σ :=
  match g.read settings arguments with
  | .error stop => .error stop
  | .ok (settings, []) => .ok settings
  | .ok (_, left) => .error (g.misuse ("unrecognized arguments: " ++ " ".intercalate left))

end Grammar

def invalidChoice (given : String) (choices : List String) : String :=
  "invalid choice: " ++ Text.quoted given ++ " (choose from "
    ++ ", ".intercalate (choices.map Text.quoted) ++ ")"

/-- The operand that names one of some commands, each with its grammar. -/
def commands (program title : String) (choose : String → σ → σ)
    (grammars : List (String × Grammar σ)) : Operand σ :=
  .command title fun arguments settings =>
    let name := arguments.head?.getD ""
    match grammars.lookup name with
    | some g => g.read (choose name settings) (arguments.drop 1)
    | none => .error (.misuse program ("argument " ++ title ++ ": "
        ++ invalidChoice name (grammars.map (·.1))))

def oneArgument (change : String → σ → Except String σ) (arguments : List String) (settings : σ) :
    Except String σ :=
  change (arguments.head?.getD "") settings

end DidYouMean.Command
