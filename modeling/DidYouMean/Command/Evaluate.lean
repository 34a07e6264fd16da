import DidYouMean.Command.Run

/-!
# Running the evaluation program

The evaluation program predicts names for the queries of a gold table and prints how good the
predictions are.

## Main definitions

- `EvaluationSettings`: what its command line says
- `evaluationProgram`: the run for a command line
-/

namespace DidYouMean.Command

/-- What the command line of the evaluation program says. -/
structure EvaluationSettings where
  gold : Path
  names : Path
  cutoffs : List Int

def EvaluationSettings.initial : EvaluationSettings :=
  ⟨Path.ofText "", Path.ofText "", Evaluation.usualCutoffs⟩

/-- What the evaluation program takes on its command line. -/
def evaluationGrammar : Grammar EvaluationSettings :=
  ⟨"namesuggest-eval", [], [
    helpFlag,
    ⟨["--gold"], .one, true, .set (oneArgument fun s settings =>
      .ok { settings with gold := Path.ofText s })⟩,
    ⟨["--names"], .one, true, .set (oneArgument fun s settings =>
      .ok { settings with names := Path.ofText s })⟩,
    ⟨["--k"], .oneOrMore, false, .set fun arguments settings =>
      (arguments.mapM integerArgument).map fun cutoffs => { settings with cutoffs }⟩]⟩

namespace EvaluationSettings

/-- How many names are predicted: as many as the greatest cutoff, and no fewer than usual. -/
def limit (s : EvaluationSettings) : Limit :=
  some (s.cutoffs.foldl max (Limit.usual.getD 0))

def scores (s : EvaluationSettings) (gold : Gold) (names : List String) :
    Evaluation.Scores Float :=
  Evaluation.evaluate (Evaluation.predict (gold.map (·.1)) names s.limit) gold s.cutoffs

def run (s : EvaluationSettings) (files : FileTree) : Run :=
  match readGold files s.gold with
  | .error e => failing [] (.noGold e)
  | .ok gold =>
    match Name.readNames files s.names with
    | .error e => failing [] (.noNames e)
    | .ok names => ⟨evaluationLines (s.scores gold names), [], [], .finished⟩

end EvaluationSettings

/-- The run of the evaluation program for a command line. -/
def evaluationProgram (files : FileTree) (arguments : List String) : Run :=
  match evaluationGrammar.readAll .initial arguments with
  | .error stop => stop.run
  | .ok settings => settings.run files

end DidYouMean.Command
