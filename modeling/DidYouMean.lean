import DidYouMean.Arith
import DidYouMean.Candidate
import DidYouMean.Command.Evaluate
import DidYouMean.Command.Grammar
import DidYouMean.Command.Reader
import DidYouMean.Command.Report
import DidYouMean.Command.Run
import DidYouMean.Command.Settings
import DidYouMean.Command.Token
import DidYouMean.Decimal.Binary
import DidYouMean.Decimal.Fixed
import DidYouMean.Decimal.Shortest
import DidYouMean.Evaluation.Basic
import DidYouMean.Evaluation.Mean
import DidYouMean.Files.Path
import DidYouMean.Files.Tree
import DidYouMean.Gold
import DidYouMean.Json.Printer
import DidYouMean.Json.Reader
import DidYouMean.Json.Value
import DidYouMean.Limit
import DidYouMean.Log
import DidYouMean.Main
import DidYouMean.Name.File
import DidYouMean.Name.Normal
import DidYouMean.Name.Segments
import DidYouMean.Name.Tokens
import DidYouMean.Pool
import DidYouMean.Proofs.Command.ExitStatus
import DidYouMean.Proofs.Command.Explanations
import DidYouMean.Proofs.Evaluation.Cutoffs
import DidYouMean.Proofs.Evaluation.ExactMean
import DidYouMean.Proofs.Evaluation.RecallBounds
import DidYouMean.Proofs.Files.Tree
import DidYouMean.Proofs.Gold
import DidYouMean.Proofs.Json.Shown
import DidYouMean.Proofs.Name.File
import DidYouMean.Proofs.Name.Normal
import DidYouMean.Proofs.Name.Segments
import DidYouMean.Proofs.Name.Tokens
import DidYouMean.Proofs.Ranking.Additions
import DidYouMean.Proofs.Ranking.BlankQueries
import DidYouMean.Proofs.Ranking.Board
import DidYouMean.Proofs.Ranking.HighScores
import DidYouMean.Proofs.Ranking.Parts
import DidYouMean.Proofs.Ranking.PlainNames
import DidYouMean.Proofs.Ranking.Raising
import DidYouMean.Proofs.Ranking.Reading
import DidYouMean.Proofs.Ranking.Selection
import DidYouMean.Proofs.Ranking.Spellings
import DidYouMean.Proofs.Ranking.Suggestions
import DidYouMean.Proofs.Ranking.Tiers
import DidYouMean.Proofs.Repeats
import DidYouMean.Proofs.Score.Double
import DidYouMean.Proofs.Score.DoubleOperations
import DidYouMean.Proofs.Score.DoubleOrder
import DidYouMean.Proofs.Score.DoubleQuotients
import DidYouMean.Proofs.Score.DoubleSign
import DidYouMean.Proofs.Score.DoubleSum
import DidYouMean.Proofs.Score.Namespaces
import DidYouMean.Proofs.Score.Order
import DidYouMean.Proofs.Score.OwnName
import DidYouMean.Proofs.Score.Rounding
import DidYouMean.Proofs.Score.Selections
import DidYouMean.Proofs.Score.Swap
import DidYouMean.Proofs.Service.OwnTypes
import DidYouMean.Proofs.Service.StartUp
import DidYouMean.Proofs.Service.Suggest
import DidYouMean.Proofs.Similarity.Bounds
import DidYouMean.Proofs.Similarity.DoubleBounds
import DidYouMean.Proofs.Similarity.Greedy
import DidYouMean.Proofs.Similarity.Marks
import DidYouMean.Proofs.Similarity.Maximum
import DidYouMean.Proofs.Similarity.Search
import DidYouMean.Proofs.Similarity.Symmetry
import DidYouMean.Proofs.Table.Words
import DidYouMean.Proofs.Text.Blank
import DidYouMean.Proofs.Text.CaseRuns
import DidYouMean.Proofs.Text.LetterCase
import DidYouMean.Proofs.Text.Lines
import DidYouMean.Proofs.Text.Surrogate
import DidYouMean.Proofs.Text.Utf8
import DidYouMean.Proofs.Traversal
import DidYouMean.Proofs.Universe.Addresses
import DidYouMean.Proofs.Universe.Atomicity
import DidYouMean.Proofs.Universe.Cache
import DidYouMean.Proofs.Universe.Freshness
import DidYouMean.Proofs.Universe.Hits
import DidYouMean.Proofs.Universe.Library
import DidYouMean.Proofs.Universe.Missing
import DidYouMean.Proofs.Universe.ScalarField
import DidYouMean.Proofs.Universe.Session
import DidYouMean.Proofs.Universe.Shape
import DidYouMean.Proofs.Universe.ShortNames
import DidYouMean.Proofs.Universe.Tours
import DidYouMean.Ranking.Basic
import DidYouMean.Ranking.Board
import DidYouMean.Ranking.Bonus
import DidYouMean.Refusal
import DidYouMean.Score.Composite
import DidYouMean.Score.Finder
import DidYouMean.Score.Namespaces
import DidYouMean.Score.Weights
import DidYouMean.Service.Basic
import DidYouMean.Service.Request
import DidYouMean.Service.Response
import DidYouMean.Service.Validation
import DidYouMean.Similarity.Jaro
import DidYouMean.Similarity.Matching
import DidYouMean.Symbol.Basic
import DidYouMean.Symbol.Construction
import DidYouMean.Table.Basic
import DidYouMean.Table.Column
import DidYouMean.Table.Record
import DidYouMean.Text.Blank
import DidYouMean.Text.CaseTables
import DidYouMean.Text.Digit
import DidYouMean.Text.Integer
import DidYouMean.Text.LetterCase
import DidYouMean.Text.Lines
import DidYouMean.Text.Printable
import DidYouMean.Text.Quoted
import DidYouMean.Text.Ranges
import DidYouMean.Text.Split
import DidYouMean.Text.Surrogate
import DidYouMean.Text.Utf8
import DidYouMean.Universe.Cache
import DidYouMean.Universe.Library
import DidYouMean.Universe.Load
import DidYouMean.Universe.Reader
import DidYouMean.Universe.Session
import DidYouMean.Universe.Tree
import DidYouMean.Universe.Walk
import DidYouMean.Usage
