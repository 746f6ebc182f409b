import Refactory.Analysis.Complexity
import Refactory.Analysis.ComplexityReport
import Refactory.Analysis.ImportGraph
import Refactory.Analysis.Names
import Refactory.Analysis.ScopeCheck
import Refactory.Analysis.SyntaxCheck
import Refactory.Campaign.Agent
import Refactory.Campaign.Console
import Refactory.Campaign.Course
import Refactory.Campaign.Dashboard
import Refactory.Campaign.Guarded
import Refactory.Campaign.ModelList
import Refactory.Campaign.Prompt
import Refactory.Campaign.Reply
import Refactory.Campaign.Repository
import Refactory.Campaign.Screen
import Refactory.Campaign.Single
import Refactory.Campaign.Tools
import Refactory.Campaign.World
import Refactory.Double.Basic
import Refactory.Double.Shortest
import Refactory.Double.Text
import Refactory.Failure
import Refactory.Json.Printer
import Refactory.Json.Reader
import Refactory.Main
import Refactory.Memory.Bank
import Refactory.Memory.Checkpoint
import Refactory.Proofs.Campaign.Action
import Refactory.Proofs.Campaign.Copy
import Refactory.Proofs.Campaign.Target
import Refactory.Proofs.Text.Search
import Refactory.Sample.Arithmetic
import Refactory.Sample.Calculator
import Refactory.Sample.Filter
import Refactory.Sample.Permutations
import Refactory.Sample.Price
import Refactory.Sample.Report
import Refactory.Source.Expression
import Refactory.Source.Fault
import Refactory.Source.Format
import Refactory.Source.Literal
import Refactory.Source.Outline
import Refactory.Source.PatternReader
import Refactory.Source.Program
import Refactory.Source.Reader
import Refactory.Source.Statement
import Refactory.Source.Target
import Refactory.Source.Token
import Refactory.Source.Token.Lexer
import Refactory.Source.Token.Numeral
import Refactory.Source.Tree
import Refactory.Table
import Refactory.Text.Blank
import Refactory.Text.Composition
import Refactory.Text.Controls
import Refactory.Text.Decomposition
import Refactory.Text.Identifier
import Refactory.Text.Lines
import Refactory.Text.Normal
import Refactory.Text.Pieces
import Refactory.Text.Printable
import Refactory.Text.Quoted
import Refactory.Text.Range
import Refactory.Text.Search
import Refactory.Text.Uppercase
import Refactory.Text.Utf8
import Refactory.Value.Arithmetic
import Refactory.Value.Basic
import Refactory.Value.Fault
import Refactory.Workspace.Changes
import Refactory.Workspace.Fault
import Refactory.Workspace.Files
import Refactory.Workspace.Path
import Refactory.Workspace.Tree
import Refactory.Workspace.Walk
import Refactory.Proofs.Campaign.Guarded
import Refactory.Proofs.Analysis.Scope
import Refactory.Proofs.Campaign.Single
import Refactory.Proofs.Campaign.Saved
import Refactory.Proofs.Campaign.Verdict
import Refactory.Proofs.Source.Mentions
import Refactory.Proofs.Analysis.KeptNames
import Refactory.Proofs.Analysis.ImportGraph
import Refactory.Proofs.Campaign.Shield
import Refactory.Proofs.Text.Blank
import Refactory.Proofs.Text.Lines
import Refactory.Proofs.Source.Reading
import Refactory.Proofs.Source.Sentence
import Refactory.Proofs.Campaign.Cleaning
import Refactory.Proofs.Campaign.Failure
import Refactory.Proofs.Campaign.Replay
import Refactory.Proofs.Campaign.Reply
import Refactory.Proofs.Campaign.Retest
import Refactory.Proofs.Campaign.Unreadable
import Refactory.Proofs.Source.Ending
import Refactory.Proofs.Source.Lexing
import Refactory.Proofs.Source.Numeral
import Refactory.Proofs.Source.Outline
import Refactory.Proofs.Source.Rounds
import Refactory.Proofs.Source.Trimming
import Refactory.Proofs.Table
import Refactory.Proofs.Text.Utf8
import Refactory.Proofs.Workspace.Path
import Refactory.Proofs.Workspace.Saving
import Refactory.Proofs.Workspace.Walk
import Refactory.Proofs.Sample.Orderings
import Refactory.Proofs.Sample.Permutations
import Refactory.Proofs.Sample.Sessions
import Refactory.Proofs.Campaign.Repair
import Refactory.Proofs.Json.Strings
import Refactory.Proofs.Json.Numbers
import Refactory.Proofs.Json.Normal
import Refactory.Proofs.Json.RoundTrip
import Refactory.Proofs.Workspace.Writing
import Refactory.Proofs.Memory.Bank
import Refactory.Proofs.Memory.Checkpoint
import Refactory.Proofs.Analysis.Complexity
import Refactory.Proofs.Workspace.Frame
import Refactory.Proofs.Campaign.Frame
import Refactory.Proofs.Analysis.Renaming
import Refactory.Proofs.Campaign.Attempts
import Refactory.Proofs.Campaign.Console
import Refactory.Proofs.Campaign.Healing
import Refactory.Proofs.Source.Parts
import Refactory.Proofs.Source.Contexts
import Refactory.Proofs.Source.Giving
import Refactory.Proofs.Source.PlainExpressions
import Refactory.Proofs.Source.TidyPrograms
import Refactory.Proofs.Source.Bindings
import Refactory.Proofs.Analysis.Passing
import Refactory.Proofs.Analysis.Reordering
import Refactory.Proofs.Analysis.LocalNames
import Refactory.Proofs.Workspace.Refill
import Refactory.Proofs.Analysis.BrokenFiles
import Refactory.Proofs.Json.Search
import Refactory.Proofs.Source.Wording
import Refactory.Proofs.Analysis.Unmeasured
import Refactory.Proofs.Analysis.Methods
import Refactory.Proofs.Campaign.Choice
import Refactory.Proofs.Campaign.Interest
import Refactory.Proofs.Value
import Refactory.Proofs.Sample.Arithmetic
import Refactory.Proofs.Memory.Learning
import Refactory.Proofs.Campaign.Tools
