import Retouch.Check
import Retouch.Command.Arguments
import Retouch.Command.Request
import Retouch.Command.Run
import Retouch.Command.Style
import Retouch.Decimal.Binary64
import Retouch.Decimal.Shortest
import Retouch.Directory
import Retouch.Edit
import Retouch.Event
import Retouch.FileOperations
import Retouch.FileTree
import Retouch.Identifier
import Retouch.LineDiff
import Retouch.Main
import Retouch.Parse.Damage
import Retouch.Parse.Node
import Retouch.Parse.Pass
import Retouch.Parse.Table
import Retouch.Parse.TreeFile
import Retouch.Path
import Retouch.Position
import Retouch.Query
import Retouch.Reprint
import Retouch.Settings
import Retouch.Settings.Load
import Retouch.Span
import Retouch.Splice
import Retouch.Text.Bytes
import Retouch.Text.Cut
import Retouch.Text.Digits
import Retouch.Text.Escape
import Retouch.Text.Lines
import Retouch.Text.Quoted
import Retouch.Token.Literal
import Retouch.Token.Name
import Retouch.Token.Reader
import Retouch.Token.Trivia
import Retouch.Toml.Diagnosis
import Retouch.Toml.Document
import Retouch.Toml.Fault
import Retouch.Toml.Outline
import Retouch.Toml.Piece
import Retouch.Toml.Quotation
import Retouch.Toml.Reader
import Retouch.Toml.Report
import Retouch.Toml.Scalar
import Retouch.Toml.Value
import Retouch.Tree
import Retouch.Unicode.Identifier
import Retouch.Unicode.Ranges
import Retouch.Unicode.Visible
import Retouch.Walk
import Retouch.Proofs.Offset
import Retouch.Proofs.Bounds
import Retouch.Proofs.Ranges
import Retouch.Proofs.Sort
import Retouch.Proofs.Outcome
import Retouch.Proofs.Strict
import Retouch.Proofs.Discovery
import Retouch.Proofs.Bytes
import Retouch.Proofs.NodeSpan
import Retouch.Proofs.Outermost
import Retouch.Proofs.PassReprint
import Retouch.Proofs.ForeignText
import Retouch.Proofs.EntryPoints
import Retouch.Proofs.FileTreeContent
import Retouch.Proofs.PathFollow
import Retouch.Proofs.PathResolution
import Retouch.Proofs.Writing
import Retouch.Proofs.CommandLine
import Retouch.Proofs.RequestRun
import Retouch.Proofs.SyntaxDamage
import Retouch.Proofs.OneAtATime
import Retouch.Proofs.Conflict
import Retouch.Proofs.MissingBound
import Retouch.Proofs.NodeCut
import Retouch.Proofs.Clamping
import Retouch.Proofs.Conservation
import Retouch.Proofs.MatchPaths
import Retouch.Proofs.Renaming
import Retouch.Proofs.LineCut
import Retouch.Proofs.PrintedDiff
import Retouch.Proofs.WriteSequence
import Retouch.Proofs.Trivia
import Retouch.Proofs.IdentifierText
import Retouch.Proofs.AcceptedNames
import Retouch.Proofs.TomlStatements
import Retouch.Proofs.TomlLayout
import Retouch.Proofs.SettingsText
import Retouch.Proofs.WrittenSettings
import Retouch.Proofs.SettingsLoading
import Retouch.Proofs.CutChain
import Retouch.Proofs.EscapedText
