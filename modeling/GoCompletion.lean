import GoCompletion.Datum.Json
import GoCompletion.Signature.Reading
import GoCompletion.Snippet.Basic
import GoCompletion.Scope.Basic
import GoCompletion.Package.Index
import GoCompletion.Package.Choice
import GoCompletion.Import.Wanted
import GoCompletion.Import.Insertion
import GoCompletion.Fuzzy.Filter
import GoCompletion.Settings.Load
import GoCompletion.Settings.Suppression
import GoCompletion.Capability.Daemon
import GoCompletion.Server.Basic
import GoCompletion.Proofs.Signature.Segments
import GoCompletion.Proofs.Signature.Grammar
import GoCompletion.Proofs.Signature.Reading
import GoCompletion.Proofs.Act
import GoCompletion.Proofs.Client.Find
import GoCompletion.Proofs.Session.Frame
import GoCompletion.Proofs.Fuzzy.Filter
import GoCompletion.Proofs.Session.Course
import GoCompletion.Proofs.Session.Operation
import GoCompletion.Proofs.Session.Memory
import GoCompletion.Proofs.Signature.Texts
import GoCompletion.Proofs.Snippet.Parts
import GoCompletion.Proofs.Snippet.Mark
import GoCompletion.Proofs.Snippet.TabStop
import GoCompletion.Proofs.Signature.Characters
import GoCompletion.Proofs.Snippet.Placeholder
import GoCompletion.Proofs.Snippet.Call
import GoCompletion.Proofs.Import.Insertion
import GoCompletion.Proofs.Package.Index
import GoCompletion.Proofs.Package.Choice
import GoCompletion.Proofs.Session.Import
import GoCompletion.Proofs.Scope.Token
import GoCompletion.Proofs.Session.Steady
import GoCompletion.Proofs.Datum.Json
import GoCompletion.Proofs.Document.Locate
import GoCompletion.Proofs.Session.Inquiry
import GoCompletion.Proofs.Provider.Suppressed
import GoCompletion.Proofs.Provider.BlockLists
import GoCompletion.Proofs.Session.Cursor
import GoCompletion.Proofs.Session.Trouble
import GoCompletion.Proofs.Session.Delivery
import GoCompletion.Proofs.Session.Breakdown
import GoCompletion.Proofs.Settings.Layers
import GoCompletion.Proofs.Fault
import GoCompletion.Proofs.Yaml.Slip
import GoCompletion.Proofs.Yaml.Scan
import GoCompletion.Proofs.Yaml.Node
import GoCompletion.Proofs.Yaml.Value
import GoCompletion.Proofs.Settings.Load
import GoCompletion.Proofs.Session.Record
import GoCompletion.Proofs.Session.Configuration
import GoCompletion.Proofs.Server.Run
import GoCompletion.Proofs.Server.Agreement
import GoCompletion.Proofs.Text.Lines
import GoCompletion.Proofs.Document.Cursor
import GoCompletion.Proofs.Completion.Edit
import GoCompletion.Proofs.Completion.Word
import GoCompletion.Proofs.Suggestion.Candidates
import GoCompletion.Proofs.Fuzzy.Score
import GoCompletion.Proofs.Fuzzy.Place
import GoCompletion.Proofs.Scope.Reach
import GoCompletion.Proofs.Scope.Line
import GoCompletion.Proofs.Scope.Ahead
import GoCompletion.Proofs.Scope.Import
import GoCompletion.Proofs.Scope.Block
import GoCompletion.Proofs.Import.Scope
import GoCompletion.Proofs.Capability.Together
import GoCompletion.Proofs.Signature.Shape
import GoCompletion.Proofs.Signature.Division
import GoCompletion.Proofs.Signature.Identifier
import GoCompletion.Proofs.Session.Lookup
import GoCompletion.Proofs.Session.Packages
import GoCompletion.Proofs.Snippet.Shown
import GoCompletion.Proofs.Snippet.Variadic
import GoCompletion.Proofs.Snippet.Candidate
import GoCompletion.Proofs.Snippet.LiteralType
import GoCompletion.Proofs.Snippet.Mirror
import GoCompletion.Proofs.Import.Wanted
import GoCompletion.Proofs.Import.Retry
import GoCompletion.Proofs.Package.Grouping
import GoCompletion.Proofs.Package.Preference
import GoCompletion.Proofs.Signature.Balance
import GoCompletion.Proofs.Fuzzy.Selection
import GoCompletion.Proofs.Completion.Rank
import GoCompletion.Proofs.Client.Locate
import GoCompletion.Proofs.Client.History
import GoCompletion.Proofs.Session.Tools
