import Waymark.Completion
import Waymark.Document
import Waymark.Document.File
import Waymark.Files.Path
import Waymark.Files.Tree
import Waymark.Forest
import Waymark.Json.Basic
import Waymark.Json.Span
import Waymark.Json.Text
import Waymark.Marker.Markers
import Waymark.Marker.Matcher
import Waymark.Marker.Token
import Waymark.Outline.Json
import Waymark.Outline.Symbol
import Waymark.Outline.Tree
import Waymark.Pattern.Basic
import Waymark.Pattern.Bracket
import Waymark.Pattern.ClassName
import Waymark.Pattern.Escape
import Waymark.Pattern.Expr
import Waymark.Pattern.Flags
import Waymark.Pattern.Look
import Waymark.Pattern.Node
import Waymark.Pattern.Reader
import Waymark.Pattern.Run
import Waymark.Pattern.Thread
import Waymark.Position
import Waymark.Preferences.Basic
import Waymark.Preferences.File
import Waymark.Preferences.Json
import Waymark.Preferences.Place
import Waymark.Preferences.Yaml
import Waymark.Proofs.Completion
import Waymark.Proofs.Document.Coordinates
import Waymark.Proofs.Document.Copies
import Waymark.Proofs.Document.Edits
import Waymark.Proofs.Document.OnLine
import Waymark.Proofs.Document.Replace
import Waymark.Proofs.Document.Versions
import Waymark.Proofs.Files.Writable
import Waymark.Proofs.Forest
import Waymark.Proofs.Forest.Numbered
import Waymark.Proofs.Marker.Address
import Waymark.Proofs.Marker.Columns
import Waymark.Proofs.Marker.Declaration
import Waymark.Proofs.Marker.Default
import Waymark.Proofs.Marker.Renamed
import Waymark.Proofs.Marker.Suffix
import Waymark.Proofs.Outline.Containment
import Waymark.Proofs.Outline.Detail
import Waymark.Proofs.Outline.Layout
import Waymark.Proofs.Outline.Nest
import Waymark.Proofs.Outline.RoundTrip
import Waymark.Proofs.Outline.Stack
import Waymark.Proofs.Pattern.Forward
import Waymark.Proofs.Pattern.Group
import Waymark.Proofs.Pattern.Lead
import Waymark.Proofs.Pattern.Nearest
import Waymark.Proofs.Pattern.Opening
import Waymark.Proofs.Pattern.Place
import Waymark.Proofs.Pattern.Remainder
import Waymark.Proofs.Pattern.Text
import Waymark.Proofs.Preferences.RoundTrip
import Waymark.Proofs.Region.Cancelled
import Waymark.Proofs.Region.Copies
import Waymark.Proofs.Region.Declared
import Waymark.Proofs.Region.Memo
import Waymark.Proofs.Region.Pairing
import Waymark.Proofs.Region.Published
import Waymark.Proofs.Region.Relabel
import Waymark.Proofs.Region.Reload
import Waymark.Proofs.Region.Rename
import Waymark.Proofs.Region.Roles
import Waymark.Proofs.Region.Target
import Waymark.Proofs.Search.Assignment
import Waymark.Proofs.Search.Below
import Waymark.Proofs.Search.Controller
import Waymark.Proofs.Search.Copying
import Waymark.Proofs.Search.Emphasis
import Waymark.Proofs.Search.Highlight
import Waymark.Proofs.Search.History
import Waymark.Proofs.Search.JumpKeys
import Waymark.Proofs.Search.Meaning
import Waymark.Proofs.Search.Occurrence
import Waymark.Proofs.Search.Predicate
import Waymark.Proofs.Search.Run
import Waymark.Proofs.Search.Shown
import Waymark.Proofs.Search.Subsequence
import Waymark.Proofs.Search.Trace
import Waymark.Proofs.Search.View
import Waymark.Proofs.Search.Walk
import Waymark.Proofs.Search.Work
import Waymark.Proofs.Text.Break
import Waymark.Proofs.Text.Column
import Waymark.Proofs.Text.Line
import Waymark.Proofs.Throttle
import Waymark.Proofs.Unicode.Lower
import Waymark.Proofs.Yaml.Char
import Waymark.Proofs.Yaml.Mapping
import Waymark.Proofs.Yaml.Node
import Waymark.Proofs.Yaml.Number
import Waymark.Proofs.Yaml.Scalar.Block
import Waymark.Proofs.Yaml.Scalar.Plain
import Waymark.Proofs.Yaml.Scalar.Quoted
import Waymark.Proofs.Yaml.Scalar.Write
import Waymark.Proofs.Yaml.Token.Lexer
import Waymark.Proofs.Yaml.Token.Written
import Waymark.Region.Decoration
import Waymark.Region.Parse
import Waymark.Region.Provider
import Waymark.Region.Rename
import Waymark.Search.Controller
import Waymark.Search.Emphasis
import Waymark.Search.Query
import Waymark.Search.Session
import Waymark.Search.Snapshot
import Waymark.Search.View
import Waymark.Text.Column
import Waymark.Text.ColumnSet
import Waymark.Text.Line
import Waymark.Throttle
import Waymark.Unicode.Blank
import Waymark.Unicode.CaseRun
import Waymark.Unicode.Category
import Waymark.Unicode.Fold
import Waymark.Unicode.Lower
import Waymark.Unicode.Ranges
import Waymark.Unicode.Script
import Waymark.Unicode.ScriptExtension
import Waymark.Unicode.Trait
import Waymark.Yaml.Char
import Waymark.Yaml.Node
import Waymark.Yaml.Node.OfTokens
import Waymark.Yaml.Number
import Waymark.Yaml.Scalar.Block
import Waymark.Yaml.Scalar.Gap
import Waymark.Yaml.Scalar.Plain
import Waymark.Yaml.Scalar.Quoted
import Waymark.Yaml.Scalar.Style
import Waymark.Yaml.Scalar.Write
import Waymark.Yaml.Tag
import Waymark.Yaml.Token
import Waymark.Yaml.Token.Lexer
