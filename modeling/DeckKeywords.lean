import DeckKeywords.Availability
import DeckKeywords.Cache
import DeckKeywords.Cache.Visit
import DeckKeywords.CommandLine.Answer
import DeckKeywords.CommandLine.Invocation
import DeckKeywords.CommandLine.LogFilter
import DeckKeywords.CommandLine.Options
import DeckKeywords.CommandLine.Run
import DeckKeywords.Config
import DeckKeywords.Config.Load
import DeckKeywords.Config.Toml
import DeckKeywords.Decimal.Power
import DeckKeywords.Decimal.Range
import DeckKeywords.Decimal.Shortest
import DeckKeywords.Detection
import DeckKeywords.Diagnostics
import DeckKeywords.Diagnostics.Emission
import DeckKeywords.Document
import DeckKeywords.Event
import DeckKeywords.Files.FileSystem
import DeckKeywords.Files.FileTree
import DeckKeywords.Host
import DeckKeywords.Json.Decode
import DeckKeywords.Json.Fault
import DeckKeywords.Json.Numeral
import DeckKeywords.Json.Printer
import DeckKeywords.Json.Reader
import DeckKeywords.Json.Tree
import DeckKeywords.Json.Value
import DeckKeywords.Language
import DeckKeywords.Main
import DeckKeywords.Marker
import DeckKeywords.OrderedMap
import DeckKeywords.Override
import DeckKeywords.Path
import DeckKeywords.Proofs.Availability
import DeckKeywords.Proofs.Availability.Slices
import DeckKeywords.Proofs.Cache.History
import DeckKeywords.Proofs.Cache.Instances
import DeckKeywords.Proofs.Cache.Operations
import DeckKeywords.Proofs.Cache.Reports
import DeckKeywords.Proofs.Cache.Staleness
import DeckKeywords.Proofs.CommandLine.Agreement
import DeckKeywords.Proofs.CommandLine.Failures
import DeckKeywords.Proofs.CommandLine.Keywords
import DeckKeywords.Proofs.CommandLine.Words
import DeckKeywords.Proofs.Config
import DeckKeywords.Proofs.Detection.Accepted
import DeckKeywords.Proofs.Detection.FirstLine
import DeckKeywords.Proofs.Detection.Isolation
import DeckKeywords.Proofs.Detection.Lines
import DeckKeywords.Proofs.Detection.Marker
import DeckKeywords.Proofs.Detection.Numbers
import DeckKeywords.Proofs.Detection.Sidecar
import DeckKeywords.Proofs.Diagnostics.Collector
import DeckKeywords.Proofs.Diagnostics.Observed
import DeckKeywords.Proofs.Json.Codec
import DeckKeywords.Proofs.Json.Equality
import DeckKeywords.Proofs.Json.Layout
import DeckKeywords.Proofs.Json.Members
import DeckKeywords.Proofs.Json.ReadBack
import DeckKeywords.Proofs.Json.Written
import DeckKeywords.Proofs.OrderedMap
import DeckKeywords.Proofs.OrderedMap.Changes
import DeckKeywords.Proofs.OrderedMap.Indexed
import DeckKeywords.Proofs.Override
import DeckKeywords.Proofs.Resolution
import DeckKeywords.Proofs.Segments
import DeckKeywords.Proofs.Service.ReadOnce
import DeckKeywords.Proofs.Service.Reports
import DeckKeywords.Proofs.Service.Segments
import DeckKeywords.Proofs.Service.Sharing
import DeckKeywords.Proofs.Service.Snapshot
import DeckKeywords.Proofs.Service.Versions
import DeckKeywords.Proofs.Service.Visits
import DeckKeywords.Proofs.Table.Meaning
import DeckKeywords.Proofs.Table.Respelled
import DeckKeywords.Proofs.Table.Spelling
import DeckKeywords.Proofs.Taxonomy.Json
import DeckKeywords.Proofs.Taxonomy.Lookups
import DeckKeywords.Proofs.Taxonomy.Projection
import DeckKeywords.Proofs.Taxonomy.Recognised
import DeckKeywords.Proofs.Taxonomy.Search
import DeckKeywords.Proofs.Taxonomy.Statistics
import DeckKeywords.Proofs.Taxonomy.Traversal
import DeckKeywords.Proofs.Taxonomy.Validation
import DeckKeywords.Proofs.Taxonomy.Verbatim
import DeckKeywords.Proofs.Text.Digit
import DeckKeywords.Proofs.Text.Letters
import DeckKeywords.Proofs.Text.Matcher
import DeckKeywords.Proofs.Text.Positional
import DeckKeywords.Proofs.Text.Recased
import DeckKeywords.Proofs.Text.Sigma
import DeckKeywords.Proofs.Text.Split
import DeckKeywords.Proofs.Text.Trim
import DeckKeywords.Proofs.Text.Upper
import DeckKeywords.Proofs.Text.Word
import DeckKeywords.RawTable
import DeckKeywords.Resolution
import DeckKeywords.Sample
import DeckKeywords.Service
import DeckKeywords.Session
import DeckKeywords.Sidecar
import DeckKeywords.TableSource
import DeckKeywords.Taxonomy
import DeckKeywords.Taxonomy.Json
import DeckKeywords.Taxonomy.Search
import DeckKeywords.Taxonomy.Statistics
import DeckKeywords.Taxonomy.Validation
import DeckKeywords.Text.Alphanumeric
import DeckKeywords.Text.Blank
import DeckKeywords.Text.ByteOrderMark
import DeckKeywords.Text.Case
import DeckKeywords.Text.Case.Cased
import DeckKeywords.Text.Case.Lower
import DeckKeywords.Text.Case.Run
import DeckKeywords.Text.Case.Upper
import DeckKeywords.Text.CodeRanges
import DeckKeywords.Text.Digit
import DeckKeywords.Text.Matcher
import DeckKeywords.Text.Positional
import DeckKeywords.Text.Quoted
import DeckKeywords.Text.RegularExpression
import DeckKeywords.Text.RegularExpression.Atom
import DeckKeywords.Text.RegularExpression.Bracket
import DeckKeywords.Text.Split
import DeckKeywords.Text.Unprintable
import DeckKeywords.Text.Word
import DeckKeywords.Toml.Node
import DeckKeywords.Toml.Printer
import DeckKeywords.Toml.Quoted
import DeckKeywords.Toml.Reader
import DeckKeywords.Toml.Scalar
import DeckKeywords.VersionTable
