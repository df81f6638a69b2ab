import LabeledSeries.Call.Builtin
import LabeledSeries.Call.Signature
import LabeledSeries.Call.Table
import LabeledSeries.CommandLine.Help
import LabeledSeries.CommandLine.Request
import LabeledSeries.CommandLine.Run
import LabeledSeries.Decimal.Binary
import LabeledSeries.Decimal.Layout
import LabeledSeries.Decimal.Reading
import LabeledSeries.Decimal.Shortest
import LabeledSeries.Dump.Load
import LabeledSeries.Dump.Response
import LabeledSeries.Encoding.Base64
import LabeledSeries.Encoding.Checksum
import LabeledSeries.Engine
import LabeledSeries.Fault
import LabeledSeries.Files
import LabeledSeries.Instant.Correlate
import LabeledSeries.Instant.Distinct
import LabeledSeries.Instant.Join
import LabeledSeries.Instant.Parameters
import LabeledSeries.Instant.Project
import LabeledSeries.Instant.Reduce
import LabeledSeries.Instant.Relabel
import LabeledSeries.Json.Decoding
import LabeledSeries.Json.Document
import LabeledSeries.Json.Double
import LabeledSeries.Json.Reader
import LabeledSeries.Json.Rules
import LabeledSeries.Json.Values
import LabeledSeries.Labels
import LabeledSeries.Main
import LabeledSeries.NameMap
import LabeledSeries.Pattern.Basic
import LabeledSeries.Pattern.CharSet
import LabeledSeries.Pattern.Class
import LabeledSeries.Pattern.Escape
import LabeledSeries.Pattern.Reader
import LabeledSeries.Query.Expr
import LabeledSeries.Query.Formation
import LabeledSeries.Query.Functions
import LabeledSeries.Query.Parser
import LabeledSeries.Query.Quantity
import LabeledSeries.Query.Token
import LabeledSeries.Rule.Decode
import LabeledSeries.Rule.Evaluation
import LabeledSeries.Rule.Filter
import LabeledSeries.Rule.Pod
import LabeledSeries.Rule.Record
import LabeledSeries.Search
import LabeledSeries.Store.Basic
import LabeledSeries.Store.Selection
import LabeledSeries.Store.Table
import LabeledSeries.Store.TableName
import LabeledSeries.Ternary
import LabeledSeries.Text.Blank
import LabeledSeries.Text.CaseFold
import LabeledSeries.Text.Digit
import LabeledSeries.Text.Letter
import LabeledSeries.Text.Name
import LabeledSeries.Text.Printable
import LabeledSeries.Text.Quoted
import LabeledSeries.Text.Ranges
import LabeledSeries.Time
import LabeledSeries.Value
import LabeledSeries.Proofs.Call.ArgumentKinds
import LabeledSeries.Proofs.Call.Checking
import LabeledSeries.Proofs.Call.EmptyLabels
import LabeledSeries.Proofs.Call.Faults
import LabeledSeries.Proofs.Call.Frame
import LabeledSeries.Proofs.Call.Stages
import LabeledSeries.Proofs.Decimal.ReadBack
import LabeledSeries.Proofs.Decimal.Rounding
import LabeledSeries.Proofs.Decimal.Shortest
import LabeledSeries.Proofs.DoubleOrder
import LabeledSeries.Proofs.Dump.Load
import LabeledSeries.Proofs.Dump.Table
import LabeledSeries.Proofs.Dump.Times
import LabeledSeries.Proofs.Encoding.Base64
import LabeledSeries.Proofs.Engine.InstantAndRange
import LabeledSeries.Proofs.Engine.Lookback
import LabeledSeries.Proofs.Engine.MatcherPartition
import LabeledSeries.Proofs.Engine.MetricSpellings
import LabeledSeries.Proofs.Engine.Offset
import LabeledSeries.Proofs.Engine.PodLookup
import LabeledSeries.Proofs.Fallible
import LabeledSeries.Proofs.FirstGreatest
import LabeledSeries.Proofs.Instant.ConditionalLabels
import LabeledSeries.Proofs.Instant.CorrelationLoop
import LabeledSeries.Proofs.Instant.JoinAgreement
import LabeledSeries.Proofs.Instant.NestedLoop
import LabeledSeries.Proofs.Instant.NewestRows
import LabeledSeries.Proofs.Instant.OwnValue
import LabeledSeries.Proofs.Instant.PairTexts
import LabeledSeries.Proofs.Instant.ParameterTexts
import LabeledSeries.Proofs.Instant.Projections
import LabeledSeries.Proofs.Instant.Reductions
import LabeledSeries.Proofs.Instant.Renaming
import LabeledSeries.Proofs.Instant.Tags
import LabeledSeries.Proofs.Json.RoundTrip
import LabeledSeries.Proofs.Labels
import LabeledSeries.Proofs.NameMap
import LabeledSeries.Proofs.Query.Blanks
import LabeledSeries.Proofs.Query.MetricName
import LabeledSeries.Proofs.Query.Offset
import LabeledSeries.Proofs.Query.PodSelector
import LabeledSeries.Proofs.Query.RangeSelector
import LabeledSeries.Proofs.Query.Spellings
import LabeledSeries.Proofs.Rule.DecodedLabels
import LabeledSeries.Proofs.Rule.DerivedMark
import LabeledSeries.Proofs.Rule.EmptyLabels
import LabeledSeries.Proofs.Rule.LabelSafeText
import LabeledSeries.Proofs.Rule.Pipeline
import LabeledSeries.Proofs.Rule.PodLabels
import LabeledSeries.Proofs.Rule.RecordedLabels
import LabeledSeries.Proofs.Rule.Shards
import LabeledSeries.Proofs.Rule.StoredRules
import LabeledSeries.Proofs.Rule.ValidNames
import LabeledSeries.Proofs.StableSort
import LabeledSeries.Proofs.Store.Collecting
import LabeledSeries.Proofs.Store.EqualLabel
import LabeledSeries.Proofs.Store.Grouping
import LabeledSeries.Proofs.Store.RowLabels
import LabeledSeries.Proofs.Store.Selection
import LabeledSeries.Proofs.Store.Signature
import LabeledSeries.Proofs.Store.TableName
import LabeledSeries.Proofs.Ternary
import LabeledSeries.Proofs.Text.ByteOrder
import LabeledSeries.Proofs.Text.Parts
import LabeledSeries.Proofs.Text.Utf8
