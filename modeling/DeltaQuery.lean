import DeltaQuery.Accumulator
import DeltaQuery.Accumulator.Arrival
import DeltaQuery.Accumulator.Extremum
import DeltaQuery.Accumulator.LiveValues
import DeltaQuery.Accumulator.Sum
import DeltaQuery.Aggregate
import DeltaQuery.Aggregate.Resolve
import DeltaQuery.Attempt
import DeltaQuery.Binary64
import DeltaQuery.Binary64.Decimal
import DeltaQuery.ByName
import DeltaQuery.Cardinality
import DeltaQuery.CommandLine
import DeltaQuery.CommandLine.Run
import DeltaQuery.Expr
import DeltaQuery.Failure
import DeltaQuery.Formula
import DeltaQuery.Function
import DeltaQuery.Function.Apply
import DeltaQuery.Group
import DeltaQuery.Instant
import DeltaQuery.Instant.Calendar
import DeltaQuery.Instant.Rfc3339
import DeltaQuery.Integer
import DeltaQuery.Json
import DeltaQuery.Json.Parser
import DeltaQuery.Json.Token
import DeltaQuery.Main
import DeltaQuery.Operator
import DeltaQuery.Outline
import DeltaQuery.Pipeline
import DeltaQuery.Plan
import DeltaQuery.Plan.Compile
import DeltaQuery.Plan.Metadata
import DeltaQuery.Plan.Rewrite
import DeltaQuery.Plan.Rule
import DeltaQuery.Proofs.Accumulator
import DeltaQuery.Proofs.AlikePlans
import DeltaQuery.Proofs.Arrival
import DeltaQuery.Proofs.Bounds
import DeltaQuery.Proofs.Calls
import DeltaQuery.Proofs.Cancellation
import DeltaQuery.Proofs.CancelledPlan
import DeltaQuery.Proofs.Changelog
import DeltaQuery.Proofs.Column
import DeltaQuery.Proofs.Compiling
import DeltaQuery.Proofs.Consistency
import DeltaQuery.Proofs.ConsistentPlan
import DeltaQuery.Proofs.EmitModes
import DeltaQuery.Proofs.Exhaustion
import DeltaQuery.Proofs.Extremum
import DeltaQuery.Proofs.ExtremumStrategies
import DeltaQuery.Proofs.FailureKinds
import DeltaQuery.Proofs.FalseAlarm
import DeltaQuery.Proofs.Formula
import DeltaQuery.Proofs.LastRows
import DeltaQuery.Proofs.ListedPlan
import DeltaQuery.Proofs.Listing
import DeltaQuery.Proofs.LiveCount
import DeltaQuery.Proofs.LiveValues
import DeltaQuery.Proofs.Mirrors
import DeltaQuery.Proofs.Pulls
import DeltaQuery.Proofs.Recomputation
import DeltaQuery.Proofs.Rounding
import DeltaQuery.Proofs.Runs
import DeltaQuery.Proofs.Stages
import DeltaQuery.Proofs.Sum
import DeltaQuery.Proofs.Table
import DeltaQuery.Proofs.TakenBack
import DeltaQuery.Proofs.Update
import DeltaQuery.Proofs.ValueKey
import DeltaQuery.Proofs.ValueOrder
import DeltaQuery.Proofs.WellFormed
import DeltaQuery.Record
import DeltaQuery.Settings
import DeltaQuery.Settings.Reading
import DeltaQuery.Sink
import DeltaQuery.Sink.JsonArray
import DeltaQuery.Sink.Writer
import DeltaQuery.Source
import DeltaQuery.Stream
import DeltaQuery.Stream.Feed
import DeltaQuery.Stream.Grouping
import DeltaQuery.Stream.JsonLines
import DeltaQuery.Stream.Row
import DeltaQuery.Stream.Union
import DeltaQuery.Text.Blank
import DeltaQuery.Text.Case
import DeltaQuery.Text.CaseTable
import DeltaQuery.Text.Cased
import DeltaQuery.Text.Escaped
import DeltaQuery.Text.Numeral
import DeltaQuery.Text.Quoted
import DeltaQuery.Text.Ranges
import DeltaQuery.Toml
import DeltaQuery.Toml.Quoted
import DeltaQuery.Value
import DeltaQuery.Value.Json
import DeltaQuery.Value.Text
import DeltaQuery.Proofs.OrderlyRuns
import DeltaQuery.Proofs.Moments
import DeltaQuery.Proofs.DecimalText
import DeltaQuery.Proofs.NumberText
import DeltaQuery.Proofs.JsonText
import DeltaQuery.Proofs.RecordLine
import DeltaQuery.Proofs.ArrayText
import DeltaQuery.Proofs.ArrayRuns
import DeltaQuery.Proofs.Visits
import DeltaQuery.Proofs.LeadingKey
import DeltaQuery.Proofs.SinkColumns
import DeltaQuery.Proofs.NumericOrder
import DeltaQuery.Proofs.RefusedCalls
import DeltaQuery.Proofs.ExactSums
import DeltaQuery.Proofs.DistinctValues
import DeltaQuery.Proofs.LifeCycle
import DeltaQuery.Proofs.ArrivalQueues
import DeltaQuery.Proofs.FullWriters
import DeltaQuery.Proofs.LineByLine
import DeltaQuery.Proofs.FairMerge
import DeltaQuery.Proofs.BooleanLaws
import DeltaQuery.Proofs.SafeFormulas
import DeltaQuery.Proofs.ExactArithmetic
import DeltaQuery.Proofs.BlamedPlaces
import DeltaQuery.Proofs.Calendar
import DeltaQuery.Proofs.FirstSeen
import DeltaQuery.Proofs.InstantText
import DeltaQuery.Proofs.LiveCalls
