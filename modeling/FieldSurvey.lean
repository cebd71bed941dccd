import FieldSurvey.Agreement
import FieldSurvey.Binary.Format
import FieldSurvey.Binary.Remainder
import FieldSurvey.Column
import FieldSurvey.CommandLine.EngineOptions
import FieldSurvey.CommandLine.Words
import FieldSurvey.Decimal.Read
import FieldSurvey.Decimal.Render
import FieldSurvey.Decimal.Shortest
import FieldSurvey.Engine.Answer
import FieldSurvey.Engine.Call
import FieldSurvey.Engine.Query
import FieldSurvey.Engine.Settings
import FieldSurvey.Error
import FieldSurvey.Grid.Asked
import FieldSurvey.Grid.Axes
import FieldSurvey.Grid.Index
import FieldSurvey.Grid.Location
import FieldSurvey.Group.Collective
import FieldSurvey.Group.Operations
import FieldSurvey.Group.Payload
import FieldSurvey.Histogram.Asked
import FieldSurvey.Histogram.Basic
import FieldSurvey.Histogram.Given
import FieldSurvey.Histogram.Quantile
import FieldSurvey.Histogram.Steps
import FieldSurvey.Kernel.Asked
import FieldSurvey.Kernel.Binning
import FieldSurvey.Kernel.Entries
import FieldSurvey.Kernel.Extremum
import FieldSurvey.Kernel.Summation
import FieldSurvey.Logging.Record
import FieldSurvey.Logging.Setup
import FieldSurvey.Main
import FieldSurvey.Mesh.Change
import FieldSurvey.Mesh.Document
import FieldSurvey.Mesh.Domain
import FieldSurvey.Mesh.Kind
import FieldSurvey.Mesh.Location
import FieldSurvey.Mesh.Selection
import FieldSurvey.Packed.ArrayForm
import FieldSurvey.Packed.Bytes
import FieldSurvey.Packed.ElementCode
import FieldSurvey.Packed.Reader
import FieldSurvey.Packed.Writer
import FieldSurvey.Proofs.Agreement.ArrayTypes
import FieldSurvey.Proofs.Agreement.Ballots
import FieldSurvey.Proofs.Agreement.Ends
import FieldSurvey.Proofs.Agreement.Queries
import FieldSurvey.Proofs.Agreement.StateVariable
import FieldSurvey.Proofs.Agreement.TopologyName
import FieldSurvey.Proofs.Binary.Arithmetic
import FieldSurvey.Proofs.Binary.Doubles
import FieldSurvey.Proofs.Binary.Negation
import FieldSurvey.Proofs.Binary.Places
import FieldSurvey.Proofs.Binary.Ranks
import FieldSurvey.Proofs.Binary.Rounding
import FieldSurvey.Proofs.Binary.Words
import FieldSurvey.Proofs.CommandLine.Accepted
import FieldSurvey.Proofs.CommandLine.Configuration
import FieldSurvey.Proofs.Engine.Calls
import FieldSurvey.Proofs.Engine.Counting
import FieldSurvey.Proofs.Engine.DefaultBounds
import FieldSurvey.Proofs.Engine.GivenSettings
import FieldSurvey.Proofs.Engine.Programs
import FieldSurvey.Proofs.Engine.Simulation
import FieldSurvey.Proofs.Engine.Solitary
import FieldSurvey.Proofs.Grid.CellCorners
import FieldSurvey.Proofs.Grid.EvenMesh
import FieldSurvey.Proofs.Grid.ExactLocation
import FieldSurvey.Proofs.Grid.Lattice
import FieldSurvey.Proofs.Grid.LogicalIndex
import FieldSurvey.Proofs.Grid.Places
import FieldSurvey.Proofs.Grid.Representations
import FieldSurvey.Proofs.Group.Choosing
import FieldSurvey.Proofs.Group.Deciding
import FieldSurvey.Proofs.Group.Election
import FieldSurvey.Proofs.Group.Exchange
import FieldSurvey.Proofs.Group.Lockstep
import FieldSurvey.Proofs.Group.LongestText
import FieldSurvey.Proofs.Group.Shares
import FieldSurvey.Proofs.Group.Simulation
import FieldSurvey.Proofs.Group.Solitary
import FieldSurvey.Proofs.Group.Telling
import FieldSurvey.Proofs.Histogram.CumulativeLine
import FieldSurvey.Proofs.Histogram.ExactEdges
import FieldSurvey.Proofs.Histogram.ExactQuantile
import FieldSurvey.Proofs.Histogram.ExactSums
import FieldSurvey.Proofs.Histogram.QuantileOrder
import FieldSurvey.Proofs.Kernel.AskedBins
import FieldSurvey.Proofs.Kernel.DoubleBins
import FieldSurvey.Proofs.Kernel.DoubleCounts
import FieldSurvey.Proofs.Kernel.ExactBins
import FieldSurvey.Proofs.Kernel.Extremum
import FieldSurvey.Proofs.Kernel.FirstBest
import FieldSurvey.Proofs.Kernel.Opposite
import FieldSurvey.Proofs.Kernel.Range
import FieldSurvey.Proofs.Kernel.Search
import FieldSurvey.Proofs.Kernel.Tally
import FieldSurvey.Proofs.Kernel.WidenedRange
import FieldSurvey.Proofs.Mesh.Answers
import FieldSurvey.Proofs.Mesh.AnyNumbers
import FieldSurvey.Proofs.Mesh.CellVertices
import FieldSurvey.Proofs.Mesh.DatasetShapes
import FieldSurvey.Proofs.Mesh.ElementVertices
import FieldSurvey.Proofs.Mesh.IndexChecks
import FieldSurvey.Proofs.Mesh.Readers
import FieldSurvey.Proofs.Mesh.Reload
import FieldSurvey.Proofs.Mesh.Sizes
import FieldSurvey.Proofs.Mesh.Stored
import FieldSurvey.Proofs.Mesh.WrittenForm
import FieldSurvey.Proofs.Outcome
import FieldSurvey.Proofs.Packed.Announced
import FieldSurvey.Proofs.Packed.Arrival
import FieldSurvey.Proofs.Packed.Columns
import FieldSurvey.Proofs.Packed.ElementCodes
import FieldSurvey.Proofs.Packed.Limits
import FieldSurvey.Proofs.Packed.Refusal
import FieldSurvey.Proofs.Packed.Relay
import FieldSurvey.Proofs.Packed.RoundTrip
import FieldSurvey.Proofs.Packed.Transit
import FieldSurvey.Proofs.Registry
import FieldSurvey.Proofs.Rows
import FieldSurvey.Proofs.Scalar.Exact
import FieldSurvey.Proofs.Snapshot.Dealing
import FieldSurvey.Proofs.Snapshot.Distribution
import FieldSurvey.Proofs.Snapshot.Portable
import FieldSurvey.Proofs.Snapshot.RoundTrip
import FieldSurvey.Proofs.Statistics.Aggregates
import FieldSurvey.Proofs.Statistics.Coherence
import FieldSurvey.Proofs.Statistics.Counting
import FieldSurvey.Proofs.Statistics.DefinedEntries
import FieldSurvey.Proofs.Statistics.ExactShares
import FieldSurvey.Proofs.Statistics.Extremum
import FieldSurvey.Proofs.Statistics.FiniteRange
import FieldSurvey.Proofs.Statistics.Histogram
import FieldSurvey.Proofs.Statistics.Opposite
import FieldSurvey.Proofs.Statistics.PlainShares
import FieldSurvey.Proofs.Statistics.Quantile
import FieldSurvey.Proofs.Statistics.Repartition
import FieldSurvey.Proofs.Statistics.Search
import FieldSurvey.Proofs.Statistics.Vote
import FieldSurvey.Proofs.Value.Named
import FieldSurvey.Registry
import FieldSurvey.Report
import FieldSurvey.Scalar
import FieldSurvey.Session.Run
import FieldSurvey.Session.Step
import FieldSurvey.Snapshot
import FieldSurvey.Statistics.Distribution
import FieldSurvey.Statistics.Extremum
import FieldSurvey.Statistics.Share
import FieldSurvey.Statistics.Sum
import FieldSurvey.Subscript
import FieldSurvey.Text.Blank
import FieldSurvey.Text.Case
import FieldSurvey.Text.Lines
import FieldSurvey.Text.Printable
import FieldSurvey.Text.Quoted
import FieldSurvey.Value.Arithmetic
import FieldSurvey.Value.ArrayText
import FieldSurvey.Value.Basic
import FieldSurvey.Value.Broadcast
import FieldSurvey.Value.Cast
import FieldSurvey.Value.Comparison
import FieldSurvey.Value.Convert
import FieldSurvey.Value.Shape
import FieldSurvey.Value.Spelling
