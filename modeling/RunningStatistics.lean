import RunningStatistics.Correlation.Stored
import RunningStatistics.Correlation.Streams
import RunningStatistics.Scalar.Binary64
import RunningStatistics.Scalar.Rational
import RunningStatistics.Session
import RunningStatistics.Proofs.CorrelatorRuns
import RunningStatistics.Proofs.DirectCorrelation
import RunningStatistics.Proofs.Events
import RunningStatistics.Proofs.Finalization
import RunningStatistics.Proofs.SampleSizes
import RunningStatistics.Proofs.ExactGrid
import RunningStatistics.Proofs.Reachability
import RunningStatistics.Proofs.Deliveries
import RunningStatistics.Proofs.Scheduling
import RunningStatistics.Proofs.SkippingAhead
import RunningStatistics.Proofs.Binary64Signs
import RunningStatistics.Proofs.Binary64Rounding
import RunningStatistics.Proofs.Binary64Arithmetic
import RunningStatistics.Proofs.Binary64Order
import RunningStatistics.Proofs.Binary64WholeNumbers
import RunningStatistics.Proofs.Binary64Spans
import RunningStatistics.Proofs.LongerGrids
import RunningStatistics.Proofs.Courses
import RunningStatistics.Proofs.LongerLags
import RunningStatistics.Proofs.Acceptance
import RunningStatistics.Proofs.Projections
import RunningStatistics.Proofs.Columns
import RunningStatistics.Proofs.Components
import RunningStatistics.Proofs.DiscardingStreams
import RunningStatistics.Proofs.ExactLags
import RunningStatistics.Proofs.InPlace
import RunningStatistics.Proofs.RegistryPasses
import RunningStatistics.Proofs.SamplingTimes
import RunningStatistics.Proofs.RegistrationOrder
import RunningStatistics.Proofs.CompressedStreams
import RunningStatistics.Proofs.WholeWidths
import RunningStatistics.Proofs.FlatCorrelators
import RunningStatistics.Proofs.FlatTables
import RunningStatistics.Proofs.FlatIngestion
import RunningStatistics.Proofs.FlatRuns
import RunningStatistics.Proofs.TrapFreedom
import RunningStatistics.Proofs.AcceptedSamples
import RunningStatistics.Proofs.TwoPassMoments
import RunningStatistics.Proofs.Binary64Scaling
import RunningStatistics.Proofs.WordGrids
import RunningStatistics.Proofs.Binary64Overflow
import RunningStatistics.Proofs.TermLayout
import RunningStatistics.Proofs.ResolvedConfigs
import RunningStatistics.Proofs.AcceptedHistories
import RunningStatistics.Proofs.SessionEffects
import RunningStatistics.Proofs.FlatSeries
import RunningStatistics.Proofs.StoredSources
import RunningStatistics.Proofs.LagTimes
import RunningStatistics.Proofs.StoredConfigs
import RunningStatistics.Proofs.LevelHistories
import RunningStatistics.Proofs.Retention
