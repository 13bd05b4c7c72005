import ContentionGovernor.AckMatching
import ContentionGovernor.ActionBudget
import ContentionGovernor.AtomicRejection
import ContentionGovernor.AtomicSave
import ContentionGovernor.Authorization
import ContentionGovernor.Basic
import ContentionGovernor.Choice
import ContentionGovernor.ClassCounters
import ContentionGovernor.Cli
import ContentionGovernor.ClockArithmetic
import ContentionGovernor.Coherence
import ContentionGovernor.Completion
import ContentionGovernor.Conflict
import ContentionGovernor.ConflictAutomaton
import ContentionGovernor.ConflictHistory
import ContentionGovernor.Cooldown
import ContentionGovernor.CrashRecovery
import ContentionGovernor.DanglingEvidence
import ContentionGovernor.Digest
import ContentionGovernor.DispatchSections
import ContentionGovernor.DistCoordinator
import ContentionGovernor.DistExchange
import ContentionGovernor.DistGrammar
import ContentionGovernor.DistOrder
import ContentionGovernor.DistProgress
import ContentionGovernor.DistProtocol
import ContentionGovernor.DistRuns
import ContentionGovernor.DistSafety
import ContentionGovernor.DurableHistory
import ContentionGovernor.DurableLimits
import ContentionGovernor.Engine
import ContentionGovernor.Evaluation
import ContentionGovernor.Evidence
import ContentionGovernor.EvidenceIntegrity
import ContentionGovernor.EvidenceLink
import ContentionGovernor.EvidenceStore
import ContentionGovernor.FenceSafety
import ContentionGovernor.FrameCodec
import ContentionGovernor.FrameIntegrity
import ContentionGovernor.FrameReception
import ContentionGovernor.Governor
import ContentionGovernor.HardLimits
import ContentionGovernor.Hysteresis
import ContentionGovernor.Incarnations
import ContentionGovernor.IndependentEvidence
import ContentionGovernor.InterventionAutomaton
import ContentionGovernor.Isolation
import ContentionGovernor.LastMeasurement
import ContentionGovernor.Lib.Binary64
import ContentionGovernor.Lib.ByteCodec
import ContentionGovernor.Lib.ByteEnum
import ContentionGovernor.Lib.ByteGrammar
import ContentionGovernor.Lib.Checkpoint
import ContentionGovernor.Lib.CrcRegister
import ContentionGovernor.Lib.FileSystem
import ContentionGovernor.Lib.FrameStream
import ContentionGovernor.Lib.IndexedReader
import ContentionGovernor.Lib.LeastByKey
import ContentionGovernor.Lib.OrderedMap
import ContentionGovernor.Lib.ReaderTracking
import ContentionGovernor.Lib.Runs
import ContentionGovernor.Lib.Simulation
import ContentionGovernor.Lifecycle
import ContentionGovernor.LoadedTypes
import ContentionGovernor.MemorySafety
import ContentionGovernor.Net
import ContentionGovernor.Operations
import ContentionGovernor.Persistence
import ContentionGovernor.Policy
import ContentionGovernor.PolicyFence
import ContentionGovernor.Queries
import ContentionGovernor.Ranking
import ContentionGovernor.Replay
import ContentionGovernor.Requests
import ContentionGovernor.RestartFencing
import ContentionGovernor.RestartProgress
import ContentionGovernor.Revalidation
import ContentionGovernor.Severity
import ContentionGovernor.SingleDispatch
import ContentionGovernor.Snapshot
import ContentionGovernor.SnapshotIntegrity
import ContentionGovernor.SnapshotRoundTrip
import ContentionGovernor.Staleness
import ContentionGovernor.SuspendedConflicts
import ContentionGovernor.Targeting
import ContentionGovernor.ThresholdGate
import ContentionGovernor.Thresholds
import ContentionGovernor.Tightening
import ContentionGovernor.Transport
import ContentionGovernor.Verification
import ContentionGovernor.VictimRestart
import ContentionGovernor.VictimTargets
import ContentionGovernor.WindowCaps
import ContentionGovernor.WirePath
