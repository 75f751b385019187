import FabricXCommitter.Coordinator.FreshPolicies
import FabricXCommitter.Coordinator.IdleReport
import FabricXCommitter.Coordinator.Intake
import FabricXCommitter.Coordinator.Ownership
import FabricXCommitter.Coordinator.SerialCommit
import FabricXCommitter.DeliverOrderer.Suspicion
import FabricXCommitter.DependencyGraph.Edges
import FabricXCommitter.DependencyGraph.FreedSet
import FabricXCommitter.DependencyGraph.WaitingBound
import FabricXCommitter.Query.BatchKeys
import FabricXCommitter.Query.Isolation
import FabricXCommitter.Query.ViewTimeout
import FabricXCommitter.Sidecar.BlockEvents
import FabricXCommitter.Sidecar.Notifier
import FabricXCommitter.Sidecar.Recovery
import FabricXCommitter.Sidecar.SessionLoop
import FabricXCommitter.Sidecar.SubmissionBarrier
import FabricXCommitter.Slots
import FabricXCommitter.SnapshotHasher
import FabricXCommitter.StateDB.LifecycleSafety
import FabricXCommitter.VC.AcceptedForm
import FabricXCommitter.VC.CheckpointKeys
import FabricXCommitter.VC.CommitRounds
import FabricXCommitter.VC.Versions
