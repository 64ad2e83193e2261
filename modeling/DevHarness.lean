import DevHarness.ControlPlane.RemediationRuns
import DevHarness.ControlPlane.GoalCompletion
import DevHarness.Scheduler.FinishedRuns
import DevHarness.ControlPlane.DeclaredSchemas
import DevHarness.Delivery.LatestReview
import DevHarness.Clarifications.Answerable
import DevHarness.SpecApprovals.Linearised
import DevHarness.Workbench.Freshness
import DevHarness.Workbench.LiveUpdates
import DevHarness.Workbench.ExactlyOnce
import DevHarness.Evidence.Retention
import DevHarness.Workbench.TaskIdentities
import DevHarness.Scheduler.Capacity
import DevHarness.Workbench.PageCache
import DevHarness.Scheduler.ReconciliationRequests
import DevHarness.Scheduler.RetriedEvents
import DevHarness.Scheduler.DeliveryOrder
import DevHarness.TaskQueue.Translation
import DevHarness.HostCapacity.RoundRobin
import DevHarness.ControlPlane.PathClaims
import DevHarness.ReleaseCenter.Deliveries
import DevHarness.ReleaseCenter.EventIdentity
import DevHarness.HostCapacity.ProviderTimeout
import DevHarness.HostCapacity.RuntimeLeases
import DevHarness.TaskQueue.CreationOrder
import DevHarness.ControlPlane.IssueCompilation
import DevHarness.CandidateCommit.ReviewedCommit
import DevHarness.Landings.StateMachine
import DevHarness.Workbench.RunPairing
import DevHarness.Delivery.CommitCreation
import DevHarness.TaskQueue.Trigger
import DevHarness.Workbench.Paging
import DevHarness.RunStore.EventLog
import DevHarness.Workbench.RealtimeSafety
import DevHarness.Auth.Recovery
