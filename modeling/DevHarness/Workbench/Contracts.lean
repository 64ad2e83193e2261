import DevHarness.ControlPlane.Records

/-!
# What the workbench shows

Tasks, the snapshot they belong to, and the facts it is built from.  A timestamp is a
`Date`; where the source holds its ISO text, the text is that of this `Date`.
-/

namespace DevHarness.Workbench

open JsText
open ControlPlane (GoalStatus)

/-! ## Tasks -/

inductive View
  | overview
  | scheduler
  | clarify
  | issues
  | run
  | verify
  deriving DecidableEq

inductive StatusTone
  | danger
  | warning
  | info
  | neutral
  deriving DecidableEq

inductive TaskPriority
  | p0
  | p1
  | p2
  deriving DecidableEq

inductive TaskStage
  | running
  | review
  | blocked
  | waiting
  deriving DecidableEq

inductive TaskKind
  | issue
  | gate
  deriving DecidableEq

structure TaskStatus where
  code : JsString
  label : JsString
  tone : StatusTone
  deriving DecidableEq

structure TaskProgress where
  percent : ℕ
  updatedAt : ℤ
  deriving DecidableEq

inductive AttentionSeverity
  | none
  | warning
  | blocking
  deriving DecidableEq

structure TaskAttention where
  required : Bool
  count : ℕ
  severity : AttentionSeverity
  headline : JsString
  rankingReason : JsString
  impact : JsString
  dueAt : Option ℤ
  waitingSeconds : Option ℕ
  blockedTaskCount : Option ℕ
  deriving DecidableEq

inductive ActorType
  | worker
  | scheduler
  | role
  deriving DecidableEq

structure TaskExecutionContext where
  actorType : ActorType
  actorId : Option JsString
  actorLabel : JsString
  elapsedSeconds : ℕ
  nextCheckpoint : JsString
  deriving DecidableEq

inductive TaskActionId
  | reviewEvidence
  | answerQuestions
  | resolveBlocker
  | inspectSchedule
  | inspectRun
  deriving DecidableEq

inductive RequiredRole
  | approver
  | operator
  | viewer
  deriving DecidableEq

structure TaskAction where
  id : TaskActionId
  label : JsString
  available : Bool
  requiredRole : RequiredRole
  targetView : Option View
  deriving DecidableEq

structure TaskDetail where
  dependency : JsString
  evidence : JsString
  workspace : JsString
  deriving DecidableEq

inductive ArtifactKind
  | prompt
  | runLog
  | testOutput
  | buildResult
  | failureEvidence
  deriving DecidableEq

structure DeliveryEvidenceArtifact where
  id : JsString
  kind : ArtifactKind
  digest : JsString
  mediaType : JsString
  sizeBytes : ℕ
  createdAt : ℤ
  deriving DecidableEq

inductive ReviewVerdict
  | approved
  | requestChanges
  | rejected
  deriving DecidableEq

inductive ReviewerType
  | human
  | model
  deriving DecidableEq

structure LatestReview where
  verdict : ReviewVerdict
  reviewerType : ReviewerType
  reviewerVersion : JsString
  targetCommitSha : JsString
  reviewedAt : ℤ
  deriving DecidableEq

structure DeliveryPush where
  remoteBranch : JsString
  commitSha : JsString
  pushedAt : ℤ
  deriving DecidableEq

inductive PullRequestStatus
  | opened
  | merged
  | closed
  deriving DecidableEq

structure DeliveryPullRequest where
  externalId : JsString
  url : JsString
  status : PullRequestStatus
  deriving DecidableEq

structure DeliveryLanding where
  commitSha : JsString
  landedAt : ℤ
  deriving DecidableEq

structure DeliveryEvidenceSummary where
  artifacts : List DeliveryEvidenceArtifact
  latestReview : Option LatestReview
  commitSha : Option JsString
  push : Option DeliveryPush
  pullRequest : Option DeliveryPullRequest
  landing : Option DeliveryLanding
  deriving DecidableEq

structure GlobalTask where
  id : JsString
  version : ℕ
  goalId : JsString
  title : JsString
  kind : TaskKind
  priority : TaskPriority
  stage : TaskStage
  status : TaskStatus
  progress : TaskProgress
  attention : TaskAttention
  execution : TaskExecutionContext
  action : TaskAction
  detail : TaskDetail
  deliveryEvidence : Option DeliveryEvidenceSummary
  deriving DecidableEq

/-! ## Snapshots -/

inductive TaskFilter
  | all
  | attention
  | running
  | review
  | blocked
  | waiting
  deriving DecidableEq

inductive MetricTone
  | default
  | danger
  | success
  deriving DecidableEq

inductive WorkbenchMetricId
  | attention
  | running
  | activeWorkers
  | blocked
  | completedToday
  | budgetHealth
  deriving DecidableEq

structure WorkbenchMetric where
  id : WorkbenchMetricId
  label : JsString
  value : JsString
  suffix : Option JsString
  detail : JsString
  tone : Option MetricTone
  targetFilter : Option TaskFilter
  targetView : Option View
  deriving DecidableEq

structure TaskFilterCounts where
  all : ℕ
  attention : ℕ
  running : ℕ
  review : ℕ
  blocked : ℕ
  waiting : ℕ
  deriving DecidableEq

structure WorkbenchSummary where
  metrics : List WorkbenchMetric
  taskCounts : TaskFilterCounts
  deriving DecidableEq

structure WorkbenchSnapshot where
  revision : ℕ
  generatedAt : ℤ
  summary : WorkbenchSummary
  tasks : List GlobalTask

/-! ## Facts -/

structure WorkbenchProjectionScope where
  scopeId : JsString
  organizationId : JsString
  projectId : JsString
  deriving DecidableEq

structure GoalProjectionFact where
  id : JsString
  title : JsString
  status : GoalStatus
  version : ℕ
  createdAt : ℤ
  updatedAt : ℤ

inductive IssueStatus
  | draft
  | approved
  | ready
  | inProgress
  | blocked
  | completed
  | cancelled
  deriving DecidableEq

structure IssueProjectionFact where
  id : JsString
  goalId : JsString
  issueKey : JsString
  title : JsString
  status : IssueStatus
  version : ℕ
  createdAt : ℤ
  updatedAt : ℤ
  deriving DecidableEq

structure IssueDependencyProjectionFact where
  issueId : JsString
  dependsOnIssueId : JsString
  dependsOnIssueKey : JsString
  satisfied : Bool
  createdAt : ℤ

inductive RunStatus
  | queued
  | running
  | succeeded
  | failed
  | cancelled
  deriving DecidableEq

structure RunProjectionFact where
  id : JsString
  issueId : JsString
  status : RunStatus
  version : ℕ
  startedAt : Option ℤ
  finishedAt : Option ℤ
  updatedAt : ℤ
  deriving DecidableEq

inductive SchedulerJobState
  | pending
  | claimed
  | starting
  | running
  | retryWait
  | reconciling
  | succeeded
  | failed
  | cancelled
  | blocked
  deriving DecidableEq

structure SchedulerJobProjectionFact where
  id : JsString
  issueId : JsString
  runId : JsString
  state : SchedulerJobState
  phase : JsString
  priority : ℤ
  budget : Json
  deadlineAt : ℤ
  nodeId : Option JsString
  failureCode : Option JsString
  failureReason : Option JsString
  version : ℕ
  createdAt : ℤ
  updatedAt : ℤ
  deriving DecidableEq

inductive NodeStatus
  | online
  | draining
  | offline
  deriving DecidableEq

structure ExecutionNodeProjectionFact where
  id : JsString
  name : JsString
  status : NodeStatus
  maxConcurrentRuns : ℤ
  offlineAfter : ℤ
  updatedAt : ℤ

inductive LeaseStatus
  | active
  | released
  | expired
  deriving DecidableEq

structure ExecutionLeaseProjectionFact where
  runId : JsString
  nodeId : JsString
  status : LeaseStatus
  expiresAt : ℤ
  heartbeatAt : ℤ

inductive ControlScopeType
  | global
  | project

inductive ControlState
  | active
  | paused
  | draining
  | stopped
  deriving DecidableEq

structure ExecutionControlProjectionFact where
  scopeType : ControlScopeType
  state : ControlState
  circuitOpenUntil : Option ℤ
  updatedAt : ℤ

structure EvidenceCount where
  issueId : JsString
  count : ℕ
  updatedAt : ℤ

structure DeliveryEvidenceFact where
  issueId : JsString
  summary : DeliveryEvidenceSummary
  updatedAt : ℤ

structure WorkbenchProjectionFacts where
  goals : List GoalProjectionFact
  issues : List IssueProjectionFact
  dependencies : List IssueDependencyProjectionFact
  runs : List RunProjectionFact
  schedulerJobs : List SchedulerJobProjectionFact
  nodes : List ExecutionNodeProjectionFact
  leases : List ExecutionLeaseProjectionFact
  controls : List ExecutionControlProjectionFact
  evidenceCounts : List EvidenceCount
  deliveryEvidence : List DeliveryEvidenceFact

end DevHarness.Workbench
