import Mathlib.Data.List.Lex
import DevHarness.Sql.Table
import DevHarness.Workbench.Snapshot

/-!
# The authoritative tables

The rows that `latestTrigger` and `loadFacts` read, and these two queries.  A timestamp of a
row counts microseconds.  Texts are ordered by their units, as with the collation `C`.
-/

namespace DevHarness.Workbench

open JsText
open ControlPlane (GoalStatus)

/-! ## Tables -/

structure ProjectKey where
  organizationId : JsString
  projectId : JsString
  deriving DecidableEq

def WorkbenchProjectionScope.project (scope : WorkbenchProjectionScope) : ProjectKey :=
  ⟨scope.organizationId, scope.projectId⟩

structure GoalRow where
  project : ProjectKey
  id : JsString
  title : JsString
  status : GoalStatus
  version : ℕ
  createdAt : ℤ
  updatedAt : ℤ
  deriving DecidableEq

structure IssueRow where
  project : ProjectKey
  id : JsString
  goalId : JsString
  issueKey : JsString
  revision : ℕ
  title : JsString
  status : IssueStatus
  version : ℕ
  createdAt : ℤ
  updatedAt : ℤ
  deriving DecidableEq

structure DependencyRow where
  project : ProjectKey
  issueId : JsString
  dependsOnIssueId : JsString
  createdAt : ℤ
  deriving DecidableEq

structure RunRow where
  project : ProjectKey
  id : JsString
  issueId : JsString
  attempt : ℕ
  status : RunStatus
  version : ℕ
  startedAt : Option ℤ
  finishedAt : Option ℤ
  updatedAt : ℤ
  deriving DecidableEq

structure JobRow where
  project : ProjectKey
  id : JsString
  issueId : JsString
  runId : JsString
  attempt : ℕ
  state : SchedulerJobState
  phase : JsString
  priority : ℤ
  budget : Json
  deadlineAt : ℤ
  nodeId : Option JsString
  failureCode : Option JsString
  failureReason : Option JsString
  version : ℕ
  createdAt : ℤ
  updatedAt : ℤ
  deriving DecidableEq

structure NodeRow where
  id : JsString
  name : JsString
  status : NodeStatus
  maxConcurrentRuns : ℤ
  heartbeatAt : ℤ
  offlineAfter : ℤ
  updatedAt : ℤ
  deriving DecidableEq

structure LeaseRow where
  id : JsString
  runId : JsString
  nodeId : JsString
  status : LeaseStatus
  acquiredAt : ℤ
  expiresAt : ℤ
  heartbeatAt : ℤ
  deriving DecidableEq

/-- A control is of one project, or of all. -/
structure ControlRow where
  id : JsString
  project : Option ProjectKey
  state : ControlState
  circuitOpenUntil : Option ℤ
  updatedAt : ℤ
  deriving DecidableEq

structure EvidenceRow where
  project : ProjectKey
  id : JsString
  issueId : JsString
  artifactRef : JsString
  createdAt : ℤ
  deriving DecidableEq

structure ArtifactObjectRow where
  project : ProjectKey
  id : JsString
  objectKey : JsString
  artifactKind : ArtifactKind
  digest : JsString
  mediaType : JsString
  sizeBytes : ℕ
  createdAt : ℤ
  deriving DecidableEq

structure ReviewRow where
  project : ProjectKey
  id : JsString
  issueId : JsString
  verdict : ReviewVerdict
  reviewerType : ReviewerType
  reviewerVersion : JsString
  targetCommitSha : JsString
  reviewedAt : ℤ
  deriving DecidableEq

structure DeliveryCandidateRow where
  project : ProjectKey
  id : JsString
  issueId : JsString
  commitSha : Option JsString
  updatedAt : ℤ
  deriving DecidableEq

structure PushReceiptRow where
  candidateId : JsString
  remoteBranch : JsString
  commitSha : JsString
  pushedAt : ℤ
  deriving DecidableEq

structure PullRequestReceiptRow where
  candidateId : JsString
  externalId : JsString
  url : JsString
  status : PullRequestStatus
  deriving DecidableEq

structure LandingReceiptRow where
  candidateId : JsString
  landingCommitSha : JsString
  landedAt : ℤ
  deriving DecidableEq

structure IssuePlanRevisionRow where
  project : ProjectKey
  id : JsString
  deriving DecidableEq

inductive AggregateType
  | goal
  | issue
  | issuePlan
  | run
  | schedulerJob
  | executionControl
  | other
  deriving DecidableEq

structure OutboxRow where
  id : JsString
  organizationId : JsString
  aggregateType : AggregateType
  aggregateId : JsString
  createdAt : ℤ
  deriving DecidableEq

structure AuthoritativeTables where
  goals : List GoalRow
  issues : List IssueRow
  issueDependencies : List DependencyRow
  runs : List RunRow
  schedulerJobs : List JobRow
  executionNodes : List NodeRow
  executionLeases : List LeaseRow
  executionControls : List ControlRow
  evidence : List EvidenceRow
  artifactObjects : List ArtifactObjectRow
  reviews : List ReviewRow
  deliveryCandidates : List DeliveryCandidateRow
  pushReceipts : List PushReceiptRow
  pullRequestReceipts : List PullRequestReceiptRow
  landingReceipts : List LandingReceiptRow
  issuePlanRevisions : List IssuePlanRevisionRow
  outboxEvents : List OutboxRow
  deriving DecidableEq

/-! ## `latestTrigger` -/

structure WorkbenchProjectionCursor where
  occurredAt : ℤ
  eventId : JsString
  deriving DecidableEq

/-- A row of `trigger_candidates`. -/
structure TriggerCandidate where
  id : JsString
  createdAt : ℤ

namespace AuthoritativeTables

variable (tables : AuthoritativeTables) (scope : WorkbenchProjectionScope)

def controls : List ControlRow :=
  tables.executionControls.filter fun control =>
    control.project = none ∨ control.project = some scope.project

def triggers (event : OutboxRow) : Bool :=
  match event.aggregateType with
  | .goal => tables.goals.any fun row =>
    row.id = event.aggregateId ∧ row.project.projectId = scope.projectId
  | .issue => tables.issues.any fun row =>
    row.id = event.aggregateId ∧ row.project.projectId = scope.projectId
  | .issuePlan => tables.issuePlanRevisions.any fun row =>
    row.id = event.aggregateId ∧ row.project.projectId = scope.projectId
  | .run => tables.runs.any fun row =>
    row.id = event.aggregateId ∧ row.project.projectId = scope.projectId
  | .schedulerJob => tables.schedulerJobs.any fun row =>
    row.id = event.aggregateId ∧ row.project.projectId = scope.projectId
  | .executionControl => tables.executionControls.any fun row =>
    row.id = event.aggregateId ∧
      (row.project = none ∨ row.project.map (·.projectId) = some scope.projectId)
  | .other => false

def leases : List LeaseRow :=
  tables.executionLeases.filter fun lease =>
    tables.runs.any fun run => run.id = lease.runId ∧ run.project = scope.project

def nodes : List NodeRow :=
  tables.executionNodes.filter fun node =>
    tables.schedulerJobs.any fun job =>
      job.nodeId = some node.id ∧ job.project = scope.project

/-- `SELECT key, max(at) … GROUP BY key`. -/
def latestOf {Row : Type} (key : Row → JsString) (at' : Row → ℤ) (rows : List Row) :
    List TriggerCandidate :=
  (rows.map key).eraseDups.filterMap fun k =>
    ((rows.filter fun row => key row = k).map at').max?.map fun latest => ⟨k, latest⟩

def triggerCandidates : List TriggerCandidate :=
  (tables.outboxEvents.filter fun event =>
      event.organizationId = scope.organizationId ∧ tables.triggers scope event).map
      (fun event => ⟨event.id, event.createdAt⟩) ++
    (tables.goals.filter fun row => row.project = scope.project).map
      (fun row => ⟨row.id, row.updatedAt⟩) ++
    (tables.issues.filter fun row => row.project = scope.project).map
      (fun row => ⟨row.id, row.updatedAt⟩) ++
    (tables.runs.filter fun row => row.project = scope.project).map
      (fun row => ⟨row.id, row.updatedAt⟩) ++
    (tables.schedulerJobs.filter fun row => row.project = scope.project).map
      (fun row => ⟨row.id, row.updatedAt⟩) ++
    latestOf (·.issueId) (·.createdAt)
      (tables.issueDependencies.filter fun row => row.project = scope.project) ++
    (tables.nodes scope).map (fun node => ⟨node.id, node.heartbeatAt⟩) ++
    (tables.leases scope).map (fun lease => ⟨lease.id, lease.heartbeatAt⟩) ++
    (tables.evidence.filter fun row => row.project = scope.project).map
      (fun row => ⟨row.id, row.createdAt⟩) ++
    (tables.controls scope).map (fun control => ⟨control.id, control.updatedAt⟩)

/-- The newest candidate; its time is read as a `Date`. -/
def latestTrigger : Option WorkbenchProjectionCursor :=
  (Sql.first (Sql.thenByDesc TriggerCandidate.createdAt (Sql.byKeyDesc (units ·.id)))
    (tables.triggerCandidates scope)).map fun row => ⟨millis row.createdAt, row.id⟩

/-! ## `loadFacts` -/

def goalFacts : List GoalProjectionFact :=
  (Sql.orderBy (Sql.byKey (units ·.id))
    (tables.goals.filter fun row => row.project = scope.project)).map fun row =>
      { id := row.id
        title := row.title
        status := row.status
        version := row.version
        createdAt := millis row.createdAt
        updatedAt := millis row.updatedAt }

def issueFacts : List IssueProjectionFact :=
  (Sql.distinctOn (fun row : IssueRow => (row.goalId, row.issueKey))
    (Sql.orderBy (Sql.thenBy (units ·.goalId) (Sql.thenBy (units ·.issueKey)
      (Sql.thenByDesc IssueRow.revision (Sql.byKeyDesc (units ·.id)))))
      (tables.issues.filter fun row => row.project = scope.project))).map fun row =>
        { id := row.id
          goalId := row.goalId
          issueKey := row.issueKey
          title := row.title
          status := row.status
          version := row.version
          createdAt := millis row.createdAt
          updatedAt := millis row.updatedAt }

def dependencyFacts : List IssueDependencyProjectionFact :=
  (Sql.orderBy (Sql.thenBy (units ·.issueId)
    (Sql.byKey (units ·.dependsOnIssueKey)))
    ((tables.issueDependencies.filter fun row =>
        row.project = scope.project ∧ tables.issues.any fun owner => owner.id = row.issueId).flatMap
      fun row =>
        (tables.issues.filter fun dependency => dependency.id = row.dependsOnIssueId).map
          fun dependency =>
            { issueId := row.issueId
              dependsOnIssueId := row.dependsOnIssueId
              dependsOnIssueKey := dependency.issueKey
              satisfied := dependency.status = .completed
              createdAt := millis row.createdAt }))

def runFacts : List RunProjectionFact :=
  (Sql.distinctOn RunRow.issueId
    (Sql.orderBy (Sql.thenBy (units ·.issueId)
      (Sql.thenByDesc RunRow.attempt (Sql.byKeyDesc (units ·.id))))
      (tables.runs.filter fun row => row.project = scope.project))).map fun row =>
        { id := row.id
          issueId := row.issueId
          status := row.status
          version := row.version
          startedAt := row.startedAt.map millis
          finishedAt := row.finishedAt.map millis
          updatedAt := millis row.updatedAt }

def jobFacts : List SchedulerJobProjectionFact :=
  (Sql.distinctOn JobRow.issueId
    (Sql.orderBy (Sql.thenBy (units ·.issueId)
      (Sql.thenByDesc JobRow.attempt (Sql.byKeyDesc (units ·.id))))
      (tables.schedulerJobs.filter fun row => row.project = scope.project))).map fun row =>
        { id := row.id
          issueId := row.issueId
          runId := row.runId
          state := row.state
          phase := row.phase
          priority := row.priority
          budget := row.budget
          deadlineAt := millis row.deadlineAt
          nodeId := row.nodeId
          failureCode := row.failureCode
          failureReason := row.failureReason
          version := row.version
          createdAt := millis row.createdAt
          updatedAt := millis row.updatedAt }

def nodeFacts : List ExecutionNodeProjectionFact :=
  (Sql.orderBy (Sql.byKey (units ·.id)) (tables.nodes scope)).map fun row =>
    { id := row.id
      name := row.name
      status := row.status
      maxConcurrentRuns := row.maxConcurrentRuns
      offlineAfter := millis row.offlineAfter
      updatedAt := millis row.updatedAt }

def leaseFacts : List ExecutionLeaseProjectionFact :=
  (Sql.orderBy (Sql.thenBy (units ·.runId) (Sql.byKeyDesc LeaseRow.acquiredAt))
    (tables.leases scope)).map fun row =>
      { runId := row.runId
        nodeId := row.nodeId
        status := row.status
        expiresAt := millis row.expiresAt
        heartbeatAt := millis row.heartbeatAt }

def controlFacts : List ExecutionControlProjectionFact :=
  (Sql.orderBy (Sql.thenBy (fun row : ControlRow => row.project.isSome)
    (Sql.byKeyDesc ControlRow.updatedAt)) (tables.controls scope)).map fun row =>
      { scopeType := if row.project.isSome then .project else .global
        state := row.state
        circuitOpenUntil := row.circuitOpenUntil.map millis
        updatedAt := millis row.updatedAt }

def evidenceCounts : List EvidenceCount :=
  let rows := tables.evidence.filter fun row => row.project = scope.project
  (Sql.orderBy (Sql.byKey (units ·.id)) (latestOf (·.issueId) (·.createdAt) rows)).map
    fun latest =>
      { issueId := latest.id
        count := (rows.filter fun row => row.issueId = latest.id).length
        updatedAt := millis latest.createdAt }

/-- An artifact and the issue whose evidence names it. -/
structure ArtifactSummary where
  issueId : JsString
  object : ArtifactObjectRow

def artifactSummaries : List ArtifactSummary :=
  Sql.orderBy (Sql.thenBy (units ·.issueId)
    (Sql.thenBy (fun summary => summary.object.createdAt)
      (Sql.byKey (units ·.object.id))))
    ((tables.evidence.filter fun row => row.project = scope.project).flatMap fun row =>
      (tables.artifactObjects.filter fun object =>
        object.project = row.project ∧ object.objectKey = row.artifactRef).map fun object =>
          ⟨row.issueId, object⟩)

def reviewSummaries : List ReviewRow :=
  Sql.distinctOn ReviewRow.issueId
    (Sql.orderBy (Sql.thenBy (units ·.issueId)
      (Sql.thenByDesc ReviewRow.reviewedAt (Sql.byKeyDesc (units ·.id))))
      (tables.reviews.filter fun row => row.project = scope.project))

structure DeliverySummary where
  candidate : DeliveryCandidateRow
  push : Option PushReceiptRow
  pullRequest : Option PullRequestReceiptRow
  landing : Option LandingReceiptRow

def deliverySummaries : List DeliverySummary :=
  Sql.distinctOn (fun summary : DeliverySummary => summary.candidate.issueId)
    (Sql.orderBy (Sql.thenBy (units ·.candidate.issueId)
      (Sql.thenByDesc (fun summary => summary.candidate.updatedAt)
        (Sql.byKeyDesc (units ·.candidate.id))))
      ((tables.deliveryCandidates.filter fun row => row.project = scope.project).flatMap
        fun candidate =>
          (Sql.leftJoin candidate
            (tables.pushReceipts.filter fun row => row.candidateId = candidate.id)).flatMap
            fun (candidate, push) =>
              (Sql.leftJoin candidate (tables.pullRequestReceipts.filter fun row =>
                row.candidateId = candidate.id)).flatMap fun (candidate, pullRequest) =>
                  (Sql.leftJoin candidate (tables.landingReceipts.filter fun row =>
                    row.candidateId = candidate.id)).map fun (candidate, landing) =>
                      ⟨candidate, push, pullRequest, landing⟩))

def DeliverySummary.pushed (delivery : DeliverySummary) : Option DeliveryPush :=
  delivery.push.bind fun push =>
    if push.remoteBranch = [] ∨ push.commitSha = [] then none
    else some
      { remoteBranch := push.remoteBranch
        commitSha := push.commitSha
        pushedAt := millis push.pushedAt }

def DeliverySummary.opened (delivery : DeliverySummary) : Option DeliveryPullRequest :=
  delivery.pullRequest.bind fun pullRequest =>
    if pullRequest.externalId = [] ∨ pullRequest.url = [] then none
    else some
      { externalId := pullRequest.externalId
        url := pullRequest.url
        status := pullRequest.status }

def DeliverySummary.landed (delivery : DeliverySummary) : Option DeliveryLanding :=
  delivery.landing.bind fun landing =>
    if landing.landingCommitSha = [] then none
    else some
      { commitSha := landing.landingCommitSha
        landedAt := millis landing.landedAt }

def deliveryEvidenceFact (issueId : JsString) (artifacts : List ArtifactObjectRow)
    (review : Option ReviewRow) (delivery : Option DeliverySummary) : DeliveryEvidenceFact :=
  let shown := artifacts.map fun object =>
    { id := object.id
      kind := object.artifactKind
      digest := object.digest
      mediaType := object.mediaType
      sizeBytes := object.sizeBytes
      createdAt := millis object.createdAt : DeliveryEvidenceArtifact }
  let timestamps := shown.map (·.createdAt) ++
    (review.map fun row => millis row.reviewedAt).toList ++
    (delivery.map fun row => millis row.candidate.updatedAt).toList ++
    ((delivery.bind (·.push)).map fun row => millis row.pushedAt).toList ++
    ((delivery.bind (·.landing)).map fun row => millis row.landedAt).toList
  { issueId := issueId
    updatedAt := (timestamps.insertionSort fun left right => right ≤ left).head?.getD 0
    summary :=
      { artifacts := shown
        latestReview := review.map fun row =>
          { verdict := row.verdict
            reviewerType := row.reviewerType
            reviewerVersion := row.reviewerVersion
            targetCommitSha := row.targetCommitSha
            reviewedAt := millis row.reviewedAt }
        commitSha := delivery.bind (·.candidate.commitSha)
        push := delivery.bind DeliverySummary.pushed
        pullRequest := delivery.bind DeliverySummary.opened
        landing := delivery.bind DeliverySummary.landed } }

def deliveryEvidence : List DeliveryEvidenceFact :=
  let artifacts := tables.artifactSummaries scope
  let reviews := tables.reviewSummaries scope
  let deliveries := tables.deliverySummaries scope
  let issueIds := (artifacts.map (·.issueId) ++ reviews.map (·.issueId) ++
    deliveries.map (·.candidate.issueId)).eraseDups
  (sorted issueIds).map fun issueId =>
    deliveryEvidenceFact issueId
      ((artifacts.filter fun summary => summary.issueId = issueId).map (·.object))
      (reviews.find? fun row => row.issueId = issueId)
      (deliveries.find? fun row => row.candidate.issueId = issueId)

def loadFacts : WorkbenchProjectionFacts where
  goals := tables.goalFacts scope
  issues := tables.issueFacts scope
  dependencies := tables.dependencyFacts scope
  runs := tables.runFacts scope
  schedulerJobs := tables.jobFacts scope
  nodes := tables.nodeFacts scope
  leases := tables.leaseFacts scope
  controls := tables.controlFacts scope
  evidenceCounts := tables.evidenceCounts scope
  deliveryEvidence := tables.deliveryEvidence scope

end AuthoritativeTables

end DevHarness.Workbench
