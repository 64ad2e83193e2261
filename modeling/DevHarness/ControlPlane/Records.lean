import DevHarness.Text.Json

/-!
# Records of the control plane

Goals, issue plans, verification plans, verifications, gap reports and delivery
reports.  Times are milliseconds.  A verdict that the code compares as a string
but stores as it was received is a `Json` here.
-/

namespace DevHarness.ControlPlane

open JsText

/-- A goal within its organization and project. -/
structure GoalScope where
  organizationId : JsString
  projectId : JsString
  goalId : JsString
  deriving DecidableEq

inductive GoalStatus
  | draft
  | clarifying
  | planning
  | approved
  | executing
  | verifying
  | completed
  | cancelled
  deriving DecidableEq

structure GoalAcceptanceCriterion where
  id : JsString
  position : ℕ
  statement : JsString
  version : ℕ
  deriving DecidableEq

structure GoalContract where
  id : JsString
  organizationId : JsString
  projectId : JsString
  title : JsString
  problemStatement : JsString
  desiredOutcome : JsString
  acceptanceCriteria : List GoalAcceptanceCriterion
  nonGoals : List JsString
  constraints : List JsString
  status : GoalStatus
  version : ℕ
  createdAt : ℕ
  updatedAt : ℕ
  deriving DecidableEq

def GoalContract.scope (goal : GoalContract) : GoalScope where
  organizationId := goal.organizationId
  projectId := goal.projectId
  goalId := goal.id

/-! ## Issue plans -/

inductive CompletionEvidenceKind
  | artifact
  | test
  | review
  | commit
  | push
  | audit
  deriving DecidableEq

structure IssueAcceptance where
  criterionRef : JsString
  statement : JsString
  deriving DecidableEq

structure CompletionEvidenceRequirement where
  kind : CompletionEvidenceKind
  description : JsString
  required : Bool
  deriving DecidableEq

structure IssueConflictResources where
  directories : List JsString
  publicInterfaces : List JsString
  databaseObjects : List JsString
  sharedConfigurations : List JsString
  landingOrder : List JsString
  deriving DecidableEq

structure IssueDraft where
  key : JsString
  title : JsString
  goal : JsString
  requirementRefs : List JsString
  acceptance : List IssueAcceptance
  nonGoals : List JsString
  dependencyCandidates : List JsString
  expectedFiles : List JsString
  conflictResources : IssueConflictResources
  developmentPrompt : JsString
  verify : List JsString
  completionEvidence : List CompletionEvidenceRequirement
  deriving DecidableEq

structure SourceRequirement where
  id : JsString
  acceptanceCriterionRefs : List JsString
  deriving DecidableEq

structure IssuePlanSource where
  specRevisionId : JsString
  specRevisionVersion : ℕ
  specArtifactDigest : JsString
  requirements : List SourceRequirement
  acceptanceCriterionIds : List JsString
  deriving DecidableEq

structure IssuePlannerConfiguration where
  adapter : JsString
  modelProfile : JsString
  deriving DecidableEq

inductive IssueCompilationDiagnosticCode
  | duplicateIssueKey
  | unknownRequirementRef
  | unknownAcceptanceRef
  | acceptanceWithoutRequirement
  | orphanIssue
  | uncoveredRequirement
  | uncoveredAcceptance
  | missingDependency
  | selfDependency
  | duplicateDependency
  | dependencyCycle
  deriving DecidableEq

structure IssueCompilationDiagnostic where
  code : IssueCompilationDiagnosticCode
  path : JsString
  message : JsString
  impact : JsString
  relatedIssueKeys : List JsString
  deriving DecidableEq

structure Coverage where
  covered : List JsString
  uncovered : List JsString
  deriving DecidableEq

structure IssueCompilationResult where
  valid : Bool
  diagnostics : List IssueCompilationDiagnostic
  requirements : Coverage
  acceptanceCriteria : Coverage
  topologicalOrder : List JsString
  deriving DecidableEq

inductive ConflictResourceKind
  | file
  | directory
  | publicInterface
  | databaseObject
  | sharedConfiguration
  | landingOrder
  deriving DecidableEq

structure IssueConflict where
  left : JsString
  right : JsString
  resourceKinds : List ConflictResourceKind
  resourceKeys : List JsString
  reasons : List JsString
  deriving DecidableEq

structure ExecutionWave where
  number : ℕ
  issueKeys : List JsString
  reasons : List JsString
  deriving DecidableEq

inductive CapabilityTier
  | costOptimized
  | generalCoding
  | advancedCoding
  | frontier
  deriving DecidableEq

inductive ReasoningEffort
  | low
  | medium
  | high
  | highest
  deriving DecidableEq

inductive Risk
  | low
  | medium
  | high
  deriving DecidableEq

inductive CodeScope
  | narrow
  | broad
  | extensive
  deriving DecidableEq

inductive Difficulty
  | standard
  | complex
  deriving DecidableEq

structure ModelRoutingFactors where
  risk : Risk
  codeScope : CodeScope
  domainComplexity : Difficulty
  verificationDifficulty : Difficulty
  deriving DecidableEq

structure ModelRouteOverride where
  capabilityTier : CapabilityTier
  reasoningEffort : ReasoningEffort
  actorId : JsString
  reason : JsString
  overriddenAt : ℕ
  deriving DecidableEq

structure ModelRecommendation where
  issueKey : JsString
  capabilityTier : CapabilityTier
  reasoningEffort : ReasoningEffort
  policyRevision : JsString
  factors : ModelRoutingFactors
  reasons : List JsString
  routeOverride : Option ModelRouteOverride
  deriving DecidableEq

inductive IssuePlanStatus
  | draft
  | approved
  | rejected
  | superseded
  deriving DecidableEq

structure IssuePlan where
  id : JsString
  organizationId : JsString
  projectId : JsString
  goalId : JsString
  revision : ℕ
  previousPlanId : Option JsString
  status : IssuePlanStatus
  source : IssuePlanSource
  issues : List IssueDraft
  compilation : IssueCompilationResult
  conflicts : List IssueConflict
  waves : List ExecutionWave
  modelRecommendations : List ModelRecommendation
  plannerRunId : JsString
  plannerConfiguration : IssuePlannerConfiguration
  digest : JsString
  generatedAt : ℕ
  version : ℕ
  createdAt : ℕ
  updatedAt : ℕ
  deriving DecidableEq

def IssuePlan.scope (plan : IssuePlan) : GoalScope where
  organizationId := plan.organizationId
  projectId := plan.projectId
  goalId := plan.goalId

/-! ## Verification plans -/

inductive VerificationEnvironment
  | development
  | test
  | staging
  | production

inductive ReferenceKind
  | command
  | query
  | artifact

inductive VerificationStrategy
  | referenced (type : ReferenceKind) (reference : JsString)
  | manual (instructions : JsString)

def VerificationStrategy.isManual : VerificationStrategy → Bool
  | .referenced _ _ => false
  | .manual _ => true

structure AcceptanceVerificationEntry where
  id : JsString
  criterionRef : JsString
  environment : VerificationEnvironment
  strategy : VerificationStrategy
  successCondition : JsString
  timeoutMs : ℕ
  responsibleParty : JsString

structure VerificationPlanCompilation where
  valid : Bool
  coveredCriterionRefs : List JsString

structure AcceptanceVerificationPlan where
  id : JsString
  organizationId : JsString
  projectId : JsString
  goalId : JsString
  goalVersion : ℕ
  issuePlanId : JsString
  issuePlanVersion : ℕ
  revision : ℕ
  previousPlanId : Option JsString
  entries : List AcceptanceVerificationEntry
  compilation : VerificationPlanCompilation
  digest : JsString
  compiledAt : ℕ
  version : ℕ

def AcceptanceVerificationPlan.scope (plan : AcceptanceVerificationPlan) : GoalScope where
  organizationId := plan.organizationId
  projectId := plan.projectId
  goalId := plan.goalId

/-! ## Verifications -/

inductive CriterionVerificationVerdict
  | passed
  | failed
  | needsManual
  deriving DecidableEq

structure ManualApproval where
  actorId : JsString
  reason : JsString
  signedAt : ℕ
  deriving DecidableEq

structure DeterministicVerificationResult where
  entryId : JsString
  criterionRef : JsString
  status : JsString
  evidenceRefs : List JsString
  summary : JsString
  durationMs : ℤ
  manualApproval : Option ManualApproval
  deriving DecidableEq

/-- The verdict on one criterion; `verdict` is the value that the verifier
returned. -/
structure CriterionVerdict where
  criterionRef : JsString
  verdict : Json
  evidenceRefs : List JsString
  rationale : JsString
  deriving DecidableEq

/-- The verdict on a non-goal or a constraint. -/
structure BoundaryVerdict where
  statement : JsString
  verdict : JsString
  rationale : JsString
  deriving DecidableEq

structure RegressionRisk where
  severity : Json
  description : JsString
  evidenceRefs : List JsString
  deriving DecidableEq

structure GoalVerifierOutput where
  overallVerdict : Json
  criteria : List CriterionVerdict
  nonGoals : List BoundaryVerdict
  constraints : List BoundaryVerdict
  regressionRisks : List RegressionRisk
  deriving DecidableEq

structure GoalVerification where
  id : JsString
  organizationId : JsString
  projectId : JsString
  goalId : JsString
  verificationPlanId : JsString
  issuePlanId : JsString
  revision : ℕ
  previousVerificationId : Option JsString
  goalVersion : ℕ
  verdict : CriterionVerificationVerdict
  deterministicResults : List DeterministicVerificationResult
  verifierOutput : GoalVerifierOutput
  verifierIdentity : JsString
  verifierVersion : JsString
  sessionId : JsString
  verifiedAt : ℕ
  version : ℕ
  deriving DecidableEq

def GoalVerification.scope (verification : GoalVerification) : GoalScope where
  organizationId := verification.organizationId
  projectId := verification.projectId
  goalId := verification.goalId

/-! ## Gap reports -/

inductive GapSourceKind
  | acceptanceCriterion
  | nonGoal
  | constraint

structure VerificationGap where
  sourceKind : GapSourceKind
  sourceRef : JsString
  criterionRef : Option JsString
  currentEvidenceRefs : List JsString
  gap : JsString
  impact : JsString
  suggestedRemediation : JsString

structure VerificationGapReport where
  id : JsString
  organizationId : JsString
  projectId : JsString
  goalId : JsString
  verificationId : JsString
  issuePlanId : JsString
  failedCriterionRefs : List JsString
  preservedEvidenceRefs : List JsString
  gaps : List VerificationGap
  identified : gaps ≠ []
  createdBy : JsString
  createdAt : ℕ
  version : ℕ

def VerificationGapReport.scope (report : VerificationGapReport) : GoalScope where
  organizationId := report.organizationId
  projectId := report.projectId
  goalId := report.goalId

/-- What a receipt says about the plan that remediates the gaps. -/
structure RemediationPlan where
  id : JsString
  previousPlanId : Option JsString
  revision : ℕ
  status : IssuePlanStatus
  compilationValid : Bool
  version : ℕ

structure GapRemediationReceipt where
  reportId : JsString
  plan : RemediationPlan
  preservedEvidenceRefs : List JsString
  actorId : JsString
  reason : JsString
  recordedAt : ℕ

/-! ## Delivery reports -/

inductive RiskSeverity
  | low
  | medium
  | high
  | critical

inductive RiskDisposition
  | accepted
  | monitor
  | blocked
  deriving DecidableEq

structure DeliveryKnownRisk where
  severity : RiskSeverity
  statement : JsString
  disposition : RiskDisposition

structure DeliveryHumanAcceptance where
  actorId : JsString
  reason : JsString
  requestId : JsString
  acceptedAt : ℕ

structure PullRequestReference where
  externalId : JsString
  url : JsString
  status : JsString

structure DeliveryIssueRun where
  issueId : JsString
  issueKey : JsString
  runId : JsString
  status : JsString
  artifactRefs : List JsString
  reviewIds : List JsString
  commitSha : Option JsString
  pullRequest : Option PullRequestReference

/-- An accepted criterion; its verdict is `passed`. -/
structure DeliveryReportAcceptance where
  criterionRef : JsString
  statement : JsString
  evidenceRefs : List JsString
  rationale : JsString

inductive DeliveryReportStatus
  | awaitingHumanAcceptance
  | accepted
  deriving DecidableEq

structure DeliveryReport where
  id : JsString
  organizationId : JsString
  projectId : JsString
  goalId : JsString
  revision : ℕ
  previousReportId : Option JsString
  verificationId : JsString
  verificationPlanId : JsString
  issuePlanId : JsString
  goal : GoalContract
  acceptance : List DeliveryReportAcceptance
  issueRuns : List DeliveryIssueRun
  exceptions : List JsString
  knownRisks : List DeliveryKnownRisk
  regressionRisks : List RegressionRisk
  status : DeliveryReportStatus
  humanAcceptance : Option DeliveryHumanAcceptance
  digest : JsString
  generatedBy : JsString
  generatedAt : ℕ
  version : ℕ

def DeliveryReport.scope (report : DeliveryReport) : GoalScope where
  organizationId := report.organizationId
  projectId := report.projectId
  goalId := report.goalId

structure DeliveryReportSource where
  goal : GoalContract
  issueRuns : List DeliveryIssueRun
  exceptions : List JsString

end DevHarness.ControlPlane
