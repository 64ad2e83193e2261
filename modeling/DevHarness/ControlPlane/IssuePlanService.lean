import DevHarness.ControlPlane.GoalVerification
import DevHarness.ControlPlane.IssuePlanBuild
import DevHarness.ControlPlane.IssuePlanDraft

/-!
# The issue plan service

`IssuePlanService.createDraft`, `revise` and `approve` as programs.  Each reads
the latest plan before it commits, and the repository checks again what the read
was about.
-/

namespace DevHarness.ControlPlane

open JsText Interleave

def issuePlanApprovalError (message : JsString) : Thrown where
  name := js "IssuePlanApprovalError"
  message := message

/-- `nonBlank` of the issue plan service. -/
def nonBlank (value : JsString) (name : JsString) (maximum : ℕ) : Except Thrown JsString :=
  boundedText issuePlanApprovalError (.string value) name maximum

def issuePlanApprovalPolicyRevision : JsString := js "issue-plan-approval.v1"

structure ApprovalTarget where
  type : JsString
  id : JsString

structure IssuePlanApprovalCommand where
  scope : GoalScope
  target : ApprovalTarget
  expectedVersion : ℤ
  actorId : JsString
  reason : JsString
  requestId : JsString
  idempotencyKey : JsString
  policyRevision : JsString
  decision : IssuePlanApprovalDecision
  affectedItemIds : List JsString
  payload : Json

/-- The digest of a plan and the request hash of an approval are functions of what
they are taken of; `toLowerCase` is that of the platform. -/
structure IssuePlanService where
  planDigest : IssuePlan → JsString
  requestHash : IssuePlanApprovalCommand → JsString
  toLowerCase : JsString → JsString

/-! ## Building a plan -/

structure RouteOverride where
  issueKey : JsString
  route : ModelRouteOverride

structure BuildInput where
  scope : GoalScope
  source : IssuePlanSource
  issues : List IssueDraft
  previous : Option IssuePlan
  plannerRunId : JsString
  plannerConfiguration : IssuePlannerConfiguration
  modelOverrides : List RouteOverride

def routeOf (overrides : List RouteOverride) (issue : IssueDraft) :
    Except Thrown ModelRecommendation :=
  match overrides.find? fun entry => entry.issueKey = issue.key with
  | some entry => withModelRouteOverride (recommendModelRoute issue) entry.route
  | none => .ok (recommendModelRoute issue)

def builtPlan (service : IssuePlanService) (input : BuildInput)
    (recommendations : List ModelRecommendation) (now : ℕ) (id : JsString) : IssuePlan :=
  let execution := scheduleExecutionWaves service.toLowerCase input.issues
  { id := id
    organizationId := input.scope.organizationId
    projectId := input.scope.projectId
    goalId := input.scope.goalId
    revision := (input.previous.map (·.revision)).getD 0 + 1
    previousPlanId := input.previous.map (·.id)
    status := .draft
    source := input.source
    issues := input.issues
    compilation := compileIssuePlan
      { requirements := input.source.requirements
        acceptanceCriterionIds := input.source.acceptanceCriterionIds
        issues := input.issues }
    conflicts := execution.1
    waves := execution.2
    modelRecommendations :=
      recommendations.insertionSort fun left right => left.issueKey ≤ right.issueKey
    plannerRunId := input.plannerRunId
    plannerConfiguration := input.plannerConfiguration
    digest := []
    generatedAt := now
    version := 1
    createdAt := now
    updatedAt := now }

def build (service : IssuePlanService) (input : BuildInput) : ControlProgram IssuePlan := do
  let recommendations ←
    attempt (mapIndexed (fun _ issue => routeOf input.modelOverrides issue) input.issues)
  let now ← await .clock
  let id ← await .newId
  let plan := builtPlan service input recommendations now id
  pure { plan with digest := service.planDigest plan }

structure CreateDraftCommand where
  scope : GoalScope
  source : IssuePlanSource
  draft : Json
  plannerRunId : JsString
  plannerConfiguration : IssuePlannerConfiguration
  actorId : JsString

def createDraft (service : IssuePlanService) (command : CreateDraftCommand) :
    ControlProgram IssuePlan := do
  authorize command.actorId command.scope .issueGenerate
  let issues ← attempt (validateIssuePlanDraft command.draft)
  let previous ← await (.getLatestIssuePlan command.scope)
  let plannerRunId ← attempt (nonBlank command.plannerRunId (js "plannerRunId") 200)
  let plan ← build service
    { scope := command.scope
      source := command.source
      issues := issues
      previous := previous
      plannerRunId := plannerRunId
      plannerConfiguration := command.plannerConfiguration
      modelOverrides := [] }
  await (.appendIssuePlan plan (previous.map (·.id)))

/-! ## Revising -/

structure SubmittedOverride where
  issueKey : JsString
  capabilityTier : CapabilityTier
  reasoningEffort : ReasoningEffort
  reason : JsString

structure ReviseCommand where
  scope : GoalScope
  planId : JsString
  expectedVersion : ℤ
  actorId : JsString
  reason : JsString
  requestId : JsString
  issues : Json
  modelOverrides : List SubmittedOverride

def currentDraft (expectedVersion : ℤ) (current latest : Option IssuePlan) :
    Except Thrown IssuePlan :=
  match current with
  | some plan =>
    if latest.map (·.id) ≠ some plan.id ∨ (plan.version : ℤ) ≠ expectedVersion ∨
        plan.status ≠ .draft then
      .error versionConflict
    else .ok plan
  | none => .error versionConflict

def submittedRoute (actorId : JsString) (submitted : SubmittedOverride) :
    ControlProgram RouteOverride := do
  let reason ← attempt (nonBlank submitted.reason
    (memberName (memberName (js "modelOverrides") submitted.issueKey) (js "reason")) 4000)
  let overriddenAt ← await .clock
  pure
    { issueKey := submitted.issueKey
      route :=
        { capabilityTier := submitted.capabilityTier
          reasoningEffort := submitted.reasoningEffort
          actorId := actorId
          reason := reason
          overriddenAt := overriddenAt } }

def revisedOverrides (current : IssuePlan) (issues : List IssueDraft)
    (submitted : List RouteOverride) : List RouteOverride :=
  issues.filterMap fun issue =>
    match submitted.find? fun entry => entry.issueKey = issue.key with
    | some entry => some entry
    | none =>
      ((current.modelRecommendations.reverse.find? fun route =>
        route.issueKey = issue.key).bind (·.routeOverride)).map fun route =>
          { issueKey := issue.key, route := route }

def revise (service : IssuePlanService) (command : ReviseCommand) :
    ControlProgram IssuePlan := do
  authorize command.actorId command.scope .issueEdit
  let _reason ← attempt (nonBlank command.reason (js "reason") 4000)
  let _requestId ← attempt (nonBlank command.requestId (js "requestId") 200)
  attempt (require (decide (1 ≤ command.expectedVersion))
    (issuePlanApprovalError (js "expectedVersion must be positive")))
  let found ← await (.getIssuePlan command.scope command.planId)
  let latest ← await (.getLatestIssuePlan command.scope)
  let current ← attempt (currentDraft command.expectedVersion found latest)
  let issues ← attempt (validateIssuePlanDraft (.object
    [(js "schemaVersion", .string issuePlanDraftSchemaVersion),
      (js "issues", command.issues)]))
  let submittedKeys := command.modelOverrides.map (·.issueKey)
  attempt (require
    (decide (submittedKeys.Nodup ∧ ∀ key ∈ submittedKeys, key ∈ issues.map (·.key)))
    (issuePlanApprovalError
      (js "modelOverrides must identify unique Issues in the revised plan")))
  let submitted ← Program.forEach (submittedRoute command.actorId) command.modelOverrides
  let plan ← build service
    { scope := command.scope
      source := current.source
      issues := issues
      previous := some current
      plannerRunId := current.plannerRunId
      plannerConfiguration := current.plannerConfiguration
      modelOverrides := revisedOverrides current issues submitted }
  await (.appendIssuePlan plan (some current.id))

/-! ## Approving -/

def checkApproval (command : IssuePlanApprovalCommand) :
    Except Thrown (JsString × JsString × JsString) := do
  require
    (decide (command.target.type = js "issue_plan" ∧ command.target.id ≠ [] ∧
      1 ≤ command.expectedVersion ∧ command.policyRevision = issuePlanApprovalPolicyRevision))
    (issuePlanApprovalError (js "approval target, version, or policy is invalid"))
  let actorId ← nonBlank command.actorId (js "actorId") 200
  let reason ← nonBlank command.reason (js "reason") 4000
  let requestId ← nonBlank command.requestId (js "requestId") 200
  let _key ← nonBlank command.idempotencyKey (js "idempotencyKey") 200
  require (decide (command.payload = .object [] ∧ command.affectedItemIds ≠ []))
    (issuePlanApprovalError (js "approval command is incomplete"))
  pure (actorId, reason, requestId)

def checkDecidable (command : IssuePlanApprovalCommand) (current : IssuePlan) :
    Except Thrown Unit := do
  require (decide (sorted command.affectedItemIds = sorted (current.issues.map (·.key))))
    (issuePlanApprovalError (js "affectedItemIds must bind every Issue in this plan revision"))
  require
    (decide (command.decision = .approve →
      current.compilation.valid = true ∧
        (current.waves.flatMap (·.issueKeys)).length = current.issues.length ∧
        current.modelRecommendations.length = current.issues.length))
    (issuePlanApprovalError (js "invalid or incomplete plans cannot be approved"))

def statusAfter : IssuePlanApprovalDecision → IssuePlanStatus
  | .approve => .approved
  | .reject => .rejected
  | .requestChanges => .draft

def decidedPlan (current : IssuePlan) (decision : IssuePlanApprovalDecision)
    (occurredAt : ℕ) : IssuePlan :=
  { current with
    status := statusAfter decision
    version := current.version + 1
    updatedAt := occurredAt }

def decisionRecord (command : IssuePlanApprovalCommand) (current : IssuePlan)
    (checked : JsString × JsString × JsString) (id : JsString) (createdAt : ℕ) :
    IssuePlanApprovalDecisionRecord where
  id := id
  organizationId := command.scope.organizationId
  projectId := command.scope.projectId
  goalId := command.scope.goalId
  issuePlanId := current.id
  subjectVersion := current.version
  planDigest := current.digest
  decision := command.decision
  actorId := checked.1
  reason := checked.2.1
  requestId := checked.2.2
  policyRevision := command.policyRevision
  affectedIssueKeys := sorted command.affectedItemIds
  createdAt := createdAt

def approvalOf (command : IssuePlanApprovalCommand) (current : IssuePlan)
    (record : IssuePlanApprovalDecisionRecord) (receiptId : JsString)
    (lookup : IdempotencyLookup) : CommitIssuePlanApproval :=
  let next := decidedPlan current command.decision record.createdAt
  { current := current
    next := next
    expectedVersion := command.expectedVersion.toNat
    decision := record
    idempotency := lookup
    receipt :=
      { receiptId := receiptId
        targetId := command.target.id
        previousVersion := current.version
        currentVersion := next.version
        decision := command.decision
        actorId := record.actorId
        reason := record.reason
        requestId := record.requestId
        policyRevision := command.policyRevision
        recordedAt := record.createdAt
        plan := next
        planDigest := current.digest
        decisionRecord := record } }

def approve (service : IssuePlanService) (command : IssuePlanApprovalCommand) :
    ControlProgram IssuePlanApprovalReceipt := do
  authorize command.actorId command.scope .issueApprove
  let checked ← attempt (checkApproval command)
  let lookup : IdempotencyLookup :=
    { organizationId := command.scope.organizationId
      actorId := checked.1
      key := command.idempotencyKey
      requestHash := service.requestHash command }
  let replay ← await (.findApprovalReceipt lookup)
  match replay with
  | some receipt => pure receipt
  | none => do
    let found ← await (.getIssuePlan command.scope command.target.id)
    let latest ← await (.getLatestIssuePlan command.scope)
    let current ← attempt (currentDraft command.expectedVersion found latest)
    attempt (checkDecidable command current)
    let occurredAt ← await .clock
    let decisionId ← await .newId
    let receiptId ← await .newId
    let _eventId ← await .newId
    let _auditId ← await .newId
    await (.commitApproval
      (approvalOf command current (decisionRecord command current checked decisionId occurredAt)
        receiptId lookup))

end DevHarness.ControlPlane
