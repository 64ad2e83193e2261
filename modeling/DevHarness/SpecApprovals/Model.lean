import DevHarness.ControlPlane.Repository
import DevHarness.ControlPlane.SpecArtifact
import DevHarness.Sql.Chain

/-!
# Spec revisions and their approval

The revisions of a goal's specification, the decisions on them, and the two Postgres
repositories that write them: one appends the revision of a generation, the other moves a
revision to its next status together with the record of the decision.
-/

namespace DevHarness.SpecApprovals

open JsText ControlPlane
open ControlStore (replay)

/-! ## Overdesign reviews -/

inductive OverdesignCategory
  | required
  | helpful
  | speculative
  deriving DecidableEq

structure OverdesignReviewItem where
  elementId : JsString
  title : JsString
  category : OverdesignCategory
  requirementRefs : List JsString
  constraintRefs : List JsString
  estimatedCost : Json
  removalImpact : JsString
  evidence : List JsString
  rationale : JsString

structure OverdesignReview where
  policyRevision : JsString
  items : List OverdesignReviewItem

def overdesignPolicyRevision : JsString := js "overdesign-policy.v1"

def intersection (references known : List JsString) : List JsString :=
  (references.filter fun reference => reference ∈ known).eraseDups

/-- `${count} approved acceptance criterion…`. -/
def requiredRationale (count : ℕ) : JsString :=
  js "Directly traces to " ++ js (toString count) ++ js " approved acceptance criterion" ++
    (if count = 1 then [] else js "s") ++ js "."

def helpfulRationale (count : ℕ) : JsString :=
  js "Supports " ++ js (toString count) ++ js " declared constraint" ++
    (if count = 1 then [] else js "s") ++
    js " with explicit evidence, but is not required by an acceptance criterion."

def speculativeRationale : JsString :=
  js "Has no valid acceptance-criterion trace and no evidenced constraint justification; " ++
    js "remove by default."

def classifySolutionElement (criteria constraints : List JsString)
    (element : SpecSolutionElement) : OverdesignReviewItem :=
  let requirementRefs := intersection element.acceptanceCriterionRefs criteria
  let constraintRefs := intersection element.constraintRefs constraints
  let classified : OverdesignCategory × JsString :=
    if 0 < requirementRefs.length then (.required, requiredRationale requirementRefs.length)
    else if 0 < constraintRefs.length ∧ 0 < element.evidence.length then
      (.helpful, helpfulRationale constraintRefs.length)
    else (.speculative, speculativeRationale)
  { elementId := element.id
    title := element.title
    category := classified.1
    requirementRefs := requirementRefs
    constraintRefs := constraintRefs
    estimatedCost := element.estimatedCost
    removalImpact := element.removalImpact
    evidence := element.evidence
    rationale := classified.2 }

def classifySolutionElements (goal : GoalContract) (elements : List SpecSolutionElement) :
    OverdesignReview where
  policyRevision := overdesignPolicyRevision
  items := elements.map
    (classifySolutionElement (goal.acceptanceCriteria.map (·.id)) goal.constraints)

inductive SpecRevisionStatus
  | draft
  | inReview
  | approved
  | rejected
  deriving DecidableEq

structure ImmutableArtifact where
  ref : JsString
  digest : JsString
  sizeBytes : ℕ

structure SpecRevision where
  scope : GoalScope
  id : JsString
  revision : ℕ
  previousRevisionId : Option JsString
  status : SpecRevisionStatus
  sourceGoalVersion : ℕ
  artifact : ImmutableArtifact
  plannerRunId : JsString
  overdesignPolicyRevision : JsString
  overdesignReview : OverdesignReview
  generatedAt : ℤ
  version : ℕ
  createdAt : ℤ
  updatedAt : ℤ

def specNumbering : Sql.Numbering SpecRevision JsString where
  number := SpecRevision.revision
  id := SpecRevision.id
  previous := SpecRevision.previousRevisionId

/-! ## Decisions -/

inductive SpecApprovalDecision
  | submitForReview
  | approve
  | reject
  | requestChanges
  deriving DecidableEq

inductive ScopeChangeOperation
  | add
  | remove
  deriving DecidableEq

inductive ScopeChangeKind
  | requirement
  | nonGoal
  | limitation
  deriving DecidableEq

structure ScopeChange where
  operation : ScopeChangeOperation
  kind : ScopeChangeKind
  value : JsString
  deriving DecidableEq

inductive ApprovalTargetType
  | specRevision
  | issuePlan
  deriving DecidableEq

structure ApprovalTarget where
  type : ApprovalTargetType
  id : JsString
  deriving DecidableEq

structure SpecApprovalDecisionRecord where
  id : JsString
  scope : GoalScope
  specRevisionId : JsString
  subjectVersion : ℕ
  decision : SpecApprovalDecision
  actorId : JsString
  reason : JsString
  requestId : JsString
  policyRevision : JsString
  affectedElementIds : List JsString
  helpfulExceptionElementIds : List JsString
  scopeChanges : List ScopeChange
  retainedElementIds : List JsString
  removedElementIds : List JsString
  createdAt : ℤ

structure SpecApprovalReceipt where
  receiptId : JsString
  target : ApprovalTarget
  previousVersion : ℕ
  currentVersion : ℕ
  decision : SpecApprovalDecision
  actorId : JsString
  reason : JsString
  requestId : JsString
  policyRevision : JsString
  recordedAt : ℤ
  specRevision : SpecRevision
  decisionRecord : SpecApprovalDecisionRecord
  retainedElementIds : List JsString
  removedElementIds : List JsString

inductive SpecApprovalAction
  | reviewSubmitted
  | approved
  | rejected
  | changesRequested

structure SpecApprovalAuditEvent where
  id : JsString
  scope : GoalScope
  actorId : JsString
  action : SpecApprovalAction
  entityId : JsString
  entityVersion : ℕ
  reason : JsString
  requestId : JsString
  policyRevision : JsString
  createdAt : ℤ

/-- The tables, each in the order in which its rows were inserted.  An idempotency record
is held with the receipt that its outbox event carries. -/
structure SpecStore where
  goals : GoalScope → Option GoalContract
  revisions : List SpecRevision
  decisions : List SpecApprovalDecisionRecord
  audits : List SpecApprovalAuditEvent
  idempotency : List (IdempotencyRecord SpecApprovalReceipt)

def specApprovalValidationError (message : JsString) : Thrown where
  name := js "SpecApprovalValidationError"
  message := message

def specGenerationValidationError (message : JsString) : Thrown where
  name := js "SpecGenerationValidationError"
  message := message

def clarificationExpired : Thrown where
  name := js "ClarificationExpiredError"
  message := js "Clarification no longer belongs to the current Goal version or round"

def idempotencyInProgress : Thrown where
  name := js "IdempotencyInProgressError"
  message := js "The command with this Idempotency-Key is still in progress"

/-! ## Repositories -/

structure AppendSpecRevision where
  revision : SpecRevision
  expectedGoalVersion : ℕ
  expectedPreviousRevisionId : Option JsString

structure CommitSpecApproval where
  current : SpecRevision
  next : SpecRevision
  expectedVersion : ℕ
  decision : SpecApprovalDecisionRecord
  audit : SpecApprovalAuditEvent
  eventId : JsString
  idempotency : IdempotencyLookup
  receipt : SpecApprovalReceipt

def hasNoNul (value : JsString) : Bool :=
  decide (∀ u ∈ value, u ≠ 0)

def approvalStorable (key : JsString) (decision : SpecApprovalDecisionRecord) : Bool :=
  hasNoNul key && hasNoNul decision.actorId && hasNoNul decision.reason &&
    hasNoNul decision.requestId && hasNoNul decision.policyRevision &&
    decision.affectedElementIds.all hasNoNul &&
    decision.helpfulExceptionElementIds.all hasNoNul &&
    decision.scopeChanges.all fun change => hasNoNul change.value

namespace SpecStore

variable (store : SpecStore)

def revisionsOf (scope : GoalScope) : List SpecRevision :=
  store.revisions.filter fun revision => revision.scope = scope

/-- `ORDER BY revision`. -/
def list (scope : GoalScope) : List SpecRevision :=
  Sql.orderBy (Sql.ascending specNumbering) (store.revisionsOf scope)

def get (scope : GoalScope) (specRevisionId : JsString) : Option SpecRevision :=
  (store.list scope).find? fun revision => revision.id = specRevisionId

def getLatest (scope : GoalScope) : Option SpecRevision :=
  (store.list scope).getLast?

def findApprovalReceipt (lookup : IdempotencyLookup) :
    Except Thrown (Option SpecApprovalReceipt) :=
  replay store.idempotency lookup

/-- `INSERT INTO spec_revisions`, with its primary key and
`spec_revisions_goal_revision_uidx`. -/
def insertRevision (revision : SpecRevision) : Except Thrown SpecStore :=
  if ∃ row ∈ store.revisions, row.id = revision.id ∨
      row.scope = revision.scope ∧ row.revision = revision.revision then
    .error versionConflict
  else .ok { store with revisions := store.revisions ++ [revision] }

/-- The statements of `append` between `BEGIN` and `COMMIT`. -/
def append (input : AppendSpecRevision) : Except Thrown SpecStore :=
  let scope := input.revision.scope
  if (store.goals scope).map (·.version) ≠ some input.expectedGoalVersion then
    .error clarificationExpired
  else if (Sql.first (Sql.descending specNumbering) (store.revisionsOf scope)).map (·.id) ≠
      input.expectedPreviousRevisionId then
    .error versionConflict
  else store.insertRevision input.revision

def lockLatest (scope : GoalScope) (id : JsString) : Option SpecRevision :=
  (store.revisionsOf scope).find? fun row =>
    row.id = id ∧ ∀ newer ∈ store.revisionsOf scope, newer.revision ≤ row.revision

/-- `UPDATE spec_revisions SET status, version = version + 1, updated_at`. -/
def updateRevision (next : SpecRevision) (expectedVersion : ℕ) : List SpecRevision :=
  store.revisions.map fun row =>
    if row.scope = next.scope ∧ row.id = next.id ∧ row.version = expectedVersion then
      { row with status := next.status, version := row.version + 1, updatedAt := next.updatedAt }
    else row

def claimed (lookup : IdempotencyLookup) : Bool :=
  store.idempotency.any fun record =>
    record.lookup.organizationId = lookup.organizationId ∧
      record.lookup.actorId = lookup.actorId ∧ record.lookup.key = lookup.key

/-- The statements of `commitApproval` after the key has been claimed. -/
def recordApproval (input : CommitSpecApproval) : Except Thrown SpecStore :=
  if store.goals input.current.scope = none then .error versionConflict
  else
    match store.lockLatest input.current.scope input.current.id with
    | none => .error versionConflict
    | some locked =>
      if locked.version ≠ input.expectedVersion ∨ locked.status ≠ input.current.status then
        .error versionConflict
      else if input.next.updatedAt < locked.createdAt then .error databaseError
      else if approvalStorable input.idempotency.key input.decision = false then .error databaseError
      else if (∃ row ∈ store.decisions, row.id = input.decision.id) ∨
          ∃ row ∈ store.audits, row.id = input.audit.id then
        .error idempotencyConflict
      else .ok
        { store with
          revisions := store.updateRevision input.next input.expectedVersion
          decisions := store.decisions ++ [input.decision]
          audits := store.audits ++ [input.audit]
          idempotency := store.idempotency ++ [⟨input.idempotency, input.receipt⟩] }

def commitApproval (input : CommitSpecApproval) :
    Except Thrown SpecApprovalReceipt × SpecStore :=
  if store.claimed input.idempotency then
    match store.findApprovalReceipt input.idempotency with
    | .ok (some receipt) => (.ok receipt, store)
    | .ok none => (.error idempotencyInProgress, store)
    | .error error => (.error error, store)
  else
    match store.recordApproval input with
    | .ok next => (.ok input.receipt, next)
    | .error error => (.error error, store)

end SpecStore

end DevHarness.SpecApprovals
