import DevHarness.SpecApprovals.Model
import DevHarness.Interleave.Outline

/-!
# Generation and approval of spec revisions

`generate` reads the revisions of a goal, has a specification planned, and appends the
revision that follows the one it has read.  `decide` looks for the receipt of an earlier
delivery, reads the revision and the latest revision of the goal, and commits its decision
on what it has read.
-/

namespace DevHarness.SpecApprovals

open JsText ControlPlane Interleave Program

/-! ## Validation of a decision -/

structure SpecApprovalCommand where
  scope : GoalScope
  target : ApprovalTarget
  expectedVersion : ℕ
  actorId : JsString
  reason : JsString
  requestId : JsString
  idempotencyKey : JsString
  policyRevision : JsString
  decision : SpecApprovalDecision
  affectedItemIds : List JsString
  helpfulExceptionElementIds : List JsString
  scopeChanges : List ScopeChange
  deriving DecidableEq

structure NormalizedApproval where
  actorId : JsString
  reason : JsString
  requestId : JsString
  policyRevision : JsString
  affectedElementIds : List JsString
  helpfulExceptionElementIds : List JsString
  scopeChanges : List ScopeChange

/-- What `canonical` turns into JSON, to be hashed. -/
structure CanonicalApproval where
  scope : GoalScope
  target : ApprovalTarget
  expectedVersion : ℕ
  decision : SpecApprovalDecision
  normalized : NormalizedApproval

/-- `text` of the approval service. -/
def approvalText (value name : JsString) (maximum : ℕ) : Except Thrown JsString :=
  if trim value = [] ∨ maximum < (trim value).length then
    .error (specApprovalValidationError (name ++ js " must be non-blank and bounded"))
  else .ok (trim value)

def ids (value : List JsString) (name : JsString) : Except Thrown (List JsString) := do
  require (value.length ≤ 200) (specApprovalValidationError (name ++ js " must be a bounded list"))
  let normalized ← mapIndexed (fun index item => approvalText item (itemName name index) 64) value
  require normalized.Nodup (specApprovalValidationError (name ++ js " contains duplicates"))
  pure normalized

def changes (value : List ScopeChange) : Except Thrown (List ScopeChange) := do
  require (value.length ≤ 100)
    (specApprovalValidationError (js "scopeChanges must be a bounded list"))
  mapIndexed (fun index change => do
    let text ← approvalText change.value
      (memberName (itemName (js "scopeChanges") index) (js "value")) 4000
    pure { change with value := text }) value

def normalizeApproval (command : SpecApprovalCommand) : Except Thrown NormalizedApproval := do
  let actorId ← approvalText command.actorId (js "actorId") 200
  let reason ← approvalText command.reason (js "reason") 4000
  let requestId ← approvalText command.requestId (js "requestId") 200
  let policyRevision ← approvalText command.policyRevision (js "policyRevision") 100
  let affectedElementIds ← ids command.affectedItemIds (js "affectedItemIds")
  let helpfulExceptionElementIds ←
    ids command.helpfulExceptionElementIds (js "helpfulExceptionElementIds")
  let scopeChanges ← changes command.scopeChanges
  pure
    { actorId := actorId
      reason := reason
      requestId := requestId
      policyRevision := policyRevision
      affectedElementIds := affectedElementIds
      helpfulExceptionElementIds := helpfulExceptionElementIds
      scopeChanges := scopeChanges }

/-- What a delivery does before its first read: the normalized command, and where its
receipt is looked up. -/
def validateDecision (requestHash : CanonicalApproval → JsString)
    (command : SpecApprovalCommand) : Except Thrown (NormalizedApproval × IdempotencyLookup) := do
  require (1 ≤ command.expectedVersion)
    (specApprovalValidationError (js "expectedVersion must be positive"))
  require (command.target.type = .specRevision ∧ command.target.id ≠ [])
    (specApprovalValidationError (js "target must identify a SpecRevision"))
  let normalized ← normalizeApproval command
  let idempotencyKey ← approvalText command.idempotencyKey (js "idempotencyKey") 200
  require (command.decision = .requestChanges ∨ normalized.scopeChanges = [])
    (specApprovalValidationError (js "scopeChanges require request_changes"))
  pure (normalized,
    { organizationId := command.scope.organizationId
      actorId := normalized.actorId
      key := idempotencyKey
      requestHash := requestHash
        { scope := command.scope
          target := command.target
          expectedVersion := command.expectedVersion
          decision := command.decision
          normalized := normalized } })

def SpecApprovalDecision.expectedStatus : SpecApprovalDecision → SpecRevisionStatus
  | .submitForReview => .draft
  | _ => .inReview

def SpecApprovalDecision.nextStatus : SpecApprovalDecision → SpecRevisionStatus
  | .submitForReview => .inReview
  | .approve => .approved
  | .reject => .rejected
  | .requestChanges => .rejected

def SpecApprovalDecision.action : SpecApprovalDecision → SpecApprovalAction
  | .submitForReview => .reviewSubmitted
  | .approve => .approved
  | .reject => .rejected
  | .requestChanges => .changesRequested

def retainedElementIds (decision : SpecApprovalDecision) (items : List OverdesignReviewItem)
    (helpfulExceptions : List JsString) : List JsString :=
  let required := (items.filter fun item => item.category = .required).map (·.elementId)
  if decision = .approve then
    (items.filter fun item =>
      item.elementId ∈ required ∨ item.elementId ∈ helpfulExceptions).map (·.elementId)
  else []

def removedElementIds (decision : SpecApprovalDecision) (items : List OverdesignReviewItem)
    (retained : List JsString) : List JsString :=
  if decision = .submitForReview then []
  else (items.filter fun item => item.elementId ∉ retained).map (·.elementId)

def checkRevision (command : SpecApprovalCommand) (normalized : NormalizedApproval)
    (current : SpecRevision) (latest : Option SpecRevision) : Except Thrown Unit := do
  require (latest.map (·.id) = some current.id) versionConflict
  require (current.version = command.expectedVersion) versionConflict
  require (current.status = command.decision.expectedStatus)
    (specApprovalValidationError
      (if command.decision = .submitForReview then
        js "Only a draft SpecRevision can be submitted for review"
      else js "SpecRevision is not awaiting approval"))
  require (current.overdesignPolicyRevision = normalized.policyRevision)
    (specApprovalValidationError (js "approval policy revision changed"))
  let items := current.overdesignReview.items
  require (normalized.affectedElementIds.all fun id => id ∈ items.map (·.elementId))
    (specApprovalValidationError (js "affectedElementIds contains an unknown item"))
  let helpful := (items.filter fun item => item.category = .helpful).map (·.elementId)
  require (normalized.helpfulExceptionElementIds.all fun id => id ∈ helpful)
    (specApprovalValidationError (js "only Helpful elements can be retained by exception"))

/-! ## Commands -/

structure SpecGenerationCommand where
  scope : GoalScope
  actorId : JsString
  expectedGoalVersion : ℕ
  reason : JsString
  deriving DecidableEq

structure PlannerDraft where
  plannerRunId : JsString
  goalId : JsString
  sourceGoalVersion : ℕ
  output : Json

inductive Permission
  | specGenerate
  | specApprove

inductive SpecCommand
  | authorize (actorId : JsString) (scope : GoalScope) (permission : Permission)
  | getGoal (scope : GoalScope)
  | list (scope : GoalScope)
  | get (scope : GoalScope) (specRevisionId : JsString)
  | getLatest (scope : GoalScope)
  | findApprovalReceipt (lookup : IdempotencyLookup)
  | plan (goal : GoalContract)
  | putArtifact (content : SpecBundle) (createdAt : ℤ) (createdBy : JsString)
  | clock
  | idGenerator
  | append (input : AppendSpecRevision)
  | commitApproval (input : CommitSpecApproval)

def SpecCommand.Answer : SpecCommand → Type
  | .authorize _ _ _ => Unit
  | .getGoal _ => Option GoalContract
  | .list _ => List SpecRevision
  | .get _ _ => Option SpecRevision
  | .getLatest _ => Option SpecRevision
  | .findApprovalReceipt _ => Option SpecApprovalReceipt
  | .plan _ => PlannerDraft
  | .putArtifact _ _ _ => ImmutableArtifact
  | .clock => ℤ
  | .idGenerator => JsString
  | .append _ => SpecRevision
  | .commitApproval _ => SpecApprovalReceipt

/-- What does not depend on the store. -/
structure Outside where
  denied : Option Thrown
  draft : PlannerDraft
  artifact : ImmutableArtifact
  clock : ℤ
  id : JsString

def execSpec (outside : Outside) : (command : SpecCommand) → SpecStore →
    Except Thrown command.Answer × SpecStore
  | .authorize _ _ _, store =>
    match outside.denied with
    | none => (.ok (), store)
    | some error => (.error error, store)
  | .getGoal scope, store => (.ok (store.goals scope), store)
  | .list scope, store => (.ok (store.list scope), store)
  | .get scope specRevisionId, store => (.ok (store.get scope specRevisionId), store)
  | .getLatest scope, store => (.ok (store.getLatest scope), store)
  | .findApprovalReceipt lookup, store => (store.findApprovalReceipt lookup, store)
  | .plan _, store => (.ok outside.draft, store)
  | .putArtifact _ _ _, store => (.ok outside.artifact, store)
  | .clock, store => (.ok outside.clock, store)
  | .idGenerator, store => (.ok outside.id, store)
  | .append input, store =>
    match store.append input with
    | .ok next => (.ok input.revision, next)
    | .error error => (.error error, store)
  | .commitApproval input, store => store.commitApproval input

abbrev SpecProgram := Program SpecCommand SpecCommand.Answer Thrown

abbrev await (command : SpecCommand) : SpecProgram command.Answer :=
  request command

abbrev attempt {α : Type} (result : Except Thrown α) : SpecProgram α :=
  Program.done result

/-! ## Routines -/

/-- The revision after `previous`. -/
def nextRevision (command : SpecGenerationCommand) (goal : GoalContract)
    (previous : Option SpecRevision) (plannerRunId : JsString) (content : SpecBundle)
    (artifact : ImmutableArtifact) (occurredAt : ℤ) (id : JsString) : SpecRevision where
  scope := command.scope
  id := id
  revision := (previous.map (·.revision)).getD 0 + 1
  previousRevisionId := previous.map (·.id)
  status := .draft
  sourceGoalVersion := goal.version
  artifact := artifact
  plannerRunId := plannerRunId
  overdesignPolicyRevision := overdesignPolicyRevision
  overdesignReview := classifySolutionElements goal content.solutionElements
  generatedAt := occurredAt
  version := 1
  createdAt := occurredAt
  updatedAt := occurredAt

/-- `nonBlank` of the generation service. -/
def nonBlank (value name : JsString) (maximum : ℕ) : Except Thrown JsString :=
  if trim value = [] ∨ maximum < (trim value).length then
    .error (specGenerationValidationError (name ++ js " must be non-blank and bounded"))
  else .ok (trim value)

def planningGoal (command : SpecGenerationCommand) (goal : Option GoalContract) :
    Except Thrown GoalContract :=
  match goal with
  | none => .error (specGenerationValidationError (js "Goal was not found"))
  | some goal =>
    if goal.version ≠ command.expectedGoalVersion then .error clarificationExpired
    else if goal.status ≠ .planning then
      .error (specGenerationValidationError
        (js "Goal must be in planning before spec generation"))
    else .ok goal

def generate (command : SpecGenerationCommand) : SpecProgram SpecRevision := do
  let _ ← await (.authorize command.actorId command.scope .specGenerate)
  attempt (require (1 ≤ command.expectedGoalVersion)
    (specGenerationValidationError (js "expectedGoalVersion must be positive")))
  let _ ← attempt (nonBlank command.reason (js "reason") 4000)
  let found ← await (.getGoal command.scope)
  let goal ← attempt (planningGoal command found)
  let revisions ← await (.list command.scope)
  let previous := revisions.getLast?
  let planned ← await (.plan goal)
  attempt (require (planned.goalId = goal.id ∧ planned.sourceGoalVersion = goal.version)
    clarificationExpired)
  let content ← attempt (validateSpecBundle planned.output)
  let occurredAt ← await .clock
  let artifact ← await (.putArtifact content occurredAt command.actorId)
  let id ← await .idGenerator
  await (.append
    { revision := nextRevision command goal previous planned.plannerRunId content artifact
        occurredAt id
      expectedGoalVersion := command.expectedGoalVersion
      expectedPreviousRevisionId := previous.map (·.id) })

/-- The record of a decision on `current`. -/
def decisionRecord (command : SpecApprovalCommand) (normalized : NormalizedApproval)
    (current : SpecRevision) (occurredAt : ℤ) (id : JsString) : SpecApprovalDecisionRecord :=
  let items := current.overdesignReview.items
  let retained := retainedElementIds command.decision items normalized.helpfulExceptionElementIds
  { id := id
    scope := command.scope
    specRevisionId := current.id
    subjectVersion := current.version
    decision := command.decision
    actorId := normalized.actorId
    reason := normalized.reason
    requestId := normalized.requestId
    policyRevision := normalized.policyRevision
    affectedElementIds := normalized.affectedElementIds
    helpfulExceptionElementIds := normalized.helpfulExceptionElementIds
    scopeChanges := normalized.scopeChanges
    retainedElementIds := retained
    removedElementIds := removedElementIds command.decision items retained
    createdAt := occurredAt }

/-- `current` after the decision. -/
def decidedRevision (command : SpecApprovalCommand) (current : SpecRevision)
    (occurredAt : ℤ) : SpecRevision :=
  { current with
    status := command.decision.nextStatus
    version := current.version + 1
    updatedAt := occurredAt }

def approvalReceipt (command : SpecApprovalCommand) (current : SpecRevision)
    (decision : SpecApprovalDecisionRecord) (occurredAt : ℤ) (id : JsString) :
    SpecApprovalReceipt where
  receiptId := id
  target := command.target
  previousVersion := current.version
  currentVersion := current.version + 1
  decision := command.decision
  actorId := decision.actorId
  reason := decision.reason
  requestId := decision.requestId
  policyRevision := decision.policyRevision
  recordedAt := occurredAt
  specRevision := decidedRevision command current occurredAt
  decisionRecord := decision
  retainedElementIds := decision.retainedElementIds
  removedElementIds := decision.removedElementIds

def approvalAudit (command : SpecApprovalCommand) (current : SpecRevision)
    (decision : SpecApprovalDecisionRecord) (occurredAt : ℤ) (id : JsString) :
    SpecApprovalAuditEvent where
  id := id
  scope := command.scope
  actorId := decision.actorId
  action := command.decision.action
  entityId := current.id
  entityVersion := current.version + 1
  reason := decision.reason
  requestId := decision.requestId
  policyRevision := decision.policyRevision
  createdAt := occurredAt

/-- The identifiers that a decision generates, in order. -/
structure ApprovalIds where
  decisionId : JsString
  receiptId : JsString
  auditId : JsString
  eventId : JsString

def approvalInput (command : SpecApprovalCommand) (normalized : NormalizedApproval)
    (lookup : IdempotencyLookup) (current : SpecRevision) (occurredAt : ℤ)
    (ids : ApprovalIds) : CommitSpecApproval :=
  let decision := decisionRecord command normalized current occurredAt ids.decisionId
  { current := current
    next := decidedRevision command current occurredAt
    expectedVersion := command.expectedVersion
    decision := decision
    audit := approvalAudit command current decision occurredAt ids.auditId
    eventId := ids.eventId
    idempotency := lookup
    receipt := approvalReceipt command current decision occurredAt ids.receiptId }

def decideCurrent (command : SpecApprovalCommand) (normalized : NormalizedApproval)
    (lookup : IdempotencyLookup) : SpecProgram SpecApprovalReceipt := do
  let found ← await (.get command.scope command.target.id)
  match found with
  | none => throw (specApprovalValidationError (js "SpecRevision was not found"))
  | some current => do
    let latest ← await (.getLatest command.scope)
    attempt (checkRevision command normalized current latest)
    let occurredAt ← await .clock
    let decisionId ← await .idGenerator
    let receiptId ← await .idGenerator
    let auditId ← await .idGenerator
    let eventId ← await .idGenerator
    await (.commitApproval (approvalInput command normalized lookup current occurredAt
      ⟨decisionId, receiptId, auditId, eventId⟩))

def decide (requestHash : CanonicalApproval → JsString) (command : SpecApprovalCommand) :
    SpecProgram SpecApprovalReceipt := do
  let _ ← await (.authorize command.actorId command.scope .specApprove)
  let (normalized, lookup) ← attempt (validateDecision requestHash command)
  let replay ← await (.findApprovalReceipt lookup)
  match replay with
  | some receipt => pure receipt
  | none => decideCurrent command normalized lookup

/-! ## The system -/

inductive SpecCall
  | generate (command : SpecGenerationCommand)
  | decide (command : SpecApprovalCommand)
  deriving DecidableEq

inductive SpecResult
  | generation (revision : SpecRevision)
  | approval (receipt : SpecApprovalReceipt)

def SpecCall.program (requestHash : CanonicalApproval → JsString) :
    SpecCall → SpecProgram SpecResult
  | .generate command => do
    let revision ← SpecApprovals.generate command
    pure (.generation revision)
  | .decide command => do
    let receipt ← SpecApprovals.decide requestHash command
    pure (.approval receipt)

/-- A goal is created or updated. -/
structure GoalUpdate where
  scope : GoalScope
  goal : GoalContract

def GoalUpdate.apply (update : GoalUpdate) (store : SpecStore) : SpecStore :=
  { store with
    goals := fun scope => if scope = update.scope then some update.goal else store.goals scope }

def specSystem (requestHash : CanonicalApproval → JsString) :
    System SpecStore SpecCommand SpecCommand.Answer Thrown SpecCall SpecResult Outside
      GoalUpdate where
  program := SpecCall.program requestHash
  exec := fun outside command store => some (execSpec outside command store)
  environment := fun update store => some (update.apply store)

def SpecStore.ofGoals (goals : GoalScope → Option GoalContract) : SpecStore where
  goals := goals
  revisions := []
  decisions := []
  audits := []
  idempotency := []

abbrev SpecConfig :=
  Config SpecStore SpecCommand SpecCommand.Answer Thrown SpecCall SpecResult GoalUpdate

abbrev SpecMoment :=
  Moment SpecStore SpecCommand SpecCommand.Answer Thrown SpecCall SpecResult GoalUpdate

abbrev SpecCondition := SpecMoment → Attempt SpecCommand SpecCall GoalUpdate → Prop

end DevHarness.SpecApprovals
