import DevHarness.ControlPlane.GoalVerification

/-!
# The goal services

`GoalWorkspaceService.create` and `update`, and `GoalApplicationService.transition`
with the state machine of a goal, as programs over the repositories.  The request
hash of a command is a function of the command.
-/

namespace DevHarness.ControlPlane

open JsText Interleave

/-! ## Drafts -/

def goalWorkspaceValidationError (message : JsString) : Thrown where
  name := js "GoalWorkspaceValidationError"
  message := message

def goalWorkspaceNotFoundError : Thrown where
  name := js "GoalWorkspaceNotFoundError"
  message := js "Goal was not found in the authorized scope"

structure GoalContractDraft where
  title : JsString
  problemStatement : JsString
  desiredOutcome : JsString
  acceptanceCriteria : List JsString
  nonGoals : List JsString
  constraints : List JsString

/-- `boundedText` of the goal workspace. -/
def goalText (value : Json) (name : JsString) (maximum : ℕ) : Except Thrown JsString :=
  match value with
  | .string s =>
    if (trim s).length < 1 ∨ maximum < (trim s).length then
      .error (goalWorkspaceValidationError (name ++ js " is required and bounded"))
    else .ok (trim s)
  | _ => .error (goalWorkspaceValidationError (name ++ js " must be text"))

/-- `boundedList` of the goal workspace. -/
def goalTexts (value : Json) (name : JsString) (minimum maximumItems maximumLength : ℕ) :
    Except Thrown (List JsString) :=
  match value with
  | .array items =>
    if items.length < minimum ∨ maximumItems < items.length then
      .error (goalWorkspaceValidationError (name ++ js " has an invalid item count"))
    else do
      let normalized ← mapIndexed
        (fun index item => goalText item (itemName name index) maximumLength) items
      require (decide normalized.Nodup)
        (goalWorkspaceValidationError (name ++ js " contains duplicates"))
      pure normalized
  | _ => .error (goalWorkspaceValidationError (name ++ js " must be a list"))

def normalizeGoalContractDraft (draft : Json) : Except Thrown GoalContractDraft :=
  match draft with
  | .object _ => do
    let title ← goalText (fieldOf draft "title") (js "title") 200
    let problemStatement ←
      goalText (fieldOf draft "problemStatement") (js "problemStatement") 10000
    let desiredOutcome ← goalText (fieldOf draft "desiredOutcome") (js "desiredOutcome") 10000
    let acceptanceCriteria ←
      goalTexts (fieldOf draft "acceptanceCriteria") (js "acceptanceCriteria") 1 50 2000
    let nonGoals ← goalTexts (fieldOf draft "nonGoals") (js "nonGoals") 0 50 2000
    let constraints ← goalTexts (fieldOf draft "constraints") (js "constraints") 0 50 2000
    pure
      { title := title
        problemStatement := problemStatement
        desiredOutcome := desiredOutcome
        acceptanceCriteria := acceptanceCriteria
        nonGoals := nonGoals
        constraints := constraints }
  | _ => .error (goalWorkspaceValidationError (js "draft is required"))

/-! ## Creating and updating -/

structure CreateGoalCommand where
  organizationId : JsString
  projectId : JsString
  actorId : JsString
  requestId : JsString
  idempotencyKey : JsString
  reason : JsString
  draft : Json

structure UpdateGoalCommand where
  scope : GoalScope
  actorId : JsString
  requestId : JsString
  idempotencyKey : JsString
  reason : JsString
  expectedVersion : ℤ
  draft : Json

/-- The request hashes of the services: SHA-256 of the canonical text of the
command. -/
structure RequestHashes where
  create : CreateGoalCommand → GoalContractDraft → JsString
  update : UpdateGoalCommand → GoalContractDraft → JsString

def isLetterOrDigit (u : UInt16) : Bool :=
  (0x30 ≤ u ∧ u ≤ 0x39) ∨ (0x41 ≤ u ∧ u ≤ 0x5A) ∨ (0x61 ≤ u ∧ u ≤ 0x7A)

/-- `/^[A-Za-z0-9][A-Za-z0-9._:-]{0,199}$/`. -/
def isIdempotencyKey (key : JsString) : Bool :=
  match key with
  | [] => false
  | first :: rest =>
    isLetterOrDigit first ∧ rest.length ≤ 199 ∧
      ∀ u ∈ rest, isLetterOrDigit u ∨ u ∈ js "._:-"

def criteriaFrom : ℕ → List JsString → ControlProgram (List GoalAcceptanceCriterion)
  | _, [] => pure []
  | index, statement :: statements => do
    let id ← await .newId
    let criteria ← criteriaFrom (index + 1) statements
    pure ({ id := id, position := index + 1, statement := statement, version := 1 } :: criteria)

def createGoal (hashes : RequestHashes) (command : CreateGoalCommand) :
    ControlProgram GoalWorkspaceReceipt := do
  await (.authorize
    { actorId := command.actorId
      organizationId := command.organizationId
      projectId := command.projectId
      permission := .goalWrite })
  let draft ← attempt (normalizeGoalContractDraft command.draft)
  let _reason ← attempt (goalText (.string command.reason) (js "reason") 4000)
  attempt (require (isIdempotencyKey command.idempotencyKey)
    (goalWorkspaceValidationError (js "Idempotency-Key is required")))
  let lookup : IdempotencyLookup :=
    { organizationId := command.organizationId
      actorId := command.actorId
      key := command.idempotencyKey
      requestHash := hashes.create command draft }
  let replay ← await (.findCreateReceipt lookup)
  match replay with
  | some receipt => pure receipt
  | none => do
    let occurredAt ← await .clock
    let goalId ← await .newId
    let criteria ← criteriaFrom 0 draft.acceptanceCriteria
    let goal : GoalContract :=
      { id := goalId
        organizationId := command.organizationId
        projectId := command.projectId
        title := draft.title
        problemStatement := draft.problemStatement
        desiredOutcome := draft.desiredOutcome
        acceptanceCriteria := criteria
        nonGoals := draft.nonGoals
        constraints := draft.constraints
        status := .draft
        version := 1
        createdAt := occurredAt
        updatedAt := occurredAt }
    let eventId ← await .newId
    let _auditId ← await .newId
    await (.commitCreate
      { goal := goal
        idempotency := lookup
        receipt := { goal := goal, eventId := eventId, occurredAt := occurredAt } })

def updatedGoal (current : GoalContract) (draft : GoalContractDraft)
    (criteria : List GoalAcceptanceCriterion) (occurredAt : ℕ) : GoalContract :=
  { current with
    title := draft.title
    problemStatement := draft.problemStatement
    desiredOutcome := draft.desiredOutcome
    acceptanceCriteria := criteria
    nonGoals := draft.nonGoals
    constraints := draft.constraints
    version := current.version + 1
    updatedAt := occurredAt }

def updateGoal (hashes : RequestHashes) (command : UpdateGoalCommand) :
    ControlProgram GoalWorkspaceReceipt := do
  authorize command.actorId command.scope .goalWrite
  attempt (require (decide (1 ≤ command.expectedVersion))
    (goalWorkspaceValidationError (js "expectedVersion must be positive")))
  let draft ← attempt (normalizeGoalContractDraft command.draft)
  let _reason ← attempt (goalText (.string command.reason) (js "reason") 4000)
  attempt (require (isIdempotencyKey command.idempotencyKey)
    (goalWorkspaceValidationError (js "Idempotency-Key is required")))
  let lookup : IdempotencyLookup :=
    { organizationId := command.scope.organizationId
      actorId := command.actorId
      key := command.idempotencyKey
      requestHash := hashes.update command draft }
  let replay ← await (.findUpdateReceipt lookup)
  match replay with
  | some receipt => pure receipt
  | none => do
    let found ← await (.getGoal command.scope)
    match found with
    | none => throw goalWorkspaceNotFoundError
    | some current => do
      attempt (require (decide ((current.version : ℤ) = command.expectedVersion)) versionConflict)
      let occurredAt ← await .clock
      let criteria ← criteriaFrom 0 draft.acceptanceCriteria
      let next := updatedGoal current draft criteria occurredAt
      let eventId ← await .newId
      let _auditId ← await .newId
      await (.commitUpdate
        { current := current
          next := next
          expectedVersion := command.expectedVersion.toNat
          idempotency := lookup
          receipt := { goal := next, eventId := eventId, occurredAt := occurredAt } })

/-! ## Transitions -/

inductive TransitionGuard
  | acceptanceVerified
  | allIssuesCompleted
  | approvalRecorded
  | artifactDigestVerified
  | clarificationsResolved
  | completionEvidence
  | dependenciesSatisfied
  | issuesApproved
  | reasonProvided
  | replacementExists
  | specApproved
  deriving DecidableEq

def TransitionGuard.name : TransitionGuard → String
  | .acceptanceVerified => "acceptanceVerified"
  | .allIssuesCompleted => "allIssuesCompleted"
  | .approvalRecorded => "approvalRecorded"
  | .artifactDigestVerified => "artifactDigestVerified"
  | .clarificationsResolved => "clarificationsResolved"
  | .completionEvidence => "completionEvidence"
  | .dependenciesSatisfied => "dependenciesSatisfied"
  | .issuesApproved => "issuesApproved"
  | .reasonProvided => "reasonProvided"
  | .replacementExists => "replacementExists"
  | .specApproved => "specApproved"

structure StateTransition where
  source : GoalStatus
  target : GoalStatus
  guard : Option TransitionGuard

def cancellations (states : List GoalStatus) : List StateTransition :=
  states.map fun status =>
    { source := status, target := .cancelled, guard := some .reasonProvided }

def goalTerminalStates : List GoalStatus := [.completed, .cancelled]

def goalTransitions : List StateTransition :=
  [{ source := .draft, target := .clarifying, guard := none },
    { source := .clarifying, target := .planning, guard := some .clarificationsResolved },
    { source := .planning, target := .approved, guard := some .specApproved },
    { source := .approved, target := .executing, guard := some .issuesApproved },
    { source := .executing, target := .verifying, guard := some .allIssuesCompleted },
    { source := .verifying, target := .completed, guard := some .acceptanceVerified }] ++
    cancellations [.draft, .clarifying, .planning, .approved, .executing, .verifying]

def domainTransitionError (message : String) : Thrown where
  name := js "DomainTransitionError"
  message := js message

structure StateTransitionResult where
  previousState : GoalStatus
  state : GoalStatus
  previousVersion : ℕ
  version : ℕ

def failedGuard (transition : StateTransition) (guards : TransitionGuard → Option Bool) :
    Option TransitionGuard :=
  transition.guard.filter fun guard => guards guard ≠ some true

/-- `transitionState` on the machine of a goal. -/
def transitionState (currentState : GoalStatus) (currentVersion : ℕ) (expectedVersion : ℤ)
    (nextState : GoalStatus) (guards : TransitionGuard → Option Bool) :
    Except Thrown StateTransitionResult :=
  if (currentVersion : ℤ) ≠ expectedVersion then
    .error (domainTransitionError "Goal version does not match expectedVersion")
  else if currentState ∈ goalTerminalStates then
    .error (domainTransitionError "Goal is already terminal")
  else
    match goalTransitions.find? fun transition =>
        transition.source = currentState ∧ transition.target = nextState with
    | none => .error (domainTransitionError "Goal transition is not allowed")
    | some transition =>
      match failedGuard transition guards with
      | some guard =>
        .error (domainTransitionError ("Goal transition guard " ++ guard.name ++ " failed"))
      | none => .ok
          { previousState := currentState
            state := nextState
            previousVersion := currentVersion
            version := currentVersion + 1 }

structure GoalTransitionCommand where
  scope : GoalScope
  actorId : JsString
  requestId : JsString
  idempotencyKey : JsString
  expectedVersion : ℤ
  nextState : GoalStatus
  reason : JsString
  guards : TransitionGuard → Option Bool

def commandValidationError (message : String) : Thrown where
  name := js "CommandValidationError"
  message := js message

def goalNotFoundError : Thrown where
  name := js "GoalNotFoundError"
  message := js "Goal was not found in the authorized scope"

def concurrentReplay (stale : Bool) (lookup : IdempotencyLookup) :
    ControlProgram (Option GoalTransitionReceipt) :=
  if stale then await (.findTransitionReceipt lookup) else pure none

def transitionGuards (command : GoalTransitionCommand) (guard : TransitionGuard) : Option Bool :=
  if guard = .reasonProvided then some (decide (trim command.reason ≠ []))
  else command.guards guard

def transition (hash : GoalTransitionCommand → JsString) (command : GoalTransitionCommand) :
    ControlProgram GoalTransitionReceipt := do
  attempt (require
    (decide (trim command.idempotencyKey ≠ [] ∧ command.idempotencyKey.length ≤ 200))
    (commandValidationError "Idempotency-Key is required"))
  attempt (require (decide (trim command.reason ≠ [] ∧ command.reason.length ≤ 4000))
    (commandValidationError "A bounded transition reason is required"))
  authorize command.actorId command.scope
    (.goalTransition command.scope.goalId command.nextState)
  let lookup : IdempotencyLookup :=
    { organizationId := command.scope.organizationId
      actorId := command.actorId
      key := command.idempotencyKey
      requestHash := hash command }
  let replay ← await (.findTransitionReceipt lookup)
  match replay with
  | some receipt => pure receipt
  | none => do
    let found ← await (.getGoal command.scope)
    match found with
    | none => throw goalNotFoundError
    | some goal => do
      let concurrent ←
        concurrentReplay (decide ((goal.version : ℤ) ≠ command.expectedVersion)) lookup
      match concurrent with
      | some receipt => pure receipt
      | none => do
        let moved ← attempt (transitionState goal.status goal.version command.expectedVersion
          command.nextState (transitionGuards command))
        let occurredAt ← await .clock
        let eventId ← await .newId
        let _auditId ← await .newId
        await (.commitTransition
          { current := command.scope
            expectedVersion := moved.previousVersion
            nextState := moved.state
            occurredAt := occurredAt
            idempotency := lookup
            receipt :=
              { goalId := goal.id
                previousState := moved.previousState
                state := moved.state
                previousVersion := moved.previousVersion
                version := moved.version
                eventId := eventId
                occurredAt := occurredAt } })

end DevHarness.ControlPlane
