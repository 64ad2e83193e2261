import DevHarness.ControlPlane.Records
import DevHarness.ControlPlane.Validation
import DevHarness.Interleave.System
import DevHarness.Sql.Table
import DevHarness.Text.CodePoints

/-!
# Repositories of the control plane

The rows of goals, issue plans, verification plans, verifications, gap reports
and delivery reports, and the operations of the repositories on them, each of
which is one transaction.  Audit and outbox rows, which none of them reads, are
left out.  The issue plans have two repositories, one in memory and one in
Postgres; the rest is the Postgres one.
-/

namespace DevHarness.ControlPlane

open JsText Interleave

/-! ## Inputs and answers -/

inductive Permission
  | goalWrite
  | goalTransition (goalId : JsString) (nextState : GoalStatus)
  | goalVerify
  | goalAccept
  | issueGenerate
  | issueEdit
  | issueApprove
  | deliveryReportGenerate

structure AuthorizationRequest where
  actorId : JsString
  organizationId : JsString
  projectId : JsString
  permission : Permission

/-- The identity of a command; every endpoint has its own records. -/
structure IdempotencyLookup where
  organizationId : JsString
  actorId : JsString
  key : JsString
  requestHash : JsString

structure IdempotencyRecord (Response : Type) where
  lookup : IdempotencyLookup
  response : Response

structure GoalWorkspaceReceipt where
  goal : GoalContract
  eventId : JsString
  occurredAt : ℕ

structure CommitGoalCreate where
  goal : GoalContract
  idempotency : IdempotencyLookup
  receipt : GoalWorkspaceReceipt

structure CommitGoalUpdate where
  current : GoalContract
  next : GoalContract
  expectedVersion : ℕ
  idempotency : IdempotencyLookup
  receipt : GoalWorkspaceReceipt

structure GoalTransitionReceipt where
  goalId : JsString
  previousState : GoalStatus
  state : GoalStatus
  previousVersion : ℕ
  version : ℕ
  eventId : JsString
  occurredAt : ℕ

structure CommitGoalTransition where
  current : GoalScope
  expectedVersion : ℕ
  nextState : GoalStatus
  occurredAt : ℕ
  idempotency : IdempotencyLookup
  receipt : GoalTransitionReceipt

inductive IssuePlanApprovalDecision
  | approve
  | reject
  | requestChanges
  deriving DecidableEq

structure IssuePlanApprovalDecisionRecord where
  id : JsString
  organizationId : JsString
  projectId : JsString
  goalId : JsString
  issuePlanId : JsString
  subjectVersion : ℕ
  planDigest : JsString
  decision : IssuePlanApprovalDecision
  actorId : JsString
  reason : JsString
  requestId : JsString
  policyRevision : JsString
  affectedIssueKeys : List JsString
  createdAt : ℕ
  deriving DecidableEq

structure IssuePlanApprovalReceipt where
  receiptId : JsString
  targetId : JsString
  previousVersion : ℕ
  currentVersion : ℕ
  decision : IssuePlanApprovalDecision
  actorId : JsString
  reason : JsString
  requestId : JsString
  policyRevision : JsString
  recordedAt : ℕ
  plan : IssuePlan
  planDigest : JsString
  decisionRecord : IssuePlanApprovalDecisionRecord
  deriving DecidableEq

structure CommitIssuePlanApproval where
  current : IssuePlan
  next : IssuePlan
  expectedVersion : ℕ
  decision : IssuePlanApprovalDecisionRecord
  idempotency : IdempotencyLookup
  receipt : IssuePlanApprovalReceipt

structure GapRemediationLookup where
  organizationId : JsString
  reportId : JsString
  actorId : JsString
  idempotencyKey : JsString
  deriving DecidableEq

structure GapRemediationRecord where
  lookup : GapRemediationLookup
  requestHash : JsString
  receipt : GapRemediationReceipt

structure AcceptDeliveryReport where
  current : DeliveryReport
  accepted : DeliveryReport
  expectedGoalVersion : ℤ
  idempotencyKey : JsString
  requestHash : JsString

structure AcceptedDelivery where
  report : DeliveryReport
  goal : GoalContract

structure DeterministicVerifierAnswer where
  status : JsString
  evidenceRefs : List JsString
  summary : JsString
  durationMs : Option ℤ
  manualApproval : Option ManualApproval

structure GoalVerifierRequest where
  goal : GoalContract
  plan : AcceptanceVerificationPlan
  deterministicResults : List DeterministicVerificationResult
  verifierIdentity : JsString
  builderIdentities : List JsString
  sessionId : JsString

structure VerificationReferenceCatalog where
  command : List JsString
  query : List JsString
  artifact : List JsString

/-! ## Commands -/

/-- The awaited calls, the readings of the clock and the generated identifiers.
A call that is raced against a timer answers `none` when the timer wins. -/
inductive ControlCommand
  | clock
  | newId
  | authorize (request : AuthorizationRequest)
  | listBuilders (scope : GoalScope) (issuePlanId : JsString)
  | runDeterministic (entry : AcceptanceVerificationEntry) (scope : GoalScope)
  | verifyGoal (request : GoalVerifierRequest)
  | listReferences (scope : GoalScope)
  | listIssueRuns (scope : GoalScope)
  | getGoal (scope : GoalScope)
  | findCreateReceipt (lookup : IdempotencyLookup)
  | commitCreate (input : CommitGoalCreate)
  | findUpdateReceipt (lookup : IdempotencyLookup)
  | commitUpdate (input : CommitGoalUpdate)
  | findTransitionReceipt (lookup : IdempotencyLookup)
  | commitTransition (input : CommitGoalTransition)
  | getIssuePlan (scope : GoalScope) (planId : JsString)
  | getLatestIssuePlan (scope : GoalScope)
  | appendIssuePlan (plan : IssuePlan) (expectedPreviousPlanId : Option JsString)
  | findApprovalReceipt (lookup : IdempotencyLookup)
  | commitApproval (input : CommitIssuePlanApproval)
  | getPlan (scope : GoalScope) (planId : JsString)
  | listPlans (scope : GoalScope)
  | appendPlan (plan : AcceptanceVerificationPlan)
  | getVerification (scope : GoalScope) (verificationId : JsString)
  | listVerifications (scope : GoalScope)
  | appendVerification (verification : GoalVerification)
  | findGapReportByVerification (scope : GoalScope) (verificationId : JsString)
  | appendGapReport (report : VerificationGapReport)
  | getGapReport (scope : GoalScope) (reportId : JsString)
  | findGapRemediation (lookup : GapRemediationLookup)
  | saveGapRemediation (record : GapRemediationRecord)
  | getDeliveryReport (scope : GoalScope) (reportId : JsString)
  | listDeliveryReports (scope : GoalScope)
  | appendDeliveryReport (report : DeliveryReport)
  | acceptDeliveryReport (input : AcceptDeliveryReport)

/-- What each call answers when it does not throw. -/
abbrev ControlCommand.Answer : ControlCommand → Type
  | .clock => ℕ
  | .newId => JsString
  | .authorize _ => Unit
  | .listBuilders _ _ => List JsString
  | .runDeterministic _ _ => Option DeterministicVerifierAnswer
  | .verifyGoal _ => Option Json
  | .listReferences _ => VerificationReferenceCatalog
  | .listIssueRuns _ => List DeliveryIssueRun
  | .getGoal _ => Option GoalContract
  | .findCreateReceipt _ => Option GoalWorkspaceReceipt
  | .commitCreate _ => GoalWorkspaceReceipt
  | .findUpdateReceipt _ => Option GoalWorkspaceReceipt
  | .commitUpdate _ => GoalWorkspaceReceipt
  | .findTransitionReceipt _ => Option GoalTransitionReceipt
  | .commitTransition _ => GoalTransitionReceipt
  | .getIssuePlan _ _ => Option IssuePlan
  | .getLatestIssuePlan _ => Option IssuePlan
  | .appendIssuePlan _ _ => IssuePlan
  | .findApprovalReceipt _ => Option IssuePlanApprovalReceipt
  | .commitApproval _ => IssuePlanApprovalReceipt
  | .getPlan _ _ => Option AcceptanceVerificationPlan
  | .listPlans _ => List AcceptanceVerificationPlan
  | .appendPlan _ => AcceptanceVerificationPlan
  | .getVerification _ _ => Option GoalVerification
  | .listVerifications _ => List GoalVerification
  | .appendVerification _ => GoalVerification
  | .findGapReportByVerification _ _ => Option VerificationGapReport
  | .appendGapReport _ => VerificationGapReport
  | .getGapReport _ _ => Option VerificationGapReport
  | .findGapRemediation _ => Option GapRemediationRecord
  | .saveGapRemediation _ => GapRemediationReceipt
  | .getDeliveryReport _ _ => Option DeliveryReport
  | .listDeliveryReports _ => List DeliveryReport
  | .appendDeliveryReport _ => DeliveryReport
  | .acceptDeliveryReport _ => AcceptedDelivery

abbrev ControlProgram (α : Type) :=
  Program ControlCommand ControlCommand.Answer Thrown α

abbrev await (command : ControlCommand) : ControlProgram command.Answer :=
  Program.request command

abbrev attempt {α : Type} (result : Except Thrown α) : ControlProgram α :=
  Program.done result

structure ControlStore where
  goals : Sql.Table GoalContract.id
  /-- In the order in which they were appended. -/
  issuePlans : List IssuePlan
  decisions : List IssuePlanApprovalDecisionRecord
  verificationPlans : Sql.Table AcceptanceVerificationPlan.id
  verifications : Sql.Table GoalVerification.id
  gapReports : Sql.Table VerificationGapReport.id
  remediations : List GapRemediationRecord
  deliveryReports : Sql.Table DeliveryReport.id
  createReceipts : List (IdempotencyRecord GoalWorkspaceReceipt)
  updateReceipts : List (IdempotencyRecord GoalWorkspaceReceipt)
  transitionReceipts : List (IdempotencyRecord GoalTransitionReceipt)
  approvalReceipts : List (IdempotencyRecord IssuePlanApprovalReceipt)
  /-- The response is the identifier of the accepted report. -/
  acceptances : List (IdempotencyRecord JsString)
  /-- The identifiers that have been generated; none is generated twice. -/
  generatedIds : List JsString
  /-- The foreign key of the gap reports. -/
  gapReportsBound : ∀ report ∈ gapReports.rows, ∃ row ∈ verifications.rows,
    row.id = report.verificationId ∧ row.scope = report.scope

inductive IssuePlanBackend
  | memory
  | postgres
  deriving DecidableEq

def versionConflict : Thrown where
  name := js "VersionConflictError"
  message := js "The entity version changed before the transition was persisted"

def idempotencyConflict : Thrown where
  name := js "IdempotencyConflictError"
  message := js "The Idempotency-Key was already used for a different command"

def databaseError : Thrown where
  name := js "DatabaseError"
  message := js "constraint violation"

namespace ControlStore

def replay {Response : Type} (records : List (IdempotencyRecord Response))
    (lookup : IdempotencyLookup) : Except Thrown (Option Response) :=
  match records.find? fun record =>
      record.lookup.organizationId = lookup.organizationId ∧
        record.lookup.actorId = lookup.actorId ∧ record.lookup.key = lookup.key with
  | none => .ok none
  | some record =>
    if record.lookup.requestHash = lookup.requestHash then .ok (some record.response)
    else .error idempotencyConflict

variable (store : ControlStore)

/-! ## Goals -/

def getGoal (scope : GoalScope) : Option GoalContract :=
  (store.goals.get scope.goalId).filter fun goal => goal.scope = scope

/-- `commitCreate`; the identifier is a primary key. -/
def commitCreate (input : CommitGoalCreate) :
    Except Thrown GoalWorkspaceReceipt × ControlStore :=
  match replay store.createReceipts input.idempotency with
  | .error error => (.error error, store)
  | .ok (some receipt) => (.ok receipt, store)
  | .ok none =>
    if ∃ row ∈ store.goals.rows, row.id = input.goal.id then (.error databaseError, store)
    else
      (.ok input.receipt,
        { store with
          goals := store.goals.insertNew input.goal
          createReceipts := ⟨input.idempotency, input.receipt⟩ :: store.createReceipts })

/-- `commitUpdate`: an update leaves the status alone. -/
def commitUpdate (input : CommitGoalUpdate) :
    Except Thrown GoalWorkspaceReceipt × ControlStore :=
  match replay store.updateReceipts input.idempotency with
  | .error error => (.error error, store)
  | .ok (some receipt) => (.ok receipt, store)
  | .ok none =>
    match store.getGoal input.next.scope with
    | none => (.error versionConflict, store)
    | some goal =>
      if goal.version ≠ input.expectedVersion then (.error versionConflict, store)
      else
        (.ok input.receipt,
          { store with
            goals := store.goals.updateWhere (fun row => row.id = input.next.id)
              (fun row =>
                { row with
                  title := input.next.title
                  problemStatement := input.next.problemStatement
                  desiredOutcome := input.next.desiredOutcome
                  acceptanceCriteria := input.next.acceptanceCriteria
                  nonGoals := input.next.nonGoals
                  constraints := input.next.constraints
                  version := row.version + 1
                  updatedAt := input.next.updatedAt })
              (fun _ => rfl)
            updateReceipts := ⟨input.idempotency, input.receipt⟩ :: store.updateReceipts })

def commitTransition (input : CommitGoalTransition) :
    Except Thrown GoalTransitionReceipt × ControlStore :=
  match replay store.transitionReceipts input.idempotency with
  | .error error => (.error error, store)
  | .ok (some receipt) => (.ok receipt, store)
  | .ok none =>
    match store.getGoal input.current with
    | none => (.error versionConflict, store)
    | some goal =>
      if goal.version ≠ input.expectedVersion then (.error versionConflict, store)
      else
        (.ok input.receipt,
          { store with
            goals := store.goals.updateWhere (fun row => row.id = input.current.goalId)
              (fun row =>
                { row with
                  status := input.nextState
                  version := row.version + 1
                  updatedAt := max input.occurredAt row.createdAt })
              (fun _ => rfl)
            transitionReceipts :=
              ⟨input.idempotency, input.receipt⟩ :: store.transitionReceipts })

/-! ## Issue plans -/

def plansOf (scope : GoalScope) : List IssuePlan :=
  store.issuePlans.filter fun plan => plan.scope = scope

def getIssuePlan (scope : GoalScope) (planId : JsString) : Option IssuePlan :=
  (store.plansOf scope).find? fun plan => plan.id = planId

/-- The last plan in memory, `ORDER BY revision DESC, id DESC LIMIT 1` in
Postgres. -/
def getLatestIssuePlan (backend : IssuePlanBackend) (scope : GoalScope) : Option IssuePlan :=
  match backend with
  | .memory => (store.plansOf scope).getLast?
  | .postgres => Sql.first
      (fun a b => b.revision < a.revision ∨ (a.revision = b.revision ∧ b.id ≤ a.id))
      (store.plansOf scope)

/-- `append`; the row of Postgres is referenced by a goal and has its identifier
for itself. -/
def appendIssuePlan (backend : IssuePlanBackend) (plan : IssuePlan)
    (expectedPreviousPlanId : Option JsString) : Except Thrown IssuePlan × ControlStore :=
  let previous := store.getLatestIssuePlan backend plan.scope
  if backend = .postgres ∧ store.getGoal plan.scope = none then
    (.error versionConflict, store)
  else if previous.map (·.id) ≠ expectedPreviousPlanId ∨
      plan.revision ≠ (previous.map (·.revision)).getD 0 + 1 then
    (.error versionConflict, store)
  else if backend = .postgres ∧ ∃ row ∈ store.issuePlans, row.id = plan.id then
    (.error databaseError, store)
  else
    (.ok plan, { store with issuePlans := store.issuePlans ++ [plan] })

def approvedRow (row next : IssuePlan) : IssuePlan :=
  { next with digest := row.digest, version := row.version + 1, createdAt := row.createdAt }

def decidedRow (backend : IssuePlanBackend) (next row : IssuePlan) : IssuePlan :=
  match backend with
  | .memory => next
  | .postgres => approvedRow row next

def decidable (backend : IssuePlanBackend) (input : CommitIssuePlanApproval) : Bool :=
  match backend with
  | .memory =>
    match store.getLatestIssuePlan .memory input.current.scope with
    | some row => row.id = input.current.id ∧ row.version = input.expectedVersion ∧
        input.next.version = input.expectedVersion + 1
    | none => false
  | .postgres =>
    match store.getIssuePlan input.current.scope input.current.id with
    | some row => (∀ newer ∈ store.plansOf input.current.scope,
          newer.revision ≤ row.revision) ∧
        row.version = input.expectedVersion ∧ row.status = input.current.status
    | none => false

def commitApproval (backend : IssuePlanBackend) (input : CommitIssuePlanApproval) :
    Except Thrown IssuePlanApprovalReceipt × ControlStore :=
  match replay store.approvalReceipts input.idempotency with
  | .error error => (.error error, store)
  | .ok (some receipt) => (.ok receipt, store)
  | .ok none =>
    if store.decidable backend input = false then (.error versionConflict, store)
    else
      (.ok input.receipt,
        { store with
          issuePlans := store.issuePlans.map fun row =>
            if row.scope = input.current.scope ∧ row.id = input.current.id then
              decidedRow backend input.next row
            else row
          decisions := input.decision :: store.decisions
          approvalReceipts := ⟨input.idempotency, input.receipt⟩ :: store.approvalReceipts })

/-- `SELECT … WHERE scope AND id`. -/
def getPlan (scope : GoalScope) (planId : JsString) : Option AcceptanceVerificationPlan :=
  (store.verificationPlans.get planId).filter fun plan => plan.scope = scope

def listPlans (scope : GoalScope) : List AcceptanceVerificationPlan :=
  Sql.orderBy (fun a b => a.revision ≤ b.revision)
    (store.verificationPlans.rows.filter fun plan => plan.scope = scope)

def appendPlan (plan : AcceptanceVerificationPlan) :
    Except Thrown AcceptanceVerificationPlan × ControlStore :=
  if ∃ row ∈ store.verificationPlans.rows,
      row.id = plan.id ∨ (row.scope = plan.scope ∧ row.revision = plan.revision) then
    (.error databaseError, store)
  else
    (.ok plan, { store with verificationPlans := store.verificationPlans.insertNew plan })

def getVerification (scope : GoalScope) (verificationId : JsString) :
    Option GoalVerification :=
  (store.verifications.get verificationId).filter fun row => row.scope = scope

def listVerifications (scope : GoalScope) : List GoalVerification :=
  Sql.orderBy (fun a b => a.revision ≤ b.revision)
    (store.verifications.rows.filter fun row => row.scope = scope)

def appendVerification (verification : GoalVerification) :
    Except Thrown GoalVerification × ControlStore :=
  if ∃ row ∈ store.verifications.rows, row.id = verification.id ∨
      (row.scope = verification.scope ∧ row.revision = verification.revision) then
    (.error databaseError, store)
  else
    (.ok verification,
      { store with
        verifications := store.verifications.insertNew verification
        gapReportsBound := by
          intro report hreport
          obtain ⟨row, hrow, hbound⟩ := store.gapReportsBound report hreport
          exact ⟨row, Sql.Table.mem_insertNew hrow, hbound⟩ })

/-! ## Gap reports -/

def findGapReportByVerification (scope : GoalScope) (verificationId : JsString) :
    Option VerificationGapReport :=
  store.gapReports.rows.find? fun report =>
    report.scope = scope ∧ report.verificationId = verificationId

/-- `btrim`: without the spaces at both ends. -/
def btrim (s : JsString) : JsString :=
  Strip.strip (fun u => u = 0x20) s

def gapReportAllowed (report : VerificationGapReport) : Bool :=
  report.failedCriterionRefs.length ≤ 50 ∧
    (1 ≤ report.gaps.length ∧ report.gaps.length ≤ 50) ∧
    (1 ≤ (codePoints (btrim report.createdBy)).length ∧
      (codePoints (btrim report.createdBy)).length ≤ 200) ∧
    0 < report.version

/-- `appendGapReport`; a report on a verification that has one answers that one. -/
def appendGapReport (report : VerificationGapReport) :
    Except Thrown VerificationGapReport × ControlStore :=
  if gapReportAllowed report = false then (.error databaseError, store)
  else if hbound : ∃ row ∈ store.verifications.rows,
      row.id = report.verificationId ∧ row.scope = report.scope then
    if ∃ row ∈ store.gapReports.rows,
        row.id = report.id ∨ row.verificationId = report.verificationId then
      match store.findGapReportByVerification report.scope report.verificationId with
      | some existing => (.ok existing, store)
      | none => (.error databaseError, store)
    else
      (.ok report,
        { store with
          gapReports := store.gapReports.insertNew report
          gapReportsBound := by
            intro row hrow
            rcases Sql.Table.of_mem_insertNew hrow with rfl | hold
            · exact hbound
            · exact store.gapReportsBound row hold })
  else (.error databaseError, store)

def getGapReport (scope : GoalScope) (reportId : JsString) : Option VerificationGapReport :=
  (store.gapReports.get reportId).filter fun report => report.scope = scope

def findGapRemediation (lookup : GapRemediationLookup) : Option GapRemediationRecord :=
  store.remediations.find? fun record => record.lookup = lookup

def remediationAllowed (lookup : GapRemediationLookup) : Bool :=
  (1 ≤ (codePoints (btrim lookup.actorId)).length ∧
      (codePoints (btrim lookup.actorId)).length ≤ 200) ∧
    8 ≤ (codePoints lookup.idempotencyKey).length ∧
    (codePoints lookup.idempotencyKey).length ≤ 200

/-- `saveGapRemediation`; a request that has a receipt answers that one. -/
def saveGapRemediation (record : GapRemediationRecord) :
    Except Thrown GapRemediationReceipt × ControlStore :=
  match (store.gapReports.get record.lookup.reportId).filter
      (fun report => report.organizationId = record.lookup.organizationId) with
  | none => (.error (plainError (js "Verification gap report was not found")), store)
  | some report =>
    if remediationAllowed record.lookup = false ∨
        ¬ ∃ row ∈ store.issuePlans, row.id = record.receipt.plan.id ∧ row.scope = report.scope then
      (.error databaseError, store)
    else
      match store.findGapRemediation record.lookup with
      | some saved =>
        if saved.requestHash = record.requestHash then (.ok saved.receipt, store)
        else (.error (plainError (js "Gap remediation idempotency conflict")), store)
      | none => (.ok record.receipt, { store with remediations := record :: store.remediations })

/-! ## Delivery reports -/

def getDeliveryReport (scope : GoalScope) (reportId : JsString) : Option DeliveryReport :=
  (store.deliveryReports.get reportId).filter fun report => report.scope = scope

def listDeliveryReports (scope : GoalScope) : List DeliveryReport :=
  Sql.orderBy (fun a b => a.revision ≤ b.revision)
    (store.deliveryReports.rows.filter fun report => report.scope = scope)

def reportFits (report : DeliveryReport) : Bool :=
  ∀ row ∈ store.deliveryReports.rows,
    row.id ≠ report.id ∧ ¬ (row.scope = report.scope ∧ row.revision = report.revision)

def appendDeliveryReport (report : DeliveryReport) :
    Except Thrown DeliveryReport × ControlStore :=
  if store.reportFits report then
    (.ok report, { store with deliveryReports := store.deliveryReports.insertNew report })
  else (.error databaseError, store)

def completeGoal (input : AcceptDeliveryReport) (lookup : IdempotencyLookup) :
    Except Thrown AcceptedDelivery × ControlStore :=
  let conflict := plainError (js "Delivery acceptance version conflict")
  match (store.listDeliveryReports input.current.scope).getLast?,
      store.getGoal input.current.scope with
  | some latest, some goal =>
    if latest.id ≠ input.current.id ∨ goal.status ≠ .verifying ∨
        (goal.version : ℤ) ≠ input.expectedGoalVersion then
      (.error conflict, store)
    else if store.reportFits input.accepted = false then (.error databaseError, store)
    else
      (.ok
        { report := input.accepted
          goal :=
            { goal with
              status := .completed
              version := goal.version + 1
              updatedAt := input.accepted.generatedAt } },
        { store with
          deliveryReports := store.deliveryReports.insertNew input.accepted
          goals := store.goals.updateWhere (fun row => row.id = input.current.goalId)
            (fun row =>
              { row with
                status := .completed
                version := row.version + 1
                updatedAt := input.accepted.generatedAt })
            (fun _ => rfl)
          acceptances := ⟨lookup, input.accepted.id⟩ :: store.acceptances })
  | _, _ => (.error conflict, store)

def acceptDeliveryReport (input : AcceptDeliveryReport) :
    Except Thrown AcceptedDelivery × ControlStore :=
  match input.accepted.humanAcceptance with
  | none => (.error (plainError (js "Delivery acceptance actor is missing")), store)
  | some acceptance =>
    if acceptance.actorId = [] then
      (.error (plainError (js "Delivery acceptance actor is missing")), store)
    else
    let lookup : IdempotencyLookup :=
      { organizationId := input.current.organizationId
        actorId := acceptance.actorId
        key := input.idempotencyKey
        requestHash := input.requestHash }
    match replay store.acceptances lookup with
    | .error _ =>
      (.error (plainError (js "Delivery acceptance idempotency conflict")), store)
    | .ok (some reportId) =>
      match (store.deliveryReports.get reportId).filter
          (fun report => report.organizationId = input.current.organizationId),
          store.getGoal input.current.scope with
      | some report, some goal => (.ok { report := report, goal := goal }, store)
      | _, _ =>
        (.error (plainError (js "Delivery acceptance replay is unavailable")), store)
    | .ok none => store.completeGoal input lookup

/-! ## Execution -/

def usesId (id : JsString) : Bool :=
  id ∈ store.generatedIds ∨ id ∈ store.goals.rows.map (·.id) ∨
    id ∈ store.issuePlans.map (·.id) ∨ id ∈ store.verificationPlans.rows.map (·.id) ∨
    id ∈ store.verifications.rows.map (·.id) ∨ id ∈ store.gapReports.rows.map (·.id) ∨
    id ∈ store.deliveryReports.rows.map (·.id)

/-- What the clock, the identifier generator, the authorizer and the ports
answer. -/
abbrev Outside := (command : ControlCommand) → Except Thrown command.Answer

def exec (backend : IssuePlanBackend) (outside : Outside) (command : ControlCommand)
    (store : ControlStore) : Option (Except Thrown command.Answer × ControlStore) :=
  match command with
  | .clock =>
    match outside .clock with
    | .ok now => some (.ok now, store)
    | .error _ => none
  | .newId =>
    match outside .newId with
    | .ok id =>
      if store.usesId id then none
      else some (.ok id, { store with generatedIds := id :: store.generatedIds })
    | .error _ => none
  | .authorize request => some (outside (.authorize request), store)
  | .listBuilders scope issuePlanId => some (outside (.listBuilders scope issuePlanId), store)
  | .runDeterministic entry scope => some (outside (.runDeterministic entry scope), store)
  | .verifyGoal request => some (outside (.verifyGoal request), store)
  | .listReferences scope => some (outside (.listReferences scope), store)
  | .listIssueRuns scope => some (outside (.listIssueRuns scope), store)
  | .getGoal scope => some (.ok (store.getGoal scope), store)
  | .findCreateReceipt lookup => some (replay store.createReceipts lookup, store)
  | .commitCreate input => some (store.commitCreate input)
  | .findUpdateReceipt lookup => some (replay store.updateReceipts lookup, store)
  | .commitUpdate input => some (store.commitUpdate input)
  | .findTransitionReceipt lookup => some (replay store.transitionReceipts lookup, store)
  | .commitTransition input => some (store.commitTransition input)
  | .getIssuePlan scope planId => some (.ok (store.getIssuePlan scope planId), store)
  | .getLatestIssuePlan scope => some (.ok (store.getLatestIssuePlan backend scope), store)
  | .appendIssuePlan plan previous => some (store.appendIssuePlan backend plan previous)
  | .findApprovalReceipt lookup => some (replay store.approvalReceipts lookup, store)
  | .commitApproval input => some (store.commitApproval backend input)
  | .getPlan scope planId => some (.ok (store.getPlan scope planId), store)
  | .listPlans scope => some (.ok (store.listPlans scope), store)
  | .appendPlan plan => some (store.appendPlan plan)
  | .getVerification scope id => some (.ok (store.getVerification scope id), store)
  | .listVerifications scope => some (.ok (store.listVerifications scope), store)
  | .appendVerification verification => some (store.appendVerification verification)
  | .findGapReportByVerification scope id =>
    some (.ok (store.findGapReportByVerification scope id), store)
  | .appendGapReport report => some (store.appendGapReport report)
  | .getGapReport scope id => some (.ok (store.getGapReport scope id), store)
  | .findGapRemediation lookup => some (.ok (store.findGapRemediation lookup), store)
  | .saveGapRemediation record => some (store.saveGapRemediation record)
  | .getDeliveryReport scope id => some (.ok (store.getDeliveryReport scope id), store)
  | .listDeliveryReports scope => some (.ok (store.listDeliveryReports scope), store)
  | .appendDeliveryReport report => some (store.appendDeliveryReport report)
  | .acceptDeliveryReport input => some (store.acceptDeliveryReport input)

end ControlStore

end DevHarness.ControlPlane
