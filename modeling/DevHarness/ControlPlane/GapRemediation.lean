import DevHarness.ControlPlane.DeliveryReports
import DevHarness.ControlPlane.IssuePlanService

/-!
# Gap remediation

`VerificationGapService.confirm` as a program, with the adapter that drafts the
remediating issue plan.  The plan is appended before its compilation is checked
and before the receipt is saved; a later call finds it by its planner run.
-/

namespace DevHarness.ControlPlane

open JsText Interleave

structure ConfirmCommand where
  scope : GoalScope
  reportId : JsString
  actorId : JsString
  humanConfirmed : Bool
  reason : JsString
  idempotencyKey : JsString
  draft : Json
  deriving DecidableEq

/-- What the request hash of a confirmation is taken of. -/
structure ConfirmedRequest where
  reportId : JsString
  actorId : JsString
  reason : JsString
  draft : Json

/-! ## The adapter -/

def gapPlannerRunId (reportId : JsString) : JsString :=
  js "gap-remediation:" ++ reportId

def gapPlannerConfiguration : IssuePlannerConfiguration where
  adapter := js "goal-verifier-gap"
  modelProfile := js "human-confirmed-remediation"

def remediationPlanOf (plan : IssuePlan) : RemediationPlan where
  id := plan.id
  previousPlanId := plan.previousPlanId
  revision := plan.revision
  status := plan.status
  compilationValid := plan.compilation.valid
  version := plan.version

/-- `recovery`: the latest plan, when it was drafted for the report. -/
def recovery (report : VerificationGapReport) (latest : Option IssuePlan) :
    Option RemediationPlan :=
  (latest.filter fun plan =>
    plan.previousPlanId = some report.issuePlanId ∧
      plan.plannerRunId = gapPlannerRunId report.id ∧
      plan.plannerConfiguration.adapter = js "goal-verifier-gap").map remediationPlanOf

def remediationDraft (command : ConfirmCommand) (report : VerificationGapReport)
    (previous : IssuePlan) : CreateDraftCommand where
  scope := command.scope
  source := previous.source
  draft := command.draft
  plannerRunId := gapPlannerRunId report.id
  plannerConfiguration := gapPlannerConfiguration
  actorId := command.actorId

/-- The `catch` of the adapter: a plan that was drafted meanwhile, or the error. -/
def racedRemediation (command : ConfirmCommand) (report : VerificationGapReport)
    (error : Thrown) : ControlProgram RemediationPlan := do
  let latest ← await (.getLatestIssuePlan command.scope)
  match recovery report latest with
  | some raced => pure raced
  | none => throw error

def draftRemediation (service : IssuePlanService) (command : ConfirmCommand)
    (report : VerificationGapReport) (previous : IssuePlan) : ControlProgram RemediationPlan :=
  ((do
    let plan ← createDraft service (remediationDraft command report previous)
    pure (remediationPlanOf plan)) : ControlProgram RemediationPlan).handle
    (racedRemediation command report)

/-- `IssuePlanGapRemediationAdapter.createDraft`. -/
def remediate (service : IssuePlanService) (command : ConfirmCommand)
    (report : VerificationGapReport) : ControlProgram RemediationPlan := do
  let found ← await (.getIssuePlan command.scope report.issuePlanId)
  let latest ← await (.getLatestIssuePlan command.scope)
  match found with
  | none => throw (plainError (js "Gap remediation source Issue plan is stale"))
  | some previous =>
    match recovery report latest with
    | some recovered => pure recovered
    | none =>
      if latest.map (·.id) ≠ some previous.id then
        throw (plainError (js "Gap remediation source Issue plan is stale"))
      else draftRemediation service command report previous

/-! ## Confirming -/

def checkConfirmation (command : ConfirmCommand) : Except Thrown (JsString × JsString) := do
  require command.humanConfirmed
    (plainError (js "Explicit human confirmation is required for remediation"))
  let reason ← bounded command.reason "reason" 4000
  let idempotencyKey ← bounded command.idempotencyKey "idempotencyKey" 200
  require (decide (8 ≤ idempotencyKey.length)) (plainError (js "idempotencyKey is too short"))
  pure (reason, idempotencyKey)

def remediates (report : VerificationGapReport) (plan : RemediationPlan) : Bool :=
  plan.previousPlanId = some report.issuePlanId ∧ plan.status = .draft ∧
    plan.compilationValid = true

/-- `confirm`; the request hash is a function of the request. -/
def confirm (service : IssuePlanService) (hash : ConfirmedRequest → JsString)
    (command : ConfirmCommand) : ControlProgram GapRemediationReceipt := do
  authorize command.actorId command.scope .issueGenerate
  let checked ← attempt (checkConfirmation command)
  let found ← await (.getGapReport command.scope command.reportId)
  match found with
  | none => throw (plainError (js "Verification gap report was not found"))
  | some report => do
    let requestHash := hash
      { reportId := report.id
        actorId := command.actorId
        reason := checked.1
        draft := command.draft }
    let lookup : GapRemediationLookup :=
      { organizationId := command.scope.organizationId
        reportId := report.id
        actorId := command.actorId
        idempotencyKey := checked.2 }
    let replay ← await (.findGapRemediation lookup)
    match replay with
    | some saved =>
      if saved.requestHash ≠ requestHash then
        throw (plainError (js "Gap remediation idempotency conflict"))
      else pure saved.receipt
    | none => do
      let plan ← remediate service command report
      attempt (require (remediates report plan)
        (plainError (js <| "Gap remediation must create a compiled draft after the failed " ++
          "Issue plan")))
      let recordedAt ← await .clock
      await (.saveGapRemediation
        { lookup := lookup
          requestHash := requestHash
          receipt :=
            { reportId := report.id
              plan := plan
              preservedEvidenceRefs := report.preservedEvidenceRefs
              actorId := command.actorId
              reason := checked.1
              recordedAt := recordedAt } })

end DevHarness.ControlPlane
