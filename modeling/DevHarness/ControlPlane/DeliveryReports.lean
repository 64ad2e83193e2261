import DevHarness.ControlPlane.GoalVerification

/-!
# The delivery report service

`DeliveryReportService.generate` and `accept` as programs.  A report is generated
from a passed verification and a snapshot of the goal; its acceptance completes
the goal.
-/

namespace DevHarness.ControlPlane

open JsText Interleave

/-- `bounded` of the report and gap services. -/
def bounded (value : JsString) (name : String) (maximum : ℕ) : Except Thrown JsString :=
  boundedText plainError (.string value) (js name) maximum

def severityOf (value : Json) : Option RiskSeverity :=
  if value.isWord (js "low") then some .low
  else if value.isWord (js "medium") then some .medium
  else if value.isWord (js "high") then some .high
  else if value.isWord (js "critical") then some .critical
  else none

def dispositionOf (value : Json) : Option RiskDisposition :=
  if value.isWord (js "accepted") then some .accepted
  else if value.isWord (js "monitor") then some .monitor
  else if value.isWord (js "blocked") then some .blocked
  else none

def validateRisk (index : ℕ) (risk : Json) : Except Thrown DeliveryKnownRisk :=
  let name := itemName (js "knownRisks") index
  match severityOf (fieldOf risk "severity"), dispositionOf (fieldOf risk "disposition") with
  | some severity, some disposition => do
    let statement ←
      boundedText plainError (fieldOf risk "statement") (name ++ js ".statement") 4000
    pure { severity := severity, statement := statement, disposition := disposition }
  | _, _ => .error (plainError (name ++ js " is invalid"))

def validateRisks (risks : Json) : Except Thrown (List DeliveryKnownRisk) :=
  let refused := plainError (js "knownRisks must be a bounded list")
  match risks with
  | .array items => if 100 < items.length then .error refused else mapIndexed validateRisk items
  | _ => .error refused

/-! ## Generating -/

structure GenerateCommand where
  scope : GoalScope
  verificationId : JsString
  actorId : JsString
  knownRisks : Json

structure GenerateReads where
  verification : Option GoalVerification
  verifications : List GoalVerification
  goal : Option GoalContract
  issueRuns : List DeliveryIssueRun
  reports : List DeliveryReport
  plans : List AcceptanceVerificationPlan

def GenerateReads.none : GenerateReads where
  verification := .none
  verifications := []
  goal := .none
  issueRuns := []
  reports := []
  plans := []

/-- The reads; those of the goal and of the issue runs are `collect`. -/
def generateRead (command : GenerateCommand) :
    Fin 6 → ControlProgram (GenerateReads → GenerateReads)
  | 0 => .read (.getVerification command.scope command.verificationId) fun found reads =>
      { reads with verification := found }
  | 1 => .read (.listVerifications command.scope) fun found reads =>
      { reads with verifications := found }
  | 2 => .read (.getGoal command.scope) fun found reads => { reads with goal := found }
  | 3 => .read (.listIssueRuns command.scope) fun found reads => { reads with issueRuns := found }
  | 4 => .read (.listDeliveryReports command.scope) fun found reads =>
      { reads with reports := found }
  | 5 => .read (.listPlans command.scope) fun found reads => { reads with plans := found }

/-- The order in which the reads are served; `collect` reads the goal first. -/
abbrev GenerateOrder := { order : Equiv.Perm (Fin 6) // order.symm 2 < order.symm 3 }

structure ReportBasis where
  verification : GoalVerification
  plan : AcceptanceVerificationPlan
  source : DeliveryReportSource
  reports : List DeliveryReport

def latestPassed (reads : GenerateReads) : Except Thrown GoalVerification :=
  let refused := plainError (js "A passed Goal verification is required for Delivery Report")
  match reads.verification with
  | some verification =>
    if reads.verifications.getLast?.map (·.id) ≠ some verification.id ∨
        verification.verdict ≠ .passed ∨
        verification.verifierOutput.overallVerdict.isWord (js "passed") = false then
      .error refused
    else .ok verification
  | none => .error refused

def checkSource (command : GenerateCommand) (reads : GenerateReads)
    (verification : GoalVerification) (goal : GoalContract)
    (plan : Option AcceptanceVerificationPlan) : Except Thrown AcceptanceVerificationPlan :=
  let stale := plainError (js "Delivery Report source or verification plan is stale")
  match plan with
  | some plan =>
    if reads.plans.getLast?.map (·.id) ≠ some plan.id ∨
        plan.issuePlanId ≠ verification.issuePlanId ∨ goal.id ≠ command.scope.goalId ∨
        goal.status ≠ .verifying ∨ goal.version ≠ verification.goalVersion then
      .error stale
    else .ok plan
  | none => .error stale

/-- `synchronizeGoal`: the goal still has the version of the snapshot. -/
def synchronizeGoal (goal : GoalContract) : ControlProgram Unit := do
  let current ← await (.getGoal goal.scope)
  attempt (require (decide (current.map (·.version) = some goal.version))
    (plainError (js "Authoritative Goal does not match Delivery Report source")))

def acceptanceOf (goal : GoalContract) (result : CriterionVerdict) :
    Except Thrown DeliveryReportAcceptance :=
  match goal.acceptanceCriteria.reverse.find? fun criterion =>
      criterion.id = result.criterionRef with
  | some criterion =>
    if result.verdict.isWord (js "passed") = false ∨ result.evidenceRefs = [] then
      .error (plainError (js "Every criterion requires a passed verdict and evidence"))
    else .ok
      { criterionRef := result.criterionRef
        statement := criterion.statement
        evidenceRefs := result.evidenceRefs
        rationale := result.rationale }
  | none => .error (plainError (js "Every criterion requires a passed verdict and evidence"))

/-- Every issue is completed with its artifacts, reviews and commit, and every
criterion cites what is there. -/
def hasEvidence (verification : GoalVerification) (issueRuns : List DeliveryIssueRun)
    (acceptance : List DeliveryReportAcceptance) : Bool :=
  let available := issueRuns.flatMap (·.artifactRefs) ++
    verification.deterministicResults.flatMap (·.evidenceRefs)
  issueRuns ≠ [] ∧
    (∀ run ∈ issueRuns, run.status = js "completed" ∧ run.artifactRefs ≠ [] ∧
      run.reviewIds ≠ [] ∧ (run.commitSha.getD []) ≠ []) ∧
    ∀ item ∈ acceptance, ∀ ref ∈ item.evidenceRefs, ref ∈ available

/-- What the report records besides its basis. -/
structure ReportParts where
  acceptance : List DeliveryReportAcceptance
  risks : List DeliveryKnownRisk

def reportParts (command : GenerateCommand) (basis : ReportBasis) :
    Except Thrown ReportParts := do
  let acceptance ← mapIndexed (fun _ result => acceptanceOf basis.source.goal result)
    basis.verification.verifierOutput.criteria
  require (hasEvidence basis.verification basis.source.issueRuns acceptance)
    (plainError (js <| "Completed Issue, immutable evidence, Review, and Commit references " ++
      "are required"))
  let risks ← validateRisks command.knownRisks
  require (decide (∀ risk ∈ risks, risk.disposition ≠ .blocked))
    (plainError (js "Blocked risk prevents Delivery Report generation"))
  pure { acceptance := acceptance, risks := risks }

def generatedReport (command : GenerateCommand) (basis : ReportBasis) (parts : ReportParts)
    (id : JsString) (generatedAt : ℕ) : DeliveryReport :=
  let latest := basis.reports.getLast?
  { id := id
    organizationId := command.scope.organizationId
    projectId := command.scope.projectId
    goalId := command.scope.goalId
    revision := (latest.map (·.revision)).getD 0 + 1
    previousReportId := latest.map (·.id)
    verificationId := basis.verification.id
    verificationPlanId := basis.plan.id
    issuePlanId := basis.verification.issuePlanId
    goal := basis.source.goal
    acceptance := parts.acceptance
    issueRuns := basis.source.issueRuns
    exceptions := basis.source.exceptions
    knownRisks := parts.risks
    regressionRisks := basis.verification.verifierOutput.regressionRisks
    status := .awaitingHumanAcceptance
    humanAcceptance := none
    digest := []
    generatedBy := command.actorId
    generatedAt := generatedAt
    version := 1 }

/-- `withDigest`; the digest is a function of the rest of the report. -/
def withDigest (digest : DeliveryReport → JsString) (report : DeliveryReport) : DeliveryReport :=
  { report with digest := digest { report with digest := [] } }

/-- What `generate` reads and checks before it makes the report. -/
def reportBasis (order : GenerateOrder) (command : GenerateCommand) :
    ControlProgram ReportBasis := do
  authorize command.actorId command.scope .deliveryReportGenerate
  let reads ← Program.readAll order.1 GenerateReads.none (generateRead command)
  let goal ← attempt (match reads.goal with
    | some goal => .ok goal
    | none => .error (plainError (js "Goal was not found for Delivery Report")))
  let verification ← attempt (latestPassed reads)
  let found ← await (.getPlan command.scope verification.verificationPlanId)
  let plan ← attempt (checkSource command reads verification goal found)
  synchronizeGoal goal
  pure
    { verification := verification
      plan := plan
      source := { goal := goal, issueRuns := reads.issueRuns, exceptions := [] }
      reports := reads.reports }

def generate (digest : DeliveryReport → JsString) (order : GenerateOrder)
    (command : GenerateCommand) : ControlProgram DeliveryReport := do
  let basis ← reportBasis order command
  let parts ← attempt (reportParts command basis)
  let generatedAt ← await .clock
  let id ← await .newId
  await (.appendDeliveryReport
    (withDigest digest (generatedReport command basis parts id generatedAt)))

/-! ## Accepting -/

structure AcceptCommand where
  scope : GoalScope
  reportId : JsString
  actorId : JsString
  expectedGoalVersion : ℤ
  reason : JsString
  requestId : JsString
  idempotencyKey : JsString

structure AcceptReads where
  current : Option DeliveryReport
  reports : List DeliveryReport
  goal : Option GoalContract

def AcceptReads.none : AcceptReads where
  current := .none
  reports := []
  goal := .none

def acceptRead (command : AcceptCommand) : Fin 3 → ControlProgram (AcceptReads → AcceptReads)
  | 0 => .read (.getDeliveryReport command.scope command.reportId) fun found reads =>
      { reads with current := found }
  | 1 => .read (.listDeliveryReports command.scope) fun found reads =>
      { reads with reports := found }
  | 2 => .read (.getGoal command.scope) fun found reads => { reads with goal := found }

def acceptedSuccessor (reads : AcceptReads) : Option (DeliveryReport × DeliveryReport) :=
  match reads.current, reads.reports.getLast? with
  | some current, some latest =>
    if latest.status = .accepted ∧ latest.previousReportId = some current.id then
      some (current, latest)
    else none
  | _, _ => none

def acceptableReport (command : AcceptCommand) (reads : AcceptReads) :
    Except Thrown DeliveryReport :=
  let conflict := plainError (js "Delivery Report or Goal version conflict")
  match reads.current, reads.goal with
  | some current, some goal =>
    if reads.reports.getLast?.map (·.id) ≠ some current.id ∨
        current.status ≠ .awaitingHumanAcceptance ∨ goal.status ≠ .verifying ∨
        (goal.version : ℤ) ≠ command.expectedGoalVersion ∨
        current.knownRisks.any (fun risk => risk.disposition = .blocked) then
      .error conflict
    else .ok current
  | _, _ => .error conflict

def acceptedReport (command : AcceptCommand) (current : DeliveryReport)
    (reason requestId id : JsString) (acceptedAt : ℕ) : DeliveryReport :=
  { current with
    id := id
    revision := current.revision + 1
    previousReportId := some current.id
    status := .accepted
    humanAcceptance := some
      { actorId := command.actorId
        reason := reason
        requestId := requestId
        acceptedAt := acceptedAt }
    generatedBy := command.actorId
    generatedAt := acceptedAt
    version := 1 }

/-- `accept`; the request hash is a function of the command. -/
def accept (digest : DeliveryReport → JsString) (hash : AcceptCommand → JsString)
    (order : Equiv.Perm (Fin 3)) (command : AcceptCommand) : ControlProgram AcceptedDelivery := do
  authorize command.actorId command.scope .goalAccept
  let reason ← attempt (bounded command.reason "reason" 4000)
  let requestId ← attempt (bounded command.requestId "requestId" 200)
  let idempotencyKey ← attempt (bounded command.idempotencyKey "idempotencyKey" 200)
  attempt (require (decide (8 ≤ idempotencyKey.length))
    (plainError (js "idempotencyKey is too short")))
  let reads ← Program.readAll order AcceptReads.none (acceptRead command)
  match acceptedSuccessor reads with
  | some (current, latest) =>
    await (.acceptDeliveryReport
      { current := current
        accepted := latest
        expectedGoalVersion := command.expectedGoalVersion
        idempotencyKey := idempotencyKey
        requestHash := hash command })
  | none => do
    let current ← attempt (acceptableReport command reads)
    let acceptedAt ← await .clock
    let id ← await .newId
    await (.acceptDeliveryReport
      { current := current
        accepted := withDigest digest
          (acceptedReport command current reason requestId id acceptedAt)
        expectedGoalVersion := command.expectedGoalVersion
        idempotencyKey := idempotencyKey
        requestHash := hash command })

end DevHarness.ControlPlane
