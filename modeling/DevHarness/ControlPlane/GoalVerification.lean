import DevHarness.ControlPlane.Repository
import DevHarness.ControlPlane.VerifierOutput
import DevHarness.Interleave.Exchange

/-!
# The goal verification service

`GoalVerificationService.verify` as a program: it reads the goal, the compiled
plan and what was verified before, runs the entries of the plan, asks the
verifier, and appends the verification that results.
-/

namespace DevHarness.ControlPlane

open JsText Interleave

/-- The configuration of the service; `toLocaleLowerCase` is that of the platform
for `en-US`. -/
structure GoalVerificationService where
  configuredIdentity : JsString
  configuredVersion : JsString
  toLocaleLowerCase : JsString → JsString

namespace GoalVerificationService

def verifierIdentity (service : GoalVerificationService) : JsString :=
  trim service.configuredIdentity

def verifierVersion (service : GoalVerificationService) : JsString :=
  trim service.configuredVersion

end GoalVerificationService

structure ManualEvidence where
  entryId : JsString
  evidenceRef : JsString
  reason : JsString

structure VerifyCommand where
  scope : GoalScope
  planId : JsString
  actorId : JsString
  expectedGoalVersion : ℤ
  manualEvidence : List ManualEvidence

/-- `authorizer.authorize` for an actor in the scope. -/
def authorize (actorId : JsString) (scope : GoalScope) (permission : Permission) :
    ControlProgram Unit :=
  await (.authorize
    { actorId := actorId
      organizationId := scope.organizationId
      projectId := scope.projectId
      permission := permission })

/-- `within`: the answer, unless the timer was faster. -/
def within {α : Type} (answer : Option α) (message : JsString) : Except Thrown α :=
  match answer with
  | some value => .ok value
  | none => .error (contractError message)

structure VerifyReads where
  goal : Option GoalContract
  plan : Option AcceptanceVerificationPlan
  plans : List AcceptanceVerificationPlan
  previous : List GoalVerification
  latestIssuePlan : Option IssuePlan

def VerifyReads.none : VerifyReads where
  goal := .none
  plan := .none
  plans := []
  previous := []
  latestIssuePlan := .none

def verifyRead (command : VerifyCommand) : Fin 5 → ControlProgram (VerifyReads → VerifyReads)
  | 0 => .read (.getGoal command.scope) fun goal reads => { reads with goal := goal }
  | 1 => .read (.getPlan command.scope command.planId) fun plan reads =>
      { reads with plan := plan }
  | 2 => .read (.listPlans command.scope) fun plans reads => { reads with plans := plans }
  | 3 => .read (.listVerifications command.scope) fun previous reads =>
      { reads with previous := previous }
  | 4 => .read (.getLatestIssuePlan command.scope) fun latest reads =>
      { reads with latestIssuePlan := latest }

def checkCurrent (command : VerifyCommand) (reads : VerifyReads) :
    Except Thrown (GoalContract × AcceptanceVerificationPlan) :=
  let stale := contractError (js "Goal or compiled verification plan is stale or unavailable")
  match reads.goal, reads.plan, reads.latestIssuePlan with
  | some goal, some plan, some latestIssuePlan =>
    if goal.status ≠ .verifying ∨ (goal.version : ℤ) ≠ command.expectedGoalVersion ∨
        plan.goalVersion ≠ goal.version ∨ plan.compilation.valid = false ∨
        reads.plans.getLast?.map (·.id) ≠ some plan.id ∨
        latestIssuePlan.id ≠ plan.issuePlanId ∨ latestIssuePlan.status ≠ .approved then
      .error stale
    else .ok (goal, plan)
  | _, _, _ => .error stale

/-! ## The entries of the plan -/

def manualResult (command : VerifyCommand) (entry : AcceptanceVerificationEntry)
    (instructions : JsString) : ControlProgram DeterministicVerifierAnswer :=
  match command.manualEvidence.find? fun evidence => evidence.entryId = entry.id with
  | some signed => do
    authorize command.actorId command.scope .goalAccept
    attempt (require (decide (trim signed.evidenceRef ≠ [] ∧ trim signed.reason ≠ []))
      (contractError
        (js "Manual verification " ++ entry.id ++ js " requires evidence and reason")))
    let signedAt ← await .clock
    pure
      { status := js "passed"
        evidenceRefs := [trim signed.evidenceRef]
        summary := trim signed.reason
        durationMs := some 0
        manualApproval := some
          { actorId := command.actorId
            reason := trim signed.reason
            signedAt := signedAt } }
  | none => pure
      { status := js "needs_manual"
        evidenceRefs := []
        summary := instructions
        durationMs := some 0
        manualApproval := none }

def runEntry (command : VerifyCommand) (entry : AcceptanceVerificationEntry) :
    ControlProgram DeterministicVerifierAnswer :=
  match entry.strategy with
  | .manual instructions => manualResult command entry instructions
  | .referenced _ _ => do
    let answer ← await (.runDeterministic entry command.scope)
    attempt (within answer (js "Deterministic verification " ++ entry.id ++ js " timed out"))

def DeterministicVerifierAnswer.isValid (answer : DeterministicVerifierAnswer) : Bool :=
  answer.status ∈ criterionVerdicts.map js ∧ trim answer.summary ≠ [] ∧
    ¬ (answer.status = js "passed" ∧ answer.evidenceRefs = [])

/-- `result.durationMs ?? Date.now() - started`. -/
def durationOf (answer : DeterministicVerifierAnswer) (started : ℕ) : ControlProgram ℤ :=
  match answer.durationMs with
  | some durationMs => pure durationMs
  | none => do
    let now ← await .clock
    pure ((now : ℤ) - started)

def verifyEntry (command : VerifyCommand) (entry : AcceptanceVerificationEntry) :
    ControlProgram DeterministicVerificationResult := do
  let started ← await .clock
  let answer ← runEntry command entry
  attempt (require answer.isValid
    (contractError
      (js "Deterministic verification " ++ entry.id ++ js " returned invalid evidence")))
  let durationMs ← durationOf answer started
  pure
    { entryId := entry.id
      criterionRef := entry.criterionRef
      status := answer.status
      evidenceRefs := answer.evidenceRefs.eraseDups
      summary := trim answer.summary
      durationMs := durationMs
      manualApproval := answer.manualApproval }

/-! ## The verification -/

def GoalVerificationService.isIndependent (service : GoalVerificationService)
    (builders : List JsString) : Bool :=
  service.verifierIdentity ≠ [] ∧ service.verifierVersion ≠ [] ∧
    ∀ identity ∈ builders, service.toLocaleLowerCase (trim identity) ≠
      service.toLocaleLowerCase service.verifierIdentity

def citesEvidence (results : List DeterministicVerificationResult)
    (output : GoalVerifierOutput) : Bool :=
  ∀ criterion ∈ output.criteria, criterion.verdict.isWord (js "passed") = true →
    criterion.evidenceRefs ≠ [] ∧
      ∀ ref ∈ criterion.evidenceRefs, ref ∈ results.flatMap (·.evidenceRefs)

def knowsEvidence (evidence : List ManualEvidence)
    (entries : List AcceptanceVerificationEntry) : Bool :=
  ∀ item ∈ evidence, ∃ entry ∈ entries,
    entry.id = item.entryId ∧ entry.strategy.isManual = true

/-- The parts of a verification that decide its verdict. -/
structure Judgement where
  goal : GoalContract
  plan : AcceptanceVerificationPlan
  previous : List GoalVerification
  results : List DeterministicVerificationResult
  sessionId : JsString
  output : GoalVerifierOutput

/-- `verify` up to the check of the cited evidence. -/
def judge (service : GoalVerificationService) (order : Equiv.Perm (Fin 5))
    (command : VerifyCommand) : ControlProgram Judgement := do
  authorize command.actorId command.scope .goalVerify
  let reads ← Program.readAll order VerifyReads.none (verifyRead command)
  let current ← attempt (checkCurrent command reads)
  let builders ← await (.listBuilders command.scope current.2.issuePlanId)
  let allBuilders := builders.eraseDups.filter fun identity => identity ≠ []
  attempt (require (service.isIndependent allBuilders)
    (contractError (js "Goal Verifier identity must be independent from every Builder")))
  attempt (require (decide (command.manualEvidence.map (·.entryId)).Nodup)
    (contractError (js "Manual evidence entry IDs must be unique")))
  let results ← Program.forEach (verifyEntry command) current.2.entries
  attempt (require (knowsEvidence command.manualEvidence current.2.entries)
    (contractError (js "Manual evidence references an unknown entry")))
  let sessionId ← await .newId
  let answer ← await (.verifyGoal
    { goal := current.1
      plan := current.2
      deterministicResults := results
      verifierIdentity := service.verifierIdentity
      builderIdentities := allBuilders
      sessionId := sessionId })
  let rawOutput ← attempt (within answer (js "Goal Verifier session timed out"))
  let output ← attempt (validateGoalVerifierOutput rawOutput current.1)
  attempt (require (citesEvidence results output)
    (contractError (js "Verifier cited missing evidence for a passed criterion")))
  pure
    { goal := current.1
      plan := current.2
      previous := reads.previous
      results := results
      sessionId := sessionId
      output := output }

def verificationOf (service : GoalVerificationService) (command : VerifyCommand)
    (judgement : Judgement) (id : JsString) (verifiedAt : ℕ) : GoalVerification :=
  let latest := judgement.previous.getLast?
  { id := id
    organizationId := command.scope.organizationId
    projectId := command.scope.projectId
    goalId := command.scope.goalId
    verificationPlanId := judgement.plan.id
    issuePlanId := judgement.plan.issuePlanId
    revision := (latest.map (·.revision)).getD 0 + 1
    previousVerificationId := latest.map (·.id)
    goalVersion := judgement.goal.version
    verdict := derivedVerdict judgement.results judgement.output
    deterministicResults := judgement.results
    verifierOutput := judgement.output
    verifierIdentity := service.verifierIdentity
    verifierVersion := service.verifierVersion
    sessionId := judgement.sessionId
    verifiedAt := verifiedAt
    version := 1 }

def verify (service : GoalVerificationService) (order : Equiv.Perm (Fin 5))
    (command : VerifyCommand) : ControlProgram GoalVerification := do
  let judgement ← judge service order command
  let id ← await .newId
  let verifiedAt ← await .clock
  await (.appendVerification (verificationOf service command judgement id verifiedAt))

end DevHarness.ControlPlane
