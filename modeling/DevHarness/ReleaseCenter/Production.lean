import DevHarness.ReleaseCenter.Canary
import DevHarness.Text.Stringify

/-!
# Production releases

The aggregate of a production release, the report that is signed, its digest and the gate that
accepts it.
-/

namespace DevHarness.ReleaseCenter

open JsText Sequence

/-! ## The report -/

inductive ProductionGateId
  | browserE2e
  | identitySecurity
  | autodevAuthorization
  | modelRoutingWrite
  | supplyChain
  | gitTraceability
  | recoveryStop
  | observabilityOncall
  | canaryGoalVerification
  | defectBudget
  deriving DecidableEq

namespace ProductionGateId

def text : ProductionGateId → JsString
  | browserE2e => js "browser-e2e"
  | identitySecurity => js "identity-security"
  | autodevAuthorization => js "autodev-authorization"
  | modelRoutingWrite => js "model-routing-write"
  | supplyChain => js "supply-chain"
  | gitTraceability => js "git-traceability"
  | recoveryStop => js "recovery-stop"
  | observabilityOncall => js "observability-oncall"
  | canaryGoalVerification => js "canary-goal-verification"
  | defectBudget => js "defect-budget"

/-- `P12_PRODUCTION_GATE_IDS`. -/
def all : List ProductionGateId :=
  [browserE2e, identitySecurity, autodevAuthorization, modelRoutingWrite, supplyChain,
    gitTraceability, recoveryStop, observabilityOncall, canaryGoalVerification, defectBudget]

def parse (text : JsString) : Option ProductionGateId :=
  all.find? fun gateId => gateId.text = text

theorem mem_all (gateId : ProductionGateId) : gateId ∈ all := by
  cases gateId <;> decide

end ProductionGateId

/-- `P12_RELEASE_SIGNATURE_ROLES`. -/
inductive ReleaseSignatureRole
  | owner
  deriving DecidableEq

namespace ReleaseSignatureRole

def text : ReleaseSignatureRole → JsString
  | owner => js "owner"

def all : List ReleaseSignatureRole :=
  [owner]

def parse (text : JsString) : Option ReleaseSignatureRole :=
  all.find? fun role => role.text = text

end ReleaseSignatureRole

structure ReportGate where
  gateId : ProductionGateId
  status : JsString
  ownerRole : ReleaseSignatureRole
  checkedAt : ℤ
  evidenceRefs : List JsString
  deriving DecidableEq

structure ProductionGateCheck extends ReportGate where
  checkedBy : JsString
  deriving DecidableEq

structure ReleaseDefect where
  id : JsString
  ownerId : JsString
  workaround : JsString
  evidenceRefs : List JsString
  deriving DecidableEq

structure ReleaseDefects where
  p0Count : ℤ
  p1Count : ℤ
  p2 : List ReleaseDefect
  deriving DecidableEq

structure ProductionSignature where
  role : ReleaseSignatureRole
  signerId : JsString
  signedAt : ℤ
  decision : JsString
  reason : JsString
  authenticationMethod : JsString
  requestId : JsString
  auditReceiptId : JsString
  attestationDigest : JsString
  deriving DecidableEq

structure ProductionReleaseReport where
  schemaVersion : JsString
  releaseId : JsString
  target : JsString
  candidateCommit : JsString
  evaluatedAt : ℤ
  canary : CanaryReport
  gates : List ReportGate
  defects : ReleaseDefects
  signatures : List ProductionSignature
  gaps : List JsString
  result : JsString
  deriving DecidableEq

/-! ## The digest -/

/-- What Node provides for a digest. -/
structure Hashing where
  /-- The hexadecimal digits of a SHA-256 digest. -/
  sha256 : JsString → { digest : JsString // digestText digest = true }
  /-- `localeCompare` is at most 0. -/
  before : JsString → JsString → Bool
  /-- An integer as a number of JavaScript. -/
  number : ℤ → JsNumber

namespace Hashing

variable (hashing : Hashing)

def integer (n : ℤ) : Json :=
  .number (hashing.number n)

def texts (values : List JsString) : Json :=
  .array (values.map .string)

def object (fields : List (String × Json)) : Json :=
  .object (fields.map fun field => (js field.1, field.2))

def isoText (date : ℤ) : Json :=
  .string (toISOString date)

def severityText : Severity → JsString
  | .p0 => js "P0"
  | .p1 => js "P1"
  | .p2 => js "P2"
  | .p3 => js "P3"

def windowStatusText : WindowStatus → JsString
  | .healthy => js "healthy"
  | .unhealthy => js "unhealthy"

def windowJson (window : ReportWindow) : Json :=
  object
    [("sequence", hashing.integer window.sequence),
      ("startedAt", isoText window.startedAt),
      ("endedAt", isoText window.endedAt),
      ("status", .string (windowStatusText window.status)),
      ("p0Count", hashing.integer window.p0Count),
      ("p1Count", hashing.integer window.p1Count),
      ("evidenceRefs", texts window.evidenceRefs)]

def defectJson (defect : ReportDefect) : Json :=
  object (
    [("id", .string defect.id),
      ("severity", .string (severityText defect.severity)),
      ("ownerId", .string defect.ownerId),
      ("status", .string defect.status)] ++
    match defect.workaround with
    | some workaround => [("workaround", .string workaround)]
    | none => [])

def alertJson (alert : ReportAlert) : Json :=
  object
    [("id", .string alert.id),
      ("severity", .string (severityText alert.severity)),
      ("observedAt", isoText alert.observedAt),
      ("ownerId", .string alert.ownerId),
      ("resolved", .bool alert.resolved),
      ("evidenceRefs", texts alert.evidenceRefs)]

def interventionJson (intervention : ReportIntervention) : Json :=
  object
    [("id", .string intervention.id),
      ("observedAt", isoText intervention.observedAt),
      ("ownerId", .string intervention.ownerId),
      ("reason", .string intervention.reason),
      ("evidenceRefs", texts intervention.evidenceRefs)]

def canaryJson (report : CanaryReport) : Json :=
  object
    [("schemaVersion", .string report.schemaVersion),
      ("canaryId", .string report.canaryId),
      ("status", .string report.status),
      ("project", object
        [("projectId", .string report.project.projectId),
          ("internal", .bool report.project.internal),
          ("risk", .string report.project.risk),
          ("ownerId", .string report.project.ownerId),
          ("approvedAt", isoText report.project.approvedAt)]),
      ("scope", object
        [("goalId", .string report.scope.goalId),
          ("goalContractVersion", hashing.integer report.scope.goalContractVersion),
          ("allowedAreas", texts report.scope.allowedAreas),
          ("excludedAreas", texts report.scope.excludedAreas)]),
      ("conditions", object
        [("success", texts report.conditions.success),
          ("stop", texts report.conditions.stop),
          ("rollbackRunbook", .string report.conditions.rollbackRunbook),
          ("stopRunbook", .string report.conditions.stopRunbook)]),
      ("observation", object
        [("requiredDurationHours", hashing.integer report.observation.requiredDurationHours),
          ("startedAt", isoText report.observation.startedAt),
          ("endedAt", isoText report.observation.endedAt),
          ("windows", .array (report.observation.windows.map hashing.windowJson))]),
      ("defects", .array (report.defects.map defectJson)),
      ("alerts", .array (report.alerts.map alertJson)),
      ("interventions", .array (report.interventions.map interventionJson)),
      ("goalVerification", object
        [("status", .string report.goalVerification.status),
          ("verificationId", .string report.goalVerification.verificationId),
          ("completedAt", isoText report.goalVerification.completedAt),
          ("evidenceRefs", texts report.goalVerification.evidenceRefs)]),
      ("gaps", texts report.gaps),
      ("result", .string report.result)]

def gateJson (gate : ReportGate) : Json :=
  object
    [("gateId", .string gate.gateId.text),
      ("status", .string gate.status),
      ("ownerRole", .string gate.ownerRole.text),
      ("checkedAt", isoText gate.checkedAt),
      ("evidenceRefs", texts gate.evidenceRefs)]

def releaseDefectJson (defect : ReleaseDefect) : Json :=
  object
    [("id", .string defect.id),
      ("ownerId", .string defect.ownerId),
      ("workaround", .string defect.workaround),
      ("evidenceRefs", texts defect.evidenceRefs)]

def signatureJson (signature : ProductionSignature) : Json :=
  object
    [("role", .string signature.role.text),
      ("signerId", .string signature.signerId),
      ("signedAt", isoText signature.signedAt),
      ("decision", .string signature.decision),
      ("reason", .string signature.reason),
      ("authenticationMethod", .string signature.authenticationMethod),
      ("requestId", .string signature.requestId),
      ("auditReceiptId", .string signature.auditReceiptId),
      ("attestationDigest", .string signature.attestationDigest)]

def releaseEntries (report : ProductionReleaseReport) : List (JsString × Json) :=
  [(js "schemaVersion", .string report.schemaVersion),
    (js "releaseId", .string report.releaseId),
    (js "target", .string report.target),
    (js "candidateCommit", .string report.candidateCommit),
    (js "evaluatedAt", isoText report.evaluatedAt),
    (js "canary", hashing.canaryJson report.canary),
    (js "gates", .array (report.gates.map gateJson)),
    (js "defects", object
      [("p0Count", hashing.integer report.defects.p0Count),
        ("p1Count", hashing.integer report.defects.p1Count),
        ("p2", .array (report.defects.p2.map releaseDefectJson))]),
    (js "signatures", .array (report.signatures.map signatureJson)),
    (js "gaps", texts report.gaps),
    (js "result", .string report.result)]

def releaseAttestationDigest (report : ProductionReleaseReport) : JsString :=
  let attested := (hashing.releaseEntries report).filter fun entry => entry.1 ≠ js "signatures"
  hashing.sha256 (stringify (sortKeys hashing.before (.object attested)))

end Hashing

/-! ## The gate -/

namespace ReleaseGate

/-- `id` of the production gate. -/
def id (value label : JsString) (rejectPlaceholder : Bool) : Except ReleaseError Unit :=
  Gate.id (js " is not a real signer or receipt identity") value label rejectPlaceholder

def itemField (list : String) (index : ℕ) (field : String) : JsString :=
  itemLabel (js list) index ++ js "." ++ js field

def checkGate (canaryEnd evaluatedAt : ℤ) (seen : List ProductionGateId) (gate : ReportGate)
    (index : ℕ) : Except ReleaseError Unit := do
  Gate.ensure (!decide (gate.gateId ∈ seen))
    (js "Production V1 gates contain an unknown or duplicate gate")
  Gate.ensure (gate.status = js "passed") (js "gate " ++ gate.gateId.text ++ js " is not passed")
  Gate.ensure (decide (canaryEnd ≤ gate.checkedAt ∧ gate.checkedAt ≤ evaluatedAt))
    (js "gate " ++ gate.gateId.text ++ js " was checked outside the final evidence window")
  Gate.versionedRefs gate.evidenceRefs (itemField "gates" index "evidenceRefs")

def checkGates (canaryEnd evaluatedAt : ℤ) :
    List ProductionGateId → ℕ → List ReportGate → Except ReleaseError (List ProductionGateId)
  | seen, _, [] => .ok seen
  | seen, index, gate :: rest => do
    checkGate canaryEnd evaluatedAt seen gate index
    checkGates canaryEnd evaluatedAt (gate.gateId :: seen) (index + 1) rest

def validateGates (gates : List ReportGate) (canaryEnd evaluatedAt : ℤ) :
    Except ReleaseError ℕ := do
  Gate.ensure (decide (gates.length = ProductionGateId.all.length))
    (js "Production V1 gates are incomplete")
  let seen ← checkGates canaryEnd evaluatedAt [] 0 gates
  Gate.ensure (ProductionGateId.all.all fun gateId => gateId ∈ seen)
    (js "Production V1 gates are incomplete")
  pure gates.length

def checkDefect (defect : ReleaseDefect) (index : ℕ) : Except ReleaseError Unit := do
  id defect.id (itemField "defects.p2" index "id") false
  id defect.ownerId (itemField "defects.p2" index "ownerId") false
  Gate.string defect.workaround (itemField "defects.p2" index "workaround")
  Gate.versionedRefs defect.evidenceRefs (itemField "defects.p2" index "evidenceRefs")

def validateDefects (defects : ReleaseDefects) : Except ReleaseError Unit := do
  Gate.ensure (decide (0 ≤ defects.p0Count))
    (js "defects.p0Count must be a non-negative integer")
  Gate.ensure (decide (defects.p0Count = 0))
    (js "Production V1 cannot release with P0/P1 defects")
  Gate.ensure (decide (0 ≤ defects.p1Count))
    (js "defects.p1Count must be a non-negative integer")
  Gate.ensure (decide (defects.p1Count = 0))
    (js "Production V1 cannot release with P0/P1 defects")
  defects.p2.zipIdx.forM fun (defect, index) => checkDefect defect index

def checkSignature (digest : JsString) (evaluatedAt now : ℤ) (seen : List ReleaseSignatureRole)
    (signature : ProductionSignature) (index : ℕ) : Except ReleaseError Unit := do
  Gate.ensure (!decide (signature.role ∈ seen))
    (js "Production V1 signatures have a missing or duplicate role")
  id signature.signerId (itemField "signatures" index "signerId") true
  Gate.ensure (decide (evaluatedAt ≤ signature.signedAt))
    (js "signature predates final gate evaluation")
  Gate.ensure (decide (signature.signedAt ≤ now)) (js "signature timestamp is in the future")
  Gate.ensure (signature.decision = js "approved" && signature.authenticationMethod = js "oidc")
    (js "signature must be an approved OIDC attestation")
  Gate.string signature.reason (itemField "signatures" index "reason")
  Gate.ensure (decide (20 ≤ signature.reason.length)) (js "signature reason is too short")
  id signature.requestId (itemField "signatures" index "requestId") true
  id signature.auditReceiptId (itemField "signatures" index "auditReceiptId") true
  Gate.string signature.attestationDigest (itemField "signatures" index "attestationDigest")
  Gate.ensure (digestText signature.attestationDigest && signature.attestationDigest = digest)
    (js "signature digest does not bind the final release evidence")

def checkSignatures (digest : JsString) (evaluatedAt now : ℤ) :
    List ReleaseSignatureRole → ℕ → List ProductionSignature → Except ReleaseError Unit
  | _, _, [] => .ok ()
  | seen, index, signature :: rest => do
    checkSignature digest evaluatedAt now seen signature index
    checkSignatures digest evaluatedAt now (signature.role :: seen) (index + 1) rest

def validateSignatures (signatures : List ProductionSignature) (digest : JsString)
    (evaluatedAt now : ℤ) : Except ReleaseError ℕ := do
  Gate.ensure (decide (signatures.length = ReleaseSignatureRole.all.length))
    (js "Production V1 requires exactly one owner signature")
  checkSignatures digest evaluatedAt now [] 0 signatures
  pure signatures.length

end ReleaseGate

structure ReleaseGateResult where
  gateCount : ℕ
  signatureCount : ℕ
  attestationDigest : JsString

section Gate

variable (hashing : Hashing)

open ReleaseGate in
def validateP12ProductionReleaseGate (report : ProductionReleaseReport) (now : ℤ) :
    Except ReleaseError ReleaseGateResult := do
  Gate.ensure (report.schemaVersion = js "harness.p12-production-release-gate.v1" &&
    report.target = js "production-v1") (js "release schema or target is invalid")
  ReleaseGate.id report.releaseId (js "releaseId") false
  Gate.string report.candidateCommit (js "candidateCommit")
  Gate.ensure (commitSha report.candidateCommit) (js "candidateCommit must be a full Git SHA")
  Gate.ensure (decide (report.evaluatedAt ≤ now)) (js "release evaluation is in the future")
  let _ ← validateP12CanaryReport report.canary now
  let canaryEnd := report.canary.observation.endedAt
  Gate.ensure (decide (canaryEnd ≤ report.evaluatedAt))
    (js "release was evaluated before Canary ended")
  let gateCount ← validateGates report.gates canaryEnd report.evaluatedAt
  ReleaseGate.validateDefects report.defects
  Gate.ensure (report.gaps.isEmpty && report.result = js "approved")
    (js "release has unresolved gaps or is not approved")
  let attestationDigest := hashing.releaseAttestationDigest report
  let signatureCount ← validateSignatures report.signatures attestationDigest report.evaluatedAt now
  pure
    { gateCount := gateCount
      signatureCount := signatureCount
      attestationDigest := attestationDigest }

end Gate

inductive ProductionReleaseStatus
  | draft
  | awaitingSignatures
  | approved
  deriving DecidableEq

structure ProductionReleaseAggregate where
  id : JsString
  organizationId : JsString
  projectId : JsString
  goalId : JsString
  canaryId : JsString
  candidateCommit : JsString
  status : ProductionReleaseStatus
  canaryReport : CanaryReport
  gates : List ProductionGateCheck
  defects : ReleaseDefects
  evaluatedAt : Option ℤ
  attestationDigest : Option JsString
  signatures : List ProductionSignature
  report : Option ProductionReleaseReport
  version : ℕ
  createdBy : JsString
  createdAt : ℤ
  updatedAt : ℤ
  deriving DecidableEq

/-! ## The operations -/

/-- The `P2` defects of a canary, each with its workaround. -/
def releaseDefect (event : CanaryEvent) : Option (Except ReleaseError ReleaseDefect) :=
  match event.kind with
  | .defect .p2 workaround _ => some do
      let workaround ← required (workaround.getD []) (js "P2 workaround") 4000
      pure
        { id := event.id
          ownerId := event.ownerId
          workaround := workaround
          evidenceRefs := event.evidenceRefs }
  | _ => none

def passedReport (canary : CanaryAggregate) : Except ReleaseError CanaryReport :=
  match canary.status, canary.report with
  | .passed, some report => .ok report
  | _, _ => .error (.validation (js "Production release requires a passed Canary"))

def createProductionRelease (releaseId : JsString) (canary : CanaryAggregate) (actorId : JsString)
    (now : ℤ) : Except ReleaseError ProductionReleaseAggregate := do
  let canaryReport ← passedReport canary
  let p2 ← ((canary.eventsOf canary.attempt).filterMap releaseDefect).mapM fun defect => defect
  let releaseId ← id releaseId (js "releaseId")
  let createdBy ← id actorId (js "actorId")
  pure
    { id := releaseId
      organizationId := canary.organizationId
      projectId := canary.projectId
      goalId := canary.goalId
      canaryId := canary.id
      candidateCommit := canary.candidateCommit
      status := .draft
      canaryReport := canaryReport
      gates := []
      defects := { p0Count := 0, p1Count := 0, p2 := p2 }
      evaluatedAt := none
      attestationDigest := none
      signatures := []
      report := none
      version := 1
      createdBy := createdBy
      createdAt := now
      updatedAt := now }

def gateAndRole (gateId ownerRole : JsString) :
    Except ReleaseError (ProductionGateId × ReleaseSignatureRole) :=
  match ProductionGateId.parse gateId, ReleaseSignatureRole.parse ownerRole with
  | some gateId, some ownerRole => .ok (gateId, ownerRole)
  | _, _ => .error (.validation (js "Production gate or owner role is invalid"))

def recordProductionGate (value : ProductionReleaseAggregate)
    (actorId gateId ownerRole : JsString) (refs : List JsString) (now : ℤ) :
    Except ReleaseError ProductionReleaseAggregate := do
  validate (value.status = .draft)
    (js "Production release evidence is locked after evaluation")
  let checked ← gateAndRole gateId ownerRole
  let refs ← evidenceRefs refs (js "gate.evidenceRefs")
  let checkedBy ← id actorId (js "actorId")
  let gate : ProductionGateCheck :=
    { gateId := checked.1
      status := js "passed"
      ownerRole := checked.2
      checkedAt := now
      evidenceRefs := refs
      checkedBy := checkedBy }
  pure
    { value with
      gates := (value.gates.filter fun existing => existing.gateId ≠ gate.gateId) ++ [gate]
      version := value.version + 1
      updatedAt := now }

def productionReport (value : ProductionReleaseAggregate) (signatures : List ProductionSignature)
    (evaluatedAt : ℤ) : ProductionReleaseReport where
  schemaVersion := js "harness.p12-production-release-gate.v1"
  releaseId := value.id
  target := js "production-v1"
  candidateCommit := value.candidateCommit
  evaluatedAt := evaluatedAt
  canary := value.canaryReport
  gates := value.gates.map (·.toReportGate)
  defects := value.defects
  signatures := signatures
  gaps := []
  result := js "approved"

section Operations

variable (hashing : Hashing)

def evaluateProductionRelease (value : ProductionReleaseAggregate) (actorId : JsString) (now : ℤ) :
    Except ReleaseError ProductionReleaseAggregate := do
  validate (value.status = .draft) (js "Production release is already evaluated")
  validate (ProductionGateId.all.all (fun gateId => gateId ∈ value.gates.map (·.gateId)) &&
      decide (value.gates.length = ProductionGateId.all.length))
    (js "Production release requires all ten gates")
  let _ ← id actorId (js "actorId")
  let unsigned := productionReport value [] now
  pure
    { value with
      status := .awaitingSignatures
      evaluatedAt := some now
      attestationDigest := some (hashing.releaseAttestationDigest unsigned)
      report := some unsigned
      version := value.version + 1
      updatedAt := now }

def awaiting (value : ProductionReleaseAggregate) : Except ReleaseError (ℤ × JsString) :=
  match value.status, value.evaluatedAt, value.attestationDigest with
  | .awaitingSignatures, some evaluatedAt, some digest =>
    if digest = [] then
      .error (.validation (js "Production release is not awaiting signatures"))
    else .ok (evaluatedAt, digest)
  | _, _, _ => .error (.validation (js "Production release is not awaiting signatures"))

def signatureRole (role : JsString) : Except ReleaseError ReleaseSignatureRole :=
  match ReleaseSignatureRole.parse role with
  | some role => .ok role
  | none => .error (.validation (js "signature role is invalid"))

structure SignInput where
  actorId : JsString
  role : JsString
  reason : JsString
  requestId : JsString
  auditReceiptId : JsString

def newSignature (value : ProductionReleaseAggregate) (input : SignInput) (digest : JsString)
    (now : ℤ) : Except ReleaseError ProductionSignature := do
  let role ← signatureRole input.role
  let signerId ← id input.actorId (js "actorId")
  validate (!value.signatures.any fun signature => signature.role = role)
    (js "signature role is already approved")
  let reason ← required input.reason (js "reason") 4000
  validate (decide (20 ≤ reason.length)) (js "signature reason is too short")
  let requestId ← id input.requestId (js "requestId")
  let auditReceiptId ← id input.auditReceiptId (js "auditReceiptId")
  pure
    { role := role
      signerId := signerId
      signedAt := now
      decision := js "approved"
      reason := reason
      authenticationMethod := js "oidc"
      requestId := requestId
      auditReceiptId := auditReceiptId
      attestationDigest := digest }

/-- The gate is asked when the last signature is there. -/
def validateSigned (report : ProductionReleaseReport) (now : ℤ) : Except ReleaseError Unit :=
  if report.signatures.length = ReleaseSignatureRole.all.length then
    (validateP12ProductionReleaseGate hashing report now).map fun _ => ()
  else .ok ()

def signProductionRelease (value : ProductionReleaseAggregate) (input : SignInput) (now : ℤ) :
    Except ReleaseError ProductionReleaseAggregate := do
  let awaited ← awaiting value
  let signature ← newSignature value input awaited.2 now
  let signatures := value.signatures ++ [signature]
  let report := productionReport value signatures awaited.1
  validateSigned hashing report now
  pure
    { value with
      status :=
        if signatures.length = ReleaseSignatureRole.all.length then .approved
        else .awaitingSignatures
      signatures := signatures
      report := some report
      version := value.version + 1
      updatedAt := now }

inductive ReleaseOperation
  | recordGate (actorId gateId ownerRole : JsString) (refs : List JsString)
  | evaluate (actorId : JsString)
  | sign (input : SignInput)

def ReleaseOperation.apply (value : ProductionReleaseAggregate) (now : ℤ) :
    ReleaseOperation → Except ReleaseError ProductionReleaseAggregate
  | .recordGate actorId gateId ownerRole refs =>
    recordProductionGate value actorId gateId ownerRole refs now
  | .evaluate actorId => evaluateProductionRelease hashing value actorId now
  | .sign input => signProductionRelease hashing value input now

end Operations

end DevHarness.ReleaseCenter
