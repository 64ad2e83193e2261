import DevHarness.ReleaseCenter.CanaryReport
import DevHarness.Sequence.FirstMatch

/-!
# Canaries

The aggregate of a canary and the operations on it.  A restart begins a new attempt and keeps the
windows and the events of the old ones.
-/

namespace DevHarness.ReleaseCenter

open JsText Sequence

/-! ## The aggregate -/

inductive CanaryStatus
  | draft
  | observing
  | stopped
  | passed
  deriving DecidableEq

structure CanaryWindow where
  attempt : ℕ
  sequence : ℕ
  startedAt : ℤ
  endedAt : ℤ
  status : WindowStatus
  p0Count : ℕ
  p1Count : ℕ
  evidenceRefs : List JsString
  recordedBy : JsString
  deriving DecidableEq

inductive CanaryEventKind
  | defect (severity : Severity) (workaround : Option JsString) (status : JsString)
  | alert (severity : Severity) (resolved : Bool)
  | intervention (reason : JsString)
  deriving DecidableEq

structure CanaryEvent where
  id : JsString
  attempt : ℕ
  kind : CanaryEventKind
  observedAt : ℤ
  ownerId : JsString
  evidenceRefs : List JsString
  recordedBy : JsString
  deriving DecidableEq

structure CanaryAggregate where
  id : JsString
  organizationId : JsString
  projectId : JsString
  goalId : JsString
  candidateCommit : JsString
  status : CanaryStatus
  attempt : ℕ
  goalContractVersion : ℤ
  allowedAreas : List JsString
  excludedAreas : List JsString
  successConditions : List JsString
  stopConditions : List JsString
  rollbackRunbook : JsString
  stopRunbook : JsString
  ownerId : Option JsString
  approvedAt : Option ℤ
  startedAt : Option ℤ
  endedAt : Option ℤ
  report : Option CanaryReport
  windows : List CanaryWindow
  events : List CanaryEvent
  version : ℕ
  createdBy : JsString
  createdAt : ℤ
  updatedAt : ℤ
  deriving DecidableEq

namespace CanaryAggregate

def windowsOf (value : CanaryAggregate) (attempt : ℕ) : List CanaryWindow :=
  value.windows.filter fun window => window.attempt = attempt

def eventsOf (value : CanaryAggregate) (attempt : ℕ) : List CanaryEvent :=
  value.events.filter fun event => event.attempt = attempt

end CanaryAggregate

/-- A number of a request that is not an integer is `none`. -/
structure CreateCanaryInput where
  canaryId : JsString
  organizationId : JsString
  projectId : JsString
  goalId : JsString
  candidateCommit : JsString
  goalContractVersion : Option ℤ
  allowedAreas : List JsString
  excludedAreas : List JsString
  successConditions : List JsString
  stopConditions : List JsString
  rollbackRunbook : JsString
  stopRunbook : JsString
  createdBy : JsString

structure NewCanaryWindow where
  sequence : Option ℤ
  startedAt : JsString
  endedAt : JsString
  status : JsString
  p0Count : Option ℤ
  p1Count : Option ℤ
  evidenceRefs : List JsString

/-- An event of a request: it has the fields of its kind, the others are not read. -/
structure NewCanaryEvent where
  id : JsString
  kind : JsString
  observedAt : JsString
  ownerId : JsString
  evidenceRefs : List JsString
  severity : JsString
  resolved : Bool
  workaround : Option JsString
  status : JsString
  reason : JsString

structure PassedGoalVerification where
  id : JsString
  verifiedAt : JsString
  evidenceRefs : List JsString

section Operations

-- `Date.parse`.
variable (parse : JsString → Option ℤ)

def positive (value : Option ℤ) (message : JsString) : Except ReleaseError ℤ :=
  match value with
  | some n => do
    validate (decide (1 ≤ n)) message
    pure n
  | none => .error (.validation message)

def createCanary (input : CreateCanaryInput) (now : ℤ) : Except ReleaseError CanaryAggregate := do
  validate (commitSha input.candidateCommit)
    (js "candidateCommit must be a full lowercase Git SHA")
  let goalContractVersion ← positive input.goalContractVersion
    (js "goalContractVersion must be positive")
  let allowedAreas ← strings input.allowedAreas (js "allowedAreas")
  let excludedAreas ← strings input.excludedAreas (js "excludedAreas")
  validate (!allowedAreas.any fun area => area ∈ excludedAreas)
    (js "allowed and excluded scope overlap")
  let canaryId ← id input.canaryId (js "canaryId")
  let organizationId ← id input.organizationId (js "organizationId")
  let projectId ← id input.projectId (js "projectId")
  let goalId ← id input.goalId (js "goalId")
  let successConditions ← strings input.successConditions (js "successConditions")
  let stopConditions ← strings input.stopConditions (js "stopConditions")
  let rollbackRunbook ← runbook input.rollbackRunbook (js "rollbackRunbook")
  let stopRunbook ← runbook input.stopRunbook (js "stopRunbook")
  let createdBy ← id input.createdBy (js "createdBy")
  pure
    { id := canaryId
      organizationId := organizationId
      projectId := projectId
      goalId := goalId
      candidateCommit := input.candidateCommit
      status := .draft
      attempt := 1
      goalContractVersion := goalContractVersion
      allowedAreas := allowedAreas
      excludedAreas := excludedAreas
      successConditions := successConditions
      stopConditions := stopConditions
      rollbackRunbook := rollbackRunbook
      stopRunbook := stopRunbook
      ownerId := none
      approvedAt := none
      startedAt := none
      endedAt := none
      report := none
      windows := []
      events := []
      version := 1
      createdBy := createdBy
      createdAt := now
      updatedAt := now }

def approveCanary (value : CanaryAggregate) (actorId reason : JsString) (now : ℤ) :
    Except ReleaseError CanaryAggregate := do
  validate (value.status = .draft) (js "only a draft Canary can be approved")
  let _ ← required reason (js "reason") 4000
  let ownerId ← id actorId (js "actorId")
  pure
    { value with
      status := .observing
      ownerId := some ownerId
      approvedAt := some now
      startedAt := some now
      endedAt := none
      version := value.version + 1
      updatedAt := now }

def restartCanary (value : CanaryAggregate) (actorId reason : JsString) (now : ℤ) :
    Except ReleaseError CanaryAggregate := do
  validate (value.status = .stopped) (js "only a stopped Canary can restart")
  let _ ← required reason (js "reason") 4000
  let ownerId ← id actorId (js "actorId")
  pure
    { value with
      status := .observing
      attempt := value.attempt + 1
      ownerId := some ownerId
      approvedAt := some now
      startedAt := some now
      endedAt := none
      report := none
      version := value.version + 1
      updatedAt := now }

def observingSince (value : CanaryAggregate) : Except ReleaseError ℤ :=
  match value.status, value.startedAt with
  | .observing, some startedAt => .ok startedAt
  | _, _ => .error (.validation (js "Canary is not observing"))

def windowStatus (status : JsString) : Except ReleaseError WindowStatus :=
  if status = js "healthy" then .ok .healthy
  else if status = js "unhealthy" then .ok .unhealthy
  else .error (.validation (js "Canary window status is invalid"))

def CanaryWindow.stops (window : CanaryWindow) : Bool :=
  window.status ≠ .healthy || decide (0 < window.p0Count) || decide (0 < window.p1Count)

def withWindow (value : CanaryAggregate) (window : CanaryWindow) (now : ℤ) : CanaryAggregate :=
  { value with
    windows := value.windows ++ [window]
    status := if window.stops then .stopped else .observing
    endedAt := if window.stops then some window.endedAt else none
    version := value.version + 1
    updatedAt := now }

def recordCanaryWindow (value : CanaryAggregate) (actorId : JsString) (window : NewCanaryWindow)
    (now : ℤ) : Except ReleaseError CanaryAggregate := do
  let canaryStart ← observingSince value
  let current := value.windowsOf value.attempt
  validate (window.sequence = some (current.length + 1 : ℤ))
    (js "Canary window sequence must be contiguous")
  let startedAt ← iso parse window.startedAt (js "window.startedAt")
  let endedAt ← iso parse window.endedAt (js "window.endedAt")
  let expectedStart := (current.getLast?.map (·.endedAt)).getD canaryStart
  validate (decide (startedAt = expectedStart ∧ startedAt < endedAt ∧
      endedAt - startedAt ≤ hourMs))
    (js "Canary windows must be contiguous and at most one hour")
  validate (decide (endedAt ≤ now)) (js "Canary window cannot end in the future")
  let status ← windowStatus window.status
  let p0Count ← count window.p0Count (js "window.p0Count")
  let p1Count ← count window.p1Count (js "window.p1Count")
  let refs ← evidenceRefs window.evidenceRefs (js "window.evidenceRefs")
  let recordedBy ← id actorId (js "actorId")
  pure (withWindow value
    { attempt := value.attempt
      sequence := current.length + 1
      startedAt := startedAt
      endedAt := endedAt
      status := status
      p0Count := p0Count
      p1Count := p1Count
      evidenceRefs := refs
      recordedBy := recordedBy } now)

def eventSeverity (severity : JsString) : Except ReleaseError Severity :=
  if severity = js "P0" then .ok .p0
  else if severity = js "P1" then .ok .p1
  else if severity = js "P2" then .ok .p2
  else if severity = js "P3" then .ok .p3
  else .error (.validation (js "event.severity is invalid"))

/-- The workaround of a defect; a `P2` must have one. -/
def eventWorkaround (severity : Severity) (workaround : Option JsString) :
    Except ReleaseError (Option JsString) :=
  if severity = .p2 then
    (required (workaround.getD []) (js "event.workaround") 4000).map some
  else .ok ((workaround.map trim).filter fun text => !text.isEmpty)

def eventKind (event : NewCanaryEvent) : Except ReleaseError CanaryEventKind :=
  if event.kind = js "intervention" then
    (required event.reason (js "event.reason") 4000).map .intervention
  else do
    let severity ← eventSeverity event.severity
    if event.kind = js "alert" then
      pure (.alert severity event.resolved)
    else do
      let workaround ← eventWorkaround severity event.workaround
      let status ← required event.status (js "event.status") 200
      pure (.defect severity workaround status)

def CanaryEventKind.stops : CanaryEventKind → Bool
  | .defect severity _ _ => severity.isCritical
  | .alert severity _ => severity.isCritical
  | .intervention _ => false

def withEvent (value : CanaryAggregate) (event : CanaryEvent) (now : ℤ) : CanaryAggregate :=
  { value with
    events := value.events ++ [event]
    status := if event.kind.stops then .stopped else .observing
    endedAt := if event.kind.stops then some now else none
    version := value.version + 1
    updatedAt := now }

def recordCanaryEvent (value : CanaryAggregate) (actorId : JsString) (event : NewCanaryEvent)
    (now : ℤ) : Except ReleaseError CanaryAggregate := do
  let canaryStart ← observingSince value
  validate (!(value.eventsOf value.attempt).any fun existing => existing.id = event.id)
    (js "Canary event already exists")
  let eventId ← id event.id (js "event.id")
  let observedAt ← iso parse event.observedAt (js "event.observedAt")
  let ownerId ← id event.ownerId (js "event.ownerId")
  let refs ← evidenceRefs event.evidenceRefs (js "event.evidenceRefs")
  let recordedBy ← id actorId (js "actorId")
  validate (decide (canaryStart ≤ observedAt ∧ observedAt ≤ now))
    (js "Canary event is outside the active observation")
  let kind ← eventKind event
  pure (withEvent value
    { id := eventId
      attempt := value.attempt
      kind := kind
      observedAt := observedAt
      ownerId := ownerId
      evidenceRefs := refs
      recordedBy := recordedBy } now)

def CanaryEvent.isAlert (event : CanaryEvent) : Bool :=
  match event.kind with
  | .alert _ _ => true
  | _ => false

def CanaryEvent.resolve (event : CanaryEvent) : CanaryEvent :=
  match event.kind with
  | .alert severity _ => { event with kind := .alert severity true }
  | _ => event

/-- `reason` is checked only; `actorId` is not read. -/
def resolveCanaryAlert (value : CanaryAggregate) (eventId reason : JsString) (now : ℤ) :
    Except ReleaseError CanaryAggregate := do
  validate (value.status = .observing) (js "Canary is not observing")
  let _ ← required reason (js "reason") 4000
  let isNamed := fun event : CanaryEvent =>
    event.attempt = value.attempt && event.id = eventId && event.isAlert
  validate (value.events.any isNamed) (js "Canary alert was not found")
  pure
    { value with
      events := updateFirst isNamed CanaryEvent.resolve value.events
      version := value.version + 1
      updatedAt := now }

/-! ## The report of a canary -/

def CanaryWindow.toReport (window : CanaryWindow) : ReportWindow where
  sequence := window.sequence
  startedAt := window.startedAt
  endedAt := window.endedAt
  status := window.status
  p0Count := window.p0Count
  p1Count := window.p1Count
  evidenceRefs := window.evidenceRefs

def CanaryEvent.defect? (event : CanaryEvent) : Option ReportDefect :=
  match event.kind with
  | .defect severity workaround status => some
      { id := event.id
        severity := severity
        ownerId := event.ownerId
        status := status
        workaround := workaround }
  | _ => none

def CanaryEvent.alert? (event : CanaryEvent) : Option ReportAlert :=
  match event.kind with
  | .alert severity resolved => some
      { id := event.id
        severity := severity
        observedAt := event.observedAt
        ownerId := event.ownerId
        resolved := resolved
        evidenceRefs := event.evidenceRefs }
  | _ => none

def CanaryEvent.intervention? (event : CanaryEvent) : Option ReportIntervention :=
  match event.kind with
  | .intervention reason => some
      { id := event.id
        observedAt := event.observedAt
        ownerId := event.ownerId
        reason := reason
        evidenceRefs := event.evidenceRefs }
  | _ => none

/-- What is read of a canary that is being finalized. -/
structure Finalizing where
  ownerId : JsString
  approvedAt : ℤ
  startedAt : ℤ
  endedAt : ℤ

def eligible (value : CanaryAggregate) : Except ReleaseError Finalizing :=
  match value.status, value.startedAt, value.approvedAt, value.ownerId with
  | .observing, some startedAt, some approvedAt, some ownerId =>
    let windows := value.windowsOf value.attempt
    match windows.getLast? with
    | some last =>
      if 12 ≤ windows.length ∧ 12 * hourMs ≤ last.endedAt - startedAt then
        .ok
          { ownerId := ownerId
            approvedAt := approvedAt
            startedAt := startedAt
            endedAt := last.endedAt }
      else .error (.validation (js "Canary requires 12 continuous hours"))
    | none => .error (.validation (js "Canary requires 12 continuous hours"))
  | _, _, _, _ => .error (.validation (js "Canary is not eligible for finalization"))

def canaryReport (value : CanaryAggregate) (finalizing : Finalizing)
    (verification : ReportVerification) : CanaryReport where
  schemaVersion := js "harness.p12-canary-report.v1"
  canaryId := value.id
  status := js "passed"
  project :=
    { projectId := value.projectId
      internal := true
      risk := js "low"
      ownerId := finalizing.ownerId
      approvedAt := finalizing.approvedAt }
  scope :=
    { goalId := value.goalId
      goalContractVersion := value.goalContractVersion
      allowedAreas := value.allowedAreas
      excludedAreas := value.excludedAreas }
  conditions :=
    { success := value.successConditions
      stop := value.stopConditions
      rollbackRunbook := value.rollbackRunbook
      stopRunbook := value.stopRunbook }
  observation :=
    { requiredDurationHours := 12
      startedAt := finalizing.startedAt
      endedAt := finalizing.endedAt
      windows := (value.windowsOf value.attempt).map CanaryWindow.toReport }
  defects := (value.eventsOf value.attempt).filterMap CanaryEvent.defect?
  alerts := (value.eventsOf value.attempt).filterMap CanaryEvent.alert?
  interventions := (value.eventsOf value.attempt).filterMap CanaryEvent.intervention?
  goalVerification := verification
  gaps := []
  result := js "passed"

def reportVerification (verification : PassedGoalVerification) :
    Except ReleaseError ReportVerification := do
  let verificationId ← id verification.id (js "verification.id")
  let completedAt ← iso parse verification.verifiedAt (js "verification.verifiedAt")
  let refs ← evidenceRefs verification.evidenceRefs (js "verification.evidenceRefs")
  pure
    { status := js "passed"
      verificationId := verificationId
      completedAt := completedAt
      evidenceRefs := refs }

def finalizeCanary (value : CanaryAggregate) (verification : PassedGoalVerification) (now : ℤ) :
    Except ReleaseError CanaryAggregate := do
  let finalizing ← eligible value
  let verification ← reportVerification parse verification
  let report := canaryReport value finalizing verification
  let _ ← validateP12CanaryReport report now
  pure
    { value with
      status := .passed
      endedAt := some finalizing.endedAt
      report := some report
      version := value.version + 1
      updatedAt := now }

inductive CanaryOperation
  | approve (actorId reason : JsString)
  | recordWindow (actorId : JsString) (window : NewCanaryWindow)
  | recordEvent (actorId : JsString) (event : NewCanaryEvent)
  | resolveAlert (eventId reason : JsString)
  | restart (actorId reason : JsString)
  | finalize (verification : PassedGoalVerification)

def CanaryOperation.apply (value : CanaryAggregate) (now : ℤ) :
    CanaryOperation → Except ReleaseError CanaryAggregate
  | .approve actorId reason => approveCanary value actorId reason now
  | .recordWindow actorId window => recordCanaryWindow parse value actorId window now
  | .recordEvent actorId event => recordCanaryEvent parse value actorId event now
  | .resolveAlert eventId reason => resolveCanaryAlert value eventId reason now
  | .restart actorId reason => restartCanary value actorId reason now
  | .finalize verification => finalizeCanary parse value verification now

end Operations

end DevHarness.ReleaseCenter
