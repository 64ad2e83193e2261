import DevHarness.Interleave.Ending
import DevHarness.ReleaseCenter.Repository

/-!
# The service of the release center

A command is replayed if its key has been used, and else computed from the aggregate that the
service reads and committed over the version that the client expects.  Deliveries interleave at
every access to the repository; each access is atomic.
-/

namespace DevHarness.ReleaseCenter

open JsText Interleave Program

/-! ## Commands -/

/-- What the service asks of its authorizer, its repository, its clock and its generator of ids. -/
inductive ServiceCommand
  | authorizePermission (scope : ReleaseCenterScope) (actorId permission : JsString)
  | authorizeRole (scope : ReleaseCenterScope) (actorId releaseRole : JsString)
  | clock
  | idGenerator
  | findCommand (command : ReleaseCommandMetadata)
  | get (key : AggregateKey)
  | findPassedGoalVerification (scope : ReleaseCenterScope) (goalId : JsString)
      (startedAt endedAt : ℤ)
  | commit (input : ReleaseCommit)

def ServiceCommand.Answer : ServiceCommand → Type
  | .authorizePermission _ _ _ => Unit
  | .authorizeRole _ _ _ => Unit
  | .clock => ℤ
  | .idGenerator => JsString
  | .findCommand _ => Option Aggregate
  | .get _ => Option Aggregate
  | .findPassedGoalVerification _ _ _ _ => Option PassedGoalVerification
  | .commit _ => Aggregate

/-- How an access may fail: before the repository has done anything, or after it has committed. -/
structure ReleaseFailure where
  error : JsString
  committed : Bool

/-- What does not depend on the store. -/
structure ReleaseOutside where
  failure : Option ReleaseFailure
  id : JsString
  clock : ℤ
  verification : Option PassedGoalVerification

variable {Store : Type}

def ReleaseOutside.answering {α : Type} (outside : ReleaseOutside) (store : Store)
    (answer : Except ReleaseCenterError α × Store) : Except ReleaseCenterError α × Store :=
  match outside.failure with
  | some failure => (.error (.outside failure.error), if failure.committed then answer.2 else store)
  | none => answer

def execRelease (repository : ReleaseCenterRepository Store) (outside : ReleaseOutside) :
    (command : ServiceCommand) → Store →
      Option (Except ReleaseCenterError command.Answer × Store)
  | .authorizePermission _ _ _, store => some (outside.answering store (.ok (), store))
  | .authorizeRole _ _ _, store => some (outside.answering store (.ok (), store))
  | .clock, store => some (.ok outside.clock, store)
  | .idGenerator, store => some (.ok outside.id, store)
  | .findCommand command, store =>
    some (outside.answering store (repository.findCommand store command, store))
  | .get key, store => some (outside.answering store (.ok (repository.get store key), store))
  | .findPassedGoalVerification _ _ _ _, store =>
    some (outside.answering store (.ok outside.verification, store))
  | .commit input, store => some (outside.answering store (repository.commit store input))

abbrev ReleaseProgram := Program ServiceCommand ServiceCommand.Answer ReleaseCenterError

abbrev ask (command : ServiceCommand) : ReleaseProgram command.Answer :=
  Program.request command

def domain {α : Type} (result : Except ReleaseError α) : ReleaseProgram α :=
  .done (result.mapError .domain)

/-! ## Calls -/

structure ReleaseCommandIdentity where
  actorId : JsString
  requestId : JsString
  idempotencyKey : JsString
  reason : JsString

/-- What a client sends to create a canary; the scope, the actor and the id are not part of it. -/
structure CanaryDraft where
  goalId : JsString
  candidateCommit : JsString
  goalContractVersion : Option ℤ
  allowedAreas : List JsString
  excludedAreas : List JsString
  successConditions : List JsString
  stopConditions : List JsString
  rollbackRunbook : JsString
  stopRunbook : JsString

/-- The version that a client has seen. -/
abbrev ExpectedVersion :=
  { version : ℕ // 1 ≤ version }

/-- The methods of the service that write, each with what it takes beside scope and identity. -/
inductive ReleaseBody
  | createCanary (draft : CanaryDraft)
  | approveCanary (canaryId : JsString) (expectedVersion : ExpectedVersion)
  | restartCanary (canaryId : JsString) (expectedVersion : ExpectedVersion)
  | recordCanaryWindow (canaryId : JsString) (expectedVersion : ExpectedVersion)
      (window : NewCanaryWindow)
  | recordCanaryEvent (canaryId : JsString) (expectedVersion : ExpectedVersion)
      (event : NewCanaryEvent)
  | resolveCanaryAlert (canaryId : JsString) (expectedVersion : ExpectedVersion)
      (eventId : JsString)
  | finalizeCanary (canaryId : JsString) (expectedVersion : ExpectedVersion)
  | createProductionRelease (canaryId : JsString)
  | recordProductionGate (releaseId : JsString) (expectedVersion : ExpectedVersion)
      (gateId ownerRole : JsString) (evidenceRefs : List JsString)
  | evaluateProductionRelease (releaseId : JsString) (expectedVersion : ExpectedVersion)
  | signProductionRelease (releaseId : JsString) (expectedVersion : ExpectedVersion)
      (role : JsString)

structure ReleaseCall where
  scope : ReleaseCenterScope
  identity : ReleaseCommandIdentity
  body : ReleaseBody

namespace ReleaseBody

def endpoint : ReleaseBody → JsString
  | createCanary _ => js "release.canary.create"
  | approveCanary _ _ => js "release.canary.approve"
  | restartCanary _ _ => js "release.canary.restart"
  | recordCanaryWindow _ _ _ => js "release.canary.window"
  | recordCanaryEvent _ _ _ => js "release.canary.event"
  | resolveCanaryAlert _ _ _ => js "release.canary.resolve-alert"
  | finalizeCanary _ _ => js "release.canary.finalize"
  | createProductionRelease _ => js "release.production.create"
  | recordProductionGate _ _ _ _ _ => js "release.production.gate"
  | evaluateProductionRelease _ _ => js "release.production.evaluate"
  | signProductionRelease _ _ _ => js "release.production.sign"

def eventType : ReleaseBody → JsString
  | createCanary _ => js "release.canary.created"
  | approveCanary _ _ => js "release.canary.approved"
  | restartCanary _ _ => js "release.canary.restarted"
  | recordCanaryWindow _ _ _ => js "release.canary.window-recorded"
  | recordCanaryEvent _ _ _ => js "release.canary.event-recorded"
  | resolveCanaryAlert _ _ _ => js "release.canary.alert-resolved"
  | finalizeCanary _ _ => js "release.canary.passed"
  | createProductionRelease _ => js "release.production.created"
  | recordProductionGate _ _ _ _ _ => js "release.production.gate-passed"
  | evaluateProductionRelease _ _ => js "release.production.evaluated"
  | signProductionRelease _ _ _ => js "release.production.signed"

end ReleaseBody

/-! ## Routines -/

structure ReleaseRuntime where
  /-- `Date.parse`. -/
  parse : JsString → Option ℤ
  hashing : Hashing
  /-- `hash` of the whole input of a method. -/
  hash : ReleaseCall → JsString

def checkIdentity (label : String) (value : JsString) (minimum : ℕ) : Except ReleaseError Unit :=
  validate (!(trim value).isEmpty && decide (minimum ≤ (trim value).length) &&
    decide (value.length ≤ 4000)) (js label ++ js " is required and bounded")

def validIdentity (identity : ReleaseCommandIdentity) : Except ReleaseError Unit := do
  checkIdentity "actorId" identity.actorId 1
  checkIdentity "requestId" identity.requestId 1
  checkIdentity "idempotencyKey" identity.idempotencyKey 8
  checkIdentity "reason" identity.reason 20

def ReleaseCall.metadata (runtime : ReleaseRuntime) (call : ReleaseCall)
    (auditId eventId : JsString) (occurredAt : ℤ) : ReleaseCommandMetadata where
  scope := call.scope
  actorId := call.identity.actorId
  requestId := call.identity.requestId
  idempotencyKey := call.identity.idempotencyKey
  requestHash := runtime.hash call
  endpoint := call.body.endpoint
  reason := call.identity.reason
  auditId := auditId
  eventId := eventId
  eventType := call.body.eventType
  occurredAt := occurredAt

section Routines

variable (runtime : ReleaseRuntime) (call : ReleaseCall)

def command : ReleaseProgram ReleaseCommandMetadata := do
  let auditId : JsString ← ask .idGenerator
  let _ ← domain (validIdentity call.identity)
  let eventId : JsString ← ask .idGenerator
  let occurredAt : ℤ ← ask .clock
  pure (call.metadata runtime auditId eventId occurredAt)

/-- The common frame of the methods: a command whose key has been used is replayed. -/
def replaying (compute : ReleaseCommandMetadata → ReleaseProgram Aggregate) :
    ReleaseProgram Aggregate := do
  let metadata ← command runtime call
  let replay : Option Aggregate ← ask (.findCommand metadata)
  match replay with
  | some aggregate => pure aggregate
  | none => compute metadata

/-- `canary` of the service. -/
def canary (scope : ReleaseCenterScope) (canaryId : JsString) : ReleaseProgram CanaryAggregate := do
  let value : Option Aggregate ← ask (.get ⟨.canary, scope, canaryId⟩)
  match value with
  | some (.canary value) => pure value
  | _ => throw .notFound

/-- `production` of the service. -/
def production (scope : ReleaseCenterScope) (releaseId : JsString) :
    ReleaseProgram ProductionReleaseAggregate := do
  let value : Option Aggregate ← ask (.get ⟨.production, scope, releaseId⟩)
  match value with
  | some (.production value) => pure value
  | _ => throw .notFound

def timed {α : Type} (operate : ℤ → Except ReleaseError α) : ReleaseProgram α := do
  let now : ℤ ← ask .clock
  domain (operate now)

def createCanaryInput (draft : CanaryDraft) (canaryId : JsString) : CreateCanaryInput where
  canaryId := canaryId
  organizationId := call.scope.organizationId
  projectId := call.scope.projectId
  goalId := draft.goalId
  candidateCommit := draft.candidateCommit
  goalContractVersion := draft.goalContractVersion
  allowedAreas := draft.allowedAreas
  excludedAreas := draft.excludedAreas
  successConditions := draft.successConditions
  stopConditions := draft.stopConditions
  rollbackRunbook := draft.rollbackRunbook
  stopRunbook := draft.stopRunbook
  createdBy := call.identity.actorId

def createCanaryMethod (draft : CanaryDraft) : ReleaseProgram Aggregate := do
  let _ ← ask (.authorizePermission call.scope call.identity.actorId (js "run.operate"))
  let now : ℤ ← ask .clock
  replaying runtime call fun metadata => do
    let canaryId : JsString ← ask .idGenerator
    let aggregate ← domain (createCanary (createCanaryInput call draft canaryId) now)
    ask (.commit
      { aggregate := .canary aggregate
        expectedVersion := 0
        command := metadata
        addition := .nothing })

def updateCanary (canaryId : JsString) (expectedVersion : ExpectedVersion)
    (operate : CanaryAggregate → ReleaseProgram CanaryAggregate)
    (addition : CanaryAggregate → Addition) : ReleaseProgram Aggregate := do
  let _ ← ask (.authorizeRole call.scope call.identity.actorId (js "owner"))
  replaying runtime call fun metadata => do
    let current ← canary call.scope canaryId
    let aggregate ← operate current
    ask (.commit
      { aggregate := .canary aggregate
        expectedVersion := expectedVersion.val
        command := metadata
        addition := addition aggregate })

def approveCanaryMethod (canaryId : JsString) (expectedVersion : ExpectedVersion) :
    ReleaseProgram Aggregate :=
  updateCanary runtime call canaryId expectedVersion
    (fun current => timed (approveCanary current call.identity.actorId call.identity.reason))
    fun _ => .nothing

def restartCanaryMethod (canaryId : JsString) (expectedVersion : ExpectedVersion) :
    ReleaseProgram Aggregate :=
  updateCanary runtime call canaryId expectedVersion
    (fun current => timed (restartCanary current call.identity.actorId call.identity.reason))
    fun _ => .nothing

/-- `aggregate.windows.at(-1)`. -/
def appendedWindow (aggregate : CanaryAggregate) : Addition :=
  match aggregate.windows.getLast? with
  | some window => .window window
  | none => .nothing

def recordCanaryWindowMethod (canaryId : JsString) (expectedVersion : ExpectedVersion)
    (window : NewCanaryWindow) : ReleaseProgram Aggregate :=
  updateCanary runtime call canaryId expectedVersion
    (fun current => timed (recordCanaryWindow runtime.parse current call.identity.actorId window))
    appendedWindow

/-- `aggregate.events.at(-1)`. -/
def appendedEvent (aggregate : CanaryAggregate) : Addition :=
  match aggregate.events.getLast? with
  | some event => .event event
  | none => .nothing

def recordCanaryEventMethod (canaryId : JsString) (expectedVersion : ExpectedVersion)
    (event : NewCanaryEvent) : ReleaseProgram Aggregate :=
  updateCanary runtime call canaryId expectedVersion
    (fun current => timed (recordCanaryEvent runtime.parse current call.identity.actorId event))
    appendedEvent

def resolveCanaryAlertMethod (canaryId : JsString) (expectedVersion : ExpectedVersion)
    (eventId : JsString) : ReleaseProgram Aggregate :=
  updateCanary runtime call canaryId expectedVersion
    (fun current => timed (resolveCanaryAlert current eventId call.identity.reason))
    fun _ => if eventId.isEmpty then .nothing else .resolved eventId

def observation (current : CanaryAggregate) : Except ReleaseError (ℤ × ℤ) :=
  match current.startedAt, (current.windowsOf current.attempt).getLast? with
  | some startedAt, some window => .ok (startedAt, window.endedAt)
  | _, _ => .error (.validation (js "Canary has no observation window"))

def passedVerification (verification : Option PassedGoalVerification) :
    Except ReleaseError PassedGoalVerification :=
  match verification with
  | some verification => .ok verification
  | none => .error (.validation
      (js "No passed Goal Verification exists inside the Canary window"))

/-- What `finalizeCanary` does with the canary that it has read. -/
def finalizeCurrent (current : CanaryAggregate) : ReleaseProgram CanaryAggregate := do
  let observed ← domain (observation current)
  let found : Option PassedGoalVerification ←
    ask (.findPassedGoalVerification call.scope current.goalId observed.1 observed.2)
  let verification ← domain (passedVerification found)
  timed (finalizeCanary runtime.parse current verification)

def finalizeCanaryMethod (canaryId : JsString) (expectedVersion : ExpectedVersion) :
    ReleaseProgram Aggregate :=
  updateCanary runtime call canaryId expectedVersion (finalizeCurrent runtime call)
    fun _ => .nothing

def createProductionReleaseMethod (canaryId : JsString) : ReleaseProgram Aggregate := do
  let _ ← ask (.authorizeRole call.scope call.identity.actorId (js "owner"))
  let value ← canary call.scope canaryId
  replaying runtime call fun metadata => do
    let releaseId : JsString ← ask .idGenerator
    let aggregate ← timed (createProductionRelease releaseId value call.identity.actorId)
    ask (.commit
      { aggregate := .production aggregate
        expectedVersion := 0
        command := metadata
        addition := .nothing })

/-- A method that reads a release, operates on it and commits it; the audit id of the command is
the receipt of a signature. -/
def updateRelease (releaseId : JsString) (expectedVersion : ExpectedVersion)
    (releaseRole : JsString)
    (operate : ProductionReleaseAggregate → JsString → ℤ →
      Except ReleaseError ProductionReleaseAggregate)
    (addition : ProductionReleaseAggregate → Addition) : ReleaseProgram Aggregate := do
  let _ ← ask (.authorizeRole call.scope call.identity.actorId releaseRole)
  replaying runtime call fun metadata => do
    let current ← production call.scope releaseId
    let aggregate ← timed (operate current metadata.auditId)
    ask (.commit
      { aggregate := .production aggregate
        expectedVersion := expectedVersion.val
        command := metadata
        addition := addition aggregate })

/-- `aggregate.gates.find` of the gate that has been asked for. -/
def passedGate (gateId : JsString) (aggregate : ProductionReleaseAggregate) : Addition :=
  match aggregate.gates.find? fun gate => gate.gateId.text = gateId with
  | some gate => .gate gate
  | none => .nothing

def recordProductionGateMethod (releaseId : JsString) (expectedVersion : ExpectedVersion)
    (gateId ownerRole : JsString) (refs : List JsString) : ReleaseProgram Aggregate :=
  updateRelease runtime call releaseId expectedVersion ownerRole
    (fun current _ => recordProductionGate current call.identity.actorId gateId ownerRole refs)
    (passedGate gateId)

def evaluateProductionReleaseMethod (releaseId : JsString) (expectedVersion : ExpectedVersion) :
    ReleaseProgram Aggregate :=
  updateRelease runtime call releaseId expectedVersion (js "owner")
    (fun current _ => evaluateProductionRelease runtime.hashing current call.identity.actorId)
    fun _ => .nothing

/-- `aggregate.signatures.at(-1)`. -/
def appendedSignature (aggregate : ProductionReleaseAggregate) : Addition :=
  match aggregate.signatures.getLast? with
  | some signature => .signature signature
  | none => .nothing

def signInput (role auditId : JsString) : SignInput where
  actorId := call.identity.actorId
  role := role
  reason := call.identity.reason
  requestId := call.identity.requestId
  auditReceiptId := auditId

def signProductionReleaseMethod (releaseId : JsString) (expectedVersion : ExpectedVersion)
    (role : JsString) : ReleaseProgram Aggregate :=
  updateRelease runtime call releaseId expectedVersion role
    (fun current auditId => signProductionRelease runtime.hashing current
      (signInput call role auditId))
    appendedSignature

end Routines

def ReleaseCall.program (runtime : ReleaseRuntime) (call : ReleaseCall) :
    ReleaseProgram Aggregate :=
  match call.body with
  | .createCanary draft => createCanaryMethod runtime call draft
  | .approveCanary canaryId version => approveCanaryMethod runtime call canaryId version
  | .restartCanary canaryId version => restartCanaryMethod runtime call canaryId version
  | .recordCanaryWindow canaryId version window =>
    recordCanaryWindowMethod runtime call canaryId version window
  | .recordCanaryEvent canaryId version event =>
    recordCanaryEventMethod runtime call canaryId version event
  | .resolveCanaryAlert canaryId version eventId =>
    resolveCanaryAlertMethod runtime call canaryId version eventId
  | .finalizeCanary canaryId version => finalizeCanaryMethod runtime call canaryId version
  | .createProductionRelease canaryId => createProductionReleaseMethod runtime call canaryId
  | .recordProductionGate releaseId version gateId ownerRole refs =>
    recordProductionGateMethod runtime call releaseId version gateId ownerRole refs
  | .evaluateProductionRelease releaseId version =>
    evaluateProductionReleaseMethod runtime call releaseId version
  | .signProductionRelease releaseId version role =>
    signProductionReleaseMethod runtime call releaseId version role

def releaseSystem (runtime : ReleaseRuntime) (repository : ReleaseCenterRepository Store) :
    System Store ServiceCommand ServiceCommand.Answer ReleaseCenterError ReleaseCall Aggregate
      ReleaseOutside Empty where
  program := fun call => call.program runtime
  exec := execRelease repository
  environment := fun change _ => change.elim

abbrev ReleaseConfig (Store : Type) :=
  Config Store ServiceCommand ServiceCommand.Answer ReleaseCenterError ReleaseCall Aggregate Empty

abbrev ReleaseMoment (Store : Type) :=
  Moment Store ServiceCommand ServiceCommand.Answer ReleaseCenterError ReleaseCall Aggregate Empty

abbrev ReleaseEvent :=
  Event ServiceCommand ServiceCommand.Answer ReleaseCenterError ReleaseCall Aggregate Empty

abbrev ReleaseCondition (Store : Type) :=
  ReleaseMoment Store → Attempt ServiceCommand ReleaseCall Empty → Prop

end DevHarness.ReleaseCenter
