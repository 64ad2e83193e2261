import DevHarness.Interleave.System
import DevHarness.Scheduler.Repository

/-!
# The scheduler supervisor

`SchedulerSupervisor.tick` as a program that suspends at every call of the
repository and of the execution gateway.  A call of `gateway.start` takes time:
the external execution is launched at one moment and the call returns at a
later one, so it is two commands here.  Telemetry, which nothing reads, is left
out.
-/

namespace DevHarness.Scheduler

open JsText Interleave

/-! ## Calls out of the supervisor -/

structure ArtifactContext where
  organizationId : JsString
  projectId : JsString
  goalId : JsString
  issueId : JsString
  runId : JsString

/-- `ExecutionStartRequest`, without the secrets and the trace context. -/
structure ExecutionStartRequest where
  externalTaskId : JsString
  externalRunId : JsString
  timeoutMs : ℤ
  artifactContext : Option ArtifactContext

/-- The awaited calls, and the readings of the clock. -/
inductive SchedulerCommand
  | clock
  | listForReconciliation (now : ℕ)
  | heartbeatOwned (ownerId : JsString) (now expiresAt : ℕ)
  | claimNext (now : ℕ) (supervisorId : JsString)
  | selectNode (job : SchedulerJob) (now : ℕ)
  | releaseClaim (jobId reason : JsString) (now : ℕ)
  | acquireLease (input : LeaseInput)
  | markExternalStartIssued (input : StartIssuedInput)
  | launch (request : ExecutionStartRequest)
  | startReturn (externalRunId : JsString)
  | afterExternalStart (job : SchedulerJob)
  | markStarted (jobId : JsString) (external : ExternalExecutionStatus) (now : ℕ)
  | handleStartFailure (input : StartFailureInput)
  | cancel (externalRunId : JsString)
  | inspect (externalRunId : JsString)
  | reconcileExternal (jobId : JsString) (external : Option ExternalExecutionStatus) (now : ℕ)
  | markStopped (jobId : JsString) (now : ℕ)
  | markTimedOut (jobId : JsString) (now : ℕ)

/-- What each call answers when it does not throw. -/
abbrev SchedulerCommand.Answer : SchedulerCommand → Type
  | .clock => ℕ
  | .listForReconciliation _ => List SchedulerJob
  | .heartbeatOwned _ _ _ => ℕ
  | .claimNext _ _ => Option SchedulerJob
  | .selectNode _ _ => Option NodeRow
  | .releaseClaim _ _ _ => Unit
  | .acquireLease _ => Option LeaseRow
  | .markExternalStartIssued _ => SchedulerJob
  | .launch _ => Unit
  | .startReturn _ => ExternalExecutionStatus
  | .afterExternalStart _ => Unit
  | .markStarted _ _ _ => SchedulerJob
  | .handleStartFailure _ => SchedulerJob
  | .cancel _ => Unit
  | .inspect _ => Option ExternalExecutionStatus
  | .reconcileExternal _ _ _ => SchedulerJob
  | .markStopped _ _ => SchedulerJob
  | .markTimedOut _ _ => SchedulerJob

abbrev SchedulerProgram (α : Type) :=
  Program SchedulerCommand SchedulerCommand.Answer Thrown α

abbrev await (command : SchedulerCommand) : SchedulerProgram command.Answer :=
  Program.request command

/-! ## `tick` -/

inductive TickAction
  | idle
  | started
  | reconciled
  | capacityWait
  | retryScheduled

structure SchedulerTickResult where
  action : TickAction
  jobId : Option JsString

def gatewayTimeoutMs (job : SchedulerJob) (now : ℕ) : ℤ :=
  let deadlineMs : ℤ := job.deadlineAt - now
  let runtimeMs : ℤ :=
    match job.budget.maxRuntimeSeconds with
    | some seconds => seconds * 1000
    | none => deadlineMs
  max 1 (min deadlineMs runtimeMs)

def externalRunIdFor (job : SchedulerJob) : JsString :=
  js "cp-" ++ job.runId ++ js "-a" ++ js (toString job.attempt)

def startRequest (job : SchedulerJob) (now : ℕ) : ExecutionStartRequest where
  externalTaskId := job.externalTaskId
  externalRunId := externalRunIdFor job
  timeoutMs := gatewayTimeoutMs job now
  artifactContext :=
    if job.issueId.isEmpty then none
    else some
      { organizationId := job.organizationId
        projectId := job.projectId
        goalId := job.goalId
        issueId := job.issueId
        runId := job.runId }

/-- `error instanceof Error ? error.message : …`. -/
def Thrown.failureReason : Thrown → JsString
  | .error message => message
  | .other => js "Execution gateway failed"

def gatewayStart (request : ExecutionStartRequest) :
    SchedulerProgram ExternalExecutionStatus := do
  await (.launch request)
  await (.startReturn request.externalRunId)

/-- The `catch` of the start call. -/
def recordStartFailure (job : SchedulerJob) (thrown : Thrown) :
    SchedulerProgram SchedulerTickResult := do
  let now ← await .clock
  let _ ← await (.handleStartFailure
    { jobId := job.id
      failureCode := js "gateway_start_failed"
      failureReason := thrown.failureReason
      now := now })
  pure { action := .retryScheduled, jobId := some job.id }

/-- The part of `tick` after the start call has returned. -/
def recordStarted (job starting : SchedulerJob) (external : ExternalExecutionStatus) :
    SchedulerProgram SchedulerTickResult := do
  await (.afterExternalStart starting)
  let now ← await .clock
  let _ ← await (.markStarted job.id external now)
  pure { action := .started, jobId := some job.id }

/-- The part of `tick` from the start call on. -/
def startExternal (job starting : SchedulerJob) (now : ℕ) :
    SchedulerProgram SchedulerTickResult := do
  let outcome ← (gatewayStart (startRequest job now) >>= fun external =>
    pure (.ok external)).handle fun thrown => pure (.error thrown)
  match (outcome : Except Thrown ExternalExecutionStatus) with
  | .ok external => recordStarted job starting external
  | .error thrown => recordStartFailure job thrown

def giveUpClaim (job : SchedulerJob) (reason : JsString) (now : ℕ) :
    SchedulerProgram SchedulerTickResult := do
  await (.releaseClaim job.id reason now)
  pure { action := .capacityWait, jobId := some job.id }

/-- The part of `tick` after a job has been claimed. -/
def startClaimed (supervisorId : JsString) (leaseDurationMs now : ℕ) (job : SchedulerJob) :
    SchedulerProgram SchedulerTickResult := do
  match ← await (.selectNode job now) with
  | none => giveUpClaim job (js "No compatible capacity") now
  | some node =>
    match ← await (.acquireLease
        { runId := job.runId
          nodeId := node.id
          ownerId := supervisorId
          now := now
          expiresAt := now + leaseDurationMs }) with
    | none => giveUpClaim job (js "Capacity lease unavailable") now
    | some lease =>
      let starting ← await (.markExternalStartIssued
        { jobId := job.id
          expectedVersion := job.version
          externalRunId := externalRunIdFor job
          lease := lease
          now := now })
      startExternal job starting now

def cancelExternal (job : SchedulerJob) : SchedulerProgram Unit :=
  match job.externalRunId with
  | some externalRunId => await (.cancel externalRunId)
  | none => pure ()

def inspectExternal (job : SchedulerJob) : SchedulerProgram (Option ExternalExecutionStatus) :=
  match job.externalRunId with
  | some externalRunId => await (.inspect externalRunId)
  | none => pure none

def reconcile (now : ℕ) (job : SchedulerJob) : SchedulerProgram Unit :=
  if job.stopRequested then do
    cancelExternal job
    let _ ← await (.markStopped job.id now)
    pure ()
  else if job.deadlineAt ≤ now then do
    cancelExternal job
    let _ ← await (.markTimedOut job.id now)
    pure ()
  else do
    let external ← inspectExternal job
    let _ ← await (.reconcileExternal job.id external now)
    pure ()

def tick (supervisorId : JsString) (leaseDurationMs : ℕ) :
    SchedulerProgram SchedulerTickResult := do
  let now ← await .clock
  match ← await (.listForReconciliation now) with
  | job :: jobs =>
    let _ ← Program.forEach (reconcile now) (job :: jobs)
    pure { action := .reconciled, jobId := some job.id }
  | [] =>
    let _ ← await (.heartbeatOwned supervisorId now (now + leaseDurationMs))
    match ← await (.claimNext now supervisorId) with
    | none => pure { action := .idle, jobId := none }
    | some job => startClaimed supervisorId leaseDurationMs now job

/-! ## The system -/

structure TickCall where
  supervisorId : JsString
  leaseDurationMs : ℕ

/-- What the world outside the repository answers; with a `failure`, the call
throws it and changes nothing. -/
structure Outside where
  failure : Option Thrown
  clock : ℕ
  started : ExternalExecutionStatus
  inspected : Option ExternalExecutionStatus

/-- Who else writes: the admission of jobs, nodes that announce themselves, and
operators. -/
inductive SchedulerChange
  | admitJob (scope : JobScope)
  | registerNode (node : NodeRow)
  | setControl (control : ControlRow)

def execScheduler (outside : Outside) (command : SchedulerCommand) (store : SchedulerStore) :
    Except Thrown command.Answer × SchedulerStore :=
  match outside.failure with
  | some thrown => (.error thrown, store)
  | none =>
    match command with
    | .clock => (.ok outside.clock, store)
    | .listForReconciliation now =>
      (.ok (store.listForReconciliation now).1, (store.listForReconciliation now).2)
    | .heartbeatOwned ownerId now expiresAt =>
      (.ok (store.heartbeatOwned ownerId now expiresAt).1,
        (store.heartbeatOwned ownerId now expiresAt).2)
    | .claimNext now _ => (.ok (store.claimNext now).1, (store.claimNext now).2)
    | .selectNode job now => (.ok (store.selectNode job.requiredCapability now), store)
    | .releaseClaim jobId reason now => (.ok (), store.releaseClaim jobId reason now)
    | .acquireLease input => (.ok (store.acquireLease input).1, (store.acquireLease input).2)
    | .markExternalStartIssued input => store.markExternalStartIssued input
    | .launch _ => (.ok (), store)
    | .startReturn _ => (.ok outside.started, store)
    | .afterExternalStart _ => (.ok (), store)
    | .markStarted jobId external now => store.markStarted jobId external now
    | .handleStartFailure input => store.handleStartFailure input
    | .cancel _ => (.ok (), store)
    | .inspect _ => (.ok outside.inspected, store)
    | .reconcileExternal jobId external now => store.reconcileExternal jobId external now
    | .markStopped jobId now => store.markStopped jobId now
    | .markTimedOut jobId now => store.markTimedOut jobId now

def SchedulerChange.apply (store : SchedulerStore) : SchedulerChange → Option SchedulerStore
  | .admitJob scope => store.admitJob scope
  | .registerNode node => some (store.registerNode node)
  | .setControl control => some (store.setControl control)

abbrev schedulerSystem : System SchedulerStore SchedulerCommand SchedulerCommand.Answer Thrown
    TickCall SchedulerTickResult Outside SchedulerChange where
  program call := tick call.supervisorId call.leaseDurationMs
  exec outside command store := some (execScheduler outside command store)
  environment change store := change.apply store

abbrev SchedulerEvent :=
  Event SchedulerCommand SchedulerCommand.Answer Thrown TickCall SchedulerTickResult
    SchedulerChange

abbrev SchedulerMoment :=
  Moment SchedulerStore SchedulerCommand SchedulerCommand.Answer Thrown TickCall
    SchedulerTickResult SchedulerChange

abbrev SchedulerConfig :=
  Config SchedulerStore SchedulerCommand SchedulerCommand.Answer Thrown TickCall
    SchedulerTickResult SchedulerChange

end DevHarness.Scheduler
