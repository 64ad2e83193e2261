import Mathlib.Algebra.Group.Nat.Defs
import DevHarness.Scheduler.Model

/-!
# The scheduler repository

The operations of the Postgres scheduler repository.  Each is one statement or
one transaction over locked rows, hence one atomic step; a transaction that
rolls back leaves the store as it was.
-/

namespace DevHarness.Scheduler

open JsText

/-- What a failed call throws: an `Error` with its message, or another value. -/
inductive Thrown
  | error (message : JsString)
  | other

inductive ExternalExecutionState
  | starting
  | running
  | succeeded
  | failed
  | cancelled
  | unknown
  deriving DecidableEq

structure ExternalExecutionStatus where
  externalRunId : JsString
  state : ExternalExecutionState
  phase : JsString
  message : Option JsString

def mappedState : ExternalExecutionState → SchedulerJobState
  | .succeeded => .succeeded
  | .failed => .failed
  | .cancelled => .cancelled
  | .unknown => .blocked
  | .starting | .running => .running

def SchedulerJobState.runStatus : SchedulerJobState → Option RunStatus
  | .running => some .running
  | .succeeded => some .succeeded
  | .failed => some .failed
  | .cancelled => some .cancelled
  | _ => none

/-! ## Rows -/

namespace JobRow

variable (row : JobRow)

/-- A row as `RETURNING` hands it back. -/
def returned : SchedulerJob :=
  { row with stopRequested := false }

/-- `ORDER BY updated_at, id`. -/
def updatedBefore (left right : JobRow) : Bool :=
  ((compare left.updatedAt right.updatedAt).then (compare left.id right.id)).isLE

/-- `ORDER BY priority, next_attempt_at, created_at, id`. -/
def claimedBefore (left right : JobRow) : Bool :=
  ((compare left.priority right.priority).then
    ((compare left.nextAttemptAt right.nextAttemptAt).then
      ((compare left.createdAt right.createdAt).then (compare left.id right.id)))).isLE

/-- The update of `listForReconciliation`. -/
def flag (now : ℕ) : JobRow :=
  { row with reconciliationRequired := true, version := row.version + 1, updatedAt := now }

/-- The update of `claimNext`. -/
def claim (now : ℕ) : JobRow :=
  { row with
    state := .claimed
    heartbeatAt := some now
    failureReason := none
    version := row.version + 1
    updatedAt := max now row.createdAt }

/-- The update of `releaseClaim`. -/
def unclaim (reason : JsString) (now : ℕ) : JobRow :=
  { row with
    state := .pending
    failureReason := some reason
    nextAttemptAt := now
    version := row.version + 1
    updatedAt := now }

/-- The update of `markExternalStartIssued`. -/
def issue (externalRunId : JsString) (lease : LeaseRow) (now : ℕ) : JobRow :=
  { row with
    state := .starting
    externalRunId := some externalRunId
    nodeId := some lease.nodeId
    leaseExpiresAt := some lease.expiresAt
    heartbeatAt := some now
    reconciliationRequired := true
    version := row.version + 1
    updatedAt := now }

/-- The update of `commitExternalState`. -/
def observe (external : ExternalExecutionStatus) (now : ℕ) : JobRow :=
  let state := mappedState external.state
  { row with
    state := state
    phase := external.phase
    failureCode :=
      if state = .blocked then some (js "external_state_unknown")
      else if state = .failed then some (js "external_failed")
      else none
    failureReason := if state = .blocked ∨ state = .failed then external.message else none
    reconciliationRequired := false
    heartbeatAt := some now
    version := row.version + 1
    updatedAt := now }

/-- The updates of `markTimedOut` and `markStopped`. -/
def conclude (state : SchedulerJobState) (phase code reason : JsString) (now : ℕ) : JobRow :=
  { row with
    state := state
    phase := phase
    failureCode := some code
    failureReason := some reason
    reconciliationRequired := false
    heartbeatAt := some now
    version := row.version + 1
    updatedAt := now }

/-- The update of `handleStartFailure`: another attempt after a delay that
doubles up to a minute, as long as there is one. -/
def failStart (code reason : JsString) (now : ℕ) : JobRow :=
  { row with
    state := if row.attempt < row.maxAttempts then .retryWait else .failed
    attempt := if row.attempt < row.maxAttempts then row.attempt + 1 else row.attempt
    nextAttemptAt := now + min 60 (2 ^ row.attempt) * 1000
    externalRunId := none
    nodeId := none
    leaseExpiresAt := none
    reconciliationRequired := false
    failureCode := some code
    failureReason := some reason
    version := row.version + 1
    updatedAt := now }

/-- `heartbeat_at` and `lease_expires_at` of a job whose lease is extended. -/
def extend (now expiresAt : ℕ) : JobRow :=
  { row with heartbeatAt := some now, leaseExpiresAt := some expiresAt, updatedAt := now }

theorem scope_flag (now : ℕ) : (row.flag now).toJobScope = row.toJobScope := rfl

theorem scope_claim (now : ℕ) : (row.claim now).toJobScope = row.toJobScope := rfl

theorem scope_unclaim (reason : JsString) (now : ℕ) :
    (row.unclaim reason now).toJobScope = row.toJobScope := rfl

theorem scope_issue (externalRunId : JsString) (lease : LeaseRow) (now : ℕ) :
    (row.issue externalRunId lease now).toJobScope = row.toJobScope := rfl

theorem scope_observe (external : ExternalExecutionStatus) (now : ℕ) :
    (row.observe external now).toJobScope = row.toJobScope := rfl

theorem scope_conclude (state : SchedulerJobState) (phase code reason : JsString) (now : ℕ) :
    (row.conclude state phase code reason now).toJobScope = row.toJobScope := rfl

theorem scope_failStart (code reason : JsString) (now : ℕ) :
    (row.failStart code reason now).toJobScope = row.toJobScope := rfl

theorem scope_extend (now expiresAt : ℕ) :
    (row.extend now expiresAt).toJobScope = row.toJobScope := rfl

end JobRow

/-- `ORDER BY count(lease.id), node.name`. -/
def NodeRow.idlerThan (leases : NodeRow → ℕ) (left right : NodeRow) : Bool :=
  ((compare (leases left) (leases right)).then (compare left.name right.name)).isLE

/-- The update of `updateRunAndOutbox`. -/
def RunRow.moveTo (row : RunRow) (status : RunStatus) (now : ℕ) : RunRow :=
  { row with
    status := status
    startedAt := row.startedAt.or (some now)
    finishedAt := if status.terminal then some now else none
    version := row.version + 1 }

/-- The update of a project control after a start failure; the third failure in
a row opens the circuit for five minutes. -/
def ControlRow.countFailure (row : ControlRow) (now : ℕ) : ControlRow :=
  { row with
    consecutiveFailures := row.consecutiveFailures + 1
    circuitOpenUntil :=
      if 3 ≤ row.consecutiveFailures + 1 then some (now + 300000) else row.circuitOpenUntil
    reason := js "Gateway failure circuit"
    version := row.version + 1 }

structure LeaseInput where
  runId : JsString
  nodeId : JsString
  ownerId : JsString
  now : ℕ
  expiresAt : ℕ

structure StartIssuedInput where
  jobId : JsString
  expectedVersion : ℕ
  externalRunId : JsString
  lease : LeaseRow
  now : ℕ

structure StartFailureInput where
  jobId : JsString
  failureCode : JsString
  failureReason : JsString
  now : ℕ

/-- The lease that `acquireLease` inserts. -/
def LeaseInput.lease (input : LeaseInput) : LeaseRow where
  runId := input.runId
  nodeId := input.nodeId
  ownerId := input.ownerId
  status := .active
  acquiredAt := input.now
  heartbeatAt := input.now
  expiresAt := input.expiresAt
  releasedAt := none
  version := 1

namespace SchedulerStore

variable (store : SchedulerStore)

/-! ## Reconciliation -/

/-- The nodes that `listForReconciliation` takes offline. -/
def lapsedNodes (now : ℕ) : List JsString :=
  (store.nodes.rows.filter fun node =>
    decide (node.status ≠ .offline) && decide (node.offlineAfter ≤ now)).map NodeRow.id

/-- The lease is over: its time has run out, or its node goes offline. -/
def lapsed (now : ℕ) (lease : LeaseRow) : Bool :=
  decide (lease.expiresAt ≤ now) || decide (lease.nodeId ∈ store.lapsedNodes now)

def lapsedRuns (now : ℕ) : List JsString :=
  (store.leases.filter fun lease =>
    decide (lease.status = .active) && store.lapsed now lease).map LeaseRow.runId

def affected (now : ℕ) (row : JobRow) : Bool :=
  decide (row.runId ∈ store.lapsedRuns now) && !row.state.terminal

/-- The updates of `listForReconciliation`, with the outbox events. -/
def expireStale (now : ℕ) : SchedulerStore :=
  { (store.updateJobs (store.affected now) (fun row => row.flag now)
      fun row => row.scope_flag now).endLeases
      (store.lapsed now) .expired now with
    nodes := store.nodes.updateWhere
      (fun node => decide (node.status ≠ .offline) && decide (node.offlineAfter ≤ now))
      (fun node => { node with status := .offline, version := node.version + 1 }) fun _ => rfl
    outbox := store.outbox ++ (store.jobs.rows.filter (store.affected now)).map fun row =>
      .leaseExpired row.id row.runId (row.version + 1) }

/-- The `WHERE` clause of the jobs to reconcile. -/
def needsReconciliation (now : ℕ) (row : JobRow) : Bool :=
  !row.state.terminal &&
    (store.stopRequested row.projectId || row.reconciliationRequired ||
      (decide (row.state ∈ [.starting, .running, .reconciling]) &&
        decide (row.deadlineAt ≤ now)))

def listForReconciliation (now : ℕ) : List SchedulerJob × SchedulerStore :=
  let store := store.expireStale now
  ((Sql.orderBy JobRow.updatedBefore
      (store.jobs.rows.filter (store.needsReconciliation now))).map fun row =>
    { row with stopRequested := store.stopRequested row.projectId }, store)

/-- The leases that `heartbeatOwned` extends. -/
def renewable (ownerId : JsString) (now : ℕ) (lease : LeaseRow) : Bool :=
  decide (lease.ownerId = ownerId) && decide (lease.status = .active) &&
    decide (now < lease.expiresAt)

def heartbeatOwned (ownerId : JsString) (now expiresAt : ℕ) : ℕ × SchedulerStore :=
  let runs := (store.leases.filter (renewable ownerId now)).map LeaseRow.runId
  (runs.length,
    { store.updateJobs (fun row => decide (row.runId ∈ runs) && !row.state.terminal)
        (fun row => row.extend now expiresAt) fun row => row.scope_extend now expiresAt with
      leases := store.leases.map fun lease =>
        if renewable ownerId now lease then
          { lease with heartbeatAt := now, expiresAt := expiresAt, version := lease.version + 1 }
        else
          lease })

/-! ## Claims and leases -/

def held (now : ℕ) (projectId : JsString) : Bool :=
  store.controls.rows.any fun control =>
    control.covers projectId && (decide (control.state ≠ .active) ||
      control.circuitOpenUntil.any fun openUntil => decide (now < openUntil))

/-- The candidates of `claimNext`. -/
def claimable (now : ℕ) (row : JobRow) : Bool :=
  decide (row.state ∈ [.pending, .retryWait]) && !row.reconciliationRequired &&
    decide (row.nextAttemptAt ≤ now) && decide (now < row.deadlineAt) &&
    !store.held now row.projectId

def claimNext (now : ℕ) : Option SchedulerJob × SchedulerStore :=
  match Sql.first JobRow.claimedBefore (store.jobs.rows.filter (store.claimable now)) with
  | none => (none, store)
  | some row =>
    (some (row.claim now).returned, store.updateJob row.id (fun row => row.claim now)
      fun row => row.scope_claim now)

def releaseClaim (jobId reason : JsString) (now : ℕ) : SchedulerStore :=
  store.updateJobs (fun row => decide (row.id = jobId) && decide (row.state = .claimed))
    (fun row => row.unclaim reason now) fun row => row.scope_unclaim reason now

def liveLeases (now : ℕ) (nodeId : JsString) : ℕ :=
  (store.leases.filter fun lease =>
    decide (lease.nodeId = nodeId) && decide (lease.status = .active) &&
      decide (now < lease.expiresAt)).length

def selectNode (requiredCapability : CapabilityTier) (now : ℕ) : Option NodeRow :=
  Sql.first (NodeRow.idlerThan fun node => store.liveLeases now node.id)
    (store.nodes.rows.filter fun node =>
      decide (node.status = .online) && decide (now < node.offlineAfter) &&
        decide (requiredCapability ∈ node.capabilities) &&
        decide (store.liveLeases now node.id < node.maxConcurrentRuns))

/-- The leases that `acquireLease` finds to be over. -/
def overdue (input : LeaseInput) (lease : LeaseRow) : Bool :=
  decide (lease.expiresAt ≤ input.now) &&
    (decide (lease.nodeId = input.nodeId) || decide (lease.runId = input.runId))

/-- The part of `acquireLease` after the checks of node and capability. -/
def insertLease (input : LeaseInput) (node : NodeRow) : Option LeaseRow × SchedulerStore :=
  let expired := store.endLeases (overdue input) .expired input.now
  if expired.leases.any fun lease =>
      decide (lease.runId = input.runId) && decide (lease.status = .active) then
    (none, store)
  else if node.maxConcurrentRuns ≤ expired.liveLeases input.now input.nodeId then
    (none, store)
  else
    (some input.lease, { expired with leases := expired.leases ++ [input.lease] })

def acquireLease (input : LeaseInput) : Option LeaseRow × SchedulerStore :=
  match store.nodes.get input.nodeId with
  | none => (none, store)
  | some node =>
    if node.status ≠ .online ∨ node.offlineAfter ≤ input.now then
      (none, store)
    else
      match store.jobs.rows.find? fun row => row.runId = input.runId with
      | none => (none, store)
      | some job =>
        if job.requiredCapability ∉ node.capabilities then
          (none, store)
        else
          store.insertLease input node

/-! ## Guarded updates -/

/-- `UPDATE scheduler_jobs SET f WHERE id=… AND allowed RETURNING …`: when no row
is updated, `message` is thrown; otherwise the transaction goes on with the
updated row. -/
def changeJob (jobId : JsString) (allowed : JobRow → Bool) (f : JobRow → JobRow)
    (hscope : ∀ row, (f row).toJobScope = row.toJobScope) (message : JsString)
    (andThen : JobRow → SchedulerStore → SchedulerStore) :
    Except Thrown SchedulerJob × SchedulerStore :=
  match store.jobs.get jobId with
  | none => (.error (.error message), store)
  | some row =>
    if allowed row then
      (.ok (f row).returned, andThen (f row) (store.updateJob jobId f hscope))
    else
      (.error (.error message), store)

def updateRunAndOutbox (job : JobRow) (status : RunStatus) (now : ℕ) : SchedulerStore :=
  match store.runs.get job.runId with
  | none => store
  | some run =>
    if run.status.terminal = true ∨ run.status = status then
      store
    else
      { store with
        runs := store.runs.updateWhere (fun row => row.id = job.runId)
          (fun row => row.moveTo status now) fun _ => rfl
        outbox := store.outbox ++
          [.runChanged job.id job.runId (run.version + 1) job.phase status] }

/-- `updateRunAndOutbox` for the state that the job is in. -/
def runFollows (job : JobRow) (now : ℕ) : SchedulerStore :=
  match job.state.runStatus with
  | some status => store.updateRunAndOutbox job status now
  | none => store

def markExternalStartIssued (input : StartIssuedInput) :
    Except Thrown SchedulerJob × SchedulerStore :=
  store.changeJob input.jobId
    (fun row => decide (row.state = .claimed) && decide (row.version = input.expectedVersion))
    (fun row => row.issue input.externalRunId input.lease input.now)
    (fun row => row.scope_issue _ _ _)
    (js "scheduler job version conflict") fun _ store => store

def commitExternalState (jobId : JsString) (external : ExternalExecutionStatus) (now : ℕ) :
    Except Thrown SchedulerJob × SchedulerStore :=
  store.changeJob jobId (fun row => !row.state.terminal) (fun row => row.observe external now)
    (fun row => row.scope_observe external now) (js "scheduler job is already terminal")
    fun row store =>
      if row.state.terminal then
        (store.runFollows row now).releaseLeases row.runId now
      else
        store.runFollows row now

def markStarted (jobId : JsString) (external : ExternalExecutionStatus) (now : ℕ) :
    Except Thrown SchedulerJob × SchedulerStore :=
  store.commitExternalState jobId external now

def unavailable : ExternalExecutionStatus where
  externalRunId := []
  state := .unknown
  phase := js "unknown"
  message := some (js "External state unavailable")

def reconcileExternal (jobId : JsString) (external : Option ExternalExecutionStatus)
    (now : ℕ) : Except Thrown SchedulerJob × SchedulerStore :=
  store.commitExternalState jobId (external.getD unavailable) now

/-- `markTimedOut` and `markStopped`: a job that is not over ends. -/
def concludeJob (jobId : JsString) (state : SchedulerJobState)
    (phase code reason : JsString) (now : ℕ) : Except Thrown SchedulerJob × SchedulerStore :=
  store.changeJob jobId (fun row => !row.state.terminal)
    (fun row => row.conclude state phase code reason now) (fun row => row.scope_conclude _ _ _ _ _)
    (js "scheduler job is already terminal")
    fun row store => (store.releaseLeases row.runId now).runFollows row now

def markTimedOut (jobId : JsString) (now : ℕ) : Except Thrown SchedulerJob × SchedulerStore :=
  store.concludeJob jobId .failed (js "timeout") (js "deadline_exceeded")
    (js "Execution deadline exceeded") now

def markStopped (jobId : JsString) (now : ℕ) : Except Thrown SchedulerJob × SchedulerStore :=
  store.concludeJob jobId .cancelled (js "stopped") (js "operator_stop")
    (js "Execution stopped by operator control") now

def countFailure (projectId : JsString) (now : ℕ) : SchedulerStore :=
  { store with
    controls :=
      match store.controls.get (.project projectId) with
      | some _ => store.controls.updateWhere (fun row => row.scope = .project projectId)
          (fun row => row.countFailure now) fun _ => rfl
      | none => store.controls.insertNew
          { scope := .project projectId
            state := .active
            consecutiveFailures := 1
            circuitOpenUntil := none
            reason := js "Gateway failure circuit"
            version := 1 } }

/-- `handleStartFailure`; `power(2, attempt)::integer` fails from 31 on. -/
def handleStartFailure (input : StartFailureInput) :
    Except Thrown SchedulerJob × SchedulerStore :=
  if (store.jobs.get input.jobId).any fun row => row.state = .starting ∧ 31 ≤ row.attempt then
    (.error (.error (js "integer out of range")), store)
  else
    store.changeJob input.jobId (fun row => row.state = .starting)
      (fun row => row.failStart input.failureCode input.failureReason input.now)
      (fun row => row.scope_failStart _ _ _)
      (js "scheduler start failure could not be recorded") fun row store =>
        let released := (store.releaseLeases row.runId input.now).countFailure row.projectId
          input.now
        if row.state = .failed then released.updateRunAndOutbox row .failed input.now
        else released

/-! ## Other writers -/

/-- The scheduler's part of the admission of a job: a queued run and a pending
job, whose ids are new. -/
def admitJob (scope : JobScope) : Option SchedulerStore :=
  if (store.jobs.rows.any fun row => row.id = scope.id ∨ row.runId = scope.runId) ∨
      (store.leases.any fun lease => lease.runId = scope.runId) then
    none
  else
    some { store with
      jobs := store.jobs.insertNew
        { scope with
          state := .pending
          phase := js "queued"
          attempt := 1
          nextAttemptAt := scope.createdAt
          externalRunId := none
          nodeId := none
          leaseExpiresAt := none
          heartbeatAt := none
          reconciliationRequired := false
          failureCode := none
          failureReason := none
          version := 1
          updatedAt := scope.createdAt }
      runs := store.runs.insertNew
        { id := scope.runId
          status := .queued
          startedAt := none
          finishedAt := none
          version := 1 } }

/-- `registerNode`: a node announces itself and is online. -/
def registerNode (node : NodeRow) : SchedulerStore :=
  { store with
    nodes :=
      match store.nodes.get node.id with
      | some _ => store.nodes.updateWhere (fun row => row.id = node.id)
          (fun row => { node with id := row.id, status := .online, version := row.version + 1 })
          fun _ => rfl
      | none => store.nodes.insertNew { node with status := .online, version := 1 } }

def setControl (control : ControlRow) : SchedulerStore :=
  { store with
    controls :=
      match store.controls.get control.scope with
      | some _ => store.controls.updateWhere (fun row => row.scope = control.scope)
          (fun row => { control with scope := row.scope }) fun _ => rfl
      | none => store.controls.insertNew control }

/-! ## What the operations do -/

variable {store} {store' : SchedulerStore} {jobId runId : JsString} {now : ℕ} {job row : JobRow}
  {status : RunStatus} {resp : Except Thrown SchedulerJob} {ownerId : JsString} {expiresAt : ℕ}

/-- Only active leases of the store before are active in the store after. -/
def LeasesShrink (store store' : SchedulerStore) : Prop :=
  ∀ runId, store'.ActiveLease runId → store.ActiveLease runId

@[simp] theorem jobs_updateRunAndOutbox :
    (store.updateRunAndOutbox job status now).jobs = store.jobs := by
  unfold updateRunAndOutbox
  split
  · rfl
  · split <;> rfl

@[simp] theorem leases_updateRunAndOutbox :
    (store.updateRunAndOutbox job status now).leases = store.leases := by
  unfold updateRunAndOutbox
  split
  · rfl
  · split <;> rfl

@[simp] theorem jobs_runFollows : (store.runFollows job now).jobs = store.jobs := by
  unfold runFollows
  split
  · exact jobs_updateRunAndOutbox
  · rfl

@[simp] theorem leases_runFollows : (store.runFollows job now).leases = store.leases := by
  unfold runFollows
  split
  · exact leases_updateRunAndOutbox
  · rfl

theorem activeLease_congr (hleases : store'.leases = store.leases) :
    store'.ActiveLease runId ↔ store.ActiveLease runId := by
  simp [ActiveLease, hleases]

theorem changeJob_cases {allowed : JobRow → Bool} {f : JobRow → JobRow}
    {hscope : ∀ row, (f row).toJobScope = row.toJobScope} {message : JsString}
    {andThen : JobRow → SchedulerStore → SchedulerStore}
    (hexec : store.changeJob jobId allowed f hscope message andThen = (resp, store')) :
    ((∃ thrown, resp = .error thrown) ∧ store' = store) ∨
    (∃ row, store.jobs.get jobId = some row ∧ allowed row = true ∧
      resp = .ok (f row).returned ∧
      store' = andThen (f row) (store.updateJob jobId f hscope)) := by
  unfold changeJob at hexec
  split at hexec
  · obtain ⟨rfl, rfl⟩ := Prod.mk.inj hexec
    exact .inl ⟨⟨_, rfl⟩, rfl⟩
  · next row hrow =>
    split at hexec
    · next hallowed =>
      obtain ⟨rfl, rfl⟩ := Prod.mk.inj hexec
      exact .inr ⟨row, hrow, hallowed, rfl, rfl⟩
    · obtain ⟨rfl, rfl⟩ := Prod.mk.inj hexec
      exact .inl ⟨⟨_, rfl⟩, rfl⟩

theorem markExternalStartIssued_cases {input : StartIssuedInput}
    (hexec : store.markExternalStartIssued input = (resp, store')) :
    ((∃ thrown, resp = .error thrown) ∧ store' = store) ∨
    (∃ row, store.jobs.get input.jobId = some row ∧ row.state = .claimed ∧
      row.version = input.expectedVersion ∧
      resp = .ok (row.issue input.externalRunId input.lease input.now).returned ∧
      store'.jobs = (store.updateJob input.jobId
        (fun row => row.issue input.externalRunId input.lease input.now)
        fun row => row.scope_issue _ _ _).jobs ∧
      store.LeasesShrink store') := by
  rcases changeJob_cases hexec with h | ⟨row, hrow, hallowed, hresp, rfl⟩
  · exact .inl h
  · simp only [Bool.and_eq_true, decide_eq_true_eq] at hallowed
    exact .inr ⟨row, hrow, hallowed.1, hallowed.2, hresp, rfl, fun _ hactive => hactive⟩

theorem commitExternalState_cases {external : ExternalExecutionStatus}
    (hexec : store.commitExternalState jobId external now = (resp, store')) :
    ((∃ thrown, resp = .error thrown) ∧ store' = store) ∨
    (∃ row, store.jobs.get jobId = some row ∧ row.state.terminal = false ∧
      resp = .ok (row.observe external now).returned ∧
      store'.jobs = (store.updateJob jobId (fun row => row.observe external now)
        fun row => row.scope_observe external now).jobs ∧
      store.LeasesShrink store') := by
  rcases changeJob_cases hexec with h | ⟨row, hrow, hallowed, hresp, hstore⟩
  · exact .inl h
  · refine .inr ⟨row, hrow, by simpa using hallowed, hresp, ?_⟩
    split at hstore
    · refine ⟨by rw [hstore]; simp, fun runId hactive => ?_⟩
      rw [hstore] at hactive
      have hbefore := activeLease_of_releaseLeases hactive
      rwa [activeLease_congr leases_runFollows] at hbefore
    · refine ⟨by rw [hstore]; simp, fun runId hactive => ?_⟩
      rw [hstore] at hactive
      rwa [activeLease_congr leases_runFollows] at hactive

theorem concludeJob_cases {state : SchedulerJobState} {phase code reason : JsString}
    (hexec : store.concludeJob jobId state phase code reason now = (resp, store')) :
    ((∃ thrown, resp = .error thrown) ∧ store' = store) ∨
    (∃ row, store.jobs.get jobId = some row ∧ row.state.terminal = false ∧
      resp = .ok (row.conclude state phase code reason now).returned ∧
      store'.jobs = (store.updateJob jobId
        (fun row => row.conclude state phase code reason now)
        fun row => row.scope_conclude _ _ _ _ _).jobs ∧
      store.LeasesShrink store') := by
  rcases changeJob_cases hexec with h | ⟨row, hrow, hallowed, hresp, hstore⟩
  · exact .inl h
  · refine .inr ⟨row, hrow, by simpa using hallowed, hresp, by rw [hstore]; simp, ?_⟩
    intro runId hactive
    rw [hstore, activeLease_congr leases_runFollows] at hactive
    exact activeLease_of_releaseLeases hactive

theorem handleStartFailure_cases {input : StartFailureInput}
    (hexec : store.handleStartFailure input = (resp, store')) :
    ((∃ thrown, resp = .error thrown) ∧ store' = store) ∨
    (∃ row, store.jobs.get input.jobId = some row ∧ row.state = .starting ∧
      resp = .ok (row.failStart input.failureCode input.failureReason input.now).returned ∧
      store'.jobs = (store.updateJob input.jobId
        (fun row => row.failStart input.failureCode input.failureReason input.now)
        fun row => row.scope_failStart _ _ _).jobs ∧
      store.LeasesShrink store' ∧ ¬ store'.ActiveLease row.runId) := by
  unfold handleStartFailure at hexec
  split at hexec
  · obtain ⟨rfl, rfl⟩ := Prod.mk.inj hexec
    exact .inl ⟨⟨_, rfl⟩, rfl⟩
  · rcases changeJob_cases hexec with h | ⟨row, hrow, hallowed, hresp, hstore⟩
    · exact .inl h
    · refine .inr ⟨row, hrow, by simpa using hallowed, hresp, ?_⟩
      have hleases : store'.leases = ((store.updateJob input.jobId (fun row =>
          row.failStart input.failureCode input.failureReason input.now)
          fun row => row.scope_failStart _ _ _).releaseLeases row.runId input.now).leases := by
        rw [hstore]
        split <;> simp [countFailure, JobRow.failStart]
      refine ⟨?_, ?_, ?_⟩
      · rw [hstore]
        split <;> simp [countFailure]
      · intro runId hactive
        exact activeLease_of_releaseLeases ((activeLease_congr hleases).mp hactive)
      · rw [activeLease_congr hleases]
        exact not_activeLease_releaseLeases

theorem claimNext_cases {found : Option SchedulerJob}
    (hexec : store.claimNext now = (found, store')) :
    (found = none ∧ store' = store) ∨
    (∃ row, store.jobs.get row.id = some row ∧ store.claimable now row = true ∧
      found = some (row.claim now).returned ∧
      store'.jobs = (store.updateJob row.id (fun row => row.claim now)
        fun row => row.scope_claim now).jobs ∧
      store.LeasesShrink store') := by
  unfold claimNext at hexec
  split at hexec
  · obtain ⟨rfl, rfl⟩ := Prod.mk.inj hexec
    exact .inl ⟨rfl, rfl⟩
  · next row hfirst =>
    obtain ⟨rfl, rfl⟩ := Prod.mk.inj hexec
    obtain ⟨hrow, hclaimable⟩ := List.mem_filter.mp (Sql.mem_of_first hfirst)
    exact .inr ⟨row, Sql.Table.get_of_mem hrow, hclaimable, rfl, rfl, fun _ hactive => hactive⟩

theorem acquireLease_cases {input : LeaseInput} {found : Option LeaseRow}
    (hexec : store.acquireLease input = (found, store')) :
    (found = none ∧ store' = store) ∨
    ((∃ lease, found = some lease) ∧ store'.jobs = store.jobs ∧
      ∀ runId, store'.ActiveLease runId → store.ActiveLease runId ∨ runId = input.runId) := by
  unfold acquireLease at hexec
  split at hexec
  · obtain ⟨rfl, rfl⟩ := Prod.mk.inj hexec
    exact .inl ⟨rfl, rfl⟩
  · split at hexec
    · obtain ⟨rfl, rfl⟩ := Prod.mk.inj hexec
      exact .inl ⟨rfl, rfl⟩
    · split at hexec
      · obtain ⟨rfl, rfl⟩ := Prod.mk.inj hexec
        exact .inl ⟨rfl, rfl⟩
      · split at hexec
        · obtain ⟨rfl, rfl⟩ := Prod.mk.inj hexec
          exact .inl ⟨rfl, rfl⟩
        · unfold insertLease at hexec
          simp only at hexec
          split at hexec
          · obtain ⟨rfl, rfl⟩ := Prod.mk.inj hexec
            exact .inl ⟨rfl, rfl⟩
          · split at hexec
            · obtain ⟨rfl, rfl⟩ := Prod.mk.inj hexec
              exact .inl ⟨rfl, rfl⟩
            · obtain ⟨rfl, rfl⟩ := Prod.mk.inj hexec
              refine .inr ⟨⟨_, rfl⟩, rfl, ?_⟩
              rintro runId ⟨lease, hlease, hrun, hactive⟩
              rcases List.mem_append.mp hlease with hold | hnew
              · exact .inl (activeLease_of_endLeases (by decide) ⟨lease, hold, hrun, hactive⟩)
              · rw [List.mem_singleton.mp hnew] at hrun
                exact .inr hrun.symm

theorem activeLease_of_affected (haffected : store.affected now row = true) :
    store.ActiveLease row.runId := by
  simp only [affected, Bool.and_eq_true, decide_eq_true_eq] at haffected
  obtain ⟨lease, hlease, hrun⟩ := List.mem_map.mp haffected.1
  rw [List.mem_filter, Bool.and_eq_true, decide_eq_true_eq] at hlease
  exact ⟨lease, hlease.1, hrun, hlease.2.1⟩

theorem get_expireStale : (store.expireStale now).jobs.get jobId =
    (store.jobs.get jobId).map fun row => if store.affected now row then row.flag now else row := by
  change (store.updateJobs (store.affected now) (fun row => row.flag now)
    fun row => row.scope_flag now).jobs.get jobId = _
  rw [get_updateJobs]

theorem leasesShrink_expireStale : store.LeasesShrink (store.expireStale now) := by
  intro runId hactive
  exact activeLease_of_endLeases (by decide) (h := hactive)

theorem get_heartbeatOwned :
    (store.heartbeatOwned ownerId now expiresAt).2.jobs.get jobId =
      (store.jobs.get jobId).map fun row =>
        if decide (row.runId ∈ (store.leases.filter (renewable ownerId now)).map
            LeaseRow.runId) && !row.state.terminal then
          row.extend now expiresAt
        else row := by
  change (store.updateJobs _ (fun row => row.extend now expiresAt)
    fun row => row.scope_extend now expiresAt).jobs.get jobId = _
  rw [get_updateJobs]

theorem get_releaseClaim_self (reason : JsString) (now : ℕ)
    (hrow : store.jobs.get jobId = some row) :
    (store.releaseClaim jobId reason now).jobs.get jobId =
      some (if row.state = .claimed then row.unclaim reason now else row) := by
  rw [releaseClaim, get_updateJobs, hrow, Option.map_some]
  simp [id_of_get hrow]

theorem get_releaseClaim_of_ne {other reason : JsString} (hne : other ≠ jobId) :
    (store.releaseClaim jobId reason now).jobs.get other = store.jobs.get other := by
  rw [releaseClaim, get_updateJobs]
  cases hrow : store.jobs.get other with
  | none => rfl
  | some row => simp [id_of_get hrow, hne]

theorem leasesShrink_heartbeatOwned :
    store.LeasesShrink (store.heartbeatOwned ownerId now expiresAt).2 := by
  rintro runId ⟨lease, hlease, hrun, hactive⟩
  simp only [heartbeatOwned, List.mem_map] at hlease
  obtain ⟨old, hold, rfl⟩ := hlease
  split at hrun
  · next h =>
    rw [if_pos h] at hactive
    exact ⟨old, hold, hrun, hactive⟩
  · next h =>
    rw [if_neg h] at hactive
    exact ⟨old, hold, hrun, hactive⟩

theorem admitJob_eq_some {scope : JobScope} (hadmitted : store.admitJob scope = some store') :
    store.jobs.get scope.id = none ∧
    (∀ row ∈ store.jobs.rows, row.runId ≠ scope.runId) ∧
    ¬ store.ActiveLease scope.runId ∧ store'.leases = store.leases ∧
    ∃ row : JobRow, row.toJobScope = scope ∧ row.state = .pending ∧
      row.reconciliationRequired = false ∧ store'.jobs = store.jobs.insertNew row := by
  unfold admitJob at hadmitted
  split at hadmitted
  · cases hadmitted
  · next hnew =>
    rw [not_or] at hnew
    have hrows : ∀ row ∈ store.jobs.rows, row.id ≠ scope.id ∧ row.runId ≠ scope.runId := by
      simpa using hnew.1
    have hleases : ∀ lease ∈ store.leases, lease.runId ≠ scope.runId := by
      simpa using hnew.2
    obtain rfl := Option.some.inj hadmitted
    refine ⟨?_, fun row hrow => (hrows row hrow).2, ?_, rfl, _, rfl, rfl, rfl, rfl⟩
    · rw [Option.eq_none_iff_forall_ne_some]
      intro row hrow
      exact (hrows row (Sql.Table.mem_of_get hrow)).1 (id_of_get hrow)
    · rintro ⟨lease, hlease, hrun, _⟩
      exact hleases lease hlease hrun

end SchedulerStore

end DevHarness.Scheduler
