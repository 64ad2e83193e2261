import DevHarness.Sql.Table
import DevHarness.Text.JsString

/-!
# Scheduler tables

The rows that the scheduler repository reads and writes: jobs, execution nodes,
leases, controls, runs and outbox events.  Times are milliseconds.  A lease is
known by its run and node; its token and the digest of it, which nothing reads,
are left out.

Every write to the jobs is an update that leaves the scope of a job alone, the
columns fixed at admission.
-/

namespace DevHarness.Scheduler

open JsText

inductive SchedulerJobState
  | pending
  | claimed
  | starting
  | running
  | retryWait
  | reconciling
  | succeeded
  | failed
  | cancelled
  | blocked
  deriving DecidableEq

/-- `state IN ('succeeded','failed','cancelled','blocked')`. -/
def SchedulerJobState.terminal : SchedulerJobState → Bool
  | .succeeded | .failed | .cancelled | .blocked => true
  | _ => false

inductive CapabilityTier
  | costOptimized
  | generalCoding
  | advancedCoding
  | frontier
  deriving DecidableEq

/-- The entry of a budget that the scheduler reads: `maxRuntimeSeconds`, when it
is a safe integer above zero. -/
structure JobBudget where
  maxRuntimeSeconds : Option ℕ

/-- The columns of a job that are fixed at its admission. -/
structure JobScope where
  id : JsString
  organizationId : JsString
  projectId : JsString
  goalId : JsString
  issueId : JsString
  runId : JsString
  externalTaskId : JsString
  requiredCapability : CapabilityTier
  priority : ℕ
  maxAttempts : ℕ
  budget : JobBudget
  deadlineAt : ℕ
  createdAt : ℕ

/-- A row of `scheduler_jobs`. -/
structure JobRow extends JobScope where
  state : SchedulerJobState
  phase : JsString
  attempt : ℕ
  nextAttemptAt : ℕ
  externalRunId : Option JsString
  nodeId : Option JsString
  leaseExpiresAt : Option ℕ
  heartbeatAt : Option ℕ
  reconciliationRequired : Bool
  failureCode : Option JsString
  failureReason : Option JsString
  version : ℕ
  updatedAt : ℕ

structure SchedulerJob extends JobRow where
  stopRequested : Bool

inductive NodeStatus
  | online
  | draining
  | offline
  deriving DecidableEq

/-- A row of `execution_nodes`. -/
structure NodeRow where
  id : JsString
  name : JsString
  provider : JsString
  capabilities : List CapabilityTier
  maxConcurrentRuns : ℕ
  status : NodeStatus
  heartbeatAt : ℕ
  offlineAfter : ℕ
  version : ℕ

inductive LeaseStatus
  | active
  | released
  | expired
  deriving DecidableEq

/-- A row of `execution_leases`. -/
structure LeaseRow where
  runId : JsString
  nodeId : JsString
  ownerId : JsString
  status : LeaseStatus
  acquiredAt : ℕ
  heartbeatAt : ℕ
  expiresAt : ℕ
  releasedAt : Option ℕ
  version : ℕ
  deriving DecidableEq

inductive ControlState
  | active
  | paused
  | draining
  | stopped
  deriving DecidableEq

/-- `(scope_type, scope_key)` of a control. -/
inductive ControlScope
  | global
  | project (projectId : JsString)
  deriving DecidableEq

/-- A row of `execution_controls`. -/
structure ControlRow where
  scope : ControlScope
  state : ControlState
  consecutiveFailures : ℕ
  circuitOpenUntil : Option ℕ
  reason : JsString
  version : ℕ

def ControlRow.covers (control : ControlRow) (projectId : JsString) : Bool :=
  control.scope = .global ∨ control.scope = .project projectId

inductive RunStatus
  | queued
  | running
  | succeeded
  | failed
  | cancelled
  deriving DecidableEq

def RunStatus.terminal : RunStatus → Bool
  | .succeeded | .failed | .cancelled => true
  | _ => false

/-- The columns of `runs` that the scheduler writes. -/
structure RunRow where
  id : JsString
  status : RunStatus
  startedAt : Option ℕ
  finishedAt : Option ℕ
  version : ℕ

inductive OutboxEvent
  | leaseExpired (jobId runId : JsString) (version : ℕ)
  | runChanged (jobId runId : JsString) (version : ℕ) (phase : JsString) (status : RunStatus)

structure SchedulerStore where
  jobs : Sql.Table fun row : JobRow => row.id
  nodes : Sql.Table fun row : NodeRow => row.id
  leases : List LeaseRow
  controls : Sql.Table fun row : ControlRow => row.scope
  runs : Sql.Table fun row : RunRow => row.id
  outbox : List OutboxEvent

namespace SchedulerStore

def empty : SchedulerStore where
  jobs := .empty _
  nodes := .empty _
  leases := []
  controls := .empty _
  runs := .empty _
  outbox := []

variable (store : SchedulerStore)

/-- `UPDATE scheduler_jobs SET f WHERE p`. -/
def updateJobs (p : JobRow → Bool) (f : JobRow → JobRow)
    (hscope : ∀ row, (f row).toJobScope = row.toJobScope) : SchedulerStore :=
  { store with
    jobs := store.jobs.updateWhere p f fun row => congrArg JobScope.id (hscope row) }

abbrev updateJob (jobId : JsString) (f : JobRow → JobRow)
    (hscope : ∀ row, (f row).toJobScope = row.toJobScope) : SchedulerStore :=
  store.updateJobs (fun row => row.id = jobId) f hscope

/-- An active lease that meets `p` ends, as expired or as released. -/
def endLeases (p : LeaseRow → Bool) (status : LeaseStatus) (now : ℕ) : SchedulerStore :=
  { store with
    leases := store.leases.map fun lease =>
      if lease.status = .active ∧ p lease then
        { lease with status := status, releasedAt := some now, version := lease.version + 1 }
      else
        lease }

def releaseLeases (runId : JsString) (now : ℕ) : SchedulerStore :=
  store.endLeases (fun lease => lease.runId = runId) .released now

def ActiveLease (runId : JsString) : Prop :=
  ∃ lease ∈ store.leases, lease.runId = runId ∧ lease.status = .active

/-- The `stop_requested` column: a stopped control applies to the project. -/
def stopRequested (projectId : JsString) : Bool :=
  store.controls.rows.any fun control =>
    control.covers projectId && decide (control.state = .stopped)

/-! ## What the statements change -/

variable {store} {jobId runId : JsString} {p : JobRow → Bool} {f : JobRow → JobRow}
  {hscope : ∀ row, (f row).toJobScope = row.toJobScope} {q : LeaseRow → Bool} {status : LeaseStatus}
  {now : ℕ} {row : JobRow} {other : JsString}

theorem id_of_get (hrow : store.jobs.get jobId = some row) : row.id = jobId := by
  have hkey := Sql.Table.key_of_get hrow
  exact hkey

theorem get_updateJobs : (store.updateJobs p f hscope).jobs.get jobId =
    (store.jobs.get jobId).map fun row => if p row then f row else row := by
  rw [updateJobs, Sql.Table.get_updateWhere]

@[simp] theorem leases_updateJobs : (store.updateJobs p f hscope).leases = store.leases := rfl

@[simp] theorem activeLease_updateJobs :
    (store.updateJobs p f hscope).ActiveLease runId ↔ store.ActiveLease runId := Iff.rfl

@[simp] theorem jobs_endLeases : (store.endLeases q status now).jobs = store.jobs := rfl

@[simp] theorem jobs_releaseLeases : (store.releaseLeases runId now).jobs = store.jobs := rfl

theorem get_updateJob_self (hrow : store.jobs.get jobId = some row) :
    (store.updateJob jobId f hscope).jobs.get jobId = some (f row) := by
  rw [updateJob, get_updateJobs, hrow, Option.map_some, if_pos]
  simpa using id_of_get hrow

theorem get_updateJob_of_ne (hne : other ≠ jobId) :
    (store.updateJob jobId f hscope).jobs.get other = store.jobs.get other := by
  rw [updateJob, get_updateJobs]
  cases hrow : store.jobs.get other with
  | none => rfl
  | some row =>
      simp [id_of_get hrow, hne]

/-- A lease that is active after some have ended was active before, and did not
meet the condition. -/
theorem activeLease_endLeases (hstatus : status ≠ .active) :
    (store.endLeases q status now).ActiveLease runId ↔
      ∃ lease ∈ store.leases, lease.runId = runId ∧ lease.status = .active ∧ q lease = false := by
  simp only [ActiveLease, endLeases, List.mem_map]
  constructor
  · rintro ⟨_, ⟨lease, hlease, rfl⟩, hrun, hactive⟩
    by_cases h : lease.status = .active ∧ q lease = true
    · rw [if_pos h] at hactive
      exact absurd hactive hstatus
    · rw [if_neg h] at hrun hactive
      have hq : q lease = false := by simpa [hactive] using h
      exact ⟨lease, hlease, hrun, hactive, hq⟩
  · rintro ⟨lease, hlease, hrun, hactive, hq⟩
    refine ⟨lease, ⟨lease, hlease, ?_⟩, hrun, hactive⟩
    rw [if_neg]
    simp [hq]

theorem activeLease_of_endLeases (hstatus : status ≠ .active)
    (h : (store.endLeases q status now).ActiveLease runId) : store.ActiveLease runId := by
  obtain ⟨lease, hlease, hrun, hactive, _⟩ := (activeLease_endLeases hstatus).mp h
  exact ⟨lease, hlease, hrun, hactive⟩

theorem activeLease_of_releaseLeases (h : (store.releaseLeases other now).ActiveLease runId) :
    store.ActiveLease runId :=
  activeLease_of_endLeases (by decide) h

theorem not_activeLease_releaseLeases : ¬ (store.releaseLeases runId now).ActiveLease runId := by
  intro h
  obtain ⟨lease, _, hrun, _, hq⟩ := (activeLease_endLeases (by decide)).mp h
  simp [hrun] at hq

end SchedulerStore

end DevHarness.Scheduler
