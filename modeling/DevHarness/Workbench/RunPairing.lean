import DevHarness.Workbench.TaskVersions

/-!
# Runs and jobs of admissions

Each admission of an issue creates a run and its job.  The attempt of a run counts the
admissions of its issue; the attempt of a job counts its own starts, and a start that fails
raises it.  `loadFacts` shows the run and the job with the largest attempts, so the job shown
is that of the newest admission only while no older job is ahead of it.
-/

namespace DevHarness.Workbench

open JsText

/-! ## Admissions and retries -/

/-- What `admit` reads of a command; the other fields are written to tables that the
projection does not read. -/
structure SchedulerAdmissionCommand where
  organizationId : JsString
  projectId : JsString
  goalId : JsString
  issueId : JsString
  deadlineAt : ℤ
  budget : Json

def SchedulerAdmissionCommand.project (command : SchedulerAdmissionCommand) : ProjectKey :=
  ⟨command.organizationId, command.projectId⟩

/-- The run and the job that one admission created. -/
structure Admission where
  project : ProjectKey
  issueId : JsString
  runId : JsString
  jobId : JsString

def newest (admissions : List Admission) (project : ProjectKey) (issueId : JsString) :
    Option Admission :=
  (admissions.filter fun admission =>
    admission.project = project ∧ admission.issueId = issueId).getLast?

namespace AuthoritativeTables

variable (tables : AuthoritativeTables)

def held (command : SchedulerAdmissionCommand) : Bool :=
  tables.issueDependencies.any fun edge =>
    edge.project = command.project ∧ edge.issueId = command.issueId ∧
      tables.issues.any fun dependency =>
        dependency.id = edge.dependsOnIssueId ∧ dependency.status ≠ .completed

/-- `COALESCE(max(attempt),0)+1` over the runs of the issue. -/
def nextAttempt (command : SchedulerAdmissionCommand) : ℕ :=
  ((tables.runs.filter fun run =>
    run.project = command.project ∧ run.issueId = command.issueId).map (·.attempt)).max?.getD 0 + 1

def queuedRun (command : SchedulerAdmissionCommand) (runId : JsString) (admittedAt : ℤ) :
    RunRow where
  project := command.project
  id := runId
  issueId := command.issueId
  attempt := tables.nextAttempt command
  status := .queued
  version := 1
  startedAt := none
  finishedAt := none
  updatedAt := admittedAt

def pendingJob (command : SchedulerAdmissionCommand) (runId jobId : JsString) (admittedAt : ℤ) :
    JobRow where
  project := command.project
  id := jobId
  issueId := command.issueId
  runId := runId
  attempt := 1
  state := .pending
  phase := js "queued"
  priority := 100
  budget := command.budget
  deadlineAt := command.deadlineAt
  nodeId := none
  failureCode := none
  failureReason := none
  version := 1
  createdAt := admittedAt
  updatedAt := admittedAt

/-- `admit` of a command that is no replay; `none` is an error, and the transaction is rolled
back.  The ids come from `randomUUID` and are keys of their tables. -/
def admitIssue (command : SchedulerAdmissionCommand) (runId jobId : JsString) (admittedAt : ℤ) :
    Option AuthoritativeTables :=
  if tables.issues.any (fun issue => issue.id = command.issueId ∧
        issue.project = command.project ∧ issue.goalId = command.goalId ∧
        issue.status = .ready) ∧
      tables.held command = false ∧ admittedAt < command.deadlineAt ∧
      runId ∉ tables.runs.map (·.id) ∧ jobId ∉ tables.schedulerJobs.map (·.id) then
    some { tables with
      runs := tables.runs ++ [tables.queuedRun command runId admittedAt]
      schedulerJobs :=
        tables.schedulerJobs ++ [pendingJob command runId jobId admittedAt]
      issues := tables.issues.map fun issue =>
        if issue.id = command.issueId then
          { issue with
            status := .inProgress
            version := issue.version + 1
            updatedAt := max admittedAt issue.createdAt }
        else issue }
  else none

/-- The update of `handleStartFailure`; `maxAttempts` is the column of that name, by job,
which no statement changes. -/
def failedStart (maxAttempts : JsString → ℕ) (failureCode failureReason : JsString) (now : ℤ)
    (job : JobRow) : JobRow :=
  { job with
    state := if job.attempt < maxAttempts job.id then .retryWait else .failed
    attempt := if job.attempt < maxAttempts job.id then job.attempt + 1 else job.attempt
    nodeId := none
    failureCode := some failureCode
    failureReason := some failureReason
    version := job.version + 1
    updatedAt := now }

/-- `handleStartFailure`: what it does to jobs.  It also releases leases, counts the failure
and may fail the run, and these writes change no attempt. -/
def handleStartFailure (maxAttempts : JsString → ℕ) (jobId failureCode failureReason : JsString)
    (now : ℤ) : Option AuthoritativeTables :=
  if tables.schedulerJobs.any fun job => job.id = jobId ∧ job.state = .starting then
    some { tables with
      schedulerJobs := tables.schedulerJobs.map fun job =>
        if job.id = jobId ∧ job.state = .starting then
          failedStart maxAttempts failureCode failureReason now job
        else job }
  else none

end AuthoritativeTables

def RunRow.identity (run : RunRow) : ProjectKey × JsString × JsString × ℕ :=
  (run.project, run.issueId, run.id, run.attempt)

def JobRow.identity (job : JobRow) : ProjectKey × JsString × JsString × JsString :=
  (job.project, job.issueId, job.runId, job.id)

/-- The other writers move issues, runs and jobs between their states; none of them creates,
renames or renumbers a run or a job. -/
structure Keeps (before after : AuthoritativeTables) : Prop where
  runs : after.runs.map RunRow.identity = before.runs.map RunRow.identity
  jobs : after.schedulerJobs.map (fun job => (job.identity, job.attempt)) =
    before.schedulerJobs.map fun job => (job.identity, job.attempt)

/-- The tables after some history, and its admissions. -/
inductive Reached (maxAttempts : JsString → ℕ) : AuthoritativeTables → List Admission → Prop
  | start {tables} (hruns : tables.runs = []) (hjobs : tables.schedulerJobs = []) :
      Reached maxAttempts tables []
  | admission {before after admissions} (h : Reached maxAttempts before admissions)
      (command : SchedulerAdmissionCommand) (runId jobId : JsString) (admittedAt : ℤ)
      (hadmitted : before.admitIssue command runId jobId admittedAt = some after) :
      Reached maxAttempts after
        (admissions ++ [⟨command.project, command.issueId, runId, jobId⟩])
  | retry {before after admissions} (h : Reached maxAttempts before admissions)
      (jobId failureCode failureReason : JsString) (now : ℤ)
      (hretry : before.handleStartFailure maxAttempts jobId failureCode failureReason now =
        some after) : Reached maxAttempts after admissions
  | write {before after admissions} (h : Reached maxAttempts before admissions)
      (hkeeps : Keeps before after) : Reached maxAttempts after admissions

/-! ## What holds in every history -/

/-- The rows are those of the admissions, in their order, and the runs of an issue are
numbered upwards. -/
structure Accounted (tables : AuthoritativeTables) (admissions : List Admission) : Prop where
  runs : tables.runs.map (fun run => (run.project, run.issueId, run.id)) =
    admissions.map fun admission => (admission.project, admission.issueId, admission.runId)
  jobs : tables.schedulerJobs.map JobRow.identity = admissions.map fun admission =>
    (admission.project, admission.issueId, admission.runId, admission.jobId)
  numbered : (tables.runs.map RunRow.identity).Pairwise fun run later =>
    run.1 = later.1 → run.2.1 = later.2.1 → run.2.2.2 < later.2.2.2
  jobIds : (tables.schedulerJobs.map (·.id)).Nodup

section Steps

variable {tables after : AuthoritativeTables} {admissions : List Admission}
  {command : SchedulerAdmissionCommand} {maxAttempts : JsString → ℕ}

theorem attempt_lt_nextAttempt {run : RunRow} (hrun : run ∈ tables.runs)
    (hproject : run.project = command.project) (hissue : run.issueId = command.issueId) :
    run.attempt < tables.nextAttempt command := by
  have hmem : run.attempt ∈ (tables.runs.filter fun run =>
      run.project = command.project ∧ run.issueId = command.issueId).map (·.attempt) :=
    List.mem_map_of_mem (List.mem_filter.mpr ⟨hrun, by simp [hproject, hissue]⟩)
  obtain ⟨largest, hlargest⟩ := Option.isSome_iff_exists.mp
    (List.isSome_max?_of_mem hmem)
  have hle := (List.max?_eq_some_iff.mp hlargest).2 _ hmem
  rw [AuthoritativeTables.nextAttempt, hlargest, Option.getD_some]
  omega

theorem Accounted.start (hruns : tables.runs = []) (hjobs : tables.schedulerJobs = []) :
    Accounted tables [] where
  runs := by rw [hruns]; rfl
  jobs := by rw [hjobs]; rfl
  numbered := by rw [hruns]; exact List.Pairwise.nil
  jobIds := by rw [hjobs]; exact List.nodup_nil

section

variable (h : Accounted tables admissions)

include h

theorem Accounted.admission {runId jobId : JsString} {admittedAt : ℤ}
    (hadmitted : tables.admitIssue command runId jobId admittedAt = some after) :
    Accounted after (admissions ++ [⟨command.project, command.issueId, runId, jobId⟩]) := by
  rw [AuthoritativeTables.admitIssue] at hadmitted
  split at hadmitted
  case isFalse => cases hadmitted
  case isTrue hguard =>
    obtain ⟨-, -, -, -, hjobId⟩ := hguard
    obtain rfl := Option.some.inj hadmitted
    constructor
    · simp only [List.map_append, h.runs]
      rfl
    · simp only [List.map_append, h.jobs]
      rfl
    · simp only [List.map_append]
      refine List.pairwise_append.mpr ⟨h.numbered, List.pairwise_singleton _ _, ?_⟩
      rintro _ hold _ hnew
      obtain ⟨run, hrun, rfl⟩ := List.mem_map.mp hold
      rw [List.map_singleton, List.mem_singleton] at hnew
      rw [hnew]
      intro hproject hissue
      exact attempt_lt_nextAttempt hrun hproject hissue
    · simp only [List.map_append]
      exact List.nodup_append'.mpr ⟨h.jobIds, List.nodup_singleton _,
        List.disjoint_singleton.mpr hjobId⟩

theorem Accounted.of_identities
    (hruns : after.runs.map RunRow.identity = tables.runs.map RunRow.identity)
    (hjobs : after.schedulerJobs.map JobRow.identity = tables.schedulerJobs.map JobRow.identity) :
    Accounted after admissions where
  runs := by
    have hkeys := congrArg
      (List.map fun run : ProjectKey × JsString × JsString × ℕ => (run.1, run.2.1, run.2.2.1)) hruns
    rw [List.map_map, List.map_map] at hkeys
    exact hkeys.trans h.runs
  jobs := hjobs.trans h.jobs
  numbered := by
    rw [hruns]
    exact h.numbered
  jobIds := by
    have hids := congrArg
      (List.map fun job : ProjectKey × JsString × JsString × JsString => job.2.2.2) hjobs
    rw [List.map_map, List.map_map] at hids
    rw [show after.schedulerJobs.map (·.id) = tables.schedulerJobs.map (·.id) from hids]
    exact h.jobIds

theorem Accounted.retry {jobId failureCode failureReason : JsString} {now : ℤ}
    (hretry : tables.handleStartFailure maxAttempts jobId failureCode failureReason now = some
      after) : Accounted after admissions := by
  rw [AuthoritativeTables.handleStartFailure] at hretry
  split at hretry
  case isFalse => cases hretry
  case isTrue =>
    obtain rfl := Option.some.inj hretry
    refine h.of_identities rfl ?_
    rw [List.map_map]
    refine List.map_congr_left fun job _ => ?_
    by_cases hjob : job.id = jobId ∧ job.state = .starting
    · simp only [Function.comp_apply, if_pos hjob]
      rfl
    · simp only [Function.comp_apply, if_neg hjob]

end

end Steps

section Shown

variable (tables : AuthoritativeTables) (scope : WorkbenchProjectionScope)

variable (runtime : Runtime) (issue : IssueProjectionFact) (generatedAt : ℤ)

end Shown

section Pairs

variable {tables : AuthoritativeTables} {scope : WorkbenchProjectionScope}
  {admissions : List Admission} {issueId : JsString} {maxAttempts : JsString → ℕ} {Row : Type}
  {before : Row → Row → Bool} {p q : Row → Bool} {rows : List Row} {admission : Admission}

/-- Of the rows that pass both conditions one is selected, and none of them is before it. -/
theorem exists_selected (horders : Sql.Orders before) {row : Row} (hrow : row ∈ rows)
    (hp : p row = true) (hq : q row = true) :
    ∃ selected, ((Sql.orderBy before (rows.filter p)).filter q).head? = some selected ∧
      selected ∈ rows ∧ p selected = true ∧ q selected = true ∧
      ∀ other ∈ rows, p other = true → q other = true → before selected other = true := by
  have hmem : row ∈ (Sql.orderBy before (rows.filter p)).filter q :=
    List.mem_filter.mpr ⟨Sql.mem_orderBy.mpr (List.mem_filter.mpr ⟨hrow, hp⟩), hq⟩
  obtain ⟨selected, hselected⟩ := Option.isSome_iff_exists.mp
    (List.isSome_head?.mpr (List.ne_nil_of_mem hmem))
  obtain ⟨hin, hqs, hfirst⟩ := Sql.first_of_orderBy horders hselected
  obtain ⟨hin, hps⟩ := List.mem_filter.mp hin
  refine ⟨selected, hselected, hin, hps, hqs, fun other hother hpo hqo => ?_⟩
  exact hfirst other (List.mem_filter.mpr ⟨hother, hpo⟩) hqo

/-- The job of the newest admission of each issue is ahead of the jobs of the issue's earlier
admissions: none of these was started more often, nor as often with a larger id. -/
def Leads (tables : AuthoritativeTables) (scope : WorkbenchProjectionScope)
    (admissions : List Admission) : Prop :=
  ∀ issue ∈ (tables.loadFacts scope).issues,
    ∀ admission ∈ newest admissions scope.project issue.id,
      ∀ job ∈ tables.schedulerJobs, job.id = admission.jobId →
        ∀ other ∈ tables.schedulerJobs, other.project = scope.project →
          other.issueId = issue.id → other.id ≠ job.id →
            other.attempt < job.attempt ∨
              other.attempt = job.attempt ∧ units other.id < units job.id

section

variable (h : Accounted tables admissions)

include h

end

end Pairs

section SecondAdmission

def AuthoritativeTables.moved (tables : AuthoritativeTables) (state : SchedulerJobState)
    (status : IssueStatus) : AuthoritativeTables :=
  { tables with
    schedulerJobs := tables.schedulerJobs.map fun job => { job with state := state }
    issues := tables.issues.map fun issue => { issue with status := status } }

end SecondAdmission

end DevHarness.Workbench
