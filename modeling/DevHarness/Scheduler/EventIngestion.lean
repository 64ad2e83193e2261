import DevHarness.Scheduler.Repository
import DevHarness.Text.Patterns

/-!
# The ingestion of external events

The Postgres repository of execution events.  The events of an external run are numbered;
one that comes too early waits in the inbox, and the next one is mapped to the run together
with those that have waited for it.  `ingest` is one transaction over locked rows, hence one
atomic step.
-/

namespace DevHarness.Scheduler

open JsText

/-! ## Rows -/

/-- The identities of an `ObservabilityContext`. -/
structure ObservabilityContext where
  runId : Option JsString
  goalId : Option JsString
  issueId : Option JsString
  deriving DecidableEq

/-- `AutoDevRunEventV1`; its schema version is the only one. -/
structure RunEvent where
  sourceEventId : JsString
  externalRunId : JsString
  externalTaskId : JsString
  sequence : ℕ
  occurredAt : ℕ
  phase : JsString
  status : JsString
  message : JsString
  observability : Option ObservabilityContext
  deriving DecidableEq

inductive ProcessingStatus
  | pending
  | applied
  | gap
  | terminalIgnored
  deriving DecidableEq

/-- `processing_status IN ('pending','gap')`. -/
def ProcessingStatus.open : ProcessingStatus → Bool
  | .pending | .gap => true
  | _ => false

/-- A row of `external_event_inbox`; its other columns are copies of the event's fields. -/
structure InboxRow where
  jobId : JsString
  runId : JsString
  digest : JsString
  event : RunEvent
  processing : ProcessingStatus
  deriving DecidableEq

structure RunMapped where
  runId : JsString
  version : ℕ
  sourceEventId : JsString
  sourceSequence : ℕ
  externalRunId : JsString
  phase : JsString
  status : RunStatus

/-- The tables of the scheduler, with the column `last_event_sequence` of its jobs, which only
the ingestion reads and writes, and the inbox. -/
structure EventStore where
  scheduler : SchedulerStore
  lastEventSequence : JsString → ℕ
  inbox : List InboxRow
  outbox : List RunMapped

def EventStore.empty : EventStore where
  scheduler := .empty
  lastEventSequence := fun _ => 0
  inbox := []
  outbox := []

structure ExecutionRunProjection where
  id : JsString
  organizationId : JsString
  projectId : JsString
  goalId : JsString
  issueId : JsString
  externalRunId : Option JsString
  externalTaskId : JsString
  status : RunStatus
  phase : JsString
  version : ℕ
  lastEventSequence : ℕ
  reconciliationRequired : Bool

inductive EventIngestResult
  | applied (run : ExecutionRunProjection)
  | duplicate
  | gap (run : ExecutionRunProjection)
  | terminalIgnored (run : ExecutionRunProjection)
  | conflict (existingDigest : Option JsString)
  | runNotFound
  | identityMismatch

/-! ## The mapping of one event -/

def targetStatus (platform : Platform) (event : RunEvent) : Option RunStatus :=
  let status := platform.toLowerCase event.status
  let phase := platform.toLowerCase event.phase
  if status ∈ [js "succeeded", js "done", js "completed", js "complete"] ∨
      phase = js "complete" then some .succeeded
  else if status ∈ [js "failed", js "error", js "blocked"] then some .failed
  else if status ∈ [js "cancelled", js "canceled", js "stopped"] then some .cancelled
  else if status ∈ [js "running", js "in_progress", js "started"] ∨
      phase ∈ [js "claim", js "worktree", js "prompt", js "builder", js "verify", js "review",
        js "landing"] then some .running
  else none

/-- `ContextRow`: the job and its run, as the transaction goes on. -/
structure EventContext where
  job : JobRow
  runStatus : RunStatus
  runVersion : ℕ
  phase : JsString
  lastEventSequence : ℕ
  reconciliationRequired : Bool

def EventContext.mapProjection (context : EventContext) : ExecutionRunProjection where
  id := context.job.runId
  organizationId := context.job.organizationId
  projectId := context.job.projectId
  goalId := context.job.goalId
  issueId := context.job.issueId
  externalRunId := context.job.externalRunId
  externalTaskId := context.job.externalTaskId
  status := context.runStatus
  phase := context.phase
  version := context.runVersion
  lastEventSequence := context.lastEventSequence
  reconciliationRequired := context.reconciliationRequired

/-- The update of `transitionRun`. -/
def RunRow.mapTo (row : RunRow) (status : RunStatus) (occurredAt : ℕ) : RunRow :=
  { row with
    status := status
    startedAt := if status = .running then row.startedAt.or (some occurredAt) else row.startedAt
    finishedAt := if status.terminal then some occurredAt else none
    version := row.version + 1 }

def RunStatus.jobState : RunStatus → SchedulerJobState
  | .queued | .running => .running
  | .succeeded => .succeeded
  | .failed => .failed
  | .cancelled => .cancelled

/-- The last update of `ingest`. -/
def JobRow.follow (row : JobRow) (phase : JsString) (reconciliationRequired : Bool)
    (status : RunStatus) (now : ℕ) : JobRow :=
  { row with
    phase := phase
    reconciliationRequired := reconciliationRequired
    state := status.jobState
    version := row.version + 1
    updatedAt := now }

theorem JobRow.scope_follow (row : JobRow) (phase : JsString) (reconciliationRequired : Bool)
    (status : RunStatus) (now : ℕ) :
    (row.follow phase reconciliationRequired status now).toJobScope = row.toJobScope := rfl

/-- What the transaction has got to. -/
structure EventProgress where
  context : EventContext
  store : EventStore
  /-- An event has met a run that is over. -/
  ignored : Bool

def transitionRun (progress : EventProgress) (status : RunStatus) (event : RunEvent) :
    Except Thrown EventProgress :=
  let scheduler := progress.store.scheduler
  let runId := progress.context.job.runId
  match scheduler.runs.get runId with
  | none => .error (.error (js "Run changed during external event mapping"))
  | some run =>
    if run.status = progress.context.runStatus then
      .ok
        { progress with
          context :=
            { progress.context with runStatus := status, runVersion := run.version + 1 }
          store :=
            { progress.store with
              scheduler :=
                { scheduler with
                  runs := scheduler.runs.updateWhere (fun row => row.id = runId)
                    (fun row => row.mapTo status event.occurredAt) fun _ => rfl }
              outbox := progress.store.outbox ++
                [{ runId := runId
                   version := run.version + 1
                   sourceEventId := event.sourceEventId
                   sourceSequence := event.sequence
                   externalRunId := event.externalRunId
                   phase := event.phase
                   status := status }] } }
    else .error (.error (js "Run changed during external event mapping"))

def mapEvent (platform : Platform) (progress : EventProgress) (event : RunEvent) :
    Except Thrown EventProgress :=
  match targetStatus platform event with
  | none => .ok progress
  | some target =>
    if target = progress.context.runStatus then .ok progress
    else do
      let started ←
        if progress.context.runStatus = .queued ∧ target ≠ .running then
          transitionRun progress .running event
        else pure progress
      if target = started.context.runStatus then pure started
      else transitionRun started target event

def EventProgress.pending (progress : EventProgress) : List InboxRow :=
  progress.store.inbox.filter fun row =>
    decide (row.jobId = progress.context.job.id) &&
      decide (row.event.sequence = progress.context.lastEventSequence + 1) && row.processing.open

/-- `UPDATE external_event_inbox SET processing_status=… WHERE id=…`. -/
def EventProgress.mark (progress : EventProgress) (row : InboxRow)
    (processing : ProcessingStatus) : EventProgress :=
  { progress with
    store :=
      { progress.store with
        inbox := progress.store.inbox.map fun other =>
          if other = row then { other with processing := processing } else other } }

def EventProgress.take (progress : EventProgress) (row : InboxRow) : EventProgress :=
  { progress with
    context :=
      { progress.context with
        phase := row.event.phase
        lastEventSequence := row.event.sequence } }

def applyNext (platform : Platform) (progress : EventProgress) (row : InboxRow) :
    Except Thrown EventProgress :=
  let taken := progress.take row
  if taken.context.runStatus.terminal then
    .ok { taken.mark row .terminalIgnored with ignored := true }
  else do
    let mapped ← mapEvent platform taken row.event
    pure (mapped.mark row .applied)

/-- The loop; of several rows with one number, `before` says which comes first. -/
def drain (platform : Platform) (before : InboxRow → InboxRow → Bool) :
    ℕ → EventProgress → Except Thrown EventProgress
  | 0, progress => .ok progress
  | fuel + 1, progress =>
    match Sql.first before progress.pending with
    | none => .ok progress
    | some row => do
      let next ← applyNext platform progress row
      drain platform before fuel next

def EventProgress.waiting (progress : EventProgress) : Bool :=
  progress.store.inbox.any fun row =>
    decide (row.jobId = progress.context.job.id) && decide (row.processing = .gap) &&
      decide (progress.context.lastEventSequence < row.event.sequence)

/-! ## `ingest` -/

structure IngestInput where
  event : RunEvent
  digest : JsString
  deriving DecidableEq

/-- What the database decides: the time, and the order of rows that no clause orders. -/
structure IngestOutside where
  now : ℕ
  before : InboxRow → InboxRow → Bool

namespace EventStore

variable (store : EventStore)

def contextOf (externalRunId : JsString) : Option EventContext := do
  let job ← store.scheduler.jobs.rows.find? fun row => row.externalRunId = some externalRunId
  let run ← store.scheduler.runs.get job.runId
  pure
    { job := job
      runStatus := run.status
      runVersion := run.version
      phase := job.phase
      lastEventSequence := store.lastEventSequence job.id
      reconciliationRequired := job.reconciliationRequired }

def identified (context : EventContext) (event : RunEvent) : Bool :=
  decide (context.job.externalTaskId = event.externalTaskId) &&
    event.observability.all fun observed =>
      decide (observed.runId = some context.job.runId) &&
        decide (observed.goalId = some context.job.goalId) &&
        decide (observed.issueId = some context.job.issueId)

def insertInbox (context : EventContext) (input : IngestInput)
    (processing : ProcessingStatus) : EventStore :=
  { store with
    inbox := store.inbox ++
      [{ jobId := context.job.id
         runId := context.job.runId
         digest := input.digest
         event := input.event
         processing := processing }] }

def numberTaken (event : RunEvent) : Bool :=
  store.inbox.any fun row =>
    decide (row.event.externalRunId = event.externalRunId) &&
      decide (row.event.sequence = event.sequence)

def recordGap (context : EventContext) (input : IngestInput) (now : ℕ) : EventStore :=
  { store.insertInbox context input .gap with
    scheduler := store.scheduler.updateJob context.job.id (fun row => row.flag now)
      fun row => row.scope_flag now }

def settle (progress : EventProgress) (now : ℕ) : EventIngestResult × EventStore :=
  let store := progress.store
  let context : EventContext :=
    { progress.context with reconciliationRequired := progress.waiting }
  let followed := store.scheduler.updateJob context.job.id
    (fun row => row.follow context.phase progress.waiting context.runStatus now)
    fun row => row.scope_follow context.phase progress.waiting context.runStatus now
  let next : EventStore :=
    { store with
      scheduler :=
        if context.runStatus.terminal then followed.releaseLeases context.job.runId now
        else followed
      lastEventSequence := fun id =>
        if id = context.job.id then context.lastEventSequence else store.lastEventSequence id }
  (if progress.ignored then .terminalIgnored context.mapProjection
    else .applied context.mapProjection, next)

def ingestNew (platform : Platform) (outside : IngestOutside) (input : IngestInput)
    (context : EventContext) : Except Thrown EventIngestResult × EventStore :=
  if store.numberTaken input.event then (.ok (.conflict none), store)
  else if context.lastEventSequence + 1 < input.event.sequence then
    (.ok (.gap { context.mapProjection with reconciliationRequired := true }),
      store.recordGap context input outside.now)
  else if input.event.sequence ≤ context.lastEventSequence then
    (.ok (.terminalIgnored context.mapProjection),
      store.insertInbox context input .terminalIgnored)
  else
    let inserted := store.insertInbox context input .pending
    match drain platform outside.before inserted.inbox.length
        { context := context, store := inserted, ignored := false } with
    | .error thrown => (.error thrown, store)
    | .ok progress => (.ok (settle progress outside.now).1, (settle progress outside.now).2)

def ingest (platform : Platform) (outside : IngestOutside) (input : IngestInput) :
    Except Thrown EventIngestResult × EventStore :=
  match store.inbox.find? fun row => row.event.sourceEventId = input.event.sourceEventId with
  | some existing =>
    (.ok (if existing.digest = input.digest then .duplicate
      else .conflict (some existing.digest)), store)
  | none =>
    match store.contextOf input.event.externalRunId with
    | none => (.ok .runNotFound, store)
    | some context =>
      if identified context input.event then store.ingestNew platform outside input context
      else (.ok .identityMismatch, store)

end EventStore

/-! ## What the loop does -/

def runStatusOf (store : SchedulerStore) (runId : JsString) : Option RunStatus :=
  (store.runs.get runId).map (·.status)

theorem runStatusOf_updateWhere (store : SchedulerStore) (runId other : JsString)
    {status : RunStatus} {f : RunRow → RunRow} (hkey : ∀ row, (f row).id = row.id)
    (hstatus : ∀ row, (f row).status = status) :
    runStatusOf { store with
      runs := store.runs.updateWhere (fun row => row.id = runId) f hkey } other =
        if other = runId then (runStatusOf store other).map fun _ => status
        else runStatusOf store other := by
  rw [runStatusOf, Sql.Table.get_updateWhere, runStatusOf]
  cases hget : store.runs.get other with
  | none =>
      split_ifs <;> rfl
  | some row =>
      have hrow : row.id = other := Sql.Table.key_of_get hget
      by_cases heq : other = runId
      · simp [hrow, heq, hstatus]
      · simp [hrow, heq]

namespace EventProgress

variable (progress next last : EventProgress)

/-- The context has the status of the stored run. -/
def Synced : Prop :=
  runStatusOf progress.store.scheduler progress.context.job.runId = some progress.context.runStatus

/-- A part of the transaction writes to the run of its job only, and leaves a run that is over
alone. -/
structure Proceeds : Prop where
  job : next.context.job = progress.context.job
  jobs : next.store.scheduler.jobs = progress.store.scheduler.jobs
  leases : next.store.scheduler.leases = progress.store.scheduler.leases
  others : ∀ runId, runId ≠ progress.context.job.runId →
    runStatusOf next.store.scheduler runId = runStatusOf progress.store.scheduler runId
  terminal : progress.context.runStatus.terminal = true →
    next.context.runStatus = progress.context.runStatus
  synced : next.Synced

variable {progress next last}

theorem Proceeds.refl (h : progress.Synced) : progress.Proceeds progress :=
  ⟨rfl, rfl, rfl, fun _ _ => rfl, fun _ => rfl, h⟩

theorem Proceeds.trans (h : progress.Proceeds next) (h' : next.Proceeds last) :
    progress.Proceeds last := by
  refine ⟨h'.job.trans h.job, h'.jobs.trans h.jobs, h'.leases.trans h.leases, ?_, ?_, h'.synced⟩
  · intro runId hne
    have hne' : runId ≠ next.context.job.runId := by
      rw [h.job]
      exact hne
    exact (h'.others runId hne').trans (h.others runId hne)
  · intro hterminal
    have hsame := h.terminal hterminal
    have hterminal' : next.context.runStatus.terminal = true := by
      rw [hsame]
      exact hterminal
    exact (h'.terminal hterminal').trans hsame

theorem Proceeds.mark (h : progress.Proceeds next) (row : InboxRow)
    (processing : ProcessingStatus) : progress.Proceeds (next.mark row processing) :=
  ⟨h.job, h.jobs, h.leases, h.others, h.terminal, h.synced⟩

theorem Proceeds.take (h : progress.Proceeds next) (row : InboxRow) :
    progress.Proceeds (next.take row) :=
  ⟨h.job, h.jobs, h.leases, h.others, h.terminal, h.synced⟩

end EventProgress

section Loop

variable {progress : EventProgress} {row : InboxRow}

theorem exists_transitionRun (status : RunStatus) (event : RunEvent)
    (hsynced : progress.Synced) (hlive : progress.context.runStatus.terminal = false) :
    ∃ next, transitionRun progress status event = .ok next ∧ progress.Proceeds next ∧
      next.context.runStatus = status ∧ next.store.inbox = progress.store.inbox := by
  obtain ⟨run, hrun, hstatus⟩ := Option.map_eq_some_iff.mp hsynced
  unfold transitionRun
  simp only [hrun, hstatus, if_true]
  have hwritten : ∀ other, runStatusOf
      { progress.store.scheduler with
        runs := progress.store.scheduler.runs.updateWhere
          (fun row => row.id = progress.context.job.runId)
          (fun row => row.mapTo status event.occurredAt) fun _ => rfl } other =
        if other = progress.context.job.runId then
          (runStatusOf progress.store.scheduler other).map fun _ => status
        else runStatusOf progress.store.scheduler other :=
    fun other => runStatusOf_updateWhere _ _ other (f := fun row => row.mapTo status event.occurredAt)
      (fun _ => rfl) fun _ => rfl
  refine ⟨_, rfl, ⟨rfl, rfl, rfl, ?_, ?_, ?_⟩, rfl, rfl⟩
  · intro runId hne
    rw [hwritten, if_neg hne]
  · intro hterminal
    rw [hlive] at hterminal
    cases hterminal
  · rw [EventProgress.Synced, hwritten, if_pos rfl, hsynced, Option.map_some]

theorem exists_mapEvent (platform : Platform) (event : RunEvent) (hsynced : progress.Synced)
    (hlive : progress.context.runStatus.terminal = false) :
    ∃ next, mapEvent platform progress event = .ok next ∧ progress.Proceeds next ∧
      next.store.inbox = progress.store.inbox := by
  unfold mapEvent
  split
  · exact ⟨progress, rfl, .refl hsynced, rfl⟩
  · next target _ =>
    by_cases hsame : target = progress.context.runStatus
    · rw [if_pos hsame]
      exact ⟨progress, rfl, .refl hsynced, rfl⟩
    · rw [if_neg hsame]
      by_cases hqueued : progress.context.runStatus = .queued ∧ target ≠ .running
      · obtain ⟨started, hstarted, hproceeds, hrunning, hinbox⟩ :=
          exists_transitionRun .running event hsynced hlive
        have hlive' : started.context.runStatus.terminal = false := by
          rw [hrunning]
          rfl
        obtain ⟨next, hnext, hproceeds', -, hinbox'⟩ :=
          exists_transitionRun target event hproceeds.synced hlive'
        have hne : ¬ target = started.context.runStatus := by
          rw [hrunning]
          exact hqueued.2
        refine ⟨next, ?_, hproceeds.trans hproceeds', hinbox'.trans hinbox⟩
        simp only [if_pos hqueued, hstarted, bind, Except.bind, if_neg hne, hnext]
      · obtain ⟨next, hnext, hproceeds, -, hinbox⟩ :=
          exists_transitionRun target event hsynced hlive
        refine ⟨next, ?_, hproceeds, hinbox⟩
        simp only [if_neg hqueued, bind, Except.bind, pure, Except.pure, if_neg hsame, hnext]

def EventProgress.openRows (progress : EventProgress) : ℕ :=
  progress.store.inbox.countP (·.processing.open)

theorem openRows_mark (progress : EventProgress) {processing : ProcessingStatus}
    (hrow : row ∈ progress.store.inbox)
    (hopen : row.processing.open = true) (hdone : processing.open = false) :
    (progress.mark row processing).openRows < progress.openRows := by
  have hle : ∀ rows : List InboxRow, (rows.map fun other =>
      if other = row then { other with processing := processing } else other).countP
        (·.processing.open) ≤ rows.countP (·.processing.open) := by
    intro rows
    rw [List.countP_map]
    apply List.countP_mono_left
    intro other _ hother
    by_cases heq : other = row
    · simp [heq, hdone] at hother
    · simpa [heq] using hother
  obtain ⟨left, right, hsplit⟩ := List.append_of_mem hrow
  have hleft := hle left
  have hright := hle right
  simp only [EventProgress.openRows, EventProgress.mark, hsplit, List.map_append, List.map_cons,
    List.countP_append, List.countP_cons, if_true, hopen, hdone]
  simp only [Bool.false_eq_true, if_false]
  omega

theorem EventProgress.of_mem_pending (h : row ∈ progress.pending) :
    row ∈ progress.store.inbox ∧ row.jobId = progress.context.job.id ∧
      row.event.sequence = progress.context.lastEventSequence + 1 ∧ row.processing.open = true := by
  obtain ⟨hmem, hkeep⟩ := List.mem_filter.mp h
  simp only [Bool.and_eq_true, decide_eq_true_eq] at hkeep
  exact ⟨hmem, hkeep.1.1, hkeep.1.2, hkeep.2⟩

theorem exists_applyNext (platform : Platform) (hsynced : progress.Synced)
    (hrow : row ∈ progress.pending) :
    ∃ next, applyNext platform progress row = .ok next ∧ progress.Proceeds next ∧
      next.openRows < progress.openRows := by
  obtain ⟨hmem, -, -, hopen⟩ := EventProgress.of_mem_pending hrow
  have htaken : progress.Proceeds (progress.take row) := (EventProgress.Proceeds.refl hsynced).take row
  unfold applyNext
  by_cases hterminal : (progress.take row).context.runStatus.terminal = true
  · simp only [if_pos hterminal]
    have hmarked := htaken.mark row .terminalIgnored
    refine ⟨_, rfl, ⟨hmarked.job, hmarked.jobs, hmarked.leases, hmarked.others, hmarked.terminal,
      hmarked.synced⟩, ?_⟩
    exact openRows_mark progress hmem hopen rfl
  · simp only [if_neg hterminal]
    obtain ⟨mapped, hmapped, hproceeds, hinbox⟩ := exists_mapEvent platform row.event htaken.synced
      (by simpa using hterminal)
    refine ⟨mapped.mark row .applied, ?_, (htaken.trans hproceeds).mark row .applied, ?_⟩
    · simp only [hmapped, bind, Except.bind, pure, Except.pure]
    · have hmem' : row ∈ mapped.store.inbox := by
        rw [hinbox]
        exact hmem
      have hlt := openRows_mark mapped hmem' hopen
        (show ProcessingStatus.applied.open = false from rfl)
      have hsame : mapped.openRows = progress.openRows := by
        rw [EventProgress.openRows, hinbox]
        rfl
      omega

theorem exists_drain (platform : Platform) (before : InboxRow → InboxRow → Bool) (fuel : ℕ)
    (hsynced : progress.Synced) (hfuel : progress.openRows ≤ fuel) :
    ∃ next, drain platform before fuel progress = .ok next ∧ progress.Proceeds next ∧
      next.pending = [] := by
  induction fuel generalizing progress with
  | zero =>
      refine ⟨progress, rfl, .refl hsynced, ?_⟩
      apply List.eq_nil_iff_forall_not_mem.mpr
      intro row hrow
      obtain ⟨hmem, -, -, hopen⟩ := EventProgress.of_mem_pending hrow
      have hpos : 0 < progress.openRows := List.countP_pos_iff.mpr ⟨row, hmem, hopen⟩
      omega
  | succ fuel ih =>
      unfold drain
      split
      · next hnone =>
        exact ⟨progress, rfl, .refl hsynced, Sql.first_eq_none.mp hnone⟩
      · next row hfirst =>
        obtain ⟨next, hnext, hproceeds, hlt⟩ :=
          exists_applyNext platform hsynced (Sql.mem_of_first hfirst)
        obtain ⟨last, hlast, hproceeds', hpending⟩ := ih hproceeds.synced (by omega)
        refine ⟨last, ?_, hproceeds.trans hproceeds', hpending⟩
        simp only [hnext, bind, Except.bind, hlast]

end Loop

end DevHarness.Scheduler
