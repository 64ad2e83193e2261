import DevHarness.Scheduler.EventIngestion
import DevHarness.Sequence.FirstMatch
import DevHarness.Sequence.Prefix

/-!
# The memory repository of execution events

The repository that the tests use.  A run follows the events of its external run by their
numbers, in whichever order and however often they are delivered.
-/

namespace DevHarness.Scheduler

open JsText Sequence

/-! ## Records -/

/-- What an event is checked against. -/
structure RunIdentity where
  id : JsString
  organizationId : JsString
  projectId : JsString
  goalId : JsString
  issueId : Option JsString
  externalRunId : JsString
  externalTaskId : JsString
  deriving DecidableEq

/-- `ExecutionRunProjection` as the port declares it. -/
structure RegisteredRun extends RunIdentity where
  status : RunStatus
  phase : JsString
  version : ℕ
  lastEventSequence : ℕ
  reconciliationRequired : Bool
  deriving DecidableEq

structure InboxRecord where
  event : RunEvent
  digest : JsString
  processingStatus : ProcessingStatus

structure RunOutboxEvent where
  eventType : JsString
  runId : JsString
  version : ℕ

inductive MemoryIngestResult
  | applied (run : RegisteredRun)
  | duplicate
  | gap (run : RegisteredRun)
  | terminalIgnored (run : RegisteredRun)
  | conflict (existingDigest : JsString)
  | runNotFound
  | identityMismatch

/-- `MemoryExecutionEventRepository`. -/
structure MemoryEventRepository where
  runs : List RegisteredRun
  inbox : List InboxRecord
  outbox : List RunOutboxEvent

def MemoryEventRepository.new (runs : List RegisteredRun) : MemoryEventRepository where
  runs := runs
  inbox := []
  outbox := []

def mappedStatus (platform : Platform) (event : RunEvent) : Option RunStatus :=
  targetStatus platform event

def RunStatus.name : RunStatus → String
  | .queued => "queued"
  | .running => "running"
  | .succeeded => "succeeded"
  | .failed => "failed"
  | .cancelled => "cancelled"

namespace RegisteredRun

variable (run : RegisteredRun)

def moveTo (status : RunStatus) (eventType : String) : RegisteredRun × List RunOutboxEvent :=
  ({ run with status := status, version := run.version + 1 },
    [{ eventType := js eventType, runId := run.id, version := run.version + 1 }])

def enter (nextStatus : RunStatus) : RegisteredRun × List RunOutboxEvent :=
  if nextStatus ≠ .running ∨ run.status = .queued then
    run.moveTo nextStatus
      (if nextStatus = .running then "run.started" else "run." ++ nextStatus.name)
  else
    run.moveTo nextStatus "run.started"

def follow (nextStatus : RunStatus) : RegisteredRun × List RunOutboxEvent :=
  if run.status = .queued ∧ nextStatus ≠ .running then
    let started := run.moveTo .running "run.started"
    let entered := started.1.enter nextStatus
    (entered.1, started.2 ++ entered.2)
  else
    run.enter nextStatus

def take (platform : Platform) (event : RunEvent) : RegisteredRun × List RunOutboxEvent :=
  let taken : RegisteredRun :=
    { run with phase := event.phase, lastEventSequence := event.sequence }
  if run.status.terminal then
    (taken, [])
  else
    match mappedStatus platform event with
    | some nextStatus =>
      if nextStatus = run.status then (taken, []) else taken.follow nextStatus
    | none => (taken, [])

end RegisteredRun

structure MemoryLoop where
  run : RegisteredRun
  inbox : List InboxRecord
  outbox : List RunOutboxEvent
  /-- `lastDisposition` is `terminal_ignored`. -/
  ignored : Bool

def MemoryLoop.isNext (loop : MemoryLoop) (candidate : InboxRecord) : Bool :=
  decide (candidate.event.externalRunId = loop.run.externalRunId) &&
    decide (candidate.event.sequence = loop.run.lastEventSequence + 1) &&
    candidate.processingStatus.open

def MemoryLoop.apply (platform : Platform) (loop : MemoryLoop) (next : InboxRecord) :
    MemoryLoop :=
  let taken := loop.run.take platform next.event
  let wasTerminal := loop.run.status.terminal
  { run := taken.1
    inbox := updateFirst loop.isNext (fun record =>
      { record with
        processingStatus := if wasTerminal then .terminalIgnored else .applied }) loop.inbox
    outbox := loop.outbox ++ taken.2
    ignored := wasTerminal }

def drainInbox (platform : Platform) : ℕ → MemoryLoop → MemoryLoop
  | 0, loop => loop
  | fuel + 1, loop =>
    match loop.inbox.find? loop.isNext with
    | none => loop
    | some next => drainInbox platform fuel (loop.apply platform next)

/-! ## `ingest` -/

namespace MemoryEventRepository

variable (repository : MemoryEventRepository)

def runOf (externalRunId : JsString) : Option RegisteredRun :=
  repository.runs.find? fun candidate => decide (candidate.externalRunId = externalRunId)

def write (run : RegisteredRun) : MemoryEventRepository :=
  { repository with
    runs := updateFirst (fun candidate => decide (candidate.externalRunId = run.externalRunId))
      (fun _ => run) repository.runs }

def matchesRun (run : RunIdentity) (event : RunEvent) : Bool :=
  decide (run.externalTaskId = event.externalTaskId) &&
    event.observability.all fun observed =>
      decide (observed.runId = some run.id) && decide (observed.goalId = some run.goalId) &&
        (decide (run.issueId = none) || decide (observed.issueId = run.issueId))

def push (input : IngestInput) (processingStatus : ProcessingStatus) : MemoryEventRepository :=
  { repository with
    inbox := repository.inbox ++
      [{ event := input.event, digest := input.digest, processingStatus := processingStatus }] }

/-- `reconciliationRequired` after the loop. -/
def waiting (run : RegisteredRun) (inbox : List InboxRecord) : Bool :=
  inbox.any fun candidate =>
    decide (candidate.event.externalRunId = run.externalRunId) &&
      decide (candidate.processingStatus = .gap) &&
      decide (run.lastEventSequence < candidate.event.sequence)

def applyPending (platform : Platform) (run : RegisteredRun) :
    MemoryIngestResult × MemoryEventRepository :=
  let loop := drainInbox platform repository.inbox.length
    { run := run, inbox := repository.inbox, outbox := repository.outbox, ignored := false }
  let settled : RegisteredRun :=
    { loop.run with reconciliationRequired := waiting loop.run loop.inbox }
  (if loop.ignored then .terminalIgnored settled else .applied settled,
    { repository with inbox := loop.inbox, outbox := loop.outbox }.write settled)

def ingest (platform : Platform) (input : IngestInput) :
    MemoryIngestResult × MemoryEventRepository :=
  match repository.inbox.find? fun record =>
      decide (record.event.sourceEventId = input.event.sourceEventId) with
  | some existing =>
    (if existing.digest = input.digest then .duplicate else .conflict existing.digest, repository)
  | none =>
    match repository.runOf input.event.externalRunId with
    | none => (.runNotFound, repository)
    | some run =>
      if matchesRun run.toRunIdentity input.event then
        if run.lastEventSequence + 1 < input.event.sequence then
          let flagged : RegisteredRun := { run with reconciliationRequired := true }
          (.gap flagged, (repository.push input .gap).write flagged)
        else if input.event.sequence ≤ run.lastEventSequence then
          (.terminalIgnored run, repository.push input .terminalIgnored)
        else
          (repository.push input .pending).applyPending platform run
      else
        (.identityMismatch, repository)

def deliver (platform : Platform) (deliveries : List IngestInput) : MemoryEventRepository :=
  deliveries.foldl (fun repository input => (repository.ingest platform input).2) repository

end MemoryEventRepository

end DevHarness.Scheduler
