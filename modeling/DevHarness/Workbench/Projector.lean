import DevHarness.Interleave.Exchange
import DevHarness.Workbench.Source

/-!
# The projector

The stored projections, and the runners that bring them up to date.  A runner reads the
stored state and the latest trigger of a scope, and unless the trigger is the one that it
has stored, loads the facts, builds a snapshot and publishes it.  The calls of one runner on
one scope wait for each other; calls of different runners do not.
-/

namespace DevHarness.Workbench

open JsText Interleave Program
open ControlPlane (Thrown plainError)

/-! ## Stored projections -/

/-- The rows of one scope in `workbench_snapshots`, `workbench_projection_checkpoints` and,
by rank, `workbench_tasks`; they are written together. -/
structure Projection where
  scope : WorkbenchProjectionScope
  cursor : Option WorkbenchProjectionCursor
  digest : JsString
  revision : ℕ
  generatedAt : ℤ
  summary : WorkbenchSummary
  tasks : List GlobalTask

abbrev ProjectionTable := Sql.Table Projection.scope

structure WorkbenchProjectionState where
  cursor : Option WorkbenchProjectionCursor
  digest : JsString
  revision : ℕ
  snapshot : WorkbenchSnapshot

def Projection.state (projection : Projection) : WorkbenchProjectionState where
  cursor := projection.cursor
  digest := projection.digest
  revision := projection.revision
  snapshot :=
    { revision := projection.revision
      generatedAt := projection.generatedAt
      summary := projection.summary
      tasks := projection.tasks }

structure PublishInput where
  scope : WorkbenchProjectionScope
  cursor : Option WorkbenchProjectionCursor
  digest : JsString
  snapshot : WorkbenchSnapshot

/-- `duplicate key value violates unique constraint`. -/
def uniqueViolation : Thrown where
  name := js "error"
  message := js "duplicate key value violates unique constraint"

def PublishInput.projection (input : PublishInput) (revision : ℕ) : Projection where
  scope := input.scope
  cursor := input.cursor
  digest := input.digest
  revision := revision
  generatedAt := input.snapshot.generatedAt
  summary := input.snapshot.summary
  tasks := input.snapshot.tasks

namespace ProjectionTable

variable (table : ProjectionTable)

def readState (scope : WorkbenchProjectionScope) : Option WorkbenchProjectionState :=
  (table.get scope).map Projection.state

/-- `INSERT … ON CONFLICT DO UPDATE`. -/
def put (projection : Projection) : ProjectionTable :=
  (table.updateWhere (fun row => row.scope = projection.scope)
    (fun row => { projection with scope := row.scope }) (fun _ => rfl)).insertNew projection

def advance (scope : WorkbenchProjectionScope) (cursor : Option WorkbenchProjectionCursor) :
    ProjectionTable :=
  table.updateWhere (fun row => row.scope = scope)
    (fun row => { row with cursor := cursor }) (fun _ => rfl)

/-- The transaction of `publish`, for the scope of a project that exists.  The task rows of
one scope have different ids. -/
def publish (input : PublishInput) : Except Thrown WorkbenchProjectionState × ProjectionTable :=
  let current := table.get input.scope
  if current.map (·.digest) = some input.digest then
    let next := ProjectionTable.advance table input.scope input.cursor
    match ProjectionTable.readState next input.scope with
    | some state => (.ok state, next)
    | none => (.error (plainError
        (js "Workbench projection disappeared after checkpoint update")), next)
  else if (input.snapshot.tasks.map (·.id)).Nodup then
    let revision := (current.map (·.revision)).getD 0 + 1
    (.ok (input.projection revision).state,
      ProjectionTable.put table (input.projection revision))
  else (.error uniqueViolation, table)

end ProjectionTable

/-! ## Commands -/

structure QueueKey where
  runner : ℕ
  scope : WorkbenchProjectionScope
  deriving DecidableEq

structure Ticket where
  key : QueueKey
  number : ℕ
  deriving DecidableEq

inductive ProjectionCommand
  | join (key : QueueKey)
  | turn (ticket : Ticket)
  | leave (ticket : Ticket)
  | readState (scope : WorkbenchProjectionScope)
  | latestTrigger (scope : WorkbenchProjectionScope)
  | loadFacts (scope : WorkbenchProjectionScope)
  | clock
  | publish (input : PublishInput)

def ProjectionCommand.Answer : ProjectionCommand → Type
  | .join _ => Ticket
  | .turn _ => Unit
  | .leave _ => Unit
  | .readState _ => Option WorkbenchProjectionState
  | .latestTrigger _ => Option WorkbenchProjectionCursor
  | .loadFacts _ => WorkbenchProjectionFacts
  | .clock => ℤ
  | .publish _ => WorkbenchProjectionState

/-- The database, and the queues of the runners. -/
structure ProjectorStore where
  tables : AuthoritativeTables
  projections : ProjectionTable
  queue : List Ticket
  tickets : ℕ

/-- What does not depend on the store: whether a statement fails, and the clock. -/
structure Outside where
  failure : Option Thrown
  clock : ℤ

def answering {α : Type} (outside : Outside) (store : ProjectorStore)
    (answer : Except Thrown α × ProjectorStore) : Except Thrown α × ProjectorStore :=
  match outside.failure with
  | some error => (.error error, store)
  | none => answer

def execProjection (outside : Outside) : (command : ProjectionCommand) → ProjectorStore →
    Option (Except Thrown command.Answer × ProjectorStore)
  | .join key, store =>
    let ticket : Ticket := ⟨key, store.tickets⟩
    some (.ok ticket,
      { store with queue := store.queue ++ [ticket], tickets := store.tickets + 1 })
  | .turn ticket, store =>
    if (store.queue.find? fun other => other.key = ticket.key) = some ticket then
      some (.ok (), store)
    else none
  | .leave ticket, store =>
    some (.ok (), { store with queue := store.queue.filter fun other => other ≠ ticket })
  | .readState scope, store =>
    some (answering outside store (.ok (ProjectionTable.readState store.projections scope), store))
  | .latestTrigger scope, store =>
    some (answering outside store (.ok (store.tables.latestTrigger scope), store))
  | .loadFacts scope, store =>
    some (answering outside store (.ok (store.tables.loadFacts scope), store))
  | .clock, store => some (.ok outside.clock, store)
  | .publish input, store =>
    let published := ProjectionTable.publish store.projections input
    some (answering outside store (published.1, { store with projections := published.2 }))

abbrev ProjectionProgram := Program ProjectionCommand ProjectionCommand.Answer Thrown

abbrev await (command : ProjectionCommand) : ProjectionProgram command.Answer :=
  request command

abbrev attempt {α : Type} (result : Except Thrown α) : ProjectionProgram α :=
  Program.done result

/-! ## Routines -/

structure ProjectCall where
  runner : ℕ
  scope : WorkbenchProjectionScope
  force : Bool
  /-- Which of its two reads is served first. -/
  triggerFirst : Bool

structure ProjectionReads where
  current : Option WorkbenchProjectionState
  cursor : Option WorkbenchProjectionCursor

/-- The reads of `Promise.all`. -/
def projectionReads (call : ProjectCall) : ProjectionProgram ProjectionReads :=
  if call.triggerFirst then do
    let cursor ← await (.latestTrigger call.scope)
    let current ← await (.readState call.scope)
    pure ⟨current, cursor⟩
  else do
    let current ← await (.readState call.scope)
    let cursor ← await (.latestTrigger call.scope)
    pure ⟨current, cursor⟩

def rebuild (runtime : Runtime) (scope : WorkbenchProjectionScope) (reads : ProjectionReads) :
    ProjectionProgram WorkbenchProjectionState := do
  let facts ← await (.loadFacts scope)
  let now ← await .clock
  let snapshot ← attempt (buildWorkbenchSnapshot runtime facts
    ((reads.current.map (·.revision)).getD 0 + 1) (workbenchFactsWatermark facts now))
  await (.publish
    { scope := scope
      cursor := reads.cursor
      digest := workbenchSemanticDigest runtime snapshot
      snapshot := snapshot })

def upToDate (call : ProjectCall) (reads : ProjectionReads) : Option WorkbenchProjectionState :=
  if call.force then none
  else reads.current.filter fun current => current.cursor = reads.cursor

def project (runtime : Runtime) (call : ProjectCall) :
    ProjectionProgram WorkbenchProjectionState := do
  let reads ← projectionReads call
  match upToDate call reads with
  | some current => pure current
  | none => rebuild runtime call.scope reads

def projectScope (runtime : Runtime) (call : ProjectCall) :
    ProjectionProgram WorkbenchProjectionState := do
  let ticket ← await (.join ⟨call.runner, call.scope⟩)
  let _ ← await (.turn ticket)
  (project runtime call).andFinally (await (.leave ticket))

def projectorSystem (runtime : Runtime) :
    System ProjectorStore ProjectionCommand ProjectionCommand.Answer Thrown ProjectCall
      WorkbenchProjectionState Outside AuthoritativeTables where
  program := projectScope runtime
  exec := execProjection
  environment := fun tables store => some { store with tables := tables }

def ProjectorStore.ofTables (tables : AuthoritativeTables) : ProjectorStore where
  tables := tables
  projections := Sql.Table.empty Projection.scope
  queue := []
  tickets := 0

abbrev ProjectorConfig :=
  Config ProjectorStore ProjectionCommand ProjectionCommand.Answer Thrown ProjectCall
    WorkbenchProjectionState AuthoritativeTables

abbrev ProjectorMoment :=
  Moment ProjectorStore ProjectionCommand ProjectionCommand.Answer Thrown ProjectCall
    WorkbenchProjectionState AuthoritativeTables

abbrev ProjectorEvent :=
  Event ProjectionCommand ProjectionCommand.Answer Thrown ProjectCall WorkbenchProjectionState
    AuthoritativeTables

abbrev ProjectorCondition :=
  ProjectorMoment → Attempt ProjectionCommand ProjectCall AuthoritativeTables → Prop

end DevHarness.Workbench
