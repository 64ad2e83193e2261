import DevHarness.Text.PyValue

/-!
# Queue documents

The YAML task queue: one mapping, whose `tasks` are mappings again.  A task is read and written
key by key, and what a key holds may be any value.
-/

namespace DevHarness.TaskQueue

open PyText

/-- What an operation raises, as far as its callers tell errors apart. -/
inductive QueueError
  | noReadyTask
  | inProgressExists
  | dependencyBlocked
  | taskNotFound
  | invalidTaskStatus
  | invalidQueue
  | leaseConflict
  | importInvalid
  | importConflict
  | importError
  | valueError
  | typeError
  | attributeError
  | overflowError
  | unicodeError
  deriving DecidableEq

/-- The errors that the queue declares: `TaskHarnessError` and its subclasses, and
`InvalidQueueError`. -/
def QueueError.typed : QueueError → Bool
  | .noReadyTask => true
  | .inProgressExists => true
  | .dependencyBlocked => true
  | .taskNotFound => true
  | .invalidTaskStatus => true
  | .invalidQueue => true
  | .leaseConflict => true
  | _ => false

inductive Field
  | id
  | title
  | status
  | priority
  | area
  | goal
  | dependencies
  | exclusiveResources
  | acceptance
  | acceptanceContract
  | verify
  | developmentPrompt
  | completionEvidence
  | expectedFiles
  | executionWave
  | preferredBuilder
  | modelRoute
  | source
  | artifacts
  | notes
  | owner
  | leaseToken
  | leaseAcquiredAt
  | leaseReleasedAt
  | revision
  | startedAt
  | finishedAt
  | completionMode
  | blockedReason
  | nextAction
  | autodevFailureCount
  | lastAutodevFailure
  | requiredGate
  | releasedFromOwner
  | approvedBy
  | approvedAt
  | createdAt
  | updatedAt
  deriving DecidableEq

/-- A task: the value under each of its keys. -/
@[ext]
structure Task where
  get? : Field → Option Value

namespace Task

variable {task : Task} {field other : Field} {value : Value}

/-- `task.get(key)`. -/
def get (task : Task) (field : Field) : Value :=
  (task.get? field).getD .none

/-- `task[key] = value`. -/
def set (task : Task) (field : Field) (value : Value) : Task :=
  ⟨fun other => if other = field then some value else task.get? other⟩

/-- `task.pop(key, None)`. -/
def pop (task : Task) (field : Field) : Task :=
  ⟨fun other => if other = field then none else task.get? other⟩

def ofEntries (entries : List (Field × Value)) : Task :=
  ⟨fun field => (entries.find? fun entry => decide (entry.1 = field)).map Prod.snd⟩

@[simp] theorem get?_set_self : (task.set field value).get? field = some value := if_pos rfl

@[simp] theorem get?_set_of_ne (h : other ≠ field) :
    (task.set field value).get? other = task.get? other := if_neg h

@[simp] theorem get?_pop_self : (task.pop field).get? field = none := if_pos rfl

@[simp] theorem get?_pop_of_ne (h : other ≠ field) :
    (task.pop field).get? other = task.get? other := if_neg h

@[simp] theorem get_set_of_ne (h : other ≠ field) :
    (task.set field value).get other = task.get other := by
  rw [get, get, get?_set_of_ne h]

/-- The identity of the task, `str(task.get("id", "")).strip()`. -/
def ownId (task : Task) : PyString :=
  strip ((task.get? .id).getD (.str [])).text

/-- `task.get("status") == status`. -/
def hasStatus (task : Task) (status : String) : Bool :=
  (task.get .status).isText (py status)

/-- `task.get("status") in TERMINAL_STATUSES`. -/
def isTerminal (task : Task) : Bool :=
  task.hasStatus "done" || task.hasStatus "skipped"

/-- `task.get("dependencies", []) or []`, item by item. -/
def dependencies? (task : Task) : Option (List Value) :=
  (((task.get? .dependencies).getD (.list [])).orElse (.list [])).iterate

/-- The dependencies as `str(dependency).strip()`.  The validator has rejected a task whose
dependencies cannot be iterated. -/
def dependencyIds (task : Task) : List PyString :=
  (task.dependencies?.getD []).map fun dependency => strip dependency.text

end Task

/-- The root mapping of a queue file.  Its `tasks` are a list of mappings: the validator rejects
any other. -/
structure Queue where
  schemaVersion : Option Value
  policy : Option Value
  tasks : List Task
  imports : Option Value

end DevHarness.TaskQueue
