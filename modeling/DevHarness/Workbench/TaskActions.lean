import DevHarness.ControlPlane.Repository
import DevHarness.Text.Stringify
import DevHarness.Workbench.ReadStore

/-!
# Commands on tasks

The request of a command, the receipts of the commands that have been accepted, and the
Postgres repository that writes them.
-/

namespace DevHarness.Workbench

open JsText
open ControlPlane (Thrown)
open ControlPlane.ControlStore (btrim)

inductive TaskActionErrorCode
  | validationFailed
  | forbidden
  | notFound
  | versionConflict
  | idempotencyConflict
  | invalidTransition
  deriving DecidableEq

/-- What a command on a task may throw; `outside` is what a party outside throws. -/
inductive TaskError
  | action (code : TaskActionErrorCode) (message : JsString)
  | plain (message : JsString)
  | database (code : JsString)
  | outside (error : Thrown)
  deriving DecidableEq

def uniqueViolationCode : JsString := js "23505"

def checkViolationCode : JsString := js "23514"

def checked (ok : Bool) (error : TaskError) : Except TaskError Unit :=
  if ok then .ok () else .error error

/-! ## Requests -/

abbrev SafeNat := { n : ℕ // n ≤ 9007199254740991 }

structure ExecuteTaskActionRequest where
  action : TaskActionId
  expectedVersion : SafeNat
  reason : Option JsString
  input : Option (List (JsString × Json))

def TaskActionId.text : TaskActionId → JsString
  | .reviewEvidence => js "review_evidence"
  | .answerQuestions => js "answer_questions"
  | .resolveBlocker => js "resolve_blocker"
  | .inspectSchedule => js "inspect_schedule"
  | .inspectRun => js "inspect_run"

def TaskActionId.all : List TaskActionId :=
  [.reviewEvidence, .answerQuestions, .resolveBlocker, .inspectSchedule, .inspectRun]

def TaskActionId.ofJson (value : Option Json) : Option TaskActionId :=
  TaskActionId.all.find? fun action => value.any fun value => value.isWord action.text

def TaskActionId.reasonRequired : TaskActionId → Bool
  | .reviewEvidence => true
  | .answerQuestions => true
  | .resolveBlocker => true
  | .inspectSchedule => false
  | .inspectRun => false

def validationFailed (message : String) : TaskError :=
  .action .validationFailed (js message)

/-- `String(input.decision)` may throw. -/
def decides (value : Json) : Except TaskError Bool :=
  match ControlPlane.allows ["approve", "request_changes", "reject"] value with
  | .ok allowed => .ok allowed
  | .error error => .error (.plain error.message)

def validateActionInput (action : TaskActionId) (input : List (JsString × Json)) :
    Except TaskError Unit :=
  let keys := input.map Prod.fst
  let source := Json.property input (js "source")
  match action with
  | .reviewEvidence => do
    let error := validationFailed "Evidence review input requires one valid decision"
    match keys, Json.property input (js "decision") with
    | [_], some decision => do checked (← decides decision) error
    | _, _ => .error error
  | .answerQuestions =>
    checked (keys.length = 1 && source.any fun value => value.isWord (js "workbench"))
      (validationFailed "Question action input requires source=workbench")
  | .resolveBlocker =>
    checked (keys ≠ [] && keys.all (fun key => key ∈ [js "source", js "resolution"]) &&
        source.all (fun value => value.isWord (js "workbench")) &&
        (Json.property input (js "resolution")).all fun value =>
          match value with
          | .string s => trim s ≠ [] && s.length ≤ 4000
          | _ => false)
      (validationFailed "Blocker input requires a bounded resolution or source=workbench")
  | _ => checked (keys = []) (validationFailed "Inspect actions do not accept input fields")

/-- `Number.isSafeInteger(value) && value >= 1`. -/
def positiveInteger : Option Json → Option SafeNat
  | some (.number (.safeInteger n bounded)) =>
    if 1 ≤ n then some ⟨n.toNat, by omega⟩ else none
  | _ => none

def boundedReason : Option Json → Bool
  | none => true
  | some (.string s) => (trim s).length ≤ 4000
  | some _ => false

def trimmedReason : Option Json → Option JsString
  | some (.string s) => some (trim s)
  | _ => none

def actionInput : Option Json → Except TaskError (Option (List (JsString × Json)))
  | none => .ok none
  | some (.object properties) => .ok (some properties)
  | some _ => .error (validationFailed "Action input must be an object")

def parseTaskActionRequest (value : Json) : Except TaskError ExecuteTaskActionRequest :=
  match value with
  | .object body => do
    checked (body.all fun property =>
        property.1 ∈ ["action", "expectedVersion", "reason", "input"].map js)
      (validationFailed "Task action has unknown fields")
    match TaskActionId.ofJson (Json.property body (js "action")),
        positiveInteger (Json.property body (js "expectedVersion")) with
    | some action, some expectedVersion => do
      let reason := Json.property body (js "reason")
      checked (boundedReason reason) (validationFailed "Reason must be a bounded string")
      let input ← actionInput (Json.property body (js "input"))
      checked (!action.reasonRequired || truthy (trimmedReason reason))
        (validationFailed "This action requires a reason")
      validateActionInput action (input.getD [])
      pure
        { action := action
          expectedVersion := expectedVersion
          reason := trimmedReason reason
          input := input }
    | _, _ => .error (validationFailed "Action and expectedVersion are required")
  | _ => .error (validationFailed "Task action body must be an object")

/-- `/^[A-Za-z0-9][A-Za-z0-9_.:-]{0,127}$/`. -/
def isTaskId : JsString → Bool
  | [] => false
  | u :: rest => isLetterOrDigit u && rest.length ≤ 127 &&
    rest.all fun u => isLetterOrDigit u || u ∈ js "_.:-"

/-! ## Receipts -/

/-- The units of a UUID as Postgres prints it, of a version and a variant that the pattern
of a receipt admits. -/
def isUuid (text : JsString) : Bool :=
  text.length = 36 && text.zipIdx.all fun (u, i) =>
    if i ∈ [8, 13, 18, 23] then u = 0x2D
    else if i = 14 then u ∈ js "12345"
    else if i = 19 then u ∈ js "89ab"
    else u ∈ js "0123456789abcdef"

structure Uuid where
  text : JsString
  valid : isUuid text = true
  deriving DecidableEq

inductive TaskReceiptStatus
  | accepted
  | running
  | completed
  | failed
  deriving DecidableEq

/-- The unique index of `task_action_receipts`. -/
structure TaskCommandKey where
  organizationId : JsString
  actorId : JsString
  taskId : JsString
  idempotencyKey : JsString
  deriving DecidableEq

structure TaskReceipt where
  id : Uuid
  command : TaskCommandKey
  projectId : JsString
  goalId : JsString
  requestHash : JsString
  requestId : JsString
  action : TaskActionId
  reason : JsString
  input : List (JsString × Json)
  status : TaskReceiptStatus
  taskVersion : ℕ
  resultTaskVersion : Option ℤ
  error : Option Json
  version : ℕ
  completedAt : Option ℤ
  createdAt : ℤ
  updatedAt : ℤ

structure CommandReceipt where
  receiptId : JsString
  requestId : JsString
  status : TaskReceiptStatus
  taskId : JsString
  taskVersion : ℤ
  submittedAt : ℤ
  statusUrl : JsString
  completedAt : Option ℤ
  error : Option Json

def exposedReceiptId (id : Uuid) : JsString := js "rcpt_" ++ id.text

/-- The pattern has the flag `i`, and Postgres prints a UUID in lower case. -/
def receiptUuid (value : JsString) : Option Uuid :=
  let folded := value.map foldCase
  if folded.take 5 = js "rcpt_" then
    if h : isUuid (folded.drop 5) = true then some ⟨folded.drop 5, h⟩ else none
  else none

def mapReceipt (row : TaskReceipt) : CommandReceipt where
  receiptId := exposedReceiptId row.id
  requestId := row.requestId
  status := row.status
  taskId := row.command.taskId
  taskVersion := row.resultTaskVersion.getD row.taskVersion
  submittedAt := row.createdAt
  statusUrl := js "/api/v1/receipts/" ++ exposedReceiptId row.id
  completedAt := row.completedAt
  error := row.error

/-- `char_length(btrim(text)) BETWEEN minimum AND maximum`. -/
def lengthBetween (minimum maximum : ℕ) (text : JsString) : Bool :=
  minimum ≤ (codePoints (btrim text)).length && (codePoints (btrim text)).length ≤ maximum

/-- The checks of `task_action_receipts`. -/
def TaskReceipt.allowed (row : TaskReceipt) : Bool :=
  lengthBetween 1 128 row.command.taskId && lengthBetween 1 128 row.goalId &&
    lengthBetween 1 200 row.command.actorId && lengthBetween 8 200 row.command.idempotencyKey &&
    (row.requestHash.length = 64 && row.requestHash.all fun u => u ∈ js "0123456789abcdef") &&
    lengthBetween 1 200 row.requestId && lengthBetween 1 4000 row.reason &&
    (0 < row.taskVersion && 0 < row.version &&
      row.resultTaskVersion.all fun version => (row.taskVersion : ℤ) ≤ version) &&
    (row.completedAt.isSome = (row.status = .completed || row.status = .failed)) &&
    (row.status = .failed || row.error.isNone) && row.createdAt ≤ row.updatedAt

inductive IdempotencyStatus
  | inProgress
  | completed
  | failed
  deriving DecidableEq

structure TaskIdempotencyScope where
  organizationId : JsString
  actorId : JsString
  endpoint : JsString
  key : JsString
  deriving DecidableEq

structure TaskIdempotencyRecord where
  scope : TaskIdempotencyScope
  requestHash : JsString
  status : IdempotencyStatus
  responseRef : Option JsString

/-! ## The repository -/

structure ScopedWorkbenchTask where
  organizationId : JsString
  projectId : JsString
  task : GlobalTask

/-- The projected tasks, the receipts and the idempotency records of this endpoint. -/
structure TaskStore where
  projections : ProjectionTable
  receipts : Sql.Indexed TaskReceipt.id TaskReceipt.command
  idempotency : Sql.Table TaskIdempotencyRecord.scope

/-- Where a lookup of a key looks, and for which request. -/
structure TaskIdempotencyLookup where
  scope : TaskIdempotencyScope
  requestHash : JsString

structure AcceptTaskActionInput where
  scopedTask : ScopedWorkbenchTask
  actorId : JsString
  requestId : JsString
  idempotencyKey : JsString
  requestHash : JsString
  request : ExecuteTaskActionRequest
  receiptUuid : Uuid
  submittedAt : ℤ

inductive TaskReceiptUpdate
  | running
  | completed
  | failed
  deriving DecidableEq

structure TransitionTaskReceiptInput where
  receiptId : JsString
  status : TaskReceiptUpdate
  occurredAt : ℤ
  taskVersion : Option ℤ
  error : Option Json

def TaskReceiptUpdate.status : TaskReceiptUpdate → TaskReceiptStatus
  | .running => .running
  | .completed => .completed
  | .failed => .failed

def actionEndpoint (taskId : JsString) : JsString :=
  js "/api/v1/tasks/" ++ taskId ++ js "/actions"

def notFound (message : String) : TaskError :=
  .action .notFound (js message)

def versionConflict (message : String) : TaskError :=
  .action .versionConflict (js message)

def invalidTransition (message : String) : TaskError :=
  .action .invalidTransition (js message)

def idempotencyConflict : TaskError :=
  .action .idempotencyConflict (js "Idempotency key is already used by another task command")

def stillBeingAccepted : TaskError :=
  invalidTransition "The first task command is still being accepted"

def receiptMissing : TaskError :=
  .plain (js "Task action receipt is missing")

/-- The rows of `workbench_tasks` that an actor sees under an id. -/
def visibleTasks (scopeId : JsString) (visibility : ActorVisibilityScope) (taskId : JsString)
    (table : ProjectionTable) : List ScopedWorkbenchTask :=
  (visibleSnapshots scopeId visibility table).flatMap fun snapshot =>
    (snapshot.tasks.filter fun task => task.id = taskId).map fun task =>
      ⟨snapshot.scope.organizationId, snapshot.scope.projectId, task⟩

namespace TaskStore

variable (store : TaskStore)

def findTask (scopeId : JsString) (visibility : ActorVisibilityScope) (taskId : JsString) :
    Except TaskError (Option ScopedWorkbenchTask) :=
  match visibleTasks scopeId visibility taskId store.projections with
  | [] => .ok none
  | [task] => .ok (some task)
  | _ => .error (validationFailed "Task ID is ambiguous in the visible scope")

/-- What a transaction answers to a key that is taken; none where it is not. -/
def replayed (scope : TaskIdempotencyScope) (requestHash : JsString) :
    Option (Except TaskError CommandReceipt) :=
  (store.idempotency.get scope).map fun record =>
    if record.requestHash ≠ requestHash then .error idempotencyConflict
    else
      match record.responseRef.bind receiptUuid with
      | none => .error stillBeingAccepted
      | some id =>
        match store.receipts.get id with
        | none => .error receiptMissing
        | some row => .ok (mapReceipt row)

/-- `SELECT payload FROM workbench_tasks … FOR UPDATE`. -/
def lockedTask (scopeId : JsString) (scopedTask : ScopedWorkbenchTask) : Option GlobalTask :=
  (store.projections.get ⟨scopeId, scopedTask.organizationId, scopedTask.projectId⟩).bind
    fun projection => projection.tasks.find? fun task => task.id = scopedTask.task.id

def versionClaimed (scopedTask : ScopedWorkbenchTask) (task : GlobalTask) : Bool :=
  store.receipts.rows.any fun row => row.command.organizationId = scopedTask.organizationId &&
    row.projectId = scopedTask.projectId && row.command.taskId = task.id &&
    row.taskVersion = task.version && row.status ≠ .failed

def acceptedReceipt (input : AcceptTaskActionInput) (task : GlobalTask) : TaskReceipt where
  id := input.receiptUuid
  command :=
    { organizationId := input.scopedTask.organizationId
      actorId := input.actorId
      taskId := task.id
      idempotencyKey := input.idempotencyKey }
  projectId := input.scopedTask.projectId
  goalId := task.goalId
  requestHash := input.requestHash
  requestId := input.requestId
  action := input.request.action
  reason :=
    let reason := trim (input.request.reason.getD [])
    if reason = [] then js "Requested from the workbench" else reason
  input := input.request.input.getD []
  status := .accepted
  taskVersion := task.version
  resultTaskVersion := none
  error := none
  version := 1
  completedAt := none
  createdAt := input.submittedAt
  updatedAt := input.submittedAt

/-- `INSERT INTO task_action_receipts`. -/
def insertReceipt (row : TaskReceipt) : Except TaskError TaskStore :=
  if row.allowed = false then .error (.database checkViolationCode)
  else
    match store.receipts.insert row with
    | some receipts => .ok { store with receipts := receipts }
    | none => .error (.database uniqueViolationCode)

end TaskStore

def AcceptTaskActionInput.scope (input : AcceptTaskActionInput) : TaskIdempotencyScope where
  organizationId := input.scopedTask.organizationId
  actorId := input.actorId
  endpoint := actionEndpoint input.scopedTask.task.id
  key := input.idempotencyKey

namespace TaskStore

variable (store : TaskStore)

/-- The checks of `accept` on the locked task. -/
def checkTask (input : AcceptTaskActionInput) (task : GlobalTask) : Except TaskError Unit := do
  checked (task.version = input.request.expectedVersion.val) (versionConflict "Task version changed")
  checked (task.action.id = input.request.action && task.action.available)
    (invalidTransition "Action is not available for the current task state")
  checked (!store.versionClaimed input.scopedTask task)
    (versionConflict "Another command already owns this task version")

/-- The rows that `accept` writes. -/
def record (input : AcceptTaskActionInput) (task : GlobalTask) :
    Except TaskError (CommandReceipt × TaskStore) := do
  store.checkTask input task
  let row := acceptedReceipt input task
  let inserted ← store.insertReceipt row
  let receipt := mapReceipt row
  pure (receipt,
    { inserted with
      idempotency := inserted.idempotency.insertNew
        { scope := input.scope
          requestHash := input.requestHash
          status := .completed
          responseRef := some receipt.receiptId } })

/-- The transaction of `accept`.  The key is looked up again once the task is locked. -/
def accept (scopeId : JsString) (input : AcceptTaskActionInput) :
    Except TaskError CommandReceipt × TaskStore :=
  match store.replayed input.scope input.requestHash with
  | some answer => (answer, store)
  | none =>
    match store.lockedTask scopeId input.scopedTask with
    | none => (.error (notFound "Task was not found"), store)
    | some task =>
      match store.replayed input.scope input.requestHash with
      | some answer => (answer, store)
      | none =>
        match store.record input task with
        | .ok (receipt, next) => (.ok receipt, next)
        | .error error => (.error error, store)

def transitioned (input : TransitionTaskReceiptInput) (row : TaskReceipt) : TaskReceipt :=
  { row with
    status := input.status.status
    resultTaskVersion := input.taskVersion.or row.resultTaskVersion
    error :=
      if input.status = .failed then
        some (input.error.getD (.object [(js "code", .string (js "command_failed"))]))
      else none
    completedAt := if input.status = .running then none else some input.occurredAt
    version := row.version + 1
    updatedAt := input.occurredAt }

def checkTransition (input : TransitionTaskReceiptInput) (row : TaskReceipt) :
    Except TaskError Unit := do
  checked (row.status ≠ .completed && row.status ≠ .failed)
    (invalidTransition "Receipt is already terminal")
  checked ((row.status = .accepted || (row.status = .running && input.status ≠ .running)) &&
      !(input.status = .running && row.status ≠ .accepted))
    (invalidTransition "Receipt transition is not allowed")
  checked (transitioned input row).allowed (.database checkViolationCode)

/-- `transitionReceipt`. -/
def transition (input : TransitionTaskReceiptInput) : Except TaskError CommandReceipt × TaskStore :=
  match receiptUuid input.receiptId with
  | none => (.error (notFound "Receipt was not found"), store)
  | some id =>
    match store.receipts.get id with
    | none => (.error (notFound "Receipt was not found"), store)
    | some row =>
      match checkTransition input row with
      | .error error => (.error error, store)
      | .ok () => (.ok (mapReceipt (transitioned input row)),
          { store with
            receipts := store.receipts.update id (transitioned input) (fun _ => rfl)
              (fun _ => rfl) })

end TaskStore

end DevHarness.Workbench
