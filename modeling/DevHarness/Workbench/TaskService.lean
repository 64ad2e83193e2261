import DevHarness.Interleave.Ending
import DevHarness.Workbench.TaskActions

/-!
# The task action service

A command is looked up under its task, replayed if its key has been used, and else accepted.
Deliveries, transitions of receipts and publishes of the projector interleave at every
statement; each transaction is atomic.
-/

namespace DevHarness.Workbench

open JsText Interleave Program
open ControlPlane (Thrown)

/-! ## Commands -/

structure TaskActionAuthorizationInput where
  actorId : JsString
  organizationId : JsString
  projectId : JsString
  action : TaskActionId

inductive TaskCommand
  | findTask (visibility : ActorVisibilityScope) (taskId : JsString)
  | authorize (input : TaskActionAuthorizationInput)
  | selectIdempotency (scope : TaskIdempotencyScope)
  | selectReceipt (id : Uuid)
  | idFactory
  | clock
  | accept (input : AcceptTaskActionInput)
  | transition (input : TransitionTaskReceiptInput)

def TaskCommand.Answer : TaskCommand → Type
  | .findTask _ _ => Option ScopedWorkbenchTask
  | .authorize _ => Unit
  | .selectIdempotency _ => Option TaskIdempotencyRecord
  | .selectReceipt _ => Option TaskReceipt
  | .idFactory => Uuid
  | .clock => ℤ
  | .accept _ => CommandReceipt
  | .transition _ => CommandReceipt

/-- How a statement may fail: before the database has done anything, or after it has
committed. -/
structure TaskFailure where
  error : Thrown
  committed : Bool

/-- What does not depend on the store. -/
structure TaskOutside where
  failure : Option TaskFailure
  id : Uuid
  clock : ℤ

def TaskOutside.answering {α : Type} (outside : TaskOutside) (store : TaskStore)
    (answer : Except TaskError α × TaskStore) : Except TaskError α × TaskStore :=
  match outside.failure with
  | some failure => (.error (.outside failure.error), if failure.committed then answer.2 else store)
  | none => answer

def execTask (scopeId : JsString) (outside : TaskOutside) : (command : TaskCommand) → TaskStore →
    Option (Except TaskError command.Answer × TaskStore)
  | .findTask visibility taskId, store =>
    some (outside.answering store (store.findTask scopeId visibility taskId, store))
  | .authorize _, store => some (outside.answering store (.ok (), store))
  | .selectIdempotency scope, store =>
    some (outside.answering store (.ok (store.idempotency.get scope), store))
  | .selectReceipt id, store => some (outside.answering store (.ok (store.receipts.get id), store))
  | .idFactory, store => some (.ok outside.id, store)
  | .clock, store => some (.ok outside.clock, store)
  | .accept input, store => some (outside.answering store (store.accept scopeId input))
  | .transition input, store => some (outside.answering store (store.transition input))

abbrev TaskProgram := Program TaskCommand TaskCommand.Answer TaskError

abbrev ask (command : TaskCommand) : TaskProgram command.Answer :=
  Program.request command

/-! ## Routines -/

/-- SHA-256 of a text, and the order of `localeCompare`. -/
structure TaskRuntime where
  sha256 : JsString → JsString
  before : JsString → JsString → Bool

structure TaskDelivery where
  taskId : JsString
  actorId : JsString
  visibility : ActorVisibilityScope
  requestId : JsString
  idempotencyKey : JsString
  body : Json
  deriving DecidableEq

def ExecuteTaskActionRequest.toJson (request : ExecuteTaskActionRequest) : Json :=
  .object ([(js "action", .string request.action.text),
      (js "expectedVersion", .number (.safeInteger request.expectedVersion.val (by
        have := request.expectedVersion.property
        omega)))] ++
    request.reason.toList.map (fun reason => (js "reason", .string reason)) ++
    request.input.toList.map fun input => (js "input", .object input))

/-- `digest({ taskId, actorId, request })`. -/
def requestHash (runtime : TaskRuntime) (delivery : TaskDelivery)
    (request : ExecuteTaskActionRequest) : JsString :=
  runtime.sha256 (canonicalJson runtime.before (.object
    [(js "taskId", .string delivery.taskId), (js "actorId", .string delivery.actorId),
      (js "request", request.toJson)]))

def resolveReplay (lookup : TaskIdempotencyLookup) (record : TaskIdempotencyRecord) :
    Except TaskError Uuid := do
  checked (record.requestHash = lookup.requestHash) idempotencyConflict
  checked (record.status = .completed && record.responseRef.isSome) stillBeingAccepted
  match record.responseRef.bind receiptUuid with
  | some id => .ok id
  | none => .error (.plain (js "Task action idempotency response reference is invalid"))

def findIdempotent (lookup : TaskIdempotencyLookup) : TaskProgram (Option CommandReceipt) := do
  let found : Option TaskIdempotencyRecord ← ask (.selectIdempotency lookup.scope)
  match found with
  | none => pure none
  | some record => do
    let id ← (Program.done (resolveReplay lookup record) : TaskProgram Uuid)
    let row : Option TaskReceipt ← ask (.selectReceipt id)
    match row with
    | none => throw receiptMissing
    | some row => pure (some (mapReceipt row))

/-- After a violation of a unique index the key is looked up once more. -/
def recover (input : AcceptTaskActionInput) (error : TaskError) : TaskProgram CommandReceipt :=
  if error = .database uniqueViolationCode then do
    let replayed : Option CommandReceipt ← findIdempotent ⟨input.scope, input.requestHash⟩
    match replayed with
    | some receipt => pure receipt
    | none => throw error
  else throw error

/-- `accept` of the repository. -/
def accept (input : AcceptTaskActionInput) : TaskProgram CommandReceipt :=
  (ask (.accept input)).handle (recover input)

/-- The checks of `submit` on what is delivered. -/
def checkDelivery (delivery : TaskDelivery) : Except TaskError ExecuteTaskActionRequest := do
  checked (isTaskId delivery.taskId) (validationFailed "Task ID is invalid")
  checked (8 ≤ delivery.idempotencyKey.length && delivery.idempotencyKey.length ≤ 200)
    (validationFailed "Idempotency-Key is required and bounded")
  parseTaskActionRequest delivery.body

/-- The checks of `submit` on the task that it has found. -/
def checkScoped (scopedTask : ScopedWorkbenchTask) (request : ExecuteTaskActionRequest) :
    Except TaskError Unit := do
  checked (scopedTask.task.version = request.expectedVersion.val)
    (versionConflict "Task version changed")
  checked (scopedTask.task.action.id = request.action && scopedTask.task.action.available)
    (invalidTransition "Action is not available for the current task state")

/-- Where `submit` looks a delivery up, under the task that it has found. -/
def TaskDelivery.scope (delivery : TaskDelivery) (organizationId : JsString) :
    TaskIdempotencyScope where
  organizationId := organizationId
  actorId := delivery.actorId
  endpoint := actionEndpoint delivery.taskId
  key := delivery.idempotencyKey

/-- What `submit` does once the key is known to be free. -/
def submitNew (delivery : TaskDelivery) (parsed : ExecuteTaskActionRequest)
    (scopedTask : ScopedWorkbenchTask) (hash : JsString) : TaskProgram CommandReceipt := do
  let _ ← (Program.done (checkScoped scopedTask parsed) : TaskProgram Unit)
  let receiptUuid : Uuid ← ask .idFactory
  let submittedAt : ℤ ← ask .clock
  accept
    { scopedTask := scopedTask
      actorId := delivery.actorId
      requestId := delivery.requestId
      idempotencyKey := delivery.idempotencyKey
      requestHash := hash
      request := parsed
      receiptUuid := receiptUuid
      submittedAt := submittedAt }

/-- What `submit` does under the task that it has found. -/
def submitOn (runtime : TaskRuntime) (delivery : TaskDelivery) (parsed : ExecuteTaskActionRequest)
    (scopedTask : ScopedWorkbenchTask) : TaskProgram CommandReceipt := do
  let _ ← ask (.authorize
    { actorId := delivery.actorId
      organizationId := scopedTask.organizationId
      projectId := scopedTask.projectId
      action := parsed.action })
  let hash := requestHash runtime delivery parsed
  let replay ← findIdempotent ⟨delivery.scope scopedTask.organizationId, hash⟩
  match replay with
  | some receipt => pure receipt
  | none => submitNew delivery parsed scopedTask hash

def submit (runtime : TaskRuntime) (delivery : TaskDelivery) : TaskProgram CommandReceipt := do
  let parsed ← (Program.done (checkDelivery delivery) : TaskProgram ExecuteTaskActionRequest)
  let found : Option ScopedWorkbenchTask ← ask (.findTask delivery.visibility delivery.taskId)
  match found with
  | none => throw (notFound "Task was not found")
  | some scopedTask => submitOn runtime delivery parsed scopedTask

def transitionReceipt (receiptId : JsString) (status : TaskReceiptUpdate)
    (taskVersion : Option ℤ) (error : Option Json) : TaskProgram CommandReceipt := do
  let occurredAt : ℤ ← ask .clock
  ask (.transition
    { receiptId := receiptId
      status := status
      occurredAt := occurredAt
      taskVersion := taskVersion
      error := error })

inductive TaskCall
  | submit (delivery : TaskDelivery)
  | transition (receiptId : JsString) (status : TaskReceiptUpdate) (taskVersion : Option ℤ)
      (error : Option Json)
  deriving DecidableEq

def TaskCall.program (runtime : TaskRuntime) : TaskCall → TaskProgram CommandReceipt
  | .submit delivery => Workbench.submit runtime delivery
  | .transition receiptId status taskVersion error =>
    transitionReceipt receiptId status taskVersion error

def taskSystem (runtime : TaskRuntime) (scopeId : JsString) :
    System TaskStore TaskCommand TaskCommand.Answer TaskError TaskCall CommandReceipt TaskOutside
      PublishInput where
  program := fun call => call.program runtime
  exec := execTask scopeId
  environment := fun input store => some
    { store with projections := (ProjectionTable.publish store.projections input).2 }

def TaskStore.ofProjections (projections : ProjectionTable) : TaskStore where
  projections := projections
  receipts := Sql.Indexed.empty _ _
  idempotency := Sql.Table.empty _

abbrev TaskConfig :=
  Config TaskStore TaskCommand TaskCommand.Answer TaskError TaskCall CommandReceipt PublishInput

abbrev TaskMoment :=
  Moment TaskStore TaskCommand TaskCommand.Answer TaskError TaskCall CommandReceipt PublishInput

abbrev TaskEvent :=
  Event TaskCommand TaskCommand.Answer TaskError TaskCall CommandReceipt PublishInput

abbrev TaskCondition := TaskMoment → Attempt TaskCommand TaskCall PublishInput → Prop

end DevHarness.Workbench
