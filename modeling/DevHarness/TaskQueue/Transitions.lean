import DevHarness.Sequence.FirstMatch
import DevHarness.TaskQueue.Readiness

/-!
# The transitions of a task

The operations of the queue.  Each one reads the document, changes it, and writes it, all under
one lock; where anything is raised, nothing is written.
-/

namespace DevHarness.TaskQueue

open PyText Sequence

/-- `_read_queue_unlocked`. -/
def readQueue (queue : Queue) : Except QueueError Queue := do
  validateQueue queue
  .ok { queue with
        schemaVersion := some (queue.schemaVersion.getD (.int 1))
        policy := some (queue.policy.getD (.dict [])) }

/-- `_mutate_queue`: the document to write, and the result. -/
def mutateQueue {α : Type} (queue : Queue) (mutate : Queue → Except QueueError (Queue × α)) :
    Except QueueError (Queue × α) := do
  let loaded ← readQueue queue
  let mutated ← mutate loaded
  validateQueue mutated.1
  .ok mutated

/-- The task is written where it stands; the validator keeps identities apart. -/
def Queue.put (queue : Queue) (task : Task) : Queue :=
  { queue with
    tasks := updateFirst (fun other => decide (other.ownId = task.ownId)) (fun _ => task)
      queue.tasks }

/-- `tasks.append(task)`. -/
def Queue.append (queue : Queue) (task : Task) : Queue :=
  { queue with tasks := queue.tasks ++ [task] }

/-- What an operation takes from outside: one reading of the clock stands for those it makes. -/
structure Outside where
  now : PyString
  freshToken : PyString

/-- `text or default`. -/
def orText (text default : PyString) : PyString :=
  if text = [] then default else text

def textList (texts : List PyString) : Value :=
  .list (texts.map Value.str)

/-! ## Parts of a task -/

def noteEntry (now note : PyString) : Value :=
  .dict [(.str (py "at"), .str now), (.str (py "text"), .str note)]

/-- `task.setdefault(key, []).extend(items)`. -/
def extendList (field : Field) (items : List Value) (task : Task) : Except QueueError Task :=
  match (task.get? field).getD (.list []) with
  | .list present => .ok (task.set field (.list (present ++ items)))
  | _ => .error .attributeError

def appendNote (now note : PyString) (task : Task) : Except QueueError Task :=
  if note = [] then .ok task else extendList .notes [noteEntry now note] task

def taskRevision (task : Task) : Except QueueError ℤ :=
  match (task.get? .revision).getD (.int 0) with
  | .int n => if n < 0 then .error .invalidQueue else .ok n
  | _ => .error .invalidQueue

def bumpRevision (task : Task) : Except QueueError Task := do
  let revision ← taskRevision task
  .ok (task.set .revision (.int (revision + 1)))

def releaseLease (now : PyString) (task : Task) : Task :=
  (task.pop .leaseToken).set .leaseReleasedAt (.str now)

/-- What a worker says of its claim. -/
structure ExpectedLease where
  owner : PyString
  leaseToken : PyString
  revision : Option ℤ

/-- `str(task.get(key) or "")`. -/
def Task.textOf (task : Task) (field : Field) : PyString :=
  ((task.get field).orElse (.str [])).text

def requireActiveLease (expected : ExpectedLease) (task : Task) : Except QueueError Unit := do
  require (task.hasStatus "in_progress") .leaseConflict
  require (task.textOf .leaseToken ≠ []) .leaseConflict
  require (expected.owner ≠ [] && expected.leaseToken ≠ [] && expected.revision.isSome)
    .leaseConflict
  require (task.textOf .owner = expected.owner) .leaseConflict
  require (task.textOf .leaseToken = expected.leaseToken) .leaseConflict
  let revision ← taskRevision task
  require (some revision = expected.revision) .leaseConflict

/-- A forced reconciliation is checked by `forced` alone. -/
def checkLease (forceReconcile : Bool) (expected : ExpectedLease)
    (forced : Except QueueError Unit) (task : Task) : Except QueueError Unit :=
  if forceReconcile then forced else requireActiveLease expected task

/-! ## Claiming -/

structure ClaimCall where
  taskId : PyString
  owner : PyString
  note : PyString
  resumeBlocked : Bool
  leaseToken : PyString

def checkNotActive (queue : Queue) (taskId : PyString) : Except QueueError Unit :=
  if taskId = [] then .ok ()
  else do
    let existing ← taskById queue taskId
    require (!existing.hasStatus "in_progress") .inProgressExists

def chooseTask (queue : Queue) (taskId : PyString) : Except QueueError Task :=
  if taskId = [] then do
    let next ← nextTask queue
    next.elim (.error .noReadyTask) .ok
  else taskById queue taskId

/-- A blocked task is made pending first, where the caller asks for it. -/
def resumeForClaim (now : PyString) (call : ClaimCall) (task : Task) : Except QueueError Task :=
  if task.hasStatus "blocked" && call.resumeBlocked then
    appendNote now (py "resume blocked task for claim")
      (((task.set .status (.str (py "pending"))).set .blockedReason (.str [])).set .nextAction
        (.str []))
  else .ok task

def leaseTask (outside : Outside) (call : ClaimCall) (task : Task) : Except QueueError Task := do
  let task ← bumpRevision
    ((((task.set .status (.str (py "in_progress"))).set .owner
      (.str (orText call.owner (py "autodev")))).set .leaseToken
        (.str (orText call.leaseToken outside.freshToken))).set .leaseAcquiredAt (.str outside.now))
  appendNote outside.now (orText call.note (call.owner ++ py " claimed task"))
    ((task.set .startedAt ((task.get .startedAt).orElse (.str outside.now))).set .updatedAt
      (.str outside.now))

/-- `claim_task`.  A task that is resumed here is terminal neither before nor after, so the
readiness of the dependencies may be read off the queue as it was. -/
def claimTask (outside : Outside) (call : ClaimCall) (queue : Queue) :
    Except QueueError (Queue × Task) :=
  mutateQueue queue fun queue => do
    checkNotActive queue call.taskId
    let limit ← maxInProgress queue
    require (decide ((inProgress queue).length < limit)) .inProgressExists
    let task ← chooseTask queue call.taskId
    let task ← resumeForClaim outside.now call task
    require (task.hasStatus "pending") .invalidTaskStatus
    require (depsReady queue task) .dependencyBlocked
    let task ← leaseTask outside call task
    .ok (queue.put task, task)

/-! ## Finishing a claim -/

structure CompleteCall where
  taskId : PyString
  note : PyString
  artifacts : List PyString
  expected : ExpectedLease
  forceReconcile : Bool
  reviewPassed : Bool

def Task.isOpen (task : Task) : Bool :=
  task.hasStatus "in_progress" || task.hasStatus "pending" || task.hasStatus "blocked"

def clearFailures (task : Task) : Task :=
  ((task.pop .requiredGate).set .autodevFailureCount (.int 0)).pop .lastAutodevFailure

def appendArtifacts (artifacts : List PyString) (task : Task) : Except QueueError Task :=
  if artifacts = [] then .ok task
  else extendList .artifacts (artifacts.map Value.str) task

def finishTask (outside : Outside) (call : CompleteCall) (task : Task) :
    Except QueueError Task := do
  let task ← bumpRevision
    ((task.set .status (.str (py "done"))).set .completionMode
      (.str (if call.forceReconcile then py "manual_reconcile" else py "autodev_reviewed")))
  let task := (((((releaseLease outside.now task).set .finishedAt (.str outside.now)).set
    .updatedAt (.str outside.now)).set .blockedReason (.str [])).set .nextAction (.str []))
  let task ← appendArtifacts call.artifacts
    (if call.forceReconcile then task else clearFailures task)
  appendNote outside.now (orText call.note (py "done")) task

def completeTask (outside : Outside) (call : CompleteCall) (queue : Queue) :
    Except QueueError (Queue × Task) :=
  mutateQueue queue fun queue => do
    let task ← taskById queue call.taskId
    require (!(task.get .requiredGate).isText independentReviewGate || call.reviewPassed)
      .invalidTaskStatus
    checkLease call.forceReconcile call.expected (require task.isOpen .invalidTaskStatus) task
    require task.isOpen .invalidTaskStatus
    let task ← finishTask outside call task
    .ok (queue.put task, task)

structure ReleaseCall where
  taskId : PyString
  note : PyString
  expected : ExpectedLease

def returnTask (outside : Outside) (call : ReleaseCall) (task : Task) :
    Except QueueError Task := do
  let previousOwner := task.textOf .owner
  let task ← bumpRevision (task.set .status (.str (py "pending")))
  appendNote outside.now (orText call.note (py "claim released without task failure"))
    ((((releaseLease outside.now task).set .releasedFromOwner (.str previousOwner)).set .owner
      (.str [])).set .updatedAt (.str outside.now))

def releaseTask (outside : Outside) (call : ReleaseCall) (queue : Queue) :
    Except QueueError (Queue × Task) :=
  mutateQueue queue fun queue => do
    let task ← taskById queue call.taskId
    requireActiveLease call.expected task
    let task ← returnTask outside call task
    .ok (queue.put task, task)

structure BlockCall where
  taskId : PyString
  reason : PyString
  nextAction : PyString
  expected : ExpectedLease
  forceReconcile : Bool
  failureStatus : PyString
  failureRunId : PyString

def reviewGatedFailureStatuses : List PyString :=
  ["review_red", "review_blocked", "safety_policy_red", "queue_contract_red", "landing_review_red",
    "landing_safety_policy_red"].map py

/-- `int(task.get("autodev_failure_count") or 0)`, which the validator has checked. -/
def Task.failureCount (task : Task) : ℤ :=
  (task.get .autodevFailureCount).int?.getD 0

def recordFailure (outside : Outside) (call : BlockCall) (task : Task) : Task :=
  if call.failureStatus = [] then task
  else
    let count : Value := .int (task.failureCount + 1)
    let runId : List (Value × Value) :=
      if call.failureRunId = [] then [] else [(.str (py "run_id"), .str call.failureRunId)]
    let task := (task.set .autodevFailureCount count).set .lastAutodevFailure
      (.dict ([(.str (py "status"), .str call.failureStatus), (.str (py "at"), .str outside.now),
        (.str (py "count"), count)] ++ runId))
    if call.failureStatus ∈ reviewGatedFailureStatuses then
      task.set .requiredGate (.str independentReviewGate)
    else task

def blockedTask (outside : Outside) (call : BlockCall) (task : Task) : Except QueueError Task := do
  let task ← bumpRevision (task.set .status (.str (py "blocked")))
  let task := ((releaseLease outside.now task).set .blockedReason (.str call.reason)).set
    .nextAction (.str call.nextAction)
  appendNote outside.now (py "blocked: " ++ call.reason)
    ((recordFailure outside call task).set .updatedAt (.str outside.now))

def blockTask (outside : Outside) (call : BlockCall) (queue : Queue) :
    Except QueueError (Queue × Task) :=
  mutateQueue queue fun queue => do
    let task ← taskById queue call.taskId
    require (!task.isTerminal) .invalidTaskStatus
    require (!task.hasStatus "proposed") .invalidTaskStatus
    checkLease call.forceReconcile call.expected (.ok ()) task
    let task ← blockedTask outside call task
    .ok (queue.put task, task)

/-! ## Other transitions -/

structure ResumeCall where
  taskId : PyString
  note : PyString
  resetFailureBudget : Bool

def resumedTask (outside : Outside) (call : ResumeCall) (task : Task) : Except QueueError Task := do
  let task ← bumpRevision (task.set .status (.str (py "pending")))
  let task := ((releaseLease outside.now task).set .blockedReason (.str [])).set .nextAction
    (.str [])
  let task :=
    if call.resetFailureBudget then
      (task.set .autodevFailureCount (.int 0)).pop .lastAutodevFailure
    else task
  let note := orText call.note (py "resumed blocked task")
  appendNote outside.now
    (if call.resetFailureBudget then note ++ py " [failure budget reset by human]" else note)
    (task.set .updatedAt (.str outside.now))

def resumeTask (outside : Outside) (call : ResumeCall) (queue : Queue) :
    Except QueueError (Queue × Task) :=
  mutateQueue queue fun queue => do
    let task ← taskById queue call.taskId
    require (task.hasStatus "blocked") .invalidTaskStatus
    require (depsReady queue task) .dependencyBlocked
    let task ← resumedTask outside call task
    .ok (queue.put task, task)

structure SkipCall where
  taskId : PyString
  reason : PyString

def skippedTask (outside : Outside) (call : SkipCall) (task : Task) : Except QueueError Task := do
  let task ← bumpRevision (task.set .status (.str (py "skipped")))
  appendNote outside.now (py "skipped: " ++ call.reason)
    (((releaseLease outside.now task).set .finishedAt (.str outside.now)).set .updatedAt
      (.str outside.now))

def skipTask (outside : Outside) (call : SkipCall) (queue : Queue) :
    Except QueueError (Queue × Task) :=
  mutateQueue queue fun queue => do
    let task ← taskById queue call.taskId
    require (!task.hasStatus "done") .invalidTaskStatus
    let task ← skippedTask outside call task
    .ok (queue.put task, task)

structure ApproveCall where
  taskId : PyString
  approver : PyString
  note : PyString

def approvedTask (outside : Outside) (call : ApproveCall) (task : Task) :
    Except QueueError Task := do
  let task ← bumpRevision (task.set .status (.str (py "pending")))
  appendNote outside.now (orText call.note (py "approved by " ++ call.approver))
    (((task.set .approvedBy (.str call.approver)).set .approvedAt (.str outside.now)).set
      .updatedAt (.str outside.now))

def approveTask (outside : Outside) (call : ApproveCall) (queue : Queue) :
    Except QueueError (Queue × Task) :=
  mutateQueue queue fun queue => do
    let task ← taskById queue call.taskId
    require (task.hasStatus "proposed") .invalidTaskStatus
    let task ← approvedTask outside call task
    .ok (queue.put task, task)

/-! ## New tasks -/

/-- The number in an identifier `H-…`. -/
def hNumber (rawId : PyString) : Option ℤ :=
  match rawId with
  | 0x48 :: 0x2D :: rest => parseInt rest
  | _ => none

/-- The loop of `_next_task_id`, and of `allocate_task_ids`: the largest number among the
identifiers. -/
def maxNumber (rawIds : List PyString) : ℕ :=
  rawIds.foldl (fun maximum rawId => max maximum ((hNumber rawId).getD 0).toNat) 0

/-- `f"H-{number:03d}"`. -/
def numberedId (number : ℕ) : PyString :=
  py "H-" ++ padded 3 number

def nextTaskId (queue : Queue) : PyString :=
  numberedId (maxNumber (queue.tasks.map fun task => task.readId.text) + 1)

/-- `PRIORITY_ORDER`. -/
def priorities : List PyString :=
  ["P0", "P1", "P2", "P3"].map py

structure AddCall where
  title : PyString
  priority : PyString
  area : PyString
  goal : PyString
  acceptance : List PyString
  verify : List PyString
  dependencies : List PyString

def addedTask (outside : Outside) (call : AddCall) (taskId : PyString) : Task :=
  .ofEntries
    [(.id, .str taskId), (.title, .str call.title), (.status, .str (py "pending")),
      (.priority, .str call.priority), (.area, .str call.area), (.goal, .str call.goal),
      (.dependencies, textList call.dependencies), (.acceptance, textList call.acceptance),
      (.verify, textList call.verify), (.artifacts, .list []), (.notes, .list []),
      (.createdAt, .str outside.now), (.updatedAt, .str outside.now)]

def addTask (outside : Outside) (call : AddCall) (queue : Queue) :
    Except QueueError (Queue × Task) := do
  require (call.priority ∈ priorities) .valueError
  mutateQueue queue fun queue =>
    let task := addedTask outside call (nextTaskId queue)
    .ok (queue.append task, task)

structure ProposeCall where
  title : PyString
  goal : PyString
  acceptance : List PyString
  verify : List PyString
  sourceRefs : List PyString
  priority : PyString
  area : PyString
  proposedBy : PyString
  dependencies : List PyString

def ProposeCall.cleanedSources (call : ProposeCall) : List PyString :=
  (call.sourceRefs.map strip).filter fun source => source ≠ []

def proposedTask (outside : Outside) (call : ProposeCall) (taskId : PyString) : Task :=
  .ofEntries
    [(.id, .str taskId), (.title, .str call.title), (.status, .str (py "proposed")),
      (.priority, .str call.priority), (.area, .str call.area), (.goal, .str call.goal),
      (.dependencies, textList call.dependencies), (.acceptance, textList call.acceptance),
      (.verify, textList call.verify),
      (.source, .dict [(.str (py "proposed_by"), .str call.proposedBy),
        (.str (py "refs"), textList call.cleanedSources)]),
      (.artifacts, .list []),
      (.notes, .list [noteEntry outside.now (py "proposed; 未批准，不会自动开发")]),
      (.createdAt, .str outside.now), (.updatedAt, .str outside.now)]

def proposeTask (outside : Outside) (call : ProposeCall) (queue : Queue) :
    Except QueueError (Queue × Task) := do
  require (call.priority ∈ priorities) .valueError
  require (call.cleanedSources ≠ []) .valueError
  require (strip call.goal ≠ []) .valueError
  mutateQueue queue fun queue =>
    let task := proposedTask outside call (nextTaskId queue)
    .ok (queue.append task, task)

end DevHarness.TaskQueue
