import DevHarness.TaskQueue.Transitions

/-!
# Importing an Issue Plan

A payload is checked and translated into tasks; the tasks and the receipt are written together.
An import is bound to the identity of its plan, and to the idempotency keys it was called with.
-/

namespace DevHarness.TaskQueue

open PyText Sequence

/-! ## The request -/

structure AcceptanceItem where
  criterionRef : PyString
  statement : PyString

structure EvidenceItem where
  kind : PyString
  description : PyString
  required : Bool

/-- A task of a request, as `validate_import_request` hands it on. -/
structure ImportedTask where
  issueKey : PyString
  title : PyString
  goal : PyString
  developmentPrompt : PyString
  acceptance : List AcceptanceItem
  verify : List PyString
  completionEvidence : List EvidenceItem
  dependencies : List PyString
  expectedFiles : List PyString
  wave : ℤ
  capabilityTier : PyString
  reasoningEffort : PyString
  routingPolicyRevision : PyString

structure ImportDocument where
  issuePlanId : PyString
  planDigest : PyString
  tasks : List ImportedTask

/-- The keys of a mapping are exactly `fields`. -/
def hasExactly (entries : List (Value × Value)) (fields : List String) : Bool :=
  (entries.all fun entry => fields.any fun field => entry.1.isText (py field)) &&
    fields.all fun field => (lookup entries (py field)).isSome

/-- `_object`. -/
def objectOf (value : Value) (fields : List String) :
    Except QueueError (List (Value × Value)) :=
  match value.dict? with
  | some entries => if hasExactly entries fields then .ok entries else .error .importInvalid
  | none => .error .importInvalid

/-- `entries[key]`. -/
def member (entries : List (Value × Value)) (key : String) : Value :=
  (lookup entries (py key)).getD .none

/-- `_text`. -/
def boundedText (value : Value) (maximum : ℕ) : Except QueueError PyString :=
  match value.str? with
  | some s =>
    if strip s ≠ [] ∧ (strip s).length ≤ maximum then .ok (strip s) else .error .importInvalid
  | none => .error .importInvalid

/-- `isinstance(value, list) and len(value) <= maximum`. -/
def boundedList (value : Value) (maximum : ℕ) : Except QueueError (List Value) :=
  match value.list? with
  | some items => if items.length ≤ maximum then .ok items else .error .importInvalid
  | none => .error .importInvalid

/-- `_texts`. -/
def boundedTexts (value : Value) (maximum itemMaximum : ℕ) : Except QueueError (List PyString) := do
  let items ← boundedList value maximum
  let result ← items.mapM fun item => boundedText item itemMaximum
  require (decide result.Nodup) .importInvalid
  .ok result

/-- `ISSUE_KEY_PATTERN`. -/
def validIssueKey : PyString → Bool
  | [] => false
  | c :: rest =>
    (0x41 ≤ c && c ≤ 0x5A) && decide (rest.length ≤ 63) &&
      rest.all fun d => (0x41 ≤ d && d ≤ 0x5A) || (0x30 ≤ d && d ≤ 0x39) || d == 0x2D

/-- `DIGEST_PATTERN`. -/
def validDigest (s : PyString) : Bool :=
  decide (s.length = 64) && s.all fun d => (0x30 ≤ d && d ≤ 0x39) || (0x61 ≤ d && d ≤ 0x66)

def capabilityTiers : List PyString :=
  ["cost_optimized", "general_coding", "advanced_coding", "frontier"].map py

def reasoningEfforts : List PyString :=
  ["low", "medium", "high", "highest"].map py

def evidenceKinds : List PyString :=
  ["artifact", "test", "review", "commit", "push", "audit"].map py

def acceptanceItem (value : Value) : Except QueueError AcceptanceItem := do
  let accepted ← objectOf value ["criterionRef", "statement"]
  let criterionRef ← boundedText (member accepted "criterionRef") 100
  let statement ← boundedText (member accepted "statement") 4000
  .ok ⟨criterionRef, statement⟩

/-- The value of a field of type `bool`. -/
def requiredFlag (value : Value) : Except QueueError Bool :=
  match value with
  | .bool b => .ok b
  | _ => .error .importInvalid

def evidenceItem (value : Value) : Except QueueError EvidenceItem := do
  let item ← objectOf value ["kind", "description", "required"]
  let kind ← boundedText (member item "kind") 32
  require (kind ∈ evidenceKinds) .importInvalid
  let required ← requiredFlag (member item "required")
  let description ← boundedText (member item "description") 2000
  .ok ⟨kind, description, required⟩

/-- The value of a field of type `int`, and not `bool`, that is positive. -/
def positiveInt (value : Value) : Except QueueError ℤ :=
  match value.int? with
  | some n => if 0 < n then .ok n else .error .importInvalid
  | none => .error .importInvalid

/-- The keys of a task in a request, `TASK_FIELDS`. -/
def taskFields : List String :=
  ["issueKey", "title", "goal", "developmentPrompt", "acceptance", "verify", "completionEvidence",
    "dependencies", "expectedFiles", "wave", "capabilityTier", "reasoningEffort",
    "routingPolicyRevision"]

def importedTask (value : Value) : Except QueueError ImportedTask := do
  let task ← objectOf value taskFields
  let issueKey ← boundedText (member task "issueKey") 64
  require (validIssueKey issueKey) .importInvalid
  let acceptanceValues ← boundedList (member task "acceptance") 200
  let acceptance ← acceptanceValues.mapM acceptanceItem
  require (decide (acceptance.map AcceptanceItem.criterionRef).Nodup) .importInvalid
  let evidenceValues ← boundedList (member task "completionEvidence") 50
  require (!evidenceValues.isEmpty) .importInvalid
  let completionEvidence ← evidenceValues.mapM evidenceItem
  require (completionEvidence.any EvidenceItem.required) .importInvalid
  let wave ← positiveInt (member task "wave")
  let capabilityTier ← boundedText (member task "capabilityTier") 64
  let reasoningEffort ← boundedText (member task "reasoningEffort") 64
  require (capabilityTier ∈ capabilityTiers) .importInvalid
  require (reasoningEffort ∈ reasoningEfforts) .importInvalid
  let verify ← boundedTexts (member task "verify") 50 2000
  require (!verify.isEmpty) .importInvalid
  let developmentPrompt ← boundedText (member task "developmentPrompt") 40000
  require (80 ≤ developmentPrompt.length) .importInvalid
  let title ← boundedText (member task "title") 300
  let goal ← boundedText (member task "goal") 4000
  let dependencies ← boundedTexts (member task "dependencies") 100 64
  let expectedFiles ← boundedTexts (member task "expectedFiles") 500 2000
  let routingPolicyRevision ← boundedText (member task "routingPolicyRevision") 255
  .ok
    { issueKey, title, goal, developmentPrompt, acceptance, verify, completionEvidence,
      dependencies, expectedFiles, wave, capabilityTier, reasoningEffort, routingPolicyRevision }

/-! ## The dependencies of a request -/

def taskOf (tasks : List ImportedTask) (issueKey : PyString) : Option ImportedTask :=
  tasks.find? fun task => decide (task.issueKey = issueKey)

def checkImportedDependency (tasks : List ImportedTask) (task : ImportedTask)
    (dependency : PyString) : Except QueueError Unit :=
  match taskOf tasks dependency with
  | none => .error .importInvalid
  | some other => do
    require (dependency ≠ task.issueKey) .importInvalid
    require (other.wave < task.wave) .importInvalid

/-- `visit` of `_validate_acyclic`; the result is `visited`. -/
def visit (tasks : List ImportedTask) :
    ℕ → List PyString → List PyString → PyString → Except QueueError (List PyString)
  | 0, _, _, _ => .error .importInvalid
  | fuel + 1, visiting, visited, issueKey =>
    if issueKey ∈ visiting then .error .importInvalid
    else if issueKey ∈ visited then .ok visited
    else do
      let dependencies := ((taskOf tasks issueKey).map ImportedTask.dependencies).getD []
      let visited ← dependencies.foldlM (visit tasks fuel (issueKey :: visiting)) visited
      .ok (issueKey :: visited)

/-- `_validate_acyclic`.  A path visits a key once, so its length is at most that of the list. -/
def validateAcyclic (tasks : List ImportedTask) : Except QueueError (List PyString) :=
  (tasks.map ImportedTask.issueKey).foldlM (visit tasks (tasks.length + 1) []) []

def validateImportRequest (value : Value) : Except QueueError ImportDocument := do
  let root ← objectOf value ["schemaVersion", "atomic", "issuePlanId", "planDigest", "tasks"]
  require ((member root "schemaVersion").isText (py "autodev-queue-import.v1")) .importInvalid
  let atomic ← requiredFlag (member root "atomic")
  require atomic .importInvalid
  let issuePlanId ← boundedText (member root "issuePlanId") 255
  let planDigest ← boundedText (member root "planDigest") 64
  require (validDigest planDigest) .importInvalid
  let rawTasks ← boundedList (member root "tasks") 100
  require (!rawTasks.isEmpty) .importInvalid
  let tasks ← rawTasks.mapM importedTask
  require (decide (tasks.map ImportedTask.issueKey).Nodup) .importInvalid
  tasks.forM fun task => task.dependencies.forM (checkImportedDependency tasks task)
  let _ ← validateAcyclic tasks
  .ok ⟨issuePlanId, planDigest, tasks⟩

section Digest

-- `hashlib.sha256(text.encode()).hexdigest()`, of a text that can be encoded
variable (hexdigest : PyString → PyString)

/-- `import_id`; a lone surrogate cannot be encoded. -/
def importId (document : ImportDocument) : Except QueueError PyString :=
  let identity := document.issuePlanId ++ py ":" ++ document.planDigest
  if identity.any fun c => 0xD800 ≤ c && c ≤ 0xDFFF then .error .unicodeError
  else .ok (py "IMP-" ++ (hexdigest identity).take 24)

def receiptPair (item : Value) : Except QueueError (PyString × PyString) :=
  match item.dict? with
  | some entries =>
    if hasExactly entries ["issueKey", "externalTaskId"] then
      match (member entries "issueKey").str?, (member entries "externalTaskId").str? with
      | some issueKey, some externalId => .ok (issueKey, externalId)
      | _, _ => .error .importError
    else .error .importError
  | none => .error .importError

/-- The loop that fills `mappings`. -/
def receiptMappings : List (PyString × PyString) → List Value →
    Except QueueError (List (PyString × PyString))
  | mappings, [] => .ok mappings
  | mappings, item :: items => do
    let pair ← receiptPair item
    require (pair.1 ∉ mappings.map Prod.fst && pair.2 ∉ mappings.map Prod.snd) .importError
    receiptMappings (mappings ++ [pair]) items

/-- The task that `persisted_by_id` holds: the last of those with the text. -/
def persistedTask (tasks : List Task) (externalId : PyString) : Option Task :=
  tasks.reverse.find? fun task => decide (task.textOf .id = externalId)

def comesFrom (document : ImportDocument) (issueKey : PyString) (task : Task) : Bool :=
  (task.get .source).dict?.any fun source =>
    (member source "issue_plan_id").isText document.issuePlanId &&
      (member source "plan_digest").isText document.planDigest &&
        (member source "issue_key").isText issueKey

def validateStoredReceipt (receipt : Value) (document : ImportDocument) (tasks : List Task) :
    Except QueueError Value :=
  match receipt.dict? with
  | none => .error .importError
  | some entries => do
    require (hasExactly entries ["importId", "atomic", "planDigest", "tasks"]) .importError
    let expectedId ← importId hexdigest document
    require ((member entries "importId").isText expectedId) .importError
    require (match member entries "atomic" with | .bool b => b | _ => false) .importError
    require ((member entries "planDigest").isText document.planDigest) .importError
    let items ← ((member entries "tasks").list?.elim (.error .importError) .ok :
      Except QueueError (List Value))
    let mappings ← receiptMappings [] items
    require (mappings.map Prod.fst = document.tasks.map ImportedTask.issueKey) .importError
    require (mappings.all fun pair => (persistedTask tasks pair.2).any (comesFrom document pair.1))
      .importError
    .ok receipt

/-! ## The translation -/

/-- The loop of `allocate_task_ids`. -/
def allocateFrom (existing : List PyString) : ℕ → ℕ → ℕ → List PyString
  | 0, _, _ => []
  | _, _, 0 => []
  | fuel + 1, maximum, count + 1 =>
    if numberedId (maximum + 1) ∈ existing then
      allocateFrom existing fuel (maximum + 1) (count + 1)
    else numberedId (maximum + 1) :: allocateFrom existing fuel (maximum + 1) count

/-- `allocate_task_ids`.  Each round adds an identifier or meets one that exists. -/
def allocateTaskIds (tasks : List Task) (count : ℕ) : List PyString :=
  let existing := tasks.map fun task => task.textOf .id
  allocateFrom existing (existing.length + count) (maxNumber existing) count

/-- `mapping[key]`. -/
def allocatedId (document : ImportDocument) (taskIds : List PyString) (issueKey : PyString) :
    PyString :=
  (((document.tasks.map ImportedTask.issueKey).zip taskIds).find? fun pair =>
    decide (pair.1 = issueKey)).elim [] Prod.snd

def evidenceValue (item : EvidenceItem) : Value :=
  .dict [(.str (py "kind"), .str item.kind), (.str (py "description"), .str item.description),
    (.str (py "required"), .bool item.required)]

def acceptanceContract (item : AcceptanceItem) : Value :=
  .dict [(.str (py "criterionRef"), .str item.criterionRef),
    (.str (py "statement"), .str item.statement)]

def importSource (document : ImportDocument) (imported : ImportedTask) : Value :=
  .dict [(.str (py "kind"), .str (py "issue_plan")),
    (.str (py "issue_plan_id"), .str document.issuePlanId),
    (.str (py "plan_digest"), .str document.planDigest),
    (.str (py "issue_key"), .str imported.issueKey),
    (.str (py "refs"), textList [py "issue-plan:" ++ document.issuePlanId,
      py "issue:" ++ imported.issueKey])]

def queueTask (outside : Outside) (document : ImportDocument) (taskIds : List PyString)
    (imported : ImportedTask) (taskId : PyString) : Task :=
  .ofEntries
    [(.id, .str taskId), (.title, .str imported.title), (.status, .str (py "pending")),
      (.priority, .str (py "P2")), (.area, .str (py "issue-plan")), (.goal, .str imported.goal),
      (.dependencies, textList (imported.dependencies.map (allocatedId document taskIds))),
      (.exclusiveResources, textList imported.expectedFiles),
      (.acceptance, textList (imported.acceptance.map fun item =>
        py "[" ++ item.criterionRef ++ py "] " ++ item.statement)),
      (.acceptanceContract, .list (imported.acceptance.map acceptanceContract)),
      (.verify, textList imported.verify), (.developmentPrompt, .str imported.developmentPrompt),
      (.completionEvidence, .list (imported.completionEvidence.map evidenceValue)),
      (.expectedFiles, textList imported.expectedFiles), (.executionWave, .int imported.wave),
      (.preferredBuilder, .str imported.capabilityTier),
      (.modelRoute, .dict [(.str (py "capability_tier"), .str imported.capabilityTier),
        (.str (py "reasoning_effort"), .str imported.reasoningEffort),
        (.str (py "policy_revision"), .str imported.routingPolicyRevision)]),
      (.source, importSource document imported), (.artifacts, .list []),
      (.notes, .list [noteEntry outside.now (py "atomically imported from an approved Issue Plan")]),
      (.approvedBy, .str (py "ai-dev-harness")), (.approvedAt, .str outside.now),
      (.revision, .int 1), (.createdAt, .str outside.now), (.updatedAt, .str outside.now)]

/-- The tasks of `build_queue_tasks`. -/
def queueTasks (outside : Outside) (document : ImportDocument) (existing : List Task) : List Task :=
  let taskIds := allocateTaskIds existing document.tasks.length
  (document.tasks.zip taskIds).map fun pair => queueTask outside document taskIds pair.1 pair.2

/-- The receipt of `build_queue_tasks`. -/
def newReceipt (document : ImportDocument) (existing : List Task) (importId : PyString) : Value :=
  .dict [(.str (py "importId"), .str importId), (.str (py "atomic"), .bool true),
    (.str (py "planDigest"), .str document.planDigest),
    (.str (py "tasks"), .list ((document.tasks.zip
      (allocateTaskIds existing document.tasks.length)).map fun pair =>
        .dict [(.str (py "issueKey"), .str pair.1.issueKey),
          (.str (py "externalTaskId"), .str pair.2)]))]

/-! ## The records of the queue -/

def storedKeys (record : List (Value × Value)) : Except QueueError (List PyString) := do
  let stored :=
    if (member record "idempotency_keys").isNone && (member record "idempotency_key").truthy then
      .list [member record "idempotency_key"]
    else member record "idempotency_keys"
  match stored.list? with
  | none => .error .invalidQueue
  | some items =>
    require (items.all fun item => item.str?.any (· ≠ [])) .invalidQueue
    require (decide (items.filterMap Value.str?).Nodup) .invalidQueue
    .ok (items.filterMap Value.str?)

def withKey (record : List (Value × Value)) (keys : List PyString) (key : PyString) : Value :=
  .dict (setEntry (py "idempotency_keys") (textList (keys ++ [key]))
    (popEntry (py "idempotency_key") record))

/-- The loop over the records: where one of them matches, the records to write, if any, and the
receipt. -/
def scanRecords (document : ImportDocument) (key : PyString) (tasks : List Task) :
    List Value → Except QueueError (Option (Option (List Value) × Value))
  | [] => .ok none
  | value :: rest =>
    match value.dict? with
    | none => .error .invalidQueue
    | some record => do
      let keys ← storedKeys record
      let sameKey := decide (key ∈ keys)
      let samePlanId := (member record "issue_plan_id").isText document.issuePlanId
      let sameDigest := (member record "plan_digest").isText document.planDigest
      if sameKey && !(samePlanId && sameDigest) then .error .importConflict
      else if samePlanId && !sameDigest then .error .importConflict
      else if (sameKey || samePlanId) && sameDigest then do
        let receipt ← validateStoredReceipt hexdigest (member record "receipt") document tasks
        .ok (some (if sameKey then none else some (withKey record keys key :: rest), receipt))
      else do
        let found ← scanRecords document key tasks rest
        .ok (found.map fun result => (result.1.map (value :: ·), result.2))

def newRecord (outside : Outside) (document : ImportDocument) (key : PyString) (receipt : Value) :
    Value :=
  .dict [(.str (py "idempotency_keys"), textList [key]),
    (.str (py "issue_plan_id"), .str document.issuePlanId),
    (.str (py "plan_digest"), .str document.planDigest), (.str (py "receipt"), receipt),
    (.str (py "imported_at"), .str outside.now)]

/-- The end of `import_plan`, when no record matches. -/
def appendImport (outside : Outside) (document : ImportDocument) (key : PyString)
    (imports : List Value) (queue : Queue) : Except QueueError (Queue × Value) := do
  let identity ← importId hexdigest document
  let receipt := newReceipt document queue.tasks identity
  let candidate : Queue :=
    { queue with
      tasks := queue.tasks ++ queueTasks outside document queue.tasks
      imports := some (.list (imports ++ [newRecord outside document key receipt])) }
  validateQueue candidate
  .ok (candidate, receipt)

/-- `import_plan`: the document as it is left, and the receipt.  A replay by a known key writes
nothing. -/
def importPlan (outside : Outside) (payload idempotencyKey : Value) (queue : Queue) :
    Except QueueError (Queue × Value) := do
  let document ← validateImportRequest payload
  let key ← boundedText idempotencyKey 255
  let loaded ← readQueue queue
  match (loaded.imports.getD (.list [])).list? with
  | none => .error .invalidQueue
  | some imports =>
    match ← scanRecords hexdigest document key loaded.tasks imports with
    | some (none, receipt) => .ok (queue, receipt)
    | some (some records, receipt) => do
      let candidate : Queue := { loaded with imports := some (.list records) }
      validateQueue candidate
      .ok (candidate, receipt)
    | none => appendImport hexdigest outside document key imports loaded

end Digest

end DevHarness.TaskQueue
