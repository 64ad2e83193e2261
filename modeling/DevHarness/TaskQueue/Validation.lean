import DevHarness.Sequence.Checks
import DevHarness.TaskQueue.Task

/-!
# The validator of the queue

Every operation reads the queue through the validator, and writes it through the validator
again.
-/

namespace DevHarness.TaskQueue

open PyText Sequence

/-- `[A-Za-z0-9]`. -/
def isWordHead (c : ℕ) : Bool :=
  (0x30 ≤ c && c ≤ 0x39) || (0x41 ≤ c && c ≤ 0x5A) || (0x61 ≤ c && c ≤ 0x7A)

/-- `[A-Za-z0-9_.-]`. -/
def isWordTail (c : ℕ) : Bool :=
  isWordHead c || c == 0x5F || c == 0x2E || c == 0x2D

/-- `TASK_ID_PATTERN`. -/
def validTaskId : PyString → Bool
  | [] => false
  | c :: rest => isWordHead c && decide (rest.length ≤ 127) && rest.all isWordTail

/-! ## The checks of one task -/

/-- The source's `if not …: raise`. -/
def require (holds : Bool) (error : QueueError) : Except QueueError Unit :=
  if holds then .ok () else .error error

def validStatuses : List String :=
  ["pending", "proposed", "in_progress", "blocked", "done", "skipped"]

/-- `task.get("status", "pending")`. -/
def Task.readStatus (task : Task) : Value :=
  (task.get? .status).getD (.str (py "pending"))

def Task.countsAs (task : Task) (status : String) : Bool :=
  task.readStatus.isText (py status)

/-- A check that is passed over when the value is `None`. -/
def absentOr (check : Value → Bool) (value : Value) : Bool :=
  value.isNone || check value

def isNonBlank (value : Value) : Bool :=
  value.str?.any fun s => strip s ≠ []

def isTextList (value : Value) : Bool :=
  value.list?.any fun items => items.all isNonBlank

def isCount (value : Value) : Bool :=
  value.int?.any fun n => 0 ≤ n

def isFailure (value : Value) : Bool :=
  value.dict?.any fun entries =>
    absentOr (fun runId => runId.str?.isSome) ((lookup entries (py "run_id")).getD .none)

def isResourceList (value : Value) : Bool :=
  value.list?.any fun items =>
    items.all isNonBlank && decide (items.map fun item => strip item.text).Nodup

def independentReviewGate : PyString := py "independent_review"

/-- `str(value or "").strip()` is not empty. -/
def hasText (value : Value) : Bool :=
  strip (value.orElse (.str [])).text ≠ []

/-- `source.refs` is given. -/
def hasRefs (value : Value) : Bool :=
  value.dict?.any fun entries => ((lookup entries (py "refs")).getD .none).truthy

def checkStatus (task : Task) : Except QueueError Unit := do
  require task.readStatus.hashable .typeError
  require (validStatuses.any fun status => task.readStatus.isText (py status)) .invalidQueue

def checkProposed (task : Task) : Except QueueError Unit := do
  require (hasText (task.get .title)) .invalidQueue
  require (hasText (task.get .goal)) .invalidQueue
  require (task.get .acceptance).list?.isSome .invalidQueue
  require (task.get .verify).list?.isSome .invalidQueue
  require (hasRefs (task.get .source)) .invalidQueue

def checkFields (task : Task) : Except QueueError Unit := do
  checkStatus task
  require (absentOr isTextList (task.get .verify)) .invalidQueue
  require (absentOr isCount (task.get .revision)) .invalidQueue
  require (absentOr isCount (task.get .autodevFailureCount)) .invalidQueue
  require (absentOr isFailure (task.get .lastAutodevFailure)) .invalidQueue
  require (absentOr (fun gate => gate.isText independentReviewGate) (task.get .requiredGate))
    .invalidQueue
  require (absentOr (fun token => token.str?.isSome) (task.get .leaseToken)) .invalidQueue
  require (absentOr (fun owner => owner.str?.isSome) (task.get .owner)) .invalidQueue
  require (absentOr isResourceList (task.get .exclusiveResources)) .invalidQueue
  if task.readStatus.isText (py "proposed") then checkProposed task else .ok ()

/-- The first loop of `_validate_queue`; the result is `seen`. -/
def checkTasks : List PyString → List Task → Except QueueError (List PyString)
  | seen, [] => .ok seen
  | seen, task :: tasks => do
    require (task.ownId ≠ []) .invalidQueue
    require (validTaskId task.ownId) .invalidQueue
    require (task.ownId ∉ seen) .invalidQueue
    checkFields task
    checkTasks (task.ownId :: seen) tasks

def checkDependency (seen : List PyString) (taskId dependencyId : PyString) :
    Except QueueError Unit := do
  require (dependencyId ≠ []) .invalidQueue
  require (dependencyId ≠ taskId) .invalidQueue
  require (dependencyId ∈ seen) .invalidQueue

/-- The second loop of `_validate_queue`, for one task. -/
def checkDependencies (seen : List PyString) (task : Task) : Except QueueError Unit := do
  require task.dependencies?.isSome .typeError
  task.dependencyIds.forM (checkDependency seen task.ownId)

/-- `ensure_schema_v1`: a missing version counts as the first. -/
def checkSchema (queue : Queue) : Except QueueError Unit :=
  match queue.schemaVersion with
  | none => .ok ()
  | some (.int 1) => .ok ()
  | some _ => .error .invalidQueue

def validateQueue (queue : Queue) : Except QueueError Unit := do
  checkSchema queue
  let seen ← checkTasks [] queue.tasks
  queue.tasks.forM (checkDependencies seen)

/-! ## What the validator accepts -/

theorem require_eq_ok {holds : Bool} {error : QueueError} {result : Unit} :
    require holds error = .ok result ↔ holds = true := by
  cases holds <;> simp [require]

/-- What the first loop says of one task. -/
def Task.Checked (task : Task) : Prop :=
  validTaskId task.ownId = true ∧ checkFields task = .ok ()

variable {task : Task}

theorem Task.Checked.ownId_ne_nil (h : task.Checked) : task.ownId ≠ [] := by
  intro hnil
  have hvalid := h.1
  rw [hnil] at hvalid
  cases hvalid

theorem checkTasks_eq_ok {seen result : List PyString} {tasks : List Task} :
    checkTasks seen tasks = .ok result ↔
      (tasks.map Task.ownId).Nodup ∧ (∀ task ∈ tasks, task.ownId ∉ seen ∧ task.Checked) ∧
        result = (tasks.map Task.ownId).reverse ++ seen := by
  induction tasks generalizing seen with
  | nil => rw [checkTasks, Except.ok.injEq, eq_comm]; simp
  | cons task tasks ih =>
      rw [checkTasks, check_bind_eq_ok, check_bind_eq_ok, check_bind_eq_ok, check_bind_eq_ok, ih,
        require_eq_ok, require_eq_ok, require_eq_ok, decide_eq_true_eq, decide_eq_true_eq,
        List.map_cons, List.nodup_cons, List.forall_mem_cons, List.reverse_cons,
        List.append_assoc, List.singleton_append]
      constructor
      · rintro ⟨-, hvalid, hseen, hfields, hnodup, hrest, hresult⟩
        refine ⟨⟨?_, hnodup⟩, ⟨⟨hseen, hvalid, hfields⟩, ?_⟩, hresult⟩
        · intro hmem
          obtain ⟨later, hlater, hid⟩ := List.mem_map.mp hmem
          exact (hrest later hlater).1 (hid ▸ List.mem_cons_self)
        · intro later hlater
          exact ⟨fun hmem => (hrest later hlater).1 (List.mem_cons_of_mem _ hmem),
            (hrest later hlater).2⟩
      · rintro ⟨⟨hfresh, hnodup⟩, ⟨⟨hseen, hchecked⟩, hrest⟩, hresult⟩
        refine ⟨hchecked.ownId_ne_nil, hchecked.1, hseen, hchecked.2, hnodup, ?_, hresult⟩
        intro later hlater
        refine ⟨?_, (hrest later hlater).2⟩
        intro hmem
        rcases List.mem_cons.mp hmem with hid | hmem
        · exact hfresh (hid ▸ List.mem_map_of_mem hlater)
        · exact (hrest later hlater).1 hmem

structure Queue.Valid (queue : Queue) : Prop where
  schema : checkSchema queue = .ok ()
  distinct : (queue.tasks.map Task.ownId).Nodup
  checked : ∀ task ∈ queue.tasks, task.Checked
  iterable : ∀ task ∈ queue.tasks, task.dependencies?.isSome = true
  dependencies : ∀ task ∈ queue.tasks, ∀ dependencyId ∈ task.dependencyIds,
    dependencyId ≠ [] ∧ dependencyId ≠ task.ownId ∧ dependencyId ∈ queue.tasks.map Task.ownId

theorem checkDependencies_eq_ok {seen : List PyString} :
    checkDependencies seen task = .ok () ↔ task.dependencies?.isSome = true ∧
      ∀ dependencyId ∈ task.dependencyIds,
        dependencyId ≠ [] ∧ dependencyId ≠ task.ownId ∧ dependencyId ∈ seen := by
  rw [checkDependencies, check_bind_eq_ok, require_eq_ok, forM_eq_ok]
  apply and_congr_right
  intro _
  apply forall₂_congr
  intro dependencyId _
  rw [checkDependency, check_bind_eq_ok, check_bind_eq_ok, require_eq_ok, require_eq_ok,
    require_eq_ok, decide_eq_true_eq, decide_eq_true_eq, decide_eq_true_eq]

theorem validateQueue_eq_ok {queue : Queue} : validateQueue queue = .ok () ↔ queue.Valid := by
  rw [validateQueue, check_bind_eq_ok, bind_eq_ok]
  constructor
  · rintro ⟨hschema, seen, htasks, hdependencies⟩
    obtain ⟨hnodup, hchecked, rfl⟩ := checkTasks_eq_ok.mp htasks
    have hall := forM_eq_ok.mp hdependencies
    refine ⟨hschema, hnodup, fun task htask => (hchecked task htask).2, ?_, ?_⟩
    · intro task htask
      exact (checkDependencies_eq_ok.mp (hall task htask)).1
    · intro task htask dependencyId hdependency
      have hone := (checkDependencies_eq_ok.mp (hall task htask)).2 dependencyId hdependency
      simpa using hone
  · intro h
    refine ⟨h.schema, _, checkTasks_eq_ok.mpr ⟨h.distinct, ?_, rfl⟩, forM_eq_ok.mpr ?_⟩
    · intro task htask
      exact ⟨List.not_mem_nil, h.checked task htask⟩
    · intro task htask
      apply checkDependencies_eq_ok.mpr
      refine ⟨h.iterable task htask, ?_⟩
      intro dependencyId hdependency
      have hone := h.dependencies task htask dependencyId hdependency
      simpa using hone

instance (queue : Queue) : Decidable queue.Valid :=
  decidable_of_iff _ validateQueue_eq_ok

end DevHarness.TaskQueue
