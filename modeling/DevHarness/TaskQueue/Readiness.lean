import DevHarness.TaskQueue.Validation

/-!
# Reading the queue

Which tasks are ready, which comes next, and the summary.  These functions read the identifiers
as they stand in the document.
-/

namespace DevHarness.TaskQueue

open PyText Sequence

def taskById (queue : Queue) (taskId : PyString) : Except QueueError Task :=
  match queue.tasks.find? fun task => (task.get .id).isText taskId with
  | some task => .ok task
  | none => .error .taskNotFound

/-- `str(task["id"])`. -/
def Task.rawId (task : Task) : PyString :=
  (task.get .id).text

def doneTaskIds (queue : Queue) : List PyString :=
  (queue.tasks.filter Task.isTerminal).map Task.rawId

def depsReady (queue : Queue) (task : Task) : Bool :=
  task.dependencyIds.all fun dependencyId => decide (dependencyId ∈ doneTaskIds queue)

/-- `task.get("priority", "P2")`. -/
def Task.readPriority (task : Task) : Value :=
  (task.get? .priority).getD (.str (py "P2"))

/-- `PRIORITY_ORDER.get(priority, 2)`. -/
def Task.rank (task : Task) : ℕ :=
  if task.readPriority.isText (py "P0") then 0
  else if task.readPriority.isText (py "P1") then 1
  else if task.readPriority.isText (py "P3") then 3
  else 2

/-- `task.get("id", "")`. -/
def Task.readId (task : Task) : Value :=
  (task.get? .id).getD (.str [])

/-- `<` of the sort keys. -/
def keyLess (a b : Task) : Bool :=
  decide (a.rank < b.rank) || decide (a.rank = b.rank) && a.readId.less b.readId

/-- The keys of two tasks can be compared. -/
def KeysComparable (a b : Task) : Prop :=
  a.rank = b.rank → a.readId.comparable b.readId = true

instance (a b : Task) : Decidable (KeysComparable a b) :=
  inferInstanceAs (Decidable (_ → _))

/-- `sorted(tasks, key=…)`: the key of a task looks its priority up in a mapping, and neighbours
of the same rank are put in order by their identifiers. -/
def sortTasks (tasks : List Task) : Except QueueError (List Task) := do
  require (tasks.all fun task => task.readPriority.hashable) .typeError
  require (decide (tasks.Pairwise KeysComparable)) .typeError
  .ok (tasks.insertionSort fun a b => keyLess b a = false)

/-- The tasks that `ready_tasks` puts in order. -/
def readySet (queue : Queue) : List Task :=
  queue.tasks.filter fun task => task.hasStatus "pending" && depsReady queue task

def readyTasks (queue : Queue) : Except QueueError (List Task) :=
  sortTasks (readySet queue)

def nextTask (queue : Queue) : Except QueueError (Option Task) := do
  let ready ← readyTasks queue
  .ok ready.head?

/-- The errors of `int`. -/
def QueueError.ofConversion : Value.ConversionError → QueueError
  | .typeError => .typeError
  | .valueError => .valueError
  | .overflowError => .overflowError

def maxInProgress (queue : Queue) : Except QueueError ℤ :=
  match (queue.policy.getD (.dict [])).dict? with
  | none => .error .attributeError
  | some policy =>
    match (((lookup policy (py "max_in_progress")).getD .none).orElse (.int 1)).toInt with
    | .ok n => .ok n
    | .error e => .error (.ofConversion e)

def inProgress (queue : Queue) : List Task :=
  queue.tasks.filter fun task => task.hasStatus "in_progress"

/-! ## The summary -/

structure TaskSummary where
  id : PyString
  title : PyString
  priority : PyString
  area : PyString
  goal : PyString
  source : Value

def summaryTask (task : Task) : TaskSummary where
  id := ((task.get .id).orElse (.str [])).text
  title := ((task.get .title).orElse (.str [])).text
  priority := ((task.get .priority).orElse (.str (py "P2"))).text
  area := ((task.get .area).orElse (.str [])).text
  goal := ((task.get .goal).orElse (.str [])).text
  source := (task.get .source).orElse (.dict [])

structure QueueSummary where
  counts : List (String × ℕ)
  inProgress : List Value
  next : Value
  proposed : List TaskSummary

/-- `queue_summary` of a queue that the validator has accepted: it counts the six statuses. -/
def queueSummary (queue : Queue) : Except QueueError QueueSummary := do
  let proposed ← sortTasks (queue.tasks.filter fun task => task.hasStatus "proposed")
  let upcoming ← nextTask queue
  .ok
    { counts := ["blocked", "done", "in_progress", "pending", "proposed", "skipped"].map fun status =>
        (status, (queue.tasks.filter fun task => task.readStatus.isText (py status)).length)
      inProgress := (inProgress queue).map fun task => task.get .id
      next := upcoming.elim (.str []) fun task => task.get .id
      proposed := proposed.map summaryTask }

section Facts

variable {queue : Queue} {task : Task} {tasks : List Task} {taskId : PyString}

theorem taskById_eq_ok (h : taskById queue taskId = .ok task) :
    task ∈ queue.tasks ∧ task.get .id = .str taskId := by
  unfold taskById at h
  split at h
  · rename_i found hfind
    cases h
    have hmem := List.mem_of_find?_eq_some hfind
    have hid := List.find?_some hfind
    exact ⟨hmem, Value.isText_iff.mp hid⟩
  · cases h

theorem mem_doneTaskIds :
    taskId ∈ doneTaskIds queue ↔
      ∃ task ∈ queue.tasks, task.isTerminal = true ∧ task.rawId = taskId := by
  rw [doneTaskIds, List.mem_map]
  constructor
  · rintro ⟨task, hmem, hid⟩
    obtain ⟨htask, hterminal⟩ := List.mem_filter.mp hmem
    exact ⟨task, htask, hterminal, hid⟩
  · rintro ⟨task, htask, hterminal, hid⟩
    exact ⟨task, List.mem_filter.mpr ⟨htask, hterminal⟩, hid⟩

theorem depsReady_iff :
    depsReady queue task = true ↔ ∀ dependencyId ∈ task.dependencyIds,
      ∃ other ∈ queue.tasks, other.isTerminal = true ∧ other.rawId = dependencyId := by
  rw [depsReady, List.all_eq_true]
  apply forall₂_congr
  intro dependencyId _
  rw [decide_eq_true_eq, mem_doneTaskIds]

theorem mem_of_sortTasks {sorted : List Task} (h : sortTasks tasks = .ok sorted) :
    task ∈ sorted ↔ task ∈ tasks := by
  rw [sortTasks, check_bind_eq_ok, check_bind_eq_ok] at h
  cases h.2.2
  exact (List.perm_insertionSort _ _).mem_iff

theorem exists_sortTasks :
    (∃ sorted, sortTasks tasks = .ok sorted) ↔
      (∀ task ∈ tasks, task.readPriority.hashable = true) ∧ tasks.Pairwise KeysComparable := by
  constructor
  · rintro ⟨sorted, h⟩
    rw [sortTasks, check_bind_eq_ok, check_bind_eq_ok, require_eq_ok, require_eq_ok,
      List.all_eq_true, decide_eq_true_eq] at h
    exact ⟨h.1, h.2.1⟩
  · rintro ⟨hhash, hkeys⟩
    refine ⟨tasks.insertionSort fun a b => keyLess b a = false, ?_⟩
    rw [sortTasks, check_bind_eq_ok, check_bind_eq_ok, require_eq_ok, require_eq_ok,
      List.all_eq_true, decide_eq_true_eq]
    exact ⟨hhash, hkeys, rfl⟩

theorem mem_readySet :
    task ∈ readySet queue ↔
      task ∈ queue.tasks ∧ task.hasStatus "pending" = true ∧ depsReady queue task = true := by
  rw [readySet, List.mem_filter, Bool.and_eq_true]

theorem nextTask_eq_ok (h : nextTask queue = .ok (some task)) : task ∈ readySet queue := by
  rw [nextTask, bind_eq_ok] at h
  obtain ⟨ready, hready, hhead⟩ := h
  have hmem : task ∈ ready := List.mem_of_head? (Except.ok.inj hhead)
  exact (mem_of_sortTasks hready).mp hmem

end Facts

end DevHarness.TaskQueue
