import DevHarness.Text.PyDecimals
import DevHarness.TaskQueue.Effects
import DevHarness.TaskQueue.ImportRequest

/-!
# New tasks

Three operations make tasks: `add_task`, `propose_task` and `import_plan`.  What they have in
common: a new task is open, nobody holds it, and it depends on tasks that are there or on tasks of
the same import that belong to an earlier wave.
-/

namespace DevHarness.TaskQueue

open PyText Sequence

structure Fresh (task : Task) : Prop where
  id : ∃ number, task.get? .id = some (.str (numberedId number))
  status : task.get? .status = some (.str (py "pending")) ∨
    task.get? .status = some (.str (py "proposed"))
  priority : ∃ s, task.get? .priority = some (.str s)
  leaseToken : task.get? .leaseToken = none
  requiredGate : task.get? .requiredGate = none

def Task.wave (task : Task) : ℤ :=
  (task.get .executionWave).int?.getD 0

/-- What an operation that makes tasks comes to. -/
structure Appends (queue : Queue) (added : List Task) (queue' : Queue) : Prop where
  valid : queue.Valid
  written : queue'.tasks = queue.tasks ++ added
  capacity : maxInProgress queue' = maxInProgress queue
  fresh : ∀ task ∈ added, Fresh task
  backwards : ∀ task ∈ added, ∀ dependencyId ∈ task.dependencyIds,
    dependencyId ∈ queue.tasks.map Task.ownId ∨
      ∃ other ∈ added, other.ownId = dependencyId ∧ other.wave < task.wave
  valid' : queue'.Valid

theorem not_isSpace_of_mem_numberedId {number : ℕ} {c : JsText.CodePoint}
    (hc : c ∈ numberedId number) : isSpace c = false := by
  rcases List.mem_append.mp hc with hc | hc
  · have hprefix : ∀ c ∈ py "H-", isSpace c = false := by decide
    exact hprefix c hc
  · exact not_isSpace_of_mem_padded hc

theorem strip_numberedId (number : ℕ) : strip (numberedId number) = numberedId number :=
  strip_eq_self fun _ => not_isSpace_of_mem_numberedId

variable {queue queue' : Queue} {task : Task} {outside : Outside}

theorem ownId_of_get?_id {s : PyString} (h : task.get? .id = some (.str s)) :
    task.ownId = strip s := by
  rw [Task.ownId, h]
  rfl

/-! ## One task -/

theorem fresh_addedTask (outside : Outside) (call : AddCall) (number : ℕ) :
    Fresh (addedTask outside call (numberedId number)) where
  id := ⟨number, rfl⟩
  status := Or.inl rfl
  priority := ⟨_, rfl⟩
  leaseToken := rfl
  requiredGate := rfl

theorem fresh_proposedTask (outside : Outside) (call : ProposeCall) (number : ℕ) :
    Fresh (proposedTask outside call (numberedId number)) where
  id := ⟨number, rfl⟩
  status := Or.inr rfl
  priority := ⟨_, rfl⟩
  leaseToken := rfl
  requiredGate := rfl

/-- A single new task depends on tasks that are there: the validator has seen to it. -/
theorem appends_singleton {queue : Queue} (hvalid : queue.Valid) (hfresh : Fresh task)
    (hvalid' : (queue.loaded.append task).Valid) :
    Appends queue [task] (queue.loaded.append task) where
  valid := hvalid
  written := rfl
  capacity := rfl
  fresh := by simpa using hfresh
  backwards := by
    intro other hother dependencyId hdependency
    obtain rfl := List.mem_singleton.mp hother
    have hmem : other ∈ (queue.loaded.append other).tasks :=
      List.mem_append_right _ List.mem_cons_self
    obtain ⟨-, hown, hknown⟩ := hvalid'.dependencies other hmem dependencyId hdependency
    rw [Queue.append, List.map_append, List.mem_append] at hknown
    rcases hknown with hknown | hknown
    · exact Or.inl hknown
    · exact absurd (List.mem_singleton.mp hknown) hown
  valid' := hvalid'

theorem addTask_eq_ok {call : AddCall} (h : addTask outside call queue = .ok (queue', task)) :
    Fresh task ∧ Appends queue [task] queue' := by
  simp only [addTask, bind_eq_ok, mutateQueue_eq_ok] at h
  obtain ⟨⟨⟩, -, hvalid, hmutate, hvalid'⟩ := h
  obtain ⟨rfl, rfl⟩ := Prod.mk.inj (Except.ok.inj hmutate)
  have hfresh := fresh_addedTask outside call
    (maxNumber (queue.loaded.tasks.map fun task => task.readId.text) + 1)
  exact ⟨hfresh, appends_singleton hvalid hfresh hvalid'⟩

theorem proposeTask_eq_ok {call : ProposeCall}
    (h : proposeTask outside call queue = .ok (queue', task)) :
    Fresh task ∧ Appends queue [task] queue' := by
  simp only [proposeTask, bind_eq_ok, mutateQueue_eq_ok] at h
  obtain ⟨⟨⟩, -, ⟨⟩, -, ⟨⟩, -, hvalid, hmutate, hvalid'⟩ := h
  obtain ⟨rfl, rfl⟩ := Prod.mk.inj (Except.ok.inj hmutate)
  have hfresh := fresh_proposedTask outside call
    (maxNumber (queue.loaded.tasks.map fun task => task.readId.text) + 1)
  exact ⟨hfresh, appends_singleton hvalid hfresh hvalid'⟩

section Imported

variable {document : ImportDocument} {existing taskIds : List PyString} {tasks : List Task}
  {taskId : PyString}

theorem exists_numberedId_of_mem {fuel maximum count : ℕ}
    (h : taskId ∈ allocateFrom existing fuel maximum count) :
    ∃ number, taskId = numberedId number := by
  induction fuel generalizing maximum count with
  | zero => cases h
  | succ fuel ih =>
      cases count with
      | zero => cases h
      | succ count =>
          rw [allocateFrom] at h
          split at h
          · exact ih h
          · rcases List.mem_cons.mp h with rfl | h
            · exact ⟨_, rfl⟩
            · exact ih h

theorem exists_of_mem_queueTasks (h : task ∈ queueTasks outside document tasks) :
    ∃ imported taskId, (imported, taskId) ∈
        document.tasks.zip (allocateTaskIds tasks document.tasks.length) ∧
      task = queueTask outside document (allocateTaskIds tasks document.tasks.length) imported
        taskId := by
  obtain ⟨pair, hpair, rfl⟩ := List.mem_map.mp h
  exact ⟨pair.1, pair.2, hpair, rfl⟩

theorem fresh_queueTasks (h : task ∈ queueTasks outside document tasks) : Fresh task := by
  obtain ⟨imported, taskId, hpair, rfl⟩ := exists_of_mem_queueTasks h
  obtain ⟨number, rfl⟩ := exists_numberedId_of_mem (List.of_mem_zip hpair).2
  exact ⟨⟨number, rfl⟩, Or.inl rfl, ⟨_, rfl⟩, rfl, rfl⟩

theorem dependencyIds_queueTask (imported : ImportedTask) :
    (queueTask outside document taskIds imported taskId).dependencyIds =
      imported.dependencies.map fun key => strip (allocatedId document taskIds key) := by
  have hget : (queueTask outside document taskIds imported taskId).get? .dependencies =
      some (textList (imported.dependencies.map (allocatedId document taskIds))) := rfl
  rw [Task.dependencyIds, Task.dependencies?, hget, Option.getD_some, textList, List.map_map]
  cases imported.dependencies with
  | nil => rfl
  | cons key keys => simp [Value.orElse, Value.truthy, Value.iterate]

theorem allocatedId_cases (document : ImportDocument) (taskIds : List PyString)
    (issueKey : PyString) :
    allocatedId document taskIds issueKey = [] ∨
      ∃ other ∈ document.tasks, other.issueKey = issueKey ∧
        (other, allocatedId document taskIds issueKey) ∈ document.tasks.zip taskIds := by
  rw [allocatedId]
  cases hfind : ((document.tasks.map ImportedTask.issueKey).zip taskIds).find? fun pair =>
      decide (pair.1 = issueKey) with
  | none => exact Or.inl rfl
  | some pair =>
      right
      have hkey : pair.1 = issueKey := by
        have hfound := List.find?_some hfind
        simpa using hfound
      have hmem := List.mem_of_find?_eq_some hfind
      rw [List.zip_map_left] at hmem
      obtain ⟨⟨other, taskId⟩, hother, rfl⟩ := List.mem_map.mp hmem
      exact ⟨other, (List.of_mem_zip hother).1, hkey, hother⟩

/-- The tasks of an import depend on one another, from a later wave to an earlier one. -/
theorem backwards_queueTasks (hdocument : document.WellFormed)
    (htask : task ∈ queueTasks outside document tasks) {dependencyId : PyString}
    (hdependency : dependencyId ∈ task.dependencyIds) (hne : dependencyId ≠ []) :
    ∃ other ∈ queueTasks outside document tasks, other.ownId = dependencyId ∧
      other.wave < task.wave := by
  obtain ⟨imported, taskId, hpair, rfl⟩ := exists_of_mem_queueTasks htask
  rw [dependencyIds_queueTask] at hdependency
  obtain ⟨key, hkey, rfl⟩ := List.mem_map.mp hdependency
  obtain ⟨earlier, hearlier, rfl, hwave⟩ :=
    hdocument.earlier imported (List.of_mem_zip hpair).1 key hkey
  rcases allocatedId_cases document (allocateTaskIds tasks document.tasks.length)
    earlier.issueKey with hnil | ⟨other, hother, hsame, hzip⟩
  · rw [hnil] at hne
    exact absurd rfl hne
  · rw [eq_of_issueKey_eq hdocument.distinct hearlier hother hsame] at hzip
    exact ⟨_, List.mem_map_of_mem hzip, rfl, hwave⟩

end Imported

theorem importPlan_eq_ok {hexdigest : PyString → PyString}
    {payload idempotencyKey receipt : Value}
    (h : importPlan hexdigest outside payload idempotencyKey queue = .ok (queue', receipt)) :
    ∃ added, Appends queue added queue' := by
  simp only [importPlan, bind_eq_ok, readQueue_eq_ok] at h
  obtain ⟨document, hdocument, key, -, loaded, ⟨hvalid, rfl⟩, h⟩ := h
  have hwell := validateImportRequest_eq_ok hdocument
  split at h
  · cases h
  · rw [bind_eq_ok] at h
    obtain ⟨scanned, -, h⟩ := h
    split at h
    · obtain ⟨rfl, -⟩ := Prod.mk.inj (Except.ok.inj h)
      exact ⟨[], hvalid, (List.append_nil _).symm, rfl, nofun, nofun, hvalid⟩
    · rw [check_bind_eq_ok] at h
      obtain ⟨hcandidate, h⟩ := h
      obtain ⟨rfl, -⟩ := Prod.mk.inj (Except.ok.inj h)
      exact ⟨[], hvalid, (List.append_nil _).symm, rfl, nofun, nofun,
        validateQueue_eq_ok.mp hcandidate⟩
    · simp only [appendImport, bind_eq_ok] at h
      obtain ⟨identity, -, ⟨⟩, hcandidate, h⟩ := h
      obtain ⟨rfl, -⟩ := Prod.mk.inj (Except.ok.inj h)
      have hvalid' := validateQueue_eq_ok.mp hcandidate
      refine ⟨queueTasks outside document queue.tasks, hvalid, rfl, rfl,
        fun task => fresh_queueTasks, ?_, hvalid'⟩
      intro task htask dependencyId hdependency
      have hne := (hvalid'.dependencies task (List.mem_append_right _ htask) dependencyId
        hdependency).1
      exact Or.inr (backwards_queueTasks hwell htask hdependency hne)

end DevHarness.TaskQueue
