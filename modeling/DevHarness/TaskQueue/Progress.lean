import DevHarness.Sequence.Acyclic
import DevHarness.TaskQueue.RunInvariant

/-!
# The queue does not deadlock

The dependencies of the tasks stay without cycles, so some pending task has nothing pending
before it.  That it is ready is read off the identifiers and the statuses as they stand in the
document, which the validator reads differently.
-/

namespace DevHarness.TaskQueue

open PyText Sequence Relation

/-- The task of the first identity depends on the second. -/
def DependsOn (queue : Queue) (taskId dependencyId : PyString) : Prop :=
  ∃ task ∈ queue.tasks, task.ownId = taskId ∧ dependencyId ∈ task.dependencyIds

/-- Where a task is pending, one is ready, or one is in progress, blocked or proposed. -/
def NotDeadlocked (queue : Queue) : Prop :=
  (∃ task ∈ queue.tasks, task.countsAs "pending" = true) →
    (∃ ready, readyTasks queue = .ok ready ∧ ready ≠ []) ∨
      ∃ task ∈ queue.tasks, task.countsAs "in_progress" = true ∨ task.countsAs "blocked" = true ∨
        task.countsAs "proposed" = true

/-! ## Plain tasks -/

/-- The document says of the task what the validator reads. -/
structure Task.Plain (task : Task) : Prop where
  status : (task.get? .status).isSome = true
  unpadded : strip task.rawId = task.rawId
  text : task.isTerminal = false → ∃ s, task.get .id = .str s
  priority : task.isTerminal = false → task.readPriority.hashable = true

variable {hexdigest : PyString → PyString} {queue : Queue} {task : Task}

section Plain

variable {outside : Outside} {queue' : Queue} {call : Call} {task' : Task} {added : List Task}
  {result : Result}

theorem Task.Plain.rewritten (h : task.Plain)
    (hrewrites : Rewrites outside queue call task task' queue') : task'.Plain := by
  have hid : task'.get .id = task.get .id := get_congr (hrewrites.get?_eq rfl)
  have hopen : task'.isTerminal = false → task.isTerminal = false := by
    intro hnot
    by_contra hterminal
    rw [Bool.not_eq_false] at hterminal
    rw [hrewrites.transition.terminal hterminal] at hnot
    cases hnot
  refine ⟨?_, ?_, ?_, ?_⟩
  · obtain ⟨status, hwritten⟩ := hrewrites.transition.rewritten
    rw [hwritten.status]
    rfl
  · rw [Task.rawId, hid]
    exact h.unpadded
  · intro hnot
    rw [hid]
    exact h.text (hopen hnot)
  · intro hnot
    rw [Task.readPriority, hrewrites.get?_eq rfl]
    exact h.priority (hopen hnot)

theorem Fresh.plain (h : Fresh task) : task.Plain := by
  obtain ⟨number, hid⟩ := h.id
  obtain ⟨s, hpriority⟩ := h.priority
  have hget : task.get .id = .str (numberedId number) := by rw [Task.get, hid, Option.getD_some]
  refine ⟨?_, ?_, fun _ => ⟨_, hget⟩, ?_⟩
  · rcases h.status with hstatus | hstatus
    · rw [hstatus]
      rfl
    · rw [hstatus]
      rfl
  · rw [Task.rawId, hget, Value.text_str, strip_numberedId]
  · intro _
    rw [Task.readPriority, hpriority]
    rfl

theorem plain_of_perform (h : perform hexdigest outside queue call = .ok (queue', result))
    (hplain : ∀ task ∈ queue.tasks, task.Plain) : ∀ task ∈ queue'.tasks, task.Plain := by
  intro task htask
  rcases perform_eq_ok h with ⟨old, new, hrewrites, -⟩ | ⟨added, happends, -⟩
  · rcases hrewrites.mem_tasks.mp htask with rfl | ⟨hmem, -⟩
    · exact (hplain old hrewrites.found).rewritten hrewrites
    · exact hplain task hmem
  · rw [happends.written] at htask
    rcases List.mem_append.mp htask with hmem | hmem
    · exact hplain task hmem
    · exact (happends.fresh task hmem).plain

/-! ## Cycles -/

def waveOf (tasks : List Task) (taskId : PyString) : ℤ :=
  ((tasks.find? fun task => decide (task.ownId = taskId)).map Task.wave).getD 0

theorem waveOf_ownId (hdistinct : (added.map Task.ownId).Nodup) (htask : task ∈ added) :
    waveOf added task.ownId = task.wave := by
  rw [waveOf]
  cases hfind : added.find? fun other => decide (other.ownId = task.ownId) with
  | none =>
      have hnone := List.find?_eq_none.mp hfind task htask
      simp at hnone
  | some other =>
      have hown := List.find?_some hfind
      have hmem := List.mem_of_find?_eq_some hfind
      rw [List.inj_on_of_nodup_map hdistinct hmem htask (of_decide_eq_true hown)]
      rfl

theorem dependsOn_of_rewrites (h : Rewrites outside queue call task task' queue')
    {taskId dependencyId : PyString} (hdepends : DependsOn queue' taskId dependencyId) :
    DependsOn queue taskId dependencyId := by
  obtain ⟨other, hother, hown, hdependency⟩ := hdepends
  rcases h.mem_tasks.mp hother with rfl | ⟨hmem, -⟩
  · have hsame : other.get? .dependencies = task.get? .dependencies := h.get?_eq rfl
    rw [dependencyIds_congr hsame] at hdependency
    exact ⟨task, h.found, h.ownId.symm.trans hown, hdependency⟩
  · exact ⟨other, hmem, hown, hdependency⟩

theorem acyclic_of_appends (h : Appends queue added queue') (hacyclic : Acyclic (DependsOn queue)) :
    Acyclic (DependsOn queue') := by
  have hdistinct := h.valid'.distinct
  rw [h.written, List.map_append, List.nodup_append'] at hdistinct
  have hdisjoint : ∀ task ∈ added, task.ownId ∉ queue.tasks.map Task.ownId := by
    intro task htask hmem
    exact hdistinct.2.2 hmem (List.mem_map_of_mem htask)
  have hcases : ∀ task ∈ queue'.tasks, task ∈ queue.tasks ∨ task ∈ added := by
    intro task htask
    rw [h.written] at htask
    exact List.mem_append.mp htask
  apply hacyclic.extend (fun taskId => taskId ∈ queue.tasks.map Task.ownId) (waveOf added)
  · rintro taskId dependencyId hold ⟨task, htask, rfl, hdependency⟩
    rcases hcases task htask with hmem | hmem
    · exact ⟨(h.valid.dependencies task hmem dependencyId hdependency).2.2,
        task, hmem, rfl, hdependency⟩
    · exact absurd hold (hdisjoint task hmem)
  · rintro taskId dependencyId hnew ⟨task, htask, rfl, hdependency⟩
    rcases hcases task htask with hmem | hmem
    · exact absurd (List.mem_map_of_mem hmem) hnew
    · rcases h.backwards task hmem dependencyId hdependency with hold | ⟨other, hother, rfl, hwave⟩
      · exact Or.inl hold
      · right
        rw [waveOf_ownId hdistinct.2.1 hother, waveOf_ownId hdistinct.2.1 hmem]
        exact hwave

theorem acyclic_of_perform (h : perform hexdigest outside queue call = .ok (queue', result))
    (hacyclic : Acyclic (DependsOn queue)) : Acyclic (DependsOn queue') := by
  rcases perform_eq_ok h with ⟨old, new, hrewrites, -⟩ | ⟨added, happends, -⟩
  · exact hacyclic.of_imp fun _ _ => dependsOn_of_rewrites hrewrites
  · exact acyclic_of_appends happends hacyclic

end Plain

section Progress

theorem Task.Checked.status (h : task.Checked) : ∃ status ∈ validStatuses,
    task.countsAs status = true := by
  have hfields := h.2
  rw [checkFields, check_bind_eq_ok, checkStatus, check_bind_eq_ok] at hfields
  have hany := require_eq_ok.mp hfields.1.2
  exact List.any_eq_true.mp hany

theorem Task.Plain.countsAs_eq (h : task.Plain) (status : String) :
    task.countsAs status = task.hasStatus status := by
  obtain ⟨value, hvalue⟩ := Option.isSome_iff_exists.mp h.status
  rw [Task.countsAs, Task.readStatus, Task.hasStatus, Task.get, hvalue, Option.getD_some,
    Option.getD_some]

theorem exists_readyTasks (hplain : ∀ task ∈ queue.tasks, task.Plain) :
    ∃ ready, readyTasks queue = .ok ready := by
  have hopen : ∀ task ∈ readySet queue, task.Plain ∧ task.isTerminal = false := by
    intro task htask
    obtain ⟨hmem, hpending, -⟩ := mem_readySet.mp htask
    refine ⟨hplain task hmem, ?_⟩
    rw [Task.isTerminal, not_hasStatus hpending (by decide), not_hasStatus hpending (by decide)]
    rfl
  have htext : ∀ task ∈ readySet queue, ∃ s, task.readId = .str s := by
    intro task htask
    obtain ⟨hone, hnot⟩ := hopen task htask
    obtain ⟨s, hs⟩ := hone.text hnot
    refine ⟨s, ?_⟩
    unfold Task.get at hs
    unfold Task.readId
    cases hid : task.get? .id with
    | none =>
        rw [hid] at hs
        cases hs
    | some value =>
        rw [hid] at hs
        exact hs
  apply exists_sortTasks.mpr
  constructor
  · intro task htask
    exact (hopen task htask).1.priority (hopen task htask).2
  · apply List.pairwise_of_forall_mem_list
    intro a ha b hb _
    obtain ⟨s, hs⟩ := htext a ha
    obtain ⟨t, ht⟩ := htext b hb
    rw [hs, ht]
    rfl

/-- A dependency of a plain task is settled for `ready_tasks` when it is settled at all. -/
theorem notDeadlocked (hvalid : queue.Valid) (hplain : ∀ task ∈ queue.tasks, task.Plain)
    (hacyclic : Acyclic (DependsOn queue)) : NotDeadlocked queue := by
  rintro ⟨first, hfirst, hpending⟩
  by_cases hopen : ∃ task ∈ queue.tasks, task.countsAs "in_progress" = true ∨
      task.countsAs "blocked" = true ∨ task.countsAs "proposed" = true
  · exact Or.inr hopen
  left
  obtain ⟨ready, hready⟩ := exists_readyTasks hplain
  refine ⟨ready, hready, ?_⟩
  let pending := (queue.tasks.filter fun task => task.countsAs "pending").map Task.ownId
  have hne : pending ≠ [] :=
    List.ne_nil_of_mem (List.mem_map_of_mem (List.mem_filter.mpr ⟨hfirst, hpending⟩))
  obtain ⟨taskId, hmem, hend⟩ := hacyclic.exists_end pending hne
  obtain ⟨task, htask, rfl⟩ := List.mem_map.mp hmem
  obtain ⟨htask, hcounts⟩ := List.mem_filter.mp htask
  have hsettled : depsReady queue task = true := by
    apply depsReady_iff.mpr
    intro dependencyId hdependency
    obtain ⟨other, hother, rfl⟩ :=
      List.mem_map.mp (hvalid.dependencies task htask dependencyId hdependency).2.2
    have hunpadded := (hplain other hother).unpadded
    refine ⟨other, hother, ?_, ?_⟩
    · -- it is not pending, since the task is the last of the pending ones, and it is not open
      obtain ⟨status, hstatus, hcountsAs⟩ := (hvalid.checked other hother).status
      have hnotOpen := fun h => hopen ⟨other, hother, h⟩
      have hnotPending : other.countsAs "pending" = true → False := by
        intro h
        exact hend _ (List.mem_map_of_mem (List.mem_filter.mpr ⟨hother, h⟩))
          ⟨task, htask, rfl, hdependency⟩
      simp only [validStatuses, List.mem_cons, List.not_mem_nil, or_false] at hstatus
      rcases hstatus with rfl | rfl | rfl | rfl | rfl | rfl
      · exact absurd hcountsAs hnotPending
      · exact absurd (Or.inr (Or.inr hcountsAs)) hnotOpen
      · exact absurd (Or.inl hcountsAs) hnotOpen
      · exact absurd (Or.inr (Or.inl hcountsAs)) hnotOpen
      · rw [(hplain other hother).countsAs_eq] at hcountsAs
        rw [Task.isTerminal, hcountsAs, Bool.true_or]
      · rw [(hplain other hother).countsAs_eq] at hcountsAs
        rw [Task.isTerminal, hcountsAs, Bool.or_true]
    · rw [(hvalid.checked other hother).ownId_eq, hunpadded]
  rw [(hplain task htask).countsAs_eq] at hcounts
  have hreadyTask := (mem_of_sortTasks hready).mpr (mem_readySet.mpr ⟨htask, hcounts, hsettled⟩)
  exact List.ne_nil_of_mem hreadyTask

/-- No run deadlocks that starts from plain tasks without a cycle. -/
theorem notDeadlocked_afterAll (hvalid : queue.Valid) (hplain : ∀ task ∈ queue.tasks, task.Plain)
    (hacyclic : Acyclic (DependsOn queue)) (steps : List (Outside × Call)) :
    NotDeadlocked (afterAll hexdigest queue steps) ∧
      Acyclic (DependsOn (afterAll hexdigest queue steps)) := by
  have hplain' : ∀ task ∈ (afterAll hexdigest queue steps).tasks, task.Plain :=
    afterAll_invariant (P := fun queue => ∀ task ∈ queue.tasks, task.Plain)
      (fun _ _ _ _ _ => plain_of_perform) hplain steps
  have hacyclic' : Acyclic (DependsOn (afterAll hexdigest queue steps)) :=
    afterAll_invariant (P := fun queue => Acyclic (DependsOn queue))
      (fun _ _ _ _ _ => acyclic_of_perform) hacyclic steps
  exact ⟨notDeadlocked (valid_afterAll hvalid steps) hplain' hacyclic', hacyclic'⟩

theorem acyclic_of_growing (h : ∀ task ∈ queue.tasks, ∀ dependencyId ∈ task.dependencyIds,
    (dependencyId.sum : ℤ) < task.ownId.sum) : Acyclic (DependsOn queue) := by
  apply acyclic_of_rank fun taskId => (taskId.sum : ℤ)
  rintro taskId dependencyId ⟨task, htask, rfl, hdependency⟩
  exact h task htask dependencyId hdependency

instance (task : Task) : Decidable task.Plain :=
  decidable_of_iff ((task.get? .status).isSome = true ∧ strip task.rawId = task.rawId ∧
      (task.isTerminal = false → (task.get .id).str?.isSome = true) ∧
      (task.isTerminal = false → task.readPriority.hashable = true)) <| by
    have htext : (task.get .id).str?.isSome = true ↔ ∃ s, task.get .id = .str s := by
      cases task.get .id <;> simp [Value.str?]
    rw [htext]
    exact ⟨fun ⟨a, b, c, d⟩ => ⟨a, b, c, d⟩, fun ⟨a, b, c, d⟩ => ⟨a, b, c, d⟩⟩

def skipHeld : List (Outside × Call) :=
  [(⟨py "2026-01-01T00:00:00Z", py "fresh"⟩, .skip ⟨py "H-001", py "not needed"⟩)]

theorem notDeadlocked_afterAll_heldQueue :
    NotDeadlocked (afterAll (fun _ => []) heldQueue skipHeld) ∧
      Acyclic (DependsOn (afterAll (fun _ => []) heldQueue skipHeld)) :=
  notDeadlocked_afterAll (by decide +kernel) (by decide +kernel)
    (acyclic_of_growing (by decide +kernel)) skipHeld

/-- A task that is done, under an identifier that begins with a space, and one that depends on
it. -/
def indentedQueue : Queue where
  schemaVersion := some (.int 1)
  policy := none
  tasks :=
    [.ofEntries [(.id, .str (py " H-001")), (.status, .str (py "done"))],
      .ofEntries [(.id, .str (py "H-002")), (.status, .str (py "pending")),
        (.dependencies, .list [.str (py "H-001")])]]
  imports := none

theorem not_notDeadlocked : ¬ ∀ (hexdigest : PyString → PyString) (queue : Queue), queue.Valid →
    Acyclic (DependsOn queue) → ∀ steps, NotDeadlocked (afterAll hexdigest queue steps) := by
  intro h
  have hvalid : indentedQueue.Valid := by decide +kernel
  have hacyclic : Acyclic (DependsOn indentedQueue) := acyclic_of_growing (by decide +kernel)
  have hpending : ∃ task ∈ indentedQueue.tasks, task.countsAs "pending" = true := by
    decide +kernel
  have hready : readySet indentedQueue = [] := by decide +kernel
  have hopen : ¬ ∃ task ∈ indentedQueue.tasks, task.countsAs "in_progress" = true ∨
      task.countsAs "blocked" = true ∨ task.countsAs "proposed" = true := by
    decide +kernel
  rcases h (fun _ => []) indentedQueue hvalid hacyclic [] hpending with ⟨ready, hok, hne⟩ | hsome
  · change sortTasks (readySet indentedQueue) = .ok ready at hok
    rw [hready] at hok
    obtain ⟨task, htask⟩ := List.exists_mem_of_ne_nil ready hne
    exact List.not_mem_nil ((mem_of_sortTasks hok).mp htask)
  · exact hopen hsome

end Progress

end DevHarness.TaskQueue
