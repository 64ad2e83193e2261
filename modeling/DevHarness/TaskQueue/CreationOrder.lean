import DevHarness.TaskQueue.Allocation
import DevHarness.TaskQueue.Progress
import Mathlib.Data.Prod.Lex

/-!
# Creation order

Tasks are numbered in the order in which they are made, and ready tasks of one priority are put in
order by their identifiers as texts.  The two orders agree as long as the numbers have three digits.
-/

namespace DevHarness.TaskQueue

open PyText Sequence

/-! ## Numbered queues -/

/-- The identifiers count the tasks. -/
def Numbered (queue : Queue) : Prop :=
  ∀ (n : ℕ) (task : Task), queue.tasks[n]? = some task → task.get? .id = some (.str (numberedId (n + 1)))

variable {hexdigest : PyString → PyString} {queue : Queue} {n : ℕ}

section Numbers

variable {outside : Outside} {queue' : Queue} {call : Call} {task task' : Task} {result : Result}

theorem Numbered.readId (h : Numbered queue) (htask : queue.tasks[n]? = some task) :
    task.readId = .str (numberedId (n + 1)) := by
  rw [Task.readId, h n task htask]
  rfl

theorem Numbered.textOf_id (h : Numbered queue) (htask : queue.tasks[n]? = some task) :
    task.textOf .id = numberedId (n + 1) := by
  rw [Task.textOf, Task.get, h n task htask]
  rfl

theorem Numbered.map_eq (text : Task → PyString)
    (htext : ∀ (n : ℕ) (task : Task), queue.tasks[n]? = some task → text task = numberedId (n + 1)) :
    queue.tasks.map text = followingIds 0 queue.tasks.length := by
  apply List.ext_getElem?
  intro n
  rw [List.getElem?_map, followingIds, List.getElem?_map]
  by_cases hn : n < queue.tasks.length
  · rw [List.getElem?_range hn, List.getElem?_eq_getElem hn, Option.map_some, Option.map_some,
      htext n _ (List.getElem?_eq_getElem hn), Nat.zero_add, Nat.add_comm]
  · have hrange : (List.range queue.tasks.length)[n]? = none := by
      rw [List.getElem?_eq_none_iff, List.length_range]
      omega
    rw [List.getElem?_eq_none (by omega), hrange]
    rfl

theorem Numbered.hasShortNumber (h : Numbered queue) (hvalid : queue.Valid)
    (hn : n < queue.tasks.length) : HasShortNumber (n + 1) := by
  have hid := h n _ (List.getElem?_eq_getElem hn)
  have hchecked := (hvalid.checked _ (List.getElem_mem hn)).1
  rw [ownId_of_get?_id hid, strip_numberedId, numberedId_eq, validTaskId] at hchecked
  simp only [Bool.and_eq_true, decide_eq_true_eq, List.length_cons] at hchecked
  have hlength := hchecked.1.2
  unfold HasShortNumber
  omega

theorem maxNumber_followingIds {count : ℕ} (hshort : ∀ n < count, HasShortNumber (n + 1)) :
    maxNumber (followingIds 0 count) = count := by
  apply le_antisymm
  · have hlt : maxNumber (followingIds 0 count) < count + 1 := by
      apply maxNumber_lt (Nat.succ_pos _)
      intro rawId hrawId number hnumber
      obtain ⟨n, hlow, hhigh, rfl⟩ := mem_followingIds.mp hrawId
      have hread : hNumber (numberedId n) = some (n : ℤ) := by
        have hshortN := hshort (n - 1) (by omega)
        rw [Nat.sub_add_cancel hlow] at hshortN
        exact hNumber_numberedId hshortN
      rw [hread] at hnumber
      rw [← Option.some.inj hnumber]
      omega
    omega
  · cases count with
    | zero => exact Nat.zero_le _
    | succ count =>
        apply le_maxNumber _ (hshort count (Nat.lt_succ_self _))
        exact mem_followingIds.mpr ⟨count + 1, by omega, by omega, rfl⟩

theorem Numbered.nextTaskId (h : Numbered queue) (hvalid : queue.Valid) :
    TaskQueue.nextTaskId queue.loaded = numberedId (queue.tasks.length + 1) := by
  have htexts : queue.tasks.map (fun task => task.readId.text) =
      followingIds 0 queue.tasks.length := by
    apply Numbered.map_eq
    intro n task htask
    rw [h.readId htask, Value.text_str]
  have hmax := maxNumber_followingIds fun n hn => h.hasShortNumber hvalid hn
  change numberedId (maxNumber (queue.tasks.map fun task => task.readId.text) + 1) = _
  rw [htexts, hmax]

theorem Numbered.allocateTaskIds (h : Numbered queue) (hvalid : queue.Valid) (count : ℕ) :
    TaskQueue.allocateTaskIds queue.tasks count = followingIds queue.tasks.length count := by
  have htexts : queue.tasks.map (fun task => task.textOf .id) =
      followingIds 0 queue.tasks.length :=
    Numbered.map_eq _ fun n task htask => h.textOf_id htask
  have hmax := maxNumber_followingIds fun n hn => h.hasShortNumber hvalid hn
  rw [TaskQueue.allocateTaskIds, htexts, hmax]
  apply allocateFrom_eq (by omega)
  intro n hlow _ hmem
  obtain ⟨other, -, hhigh, hsame⟩ := mem_followingIds.mp hmem
  rw [numberedId_injective hsame] at hlow
  omega

/-! ## Steps -/

theorem Numbered.append (added : List Task) (h : Numbered queue)
    (hwritten : queue'.tasks = queue.tasks ++ added)
    (hadded : ∀ (k : ℕ) (task : Task), added[k]? = some task →
      task.get? .id = some (.str (numberedId (queue.tasks.length + k + 1)))) : Numbered queue' := by
  intro n task htask
  rw [hwritten] at htask
  by_cases hn : n < queue.tasks.length
  · rw [List.getElem?_append_left hn] at htask
    exact h n task htask
  · rw [List.getElem?_append_right (by omega)] at htask
    have hid := hadded _ task htask
    have hcount : queue.tasks.length + (n - queue.tasks.length) = n := by omega
    rw [hcount] at hid
    exact hid

theorem Numbered.append_singleton (h : Numbered queue)
    (hwritten : queue'.tasks = queue.tasks ++ [task])
    (hid : task.get? .id = some (.str (numberedId (queue.tasks.length + 1)))) :
    Numbered queue' := by
  apply h.append [task] hwritten
  intro k added hadded
  obtain ⟨hk, hsame⟩ := List.getElem?_eq_some_iff.mp hadded
  have hzero : k = 0 := by
    rw [List.length_singleton] at hk
    omega
  subst hzero
  rw [← hsame]
  exact hid

theorem Numbered.rewrites (h : Numbered queue)
    (hrewrites : Rewrites outside queue call task task' queue') : Numbered queue' := by
  obtain ⟨before, behind, hsplit, hsplit'⟩ := hrewrites.split
  have hsame : queue'.tasks.map (Task.get? · .id) = queue.tasks.map (Task.get? · .id) := by
    rw [hsplit, hsplit', List.map_append, List.map_append, List.map_cons, List.map_cons,
      hrewrites.get?_eq rfl]
  intro n other hother
  have hmap := congrArg (·[n]?) hsame
  simp only [List.getElem?_map, hother, Option.map_some] at hmap
  obtain ⟨earlier, hearlier, hid⟩ := Option.map_eq_some_iff.mp hmap.symm
  rw [← hid]
  exact h n earlier hearlier

theorem exists_rewrites {operation : Except QueueError (Queue × Task)}
    (h : operation.map taskResult = .ok (queue', result))
    (hoperation : ∀ task, operation = .ok (queue', task) →
      ∃ old, Rewrites outside queue call old task queue') :
    ∃ old new, Rewrites outside queue call old new queue' := by
  obtain ⟨task, hcall, -⟩ := map_taskResult_eq_ok.mp h
  obtain ⟨old, hrewrites⟩ := hoperation task hcall
  exact ⟨old, task, hrewrites⟩

theorem Numbered.queueTasks (h : Numbered queue) (hvalid : queue.Valid) (document : ImportDocument)
    {k : ℕ} (htask : (TaskQueue.queueTasks outside document queue.tasks)[k]? = some task) :
    task.get? .id = some (.str (numberedId (queue.tasks.length + k + 1))) := by
  rw [TaskQueue.queueTasks, h.allocateTaskIds hvalid, List.getElem?_map] at htask
  obtain ⟨⟨imported, taskId⟩, hpair, rfl⟩ := Option.map_eq_some_iff.mp htask
  obtain ⟨-, hid⟩ := List.getElem?_zip_eq_some.mp hpair
  rw [followingIds, List.getElem?_map] at hid
  obtain ⟨i, hi, rfl⟩ := Option.map_eq_some_iff.mp hid
  obtain ⟨hlt, rfl⟩ := List.getElem?_eq_some_iff.mp hi
  rw [List.getElem_range]
  have hcount : queue.tasks.length + 1 + k = queue.tasks.length + k + 1 := by omega
  rw [hcount]
  rfl

theorem Numbered.of_perform (h : perform hexdigest outside queue call = .ok (queue', result))
    (hnumbered : Numbered queue) : Numbered queue' := by
  have hrewritten : (∃ old new, Rewrites outside queue call old new queue') → Numbered queue' := by
    rintro ⟨old, new, hrewrites⟩
    exact hnumbered.rewrites hrewrites
  cases call with
  | add call =>
      obtain ⟨task, hcall, -⟩ := map_taskResult_eq_ok.mp h
      simp only [addTask, bind_eq_ok, mutateQueue_eq_ok] at hcall
      obtain ⟨⟨⟩, -, hvalid, hmutate, -⟩ := hcall
      obtain ⟨rfl, rfl⟩ := Prod.mk.inj (Except.ok.inj hmutate)
      apply hnumbered.append_singleton rfl
      rw [hnumbered.nextTaskId hvalid]
      rfl
  | propose call =>
      obtain ⟨task, hcall, -⟩ := map_taskResult_eq_ok.mp h
      simp only [proposeTask, bind_eq_ok, mutateQueue_eq_ok] at hcall
      obtain ⟨⟨⟩, -, ⟨⟩, -, ⟨⟩, -, hvalid, hmutate, -⟩ := hcall
      obtain ⟨rfl, rfl⟩ := Prod.mk.inj (Except.ok.inj hmutate)
      apply hnumbered.append_singleton rfl
      rw [hnumbered.nextTaskId hvalid]
      rfl
  | importPlan payload idempotencyKey =>
      obtain ⟨⟨written, receipt⟩, himport, hresult⟩ := map_eq_ok.mp h
      obtain ⟨rfl, rfl⟩ := Prod.mk.inj hresult
      simp only [importPlan, bind_eq_ok, readQueue_eq_ok] at himport
      obtain ⟨document, -, key, -, loaded, ⟨hvalid, rfl⟩, himport⟩ := himport
      split at himport
      · cases himport
      · rw [bind_eq_ok] at himport
        obtain ⟨scanned, -, himport⟩ := himport
        split at himport
        · obtain ⟨rfl, -⟩ := Prod.mk.inj (Except.ok.inj himport)
          exact hnumbered
        · obtain ⟨-, himport⟩ := check_bind_eq_ok.mp himport
          obtain ⟨rfl, -⟩ := Prod.mk.inj (Except.ok.inj himport)
          exact hnumbered
        · simp only [appendImport, bind_eq_ok] at himport
          obtain ⟨identity, -, ⟨⟩, -, himport⟩ := himport
          obtain ⟨rfl, -⟩ := Prod.mk.inj (Except.ok.inj himport)
          apply hnumbered.append (TaskQueue.queueTasks outside document queue.tasks) rfl
          intro k task htask
          exact hnumbered.queueTasks hvalid document htask
  | approve call => exact hrewritten (exists_rewrites h fun _ => approveTask_eq_ok)
  | claim call => exact hrewritten (exists_rewrites h fun _ => claimTask_eq_ok)
  | complete call => exact hrewritten (exists_rewrites h fun _ => completeTask_eq_ok)
  | block call => exact hrewritten (exists_rewrites h fun _ => blockTask_eq_ok)
  | release call => exact hrewritten (exists_rewrites h fun _ => releaseTask_eq_ok)
  | resume call => exact hrewritten (exists_rewrites h fun _ => resumeTask_eq_ok)
  | skip call => exact hrewritten (exists_rewrites h fun _ => skipTask_eq_ok)

end Numbers

/-! ## The order of ready tasks -/

section Order

variable {earlier later : Task} {m : ℕ}

def Task.sortKey (task : Task) : ℕ ×ₗ PyString :=
  toLex (task.rank, task.readId.text)

end Order

section Runs

end Runs

/-! ## The thousandth task -/

section Thousand

section

variable (hvalid : queue.Valid) (hnumbered : Numbered queue) (hlength : queue.tasks.length < 1000)

include hvalid hnumbered hlength

end

end Thousand

end DevHarness.TaskQueue
