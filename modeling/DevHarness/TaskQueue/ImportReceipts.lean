import DevHarness.TaskQueue.ImportedTasks

/-!
# The receipt of an import

The receipt that is written with the tasks of an import is accepted against these tasks.
-/

namespace DevHarness.TaskQueue

open PyText Sequence

/-! ## The mappings -/

def receiptEntry (pair : PyString × PyString) : Value :=
  .dict [(.str (py "issueKey"), .str pair.1), (.str (py "externalTaskId"), .str pair.2)]

theorem receiptPair_receiptEntry (pair : PyString × PyString) :
    receiptPair (receiptEntry pair) = .ok pair :=
  rfl

theorem receiptMappings_entries {mappings pairs : List (PyString × PyString)}
    (hkeys : ((mappings ++ pairs).map Prod.fst).Nodup)
    (hids : ((mappings ++ pairs).map Prod.snd).Nodup) :
    receiptMappings mappings (pairs.map receiptEntry) = .ok (mappings ++ pairs) := by
  induction pairs generalizing mappings with
  | nil => rw [List.map_nil, receiptMappings, List.append_nil]
  | cons pair pairs ih =>
      have hkey : pair.1 ∉ mappings.map Prod.fst := by
        rw [List.map_append, List.map_cons, List.nodup_append] at hkeys
        exact fun hmem => hkeys.2.2 _ hmem _ List.mem_cons_self rfl
      have hid : pair.2 ∉ mappings.map Prod.snd := by
        rw [List.map_append, List.map_cons, List.nodup_append] at hids
        exact fun hmem => hids.2.2 _ hmem _ List.mem_cons_self rfl
      have hsplit : mappings ++ pair :: pairs = mappings ++ [pair] ++ pairs := by
        rw [List.append_assoc, List.singleton_append]
      rw [hsplit] at hkeys hids ⊢
      rw [List.map_cons, receiptMappings, receiptPair_receiptEntry, ok_bind, ← ih hkeys hids,
        check_bind_ok]
      rw [require_eq_ok, Bool.and_eq_true, decide_eq_true_eq, decide_eq_true_eq]
      exact ⟨hkey, hid⟩

section Receipt

variable {hexdigest : PyString → PyString} {outside : Outside} {document : ImportDocument}
  {taskIds : List PyString} {tasks : List Task} {identity : PyString}

def keyPairs (document : ImportDocument) (taskIds : List PyString) : List (PyString × PyString) :=
  (document.tasks.zip taskIds).map fun pair => (pair.1.issueKey, pair.2)

section

variable (hlength : taskIds.length = document.tasks.length)

include hlength

theorem map_fst_keyPairs :
    (keyPairs document taskIds).map Prod.fst = document.tasks.map ImportedTask.issueKey := by
  have hfst : (document.tasks.zip taskIds).map Prod.fst = document.tasks :=
    List.map_fst_zip (ge_of_eq hlength)
  calc (keyPairs document taskIds).map Prod.fst
      = ((document.tasks.zip taskIds).map Prod.fst).map ImportedTask.issueKey := by
        rw [keyPairs, List.map_map, List.map_map]
        rfl
    _ = document.tasks.map ImportedTask.issueKey := by rw [hfst]

theorem map_snd_keyPairs : (keyPairs document taskIds).map Prod.snd = taskIds := by
  rw [keyPairs, List.map_map]
  exact List.map_snd_zip (le_of_eq hlength)

theorem persistedTask_madeTasks {imported : ImportedTask} {taskId : PyString}
    (hnodup : taskIds.Nodup) (hraw : ∀ task ∈ tasks, task.textOf .id ∉ taskIds)
    (hpair : (imported, taskId) ∈ document.tasks.zip taskIds) :
    persistedTask (tasks ++ madeTasks outside document taskIds) taskId =
      some (queueTask outside document taskIds imported taskId) := by
  have hmade : queueTask outside document taskIds imported taskId ∈
      madeTasks outside document taskIds := List.mem_map.mpr ⟨(imported, taskId), hpair, rfl⟩
  apply find?_eq_some_of_unique
  · rw [List.mem_reverse, List.mem_append]
    exact Or.inr hmade
  · rw [textOf_id_queueTask]
    exact decide_eq_true rfl
  · intro task htask hid
    have hid := of_decide_eq_true hid
    rw [List.mem_reverse, List.mem_append] at htask
    rcases htask with htask | htask
    · refine absurd ?_ (hraw task htask)
      rw [hid]
      exact (List.of_mem_zip hpair).2
    · obtain ⟨⟨other, otherId⟩, hother, rfl⟩ := List.mem_map.mp htask
      obtain rfl : otherId = taskId := textOf_id_queueTask.symm.trans hid
      rw [eq_of_mem_zip hnodup hlength hother hpair]

end

theorem validateStoredReceipt_made (hdocument : document.WellFormed)
    (hlength : taskIds.length = document.tasks.length) (hnodup : taskIds.Nodup)
    (hraw : ∀ task ∈ tasks, task.textOf .id ∉ taskIds)
    (hidentity : importId hexdigest document = .ok identity) {receipt : Value}
    (hreceipt : receipt = .dict [(.str (py "importId"), .str identity),
      (.str (py "atomic"), .bool true), (.str (py "planDigest"), .str document.planDigest),
      (.str (py "tasks"), .list ((keyPairs document taskIds).map receiptEntry))]) :
    validateStoredReceipt hexdigest receipt document
      (tasks ++ madeTasks outside document taskIds) = .ok receipt := by
  have hfst := map_fst_keyPairs hlength
  have hsnd := map_snd_keyPairs hlength
  have hmappings : receiptMappings [] ((keyPairs document taskIds).map receiptEntry) =
      .ok (keyPairs document taskIds) := by
    apply receiptMappings_entries
    · rw [List.nil_append, hfst]
      exact hdocument.distinct
    · rw [List.nil_append, hsnd]
      exact hnodup
  have hpersisted : ((keyPairs document taskIds).all fun pair =>
      (persistedTask (tasks ++ madeTasks outside document taskIds) pair.2).any
        (comesFrom document pair.1)) = true := by
    rw [List.all_eq_true]
    intro pair hpair
    obtain ⟨⟨imported, taskId⟩, hzip, rfl⟩ := List.mem_map.mp hpair
    rw [persistedTask_madeTasks hlength hnodup hraw hzip, Option.any_some]
    exact comesFrom_queueTask.mpr rfl
  subst hreceipt
  have hfields : hasExactly [(.str (py "importId"), .str identity),
      (.str (py "atomic"), .bool true), (.str (py "planDigest"), .str document.planDigest),
      (.str (py "tasks"), .list ((keyPairs document taskIds).map receiptEntry))]
      ["importId", "atomic", "planDigest", "tasks"] = true := rfl
  simp only [validateStoredReceipt, Value.dict?, hfields, require, hidentity, ok_bind]
  simp [member, lookup, py, hmappings, hfst, hpersisted, ok_bind, Value.list?]

end Receipt

end DevHarness.TaskQueue
