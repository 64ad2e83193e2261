import DevHarness.TaskQueue.Allocation

/-!
# The tasks of an import

What `build_queue_tasks` makes of an accepted request, when the identifiers are those that follow
the largest one.
-/

namespace DevHarness.TaskQueue

open PyText Sequence

/-! ## Limits of a request -/

variable {value : Value} {outside : Outside} {document : ImportDocument} {taskIds : List PyString}
  {imported : ImportedTask} {taskId : PyString}

theorem boundedList_eq_ok {maximum : ℕ} {items : List Value}
    (h : boundedList value maximum = .ok items) : items.length ≤ maximum := by
  unfold boundedList at h
  split at h
  · split at h
    · rename_i hlength
      rwa [← Except.ok.inj h]
    · cases h
  · cases h

/-- A request has at most a hundred tasks, and its digest is written in hexadecimal. -/
theorem validateImportRequest_limits {document : ImportDocument}
    (h : validateImportRequest value = .ok document) :
    document.tasks.length ≤ 100 ∧ validDigest document.planDigest = true := by
  simp only [validateImportRequest, bind_eq_ok, require_eq_ok, Except.ok.injEq] at h
  obtain ⟨_, -, _, -, _, -, _, -, _, -, _, -, _, hdigest, rawTasks, hraw, _, -, tasks, htasks, _, -,
    ⟨⟩, -, _, -, rfl⟩ := h
  have hlength := (mapM_eq_ok.mp htasks).length_eq
  have hbound := boundedList_eq_ok hraw
  rw [hlength] at hbound
  exact ⟨hbound, hdigest⟩

section Checked

variable {texts : List PyString}

theorem isNonBlank_of_isClean {s : PyString} (h : IsClean s) : isNonBlank (.str s) = true := by
  have hne : strip s ≠ [] := h.2.symm ▸ h.1
  simpa [isNonBlank, Value.str?] using hne

section

variable (h : ∀ s ∈ texts, IsClean s)

include h

theorem all_isNonBlank : (texts.map Value.str).all isNonBlank = true := by
  rw [List.all_eq_true]
  intro value hvalue
  obtain ⟨s, hs, rfl⟩ := List.mem_map.mp hvalue
  exact isNonBlank_of_isClean (h s hs)

theorem isTextList_textList : isTextList (textList texts) = true :=
  all_isNonBlank h

theorem isResourceList_textList (hnodup : texts.Nodup) :
    isResourceList (textList texts) = true := by
  have hstripped : (texts.map Value.str).map (fun item => strip item.text) = texts := by
    rw [List.map_map]
    apply (List.map_congr_left _).trans (List.map_id' texts)
    intro s hs
    exact (h s hs).2
  have hall := all_isNonBlank h
  simp only [isResourceList, textList, Value.list?, Option.any_some, hall, hstripped, hnodup,
    decide_true, Bool.and_self]

end

theorem checkFields_queueTask (h : imported.WellFormed) :
    checkFields (queueTask outside document taskIds imported taskId) = .ok () := by
  have hverify : (queueTask outside document taskIds imported taskId).get .verify =
      textList imported.verify := rfl
  have hresources : (queueTask outside document taskIds imported taskId).get .exclusiveResources =
      textList imported.expectedFiles := rfl
  have hstatus : (queueTask outside document taskIds imported taskId).get? .status =
      some (.str (py "pending")) := rfl
  refine checkFields_eq_ok.mpr ⟨checkStatus_of_get? hstatus (by decide), ?_, ?_, ?_, ?_⟩
  · rw [hverify, absentOr, isTextList_textList h.verify, Bool.or_true]
  · constructor <;> rfl
  · rw [hresources, absentOr, isResourceList_textList h.expectedFiles h.expectedFilesNodup,
      Bool.or_true]
  · intro hproposed
    rw [Task.countsAs, readStatus_of_get? hstatus] at hproposed
    cases hproposed

end Checked

section Identifiers

def madeTasks (outside : Outside) (document : ImportDocument) (taskIds : List PyString) :
    List Task :=
  (document.tasks.zip taskIds).map fun pair => queueTask outside document taskIds pair.1 pair.2

theorem ownId_queueTask (hclean : strip taskId = taskId) :
    (queueTask outside document taskIds imported taskId).ownId = taskId := by
  have hget : (queueTask outside document taskIds imported taskId).get? .id = some (.str taskId) :=
    rfl
  rw [ownId_of_get?_id hget, hclean]

theorem textOf_id_queueTask :
    (queueTask outside document taskIds imported taskId).textOf .id = taskId := by
  have hget : (queueTask outside document taskIds imported taskId).get .id = .str taskId := rfl
  rw [Task.textOf, hget]
  cases taskId with
  | nil => rfl
  | cons c rest => rfl

theorem comesFrom_queueTask {issueKey : PyString} :
    comesFrom document issueKey (queueTask outside document taskIds imported taskId) = true ↔
      imported.issueKey = issueKey := by
  have hget : (queueTask outside document taskIds imported taskId).get .source =
      importSource document imported := rfl
  rw [comesFrom, hget]
  simp [importSource, Value.dict?, member, lookup, py]

theorem map_ownId_madeTasks (hlength : taskIds.length = document.tasks.length)
    (hclean : ∀ taskId ∈ taskIds, strip taskId = taskId) :
    (madeTasks outside document taskIds).map Task.ownId = taskIds := by
  have hsnd : (document.tasks.zip taskIds).map Prod.snd = taskIds :=
    List.map_snd_zip (le_of_eq hlength)
  rw [madeTasks, List.map_map]
  calc (document.tasks.zip taskIds).map _
      = (document.tasks.zip taskIds).map Prod.snd := by
        apply List.map_congr_left
        intro pair hpair
        exact ownId_queueTask (hclean pair.2 (List.of_mem_zip hpair).2)
    _ = taskIds := hsnd

theorem isSome_dependencies_queueTask :
    (queueTask outside document taskIds imported taskId).dependencies?.isSome = true := by
  have hget : (queueTask outside document taskIds imported taskId).get? .dependencies =
      some (textList (imported.dependencies.map (allocatedId document taskIds))) := rfl
  rw [Task.dependencies?, hget, Option.getD_some, textList]
  cases imported.dependencies with
  | nil => rfl
  | cons key keys => rfl

theorem eq_of_mem_zip {other : ImportedTask} (hnodup : taskIds.Nodup)
    (hlength : taskIds.length = document.tasks.length)
    (hother : (other, taskId) ∈ document.tasks.zip taskIds)
    (hpair : (imported, taskId) ∈ document.tasks.zip taskIds) : other = imported := by
  have hsnd : ((document.tasks.zip taskIds).map Prod.snd).Nodup := by
    rwa [List.map_snd_zip (le_of_eq hlength)]
  exact congrArg Prod.fst (List.inj_on_of_nodup_map hsnd hother hpair rfl)

theorem allocatedId_of_mem_zip (hdistinct : (document.tasks.map ImportedTask.issueKey).Nodup)
    (hlength : taskIds.length = document.tasks.length)
    (hpair : (imported, taskId) ∈ document.tasks.zip taskIds) :
    allocatedId document taskIds imported.issueKey = taskId := by
  have hmem : (imported.issueKey, taskId) ∈
      (document.tasks.map ImportedTask.issueKey).zip taskIds := by
    rw [List.zip_map_left]
    exact List.mem_map.mpr ⟨(imported, taskId), hpair, rfl⟩
  have hfst : (((document.tasks.map ImportedTask.issueKey).zip taskIds).map Prod.fst).Nodup := by
    rw [List.map_fst_zip (by rw [List.length_map]; exact ge_of_eq hlength)]
    exact hdistinct
  rw [allocatedId, find?_eq_some_of_unique hmem (decide_eq_true rfl)]
  · rfl
  · intro other hother hkey
    exact List.inj_on_of_nodup_map hfst hother hmem (of_decide_eq_true hkey)

theorem exists_mem_zip (hlength : taskIds.length = document.tasks.length)
    (h : imported ∈ document.tasks) : ∃ taskId, (imported, taskId) ∈ document.tasks.zip taskIds := by
  have hfst : (document.tasks.zip taskIds).map Prod.fst = document.tasks :=
    List.map_fst_zip (ge_of_eq hlength)
  rw [← hfst] at h
  obtain ⟨⟨other, taskId⟩, hpair, rfl⟩ := List.mem_map.mp h
  exact ⟨taskId, hpair⟩

theorem exists_dependency (hdocument : document.WellFormed)
    (hlength : taskIds.length = document.tasks.length)
    (hclean : ∀ taskId ∈ taskIds, strip taskId = taskId) (hmem : imported ∈ document.tasks)
    {key : PyString} (hkey : key ∈ imported.dependencies) :
    ∃ other otherId, (other, otherId) ∈ document.tasks.zip taskIds ∧ other.issueKey = key ∧
      other.wave < imported.wave ∧ strip (allocatedId document taskIds key) = otherId := by
  obtain ⟨other, hother, rfl, hwave⟩ := hdocument.earlier imported hmem key hkey
  obtain ⟨otherId, hpair⟩ := exists_mem_zip hlength hother
  have hallocated := allocatedId_of_mem_zip hdocument.distinct hlength hpair
  refine ⟨other, otherId, hpair, rfl, hwave, ?_⟩
  rw [hallocated, hclean otherId (List.of_mem_zip hpair).2]

end Identifiers

section Candidate

variable {queue candidate : Queue}

theorem valid_madeTasks_iff (hvalid : queue.Valid) (hdocument : document.WellFormed)
    (hlength : taskIds.length = document.tasks.length) (hnodup : taskIds.Nodup)
    (hids : ∀ taskId ∈ taskIds, strip taskId = taskId ∧ validTaskId taskId = true)
    (hschema : checkSchema candidate = .ok ())
    (htasks : candidate.tasks = queue.tasks ++ madeTasks outside document taskIds) :
    candidate.Valid ↔ ∀ task ∈ queue.tasks, task.ownId ∉ taskIds := by
  have hown : (madeTasks outside document taskIds).map Task.ownId = taskIds :=
    map_ownId_madeTasks hlength fun taskId htaskId => (hids taskId htaskId).1
  have hmap : candidate.tasks.map Task.ownId = queue.tasks.map Task.ownId ++ taskIds := by
    rw [htasks, List.map_append, hown]
  constructor
  · intro h task htask hmem
    have hdistinct := h.distinct
    rw [hmap, List.nodup_append] at hdistinct
    exact hdistinct.2.2 _ (List.mem_map_of_mem htask) _ hmem rfl
  · intro hfree
    refine ⟨hschema, ?_, ?_, ?_, ?_⟩
    · rw [hmap, List.nodup_append]
      refine ⟨hvalid.distinct, hnodup, ?_⟩
      rintro _ hold taskId hnew rfl
      obtain ⟨task, htask, hid⟩ := List.mem_map.mp hold
      exact hfree task htask (hid ▸ hnew)
    · intro task htask
      rw [htasks, List.mem_append] at htask
      rcases htask with htask | htask
      · exact hvalid.checked task htask
      · obtain ⟨⟨imported, taskId⟩, hpair, rfl⟩ := List.mem_map.mp htask
        obtain ⟨himported, htaskId⟩ := List.of_mem_zip hpair
        refine ⟨?_, checkFields_queueTask (hdocument.tasks imported himported)⟩
        rw [ownId_queueTask (hids taskId htaskId).1]
        exact (hids taskId htaskId).2
    · intro task htask
      rw [htasks, List.mem_append] at htask
      rcases htask with htask | htask
      · exact hvalid.iterable task htask
      · obtain ⟨⟨imported, taskId⟩, hpair, rfl⟩ := List.mem_map.mp htask
        exact isSome_dependencies_queueTask
    · intro task htask dependencyId hdependency
      rw [hmap]
      rw [htasks, List.mem_append] at htask
      rcases htask with htask | htask
      · obtain ⟨hne, hown, hknown⟩ := hvalid.dependencies task htask dependencyId hdependency
        exact ⟨hne, hown, List.mem_append_left _ hknown⟩
      · obtain ⟨⟨imported, taskId⟩, hpair, rfl⟩ := List.mem_map.mp htask
        obtain ⟨himported, htaskId⟩ := List.of_mem_zip hpair
        rw [dependencyIds_queueTask] at hdependency
        obtain ⟨key, hkey, rfl⟩ := List.mem_map.mp hdependency
        obtain ⟨other, otherId, hother, -, hwave, hid⟩ := exists_dependency hdocument hlength
          (fun taskId htaskId => (hids taskId htaskId).1) himported hkey
        have hotherId := (List.of_mem_zip hother).2
        rw [hid, ownId_queueTask (hids taskId htaskId).1]
        refine ⟨?_, ?_, List.mem_append_right _ hotherId⟩
        · rintro rfl
          cases (hids _ hotherId).2
        · rintro rfl
          have hsame := eq_of_mem_zip hnodup hlength hother hpair
          exact lt_irrefl _ (hsame ▸ hwave)

end Candidate

end DevHarness.TaskQueue
