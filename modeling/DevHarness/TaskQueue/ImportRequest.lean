import DevHarness.TaskQueue.Import

/-!
# What an accepted import request says

The texts of an accepted request are stripped and not blank, its keys are distinct, and a
dependency belongs to an earlier wave.
-/

namespace DevHarness.TaskQueue

open PyText Sequence

/-- A text that stripping leaves alone, and that is not empty. -/
def IsClean (s : PyString) : Prop :=
  s ≠ [] ∧ strip s = s

theorem strip_strip (s : PyString) : strip (strip s) = strip s :=
  Strip.strip_strip

/-- What a task of an accepted request looks like. -/
structure ImportedTask.WellFormed (task : ImportedTask) : Prop where
  verify : ∀ s ∈ task.verify, IsClean s
  expectedFiles : ∀ s ∈ task.expectedFiles, IsClean s
  expectedFilesNodup : task.expectedFiles.Nodup

structure ImportDocument.WellFormed (document : ImportDocument) : Prop where
  tasks : ∀ task ∈ document.tasks, task.WellFormed
  distinct : (document.tasks.map ImportedTask.issueKey).Nodup
  earlier : ∀ task ∈ document.tasks, ∀ dependency ∈ task.dependencies,
    ∃ other ∈ document.tasks, other.issueKey = dependency ∧ other.wave < task.wave

section Texts

variable {value : Value} {s : PyString} {texts : List PyString} {maximum itemMaximum : ℕ}

theorem boundedText_eq_ok (h : boundedText value maximum = .ok s) : IsClean s := by
  unfold boundedText at h
  split at h
  · split at h
    · rename_i hbounds
      obtain rfl := Except.ok.inj h
      exact ⟨hbounds.1, strip_strip _⟩
    · cases h
  · cases h

theorem boundedTexts_eq_ok (h : boundedTexts value maximum itemMaximum = .ok texts) :
    (∀ s ∈ texts, IsClean s) ∧ texts.Nodup := by
  simp only [boundedTexts, bind_eq_ok, require_eq_ok, decide_eq_true_eq, Except.ok.injEq] at h
  obtain ⟨items, -, result, hmap, ⟨⟩, hnodup, rfl⟩ := h
  refine ⟨?_, hnodup⟩
  intro s hs
  obtain ⟨item, -, hitem⟩ := exists_of_mem_mapM hmap s hs
  exact boundedText_eq_ok hitem

end Texts

variable {task : ImportedTask} {value : Value}

theorem importedTask_eq_ok (h : importedTask value = .ok task) : task.WellFormed := by
  simp only [importedTask, bind_eq_ok] at h
  obtain ⟨_, -, _, -, _, -, _, -, _, -, _, -, _, -, _, -, _, -, _, -, _, -, _, -, _, -, _, -, _, -,
    verify, hverify, _, -, _, -, _, -, _, -, _, -, _, -, files, hfiles, _, -, hresult⟩ := h
  obtain rfl := Except.ok.inj hresult
  exact ⟨(boundedTexts_eq_ok hverify).1, (boundedTexts_eq_ok hfiles).1,
    (boundedTexts_eq_ok hfiles).2⟩

theorem checkImportedDependency_eq_ok {tasks : List ImportedTask} {dependency : PyString}
    (h : checkImportedDependency tasks task dependency = .ok ()) :
    ∃ other ∈ tasks, other.issueKey = dependency ∧ other.wave < task.wave := by
  unfold checkImportedDependency at h
  split at h
  · cases h
  · rename_i other hother
    rw [check_bind_eq_ok, require_eq_ok, require_eq_ok, decide_eq_true_eq, decide_eq_true_eq] at h
    have hkey := List.find?_some hother
    exact ⟨other, List.mem_of_find?_eq_some hother, of_decide_eq_true hkey, h.2⟩

theorem validateImportRequest_eq_ok {document : ImportDocument}
    (h : validateImportRequest value = .ok document) : document.WellFormed := by
  simp only [validateImportRequest, bind_eq_ok, require_eq_ok, decide_eq_true_eq,
    Except.ok.injEq] at h
  obtain ⟨_, -, _, -, _, -, _, -, _, -, _, -, _, -, rawTasks, -, _, -, tasks, htasks, _, hdistinct,
    ⟨⟩, hdependencies, _, -, rfl⟩ := h
  refine ⟨?_, hdistinct, ?_⟩
  · intro task htask
    obtain ⟨raw, -, hraw⟩ := exists_of_mem_mapM htasks task htask
    exact importedTask_eq_ok hraw
  · intro task htask dependency hdependency
    have hall := forM_eq_ok.mp (forM_eq_ok.mp hdependencies task htask)
    exact checkImportedDependency_eq_ok (hall dependency hdependency)

section Acyclic

variable {tasks : List ImportedTask}

theorem eq_of_issueKey_eq (hdistinct : (tasks.map ImportedTask.issueKey).Nodup)
    {task other : ImportedTask} (htask : task ∈ tasks) (hother : other ∈ tasks)
    (hkey : other.issueKey = task.issueKey) : other = task :=
  List.inj_on_of_nodup_map hdistinct hother htask hkey

end Acyclic

end DevHarness.TaskQueue
