import DevHarness.TaskQueue.RunInvariant

/-!
# What is written passes the validator

A transition rewrites a task that the validator has accepted into one that it accepts again.
-/

namespace DevHarness.TaskQueue

open PyText Sequence

variable {task task' : Task} {status : String}

section Checks

/-- The checks of the keys that transitions write. -/
structure WrittenFields (task : Task) : Prop where
  revision : absentOr isCount (task.get .revision) = true
  failureCount : absentOr isCount (task.get .autodevFailureCount) = true
  lastFailure : absentOr isFailure (task.get .lastAutodevFailure) = true
  requiredGate :
    absentOr (fun gate => gate.isText independentReviewGate) (task.get .requiredGate) = true
  leaseToken : absentOr (fun token => token.str?.isSome) (task.get .leaseToken) = true
  owner : absentOr (fun owner => owner.str?.isSome) (task.get .owner) = true

theorem checkFields_eq_ok :
    checkFields task = .ok () ↔ checkStatus task = .ok () ∧
      absentOr isTextList (task.get .verify) = true ∧ WrittenFields task ∧
      absentOr isResourceList (task.get .exclusiveResources) = true ∧
      (task.countsAs "proposed" = true → checkProposed task = .ok ()) := by
  have hproposed : (if task.readStatus.isText (py "proposed") then checkProposed task else .ok ()) =
      .ok () ↔ (task.countsAs "proposed" = true → checkProposed task = .ok ()) := by
    rw [Task.countsAs]
    split
    · rename_i h
      simp [h]
    · rename_i h
      simp [h]
  simp only [checkFields, check_bind_eq_ok, require_eq_ok, hproposed]
  constructor
  · rintro ⟨hstatus, hverify, hrevision, hcount, hlast, hgate, htoken, howner, hresources, hrest⟩
    exact ⟨hstatus, hverify, ⟨hrevision, hcount, hlast, hgate, htoken, howner⟩, hresources, hrest⟩
  · rintro ⟨hstatus, hverify, hwritten, hresources, hrest⟩
    exact ⟨hstatus, hverify, hwritten.revision, hwritten.failureCount, hwritten.lastFailure,
      hwritten.requiredGate, hwritten.leaseToken, hwritten.owner, hresources, hrest⟩

theorem readStatus_of_get? (h : task.get? .status = some (.str (py status))) :
    task.readStatus = .str (py status) := by
  rw [Task.readStatus, h, Option.getD_some]

theorem checkStatus_of_get? (h : task.get? .status = some (.str (py status)))
    (hstatus : status ∈ validStatuses) : checkStatus task = .ok () := by
  rw [checkStatus, check_bind_eq_ok, require_eq_ok, require_eq_ok, readStatus_of_get? h]
  refine ⟨rfl, ?_⟩
  rw [List.any_eq_true]
  exact ⟨status, hstatus, by simp⟩

/-- A transition to a status other than `proposed` keeps the checks that it does not touch. -/
theorem Task.Checked.of_rewritten (h : task.Checked) (hwritten : Rewritten task status task')
    (hstatus : status ∈ validStatuses) (hproposed : py status ≠ py "proposed")
    (hfields : WrittenFields task') : task'.Checked := by
  obtain ⟨hid, hchecks⟩ := h
  obtain ⟨-, hverify, -, hresources, -⟩ := checkFields_eq_ok.mp hchecks
  refine ⟨?_, checkFields_eq_ok.mpr ⟨checkStatus_of_get? hwritten.status hstatus, ?_, hfields,
    ?_, ?_⟩⟩
  · rw [ownId_congr (hwritten.kept .id rfl)]
    exact hid
  · rw [get_congr (hwritten.kept .verify rfl)]
    exact hverify
  · rw [get_congr (hwritten.kept .exclusiveResources rfl)]
    exact hresources
  · intro hcounts
    rw [Task.countsAs, readStatus_of_get? hwritten.status, Value.isText_str,
      decide_eq_true_eq] at hcounts
    exact absurd hcounts hproposed

theorem Rewritten.isCount (h : Rewritten task status task') :
    absentOr isCount (task'.get .revision) = true := by
  obtain ⟨n, hn, hrevision⟩ := h.revision
  have hnonneg := nonneg_of_taskRevision hn
  rw [Task.get, hrevision, Option.getD_some]
  simp only [absentOr, Value.isNone, TaskQueue.isCount, Value.int?, Bool.false_or,
    Option.any_some, decide_eq_true_eq]
  omega

end Checks

section Transitions

variable {outside : Outside} {now : PyString} {call : ClaimCall}

theorem WrittenFields.resumeForClaim (hfields : WrittenFields task)
    (h : resumeForClaim now call task = .ok task') : WrittenFields task' := by
  have hsame : ∀ field : Field, field ≠ .status → field ≠ .blockedReason → field ≠ .nextAction →
      field ≠ .notes → task'.get field = task.get field := by
    intro field hstatus hreason haction hnotes
    apply get_congr
    unfold TaskQueue.resumeForClaim at h
    split at h
    · rw [get?_appendNote h hnotes]
      simp [hstatus, hreason, haction]
    · rw [Except.ok.inj h]
  constructor
  · rw [hsame _ (by decide) (by decide) (by decide) (by decide)]
    exact hfields.revision
  · rw [hsame _ (by decide) (by decide) (by decide) (by decide)]
    exact hfields.failureCount
  · rw [hsame _ (by decide) (by decide) (by decide) (by decide)]
    exact hfields.lastFailure
  · rw [hsame _ (by decide) (by decide) (by decide) (by decide)]
    exact hfields.requiredGate
  · rw [hsame _ (by decide) (by decide) (by decide) (by decide)]
    exact hfields.leaseToken
  · rw [hsame _ (by decide) (by decide) (by decide) (by decide)]
    exact hfields.owner

theorem WrittenFields.leaseTask (hfields : WrittenFields task)
    (h : leaseTask outside call task = .ok task') : WrittenFields task' := by
  have hcount := (leaseTask_eq_ok h).1.isCount
  obtain ⟨-, howner, htoken, hgate⟩ := leaseTask_eq_ok h
  simp only [TaskQueue.leaseTask, bind_eq_ok] at h
  obtain ⟨bumped, hbump, hnote⟩ := h
  obtain ⟨n, -, rfl⟩ := bumpRevision_eq_ok.mp hbump
  refine ⟨hcount, ?_, ?_, ?_, ?_, ?_⟩
  · have hsame : task'.get? .autodevFailureCount = task.get? .autodevFailureCount := by
      rw [get?_appendNote hnote (by decide)]
      simp
    rw [get_congr hsame]
    exact hfields.failureCount
  · have hsame : task'.get? .lastAutodevFailure = task.get? .lastAutodevFailure := by
      rw [get?_appendNote hnote (by decide)]
      simp
    rw [get_congr hsame]
    exact hfields.lastFailure
  · rw [get_congr hgate]
    exact hfields.requiredGate
  · rw [Task.get, htoken]
    rfl
  · rw [Task.get, howner]
    rfl

end Transitions

section Put

variable {queue : Queue}

theorem checkSchema_loaded (h : checkSchema queue = .ok ()) : checkSchema queue.loaded = .ok () := by
  unfold checkSchema Queue.loaded
  unfold checkSchema at h
  cases hversion : queue.schemaVersion with
  | none => rfl
  | some version =>
      rw [hversion] at h
      exact h

theorem Queue.Valid.put (hvalid : queue.Valid) (hmem : task ∈ queue.tasks)
    (hwritten : Rewritten task status task') (hchecked : task'.Checked) :
    (queue.loaded.put task').Valid := by
  have hown : task'.ownId = task.ownId := ownId_congr (hwritten.kept .id rfl)
  have hput := tasks_put hvalid hown
  have htasks : (queue.loaded.put task').tasks = queue.tasks.map fun other =>
      if other.ownId = task.ownId then task' else other := hput
  have hcases : ∀ other ∈ (queue.loaded.put task').tasks, other = task' ∨ other ∈ queue.tasks := by
    intro other hother
    rw [htasks] at hother
    obtain ⟨before, hbefore, rfl⟩ := List.mem_map.mp hother
    split
    · exact Or.inl rfl
    · exact Or.inr hbefore
  have hids : (queue.loaded.put task').tasks.map Task.ownId = queue.tasks.map Task.ownId := by
    rw [htasks, List.map_map]
    apply List.map_congr_left
    intro other _
    rw [Function.comp_apply]
    split
    · rename_i hsame
      rw [hown, hsame]
    · rfl
  have hdependencies := hwritten.kept .dependencies rfl
  refine ⟨checkSchema_loaded hvalid.schema, ?_, ?_, ?_, ?_⟩
  · rw [hids]
    exact hvalid.distinct
  · intro other hother
    rcases hcases other hother with rfl | hother
    · exact hchecked
    · exact hvalid.checked other hother
  · intro other hother
    rcases hcases other hother with rfl | hother
    · rw [Task.dependencies?, hdependencies]
      exact hvalid.iterable task hmem
    · exact hvalid.iterable other hother
  · intro other hother
    rw [hids]
    rcases hcases other hother with rfl | hother
    · rw [dependencyIds_congr hdependencies, hown]
      exact hvalid.dependencies task hmem
    · exact hvalid.dependencies other hother

end Put

end DevHarness.TaskQueue
