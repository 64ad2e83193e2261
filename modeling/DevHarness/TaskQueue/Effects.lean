import DevHarness.TaskQueue.Import

/-!
# What an operation does to a task

Each operation rewrites one task or appends new ones.  Everything later is derived from what is
said here.
-/

namespace DevHarness.TaskQueue

open PyText Sequence

def Queue.loaded (queue : Queue) : Queue :=
  { queue with
    schemaVersion := some (queue.schemaVersion.getD (.int 1))
    policy := some (queue.policy.getD (.dict [])) }

theorem readQueue_eq_ok {queue loaded : Queue} :
    readQueue queue = .ok loaded ↔ queue.Valid ∧ loaded = queue.loaded := by
  rw [readQueue, check_bind_eq_ok, validateQueue_eq_ok]
  apply and_congr_right
  intro _
  rw [Except.ok.injEq, eq_comm]
  rfl

theorem mutateQueue_eq_ok {α : Type} {queue : Queue}
    {mutate : Queue → Except QueueError (Queue × α)} {result : Queue × α} :
    mutateQueue queue mutate = .ok result ↔
      queue.Valid ∧ mutate queue.loaded = .ok result ∧ result.1.Valid := by
  simp only [mutateQueue, bind_eq_ok, readQueue_eq_ok]
  constructor
  · rintro ⟨-, ⟨hvalid, rfl⟩, mutated, hmutate, ⟨⟩, hwritten, hresult⟩
    obtain rfl := Except.ok.inj hresult
    exact ⟨hvalid, hmutate, validateQueue_eq_ok.mp hwritten⟩
  · rintro ⟨hvalid, hmutate, hwritten⟩
    exact ⟨_, ⟨hvalid, rfl⟩, result, hmutate, (), validateQueue_eq_ok.mpr hwritten, rfl⟩

theorem maxInProgress_loaded (queue : Queue) :
    maxInProgress queue.loaded = maxInProgress queue := rfl

/-! ## Fields that are never rewritten -/

def Field.immutable : Field → Bool
  | .id => true
  | .title => true
  | .priority => true
  | .area => true
  | .goal => true
  | .dependencies => true
  | .exclusiveResources => true
  | .acceptance => true
  | .acceptanceContract => true
  | .verify => true
  | .developmentPrompt => true
  | .completionEvidence => true
  | .expectedFiles => true
  | .executionWave => true
  | .preferredBuilder => true
  | .modelRoute => true
  | .source => true
  | .createdAt => true
  | _ => false

variable {field other : Field} {task task' : Task} {now note : PyString}

section

variable (hfield : field.immutable = true) (hother : other.immutable = false)

include hfield hother

theorem Field.ne_of_immutable : field ≠ other := by
  rintro rfl
  rw [hfield] at hother
  cases hother

theorem Task.get?_set_immutable {value : Value} :
    (task.set other value).get? field = task.get? field :=
  get?_set_of_ne (Field.ne_of_immutable hfield hother)

theorem Task.get?_pop_immutable : (task.pop other).get? field = task.get? field :=
  get?_pop_of_ne (Field.ne_of_immutable hfield hother)

end

/-- A task as a transition leaves it: a status, the next revision, and its own description. -/
structure Rewritten (task : Task) (status : String) (task' : Task) : Prop where
  kept : ∀ field, field.immutable = true → task'.get? field = task.get? field
  status : task'.get? .status = some (.str (py status))
  revision : ∃ n, taskRevision task = .ok n ∧ task'.get? .revision = some (.int (n + 1))

section Parts

variable {items : List Value} {n : ℤ}

theorem bumpRevision_eq_ok :
    bumpRevision task = .ok task' ↔
      ∃ n, taskRevision task = .ok n ∧ task' = task.set .revision (.int (n + 1)) := by
  rw [bumpRevision, bind_eq_ok]
  simp only [Except.ok.injEq, eq_comm]

theorem extendList_eq_ok (h : extendList field items task = .ok task') :
    ∃ all, task' = task.set field (.list all) := by
  unfold extendList at h
  split at h
  · exact ⟨_, (Except.ok.inj h).symm⟩
  · cases h

theorem get?_extendList (h : extendList field items task = .ok task') (hne : other ≠ field) :
    task'.get? other = task.get? other := by
  obtain ⟨all, rfl⟩ := extendList_eq_ok h
  exact Task.get?_set_of_ne hne

theorem get?_appendNote (h : appendNote now note task = .ok task') (hne : other ≠ .notes) :
    task'.get? other = task.get? other := by
  unfold appendNote at h
  split at h
  · rw [Except.ok.inj h]
  · exact get?_extendList h hne

theorem get?_appendArtifacts {artifacts : List PyString}
    (h : appendArtifacts artifacts task = .ok task') (hne : other ≠ .artifacts) :
    task'.get? other = task.get? other := by
  unfold appendArtifacts at h
  split at h
  · rw [Except.ok.inj h]
  · exact get?_extendList h hne

theorem taskRevision_congr (h : task'.get? .revision = task.get? .revision) :
    taskRevision task' = taskRevision task := by
  rw [taskRevision, taskRevision, h]

theorem taskRevision_eq_ok (h : task.get? .revision = some (.int n)) (hn : 0 ≤ n) :
    taskRevision task = .ok n := by
  rw [taskRevision, h, Option.getD_some]
  simp only
  rw [if_neg (by omega)]

theorem nonneg_of_taskRevision (h : taskRevision task = .ok n) : 0 ≤ n := by
  unfold taskRevision at h
  split at h
  · split at h
    · cases h
    · cases h
      omega
  · cases h

end Parts

section Transitions

variable {outside : Outside} {started bumped written : Task} {status : String} {call : ClaimCall}

theorem rewritten_of_parts (hbump : bumpRevision started = .ok bumped)
    (hnote : appendNote now note written = .ok task')
    (hstarted : started.get? .revision = task.get? .revision)
    (hkept : ∀ field, field.immutable = true → written.get? field = task.get? field)
    (hstatus : written.get? .status = some (.str (py status)))
    (hrevision : written.get? .revision = bumped.get? .revision) : Rewritten task status task' := by
  obtain ⟨n, hn, rfl⟩ := bumpRevision_eq_ok.mp hbump
  refine ⟨?_, ?_, n, ?_, ?_⟩
  · intro field hfield
    rw [get?_appendNote hnote (Field.ne_of_immutable hfield rfl), hkept field hfield]
  · rw [get?_appendNote hnote (by decide), hstatus]
  · rw [← hn, taskRevision_congr hstarted]
  · rw [get?_appendNote hnote (by decide), hrevision, Task.get?_set_self]

theorem leaseTask_eq_ok (h : leaseTask outside call task = .ok task') :
    Rewritten task "in_progress" task' ∧
      task'.get? .owner = some (.str (orText call.owner (py "autodev"))) ∧
      task'.get? .leaseToken = some (.str (orText call.leaseToken outside.freshToken)) ∧
      task'.get? .requiredGate = task.get? .requiredGate := by
  rw [leaseTask, bind_eq_ok] at h
  obtain ⟨bumped, hbump, hnote⟩ := h
  obtain ⟨n, -, rfl⟩ := bumpRevision_eq_ok.mp hbump
  refine ⟨rewritten_of_parts hbump hnote (by simp) ?_ (by simp) (by simp), ?_, ?_, ?_⟩
  · intro field hfield
    simp (disch := decide) only [Task.get?_set_immutable hfield]
  all_goals
    rw [get?_appendNote hnote (by decide)]
    simp

theorem finishTask_eq_ok {call : CompleteCall} (h : finishTask outside call task = .ok task') :
    Rewritten task "done" task' ∧ task'.get? .leaseToken = none := by
  simp only [finishTask, bind_eq_ok] at h
  obtain ⟨bumped, hbump, extended, hextend, hnote⟩ := h
  obtain ⟨n, -, rfl⟩ := bumpRevision_eq_ok.mp hbump
  refine ⟨rewritten_of_parts hbump hnote (by simp) ?_ ?_ ?_, ?_⟩
  · intro field hfield
    rw [get?_appendArtifacts hextend (Field.ne_of_immutable hfield rfl)]
    split <;>
      simp (disch := decide) only [releaseLease, clearFailures, Task.get?_set_immutable hfield,
        Task.get?_pop_immutable hfield]
  · rw [get?_appendArtifacts hextend (by decide)]
    split <;> simp [releaseLease, clearFailures]
  · rw [get?_appendArtifacts hextend (by decide)]
    split <;> simp [releaseLease, clearFailures]
  · rw [get?_appendNote hnote (by decide), get?_appendArtifacts hextend (by decide)]
    split <;> simp [releaseLease, clearFailures]

theorem returnTask_eq_ok {call : ReleaseCall} (h : returnTask outside call task = .ok task') :
    Rewritten task "pending" task' ∧ task'.get? .leaseToken = none ∧
      task'.get? .requiredGate = task.get? .requiredGate := by
  simp only [returnTask, bind_eq_ok] at h
  obtain ⟨bumped, hbump, hnote⟩ := h
  obtain ⟨n, -, rfl⟩ := bumpRevision_eq_ok.mp hbump
  refine ⟨rewritten_of_parts hbump hnote (by simp) ?_ (by simp [releaseLease])
    (by simp [releaseLease]), ?_, ?_⟩
  · intro field hfield
    simp (disch := decide) only [releaseLease, Task.get?_set_immutable hfield,
      Task.get?_pop_immutable hfield]
  all_goals
    rw [get?_appendNote hnote (by decide)]
    simp [releaseLease]

theorem get?_recordFailure {call : BlockCall} {field : Field}
    (hcount : field ≠ .autodevFailureCount) (hlast : field ≠ .lastAutodevFailure)
    (hgate : field ≠ .requiredGate) :
    (recordFailure outside call task).get? field = task.get? field := by
  unfold recordFailure
  split
  · rfl
  · simp only
    split <;> simp [hcount, hlast, hgate]

theorem requiredGate_recordFailure (outside : Outside) (call : BlockCall) (task : Task) :
    (recordFailure outside call task).get? .requiredGate = task.get? .requiredGate ∨
      (recordFailure outside call task).get? .requiredGate =
        some (.str independentReviewGate) := by
  unfold recordFailure
  split
  · exact Or.inl rfl
  · simp only
    split
    · exact Or.inr Task.get?_set_self
    · left
      simp

theorem blockedTask_eq_ok {call : BlockCall} (h : blockedTask outside call task = .ok task') :
    Rewritten task "blocked" task' ∧ task'.get? .leaseToken = none ∧
      (task'.get? .requiredGate = task.get? .requiredGate ∨
        task'.get? .requiredGate = some (.str independentReviewGate)) := by
  simp only [blockedTask, bind_eq_ok] at h
  obtain ⟨bumped, hbump, hnote⟩ := h
  obtain ⟨n, -, rfl⟩ := bumpRevision_eq_ok.mp hbump
  refine ⟨rewritten_of_parts hbump hnote (by simp) ?_ ?_ ?_, ?_, ?_⟩
  · intro field hfield
    have hne : ∀ other : Field, other.immutable = false → field ≠ other :=
      fun other => Field.ne_of_immutable hfield
    rw [Task.get?_set_immutable hfield rfl,
      get?_recordFailure (hne _ rfl) (hne _ rfl) (hne _ rfl)]
    simp (disch := decide) only [releaseLease, Task.get?_set_immutable hfield,
      Task.get?_pop_immutable hfield]
  · rw [Task.get?_set_of_ne (by decide),
      get?_recordFailure (by decide) (by decide) (by decide)]
    simp [releaseLease]
  · rw [Task.get?_set_of_ne (by decide),
      get?_recordFailure (by decide) (by decide) (by decide)]
    simp [releaseLease]
  · rw [get?_appendNote hnote (by decide), Task.get?_set_of_ne (by decide),
      get?_recordFailure (by decide) (by decide) (by decide)]
    simp [releaseLease]
  · rw [get?_appendNote hnote (by decide), Task.get?_set_of_ne (by decide)]
    rcases requiredGate_recordFailure outside call _ with hgate | hgate
    · left
      rw [hgate]
      simp [releaseLease]
    · exact Or.inr hgate

theorem resumedTask_eq_ok {call : ResumeCall} (h : resumedTask outside call task = .ok task') :
    Rewritten task "pending" task' ∧ task'.get? .leaseToken = none ∧
      task'.get? .requiredGate = task.get? .requiredGate := by
  simp only [resumedTask, bind_eq_ok] at h
  obtain ⟨bumped, hbump, hnote⟩ := h
  obtain ⟨n, -, rfl⟩ := bumpRevision_eq_ok.mp hbump
  refine ⟨rewritten_of_parts hbump hnote (by simp) ?_ ?_ ?_, ?_, ?_⟩
  · intro field hfield
    split <;>
      simp (disch := decide) only [releaseLease, Task.get?_set_immutable hfield,
        Task.get?_pop_immutable hfield]
  · split <;> simp [releaseLease]
  · split <;> simp [releaseLease]
  all_goals
    rw [get?_appendNote hnote (by decide)]
    split <;> simp [releaseLease]

theorem skippedTask_eq_ok {call : SkipCall} (h : skippedTask outside call task = .ok task') :
    Rewritten task "skipped" task' ∧ task'.get? .leaseToken = none ∧
      task'.get? .requiredGate = task.get? .requiredGate := by
  simp only [skippedTask, bind_eq_ok] at h
  obtain ⟨bumped, hbump, hnote⟩ := h
  obtain ⟨n, -, rfl⟩ := bumpRevision_eq_ok.mp hbump
  refine ⟨rewritten_of_parts hbump hnote (by simp) ?_ (by simp [releaseLease])
    (by simp [releaseLease]), ?_, ?_⟩
  · intro field hfield
    simp (disch := decide) only [releaseLease, Task.get?_set_immutable hfield,
      Task.get?_pop_immutable hfield]
  all_goals
    rw [get?_appendNote hnote (by decide)]
    simp [releaseLease]

theorem approvedTask_eq_ok {call : ApproveCall} (h : approvedTask outside call task = .ok task') :
    Rewritten task "pending" task' ∧ task'.get? .leaseToken = task.get? .leaseToken ∧
      task'.get? .requiredGate = task.get? .requiredGate := by
  simp only [approvedTask, bind_eq_ok] at h
  obtain ⟨bumped, hbump, hnote⟩ := h
  obtain ⟨n, -, rfl⟩ := bumpRevision_eq_ok.mp hbump
  refine ⟨rewritten_of_parts hbump hnote (by simp) ?_ (by simp) (by simp), ?_, ?_⟩
  · intro field hfield
    simp (disch := decide) only [Task.get?_set_immutable hfield]
  all_goals
    rw [get?_appendNote hnote (by decide)]
    simp

theorem resumeForClaim_eq_ok (h : resumeForClaim now call task = .ok task') :
    task' = task ∨ task.hasStatus "blocked" = true ∧
      (∀ field, field.immutable = true → task'.get? field = task.get? field) ∧
      task'.get? .status = some (.str (py "pending")) ∧
      task'.get? .revision = task.get? .revision ∧
      task'.get? .requiredGate = task.get? .requiredGate := by
  unfold resumeForClaim at h
  split at h
  · rename_i hblocked
    rw [Bool.and_eq_true] at hblocked
    refine Or.inr ⟨hblocked.1, ?_, ?_, ?_, ?_⟩
    · intro field hfield
      rw [get?_appendNote h (Field.ne_of_immutable hfield rfl)]
      simp (disch := decide) only [Task.get?_set_immutable hfield]
    all_goals
      rw [get?_appendNote h (by decide)]
      simp
  · exact Or.inl (Except.ok.inj h).symm

theorem Rewritten.of_resumeForClaim {resumed : Task} (hwritten : Rewritten resumed status task')
    (h : resumeForClaim now call task = .ok resumed) : Rewritten task status task' := by
  rcases resumeForClaim_eq_ok h with rfl | ⟨-, hkept, -, hrevision, -⟩
  · exact hwritten
  · obtain ⟨n, hn, hnext⟩ := hwritten.revision
    exact ⟨fun field hfield => (hwritten.kept field hfield).trans (hkept field hfield),
      hwritten.status, n, (taskRevision_congr hrevision).symm.trans hn, hnext⟩

end Transitions

end DevHarness.TaskQueue
