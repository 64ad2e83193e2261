import DevHarness.TaskQueue.Progress
import DevHarness.TaskQueue.WrittenTasks

/-!
# What the validator lets through, and what can be worked with

The validator leaves the policy, the priorities and the notes unchecked, and reads identifiers
and statuses more leniently than the operations do.  Here is what a document has to say besides
being accepted for the operations to work on it.
-/

namespace DevHarness.TaskQueue

open PyText Sequence

def FailsTyped {α : Type} (operation : Except QueueError α) : Prop :=
  ∀ error, operation = .error error → error.typed = true

/-- There is room for one more task in progress. -/
def CapacityFree (queue : Queue) : Prop :=
  ∃ limit, maxInProgress queue = .ok limit ∧ ((inProgress queue).length : ℤ) < limit

structure Operable (queue : Queue) : Prop where
  summary : FailsTyped (queueSummary queue)
  next : FailsTyped (nextTask queue)
  ready : FailsTyped (readyTasks queue)
  claim : ∀ outside call, FailsTyped (claimTask outside call queue)
  claimable : CapacityFree queue → ∀ task ∈ queue.tasks, task.countsAs "pending" = true →
    DependenciesSettled queue task → ∀ outside (call : ClaimCall), call.taskId = task.ownId →
      ∃ result, claimTask outside call queue = .ok result

/-! ## The condition -/

/-- The keys that `sorted` compares are defined, and can be compared. -/
def Sortable (tasks : List Task) : Prop :=
  (∀ task ∈ tasks, task.readPriority.hashable = true) ∧ tasks.Pairwise KeysComparable

/-- Notes can be appended: the task has none, or a list. -/
def Task.TakesNotes (task : Task) : Prop :=
  ∃ notes, (task.get? .notes).getD (.list []) = .list notes

/-- The policy is a mapping, and `int` reads its limit. -/
def PolicyReadable (queue : Queue) : Prop :=
  ∃ policy limit, (queue.policy.getD (.dict [])).dict? = some policy ∧
    (((lookup policy (py "max_in_progress")).getD .none).orElse (.int 1)).toInt = .ok limit

/-- The document says of a pending task what the validator reads. -/
structure Task.ReadAsWritten (queue : Queue) (task : Task) : Prop where
  status : (task.get? .status).isSome = true
  id : task.get .id = .str task.ownId
  revision : task.get? .revision ≠ some .none
  notes : task.TakesNotes
  dependencies : ∀ other ∈ queue.tasks, other.ownId ∈ task.dependencyIds →
    strip other.rawId = other.rawId

structure Admissible (queue : Queue) : Prop where
  policy : PolicyReadable queue
  ready : Sortable (readySet queue)
  proposed : Sortable (queue.tasks.filter fun task => task.hasStatus "proposed")
  blocked : CapacityFree queue → ∀ task ∈ queue.tasks, task.hasStatus "blocked" = true →
    ∀ s, task.get .id = .str s → task.TakesNotes
  pending : CapacityFree queue → ∀ task ∈ queue.tasks, task.countsAs "pending" = true →
    DependenciesSettled queue task → task.ReadAsWritten queue

variable {queue : Queue} {task task' : Task} {error : QueueError} {outside : Outside}
  {call : ClaimCall}

section Errors

variable {tasks : List Task} {items : List Value} {field : Field}

theorem require_eq_error {holds : Bool} {raised : QueueError} :
    require holds raised = .error error ↔ holds = false ∧ error = raised := by
  cases holds <;> simp [require, eq_comm]

theorem sortTasks_eq_error (h : sortTasks tasks = .error error) : error = .typeError := by
  simp only [sortTasks, bind_eq_error, require_eq_error] at h
  rcases h with h | ⟨⟨⟩, -, h | ⟨⟨⟩, -, h⟩⟩
  · exact h.2
  · exact h.2
  · cases h

theorem maxInProgress_eq_error (h : maxInProgress queue = .error error) :
    error.typed = false := by
  unfold maxInProgress at h
  split at h
  · cases h
    rfl
  · split at h
    · cases h
    · rename_i e he
      cases h
      cases e <;> rfl

theorem policyReadable_iff : PolicyReadable queue ↔ ∃ limit, maxInProgress queue = .ok limit := by
  unfold PolicyReadable maxInProgress
  constructor
  · rintro ⟨policy, limit, hpolicy, hlimit⟩
    rw [hpolicy]
    simp only
    rw [hlimit]
    exact ⟨limit, rfl⟩
  · rintro ⟨limit, h⟩
    split at h
    · cases h
    · rename_i policy hpolicy
      split at h
      · rename_i n hn
        cases h
        exact ⟨policy, limit, hpolicy, hn⟩
      · cases h

theorem extendList_eq_error (h : extendList field items task = .error error) :
    error = .attributeError ∧ ¬ ∃ present, (task.get? field).getD (.list []) = .list present := by
  unfold extendList at h
  split at h
  · cases h
  · rename_i hnot
    refine ⟨(Except.error.inj h).symm, ?_⟩
    rintro ⟨present, hpresent⟩
    exact hnot present hpresent

theorem exists_extendList :
    (∃ task', extendList field items task = .ok task') ↔
      ∃ present, (task.get? field).getD (.list []) = .list present := by
  constructor
  · rintro ⟨task', h⟩
    unfold extendList at h
    split at h
    · exact ⟨_, by assumption⟩
    · cases h
  · rintro ⟨present, hpresent⟩
    rw [extendList, hpresent]
    exact ⟨_, rfl⟩

theorem orText_ne_nil {text default : PyString} (h : default ≠ []) : orText text default ≠ [] := by
  unfold orText
  split
  · exact h
  · assumption

theorem appendNote_of_ne_nil {now note : PyString} (h : note ≠ []) :
    appendNote now note task = extendList .notes [noteEntry now note] task :=
  if_neg h

end Errors

section Claims

variable {taskId : PyString}

theorem taskById_eq_error (h : taskById queue taskId = .error error) : error.typed = true := by
  unfold taskById at h
  split at h
  · cases h
  · cases h
    rfl

theorem checkNotActive_eq_error (h : checkNotActive queue taskId = .error error) :
    error.typed = true := by
  unfold checkNotActive at h
  split at h
  · cases h
  · simp only [bind_eq_error, require_eq_error] at h
    rcases h with h | ⟨existing, -, -, rfl⟩
    · exact taskById_eq_error h
    · rfl

theorem nextTask_eq_error : nextTask queue = .error error ↔ readyTasks queue = .error error := by
  rw [nextTask, bind_eq_error]
  constructor
  · rintro (h | ⟨ready, -, h⟩)
    · exact h
    · cases h
  · exact Or.inl

theorem chooseTask_eq_error (hready : ∃ ready, readyTasks queue = .ok ready)
    (h : chooseTask queue taskId = .error error) : error.typed = true := by
  obtain ⟨ready, hready⟩ := hready
  unfold chooseTask at h
  split at h
  · rw [bind_eq_error] at h
    rcases h with h | ⟨next, -, h⟩
    · rw [nextTask_eq_error, hready] at h
      cases h
    · cases next with
      | none =>
          cases h
          rfl
      | some task => cases h
  · exact taskById_eq_error h

theorem appendNote_eq_error {now note : PyString} (hnotes : task.TakesNotes)
    (h : appendNote now note task = .error error) : False := by
  unfold appendNote at h
  split at h
  · cases h
  · exact (extendList_eq_error h).2 hnotes

theorem Task.TakesNotes.congr (h : task.TakesNotes) (hsame : task'.get? .notes = task.get? .notes) :
    task'.TakesNotes := by
  rw [Task.TakesNotes, hsame]
  exact h

theorem leaseTask_eq_error (hnotes : task.TakesNotes)
    (h : leaseTask outside call task = .error error) : error.typed = true := by
  simp only [leaseTask, bind_eq_error] at h
  rcases h with h | ⟨bumped, hbump, h⟩
  · simp only [bumpRevision, bind_eq_error] at h
    rcases h with h | ⟨n, -, h⟩
    · unfold taskRevision at h
      split at h
      · split at h
        · cases h
          rfl
        · cases h
      · cases h
        rfl
    · cases h
  · obtain ⟨n, -, rfl⟩ := bumpRevision_eq_ok.mp hbump
    exact (appendNote_eq_error (hnotes.congr (by simp)) h).elim

theorem validateQueue_put (hvalid : queue.Valid) {resumed : Task} (hmem : task ∈ queue.tasks)
    (hresume : resumeForClaim outside.now call task = .ok resumed)
    (hlease : leaseTask outside call resumed = .ok task') :
    validateQueue (queue.loaded.put task') = .ok () := by
  have hchecked := hvalid.checked task hmem
  have hfields := (checkFields_eq_ok.mp hchecked.2).2.2.1
  have hwritten := (leaseTask_eq_ok hlease).1.of_resumeForClaim hresume
  apply validateQueue_eq_ok.mpr
  apply hvalid.put hmem hwritten
  exact hchecked.of_rewritten hwritten (by decide) (by decide)
    ((hfields.resumeForClaim hresume).leaseTask hlease)

theorem claimTask_eq_error (hvalid : queue.Valid)
    (hready : ∃ ready, readyTasks queue = .ok ready)
    (h : claimTask outside call queue = .error error) :
    error.typed = true ∨ maxInProgress queue = .error error ∨
      CapacityFree queue ∧ ∃ task ∈ queue.tasks,
        (call.taskId ≠ [] → task.get .id = .str call.taskId) ∧
        (call.taskId = [] → task ∈ readySet queue) ∧
        (resumeForClaim outside.now call task = .error error ∨
          ∃ resumed, resumeForClaim outside.now call task = .ok resumed ∧
            resumed.hasStatus "pending" = true ∧ depsReady queue resumed = true ∧
            leaseTask outside call resumed = .error error) := by
  simp only [claimTask, mutateQueue, readQueue_eq_ok, bind_eq_error, require_eq_error] at h
  rcases h with h | ⟨loaded, ⟨-, rfl⟩, h⟩
  · rw [readQueue, validateQueue_eq_ok.mpr hvalid] at h
    cases h
  rcases h with h | ⟨mutated, hmutate, h⟩
  · rcases h with h | ⟨⟨⟩, -, h | ⟨limit, hlimit, h | ⟨⟨⟩, hfree, h | ⟨task, hchosen, h⟩⟩⟩⟩
    · exact Or.inl (checkNotActive_eq_error h)
    · exact Or.inr (Or.inl h)
    · left
      rw [h.2]
      rfl
    · exact Or.inl (chooseTask_eq_error hready h)
    · obtain ⟨hmem, hid, hnext⟩ := chooseTask_eq_ok hchosen
      have hcapacity : CapacityFree queue :=
        ⟨limit, hlimit, of_decide_eq_true (require_eq_ok.mp hfree)⟩
      rcases h with h | ⟨resumed, hresume, h⟩
      · exact Or.inr (Or.inr ⟨hcapacity, task, hmem, hid, hnext, Or.inl h⟩)
      · rcases h with h | ⟨⟨⟩, hpending, h | ⟨⟨⟩, hdeps, h | ⟨new, -, h⟩⟩⟩
        · left
          rw [h.2]
          rfl
        · left
          rw [h.2]
          rfl
        · exact Or.inr (Or.inr ⟨hcapacity, task, hmem, hid, hnext, Or.inr ⟨resumed, hresume,
            require_eq_ok.mp hpending, require_eq_ok.mp hdeps, h⟩⟩)
        · cases h
  · simp only [bind_eq_ok] at hmutate
    obtain ⟨⟨⟩, -, limit, -, ⟨⟩, -, task, hchosen, resumed, hresume, ⟨⟩, -, ⟨⟩, -, new, hlease,
      hresult⟩ := hmutate
    obtain rfl := Except.ok.inj hresult
    rw [validateQueue_put hvalid (chooseTask_eq_ok hchosen).1 hresume hlease] at h
    rcases h with h | ⟨⟨⟩, -, h⟩
    · cases h
    · cases h

end Claims

section Needs

variable {s : PyString} {status : String}

theorem exists_readyTasks_iff : (∃ ready, readyTasks queue = .ok ready) ↔ Sortable (readySet queue) :=
  exists_sortTasks

/-- A sort fails with no other error than a `TypeError`, which is not one of the queue. -/
theorem sortable_of_failsTyped {tasks : List Task} (h : FailsTyped (sortTasks tasks)) :
    Sortable tasks := by
  cases hsort : sortTasks tasks with
  | error error =>
      have htyped := h error hsort
      rw [sortTasks_eq_error hsort] at htyped
      cases htyped
  | ok sorted => exact exists_sortTasks.mp ⟨sorted, hsort⟩

section

variable (hvalid : queue.Valid) (hmem : task ∈ queue.tasks)

include hvalid hmem

theorem taskById_of_get_id (hid : task.get .id = .str s) : taskById queue s = .ok task := by
  cases hfind : taskById queue s with
  | error error =>
      unfold taskById at hfind
      split at hfind
      · cases hfind
      · rename_i hnone
        have hnot := List.find?_eq_none.mp hnone task hmem
        rw [hid] at hnot
        simp at hnot
  | ok found =>
      obtain ⟨hfound, hsame⟩ := taskById_eq_ok hfind
      have hown : found.ownId = task.ownId := by rw [ownId_of_get_id hid, ownId_of_get_id hsame]
      rw [hvalid.eq_of_ownId_eq hmem hfound hown]

theorem ne_nil_of_get_id (hid : task.get .id = .str s) : s ≠ [] := by
  rintro rfl
  exact (hvalid.checked task hmem).ownId_ne_nil (ownId_of_get_id hid)

theorem claimTask_by_id (hid : task.get .id = .str call.taskId)
    (hidle : task.hasStatus "in_progress" = false) (hcapacity : CapacityFree queue) :
    claimTask outside call queue =
      (do
        let resumed ← resumeForClaim outside.now call task
        require (resumed.hasStatus "pending") .invalidTaskStatus
        require (depsReady queue resumed) .dependencyBlocked
        let new ← leaseTask outside call resumed
        validateQueue (queue.loaded.put new)
        .ok (queue.loaded.put new, new)) := by
  obtain ⟨limit, hlimit, hfree⟩ := hcapacity
  have hne := ne_nil_of_get_id hvalid hmem hid
  have hbyId := taskById_of_get_id hvalid hmem hid
  have hfound : taskById queue.loaded call.taskId = .ok task := hbyId
  have hread : readQueue queue = .ok queue.loaded := readQueue_eq_ok.mpr ⟨hvalid, rfl⟩
  have hactive : checkNotActive queue.loaded call.taskId = .ok () := by
    rw [checkNotActive, if_neg hne, hfound]
    exact require_eq_ok.mpr (by rw [hidle]; rfl)
  have hroom : require (decide (((inProgress queue.loaded).length : ℤ) < limit)) .inProgressExists =
      .ok () := require_eq_ok.mpr (decide_eq_true hfree)
  simp only [claimTask, mutateQueue, hread, ok_bind, hactive, maxInProgress_loaded, hlimit, hroom,
    chooseTask, if_neg hne, hfound, bind_assoc]
  rfl

end

theorem depsReady_of_settled (hsettled : DependenciesSettled queue task)
    (hvalid : queue.Valid) (hunpadded : ∀ other ∈ queue.tasks, other.ownId ∈ task.dependencyIds →
      strip other.rawId = other.rawId) : depsReady queue task = true := by
  apply depsReady_iff.mpr
  intro dependencyId hdependency
  obtain ⟨other, hother, rfl, hterminal⟩ := hsettled dependencyId hdependency
  refine ⟨other, hother, hterminal, ?_⟩
  rw [(hvalid.checked other hother).ownId_eq, hunpadded other hother hdependency]

theorem unpadded_of_depsReady (hvalid : queue.Valid) (hready : depsReady queue task = true) :
    ∀ other ∈ queue.tasks, other.ownId ∈ task.dependencyIds → strip other.rawId = other.rawId := by
  intro other hother hdependency
  obtain ⟨found, hfound, -, hraw⟩ := depsReady_iff.mp hready other.ownId hdependency
  have hown : found.ownId = other.ownId := by
    rw [(hvalid.checked found hfound).ownId_eq, hraw, (hvalid.checked other hother).ownId_eq,
      strip_strip]
  obtain rfl := hvalid.eq_of_ownId_eq hother hfound hown
  rw [hraw, (hvalid.checked found hother).ownId_eq, strip_strip]

theorem exists_taskRevision (hchecked : task.Checked) :
    (∃ n, taskRevision task = .ok n) ↔ task.get? .revision ≠ some .none := by
  have hcount := (checkFields_eq_ok.mp hchecked.2).2.2.1.revision
  unfold Task.get at hcount
  unfold taskRevision
  cases hrevision : task.get? .revision with
  | none =>
      simp
  | some value =>
      rw [hrevision] at hcount
      cases value with
      | int n =>
          simp only [absentOr, Value.isNone, isCount, Value.int?, Bool.false_or, Option.getD_some,
            Option.any_some, decide_eq_true_eq] at hcount
          simp [not_lt.mpr hcount]
      | none => simp
      | _ => simp [absentOr, Value.isNone, isCount, Value.int?] at hcount

theorem exists_leaseTask (outside : Outside) (call : ClaimCall) (hchecked : task.Checked)
    (hrevision : task.get? .revision ≠ some .none) (hnotes : task.TakesNotes) :
    ∃ new, leaseTask outside call task = .ok new := by
  obtain ⟨n, hn⟩ := (exists_taskRevision hchecked).mpr hrevision
  cases hlease : leaseTask outside call task with
  | ok new => exact ⟨new, rfl⟩
  | error error =>
      simp only [leaseTask, bind_eq_error] at hlease
      rcases hlease with h | ⟨bumped, hbump, h⟩
      · simp only [bumpRevision, bind_eq_error] at h
        rcases h with h | ⟨m, -, h⟩
        · have hsame : ∀ started : Task, started.get? .revision = task.get? .revision →
              taskRevision started = .ok n :=
            fun started hstarted => (taskRevision_congr hstarted).trans hn
          rw [hsame _ (by simp)] at h
          cases h
        · cases h
      · obtain ⟨m, -, rfl⟩ := bumpRevision_eq_ok.mp hbump
        exact (appendNote_eq_error (hnotes.congr (by simp)) h).elim

theorem resumeForClaim_of_not_blocked {now : PyString} (h : task.hasStatus "blocked" = false) :
    resumeForClaim now call task = .ok task := by
  rw [resumeForClaim, h, Bool.false_and]
  rfl

theorem hasStatus_of_countsAs (hexplicit : (task.get? .status).isSome = true)
    (h : task.countsAs status = true) : task.hasStatus status = true := by
  obtain ⟨value, hvalue⟩ := Option.isSome_iff_exists.mp hexplicit
  rw [Task.countsAs, Task.readStatus, hvalue, Option.getD_some] at h
  rw [Task.hasStatus, Task.get, hvalue, Option.getD_some]
  exact h

theorem countsAs_of_hasStatus (h : task.hasStatus status = true) : task.countsAs status = true := by
  unfold Task.hasStatus Task.get at h
  unfold Task.countsAs Task.readStatus
  cases hstatus : task.get? .status with
  | none =>
      rw [hstatus] at h
      cases h
  | some value =>
      rw [hstatus] at h
      exact h

end Needs

section Equivalence

theorem claimable_of_readAsWritten (hvalid : queue.Valid) (hcapacity : CapacityFree queue)
    (hmem : task ∈ queue.tasks) (hcounts : task.countsAs "pending" = true)
    (hsettled : DependenciesSettled queue task) (h : task.ReadAsWritten queue) (outside : Outside)
    (call : ClaimCall) (hcall : call.taskId = task.ownId) :
    ∃ result, claimTask outside call queue = .ok result := by
  have hpending := hasStatus_of_countsAs h.status hcounts
  have hid : task.get .id = .str call.taskId := hcall ▸ h.id
  have hready := depsReady_of_settled hsettled hvalid h.dependencies
  have hresume : resumeForClaim outside.now call task = .ok task :=
    resumeForClaim_of_not_blocked (not_hasStatus hpending (by decide))
  obtain ⟨new, hlease⟩ :=
    exists_leaseTask outside call (hvalid.checked task hmem) h.revision h.notes
  rw [claimTask_by_id hvalid hmem hid (not_hasStatus hpending (by decide)) hcapacity, hresume,
    ok_bind, hpending, hready]
  refine ⟨(queue.loaded.put new, new), ?_⟩
  simp only [require, if_true, ok_bind, hlease, validateQueue_put hvalid hmem hresume hlease]

theorem operable_of_admissible (hvalid : queue.Valid) (h : Admissible queue) : Operable queue := by
  obtain ⟨ready, hready⟩ := exists_readyTasks_iff.mpr h.ready
  obtain ⟨proposed, hproposed⟩ := exists_sortTasks.mpr h.proposed
  obtain ⟨limit, hlimit⟩ := policyReadable_iff.mp h.policy
  have hnext : ∀ error, nextTask queue ≠ .error error := by
    intro error herror
    rw [nextTask_eq_error, hready] at herror
    cases herror
  refine ⟨?_, ?_, ?_, ?_, ?_⟩
  · intro error herror
    simp only [queueSummary, bind_eq_error] at herror
    rcases herror with herror | ⟨sorted, -, herror | ⟨upcoming, -, herror⟩⟩
    · rw [hproposed] at herror
      cases herror
    · exact absurd herror (hnext error)
    · cases herror
  · intro error herror
    exact absurd herror (hnext error)
  · intro error herror
    rw [hready] at herror
    cases herror
  · intro outside call error herror
    rcases claimTask_eq_error hvalid ⟨ready, hready⟩ herror with
      htyped | hpolicy | ⟨hcapacity, task, hmem, hid, hchosen, hresume | hlease⟩
    · exact htyped
    · rw [hlimit] at hpolicy
      cases hpolicy
    · unfold resumeForClaim at hresume
      split at hresume
      · rename_i hblocked
        rw [Bool.and_eq_true] at hblocked
        have hnamed : call.taskId ≠ [] := by
          intro hempty
          have hpending := (mem_readySet.mp (hchosen hempty)).2.1
          rw [not_hasStatus hpending (by decide)] at hblocked
          cases hblocked.1
        have hnotes := h.blocked hcapacity task hmem hblocked.1 _ (hid hnamed)
        exact (appendNote_eq_error (hnotes.congr (by simp)) hresume).elim
      · cases hresume
    · obtain ⟨resumed, hresume, hpending, hdeps, hlease⟩ := hlease
      apply leaseTask_eq_error _ hlease
      unfold resumeForClaim at hresume
      split at hresume
      · rw [appendNote_of_ne_nil (by decide)] at hresume
        obtain ⟨notes, rfl⟩ := extendList_eq_ok hresume
        exact ⟨notes, by rw [Task.get?_set_self, Option.getD_some]⟩
      · obtain rfl := Except.ok.inj hresume
        exact (h.pending hcapacity task hmem (countsAs_of_hasStatus hpending)
          (settled_of_depsReady hvalid hdeps)).notes
  · intro hcapacity task hmem hcounts hsettled outside call hcall
    exact claimable_of_readAsWritten hvalid hcapacity hmem hcounts hsettled
      (h.pending hcapacity task hmem hcounts hsettled) outside call hcall

def plainClaim (taskId : PyString) (resumeBlocked : Bool) : ClaimCall where
  taskId := taskId
  owner := py "codex"
  note := []
  resumeBlocked := resumeBlocked
  leaseToken := []

theorem policyReadable_of_claims (hvalid : queue.Valid)
    (h : FailsTyped (claimTask outside (plainClaim [] false) queue)) : PolicyReadable queue := by
  apply policyReadable_iff.mpr
  cases hpolicy : maxInProgress queue with
  | ok limit => exact ⟨limit, rfl⟩
  | error error =>
      have hclaim : claimTask outside (plainClaim [] false) queue = .error error := by
        have hread : readQueue queue = .ok queue.loaded := readQueue_eq_ok.mpr ⟨hvalid, rfl⟩
        have hactive : checkNotActive queue.loaded (plainClaim [] false).taskId = .ok () := rfl
        simp only [claimTask, mutateQueue, hread, ok_bind, hactive, maxInProgress_loaded, hpolicy]
        rfl
      have htyped := h error hclaim
      rw [maxInProgress_eq_error hpolicy] at htyped
      cases htyped

theorem takesNotes_of_claims (hvalid : queue.Valid) (hcapacity : CapacityFree queue)
    (hmem : task ∈ queue.tasks) (hblocked : task.hasStatus "blocked" = true) {s : PyString}
    (hid : task.get .id = .str s) (h : FailsTyped (claimTask outside (plainClaim s true) queue)) :
    task.TakesNotes := by
  by_contra hnotes
  have hresume : resumeForClaim outside.now (plainClaim s true) task = .error .attributeError := by
    unfold resumeForClaim
    rw [hblocked, Bool.true_and, if_pos (by rfl), appendNote_of_ne_nil (by decide)]
    unfold extendList
    split
    · rename_i present hpresent
      refine absurd ⟨present, ?_⟩ hnotes
      simpa using hpresent
    · rfl
  have hclaim : claimTask outside (plainClaim s true) queue = .error .attributeError := by
    rw [claimTask_by_id hvalid hmem hid (not_hasStatus hblocked (by decide)) hcapacity, hresume]
    rfl
  have htyped := h _ hclaim
  cases htyped

theorem readAsWritten_of_claim (hvalid : queue.Valid) (hmem : task ∈ queue.tasks)
    (hcounts : task.countsAs "pending" = true) {result : Queue × Task}
    (h : claimTask outside (plainClaim task.ownId false) queue = .ok result) :
    task.ReadAsWritten queue := by
  have hne : task.ownId ≠ [] := (hvalid.checked task hmem).ownId_ne_nil
  obtain ⟨-, hmutate, -⟩ := mutateQueue_eq_ok.mp h
  simp only [bind_eq_ok, require_eq_ok] at hmutate
  obtain ⟨⟨⟩, -, limit, -, ⟨⟩, -, chosen, hchosen, resumed, hresume, ⟨⟩, hpending, ⟨⟩, hready, new,
    hlease, -⟩ := hmutate
  obtain ⟨hchosenMem, hid, -⟩ := chooseTask_eq_ok hchosen
  have hown : chosen.ownId = task.ownId := by
    rw [ownId_of_get_id (hid hne)]
    exact (hvalid.checked task hmem).ownId_eq ▸ strip_strip _
  obtain rfl := hvalid.eq_of_ownId_eq hmem hchosenMem hown
  have hsame : resumed = chosen := by
    unfold resumeForClaim at hresume
    rw [show (plainClaim chosen.ownId false).resumeBlocked = false from rfl, Bool.and_false] at hresume
    exact (Except.ok.inj hresume).symm
  subst hsame
  refine ⟨?_, hid hne, ?_, ?_, unpadded_of_depsReady hvalid hready⟩
  · unfold Task.hasStatus Task.get at hpending
    cases hstatus : resumed.get? .status with
    | none =>
        rw [hstatus] at hpending
        cases hpending
    | some value => rfl
  · obtain ⟨n, hn, -⟩ := (leaseTask_eq_ok hlease).1.revision
    exact (exists_taskRevision (hvalid.checked resumed hmem)).mp ⟨n, hn⟩
  · simp only [leaseTask, bind_eq_ok] at hlease
    obtain ⟨bumped, hbump, hnote⟩ := hlease
    obtain ⟨n, -, rfl⟩ := bumpRevision_eq_ok.mp hbump
    rw [appendNote_of_ne_nil (orText_ne_nil (by simp [py]))] at hnote
    obtain ⟨notes, hnotes⟩ := exists_extendList.mp ⟨_, hnote⟩
    refine ⟨notes, ?_⟩
    simpa using hnotes

theorem admissible_of_operable (hvalid : queue.Valid) (h : Operable queue) : Admissible queue where
  policy := policyReadable_of_claims hvalid (h.claim ⟨[], []⟩ _)
  ready := sortable_of_failsTyped h.ready
  proposed := by
    apply sortable_of_failsTyped
    intro error herror
    apply h.summary error
    rw [queueSummary, herror]
    rfl
  blocked := fun hcapacity _ hmem hblocked _ hid =>
    takesNotes_of_claims hvalid hcapacity hmem hblocked hid (h.claim ⟨[], []⟩ _)
  pending := by
    intro hcapacity task hmem hcounts hsettled
    obtain ⟨result, hclaim⟩ := h.claimable hcapacity task hmem hcounts hsettled ⟨[], []⟩
      (plainClaim task.ownId false) rfl
    exact readAsWritten_of_claim hvalid hmem hcounts hclaim

/-- A document that the validator accepts can be worked with exactly when it is admissible. -/
theorem operable_iff (hvalid : queue.Valid) : Operable queue ↔ Admissible queue :=
  ⟨admissible_of_operable hvalid, operable_of_admissible hvalid⟩

theorem operable_iff_heldQueue : Operable heldQueue ↔ Admissible heldQueue :=
  operable_iff (by decide +kernel)

/-- A dependency that is done for the validator, and unknown to `ready_tasks`. -/
theorem not_operable : ¬ ∀ queue : Queue, queue.Valid → Operable queue := by
  intro h
  have hvalid : indentedQueue.Valid := by decide +kernel
  have hadmissible := admissible_of_operable hvalid (h indentedQueue hvalid)
  have hcapacity : CapacityFree indentedQueue := ⟨1, by rfl, by decide +kernel⟩
  have hfound : ∃ task ∈ indentedQueue.tasks, task.countsAs "pending" = true ∧
      DependenciesSettled indentedQueue task ∧
      ¬ ∀ other ∈ indentedQueue.tasks, other.ownId ∈ task.dependencyIds →
        strip other.rawId = other.rawId := by
    unfold DependenciesSettled
    decide +kernel
  obtain ⟨task, hmem, hcounts, hsettled, hnot⟩ := hfound
  exact hnot (hadmissible.pending hcapacity task hmem hcounts hsettled).dependencies

end Equivalence

end DevHarness.TaskQueue
