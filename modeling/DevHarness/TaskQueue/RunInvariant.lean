import DevHarness.TaskQueue.Fencing

/-!
# What holds in every run of the queue

The capacity is respected, a task in progress has its dependencies behind it, a lease token stays
with a task in progress, a task that is done stays done, and a task that waits for a review gets
done by one.
-/

namespace DevHarness.TaskQueue

open PyText Sequence

/-! ## The invariant -/

/-- `max(1, policy.max_in_progress)`.  Where the policy cannot be read nothing can be claimed. -/
def capacity (queue : Queue) : ℤ :=
  match maxInProgress queue with
  | .ok limit => max 1 limit
  | .error _ => 1

/-- Every dependency of the task is done or skipped. -/
def DependenciesSettled (queue : Queue) (task : Task) : Prop :=
  ∀ dependencyId ∈ task.dependencyIds,
    ∃ other ∈ queue.tasks, other.ownId = dependencyId ∧ other.isTerminal = true

structure RunInvariant (queue : Queue) : Prop where
  bounded : ((inProgress queue).length : ℤ) ≤ capacity queue
  settled : ∀ task ∈ queue.tasks, task.hasStatus "in_progress" = true →
    DependenciesSettled queue task
  leased : ∀ task ∈ queue.tasks, (task.get .leaseToken).isNone = false →
    task.hasStatus "in_progress" = true

def Task.isGated (task : Task) : Bool :=
  (task.get .requiredGate).isText independentReviewGate

/-- A completion of the task that a review has passed. -/
def CompletesReviewed (hexdigest : PyString → PyString) (queue : Queue) (step : Outside × Call)
    (taskId : PyString) : Prop :=
  ∃ call, step.2 = .complete call ∧ call.reviewPassed = true ∧
    ∃ queue' task, perform hexdigest step.1 queue step.2 = .ok (queue', .task task) ∧
      task.ownId = taskId

/-- What is asked of every run. -/
structure RunSafe (hexdigest : PyString → PyString) (queue : Queue) : Prop where
  invariant : ∀ steps, RunInvariant (afterAll hexdigest queue steps)
  done : ∀ steps steps', ∀ task ∈ (afterAll hexdigest queue steps).tasks,
    task.hasStatus "done" = true →
      task ∈ (afterAll hexdigest queue (steps ++ steps')).tasks
  gated : ∀ steps steps', ∀ task ∈ (afterAll hexdigest queue steps).tasks,
    task.isGated = true → task.hasStatus "done" = false →
      ∀ task' ∈ (afterAll hexdigest queue (steps ++ steps')).tasks, task'.ownId = task.ownId →
        task'.hasStatus "done" = true →
          ∃ earlier step later, steps' = earlier ++ step :: later ∧
            CompletesReviewed hexdigest (afterAll hexdigest queue (steps ++ earlier)) step
              task.ownId

section Statuses

variable {outside : Outside} {queue : Queue} {call : Call} {task task' : Task} {status : String}

theorem not_hasStatus (h : task.hasStatus status = true) {different : String}
    (hne : py status ≠ py different) : task.hasStatus different = false := by
  have hvalue := Value.isText_iff.mp h
  rw [Task.hasStatus, hvalue, Value.isText_str, decide_eq_false hne]

theorem Rewritten.hasStatus (h : Rewritten task status task') : task'.hasStatus status = true := by
  rw [Task.hasStatus, Task.get, h.status, Option.getD_some, Value.isText_str,
    decide_eq_true_eq]

theorem Transition.not_done (h : Transition outside queue call task task') :
    task.hasStatus "done" = false := by
  cases h with
  | claim _ hstatus =>
      rcases hstatus with hstatus | hstatus
      · exact not_hasStatus hstatus (by decide)
      · exact not_hasStatus hstatus (by decide)
  | complete _ hopen =>
      simp only [Task.isOpen, Bool.or_eq_true] at hopen
      rcases hopen with (hopen | hopen) | hopen
      · exact not_hasStatus hopen (by decide)
      · exact not_hasStatus hopen (by decide)
      · exact not_hasStatus hopen (by decide)
  | block _ hopen =>
      rw [Task.isTerminal, Bool.or_eq_false_iff] at hopen
      exact hopen.1
  | release _ hlease => exact not_hasStatus (requireActiveLease_eq_ok hlease).1 (by decide)
  | resume _ hstatus => exact not_hasStatus hstatus (by decide)
  | skip _ hstatus => exact hstatus
  | approve _ hstatus => exact not_hasStatus hstatus (by decide)

theorem Transition.terminal (h : Transition outside queue call task task')
    (hterminal : task.isTerminal = true) : task'.isTerminal = true := by
  have hskipped : task.hasStatus "skipped" = true := by
    rw [Task.isTerminal, h.not_done, Bool.false_or] at hterminal
    exact hterminal
  cases h with
  | claim _ hstatus =>
      rw [not_hasStatus hskipped (by decide), not_hasStatus hskipped (by decide)] at hstatus
      simp at hstatus
  | complete _ hopen =>
      simp only [Task.isOpen, Bool.or_eq_true] at hopen
      rw [not_hasStatus hskipped (by decide), not_hasStatus hskipped (by decide),
        not_hasStatus hskipped (by decide)] at hopen
      simp at hopen
  | block _ hopen =>
      rw [hterminal] at hopen
      cases hopen
  | release _ hlease =>
      rw [not_hasStatus (requireActiveLease_eq_ok hlease).1 (by decide)] at hskipped
      cases hskipped
  | resume _ hstatus =>
      rw [not_hasStatus hstatus (by decide)] at hskipped
      cases hskipped
  | skip _ _ hwritten =>
      rw [Task.isTerminal, hwritten.hasStatus, Bool.or_true]
  | approve _ hstatus =>
      rw [not_hasStatus hstatus (by decide)] at hskipped
      cases hskipped

end Statuses

section Steps

variable {hexdigest : PyString → PyString} {outside : Outside} {queue queue' : Queue} {call : Call}
  {task task' other : Task} {added : List Task} {result : Result}

section

variable (h : perform hexdigest outside queue call = .ok (queue', result))

include h

theorem done_of_perform (htask : task ∈ queue.tasks) (hdone : task.hasStatus "done" = true) :
    task ∈ queue'.tasks := by
  rcases perform_eq_ok h with ⟨old, new, hrewrites, -⟩ | ⟨added, happends, -⟩
  · apply hrewrites.mem_tasks.mpr
    refine Or.inr ⟨htask, ?_⟩
    intro hown
    obtain rfl := hrewrites.valid.eq_of_ownId_eq hrewrites.found htask hown
    rw [hrewrites.transition.not_done] at hdone
    cases hdone
  · rw [happends.written]
    exact List.mem_append_left _ htask

theorem terminal_of_perform (htask : task ∈ queue.tasks) (hterminal : task.isTerminal = true) :
    ∃ task' ∈ queue'.tasks, task'.ownId = task.ownId ∧ task'.isTerminal = true := by
  rcases perform_eq_ok h with ⟨old, new, hrewrites, -⟩ | ⟨added, happends, -⟩
  · by_cases hown : task.ownId = old.ownId
    · obtain rfl := hrewrites.valid.eq_of_ownId_eq hrewrites.found htask hown
      exact ⟨new, hrewrites.mem_tasks.mpr (Or.inl rfl), hrewrites.ownId,
        hrewrites.transition.terminal hterminal⟩
    · exact ⟨task, hrewrites.mem_tasks.mpr (Or.inr ⟨htask, hown⟩), rfl, hterminal⟩
  · refine ⟨task, ?_, rfl, hterminal⟩
    rw [happends.written]
    exact List.mem_append_left _ htask

theorem DependenciesSettled.of_perform (hsettled : DependenciesSettled queue task) :
    DependenciesSettled queue' task := by
  intro dependencyId hdependency
  obtain ⟨other, hother, rfl, hterminal⟩ := hsettled dependencyId hdependency
  exact terminal_of_perform h hother hterminal

end

theorem Task.Checked.ownId_eq (h : task.Checked) : task.ownId = strip task.rawId := by
  unfold Task.ownId Task.rawId Task.get
  cases hid : task.get? .id with
  | none =>
      have hnil : task.ownId = [] := by
        rw [Task.ownId, hid]
        rfl
      exact absurd hnil h.ownId_ne_nil
  | some value => rfl

theorem settled_of_depsReady (hvalid : queue.Valid) (hready : depsReady queue task = true) :
    DependenciesSettled queue task := by
  intro dependencyId hdependency
  obtain ⟨other, hother, hterminal, hraw⟩ := depsReady_iff.mp hready dependencyId hdependency
  refine ⟨other, hother, ?_, hterminal⟩
  obtain ⟨value, -, rfl⟩ := List.mem_map.mp hdependency
  rw [(hvalid.checked other hother).ownId_eq, hraw, strip_strip]

theorem DependenciesSettled.congr (h : task'.get? .dependencies = task.get? .dependencies)
    (hsettled : DependenciesSettled queue task) : DependenciesSettled queue task' := by
  rw [DependenciesSettled, dependencyIds_congr h]
  exact hsettled

section

variable (h : perform hexdigest outside queue call = .ok (queue', result))
  (hinv : RunInvariant queue) (htask : task ∈ queue'.tasks)

include h hinv htask

theorem settled_of_perform (hactive : task.hasStatus "in_progress" = true) :
    DependenciesSettled queue' task := by
  apply DependenciesSettled.of_perform h
  rcases perform_eq_ok h with ⟨old, new, hrewrites, -⟩ | ⟨added, happends, -⟩
  · rcases hrewrites.mem_tasks.mp htask with rfl | ⟨hmem, -⟩
    · obtain ⟨claimed, rfl⟩ := hrewrites.transition.claims hactive
      have hsame : task.get? .dependencies = old.get? .dependencies := hrewrites.get?_eq rfl
      cases hrewrites.transition with
      | claim _ _ hready => exact (settled_of_depsReady hrewrites.valid hready).congr hsame
    · exact hinv.settled task hmem hactive
  · rw [happends.written] at htask
    rcases List.mem_append.mp htask with hmem | hmem
    · exact hinv.settled task hmem hactive
    · rw [(happends.fresh task hmem).not_active] at hactive
      cases hactive

theorem leased_of_perform (htoken : (task.get .leaseToken).isNone = false) :
    task.hasStatus "in_progress" = true := by
  have hdropped : task.get? .leaseToken ≠ none := by
    intro hnone
    rw [Task.get, hnone] at htoken
    cases htoken
  rcases perform_eq_ok h with ⟨old, new, hrewrites, -⟩ | ⟨added, happends, -⟩
  · rcases hrewrites.mem_tasks.mp htask with rfl | ⟨hmem, -⟩
    · cases hrewrites.transition with
      | claim _ _ _ _ _ hwritten => exact hwritten.hasStatus
      | complete _ _ _ _ _ hnone => exact absurd hnone hdropped
      | block _ _ _ _ _ hnone => exact absurd hnone hdropped
      | release _ _ _ hnone => exact absurd hnone hdropped
      | resume _ _ _ _ hnone => exact absurd hnone hdropped
      | skip _ _ _ hnone => exact absurd hnone hdropped
      | approve _ hstatus _ hsame =>
          rw [get_congr hsame] at htoken
          have hactive := hinv.leased old hrewrites.found htoken
          rw [not_hasStatus hstatus (by decide)] at hactive
          cases hactive
    · exact hinv.leased task hmem htoken
  · rw [happends.written] at htask
    rcases List.mem_append.mp htask with hmem | hmem
    · exact hinv.leased task hmem htoken
    · exact absurd (happends.fresh task hmem).leaseToken hdropped

end

/-! ## Counting -/

theorem Rewrites.split (h : Rewrites outside queue call task task' queue') :
    ∃ before behind, queue.tasks = before ++ task :: behind ∧
      queue'.tasks = before ++ task' :: behind := by
  obtain ⟨before, behind, hsplit⟩ := List.append_of_mem h.found
  refine ⟨before, behind, hsplit, ?_⟩
  have hdistinct := h.valid.distinct
  rw [hsplit, List.map_append, List.map_cons, List.nodup_middle, List.nodup_cons,
    ← List.map_append] at hdistinct
  have hothers : ∀ other ∈ before ++ behind, other.ownId ≠ task.ownId := by
    intro other hother hown
    exact hdistinct.1 (hown ▸ List.mem_map_of_mem hother)
  have hsame : ∀ part, part ⊆ before ++ behind →
      (part.map fun other => if other.ownId = task.ownId then task' else other) = part := by
    intro part hpart
    apply (List.map_congr_left _).trans (List.map_id' part)
    intro other hother
    rw [if_neg (hothers other (hpart hother))]
  rw [h.tasks_eq_map, hsplit, List.map_append, List.map_cons, if_pos rfl,
    hsame before (List.subset_append_left _ _), hsame behind (List.subset_append_right _ _)]

theorem capacity_congr (h : maxInProgress queue' = maxInProgress queue) :
    capacity queue' = capacity queue := by
  rw [capacity, capacity, h]

section

variable (h : perform hexdigest outside queue call = .ok (queue', result))
  (hinv : RunInvariant queue)

include h hinv

theorem bounded_of_perform : ((inProgress queue').length : ℤ) ≤ capacity queue' := by
  have hbounded := hinv.bounded
  rcases perform_eq_ok h with ⟨old, new, hrewrites, -⟩ | ⟨added, happends, -⟩
  · obtain ⟨before, behind, hsplit, hsplit'⟩ := hrewrites.split
    have hcapacity : capacity queue' = capacity queue := by
      rw [hrewrites.written]
      rfl
    rw [hcapacity, inProgress, hsplit', List.filter_append, List.filter_cons]
    have hcount : (inProgress queue).length = (before.filter fun t => t.hasStatus "in_progress").length
        + ((old :: behind).filter fun t => t.hasStatus "in_progress").length := by
      rw [inProgress, hsplit, List.filter_append, List.length_append]
    have hle : (behind.filter fun t => t.hasStatus "in_progress").length ≤
        ((old :: behind).filter fun t => t.hasStatus "in_progress").length := by
      rw [List.filter_cons]
      split
      · rw [List.length_cons]
        omega
      · exact le_rfl
    by_cases hactive : new.hasStatus "in_progress" = true
    · rw [if_pos hactive, List.length_append, List.length_cons]
      obtain ⟨claimed, rfl⟩ := hrewrites.transition.claims hactive
      cases hrewrites.transition with
      | @claim _ _ _ limit _ _ _ hlimit hfree =>
          have hroom : capacity queue = max 1 limit := by rw [capacity, hlimit]
          omega
    · rw [if_neg hactive, List.length_append]
      omega
  · have hnone : (added.filter fun t => t.hasStatus "in_progress") = [] := by
      rw [List.filter_eq_nil_iff]
      intro task htask
      rw [(happends.fresh task htask).not_active]
      exact Bool.false_ne_true
    rw [capacity_congr happends.capacity, inProgress, happends.written, List.filter_append, hnone,
      List.append_nil]
    exact hbounded

theorem RunInvariant.of_perform : RunInvariant queue' where
  bounded := bounded_of_perform h hinv
  settled := fun _ htask hactive => settled_of_perform h hinv htask hactive
  leased := fun _ htask htoken => leased_of_perform h hinv htask htoken

end

/-! ## The review gate -/

theorem gated_of_perform {step : Outside × Call}
    (h : perform hexdigest step.1 queue step.2 = .ok (queue', result)) (htask : task ∈ queue.tasks)
    (hgated : task.isGated = true) (hopen : task.hasStatus "done" = false) :
    ∃ task' ∈ queue'.tasks, task'.ownId = task.ownId ∧
      (task'.isGated = true ∧ task'.hasStatus "done" = false ∨
        CompletesReviewed hexdigest queue step task.ownId) := by
  rcases perform_eq_ok h with ⟨old, new, hrewrites, rfl⟩ | ⟨added, happends, -⟩
  · by_cases hown : task.ownId = old.ownId
    · obtain rfl := hrewrites.valid.eq_of_ownId_eq hrewrites.found htask hown
      refine ⟨new, hrewrites.mem_tasks.mpr (Or.inl rfl), hrewrites.ownId, ?_⟩
      have hkept : new.get? .requiredGate = task.get? .requiredGate → new.isGated = true := by
        intro hsame
        rw [Task.isGated, get_congr hsame]
        exact hgated
      generalize hcall : step.2 = call at hrewrites
      cases hrewrites.transition with
      | claim _ _ _ _ _ hwritten _ _ hgate =>
          exact Or.inl ⟨hkept hgate, not_hasStatus hwritten.hasStatus (by decide)⟩
      | @complete completion _ _ _ _ hreview =>
          exact Or.inr ⟨completion, hcall, hreview hgated, queue', new, h, hrewrites.ownId⟩
      | block _ _ _ _ hwritten _ hgate =>
          refine Or.inl ⟨?_, not_hasStatus hwritten.hasStatus (by decide)⟩
          rcases hgate with hgate | hgate
          · exact hkept hgate
          · rw [Task.isGated, Task.get, hgate, Option.getD_some, Value.isText_str]
            exact decide_eq_true rfl
      | release _ _ hwritten _ hgate =>
          exact Or.inl ⟨hkept hgate, not_hasStatus hwritten.hasStatus (by decide)⟩
      | resume _ _ _ hwritten _ hgate =>
          exact Or.inl ⟨hkept hgate, not_hasStatus hwritten.hasStatus (by decide)⟩
      | skip _ _ hwritten _ hgate =>
          exact Or.inl ⟨hkept hgate, not_hasStatus hwritten.hasStatus (by decide)⟩
      | approve _ _ hwritten _ hgate =>
          exact Or.inl ⟨hkept hgate, not_hasStatus hwritten.hasStatus (by decide)⟩
    · exact ⟨task, hrewrites.mem_tasks.mpr (Or.inr ⟨htask, hown⟩), rfl, Or.inl ⟨hgated, hopen⟩⟩
  · refine ⟨task, ?_, rfl, Or.inl ⟨hgated, hopen⟩⟩
    rw [happends.written]
    exact List.mem_append_left _ htask

end Steps

section EveryRun

variable {hexdigest : PyString → PyString} {queue : Queue} {task task' : Task}

theorem valid_afterAll (h : queue.Valid) (steps : List (Outside × Call)) :
    (afterAll hexdigest queue steps).Valid := by
  apply afterAll_invariant _ h
  intro outside queue call queue' result hperform _
  rcases perform_eq_ok hperform with ⟨_, _, hrewrites, -⟩ | ⟨_, happends, -⟩
  · exact hrewrites.valid'
  · exact happends.valid'

theorem done_afterAll (htask : task ∈ queue.tasks) (hdone : task.hasStatus "done" = true)
    (steps : List (Outside × Call)) : task ∈ (afterAll hexdigest queue steps).tasks :=
  afterAll_invariant (P := fun queue => task ∈ queue.tasks)
    (fun _ _ _ _ _ hperform hmem => done_of_perform hperform hmem hdone) htask steps

/-- A task that waits for a review is done only after a completion that a review has passed. -/
theorem gated_afterAll (hvalid : queue.Valid) (htask : task ∈ queue.tasks)
    (hgated : task.isGated = true) (hopen : task.hasStatus "done" = false)
    (steps : List (Outside × Call)) (htask' : task' ∈ (afterAll hexdigest queue steps).tasks)
    (hown : task'.ownId = task.ownId) (hdone : task'.hasStatus "done" = true) :
    ∃ earlier step later, steps = earlier ++ step :: later ∧
      CompletesReviewed hexdigest (afterAll hexdigest queue earlier) step task.ownId := by
  induction steps generalizing queue task with
  | nil =>
      rw [hvalid.eq_of_ownId_eq htask htask' hown, hopen] at hdone
      cases hdone
  | cons step steps ih =>
      change task' ∈ (afterAll hexdigest (after hexdigest queue step) steps).tasks at htask'
      have hvalid' : (after hexdigest queue step).Valid := valid_afterAll hvalid [step]
      cases hperform : perform hexdigest step.1 queue step.2 with
      | error e =>
          have hsame : after hexdigest queue step = queue := by rw [after, hperform]
          rw [hsame] at htask'
          obtain ⟨earlier, found, later, rfl, hcompletes⟩ :=
            ih hvalid htask hgated hopen htask' hown
          refine ⟨step :: earlier, found, later, rfl, ?_⟩
          change CompletesReviewed hexdigest
            (afterAll hexdigest (after hexdigest queue step) earlier) found _
          rwa [hsame]
      | ok outcome =>
          obtain ⟨queue', result⟩ := outcome
          obtain ⟨next, hnext, hsame, hcase⟩ := gated_of_perform hperform htask hgated hopen
          rcases hcase with ⟨hgated', hopen'⟩ | hcompletes
          · rw [← after_of_ok hperform] at hnext
            obtain ⟨earlier, found, later, rfl, hcompletes⟩ :=
              ih hvalid' hnext hgated' hopen' htask' (hown.trans hsame.symm)
            exact ⟨step :: earlier, found, later, rfl, hsame ▸ hcompletes⟩
          · exact ⟨[], step, steps, rfl, hcompletes⟩

/-- Every run is safe that starts from an accepted document with the invariant. -/
theorem runSafe (hvalid : queue.Valid) (hinv : RunInvariant queue) : RunSafe hexdigest queue where
  invariant := fun steps =>
    afterAll_invariant (fun _ _ _ _ _ hperform => RunInvariant.of_perform hperform) hinv steps
  done := by
    intro steps steps' task htask hdone
    rw [afterAll_append]
    exact done_afterAll htask hdone steps'
  gated := by
    intro steps steps' task htask hgated hopen task' htask' hown hdone
    rw [afterAll_append] at htask'
    obtain ⟨earlier, step, later, hsplit, hcompletes⟩ :=
      gated_afterAll (valid_afterAll hvalid steps) htask hgated hopen steps' htask' hown hdone
    refine ⟨earlier, step, later, hsplit, ?_⟩
    rwa [afterAll_append]

def heldQueue : Queue where
  schemaVersion := some (.int 1)
  policy := some (.dict [(.str (py "max_in_progress"), .int 2)])
  tasks :=
    [.ofEntries [(.id, .str (py "H-001")), (.status, .str (py "in_progress")),
        (.owner, .str (py "codex")), (.leaseToken, .str (py "token")), (.revision, .int 1)],
      .ofEntries [(.id, .str (py "H-002")), (.status, .str (py "blocked")),
        (.requiredGate, .str independentReviewGate),
        (.dependencies, .list [.str (py "H-001")])]]
  imports := none

theorem runSafe_heldQueue : RunSafe (fun _ => []) heldQueue :=
  runSafe (by decide +kernel) ⟨by decide +kernel, by unfold DependenciesSettled; decide +kernel, by decide +kernel⟩

end EveryRun

end DevHarness.TaskQueue
