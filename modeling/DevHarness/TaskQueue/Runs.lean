import DevHarness.TaskQueue.Additions

/-!
# Runs of the queue

The operations as one step function, and what a successful step does to the tasks.
-/

namespace DevHarness.TaskQueue

open PyText Sequence

/-! ## Calls -/

inductive Call
  | add (call : AddCall)
  | propose (call : ProposeCall)
  | approve (call : ApproveCall)
  | claim (call : ClaimCall)
  | complete (call : CompleteCall)
  | block (call : BlockCall)
  | release (call : ReleaseCall)
  | resume (call : ResumeCall)
  | skip (call : SkipCall)
  | importPlan (payload idempotencyKey : Value)

inductive Result
  | task (task : Task)
  | receipt (receipt : Value)

def taskResult (result : Queue × Task) : Queue × Result :=
  (result.1, .task result.2)

variable {outside : Outside} {queue queue' : Queue} {task other : Task}

section Steps

variable (hexdigest : PyString → PyString)

def perform (outside : Outside) (queue : Queue) : Call → Except QueueError (Queue × Result)
  | .add call => (addTask outside call queue).map taskResult
  | .propose call => (proposeTask outside call queue).map taskResult
  | .approve call => (approveTask outside call queue).map taskResult
  | .claim call => (claimTask outside call queue).map taskResult
  | .complete call => (completeTask outside call queue).map taskResult
  | .block call => (blockTask outside call queue).map taskResult
  | .release call => (releaseTask outside call queue).map taskResult
  | .resume call => (resumeTask outside call queue).map taskResult
  | .skip call => (skipTask outside call queue).map taskResult
  | .importPlan payload idempotencyKey =>
    (importPlan hexdigest outside payload idempotencyKey queue).map fun result =>
      (result.1, .receipt result.2)

def after (queue : Queue) (step : Outside × Call) : Queue :=
  match perform hexdigest step.1 queue step.2 with
  | .ok result => result.1
  | .error _ => queue

/-- The stored document after a sequence of calls.  They run one after the other, under the lock
of the file. -/
def afterAll (queue : Queue) (steps : List (Outside × Call)) : Queue :=
  steps.foldl (after hexdigest) queue

end Steps

/-- What an operation that rewrites a task finds, and what it makes of it. -/
inductive Transition (outside : Outside) (queue : Queue) : Call → Task → Task → Prop
  | claim {call : ClaimCall} {task task' : Task} {limit : ℤ}
      (hid : call.taskId ≠ [] → task.get .id = .str call.taskId)
      (hstatus : task.hasStatus "pending" = true ∨ task.hasStatus "blocked" = true)
      (hready : depsReady queue task = true) (hlimit : maxInProgress queue = .ok limit)
      (hfree : (inProgress queue).length < limit) (hwritten : Rewritten task "in_progress" task')
      (howner : task'.get? .owner = some (.str (orText call.owner (py "autodev"))))
      (htoken : task'.get? .leaseToken = some (.str (orText call.leaseToken outside.freshToken)))
      (hgate : task'.get? .requiredGate = task.get? .requiredGate) :
      Transition outside queue (.claim call) task task'
  | complete {call : CompleteCall} {task task' : Task} (hid : task.get .id = .str call.taskId)
      (hopen : task.isOpen = true)
      (hgate : (task.get .requiredGate).isText independentReviewGate = true →
        call.reviewPassed = true)
      (hlease : call.forceReconcile = false → requireActiveLease call.expected task = .ok ())
      (hwritten : Rewritten task "done" task') (htoken : task'.get? .leaseToken = none) :
      Transition outside queue (.complete call) task task'
  | block {call : BlockCall} {task task' : Task} (hid : task.get .id = .str call.taskId)
      (hopen : task.isTerminal = false) (hproposed : task.hasStatus "proposed" = false)
      (hlease : call.forceReconcile = false → requireActiveLease call.expected task = .ok ())
      (hwritten : Rewritten task "blocked" task') (htoken : task'.get? .leaseToken = none)
      (hgate : task'.get? .requiredGate = task.get? .requiredGate ∨
        task'.get? .requiredGate = some (.str independentReviewGate)) :
      Transition outside queue (.block call) task task'
  | release {call : ReleaseCall} {task task' : Task} (hid : task.get .id = .str call.taskId)
      (hlease : requireActiveLease call.expected task = .ok ())
      (hwritten : Rewritten task "pending" task') (htoken : task'.get? .leaseToken = none)
      (hgate : task'.get? .requiredGate = task.get? .requiredGate) :
      Transition outside queue (.release call) task task'
  | resume {call : ResumeCall} {task task' : Task} (hid : task.get .id = .str call.taskId)
      (hstatus : task.hasStatus "blocked" = true) (hready : depsReady queue task = true)
      (hwritten : Rewritten task "pending" task') (htoken : task'.get? .leaseToken = none)
      (hgate : task'.get? .requiredGate = task.get? .requiredGate) :
      Transition outside queue (.resume call) task task'
  | skip {call : SkipCall} {task task' : Task} (hid : task.get .id = .str call.taskId)
      (hstatus : task.hasStatus "done" = false)
      (hwritten : Rewritten task "skipped" task') (htoken : task'.get? .leaseToken = none)
      (hgate : task'.get? .requiredGate = task.get? .requiredGate) :
      Transition outside queue (.skip call) task task'
  | approve {call : ApproveCall} {task task' : Task} (hid : task.get .id = .str call.taskId)
      (hstatus : task.hasStatus "proposed" = true)
      (hwritten : Rewritten task "pending" task')
      (htoken : task'.get? .leaseToken = task.get? .leaseToken)
      (hgate : task'.get? .requiredGate = task.get? .requiredGate) :
      Transition outside queue (.approve call) task task'

/-! ## Inversion -/

structure Rewrites (outside : Outside) (queue : Queue) (call : Call) (task task' : Task)
    (queue' : Queue) : Prop where
  valid : queue.Valid
  found : task ∈ queue.tasks
  transition : Transition outside queue call task task'
  written : queue' = queue.loaded.put task'
  valid' : queue'.Valid

section Inversion

variable {result : Result}

theorem checkLease_eq_ok {forceReconcile : Bool} {expected : ExpectedLease}
    {forced : Except QueueError Unit} (h : checkLease forceReconcile expected forced task = .ok ()) :
    forceReconcile = false → requireActiveLease expected task = .ok () := by
  rintro rfl
  exact h

theorem chooseTask_eq_ok {taskId : PyString} (h : chooseTask queue taskId = .ok task) :
    task ∈ queue.tasks ∧ (taskId ≠ [] → task.get .id = .str taskId) ∧
      (taskId = [] → task ∈ readySet queue) := by
  unfold chooseTask at h
  split at h
  · rename_i hempty
    rw [bind_eq_ok] at h
    obtain ⟨next, hnext, h⟩ := h
    cases next with
    | none => cases h
    | some found =>
        obtain rfl := Except.ok.inj h
        have hready := nextTask_eq_ok hnext
        exact ⟨(mem_readySet.mp hready).1, fun hne => absurd hempty hne, fun _ => hready⟩
  · rename_i hne
    obtain ⟨hmem, hid⟩ := taskById_eq_ok h
    exact ⟨hmem, fun _ => hid, fun hempty => absurd hempty hne⟩

theorem dependencyIds_congr (h : other.get? .dependencies = task.get? .dependencies) :
    other.dependencyIds = task.dependencyIds := by
  rw [Task.dependencyIds, Task.dependencyIds, Task.dependencies?, Task.dependencies?, h]

theorem depsReady_congr (queue : Queue) (h : other.get? .dependencies = task.get? .dependencies) :
    depsReady queue other = depsReady queue task := by
  rw [depsReady, depsReady, dependencyIds_congr h]

theorem claimTask_eq_ok {call : ClaimCall}
    (h : claimTask outside call queue = .ok (queue', task)) :
    ∃ old, Rewrites outside queue (.claim call) old task queue' := by
  obtain ⟨hvalid, hmutate, hvalid'⟩ := mutateQueue_eq_ok.mp h
  simp only [bind_eq_ok, require_eq_ok, decide_eq_true_eq] at hmutate
  obtain ⟨⟨⟩, -, limit, hlimit, ⟨⟩, hfree, old, hchosen, resumed, hresume, ⟨⟩, hpending, ⟨⟩,
    hready, new, hlease, hresult⟩ := hmutate
  obtain ⟨rfl, rfl⟩ := Prod.mk.inj (Except.ok.inj hresult)
  obtain ⟨hmem, hid, -⟩ := chooseTask_eq_ok hchosen
  obtain ⟨hwritten, howner, htoken, hgate⟩ := leaseTask_eq_ok hlease
  have hrewritten := hwritten.of_resumeForClaim hresume
  rcases resumeForClaim_eq_ok hresume with rfl | ⟨hblocked, hkept, -, -, hsame⟩
  · exact ⟨_, hvalid, hmem,
      .claim hid (Or.inl hpending) hready hlimit hfree hrewritten howner htoken hgate, rfl, hvalid'⟩
  · have hdeps := depsReady_congr queue (hkept .dependencies rfl)
    exact ⟨old, hvalid, hmem,
      .claim hid (Or.inr hblocked) (hdeps.symm.trans hready) hlimit hfree hrewritten howner htoken
        (hgate.trans hsame), rfl, hvalid'⟩

theorem completeTask_eq_ok {call : CompleteCall}
    (h : completeTask outside call queue = .ok (queue', task)) :
    ∃ old, Rewrites outside queue (.complete call) old task queue' := by
  obtain ⟨hvalid, hmutate, hvalid'⟩ := mutateQueue_eq_ok.mp h
  simp only [bind_eq_ok, require_eq_ok] at hmutate
  obtain ⟨old, hfound, ⟨⟩, hgate, ⟨⟩, hlease, ⟨⟩, hopen, new, hfinish, hresult⟩ := hmutate
  obtain ⟨rfl, rfl⟩ := Prod.mk.inj (Except.ok.inj hresult)
  obtain ⟨hmem, hid⟩ := taskById_eq_ok hfound
  obtain ⟨hwritten, htoken⟩ := finishTask_eq_ok hfinish
  refine ⟨old, hvalid, hmem, .complete hid hopen ?_ (checkLease_eq_ok hlease) hwritten htoken,
    rfl, hvalid'⟩
  intro hset
  simpa [hset] using hgate

theorem releaseTask_eq_ok {call : ReleaseCall}
    (h : releaseTask outside call queue = .ok (queue', task)) :
    ∃ old, Rewrites outside queue (.release call) old task queue' := by
  obtain ⟨hvalid, hmutate, hvalid'⟩ := mutateQueue_eq_ok.mp h
  simp only [bind_eq_ok] at hmutate
  obtain ⟨old, hfound, ⟨⟩, hlease, new, hreturn, hresult⟩ := hmutate
  obtain ⟨rfl, rfl⟩ := Prod.mk.inj (Except.ok.inj hresult)
  obtain ⟨hmem, hid⟩ := taskById_eq_ok hfound
  obtain ⟨hwritten, htoken, hgate⟩ := returnTask_eq_ok hreturn
  exact ⟨old, hvalid, hmem, .release hid hlease hwritten htoken hgate, rfl, hvalid'⟩

theorem blockTask_eq_ok {call : BlockCall}
    (h : blockTask outside call queue = .ok (queue', task)) :
    ∃ old, Rewrites outside queue (.block call) old task queue' := by
  obtain ⟨hvalid, hmutate, hvalid'⟩ := mutateQueue_eq_ok.mp h
  simp only [bind_eq_ok, require_eq_ok, Bool.not_eq_true'] at hmutate
  obtain ⟨old, hfound, ⟨⟩, hopen, ⟨⟩, hproposed, ⟨⟩, hlease, new, hblock, hresult⟩ := hmutate
  obtain ⟨rfl, rfl⟩ := Prod.mk.inj (Except.ok.inj hresult)
  obtain ⟨hmem, hid⟩ := taskById_eq_ok hfound
  obtain ⟨hwritten, htoken, hgate⟩ := blockedTask_eq_ok hblock
  exact ⟨old, hvalid, hmem,
    .block hid hopen hproposed (checkLease_eq_ok hlease) hwritten htoken hgate, rfl, hvalid'⟩

theorem resumeTask_eq_ok {call : ResumeCall}
    (h : resumeTask outside call queue = .ok (queue', task)) :
    ∃ old, Rewrites outside queue (.resume call) old task queue' := by
  obtain ⟨hvalid, hmutate, hvalid'⟩ := mutateQueue_eq_ok.mp h
  simp only [bind_eq_ok, require_eq_ok] at hmutate
  obtain ⟨old, hfound, ⟨⟩, hstatus, ⟨⟩, hready, new, hresume, hresult⟩ := hmutate
  obtain ⟨rfl, rfl⟩ := Prod.mk.inj (Except.ok.inj hresult)
  obtain ⟨hmem, hid⟩ := taskById_eq_ok hfound
  obtain ⟨hwritten, htoken, hgate⟩ := resumedTask_eq_ok hresume
  exact ⟨old, hvalid, hmem, .resume hid hstatus hready hwritten htoken hgate, rfl, hvalid'⟩

theorem skipTask_eq_ok {call : SkipCall}
    (h : skipTask outside call queue = .ok (queue', task)) :
    ∃ old, Rewrites outside queue (.skip call) old task queue' := by
  obtain ⟨hvalid, hmutate, hvalid'⟩ := mutateQueue_eq_ok.mp h
  simp only [bind_eq_ok, require_eq_ok, Bool.not_eq_true'] at hmutate
  obtain ⟨old, hfound, ⟨⟩, hstatus, new, hskip, hresult⟩ := hmutate
  obtain ⟨rfl, rfl⟩ := Prod.mk.inj (Except.ok.inj hresult)
  obtain ⟨hmem, hid⟩ := taskById_eq_ok hfound
  obtain ⟨hwritten, htoken, hgate⟩ := skippedTask_eq_ok hskip
  exact ⟨old, hvalid, hmem, .skip hid hstatus hwritten htoken hgate, rfl, hvalid'⟩

theorem approveTask_eq_ok {call : ApproveCall}
    (h : approveTask outside call queue = .ok (queue', task)) :
    ∃ old, Rewrites outside queue (.approve call) old task queue' := by
  obtain ⟨hvalid, hmutate, hvalid'⟩ := mutateQueue_eq_ok.mp h
  simp only [bind_eq_ok, require_eq_ok] at hmutate
  obtain ⟨old, hfound, ⟨⟩, hstatus, new, happrove, hresult⟩ := hmutate
  obtain ⟨rfl, rfl⟩ := Prod.mk.inj (Except.ok.inj hresult)
  obtain ⟨hmem, hid⟩ := taskById_eq_ok hfound
  obtain ⟨hwritten, htoken, hgate⟩ := approvedTask_eq_ok happrove
  exact ⟨old, hvalid, hmem, .approve hid hstatus hwritten htoken hgate, rfl, hvalid'⟩

theorem map_taskResult_eq_ok {operation : Except QueueError (Queue × Task)} :
    operation.map taskResult = .ok (queue', result) ↔
      ∃ task, operation = .ok (queue', task) ∧ result = .task task := by
  rw [map_eq_ok]
  constructor
  · rintro ⟨⟨written, task⟩, hoperation, hresult⟩
    obtain ⟨rfl, rfl⟩ := Prod.mk.inj hresult
    exact ⟨task, hoperation, rfl⟩
  · rintro ⟨task, hoperation, rfl⟩
    exact ⟨_, hoperation, rfl⟩

theorem perform_eq_ok {hexdigest : PyString → PyString} {call : Call}
    (h : perform hexdigest outside queue call = .ok (queue', result)) :
    (∃ task task', Rewrites outside queue call task task' queue' ∧ result = .task task') ∨
      ∃ added, Appends queue added queue' ∧ ∀ task, result = .task task → task ∈ added := by
  cases call with
  | importPlan payload idempotencyKey =>
      obtain ⟨⟨written, receipt⟩, himport, hresult⟩ := map_eq_ok.mp h
      obtain ⟨rfl, rfl⟩ := Prod.mk.inj hresult
      obtain ⟨added, hadded⟩ := importPlan_eq_ok himport
      exact Or.inr ⟨added, hadded, nofun⟩
  | add call =>
      obtain ⟨task, hcall, rfl⟩ := map_taskResult_eq_ok.mp h
      refine Or.inr ⟨[task], (addTask_eq_ok hcall).2, ?_⟩
      intro other hother
      rw [Result.task.inj hother]
      exact List.mem_cons_self
  | propose call =>
      obtain ⟨task, hcall, rfl⟩ := map_taskResult_eq_ok.mp h
      refine Or.inr ⟨[task], (proposeTask_eq_ok hcall).2, ?_⟩
      intro other hother
      rw [Result.task.inj hother]
      exact List.mem_cons_self
  | approve call =>
      obtain ⟨task, hcall, rfl⟩ := map_taskResult_eq_ok.mp h
      obtain ⟨old, hrewrites⟩ := approveTask_eq_ok hcall
      exact Or.inl ⟨old, task, hrewrites, rfl⟩
  | claim call =>
      obtain ⟨task, hcall, rfl⟩ := map_taskResult_eq_ok.mp h
      obtain ⟨old, hrewrites⟩ := claimTask_eq_ok hcall
      exact Or.inl ⟨old, task, hrewrites, rfl⟩
  | complete call =>
      obtain ⟨task, hcall, rfl⟩ := map_taskResult_eq_ok.mp h
      obtain ⟨old, hrewrites⟩ := completeTask_eq_ok hcall
      exact Or.inl ⟨old, task, hrewrites, rfl⟩
  | block call =>
      obtain ⟨task, hcall, rfl⟩ := map_taskResult_eq_ok.mp h
      obtain ⟨old, hrewrites⟩ := blockTask_eq_ok hcall
      exact Or.inl ⟨old, task, hrewrites, rfl⟩
  | release call =>
      obtain ⟨task, hcall, rfl⟩ := map_taskResult_eq_ok.mp h
      obtain ⟨old, hrewrites⟩ := releaseTask_eq_ok hcall
      exact Or.inl ⟨old, task, hrewrites, rfl⟩
  | resume call =>
      obtain ⟨task, hcall, rfl⟩ := map_taskResult_eq_ok.mp h
      obtain ⟨old, hrewrites⟩ := resumeTask_eq_ok hcall
      exact Or.inl ⟨old, task, hrewrites, rfl⟩
  | skip call =>
      obtain ⟨task, hcall, rfl⟩ := map_taskResult_eq_ok.mp h
      obtain ⟨old, hrewrites⟩ := skipTask_eq_ok hcall
      exact Or.inl ⟨old, task, hrewrites, rfl⟩

end Inversion

section Written

variable {call : Call} {task' : Task} {added : List Task}

theorem Transition.rewritten (h : Transition outside queue call task task') :
    ∃ status, Rewritten task status task' := by
  cases h with
  | claim _ _ _ _ _ hwritten => exact ⟨_, hwritten⟩
  | complete _ _ _ _ hwritten => exact ⟨_, hwritten⟩
  | block _ _ _ _ hwritten => exact ⟨_, hwritten⟩
  | release _ _ hwritten => exact ⟨_, hwritten⟩
  | resume _ _ _ hwritten => exact ⟨_, hwritten⟩
  | skip _ _ hwritten => exact ⟨_, hwritten⟩
  | approve _ _ hwritten => exact ⟨_, hwritten⟩

theorem ownId_congr (h : task'.get? .id = task.get? .id) : task'.ownId = task.ownId := by
  rw [Task.ownId, Task.ownId, h]

theorem get_congr {field : Field} (h : task'.get? field = task.get? field) :
    task'.get field = task.get field := by
  rw [Task.get, Task.get, h]

theorem tasks_put (hvalid : queue.Valid) (hown : task'.ownId = task.ownId) :
    (queue.put task').tasks = queue.tasks.map fun other =>
      if other.ownId = task.ownId then task' else other := by
  rw [Queue.put, ← hown]
  have hunique : queue.tasks.Pairwise fun a b =>
      ¬ (decide (a.ownId = task'.ownId) = true ∧ decide (b.ownId = task'.ownId) = true) := by
    have hpair := List.pairwise_map.mp hvalid.distinct
    refine hpair.imp fun hne hboth => hne ?_
    exact (of_decide_eq_true hboth.1).trans (of_decide_eq_true hboth.2).symm
  change updateFirst _ _ queue.tasks = _
  rw [updateFirst_eq_map hunique]
  simp only [decide_eq_true_eq]

namespace Rewrites

section

variable (h : Rewrites outside queue call task task' queue')

include h

theorem get?_eq {field : Field} (hfield : field.immutable = true) :
    task'.get? field = task.get? field := by
  obtain ⟨status, hwritten⟩ := h.transition.rewritten
  exact hwritten.kept field hfield

theorem ownId : task'.ownId = task.ownId :=
  ownId_congr (h.get?_eq rfl)

theorem tasks_eq_map :
    queue'.tasks = queue.tasks.map fun other =>
      if other.ownId = task.ownId then task' else other := by
  have htasks := tasks_put h.valid h.ownId
  rw [h.written]
  exact htasks

theorem mem_tasks :
    other ∈ queue'.tasks ↔ other = task' ∨ other ∈ queue.tasks ∧ other.ownId ≠ task.ownId := by
  rw [h.tasks_eq_map, List.mem_map]
  constructor
  · rintro ⟨before, hbefore, rfl⟩
    by_cases hown : before.ownId = task.ownId
    · exact Or.inl (if_pos hown)
    · rw [if_neg hown]
      exact Or.inr ⟨hbefore, hown⟩
  · rintro (rfl | ⟨hbefore, hown⟩)
    · exact ⟨task, h.found, if_pos rfl⟩
    · exact ⟨other, hbefore, if_neg hown⟩

end

end Rewrites

theorem Queue.Valid.eq_of_ownId_eq (h : queue.Valid) (htask : task ∈ queue.tasks)
    (hother : other ∈ queue.tasks) (hown : other.ownId = task.ownId) : other = task :=
  List.inj_on_of_nodup_map h.distinct hother htask hown

theorem Appends.ownId_ne (h : Appends queue added queue') (htask : task ∈ queue.tasks)
    (hother : other ∈ added) : other.ownId ≠ task.ownId := by
  have hnodup := h.valid'.distinct
  rw [h.written, List.map_append, List.nodup_append'] at hnodup
  intro hown
  exact hnodup.2.2 (List.mem_map_of_mem htask) (hown ▸ List.mem_map_of_mem hother)

end Written

theorem afterAll_concat (hexdigest : PyString → PyString) (queue : Queue)
    (steps : List (Outside × Call)) (step : Outside × Call) :
    afterAll hexdigest queue (steps ++ [step]) =
      after hexdigest (afterAll hexdigest queue steps) step := by
  rw [afterAll, afterAll, List.foldl_append]
  rfl

theorem after_of_ok {hexdigest : PyString → PyString} {queue queue' : Queue}
    {step : Outside × Call} {result : Result}
    (h : perform hexdigest step.1 queue step.2 = .ok (queue', result)) :
    after hexdigest queue step = queue' := by
  rw [after, h]

theorem afterAll_invariant {hexdigest : PyString → PyString} {P : Queue → Prop}
    (hstep : ∀ outside queue call queue' result,
      perform hexdigest outside queue call = .ok (queue', result) → P queue → P queue')
    {queue : Queue} (hinitial : P queue) (steps : List (Outside × Call)) :
    P (afterAll hexdigest queue steps) := by
  induction steps generalizing queue with
  | nil => exact hinitial
  | cons step steps ih =>
      apply ih
      rw [after]
      cases hperform : perform hexdigest step.1 queue step.2 with
      | error e => exact hinitial
      | ok result => exact hstep _ _ _ _ _ hperform hinitial

end DevHarness.TaskQueue
