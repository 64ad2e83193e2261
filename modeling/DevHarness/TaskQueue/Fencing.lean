import DevHarness.TaskQueue.Runs

/-!
# Claims and the calls that finish them

A call that completes, blocks or releases a task, and is not forced, has to name the owner, the
token and the revision of the claim.  The caller may have chosen the token; what tells two claims
apart is the revision, which every transition raises.
-/

namespace DevHarness.TaskQueue

open PyText Sequence

/-! ## Histories -/

def Call.lease? : Call → Option (PyString × ExpectedLease)
  | .complete call => if call.forceReconcile then none else some (call.taskId, call.expected)
  | .block call => if call.forceReconcile then none else some (call.taskId, call.expected)
  | .release call => some (call.taskId, call.expected)
  | _ => none

variable {queue queue' : Queue} {taskId : PyString} {step : Outside × Call} {task task' : Task}
  {outside : Outside} {call : Call}

section Histories

variable (hexdigest : PyString → PyString)

def Touches (queue : Queue) (step : Outside × Call) (taskId : PyString) : Prop :=
  ∃ queue' task, perform hexdigest step.1 queue step.2 = .ok (queue', .task task) ∧
    task.get .id = .str taskId

def Untouched (taskId : PyString) : Queue → List (Outside × Call) → Prop
  | _, [] => True
  | queue, step :: steps =>
    ¬ Touches hexdigest queue step taskId ∧ Untouched taskId (after hexdigest queue step) steps

def Claims (queue : Queue) (step : Outside × Call) (task : Task) : Prop :=
  (∃ call, step.2 = .claim call) ∧
    ∃ queue', perform hexdigest step.1 queue step.2 = .ok (queue', .task task)

/-- The task is what its most recent claim returned, and no call has been on it since; or it is
claimed in the first document, and no call has been on it at all. -/
def LastClaimed (queue : Queue) (steps : List (Outside × Call)) (taskId : PyString)
    (task : Task) : Prop :=
  (∃ earlier claim later, steps = earlier ++ claim :: later ∧
    Claims hexdigest (afterAll hexdigest queue earlier) claim task ∧
    Untouched hexdigest taskId (afterAll hexdigest queue (earlier ++ [claim])) later) ∨
  task ∈ queue.tasks ∧ Untouched hexdigest taskId queue steps

end Histories

/-- The caller names the owner, the token and the revision that the task has. -/
structure HeldBy (task : Task) (expected : ExpectedLease) : Prop where
  owner : task.textOf .owner = expected.owner
  leaseToken : task.textOf .leaseToken = expected.leaseToken
  revision : ∃ n, taskRevision task = .ok n ∧ expected.revision = some n

def RevisionRises (task task' : Task) : Prop :=
  ∃ n m, taskRevision task = .ok n ∧ taskRevision task' = .ok m ∧ n < m

structure ClaimsFenced (hexdigest : PyString → PyString) (queue : Queue) : Prop where
  /-- Only the holder of the most recent claim finishes it. -/
  holder : ∀ steps (step : Outside × Call) taskId expected, step.2.lease? = some (taskId, expected) →
    ∀ result, perform hexdigest step.1 (afterAll hexdigest queue steps) step.2 = .ok result →
      ∃ task ∈ (afterAll hexdigest queue steps).tasks, task.get .id = .str taskId ∧
        HeldBy task expected ∧ LastClaimed hexdigest queue steps taskId task
  /-- Between two calls that finish a claim, the task has been claimed again. -/
  once : ∀ before between (first second : Outside × Call) taskId expected expected',
    first.2.lease? = some (taskId, expected) → second.2.lease? = some (taskId, expected') →
    ∀ result result',
      perform hexdigest first.1 (afterAll hexdigest queue before) first.2 = .ok result →
      perform hexdigest second.1 (afterAll hexdigest queue (before ++ first :: between)) second.2 =
        .ok result' →
      ∃ earlier claim later task, between = earlier ++ claim :: later ∧
        Claims hexdigest (afterAll hexdigest queue (before ++ first :: earlier)) claim task ∧
        task.get .id = .str taskId
  /-- A task that a call is on has its revision raised; the others stay as they are. -/
  revisions : ∀ steps (step : Outside × Call) queue' result,
    perform hexdigest step.1 (afterAll hexdigest queue steps) step.2 = .ok (queue', result) →
      ∀ task ∈ (afterAll hexdigest queue steps).tasks, ∀ task' ∈ queue'.tasks,
        task'.ownId = task.ownId →
          RevisionRises task task' ∨
            task' = task ∧ ∀ returned, result = .task returned → returned.ownId ≠ task.ownId

section Sequences

variable {hexdigest : PyString → PyString} {steps steps' : List (Outside × Call)}

theorem afterAll_append :
    afterAll hexdigest queue (steps ++ steps') =
      afterAll hexdigest (afterAll hexdigest queue steps) steps' :=
  List.foldl_append

theorem untouched_append :
    Untouched hexdigest taskId queue (steps ++ steps') ↔
      Untouched hexdigest taskId queue steps ∧
        Untouched hexdigest taskId (afterAll hexdigest queue steps) steps' := by
  induction steps generalizing queue with
  | nil => simp [Untouched, afterAll]
  | cons step steps ih =>
      rw [List.cons_append, Untouched, Untouched, ih, and_assoc]
      rfl

theorem LastClaimed.concat (h : LastClaimed hexdigest queue steps taskId task)
    (hstep : ¬ Touches hexdigest (afterAll hexdigest queue steps) step taskId) :
    LastClaimed hexdigest queue (steps ++ [step]) taskId task := by
  rcases h with ⟨earlier, claim, later, rfl, hclaims, hlater⟩ | ⟨hmem, hsteps⟩
  · refine Or.inl ⟨earlier, claim, later ++ [step], by simp, hclaims, ?_⟩
    refine untouched_append.mpr ⟨hlater, ?_, trivial⟩
    have hsame : earlier ++ claim :: later = (earlier ++ [claim]) ++ later := by simp
    rwa [hsame, afterAll_append] at hstep
  · exact Or.inr ⟨hmem, untouched_append.mpr ⟨hsteps, hstep, trivial⟩⟩

end Sequences

section Holder

variable {hexdigest : PyString → PyString} {expected : ExpectedLease} {result : Queue × Result}

theorem hasStatus_of_get? {status other : String} (h : task.get? .status = some (.str (py status)))
    (hne : py status ≠ py other) : task.hasStatus other = false := by
  rw [Task.hasStatus, Task.get, h, Option.getD_some, Value.isText_str, decide_eq_false hne]

theorem Transition.claims (h : Transition outside queue call task task')
    (hactive : task'.hasStatus "in_progress" = true) : ∃ claimed, call = .claim claimed := by
  have hnot : ∀ status, Rewritten task status task' → py status ≠ py "in_progress" → False := by
    intro status hwritten hne
    rw [hasStatus_of_get? hwritten.status hne] at hactive
    cases hactive
  cases h with
  | claim => exact ⟨_, rfl⟩
  | complete _ _ _ _ hwritten => exact (hnot _ hwritten (by decide)).elim
  | block _ _ _ _ hwritten => exact (hnot _ hwritten (by decide)).elim
  | release _ _ hwritten => exact (hnot _ hwritten (by decide)).elim
  | resume _ _ _ hwritten => exact (hnot _ hwritten (by decide)).elim
  | skip _ _ hwritten => exact (hnot _ hwritten (by decide)).elim
  | approve _ _ hwritten => exact (hnot _ hwritten (by decide)).elim

theorem ownId_of_get_id (h : task.get .id = .str taskId) : task.ownId = strip taskId := by
  unfold Task.get at h
  cases hid : task.get? .id with
  | none =>
      rw [hid] at h
      cases h
  | some value =>
      rw [hid, Option.getD_some] at h
      exact ownId_of_get?_id (hid.trans (congrArg some h))

theorem Fresh.not_active (h : Fresh task) : task.hasStatus "in_progress" = false := by
  rcases h.status with hstatus | hstatus
  · exact hasStatus_of_get? hstatus (by decide)
  · exact hasStatus_of_get? hstatus (by decide)

theorem lastClaimed_of_active (steps : List (Outside × Call))
    (htask : task ∈ (afterAll hexdigest queue steps).tasks) (hid : task.get .id = .str taskId)
    (hactive : task.hasStatus "in_progress" = true) :
    LastClaimed hexdigest queue steps taskId task := by
  induction steps using List.reverseRecOn generalizing task with
  | nil => exact Or.inr ⟨htask, trivial⟩
  | append_singleton steps step ih =>
      rw [afterAll_concat, after] at htask
      cases hperform : perform hexdigest step.1 (afterAll hexdigest queue steps) step.2 with
      | error e =>
          rw [hperform] at htask
          apply (ih htask hid hactive).concat
          rintro ⟨queue', other, hok, -⟩
          rw [hperform] at hok
          cases hok
      | ok outcome =>
          obtain ⟨queue', result⟩ := outcome
          rw [hperform] at htask
          rcases perform_eq_ok hperform with ⟨old, new, hrewrites, rfl⟩ | ⟨added, happends, hresult⟩
          · rcases hrewrites.mem_tasks.mp htask with rfl | ⟨hmem, hne⟩
            · obtain ⟨call, hcall⟩ := hrewrites.transition.claims hactive
              exact Or.inl ⟨steps, step, [], rfl, ⟨⟨call, hcall⟩, queue', hperform⟩, trivial⟩
            · apply (ih hmem hid hactive).concat
              rintro ⟨queue'', other, hok, hother⟩
              rw [hperform] at hok
              cases hok
              apply hne
              rw [← hrewrites.ownId, ownId_of_get_id hid, ownId_of_get_id hother]
          · have hmem : task ∈ (afterAll hexdigest queue steps).tasks := by
              change task ∈ queue'.tasks at htask
              rw [happends.written] at htask
              rcases List.mem_append.mp htask with hmem | hmem
              · exact hmem
              · rw [(happends.fresh task hmem).not_active] at hactive
                cases hactive
            apply (ih hmem hid hactive).concat
            rintro ⟨queue'', other, hok, hother⟩
            rw [hperform] at hok
            cases hok
            apply happends.ownId_ne hmem (hresult other rfl)
            rw [ownId_of_get_id hid, ownId_of_get_id hother]

theorem requireActiveLease_eq_ok (h : requireActiveLease expected task = .ok ()) :
    task.hasStatus "in_progress" = true ∧ HeldBy task expected := by
  simp only [requireActiveLease, bind_eq_ok, require_eq_ok, decide_eq_true_eq] at h
  obtain ⟨⟨⟩, hactive, ⟨⟩, -, ⟨⟩, -, ⟨⟩, howner, ⟨⟩, htoken, n, hn, hrevision⟩ := h
  exact ⟨hactive, howner, htoken, n, hn, hrevision.symm⟩

theorem Transition.held (h : Transition outside queue call task task')
    (hlease : call.lease? = some (taskId, expected)) :
    task.get .id = .str taskId ∧ task.hasStatus "in_progress" = true ∧ HeldBy task expected := by
  cases h with
  | @complete call _ _ hid _ _ hchecked =>
      cases hforce : call.forceReconcile with
      | true => simp [Call.lease?, hforce] at hlease
      | false =>
          simp only [Call.lease?, hforce] at hlease
          cases hlease
          exact ⟨hid, requireActiveLease_eq_ok (hchecked hforce)⟩
  | @block call _ _ hid _ _ hchecked =>
      cases hforce : call.forceReconcile with
      | true => simp [Call.lease?, hforce] at hlease
      | false =>
          simp only [Call.lease?, hforce] at hlease
          cases hlease
          exact ⟨hid, requireActiveLease_eq_ok (hchecked hforce)⟩
  | release hid hchecked =>
      cases hlease
      exact ⟨hid, requireActiveLease_eq_ok hchecked⟩
  | claim => cases hlease
  | resume => cases hlease
  | skip => cases hlease
  | approve => cases hlease

theorem rewrites_of_lease (hlease : call.lease? = some (taskId, expected))
    (h : perform hexdigest outside queue call = .ok result) :
    ∃ old new, Rewrites outside queue call old new result.1 ∧ result.2 = .task new := by
  cases call with
  | complete call =>
      obtain ⟨task, hcall, hresult⟩ := map_taskResult_eq_ok.mp h
      obtain ⟨old, hrewrites⟩ := completeTask_eq_ok hcall
      exact ⟨old, task, hrewrites, hresult⟩
  | block call =>
      obtain ⟨task, hcall, hresult⟩ := map_taskResult_eq_ok.mp h
      obtain ⟨old, hrewrites⟩ := blockTask_eq_ok hcall
      exact ⟨old, task, hrewrites, hresult⟩
  | release call =>
      obtain ⟨task, hcall, hresult⟩ := map_taskResult_eq_ok.mp h
      obtain ⟨old, hrewrites⟩ := releaseTask_eq_ok hcall
      exact ⟨old, task, hrewrites, hresult⟩
  | _ => cases hlease

theorem touches_of_lease (hlease : step.2.lease? = some (taskId, expected))
    (h : perform hexdigest step.1 queue step.2 = .ok result) :
    Touches hexdigest queue step taskId := by
  obtain ⟨old, new, hrewrites, hresult⟩ := rewrites_of_lease hlease h
  refine ⟨result.1, new, ?_, ?_⟩
  · rw [h, ← hresult]
  · rw [get_congr (hrewrites.get?_eq rfl)]
    exact (hrewrites.transition.held hlease).1

/-- The holder of the task that a call finishes is the one of its most recent claim. -/
theorem lastClaimed_of_lease (steps : List (Outside × Call))
    (hlease : step.2.lease? = some (taskId, expected))
    (h : perform hexdigest step.1 (afterAll hexdigest queue steps) step.2 = .ok result) :
    ∃ task ∈ (afterAll hexdigest queue steps).tasks, task.get .id = .str taskId ∧
      HeldBy task expected ∧ LastClaimed hexdigest queue steps taskId task := by
  obtain ⟨task, new, hrewrites, -⟩ := rewrites_of_lease hlease h
  obtain ⟨hid, hactive, hheld⟩ := hrewrites.transition.held hlease
  exact ⟨task, hrewrites.found, hid, hheld,
    lastClaimed_of_active steps hrewrites.found hid hactive⟩

theorem exists_claim_between {expected expected' : ExpectedLease} {first second : Outside × Call}
    {result result' : Queue × Result} (before between : List (Outside × Call))
    (hfirst : first.2.lease? = some (taskId, expected))
    (hsecond : second.2.lease? = some (taskId, expected'))
    (hok : perform hexdigest first.1 (afterAll hexdigest queue before) first.2 = .ok result)
    (hok' : perform hexdigest second.1 (afterAll hexdigest queue (before ++ first :: between))
      second.2 = .ok result') :
    ∃ earlier claim later task, between = earlier ++ claim :: later ∧
      Claims hexdigest (afterAll hexdigest queue (before ++ first :: earlier)) claim task ∧
      task.get .id = .str taskId := by
  have htouches := touches_of_lease hfirst hok
  obtain ⟨task, -, hid, -, hlast⟩ := lastClaimed_of_lease _ hsecond hok'
  have hnotClaim : ∀ call, first.2 ≠ .claim call := by
    intro call hcall
    rw [hcall] at hfirst
    cases hfirst
  rcases hlast with ⟨earlier, claim, later, hsplit, hclaims, hlater⟩ | ⟨-, huntouched⟩
  · rcases List.append_eq_append_iff.mp hsplit with ⟨middle, rfl, htail⟩ | ⟨middle, rfl, htail⟩
    · -- the claim is the first of the two calls, or comes after it
      cases middle with
      | nil =>
          obtain ⟨rfl, -⟩ := List.cons.inj htail
          obtain ⟨⟨call, hcall⟩, -⟩ := hclaims
          exact absurd hcall (hnotClaim call)
      | cons head middle =>
          obtain ⟨rfl, rfl⟩ := List.cons.inj htail
          exact ⟨middle, claim, later, task, rfl, hclaims, hid⟩
    · -- the claim comes before it, and the task has been touched since
      cases middle with
      | nil =>
          obtain ⟨rfl, -⟩ := List.cons.inj htail
          obtain ⟨⟨call, hcall⟩, -⟩ := hclaims
          exact absurd hcall (hnotClaim call)
      | cons head middle =>
          obtain ⟨rfl, rfl⟩ := List.cons.inj htail
          have hsame : earlier ++ claim :: middle = (earlier ++ [claim]) ++ middle := by simp
          rw [hsame, afterAll_append] at htouches
          exact absurd htouches (untouched_append.mp hlater).2.1
  · exact absurd htouches (untouched_append.mp huntouched).2.1

end Holder

section Revisions

variable {hexdigest : PyString → PyString} {result : Result}

theorem Rewritten.revisionRises {status : String} (h : Rewritten task status task') :
    RevisionRises task task' := by
  obtain ⟨n, hn, hrevision⟩ := h.revision
  have hnonneg := nonneg_of_taskRevision hn
  exact ⟨n, n + 1, hn, taskRevision_eq_ok hrevision (by omega), by omega⟩

theorem revisions_of_perform (h : perform hexdigest outside queue call = .ok (queue', result))
    (htask : task ∈ queue.tasks) (htask' : task' ∈ queue'.tasks)
    (hown : task'.ownId = task.ownId) :
    RevisionRises task task' ∨
      task' = task ∧ ∀ returned, result = .task returned → returned.ownId ≠ task.ownId := by
  rcases perform_eq_ok h with ⟨old, new, hrewrites, rfl⟩ | ⟨added, happends, hresult⟩
  · rcases hrewrites.mem_tasks.mp htask' with rfl | ⟨hmem, hne⟩
    · left
      rw [hrewrites.ownId] at hown
      obtain rfl := hrewrites.valid.eq_of_ownId_eq htask hrewrites.found hown
      obtain ⟨status, hwritten⟩ := hrewrites.transition.rewritten
      exact hwritten.revisionRises
    · right
      refine ⟨hrewrites.valid.eq_of_ownId_eq htask hmem hown, ?_⟩
      intro returned hreturned
      obtain rfl := Result.task.inj hreturned
      rw [hrewrites.ownId, ← hown]
      exact hne.symm
  · right
    rw [happends.written] at htask'
    rcases List.mem_append.mp htask' with hmem | hmem
    · refine ⟨happends.valid.eq_of_ownId_eq htask hmem hown, ?_⟩
      intro returned hreturned
      exact happends.ownId_ne htask (hresult returned hreturned)
    · exact absurd hown (happends.ownId_ne htask hmem)

end Revisions

/-- The claims of any queue are fenced, in every sequence of calls. -/
theorem claimsFenced (hexdigest : PyString → PyString) (queue : Queue) :
    ClaimsFenced hexdigest queue where
  holder := fun steps _ _ _ hlease _ hok => lastClaimed_of_lease steps hlease hok
  once := fun before between _ _ _ _ _ hfirst hsecond _ _ hok hok' =>
    exists_claim_between before between hfirst hsecond hok hok'
  revisions := fun _ _ _ _ hok _ htask _ htask' hown =>
    revisions_of_perform hok htask htask' hown

end DevHarness.TaskQueue
