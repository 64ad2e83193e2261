import DevHarness.TaskQueue.Operability

/-!
# The scheduled trigger

`evaluate_trigger` decides whether a run loop is started, without changing the queue.  It
compares the tasks in progress with the limit of the project configuration and asks for the
next task; a claim compares them with the limit of the queue's own policy, finds the task by
its identifier, and writes its revision and its notes.
-/

namespace DevHarness.TaskQueue

open PyText Sequence

/-! ## The decision -/

/-- The queue section of a project configuration. -/
structure QueueConfig where
  maxInProgress : ℕ
  positive : 0 < maxInProgress
  bounded : maxInProgress ≤ 3

/-- `_validate_queue_capacity`: the configuration is loaded only where the queue document says
the same limit. -/
def QueueConfig.fits (config : QueueConfig) (queue : Queue) : Bool :=
  match ((queue.policy.getD .none).orElse (.dict [])).dict? with
  | none => false
  | some policy =>
    match (lookup policy (py "max_in_progress")).getD (.int 1) with
    | .bool _ => false
    | limit =>
      match limit.toInt with
      | .ok n => decide (n = config.maxInProgress)
      | .error _ => false

/-- A window of the day; times count microseconds. -/
structure TimeWindow where
  start : ℕ
  finish : ℕ

def TimeWindow.contains (window : TimeWindow) (current : ℕ) : Bool :=
  if window.start = window.finish then true
  else if window.start < window.finish then window.start ≤ current && current < window.finish
  else window.start ≤ current || current < window.finish

/-- What the trigger reads beside configuration and queue. -/
structure Situation where
  stopPresent : Bool
  current : ℕ
  window : Option TimeWindow
  loopRunning : Bool

def Situation.inWindow (situation : Situation) : Bool :=
  situation.window.all fun window => window.contains situation.current

/-- Nothing outside the queue holds the trigger back. -/
def Situation.Clear (situation : Situation) : Prop :=
  situation.stopPresent = false ∧ situation.inWindow = true ∧ situation.loopRunning = false

/-- The decision, without the texts that it prints. -/
structure TriggerDecision where
  shouldTrigger : Bool := false
  reason : PyString
  pendingTaskId : PyString := []
  stopPresent : Bool := false
  inWindow : Bool := true
  inProgressCount : ℕ := 0

/-- The fields of a task that `_task_snapshot` copies with `list`. -/
def listFields : List Field :=
  [.dependencies, .exclusiveResources, .acceptance, .verify, .artifacts]

/-- `_task_snapshot`, as far as its identifier. -/
def taskSnapshot (task : Task) : Except QueueError PyString := do
  require (listFields.all fun field => ((task.get field).orElse (.list [])).iterate.isSome)
    .typeError
  match ((task.get .revision).orElse (.int 0)).toInt with
  | .ok _ => .ok ((task.get .id).orElse (.str [])).text
  | .error e => .error (.ofConversion e)

/-- `adapter.summary()`. -/
def adapterSummary (queue : Queue) : Except QueueError QueueSummary := do
  let loaded ← readQueue queue
  queueSummary loaded

/-- `adapter.next()`. -/
def adapterNext (queue : Queue) : Except QueueError PyString := do
  let loaded ← readQueue queue
  let next ← nextTask loaded
  next.elim (.error .noReadyTask) taskSnapshot

def evaluateTrigger (config : QueueConfig) (situation : Situation) (queue : Queue) :
    TriggerDecision :=
  if situation.stopPresent then
    { reason := py "stop_file_present", stopPresent := true, inWindow := situation.inWindow }
  else if situation.inWindow = false then
    { reason := py "outside_window", inWindow := false }
  else if situation.loopRunning then { reason := py "loop_already_running" }
  else
    match adapterSummary queue with
    | .error _ => { reason := py "queue_error" }
    | .ok summary =>
      let count := summary.inProgress.length
      if config.maxInProgress ≤ count then
        { reason := py "in_progress_exists", inProgressCount := count }
      else
        match adapterNext queue with
        | .error error =>
          { reason := if error = .noReadyTask then py "no_pending_task" else py "queue_error"
            inProgressCount := count }
        | .ok pendingId =>
          { shouldTrigger := true
            reason := py "ready"
            pendingTaskId := pendingId
            inProgressCount := count }

/-- There is a next task, and a claim of it goes through. -/
def NextClaimed (queue : Queue) : Prop :=
  ∃ task, nextTask queue = .ok (some task) ∧
    ∀ outside (call : ClaimCall), call.taskId = task.rawId →
      ∃ result, claimTask outside call queue = .ok result

/-! ## The conditions of each side -/

/-- What the trigger asks of the queue when there is a next task. -/
structure Admits (config : QueueConfig) (queue : Queue) (task : Task) : Prop where
  capacity : (inProgress queue).length < config.maxInProgress
  proposed : Sortable (queue.tasks.filter fun task => task.hasStatus "proposed")
  lists : ∀ field ∈ listFields, ((task.get field).orElse (.list [])).iterate.isSome = true

/-- What a claim of the next task asks of the queue. -/
structure Claimable (queue : Queue) (task : Task) : Prop where
  capacity : CapacityFree queue
  id : ∃ s, task.get .id = .str s
  revision : task.get? .revision ≠ some .none
  notes : task.TakesNotes

/-- Where there is a next task, both sides let it pass or neither does. -/
def Mirrors (config : QueueConfig) (queue : Queue) : Prop :=
  ∀ task, nextTask queue = .ok (some task) → (Admits config queue task ↔ Claimable queue task)

section Conditions

variable {config : QueueConfig} {situation : Situation} {queue : Queue} {task : Task}

theorem exists_toInt_revision (hchecked : task.Checked) :
    ∃ n, ((task.get .revision).orElse (.int 0)).toInt = .ok n := by
  have hcount := (checkFields_eq_ok.mp hchecked.2).2.2.1.revision
  cases hrevision : task.get .revision with
  | int n =>
      unfold Value.orElse
      split
      · exact ⟨n, rfl⟩
      · exact ⟨0, rfl⟩
  | none => exact ⟨0, rfl⟩
  | _ =>
      rw [hrevision] at hcount
      simp [absentOr, Value.isNone, isCount, Value.int?] at hcount

theorem exists_taskSnapshot (hchecked : task.Checked) :
    (∃ id, taskSnapshot task = .ok id) ↔
      ∀ field ∈ listFields, ((task.get field).orElse (.list [])).iterate.isSome = true := by
  obtain ⟨n, hn⟩ := exists_toInt_revision hchecked
  rw [← List.all_eq_true]
  simp only [taskSnapshot, hn, bind_eq_ok, require_eq_ok]
  constructor
  · rintro ⟨id, ⟨⟩, hlists, -⟩
    exact hlists
  · intro hlists
    exact ⟨_, (), hlists, rfl⟩

theorem exists_adapterSummary (hvalid : queue.Valid) (hnext : nextTask queue = .ok (some task)) :
    (∃ summary, adapterSummary queue = .ok summary) ↔
      Sortable (queue.tasks.filter fun task => task.hasStatus "proposed") := by
  have hread : readQueue queue = .ok queue.loaded := readQueue_eq_ok.mpr ⟨hvalid, rfl⟩
  have hloaded : nextTask queue.loaded = .ok (some task) := hnext
  rw [adapterSummary, hread, ok_bind, queueSummary, hloaded]
  simp only [bind_eq_ok]
  constructor
  · rintro ⟨summary, proposed, hproposed, -⟩
    exact exists_sortTasks.mp ⟨proposed, hproposed⟩
  · intro hsortable
    obtain ⟨proposed, hproposed⟩ := exists_sortTasks.mpr hsortable
    exact ⟨_, proposed, hproposed, _, rfl, rfl⟩

theorem length_of_adapterSummary (hvalid : queue.Valid) {summary : QueueSummary}
    (h : adapterSummary queue = .ok summary) :
    summary.inProgress.length = (inProgress queue).length := by
  have hread : readQueue queue = .ok queue.loaded := readQueue_eq_ok.mpr ⟨hvalid, rfl⟩
  rw [adapterSummary, hread, ok_bind, queueSummary] at h
  simp only [bind_eq_ok] at h
  obtain ⟨proposed, -, upcoming, -, hsummary⟩ := h
  rw [← Except.ok.inj hsummary]
  exact List.length_map _

theorem shouldTrigger_iff (hclear : situation.Clear) :
    (evaluateTrigger config situation queue).shouldTrigger = true ↔
      ∃ summary pendingId, adapterSummary queue = .ok summary ∧
        summary.inProgress.length < config.maxInProgress ∧ adapterNext queue = .ok pendingId := by
  obtain ⟨hstop, hwindow, hloop⟩ := hclear
  rw [evaluateTrigger, hstop, hwindow, hloop]
  simp only [Bool.false_eq_true, if_false, Bool.true_eq_false]
  cases hsummary : adapterSummary queue with
  | error error => simp
  | ok summary =>
      by_cases hfull : config.maxInProgress ≤ summary.inProgress.length
      · simp [hfull]
      · cases hnext : adapterNext queue with
        | error error => simp [hfull]
        | ok pendingId => simp [hfull, not_le.mp hfull]

section

variable (hvalid : queue.Valid)

include hvalid

theorem adapterNext_eq {next : Option Task} (hnext : nextTask queue = .ok next) :
    adapterNext queue = next.elim (.error .noReadyTask) taskSnapshot := by
  have hread : readQueue queue = .ok queue.loaded := readQueue_eq_ok.mpr ⟨hvalid, rfl⟩
  have hloaded : nextTask queue.loaded = .ok next := hnext
  rw [adapterNext, hread, ok_bind, hloaded, ok_bind]

theorem exists_next_of_adapterNext {pendingId : PyString} (h : adapterNext queue = .ok pendingId) :
    ∃ task, nextTask queue = .ok (some task) := by
  cases hnext : nextTask queue with
  | error error =>
      have hloaded : nextTask queue.loaded = .error error := hnext
      rw [adapterNext, readQueue_eq_ok.mpr ⟨hvalid, rfl⟩, ok_bind, hloaded] at h
      cases h
  | ok next =>
      cases next with
      | none =>
          rw [adapterNext_eq hvalid hnext] at h
          cases h
      | some task => exact ⟨task, rfl⟩

theorem shouldTrigger_iff_admits (hclear : situation.Clear)
    (hnext : nextTask queue = .ok (some task)) :
    (evaluateTrigger config situation queue).shouldTrigger = true ↔ Admits config queue task := by
  have hmem := (mem_readySet.mp (nextTask_eq_ok hnext)).1
  rw [shouldTrigger_iff hclear, adapterNext_eq hvalid hnext]
  constructor
  · rintro ⟨summary, pendingId, hsummary, hroom, hsnapshot⟩
    rw [length_of_adapterSummary hvalid hsummary] at hroom
    exact ⟨hroom, (exists_adapterSummary hvalid hnext).mp ⟨summary, hsummary⟩,
      (exists_taskSnapshot (hvalid.checked task hmem)).mp ⟨pendingId, hsnapshot⟩⟩
  · intro hadmits
    obtain ⟨summary, hsummary⟩ := (exists_adapterSummary hvalid hnext).mpr hadmits.proposed
    obtain ⟨pendingId, hsnapshot⟩ :=
      (exists_taskSnapshot (hvalid.checked task hmem)).mpr hadmits.lists
    refine ⟨summary, pendingId, hsummary, ?_, hsnapshot⟩
    rw [length_of_adapterSummary hvalid hsummary]
    exact hadmits.capacity

theorem claimable_of_claim {outside : Outside} {call : ClaimCall} {result : Queue × Task}
    (hnext : nextTask queue = .ok (some task)) (hcall : call.taskId = task.rawId)
    (h : claimTask outside call queue = .ok result) : Claimable queue task := by
  obtain ⟨hmem, hpending, -⟩ := mem_readySet.mp (nextTask_eq_ok hnext)
  have hstrip : strip task.rawId = task.ownId := (hvalid.checked task hmem).ownId_eq.symm
  have hne : call.taskId ≠ [] := by
    intro hnil
    rw [← hcall, hnil] at hstrip
    exact (hvalid.checked task hmem).ownId_ne_nil hstrip.symm
  obtain ⟨-, hmutate, -⟩ := mutateQueue_eq_ok.mp h
  simp only [bind_eq_ok, require_eq_ok, decide_eq_true_eq] at hmutate
  obtain ⟨⟨⟩, -, limit, hlimit, ⟨⟩, hroom, chosen, hchosen, resumed, hresume, ⟨⟩, -, ⟨⟩, -, new,
    hlease, -⟩ := hmutate
  obtain ⟨hchosenMem, hid, -⟩ := chooseTask_eq_ok hchosen
  have hown : chosen.ownId = task.ownId := by
    rw [ownId_of_get_id (hid hne), hcall, hstrip]
  obtain rfl := hvalid.eq_of_ownId_eq hmem hchosenMem hown
  rw [resumeForClaim_of_not_blocked (not_hasStatus hpending (by decide))] at hresume
  obtain rfl := Except.ok.inj hresume
  refine ⟨⟨limit, maxInProgress_loaded queue ▸ hlimit, hroom⟩, ⟨_, hid hne⟩, ?_, ?_⟩
  · obtain ⟨n, hn, -⟩ := (leaseTask_eq_ok hlease).1.revision
    exact (exists_taskRevision (hvalid.checked chosen hmem)).mp ⟨n, hn⟩
  · simp only [leaseTask, bind_eq_ok] at hlease
    obtain ⟨bumped, hbump, hnote⟩ := hlease
    obtain ⟨n, -, rfl⟩ := bumpRevision_eq_ok.mp hbump
    rw [appendNote_of_ne_nil (orText_ne_nil (by simp [py]))] at hnote
    obtain ⟨notes, hnotes⟩ := exists_extendList.mp ⟨_, hnote⟩
    refine ⟨notes, ?_⟩
    simpa using hnotes

theorem claim_of_claimable (hnext : nextTask queue = .ok (some task)) (h : Claimable queue task)
    (outside : Outside) (call : ClaimCall) (hcall : call.taskId = task.rawId) :
    ∃ result, claimTask outside call queue = .ok result := by
  obtain ⟨hmem, hpending, hready⟩ := mem_readySet.mp (nextTask_eq_ok hnext)
  obtain ⟨s, hs⟩ := h.id
  have hid : task.get .id = .str call.taskId := by
    rw [hcall, Task.rawId, hs]
    rfl
  have hresume : resumeForClaim outside.now call task = .ok task :=
    resumeForClaim_of_not_blocked (not_hasStatus hpending (by decide))
  obtain ⟨new, hlease⟩ :=
    exists_leaseTask outside call (hvalid.checked task hmem) h.revision h.notes
  rw [claimTask_by_id hvalid hmem hid (not_hasStatus hpending (by decide)) h.capacity, hresume,
    ok_bind, hpending, hready]
  refine ⟨(queue.loaded.put new, new), ?_⟩
  simp only [require, if_true, ok_bind, hlease, validateQueue_put hvalid hmem hresume hlease]

end

/-- The trigger fires exactly when a claim would succeed, as far as its own conditions mirror
those of the claim. -/
theorem fires_iff_claims (hvalid : validateQueue queue = .ok ()) (hclear : situation.Clear) :
    ((evaluateTrigger config situation queue).shouldTrigger = true ↔ NextClaimed queue) ↔
      Mirrors config queue := by
  have hvalid := validateQueue_eq_ok.mp hvalid
  by_cases hexists : ∃ task, nextTask queue = .ok (some task)
  · obtain ⟨task, hnext⟩ := hexists
    have hclaims : NextClaimed queue ↔ Claimable queue task := by
      constructor
      · rintro ⟨other, hother, hclaim⟩
        rw [hnext] at hother
        obtain rfl := Option.some.inj (Except.ok.inj hother)
        obtain ⟨result, hresult⟩ := hclaim ⟨[], []⟩ (plainClaim task.rawId false) rfl
        exact claimable_of_claim hvalid hnext rfl hresult
      · intro hclaimable
        exact ⟨task, hnext, claim_of_claimable hvalid hnext hclaimable⟩
    rw [shouldTrigger_iff_admits hvalid hclear hnext, hclaims]
    constructor
    · intro hsame other hother
      rw [hnext] at hother
      obtain rfl := Option.some.inj (Except.ok.inj hother)
      exact hsame
    · intro hmirrors
      exact hmirrors task hnext
  · -- Without a next task the trigger does not fire, and nothing is claimed.
    have hquiet : (evaluateTrigger config situation queue).shouldTrigger ≠ true := by
      intro hfires
      obtain ⟨-, pendingId, -, -, hpending⟩ := (shouldTrigger_iff hclear).mp hfires
      exact hexists (exists_next_of_adapterNext hvalid hpending)
    constructor
    · intro _ task hnext
      exact absurd ⟨task, hnext⟩ hexists
    · intro _
      constructor
      · intro hfires
        exact absurd hfires hquiet
      · rintro ⟨task, hnext, -⟩
        exact absurd ⟨task, hnext⟩ hexists

end Conditions

def nullRevision : Queue where
  schemaVersion := some (.int 1)
  policy := some (.dict [(.str (py "max_in_progress"), .int 1)])
  tasks := [.ofEntries [(.id, .str (py "H-001")), (.status, .str (py "pending")),
    (.revision, .none)]]
  imports := none

theorem one_le_three : 1 ≤ 3 := by decide

def oneAtATime : QueueConfig := ⟨1, Nat.one_pos, one_le_three⟩

def quiet : Situation where
  stopPresent := false
  current := 0
  window := none
  loopRunning := false

theorem valid_nullRevision : validateQueue nullRevision = .ok () := by decide +kernel

theorem clear_quiet : quiet.Clear := ⟨rfl, rfl, rfl⟩

/-- The configuration is accepted with this queue, the trigger fires, and no claim goes
through. -/
theorem fires_unclaimable : oneAtATime.fits nullRevision = true ∧
    (evaluateTrigger oneAtATime quiet nullRevision).shouldTrigger = true ∧
    ¬NextClaimed nullRevision := by
  refine ⟨by decide +kernel, by decide +kernel, ?_⟩
  rintro ⟨task, hnext, hclaim⟩
  obtain ⟨result, hresult⟩ := hclaim ⟨[], []⟩ (plainClaim task.rawId false) rfl
  have hvalid := validateQueue_eq_ok.mp valid_nullRevision
  have hrevision := (claimable_of_claim hvalid hnext rfl hresult).revision
  have hmem := (mem_readySet.mp (nextTask_eq_ok hnext)).1
  rw [List.mem_singleton.mp hmem] at hrevision
  exact hrevision rfl

theorem fires_iff_claims_nullRevision :
    ((evaluateTrigger oneAtATime quiet nullRevision).shouldTrigger = true ↔
      NextClaimed nullRevision) ↔ Mirrors oneAtATime nullRevision :=
  fires_iff_claims valid_nullRevision clear_quiet

end DevHarness.TaskQueue
