import DevHarness.Scheduler.StartSafety

/-!
# Jobs past their deadline

Which jobs `listForReconciliation` returns once their deadline has passed.  A job
that runs, or starts, is returned; a job that is claimed is returned when its
lease has been lost; a job that waits for a claim is returned under a stop control
only.  As `claimNext` takes no job past its deadline, a waiting job is left where
it is from then on, and so is a claimed job whose tick has died without a lease.
-/

namespace DevHarness.Scheduler

open JsText Interleave

/-- `listForReconciliation` at `now` returns the job. -/
def Listed (store : SchedulerStore) (now : ℕ) (jobId : JsString) : Prop :=
  ∃ job ∈ (store.listForReconciliation now).1, job.id = jobId

/-- An active lease of the run is over at `now`: it has expired, or its node has
not been heard of in time. -/
def LeaseLost (store : SchedulerStore) (now : ℕ) (runId : JsString) : Prop :=
  ∃ lease ∈ store.leases, lease.runId = runId ∧ lease.status = .active ∧
    (lease.expiresAt ≤ now ∨ ∃ node ∈ store.nodes.rows, node.id = lease.nodeId ∧
      node.status ≠ .offline ∧ node.offlineAfter ≤ now)

section Listing

variable {store : SchedulerStore} {now : ℕ} {jobId : JsString} {row : JobRow} {runId : JsString}

theorem LeaseLost.activeLease (h : LeaseLost store now runId) : store.ActiveLease runId := by
  obtain ⟨lease, hlease, hrun, hactive, _⟩ := h
  exact ⟨lease, hlease, hrun, hactive⟩

theorem mem_lapsedRuns_iff : runId ∈ store.lapsedRuns now ↔ LeaseLost store now runId := by
  have hover : ∀ lease : LeaseRow, store.lapsed now lease = true ↔
      (lease.expiresAt ≤ now ∨ ∃ node ∈ store.nodes.rows, node.id = lease.nodeId ∧
        node.status ≠ .offline ∧ node.offlineAfter ≤ now) := by
    intro lease
    rw [SchedulerStore.lapsed, Bool.or_eq_true, decide_eq_true_eq, decide_eq_true_eq,
      SchedulerStore.lapsedNodes, List.mem_map]
    simp only [List.mem_filter, Bool.and_eq_true, decide_eq_true_eq]
    constructor
    · rintro (h | ⟨node, ⟨hnode, hstatus, hlate⟩, hid⟩)
      · exact .inl h
      · exact .inr ⟨node, hnode, hid, hstatus, hlate⟩
    · rintro (h | ⟨node, hnode, hid, hstatus, hlate⟩)
      · exact .inl h
      · exact .inr ⟨node, ⟨hnode, hstatus, hlate⟩, hid⟩
  simp only [SchedulerStore.lapsedRuns, List.mem_map, List.mem_filter, Bool.and_eq_true,
    decide_eq_true_eq, LeaseLost, hover]
  constructor
  · rintro ⟨lease, ⟨hlease, hactive, hlost⟩, hrun⟩
    exact ⟨lease, hlease, hrun, hactive, hlost⟩
  · rintro ⟨lease, hlease, hrun, hactive, hlost⟩
    exact ⟨lease, ⟨hlease, hactive, hlost⟩, hrun⟩

/-- The jobs that are returned are those that need it once stale leases have been
expired. -/
theorem listed_iff : Listed store now jobId ↔
    ∃ row, (store.expireStale now).jobs.get jobId = some row ∧
      (store.expireStale now).needsReconciliation now row = true := by
  simp only [Listed, SchedulerStore.listForReconciliation, List.mem_map, Sql.mem_orderBy,
    List.mem_filter]
  constructor
  · rintro ⟨_, ⟨row, ⟨hrow, hneeds⟩, rfl⟩, rfl⟩
    exact ⟨row, Sql.Table.get_of_mem hrow, hneeds⟩
  · rintro ⟨row, hrow, hneeds⟩
    exact ⟨_, ⟨row, ⟨Sql.Table.mem_of_get hrow, hneeds⟩, rfl⟩, SchedulerStore.id_of_get hrow⟩

theorem listed_iff_of_get (hrow : store.jobs.get jobId = some row)
    (hlive : row.state.terminal = false) (hdeadline : row.deadlineAt ≤ now) :
    Listed store now jobId ↔
      store.stopRequested row.projectId = true ∨ row.reconciliationRequired = true ∨
        LeaseLost store now row.runId ∨
        row.state ∈ [.starting, .running, .reconciling] := by
  have hstop : ∀ projectId, (store.expireStale now).stopRequested projectId =
      store.stopRequested projectId := fun _ => rfl
  rw [listed_iff, SchedulerStore.get_expireStale, hrow, Option.map_some]
  by_cases hlost : LeaseLost store now row.runId
  · have haffected : store.affected now row = true := by
      simp [SchedulerStore.affected, mem_lapsedRuns_iff, hlost, hlive]
    simp [haffected, hlost, SchedulerStore.needsReconciliation, JobRow.flag, hlive]
  · have haffected : store.affected now row = false := by
      simp [SchedulerStore.affected, mem_lapsedRuns_iff, hlost]
    simp only [haffected, Bool.false_eq_true, if_false, Option.some.injEq, exists_eq_left',
      SchedulerStore.needsReconciliation, hstop, hlive, hdeadline, hlost, Bool.not_false,
      Bool.true_and, decide_true, Bool.and_true, Bool.or_eq_true, decide_eq_true_eq, false_or,
      or_assoc]

end Listing

/-- No job that is not over is left alone once its deadline has passed. -/
def NoneStranded (c : SchedulerConfig) : Prop :=
  ∀ {jobId row now}, c.now.state.jobs.get jobId = some row → row.state.terminal = false →
    row.deadlineAt ≤ now → Listed c.now.state now jobId

/-- In every state that supervisors reach, whichever of them crash: a job that is
not over is returned after its deadline exactly when a stop control applies, or
it starts or runs, or it is claimed and its lease has been lost. -/
theorem listed_iff_of_reached {c : SchedulerConfig} {jobId : JsString} {row : JobRow} {now : ℕ}
    (hreached : Reached schedulerSystem .empty c)
    (hrow : c.now.state.jobs.get jobId = some row) (hlive : row.state.terminal = false)
    (hdeadline : row.deadlineAt ≤ now) :
    Listed c.now.state now jobId ↔
      c.now.state.stopRequested row.projectId = true ∨
      row.state ∈ [.starting, .running, .reconciling] ∨
      (row.state = .claimed ∧
        (row.reconciliationRequired = true ∨ LeaseLost c.now.state now row.runId)) := by
  have hjob : JobInv jobId c.now := (sound_of_run hreached).inv.job jobId
  rw [listed_iff_of_get hrow hlive hdeadline]
  have hwaiting : row.state.waiting → row.reconciliationRequired = false ∧
      ¬ LeaseLost c.now.state now row.runId := by
    intro h
    have huntouched := hjob.waiting hrow h
    exact ⟨huntouched.unflagged, fun hlost => huntouched.unleased hlost.activeLease⟩
  cases hstate : row.state with
  | pending =>
      obtain ⟨hflag, hlost⟩ := hwaiting (.inl hstate)
      simp [hflag, hlost]
  | retryWait =>
      obtain ⟨hflag, hlost⟩ := hwaiting (.inr hstate)
      simp [hflag, hlost]
  | claimed => simp
  | starting | running | reconciling => simp
  | succeeded | failed | cancelled | blocked =>
      rw [hstate] at hlive
      cases hlive

/-! ## A job that is left alone -/

def strandedSchedule : List (Action TickCall Outside SchedulerChange) :=
  [.change (.admitJob sampleScope), .change (.registerNode sampleNode),
    .spawn (sampleTick "first")] ++ List.replicate 4 (.perform 0 sampleOutside) ++ [.crash 0]

/-- What decides whether a job is returned at `now`. -/
structure JobView where
  state : SchedulerJobState
  deadlineAt : ℕ
  flagged : Bool
  stopped : Bool
  leases : List LeaseRow
  listed : List JsString
  deriving DecidableEq

def jobView (store : SchedulerStore) (now : ℕ) (row : JobRow) : JobView where
  state := row.state
  deadlineAt := row.deadlineAt
  flagged := row.reconciliationRequired
  stopped := store.stopRequested row.projectId
  leases := store.leases
  listed := (store.listForReconciliation now).1.map fun job => job.id

theorem exists_strandedJob : ∃ c row, Reached schedulerSystem .empty c ∧
    c.now.state.jobs.get (js "job") = some row ∧
    jobView c.now.state 100000 row = ⟨.claimed, 100000, false, false, [], []⟩ := by
  have hrun : (execute schedulerSystem (Config.initial .empty) strandedSchedule).map
      (fun c => (c.now.state.jobs.get (js "job")).map (jobView c.now.state 100000)) =
      some (some ⟨.claimed, 100000, false, false, [], []⟩) := by
    decide +kernel
  obtain ⟨c, hc, hobserved⟩ := Option.map_eq_some_iff.mp hrun
  obtain ⟨row, hrow, hview⟩ := Option.map_eq_some_iff.mp hobserved
  exact ⟨c, row, reached_of_execute hc, hrow, hview⟩

/-- The job of a tick that has crashed right after its claim is not returned at
its deadline. -/
theorem not_noneStranded :
    ¬ ∀ c, Reached schedulerSystem .empty c → NoneStranded c := by
  intro hnone
  obtain ⟨c, row, hreached, hrow, hview⟩ := exists_strandedJob
  have hstate : row.state = .claimed := congrArg JobView.state hview
  have hdeadline : row.deadlineAt = 100000 := congrArg JobView.deadlineAt hview
  have hlist : (c.now.state.listForReconciliation 100000).1.map (fun job => job.id) = [] :=
    congrArg JobView.listed hview
  obtain ⟨job, hjob, _⟩ := hnone c hreached hrow (by rw [hstate]; rfl) hdeadline.le
  rw [List.map_eq_nil_iff] at hlist
  rw [hlist] at hjob
  cases hjob

/-- The exact condition, for that job: no stop control, no lease. -/
theorem listed_iff_of_reached_stranded :
    ∃ c row, Reached schedulerSystem .empty c ∧
      c.now.state.jobs.get (js "job") = some row ∧ ¬ Listed c.now.state 100000 (js "job") := by
  obtain ⟨c, row, hreached, hrow, hview⟩ := exists_strandedJob
  have hstate : row.state = .claimed := congrArg JobView.state hview
  have hdeadline : row.deadlineAt = 100000 := congrArg JobView.deadlineAt hview
  have hflag : row.reconciliationRequired = false := congrArg JobView.flagged hview
  have hstop : c.now.state.stopRequested row.projectId = false := congrArg JobView.stopped hview
  have hleases : c.now.state.leases = [] := congrArg JobView.leases hview
  refine ⟨c, row, hreached, hrow, ?_⟩
  rw [listed_iff_of_reached hreached hrow (by rw [hstate]; rfl) hdeadline.le]
  simp [hstate, hflag, hstop, LeaseLost, hleases]

end DevHarness.Scheduler
