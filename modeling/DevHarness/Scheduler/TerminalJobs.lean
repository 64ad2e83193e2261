import DevHarness.Scheduler.EventIngestion
import DevHarness.Scheduler.Inspection

/-!
# Jobs that are over

The scheduler leaves a job alone that is over, and a job that is blocked is over.  The
ingestion of events asks the run instead, and the run of a blocked job is not over.
-/

namespace DevHarness.Scheduler

open JsText Interleave

/-! ## Jobs and runs -/

def RunStatus.ended (status : RunStatus) : Option RunStatus :=
  if status.terminal then some status else none

def SchedulerJobState.ended : SchedulerJobState → Option RunStatus
  | .succeeded => some .succeeded
  | .failed => some .failed
  | .cancelled => some .cancelled
  | _ => none

/-- The run of each job is over as the job says. -/
def RunsAgree (store : SchedulerStore) : Prop :=
  ∀ ⦃id row⦄, store.jobs.get id = some row →
    ∃ status, runStatusOf store row.runId = some status ∧ status.ended = row.state.ended

/-- A job that is over keeps its state. -/
def TerminalKept (s t : SchedulerStore) : Prop :=
  ∀ ⦃id row⦄, s.jobs.get id = some row → row.state.terminal = true →
    ∃ row', t.jobs.get id = some row' ∧ row'.state = row.state

/-- What every operation of the scheduler does. -/
structure Orderly (s t : SchedulerStore) : Prop where
  terminal : TerminalKept s t
  absent : ∀ {runId}, runStatusOf s runId = none → runStatusOf t runId = none
  agrees : RunsUnique s → RunsAgree s → RunsAgree t

theorem ended_jobState (status : RunStatus) : status.jobState.ended = status.ended := by
  cases status <;> rfl

variable {state : SchedulerJobState} {status : RunStatus} {s t : SchedulerStore} {jobId : JsString}
  {now : ℕ} {platform : Platform} {store store' : EventStore} {context : EventContext}

theorem ended_of_live (h : state.terminal = false) : state.ended = none := by
  cases state <;> first | rfl | cases h

theorem not_terminal_of_ended (h : status.ended = none) : status.terminal = false := by
  cases status <;> first | rfl | cases h

theorem jobState_of_ended (hterminal : state.terminal = true) (hblocked : state ≠ .blocked)
    (h : status.ended = state.ended) : status.terminal = true ∧ status.jobState = state := by
  revert h hblocked hterminal
  cases state <;> cases status <;> decide

section Stores

variable {job row : JobRow} {runId : JsString} {f : JobRow → JobRow}

theorem TerminalKept.refl (s : SchedulerStore) : TerminalKept s s :=
  fun _ _ hrow _ => ⟨_, hrow, rfl⟩

theorem TerminalKept.trans {u : SchedulerStore} (h : TerminalKept s t) (h' : TerminalKept t u) :
    TerminalKept s u := by
  intro id row hrow hterminal
  obtain ⟨row', hrow', hstate⟩ := h hrow hterminal
  have hterminal' : row'.state.terminal = true := by
    rw [hstate]
    exact hterminal
  obtain ⟨row'', hrow'', hstate'⟩ := h' hrow' hterminal'
  exact ⟨row'', hrow'', hstate'.trans hstate⟩

theorem Orderly.of_map (hget : ∀ id, t.jobs.get id = (s.jobs.get id).map f)
    (hruns : t.runs = s.runs) (hrun : ∀ row, (f row).runId = row.runId)
    (hstate : ∀ {id row}, s.jobs.get id = some row → (f row).state = row.state ∨ row.state.terminal
      = false ∧ (f row).state.terminal = false) : Orderly s t := by
  constructor
  · intro id row hrow hterminal
    refine ⟨f row, by rw [hget, hrow, Option.map_some], ?_⟩
    rcases hstate hrow with hsame | ⟨hlive, -⟩
    · exact hsame
    · rw [hlive] at hterminal
      cases hterminal
  · intro runId hnone
    rw [runStatusOf, hruns]
    exact hnone
  · intro _ hagree id row' hrow'
    rw [hget] at hrow'
    obtain ⟨row, hrow, rfl⟩ := Option.map_eq_some_iff.mp hrow'
    obtain ⟨status, hstatus, hended⟩ := hagree hrow
    refine ⟨status, ?_, ?_⟩
    · rw [hrun, runStatusOf, hruns]
      exact hstatus
    · rw [hended]
      rcases hstate hrow with hsame | ⟨hlive, hlive'⟩
      · rw [hsame]
      · rw [ended_of_live hlive, ended_of_live hlive']

theorem Orderly.of_eq (hjobs : t.jobs = s.jobs) (hruns : t.runs = s.runs) : Orderly s t := by
  have hget : ∀ id, t.jobs.get id = (s.jobs.get id).map fun row => row := by
    intro id
    rw [hjobs, Option.map_id']
  exact .of_map hget hruns (fun _ => rfl) fun _ => Or.inl rfl

theorem Orderly.of_updateJobs {p : JobRow → Bool}
    {hscope : ∀ row, (f row).toJobScope = row.toJobScope}
    (hjobs : t.jobs = (s.updateJobs p f hscope).jobs) (hruns : t.runs = s.runs)
    (hstate : ∀ {id row}, s.jobs.get id = some row → p row = true → (f row).state = row.state ∨
      row.state.terminal = false ∧ (f row).state.terminal = false) : Orderly s t := by
  apply Orderly.of_map (f := fun row => if p row then f row else row) _ hruns
  · intro row
    by_cases hp : p row = true
    · simp only [hp, if_true]
      exact congrArg JobScope.runId (hscope row)
    · simp only [hp, if_false, Bool.false_eq_true]
  · intro id row hrow
    by_cases hp : p row = true
    · simp only [hp, if_true]
      exact hstate hrow hp
    · refine .inl ?_
      simp only [hp, if_false, Bool.false_eq_true]
  · intro id
    rw [hjobs, SchedulerStore.get_updateJobs]

/-! ### The run follows -/

def SchedulerJobState.lead (state : SchedulerJobState) (current : RunStatus) : RunStatus :=
  if current.terminal then current else state.runStatus.getD current

theorem ended_lead {current : RunStatus} (h : current.terminal = false) :
    (state.lead current).ended = state.ended := by
  have hended : current.ended = none := by
    rw [RunStatus.ended, h]
    rfl
  simp only [SchedulerJobState.lead, h, Bool.false_eq_true, if_false]
  cases state <;> first | rfl | exact hended

theorem lead_of_some {status : RunStatus} (h : state.runStatus = some status) :
    state.lead = fun current => if current.terminal then current else status := by
  funext current
  rw [SchedulerJobState.lead, h, Option.getD_some]

theorem lead_of_none (h : state.runStatus = none) : state.lead = fun current => current := by
  funext current
  rw [SchedulerJobState.lead, h, Option.getD_none, ite_self]

theorem runStatusOf_updateRunAndOutbox (s : SchedulerStore) (job : JobRow) (status : RunStatus)
    (now : ℕ) (runId : JsString) :
    runStatusOf (s.updateRunAndOutbox job status now) runId =
      if runId = job.runId then
        (runStatusOf s runId).map fun current => if current.terminal then current else status
      else runStatusOf s runId := by
  unfold SchedulerStore.updateRunAndOutbox
  cases hget : s.runs.get job.runId with
  | none =>
      by_cases heq : runId = job.runId
      · simp [heq, runStatusOf, hget]
      · rw [if_neg heq]
  | some run =>
      have hstatus : runStatusOf s job.runId = some run.status := by
        rw [runStatusOf, hget, Option.map_some]
      by_cases hskip : run.status.terminal = true ∨ run.status = status
      · simp only [if_pos hskip]
        by_cases heq : runId = job.runId
        · rw [if_pos heq, heq, hstatus, Option.map_some]
          rcases hskip with hterminal | hsame
          · rw [if_pos hterminal]
          · rw [hsame, ite_self]
        · rw [if_neg heq]
      · simp only [if_neg hskip]
        refine (runStatusOf_updateWhere s job.runId runId (f := fun row => row.moveTo status now)
          (fun _ => rfl) fun _ => rfl).trans ?_
        by_cases heq : runId = job.runId
        · rw [if_pos heq, if_pos heq, heq, hstatus, Option.map_some, Option.map_some,
            if_neg fun h => hskip (.inl h)]
        · rw [if_neg heq, if_neg heq]

theorem runStatusOf_runFollows (s : SchedulerStore) (job : JobRow) (now : ℕ) (runId : JsString) :
    runStatusOf (s.runFollows job now) runId =
    if runId = job.runId then (runStatusOf s runId).map job.state.lead
    else runStatusOf s runId := by
  unfold SchedulerStore.runFollows
  cases hstatus : job.state.runStatus with
  | none =>
      rw [lead_of_none hstatus, Option.map_id', ite_self]
  | some status =>
      rw [lead_of_some hstatus]
      exact runStatusOf_updateRunAndOutbox s job status now runId

theorem Orderly.of_follow {hscope : ∀ row, (f row).toJobScope = row.toJobScope}
    (hrow : s.jobs.get jobId = some row) (hlive : row.state.terminal = false)
    (hjobs : t.jobs = (s.updateJob jobId f hscope).jobs)
    (hruns : ∀ runId, runStatusOf t runId = if runId = row.runId then (runStatusOf s runId).map (f
      row).state.lead else runStatusOf s runId) : Orderly s t := by
  constructor
  · intro id other hother hterminal
    have hne : id ≠ jobId := by
      rintro rfl
      obtain rfl := Option.some.inj (hrow.symm.trans hother)
      rw [hlive] at hterminal
      cases hterminal
    refine ⟨other, ?_, rfl⟩
    rw [hjobs, SchedulerStore.get_updateJob_of_ne hne, hother]
  · intro runId hnone
    rw [hruns, hnone, Option.map_none, ite_self]
  · intro hunique hagree id other hother
    by_cases hid : id = jobId
    · subst hid
      rw [hjobs, SchedulerStore.get_updateJob_self hrow] at hother
      obtain rfl := Option.some.inj hother
      obtain ⟨status, hstatus, hended⟩ := hagree hrow
      have hrunId : (f row).runId = row.runId := congrArg JobScope.runId (hscope row)
      rw [ended_of_live hlive] at hended
      refine ⟨(f row).state.lead status, ?_, ended_lead (not_terminal_of_ended hended)⟩
      rw [hrunId, hruns, if_pos rfl, hstatus, Option.map_some]
    · rw [hjobs, SchedulerStore.get_updateJob_of_ne hid] at hother
      obtain ⟨status, hstatus, hended⟩ := hagree hother
      have hne : other.runId ≠ row.runId := fun heq => hid (hunique hother hrow heq)
      exact ⟨status, by rw [hruns, if_neg hne, hstatus], hended⟩

end Stores

section Operations

variable {resp : Except Thrown SchedulerJob}

theorem orderly_commitExternalState {external : ExternalExecutionStatus}
    (hexec : s.commitExternalState jobId external now = (resp, t)) : Orderly s t := by
  rcases SchedulerStore.changeJob_cases hexec with ⟨-, rfl⟩ | ⟨row, hrow, hallowed, -, hstore⟩
  · exact .of_eq rfl rfl
  · have hlive : row.state.terminal = false := by simpa using hallowed
    have hjobs : t.jobs = (s.updateJob jobId (fun row => row.observe external now)
        fun row => row.scope_observe external now).jobs := by
      rw [hstore]
      split <;> simp
    apply Orderly.of_follow hrow hlive hjobs
    intro runId
    have hfollows := runStatusOf_runFollows (s.updateJob jobId
      (fun row => row.observe external now) fun row => row.scope_observe external now)
      (row.observe external now) now runId
    rw [hstore]
    split
    · exact hfollows
    · exact hfollows

theorem orderly_concludeJob {state : SchedulerJobState} {phase code reason : JsString}
    (hexec : s.concludeJob jobId state phase code reason now = (resp, t)) : Orderly s t := by
  rcases SchedulerStore.changeJob_cases hexec with ⟨-, rfl⟩ | ⟨row, hrow, hallowed, -, hstore⟩
  · exact .of_eq rfl rfl
  · have hlive : row.state.terminal = false := by simpa using hallowed
    have hjobs : t.jobs = (s.updateJob jobId (fun row => row.conclude state phase code reason now)
        fun row => row.scope_conclude _ _ _ _ _).jobs := by
      rw [hstore]
      simp
    apply Orderly.of_follow hrow hlive hjobs
    intro runId
    rw [hstore]
    exact runStatusOf_runFollows _ (row.conclude state phase code reason now) now runId

theorem orderly_handleStartFailure {input : StartFailureInput}
    (hexec : s.handleStartFailure input = (resp, t)) : Orderly s t := by
  unfold SchedulerStore.handleStartFailure at hexec
  split at hexec
  · obtain ⟨-, rfl⟩ := Prod.mk.inj hexec
    exact .of_eq rfl rfl
  rcases SchedulerStore.changeJob_cases hexec with ⟨-, rfl⟩ | ⟨row, hrow, hallowed, -, hstore⟩
  · exact .of_eq rfl rfl
  · have hstarting : row.state = .starting := by simpa using hallowed
    have hlive : row.state.terminal = false := by
      rw [hstarting]
      rfl
    let failed := row.failStart input.failureCode input.failureReason input.now
    have hjobs : t.jobs = (s.updateJob input.jobId
        (fun row => row.failStart input.failureCode input.failureReason input.now)
        fun row => row.scope_failStart _ _ _).jobs := by
      rw [hstore]
      split <;> simp [SchedulerStore.countFailure]
    apply Orderly.of_follow hrow hlive hjobs
    intro runId
    rw [hstore]
    by_cases hfailed : failed.state = .failed
    · have hstatus : failed.state.runStatus = some .failed := by
        rw [hfailed]
        rfl
      rw [if_pos hfailed, lead_of_some hstatus]
      exact runStatusOf_updateRunAndOutbox _ failed .failed input.now runId
    · have hstatus : failed.state.runStatus = none := by
        by_cases hattempt : row.attempt < row.maxAttempts
        · simp [failed, JobRow.failStart, hattempt, SchedulerJobState.runStatus]
        · simp [failed, JobRow.failStart, hattempt] at hfailed
      rw [if_neg hfailed, lead_of_none hstatus, Option.map_id', ite_self]
      rfl

theorem orderly_claimNext {found : Option SchedulerJob} (hexec : s.claimNext now = (found, t)) :
    Orderly s t := by
  unfold SchedulerStore.claimNext at hexec
  split at hexec
  · obtain ⟨-, rfl⟩ := Prod.mk.inj hexec
    exact .of_eq rfl rfl
  · next row hfirst =>
    obtain ⟨-, rfl⟩ := Prod.mk.inj hexec
    obtain ⟨hrow, hclaimable⟩ := List.mem_filter.mp (Sql.mem_of_first hfirst)
    apply Orderly.of_updateJobs rfl rfl
    intro id other hother hid
    have hsame : other = row := by
      have hget := Sql.Table.get_of_mem hrow
      have hkey : id = row.id := by
        rw [← SchedulerStore.id_of_get hother]
        simpa using hid
      rw [hkey] at hother
      exact Option.some.inj (hother.symm.trans hget)
    refine .inr ⟨?_, rfl⟩
    rw [hsame]
    simp only [SchedulerStore.claimable, Bool.and_eq_true, decide_eq_true_eq, List.mem_cons,
      List.not_mem_nil, or_false] at hclaimable
    rcases hclaimable.1.1.1.1 with hstate | hstate <;> rw [hstate] <;> rfl

theorem orderly_acquireLease {input : LeaseInput} {found : Option LeaseRow}
    (hexec : s.acquireLease input = (found, t)) : Orderly s t := by
  have hruns : t.runs = s.runs := by
    have hsame : (s.acquireLease input).2.runs = s.runs := by
      unfold SchedulerStore.acquireLease SchedulerStore.insertLease
      split
      · rfl
      · split
        · rfl
        · split
          · rfl
          · split
            · rfl
            · simp only
              split_ifs <;> rfl
    rw [hexec] at hsame
    exact hsame
  rcases SchedulerStore.acquireLease_cases hexec with ⟨-, rfl⟩ | ⟨-, hjobs, -⟩
  · exact .of_eq rfl rfl
  · exact .of_eq hjobs hruns

theorem orderly_markExternalStartIssued {input : StartIssuedInput}
    (hexec : s.markExternalStartIssued input = (resp, t)) : Orderly s t := by
  rcases SchedulerStore.changeJob_cases hexec with ⟨-, rfl⟩ | ⟨row, hrow, hallowed, -, rfl⟩
  · exact .of_eq rfl rfl
  · simp only [Bool.and_eq_true, decide_eq_true_eq] at hallowed
    have hlive : row.state.terminal = false := by
      rw [hallowed.1]
      rfl
    apply Orderly.of_follow hrow hlive rfl
    intro runId
    have hlead : (row.issue input.externalRunId input.lease input.now).state.lead =
        fun current => current := lead_of_none rfl
    rw [hlead, Option.map_id', ite_self]
    rfl

theorem orderly_of_exec {command : SchedulerCommand} {outside : Outside}
    {resp : Except Thrown command.Answer} (hexec : execScheduler outside command s = (resp, t)) :
    Orderly s t := by
  unfold execScheduler at hexec
  split at hexec
  · obtain ⟨-, rfl⟩ := Prod.mk.inj hexec
    exact .of_eq rfl rfl
  · split at hexec
    case h_2 now =>
      obtain ⟨-, rfl⟩ := Prod.mk.inj hexec
      have hjobs : (s.listForReconciliation now).2.jobs = (s.updateJobs (s.affected now)
        (fun row => row.flag now) fun row => row.scope_flag now).jobs := rfl
      exact .of_updateJobs hjobs rfl fun _ _ => .inl rfl
    case h_3 ownerId now expiresAt =>
      obtain ⟨-, rfl⟩ := Prod.mk.inj hexec
      have hjobs : (s.heartbeatOwned ownerId now expiresAt).2.jobs = (s.updateJobs _
        (fun row => row.extend now expiresAt) fun row => row.scope_extend now expiresAt).jobs := rfl
      exact .of_updateJobs hjobs rfl fun _ _ => .inl rfl
    case h_4 now supervisorId =>
      obtain ⟨-, rfl⟩ := Prod.mk.inj hexec
      exact orderly_claimNext rfl
    case h_6 id reason now =>
      obtain ⟨-, rfl⟩ := Prod.mk.inj hexec
      apply Orderly.of_updateJobs rfl rfl
      intro id' row _ hclaimed
      simp only [Bool.and_eq_true, decide_eq_true_eq] at hclaimed
      refine .inr ⟨?_, rfl⟩
      rw [hclaimed.2]
      rfl
    case h_7 input =>
      obtain ⟨-, rfl⟩ := Prod.mk.inj hexec
      exact orderly_acquireLease rfl
    case h_8 input => exact orderly_markExternalStartIssued hexec
    case h_12 id external now => exact orderly_commitExternalState hexec
    case h_13 input => exact orderly_handleStartFailure hexec
    case h_16 id external now => exact orderly_commitExternalState hexec
    case h_17 id now => exact orderly_concludeJob hexec
    case h_18 id now => exact orderly_concludeJob hexec
    all_goals
      obtain ⟨-, rfl⟩ := Prod.mk.inj hexec
      exact .of_eq rfl rfl

end Operations

/-! ## What always holds -/

def RunsOwned (store : SchedulerStore) : Prop :=
  ∀ {runId}, (∀ {id row}, store.jobs.get id = some row → row.runId ≠ runId) →
    runStatusOf store runId = none

structure JobsAndRuns (store : SchedulerStore) : Prop where
  unique : RunsUnique store
  owned : RunsOwned store
  agree : RunsAgree store

section Always

variable {scope : JobScope}

theorem jobsAndRuns_empty : JobsAndRuns .empty := by
  constructor
  · intro id id' row row' hrow
    cases hrow
  · intro runId _
    rfl
  · intro id row hrow
    cases hrow

theorem JobsAndRuns.orderly (h : JobsAndRuns s) (hscopes : ScopesKept s t)
    (horderly : Orderly s t) : JobsAndRuns t := by
  refine ⟨hscopes.runsUnique h.unique, ?_, horderly.agrees h.unique h.agree⟩
  intro runId hother
  apply horderly.absent
  apply h.owned
  intro id row hrow heq
  obtain ⟨row', hrow', hscope⟩ := hscopes.evolve hrow
  exact hother hrow' ((congrArg JobScope.runId hscope).trans heq)

theorem terminalKept_admitJob (hadmitted : s.admitJob scope = some t) : TerminalKept s t := by
  obtain ⟨hfresh, new, -, -, -, hget⟩ := get_admitJob hadmitted
  intro id row hrow _
  have hid : id ≠ scope.id := by
    rintro rfl
    rw [hfresh] at hrow
    cases hrow
  exact ⟨row, by rw [hget, if_neg hid, hrow], rfl⟩

theorem runStatusOf_admitJob (h : RunsOwned s) (hadmitted : s.admitJob scope = some t)
    (runId : JsString) :
    runStatusOf t runId = if runId = scope.runId then some .queued else runStatusOf s runId := by
  obtain ⟨-, hruns, -⟩ := SchedulerStore.admitJob_eq_some hadmitted
  have hnone : runStatusOf s scope.runId = none :=
    h fun hrow => hruns _ (Sql.Table.mem_of_get hrow)
  unfold SchedulerStore.admitJob at hadmitted
  split at hadmitted
  · cases hadmitted
  · obtain rfl := Option.some.inj hadmitted
    rw [runStatusOf, Sql.Table.get_insertNew]
    by_cases hrun : runId = scope.runId
    · have hget : s.runs.get scope.runId = none := Option.map_eq_none_iff.mp hnone
      rw [if_pos hrun, hrun, if_pos ⟨rfl, hget⟩]
      rfl
    · rw [if_neg hrun, if_neg fun hkey => hrun hkey.1.symm, runStatusOf]

theorem JobsAndRuns.admitJob (h : JobsAndRuns s) (hadmitted : s.admitJob scope = some t) :
    JobsAndRuns t := by
  have hruns := runStatusOf_admitJob h.owned hadmitted
  obtain ⟨-, hothers, -⟩ := SchedulerStore.admitJob_eq_some hadmitted
  obtain ⟨hfresh, new, hscope, hpending, -, hget⟩ := get_admitJob hadmitted
  have hnewRun : new.runId = scope.runId := congrArg JobScope.runId hscope
  have hkept : ∀ {id row}, s.jobs.get id = some row → t.jobs.get id = some row := by
    intro id row hrow
    have hid : id ≠ scope.id := by
      rintro rfl
      rw [hfresh] at hrow
      cases hrow
    rw [hget, if_neg hid, hrow]
  refine ⟨RunsUnique.admitJob h.unique hadmitted, ?_, ?_⟩
  · intro runId hother
    have hne : runId ≠ scope.runId := by
      intro heq
      have hnew : t.jobs.get scope.id = some new := by
        rw [hget, if_pos rfl]
      exact hother hnew (hnewRun.trans heq.symm)
    rw [hruns, if_neg hne]
    exact h.owned fun hrow => hother (hkept hrow)
  · intro id row hrow
    rw [hget] at hrow
    by_cases hid : id = scope.id
    · rw [if_pos hid] at hrow
      obtain rfl := Option.some.inj hrow
      refine ⟨.queued, by rw [hruns, if_pos hnewRun], ?_⟩
      rw [hpending]
      rfl
    · rw [if_neg hid] at hrow
      obtain ⟨status, hstatus, hended⟩ := h.agree hrow
      have hne : row.runId ≠ scope.runId := hothers _ (Sql.Table.mem_of_get hrow)
      exact ⟨status, by rw [hruns, if_neg hne, hstatus], hended⟩

end Always

/-! ## The operation of the ingestion -/

/-- The event is new and the next one of the job in the context. -/
structure EventStore.NextEvent (store : EventStore) (input : IngestInput)
    (context : EventContext) : Prop where
  unknown : (store.inbox.find? fun row =>
    row.event.sourceEventId = input.event.sourceEventId) = none
  found : store.contextOf input.event.externalRunId = some context
  identified : EventStore.identified context input.event = true
  free : store.numberTaken input.event = false
  next : input.event.sequence = context.lastEventSequence + 1

section Ingestion

variable {outside : IngestOutside} {input : IngestInput} {resp : Except Thrown EventIngestResult}

def beforeLoop (store : EventStore) (input : IngestInput) (context : EventContext) :
    EventProgress where
  context := context
  store := store.insertInbox context input .pending
  ignored := false

theorem get_of_contextOf {externalRunId : JsString}
    (h : store.contextOf externalRunId = some context) :
    store.scheduler.jobs.get context.job.id = some context.job ∧
      runStatusOf store.scheduler context.job.runId = some context.runStatus := by
  obtain ⟨job, hjob, hrest⟩ := Option.bind_eq_some_iff.mp h
  obtain ⟨run, hrun, hcontext⟩ := Option.bind_eq_some_iff.mp hrest
  obtain rfl := Option.some.inj hcontext
  refine ⟨Sql.Table.get_of_mem (List.mem_of_find?_eq_some hjob), ?_⟩
  rw [runStatusOf, hrun, Option.map_some]

theorem synced_beforeLoop (h : store.NextEvent input context) :
    (beforeLoop store input context).Synced :=
  (get_of_contextOf h.found).2

theorem loop_of_nextEvent (platform : Platform) (outside : IngestOutside)
    (h : store.NextEvent input context) :
    ∃ progress, drain platform outside.before (beforeLoop store input context).store.inbox.length
        (beforeLoop store input context) = .ok progress ∧
      (beforeLoop store input context).Proceeds progress ∧ progress.pending = [] ∧
      store.ingest platform outside input = (.ok (EventStore.settle progress outside.now).1,
        (EventStore.settle progress outside.now).2) := by
  have hfuel : (beforeLoop store input context).openRows ≤
      (store.insertInbox context input .pending).inbox.length := List.countP_le_length
  obtain ⟨progress, hdrain, hproceeds, hpending⟩ :=
    exists_drain platform outside.before _ (synced_beforeLoop h) hfuel
  refine ⟨progress, hdrain, hproceeds, hpending, ?_⟩
  have hearly : ¬ context.lastEventSequence + 1 < input.event.sequence := by
    rw [h.next]
    omega
  have hlate : ¬ input.event.sequence ≤ context.lastEventSequence := by
    rw [h.next]
    omega
  rw [beforeLoop] at hdrain
  simp only [EventStore.ingest, h.unknown, h.found, h.identified, if_true, EventStore.ingestNew,
    h.free, Bool.false_eq_true, if_false, hearly, hlate, hdrain]

theorem ingest_of_nextEvent (platform : Platform) (outside : IngestOutside)
    (h : store.NextEvent input context) :
    ∃ progress, (beforeLoop store input context).Proceeds progress ∧
      store.ingest platform outside input = (.ok (EventStore.settle progress outside.now).1,
        (EventStore.settle progress outside.now).2) := by
  obtain ⟨progress, -, hproceeds, -, hsettled⟩ := loop_of_nextEvent platform outside h
  exact ⟨progress, hproceeds, hsettled⟩

/-- An ingestion changes nothing, records an event that is early or late, or maps the next event
of a job. -/
theorem ingest_outcomes (hexec : store.ingest platform outside input = (resp, store')) :
    store' = store ∨
    (∃ context, store.contextOf input.event.externalRunId = some context ∧
      context.lastEventSequence + 1 < input.event.sequence ∧
      store' = store.recordGap context input outside.now) ∨
    (∃ context, store.contextOf input.event.externalRunId = some context ∧
      input.event.sequence ≤ context.lastEventSequence ∧
      store' = store.insertInbox context input .terminalIgnored) ∨
    ∃ context, store.NextEvent input context := by
  unfold EventStore.ingest at hexec
  split at hexec
  · obtain ⟨-, rfl⟩ := Prod.mk.inj hexec
    exact .inl rfl
  · next hunknown =>
    split at hexec
    · obtain ⟨-, rfl⟩ := Prod.mk.inj hexec
      exact .inl rfl
    · next context hfound =>
      by_cases hidentified : EventStore.identified context input.event = true
      · rw [if_pos hidentified] at hexec
        unfold EventStore.ingestNew at hexec
        by_cases htaken : store.numberTaken input.event = true
        · rw [if_pos htaken] at hexec
          obtain ⟨-, rfl⟩ := Prod.mk.inj hexec
          exact .inl rfl
        · rw [if_neg htaken] at hexec
          by_cases hearly : context.lastEventSequence + 1 < input.event.sequence
          · rw [if_pos hearly] at hexec
            obtain ⟨-, rfl⟩ := Prod.mk.inj hexec
            exact .inr (.inl ⟨context, hfound, hearly, rfl⟩)
          · rw [if_neg hearly] at hexec
            by_cases hlate : input.event.sequence ≤ context.lastEventSequence
            · rw [if_pos hlate] at hexec
              obtain ⟨-, rfl⟩ := Prod.mk.inj hexec
              exact .inr (.inr (.inl ⟨context, hfound, hlate, rfl⟩))
            · exact .inr (.inr (.inr ⟨context, hunknown, hfound, hidentified,
                Bool.eq_false_iff.mpr htaken, by omega⟩))
      · rw [if_neg hidentified] at hexec
        obtain ⟨-, rfl⟩ := Prod.mk.inj hexec
        exact .inl rfl

/-- An ingestion leaves the tables of the scheduler alone, flags a job, or maps the next event
of a job. -/
theorem ingest_cases (hexec : store.ingest platform outside input = (resp, store')) :
    store'.scheduler = store.scheduler ∨
    (∃ jobId, store'.scheduler = store.scheduler.updateJob jobId (fun row => row.flag outside.now)
      fun row => row.scope_flag outside.now) ∨
    ∃ context, store.NextEvent input context := by
  rcases ingest_outcomes hexec with rfl | ⟨context, -, -, rfl⟩ | ⟨context, -, -, rfl⟩ | hnext
  · exact .inl rfl
  · exact .inr (.inl ⟨_, rfl⟩)
  · exact .inl rfl
  · exact .inr (.inr hnext)

theorem jobs_settle (progress : EventProgress) (now : ℕ) :
    (EventStore.settle progress now).2.scheduler.jobs =
      (progress.store.scheduler.updateJob progress.context.job.id
        (fun row => row.follow progress.context.phase progress.waiting
          progress.context.runStatus now)
        fun row => row.scope_follow _ _ _ _).jobs := by
  unfold EventStore.settle
  simp only
  split <;> rfl

theorem runs_settle (progress : EventProgress) (now : ℕ) :
    (EventStore.settle progress now).2.scheduler.runs = progress.store.scheduler.runs := by
  unfold EventStore.settle
  simp only
  split <;> rfl

theorem inbox_settle (progress : EventProgress) (now : ℕ) :
    (EventStore.settle progress now).2.inbox = progress.store.inbox := rfl

theorem lastEventSequence_settle (progress : EventProgress) (now : ℕ) (id : JsString) :
    (EventStore.settle progress now).2.lastEventSequence id =
      if id = progress.context.job.id then progress.context.lastEventSequence
      else progress.store.lastEventSequence id := rfl

/-- What the mapping of the next event does to the jobs and the runs. -/
structure MapsEvent (s t : SchedulerStore) (context : EventContext) (status : RunStatus) :
    Prop where
  job : ∃ row, t.jobs.get context.job.id = some row ∧
    row.toJobScope = context.job.toJobScope ∧ row.state = status.jobState
  otherJobs : ∀ id, id ≠ context.job.id → t.jobs.get id = s.jobs.get id
  run : runStatusOf t context.job.runId = some status
  otherRuns : ∀ runId, runId ≠ context.job.runId → runStatusOf t runId = runStatusOf s runId
  terminal : context.runStatus.terminal = true → status = context.runStatus

theorem mapsEvent_of_nextEvent (h : store.NextEvent input context)
    (hexec : store.ingest platform outside input = (resp, store')) :
    ∃ status, MapsEvent store.scheduler store'.scheduler context status := by
  obtain ⟨progress, hproceeds, hsettled⟩ := ingest_of_nextEvent platform outside h
  obtain ⟨-, rfl⟩ := Prod.mk.inj (hexec.symm.trans hsettled)
  have hget : ∀ id, progress.store.scheduler.jobs.get id = store.scheduler.jobs.get id := by
    intro id
    rw [hproceeds.jobs]
    rfl
  have hid : progress.context.job = context.job := hproceeds.job
  have hrow : progress.store.scheduler.jobs.get context.job.id = some context.job := by
    rw [hget]
    exact (get_of_contextOf h.found).1
  refine ⟨progress.context.runStatus, ?_, ?_, ?_, ?_, hproceeds.terminal⟩
  · refine ⟨context.job.follow progress.context.phase progress.waiting
      progress.context.runStatus outside.now, ?_, rfl, rfl⟩
    rw [jobs_settle, hid, SchedulerStore.get_updateJob_self hrow]
  · intro id hne
    rw [jobs_settle, hid, SchedulerStore.get_updateJob_of_ne hne, hget]
  · have hsynced := hproceeds.synced
    rw [EventProgress.Synced, hid] at hsynced
    rw [runStatusOf, runs_settle]
    exact hsynced
  · intro runId hne
    rw [runStatusOf, runs_settle]
    exact hproceeds.others runId hne

end Ingestion

section Mapping

section

variable (h : MapsEvent s t context status) (hjob : s.jobs.get context.job.id = some context.job)

include h hjob

theorem MapsEvent.scopesKept : ScopesKept s t := by
  intro id
  by_cases hid : id = context.job.id
  · obtain ⟨row, hrow, hscope, -⟩ := h.job
    rw [hid, hjob, hrow]
    exact .some hscope
  · rw [h.otherJobs id hid]
    cases s.jobs.get id with
    | none => exact .none
    | some row => exact .some rfl

theorem MapsEvent.jobsAndRuns (hinv : JobsAndRuns s) : JobsAndRuns t := by
  have hscopes := h.scopesKept hjob
  refine ⟨hscopes.runsUnique hinv.unique, ?_, ?_⟩
  · intro runId hother
    have hne : runId ≠ context.job.runId := by
      obtain ⟨row, hrow, hscope, -⟩ := h.job
      rintro rfl
      exact hother hrow (congrArg JobScope.runId hscope)
    rw [h.otherRuns runId hne]
    apply hinv.owned
    intro id row hrow heq
    obtain ⟨row', hrow', hscope⟩ := hscopes.evolve hrow
    exact hother hrow' ((congrArg JobScope.runId hscope).trans heq)
  · intro id row hrow
    by_cases hid : id = context.job.id
    · obtain ⟨followed, hfollowed, hscope, hstate⟩ := h.job
      rw [hid, hfollowed] at hrow
      obtain rfl := Option.some.inj hrow
      have hrun : followed.runId = context.job.runId := congrArg JobScope.runId hscope
      refine ⟨status, by rw [hrun, h.run], ?_⟩
      rw [hstate, ended_jobState]
    · rw [h.otherJobs id hid] at hrow
      obtain ⟨current, hcurrent, hended⟩ := hinv.agree hrow
      have hne : row.runId ≠ context.job.runId := fun heq => hid (hinv.unique hrow hjob heq)
      exact ⟨current, by rw [h.otherRuns _ hne, hcurrent], hended⟩

theorem MapsEvent.terminalKept (hrun : runStatusOf s context.job.runId = some context.runStatus)
    (hinv : JobsAndRuns s) (hblocked : context.job.state ≠ .blocked) : TerminalKept s t := by
  intro id row hrow hterminal
  by_cases hid : id = context.job.id
  · rw [hid, hjob] at hrow
    obtain rfl := Option.some.inj hrow
    obtain ⟨current, hcurrent, hended⟩ := hinv.agree hjob
    obtain rfl := Option.some.inj (hrun.symm.trans hcurrent)
    obtain ⟨hover, hstate⟩ := jobState_of_ended hterminal hblocked hended
    obtain ⟨followed, hfollowed, -, hfollows⟩ := h.job
    refine ⟨followed, by rw [hid, hfollowed], ?_⟩
    rw [hfollows, h.terminal hover, hstate]
  · exact ⟨row, by rw [h.otherJobs id hid, hrow], rfl⟩

end

end Mapping

/-! ## The system -/

/-- A step on the shared tables. -/
inductive StoreChange
  | scheduler (outside : Outside) (command : SchedulerCommand)
  | others (change : SchedulerChange)
  | ingest (outside : IngestOutside) (input : IngestInput)

def StoreChange.apply (platform : Platform) (store : EventStore) : StoreChange → Option EventStore
  | .scheduler outside command =>
    some { store with scheduler := (execScheduler outside command store.scheduler).2 }
  | .others change =>
    (change.apply store.scheduler).map fun scheduler => { store with scheduler := scheduler }
  | .ingest outside input => some (store.ingest platform outside input).2

theorem exists_ingest_of_apply {platform : Platform} {store store' : EventStore}
    {outside : IngestOutside} {input : IngestInput}
    (happly : (StoreChange.ingest outside input).apply platform store = some store') :
    ∃ resp, store.ingest platform outside input = (resp, store') :=
  ⟨_, Prod.ext rfl (Option.some.inj happly)⟩

def storeSystem (platform : Platform) :
    System EventStore Empty (fun _ => Unit) Empty Empty Unit Unit StoreChange where
  program := Empty.elim
  exec := fun _ command _ => command.elim
  environment := fun change store => change.apply platform store

abbrev StoreConfig := Config EventStore Empty (fun _ => Unit) Empty Empty Unit StoreChange

abbrev StoreMoment := Moment EventStore Empty (fun _ => Unit) Empty Empty Unit StoreChange

abbrev StoreCondition := StoreMoment → Attempt Empty Empty StoreChange → Prop

/-- Once a job is over, its state does not change in the rest of the run. -/
structure TerminalStays (platform : Platform) (cond : StoreCondition) : Prop where
  stays : ∀ {c c' : StoreConfig}, Run (storeSystem platform) cond .empty c →
    Relation.ReflTransGen (Step (storeSystem platform) cond) c c' →
      TerminalKept c.now.state.scheduler c'.now.state.scheduler

/-- What is ingested is not the next event of a blocked job. -/
def NotForBlocked (m : StoreMoment) : Attempt Empty Empty StoreChange → Prop
  | .change (.ingest _ input) =>
    ∀ context, m.state.NextEvent input context → context.job.state ≠ .blocked
  | _ => True

section Runs

variable {change : StoreChange}

theorem orderly_of_ingest {outside : IngestOutside} {input : IngestInput}
    {resp : Except Thrown EventIngestResult}
    (hnone : ∀ context, ¬ store.NextEvent input context)
    (hexec : store.ingest platform outside input = (resp, store')) :
    ScopesKept store.scheduler store'.scheduler ∧ Orderly store.scheduler store'.scheduler := by
  rcases ingest_cases hexec with hsame | ⟨jobId, hflag⟩ | ⟨context, hnext⟩
  · rw [hsame]
    exact ⟨.of_eq rfl, .of_eq rfl rfl⟩
  · rw [hflag]
    exact ⟨.of_updateJobs rfl, .of_updateJobs rfl rfl fun _ _ => .inl rfl⟩
  · exact absurd hnext (hnone context)

theorem jobsAndRuns_apply (hinv : JobsAndRuns store.scheduler)
    (happly : change.apply platform store = some store') : JobsAndRuns store'.scheduler := by
  cases change with
  | scheduler outside command =>
      obtain rfl := Option.some.inj happly
      exact hinv.orderly (scopesKept_of_exec rfl) (orderly_of_exec rfl)
  | others change =>
      obtain ⟨scheduler, hchange, rfl⟩ := Option.map_eq_some_iff.mp happly
      cases change with
      | admitJob scope => exact hinv.admitJob hchange
      | registerNode node =>
          obtain rfl := Option.some.inj hchange
          exact hinv.orderly (.of_eq rfl) (.of_eq rfl rfl)
      | setControl control =>
          obtain rfl := Option.some.inj hchange
          exact hinv.orderly (.of_eq rfl) (.of_eq rfl rfl)
  | ingest outside input =>
      obtain ⟨resp, hexec⟩ := exists_ingest_of_apply happly
      by_cases hnext : ∃ context, store.NextEvent input context
      · obtain ⟨context, hnext⟩ := hnext
        obtain ⟨status, hmaps⟩ := mapsEvent_of_nextEvent hnext hexec
        exact hmaps.jobsAndRuns (get_of_contextOf hnext.found).1 hinv
      · obtain ⟨hscopes, horderly⟩ := orderly_of_ingest (not_exists.mp hnext) hexec
        exact hinv.orderly hscopes horderly

theorem terminalKept_apply (hinv : JobsAndRuns store.scheduler)
    (hcond : ∀ outside input context, change = .ingest outside input →
      store.NextEvent input context → context.job.state ≠ .blocked)
    (happly : change.apply platform store = some store') :
    TerminalKept store.scheduler store'.scheduler := by
  cases change with
  | scheduler outside command =>
      obtain rfl := Option.some.inj happly
      exact (orderly_of_exec rfl).terminal
  | others change =>
      obtain ⟨scheduler, hchange, rfl⟩ := Option.map_eq_some_iff.mp happly
      cases change with
      | admitJob scope => exact terminalKept_admitJob hchange
      | registerNode node =>
          obtain rfl := Option.some.inj hchange
          exact .refl _
      | setControl control =>
          obtain rfl := Option.some.inj hchange
          exact .refl _
  | ingest outside input =>
      obtain ⟨resp, hexec⟩ := exists_ingest_of_apply happly
      by_cases hnext : ∃ context, store.NextEvent input context
      · obtain ⟨context, hnext⟩ := hnext
        obtain ⟨status, hmaps⟩ := mapsEvent_of_nextEvent hnext hexec
        obtain ⟨hjob, hrun⟩ := get_of_contextOf hnext.found
        exact hmaps.terminalKept hjob hrun hinv (hcond outside input context rfl hnext)
      · exact (orderly_of_ingest (not_exists.mp hnext) hexec).2.terminal

theorem jobsAndRuns_of_run {cond : StoreCondition} {c : StoreConfig}
    (hrun : Run (storeSystem platform) cond .empty c) : JobsAndRuns c.now.state.scheduler := by
  apply hrun.invariant (I := fun store : EventStore => JobsAndRuns store.scheduler)
  · exact jobsAndRuns_empty
  · intro _ command
    exact command.elim
  · intro m change store _ happly hinv
    exact jobsAndRuns_apply hinv happly

/-- A job that is over stays as it is, as long as no event for a blocked job is mapped. -/
theorem terminalStays_of_notForBlocked (platform : Platform) :
    TerminalStays platform NotForBlocked := by
  constructor
  intro c c' hrun hsteps
  induction hsteps with
  | refl => exact .refl _
  | @tail d e hsteps hstep ih =>
      have hinv := jobsAndRuns_of_run (Relation.ReflTransGen.trans hrun hsteps)
      cases hstep with
      | spawn call => exact call.elim
      | perform pid command => exact command.elim
      | finish => exact ih
      | crash => exact ih
      | change change state hcond happly =>
          refine ih.trans (terminalKept_apply hinv ?_ happly)
          rintro outside input context rfl hnext
          exact hcond context hnext

end Runs

/-! ## An event for a blocked job -/

def sampleEvent : RunEvent where
  sourceEventId := js "event-1"
  externalRunId := js "cp-run-a1"
  externalTaskId := js "task"
  sequence := 1
  occurredAt := 3000
  phase := js "builder"
  status := js "running"
  message := js "builder started"
  observability := none

def sampleLease : LeaseRow where
  runId := js "run"
  nodeId := js "node"
  ownerId := js "first"
  status := .active
  acquiredAt := 1000
  heartbeatAt := 1000
  expiresAt := 31000
  releasedAt := none
  version := 1

/-- A job is claimed and its start issued; the gateway does not know the run, and then its
first event comes. -/
def blockedSchedule : List (Action Empty Unit StoreChange) :=
  [.change (.others (.admitJob sampleScope)),
    .change (.scheduler sampleOutside (.claimNext 1000 (js "first"))),
    .change (.scheduler sampleOutside (.markExternalStartIssued
      { jobId := js "job"
        expectedVersion := 2
        externalRunId := js "cp-run-a1"
        lease := sampleLease
        now := 1000 })),
    .change (.scheduler sampleOutside (.reconcileExternal (js "job") none 2000))]

def sampleIngestion : IngestOutside where
  now := 3000
  before := fun _ _ => true

def ingestSample : Action Empty Unit StoreChange :=
  .change (.ingest sampleIngestion { event := sampleEvent, digest := js "digest" })

theorem not_terminalStays : ¬ TerminalStays samplePlatform fun _ _ => True := by
  intro hclaim
  have hblocked : (execute (storeSystem samplePlatform) (Config.initial .empty)
      blockedSchedule).map (fun c => (stateOf c.now.state.scheduler (js "job"),
        (step (storeSystem samplePlatform) c ingestSample).map fun c' =>
          stateOf c'.now.state.scheduler (js "job"))) =
      some (some .blocked, some (some .running)) := by
    decide +kernel
  obtain ⟨c, hc, hview⟩ := Option.map_eq_some_iff.mp hblocked
  simp only [Prod.mk.injEq] at hview
  obtain ⟨hbefore, hafter⟩ := hview
  obtain ⟨c', hc', hafter⟩ := Option.map_eq_some_iff.mp hafter
  obtain ⟨row, hrow, hstate⟩ := Option.map_eq_some_iff.mp hbefore
  obtain ⟨row', hrow', hstate'⟩ := Option.map_eq_some_iff.mp hafter
  have hkept := hclaim.stays (reached_of_execute hc) (.single (step_sound hc'))
  obtain ⟨kept, hkept, hsame⟩ := hkept hrow (by rw [hstate]; rfl)
  obtain rfl := Option.some.inj (hkept.symm.trans hrow')
  rw [hstate, hstate'] at hsame
  cases hsame

end DevHarness.Scheduler
