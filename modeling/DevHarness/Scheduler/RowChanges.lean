import DevHarness.Interleave.Exchange
import DevHarness.Scheduler.StartSafety

/-!
# What a command does to a job

Every call of the repository changes the row of a job in one of a few ways, each with its
guard, and what a tick passes to `markExternalStartIssued` is what it has claimed and leased.
-/

namespace DevHarness.Scheduler

open JsText Interleave Program

/-! ## Rows -/

inductive RowChange : SchedulerCommand → JobRow → JobRow → Prop
  | kept {command : SchedulerCommand} {row : JobRow} : RowChange command row row
  | flagged {now : ℕ} {row : JobRow} (hlive : row.state.terminal = false) :
      RowChange (.listForReconciliation now) row (row.flag now)
  | extended {ownerId : JsString} {now expiresAt : ℕ} {row : JobRow} :
      RowChange (.heartbeatOwned ownerId now expiresAt) row (row.extend now expiresAt)
  | claimed {now : ℕ} {supervisorId : JsString} {row : JobRow} (hwaiting : row.state.waiting) :
      RowChange (.claimNext now supervisorId) row (row.claim now)
  | unclaimed {reason : JsString} {now : ℕ} {row : JobRow} (hclaimed : row.state = .claimed) :
      RowChange (.releaseClaim row.id reason now) row (row.unclaim reason now)
  | issued {input : StartIssuedInput} {row : JobRow} (hid : row.id = input.jobId)
      (hclaimed : row.state = .claimed) (hversion : row.version = input.expectedVersion) :
      RowChange (.markExternalStartIssued input) row
        (row.issue input.externalRunId input.lease input.now)
  | started {external : ExternalExecutionStatus} {now : ℕ} {row : JobRow}
      (hlive : row.state.terminal = false) :
      RowChange (.markStarted row.id external now) row (row.observe external now)
  | reconciled {external : Option ExternalExecutionStatus} {now : ℕ} {row : JobRow}
      (hlive : row.state.terminal = false) :
      RowChange (.reconcileExternal row.id external now) row
        (row.observe (external.getD SchedulerStore.unavailable) now)
  | failed {input : StartFailureInput} {row : JobRow} (hid : row.id = input.jobId)
      (hstarting : row.state = .starting) :
      RowChange (.handleStartFailure input) row
        (row.failStart input.failureCode input.failureReason input.now)
  | stopped {now : ℕ} {row : JobRow} (hlive : row.state.terminal = false) :
      RowChange (.markStopped row.id now) row
        (row.conclude .cancelled (js "stopped") (js "operator_stop")
          (js "Execution stopped by operator control") now)
  | timedOut {now : ℕ} {row : JobRow} (hlive : row.state.terminal = false) :
      RowChange (.markTimedOut row.id now) row
        (row.conclude .failed (js "timeout") (js "deadline_exceeded")
          (js "Execution deadline exceeded") now)

section Rows

variable {s t : SchedulerStore} {command : SchedulerCommand} {row row' : JobRow} {id : JsString}

theorem exists_of_updateJob {other : JsString} {old : JobRow} {f : JobRow → JobRow}
    {hscope : ∀ row, (f row).toJobScope = row.toJobScope}
    (hjobs : t.jobs = (s.updateJob other f hscope).jobs) (hold : s.jobs.get other = some old)
    (hchange : RowChange command old (f old)) (hrow : s.jobs.get id = some row) :
    ∃ row', t.jobs.get id = some row' ∧ RowChange command row row' := by
  by_cases hid : id = other
  · subst hid
    obtain rfl := Option.some.inj (hold.symm.trans hrow)
    exact ⟨f old, by rw [hjobs, SchedulerStore.get_updateJob_self hrow], hchange⟩
  · exact ⟨row, by rw [hjobs, SchedulerStore.get_updateJob_of_ne hid, hrow], .kept⟩

theorem exists_of_jobs_eq (hjobs : t.jobs = s.jobs) (hrow : s.jobs.get id = some row) :
    ∃ row', t.jobs.get id = some row' ∧ RowChange command row row' :=
  ⟨row, by rw [hjobs, hrow], .kept⟩

theorem rowChange_of_exec {outside : Outside} {resp : Except Thrown command.Answer}
    (hexec : execScheduler outside command s = (resp, t)) (hrow : s.jobs.get id = some row) :
    ∃ row', t.jobs.get id = some row' ∧ RowChange command row row' := by
  unfold execScheduler at hexec
  split at hexec
  · obtain ⟨-, rfl⟩ := Prod.mk.inj hexec
    exact ⟨row, hrow, .kept⟩
  · split at hexec
    case h_2 now =>
      obtain ⟨-, rfl⟩ := Prod.mk.inj hexec
      have hget : (s.listForReconciliation now).2.jobs.get id = _ :=
        SchedulerStore.get_expireStale
      rw [hrow, Option.map_some] at hget
      refine ⟨_, hget, ?_⟩
      by_cases haffected : s.affected now row = true
      · rw [if_pos haffected]
        simp only [SchedulerStore.affected, Bool.and_eq_true, Bool.not_eq_true'] at haffected
        exact .flagged haffected.2
      · rw [if_neg haffected]
        exact .kept
    case h_3 ownerId now expiresAt =>
      obtain ⟨-, rfl⟩ := Prod.mk.inj hexec
      rw [SchedulerStore.get_heartbeatOwned, hrow, Option.map_some]
      refine ⟨_, rfl, ?_⟩
      split
      · exact .extended
      · exact .kept
    case h_4 now supervisorId =>
      rcases hclaim : s.claimNext now with ⟨found, u⟩
      rw [hclaim] at hexec
      obtain ⟨-, rfl⟩ := Prod.mk.inj hexec
      rcases SchedulerStore.claimNext_cases hclaim with ⟨-, rfl⟩ |
        ⟨old, hold, hclaimable, -, hjobs, -⟩
      · exact ⟨row, hrow, .kept⟩
      · have hwaiting : old.state.waiting := by
          simp only [SchedulerStore.claimable, Bool.and_eq_true, decide_eq_true_eq,
            List.mem_cons, List.not_mem_nil, or_false] at hclaimable
          exact hclaimable.1.1.1.1
        exact exists_of_updateJob hjobs hold (.claimed hwaiting) hrow
    case h_6 jobId reason now =>
      obtain ⟨-, rfl⟩ := Prod.mk.inj hexec
      rw [SchedulerStore.releaseClaim, SchedulerStore.get_updateJobs, hrow, Option.map_some]
      refine ⟨_, rfl, ?_⟩
      split
      · next hclaimed =>
        simp only [Bool.and_eq_true, decide_eq_true_eq] at hclaimed
        rw [← hclaimed.1]
        exact .unclaimed hclaimed.2
      · exact .kept
    case h_7 input =>
      rcases hlease : s.acquireLease input with ⟨found, u⟩
      rw [hlease] at hexec
      obtain ⟨-, rfl⟩ := Prod.mk.inj hexec
      rcases SchedulerStore.acquireLease_cases hlease with ⟨-, rfl⟩ | ⟨-, hjobs, -⟩
      · exact ⟨row, hrow, .kept⟩
      · exact exists_of_jobs_eq hjobs hrow
    case h_8 input =>
      rcases SchedulerStore.markExternalStartIssued_cases hexec with ⟨-, rfl⟩ |
        ⟨old, hold, hclaimed, hversion, -, hjobs, -⟩
      · exact ⟨row, hrow, .kept⟩
      · have hid := SchedulerStore.id_of_get hold
        exact exists_of_updateJob hjobs hold (.issued hid hclaimed hversion) hrow
    case h_12 jobId external now =>
      rcases SchedulerStore.commitExternalState_cases hexec with ⟨-, rfl⟩ |
        ⟨old, hold, hlive, -, hjobs, -⟩
      · exact ⟨row, hrow, .kept⟩
      · obtain rfl := SchedulerStore.id_of_get hold
        exact exists_of_updateJob hjobs hold (.started hlive) hrow
    case h_13 input =>
      rcases SchedulerStore.handleStartFailure_cases hexec with ⟨-, rfl⟩ |
        ⟨old, hold, hstarting, -, hjobs, -⟩
      · exact ⟨row, hrow, .kept⟩
      · have hid := SchedulerStore.id_of_get hold
        exact exists_of_updateJob hjobs hold (.failed hid hstarting) hrow
    case h_16 jobId external now =>
      rcases SchedulerStore.commitExternalState_cases hexec with ⟨-, rfl⟩ |
        ⟨old, hold, hlive, -, hjobs, -⟩
      · exact ⟨row, hrow, .kept⟩
      · obtain rfl := SchedulerStore.id_of_get hold
        exact exists_of_updateJob hjobs hold (.reconciled hlive) hrow
    case h_17 jobId now =>
      rcases SchedulerStore.concludeJob_cases hexec with ⟨-, rfl⟩ |
        ⟨old, hold, hlive, -, hjobs, -⟩
      · exact ⟨row, hrow, .kept⟩
      · obtain rfl := SchedulerStore.id_of_get hold
        exact exists_of_updateJob hjobs hold (.stopped hlive) hrow
    case h_18 jobId now =>
      rcases SchedulerStore.concludeJob_cases hexec with ⟨-, rfl⟩ |
        ⟨old, hold, hlive, -, hjobs, -⟩
      · exact ⟨row, hrow, .kept⟩
      · obtain rfl := SchedulerStore.id_of_get hold
        exact exists_of_updateJob hjobs hold (.timedOut hlive) hrow
    all_goals
      obtain ⟨-, rfl⟩ := Prod.mk.inj hexec
      exact ⟨row, hrow, .kept⟩

theorem RowChange.scope (h : RowChange command row row') : row'.toJobScope = row.toJobScope := by
  cases h <;> rfl

theorem RowChange.version (h : RowChange command row row') :
    row.version ≤ row'.version ∧ (row'.version = row.version → row'.attempt = row.attempt) := by
  cases h with
  | kept => exact ⟨le_rfl, fun _ => rfl⟩
  | extended => exact ⟨le_rfl, fun _ => rfl⟩
  | _ =>
      refine ⟨Nat.le_succ _, fun hsame => ?_⟩
      exact absurd hsame (Nat.succ_ne_self _)

end Rows

/-! ## The course of a tick -/

inductive StartStep
  | claim
  | lease
  | issue
  | launch

def SchedulerCommand.startStep : SchedulerCommand → Option StartStep
  | .claimNext _ _ => some .claim
  | .acquireLease _ => some .lease
  | .markExternalStartIssued _ => some .issue
  | .launch _ => some .launch
  | _ => none

/-- A command by which no job is started. -/
def Starts (command : SchedulerCommand) : Prop := command.startStep ≠ none

section Course

variable {job starting : SchedulerJob} {now : ℕ} {supervisorId : JsString} {leaseDurationMs : ℕ}
  {ex : List (Exchange SchedulerCommand SchedulerCommand.Answer Thrown)}

theorem only_cancelExternal : Only (¬ Starts ·) (cancelExternal job) := by
  unfold cancelExternal
  split
  · exact only_request.mpr fun h => h rfl
  · exact only_pure

theorem only_inspectExternal : Only (¬ Starts ·) (inspectExternal job) := by
  unfold inspectExternal
  split
  · exact only_request.mpr fun h => h rfl
  · exact only_pure

theorem only_reconcile : Only (¬ Starts ·) (reconcile now job) := by
  unfold reconcile
  split
  · refine only_bind only_cancelExternal fun _ => only_request_bind_iff.mpr ⟨?_, fun _ => only_pure⟩
    exact fun h => h rfl
  · split
    · refine only_bind only_cancelExternal fun _ =>
        only_request_bind_iff.mpr ⟨?_, fun _ => only_pure⟩
      exact fun h => h rfl
    · refine only_bind only_inspectExternal fun _ =>
        only_request_bind_iff.mpr ⟨?_, fun _ => only_pure⟩
      exact fun h => h rfl

theorem only_giveUpClaim {reason : JsString} : Only (¬ Starts ·) (giveUpClaim job reason now) :=
  only_request_bind_iff.mpr ⟨fun h => h rfl, fun _ => only_pure⟩

theorem only_recordStartFailure {thrown : Thrown} :
    Only (¬ Starts ·) (recordStartFailure job thrown) := by
  refine only_request_bind_iff.mpr ⟨fun h => h rfl, fun _ => ?_⟩
  exact only_request_bind_iff.mpr ⟨fun h => h rfl, fun _ => only_pure⟩

theorem only_recordStarted {external : ExternalExecutionStatus} :
    Only (¬ Starts ·) (recordStarted job starting external) := by
  refine only_request_bind_iff.mpr ⟨fun h => h rfl, fun _ => ?_⟩
  refine only_request_bind_iff.mpr ⟨fun h => h rfl, fun _ => ?_⟩
  exact only_request_bind_iff.mpr ⟨fun h => h rfl, fun _ => only_pure⟩

theorem only_recorded (outcome : Except Thrown ExternalExecutionStatus) :
    Only (¬ Starts ·) (match outcome with
      | .ok external => recordStarted job starting external
      | .error thrown => recordStartFailure job thrown) := by
  cases outcome with
  | ok external => exact only_recordStarted
  | error thrown => exact only_recordStartFailure

theorem only_startExternal : Only (fun command => command = .launch (startRequest job now) ∨
    ¬ Starts command) (startExternal job starting now) := by
  refine only_bind (only_handle ?_ fun _ => only_pure) fun outcome =>
    (only_recorded outcome).mono fun _ h => .inr h
  refine only_bind ?_ fun _ => only_pure
  refine only_request_bind_iff.mpr ⟨.inl rfl, fun _ => ?_⟩
  exact only_request.mpr (.inr fun h => h rfl)

def startIssuedInput (job : SchedulerJob) (lease : LeaseRow) (now : ℕ) : StartIssuedInput where
  jobId := job.id
  expectedVersion := job.version
  externalRunId := externalRunIdFor job
  lease := lease
  now := now

abbrev SchedulerExchange := Exchange SchedulerCommand SchedulerCommand.Answer Thrown

/-- How a tick gets to a command that starts a job: what it has performed until then. -/
inductive StartCourse (supervisorId : JsString) : List SchedulerExchange → SchedulerCommand → Prop
  | claim {before : List SchedulerExchange} {now : ℕ} (hbefore : ∀ x ∈ before, ¬ Starts x.cmd) :
      StartCourse supervisorId before (.claimNext now supervisorId)
  | lease {before between : List SchedulerExchange} {now : ℕ} {job : SchedulerJob}
      {input : LeaseInput} (hbefore : ∀ x ∈ before, ¬ Starts x.cmd)
      (hbetween : ∀ x ∈ between, ¬ Starts x.cmd) (hrun : input.runId = job.runId) :
      StartCourse supervisorId
        (before ++ ⟨.claimNext now supervisorId, .ok (some job)⟩ :: between) (.acquireLease input)
  | issue {before between : List SchedulerExchange} {now : ℕ} {job : SchedulerJob}
      {input : LeaseInput} {lease : LeaseRow} (hbefore : ∀ x ∈ before, ¬ Starts x.cmd)
      (hbetween : ∀ x ∈ between, ¬ Starts x.cmd) (hrun : input.runId = job.runId) :
      StartCourse supervisorId
        (before ++ ⟨.claimNext now supervisorId, .ok (some job)⟩ ::
          (between ++ [⟨.acquireLease input, .ok (some lease)⟩]))
        (.markExternalStartIssued (startIssuedInput job lease now))
  | launch {before between : List SchedulerExchange} {now : ℕ} {job starting : SchedulerJob}
      {input : LeaseInput} {lease : LeaseRow} (hbefore : ∀ x ∈ before, ¬ Starts x.cmd)
      (hbetween : ∀ x ∈ between, ¬ Starts x.cmd) (hrun : input.runId = job.runId) :
      StartCourse supervisorId
        (before ++ ⟨.claimNext now supervisorId, .ok (some job)⟩ ::
          (between ++ [⟨.acquireLease input, .ok (some lease)⟩,
            ⟨.markExternalStartIssued (startIssuedInput job lease now), .ok starting⟩]))
        (.launch (startRequest job now))

variable {command : SchedulerCommand} {α : Type}

theorem Starts.behind {quiet : SchedulerCommand} {f : quiet.Answer → SchedulerProgram α}
    (hstarts : Starts command) (hquiet : ¬ Starts quiet)
    (h : Reaches (await quiet >>= f) ex command) :
    ∃ a ex', ex = ⟨quiet, .ok a⟩ :: ex' ∧ Reaches (f a) ex' command := by
  apply reaches_behind h
  rintro rfl
  exact hquiet hstarts

theorem Starts.not_reaches {p : SchedulerProgram α} (hstarts : Starts command)
    (honly : Only (¬ Starts ·) p) : ¬ Reaches p ex command :=
  fun h => honly.of_reaches h hstarts

theorem not_starts_singleton {x : SchedulerExchange} (h : ¬ Starts x.cmd) :
    ∀ y ∈ [x], ¬ Starts y.cmd := by
  intro y hy
  rw [List.mem_singleton.mp hy]
  exact h

theorem launch_of_reaches (hstarts : Starts command)
    (h : Reaches (startExternal job starting now) ex command) :
    ex = [] ∧ command = .launch (startRequest job now) := by
  have hcommand : command = .launch (startRequest job now) :=
    (only_startExternal.of_reaches h).resolve_right fun hnot => hnot hstarts
  refine ⟨?_, hcommand⟩
  rcases reaches_bind_iff.mp h with hfirst | ⟨outcome, ex₁, ex₂, rfl, -, hrest⟩
  · rcases reaches_handle hfirst with hgateway | ⟨e, ex₁, ex₂, rfl, -, hpure⟩
    · rcases reaches_bind_iff.mp hgateway with hstart | ⟨external, ex₁, ex₂, rfl, -, hpure⟩
      · rcases reaches_request_bind_iff.mp hstart with ⟨hnil, -⟩ | ⟨a, ex', rfl, hreturn⟩
        · exact hnil
        · have honly : Only (¬ Starts ·) (await (.startReturn (startRequest job now).externalRunId)) :=
            only_request.mpr fun h => h rfl
          exact absurd hreturn (hstarts.not_reaches honly)
      · exact absurd hpure (hstarts.not_reaches only_pure)
    · exact absurd hpure (hstarts.not_reaches only_pure)
  · exact absurd hrest (hstarts.not_reaches (only_recorded outcome))

theorem startCourse_of_startClaimed {before : List SchedulerExchange} (hstarts : Starts command)
    (hbefore : ∀ x ∈ before, ¬ Starts x.cmd)
    (h : Reaches (startClaimed supervisorId leaseDurationMs now job) ex command) :
    StartCourse supervisorId
      (before ++ ⟨.claimNext now supervisorId, .ok (some job)⟩ :: ex) command := by
  obtain ⟨found, ex₁, rfl, hfound⟩ := hstarts.behind (fun h => h rfl) h
  cases found with
  | none => exact absurd hfound (hstarts.not_reaches only_giveUpClaim)
  | some node =>
      have hbetween := not_starts_singleton (x := ⟨.selectNode job now, .ok (some node)⟩)
        fun h => h rfl
      rcases reaches_request_bind_iff.mp hfound with ⟨rfl, rfl⟩ | ⟨leased, ex₂, rfl, hleased⟩
      · exact .lease hbefore hbetween rfl
      · cases leased with
        | none => exact absurd hleased (hstarts.not_reaches only_giveUpClaim)
        | some lease =>
            rcases reaches_request_bind_iff.mp hleased with ⟨rfl, rfl⟩ |
              ⟨starting, ex₃, rfl, hissued⟩
            · exact .issue hbefore hbetween rfl
            · obtain ⟨rfl, rfl⟩ := launch_of_reaches hstarts hissued
              exact .launch hbefore hbetween rfl

theorem startCourse_of_tick (hstarts : Starts command)
    (h : Reaches (tick supervisorId leaseDurationMs) ex command) :
    StartCourse supervisorId ex command := by
  obtain ⟨now, ex₁, rfl, hread⟩ := hstarts.behind (fun h => h rfl) h
  obtain ⟨jobs, ex₂, rfl, hlisted⟩ := hstarts.behind (fun h => h rfl) hread
  cases jobs with
  | cons job jobs =>
      have honly : Only (¬ Starts ·) (forEach (reconcile now) (job :: jobs)) :=
        only_forEach (fun _ => only_reconcile) _
      rcases reaches_bind_iff.mp hlisted with hfirst | ⟨_, ex₃, ex₄, rfl, -, hrest⟩
      · exact absurd hfirst (hstarts.not_reaches honly)
      · exact absurd hrest (hstarts.not_reaches only_pure)
  | nil =>
      obtain ⟨count, ex₃, rfl, hextended⟩ := hstarts.behind (fun h => h rfl) hlisted
      have hbefore : ∀ x ∈ ([⟨.clock, .ok now⟩, ⟨.listForReconciliation now, .ok []⟩,
          ⟨.heartbeatOwned supervisorId now (now + leaseDurationMs), .ok count⟩] :
            List SchedulerExchange), ¬ Starts x.cmd := by
        intro x hx
        simp only [List.mem_cons, List.not_mem_nil, or_false] at hx
        rcases hx with rfl | rfl | rfl <;> exact fun h => h rfl
      rcases reaches_request_bind_iff.mp hextended with ⟨rfl, rfl⟩ | ⟨found, ex₄, rfl, hfound⟩
      · exact .claim hbefore
      · cases found with
        | none => exact absurd hfound (hstarts.not_reaches only_pure)
        | some job => exact startCourse_of_startClaimed hstarts hbefore hfound

end Course

end DevHarness.Scheduler
