import DevHarness.Scheduler.RowChanges
import DevHarness.Text.Decimals

/-!
# Attempts of a job

Every start that is issued has the attempt that the job is at, and a start is not issued
again before the attempt is over.  So the external runs that are launched for a job are
numbered, each with a number of its own, and there are no more of them than the job may have
attempts.  A run is launched once the job is over only when a tick ends the job in the start
window of another.
-/

namespace DevHarness.Scheduler

open JsText Interleave Program

/-! ## What the past says of a job -/

def attemptRunId (runId : JsString) (attempt : ℕ) : JsString :=
  js "cp-" ++ runId ++ js "-a" ++ js (toString attempt)

theorem externalRunIdFor_eq (job : SchedulerJob) :
    externalRunIdFor job = attemptRunId job.runId job.attempt := rfl

theorem attemptRunId_injective (runId : JsString) : Function.Injective (attemptRunId runId) := by
  intro k k' h
  apply js_toString_injective
  exact List.append_cancel_left h

def claimOf (pid : ℕ) : SchedulerEvent → Option SchedulerJob
  | .performed p (.claimNext _ _) (.ok found) => if p = pid then found else none
  | _ => none

def claimedBy (pid : ℕ) (past : List SchedulerEvent) : Option SchedulerJob :=
  past.findSome? (claimOf pid)

/-- A start that has been issued: by which tick, for which attempt and under which name. -/
structure Issue where
  pid : ℕ
  attempt : ℕ
  externalRunId : JsString

def issueOf (jobId : JsString) : SchedulerEvent → Option Issue
  | .performed pid (.markExternalStartIssued input) (.ok starting) =>
    if input.jobId = jobId then some
      { pid := pid
        attempt := starting.attempt
        externalRunId := input.externalRunId }
    else none
  | _ => none

def issuesOf (jobId : JsString) (past : List SchedulerEvent) : List Issue :=
  past.filterMap (issueOf jobId)

/-- An invocation of `gateway.start`, whether it throws or not. -/
structure Launch where
  pid : ℕ
  externalRunId : JsString

/-- The invocation for the job that an event records; a tick invokes `gateway.start` for the
job that it has claimed. -/
def launchOf (jobId : JsString) (past : List SchedulerEvent) : SchedulerEvent → Option Launch
  | .performed pid (.launch request) _ =>
    if (claimedBy pid past).any fun job => job.id = jobId then some
      { pid := pid
        externalRunId := request.externalRunId }
    else none
  | _ => none

/-- The invocations of `gateway.start` for a job, the latest first. -/
def launchesOf (jobId : JsString) : List SchedulerEvent → List Launch
  | [] => []
  | e :: past => (launchOf jobId past e).toList ++ launchesOf jobId past

section Past

variable {jobId : JsString} {pid : ℕ} {past : List SchedulerEvent} {e : SchedulerEvent}
  {job : SchedulerJob} {issue : Issue} {launch : Launch}

theorem claimOf_eq_some (h : claimOf pid e = some job) : ∃ now supervisorId,
    e = .performed pid (.claimNext now supervisorId) (.ok (some job)) := by
  unfold claimOf at h
  split at h
  · next p now supervisorId found =>
    by_cases hpid : p = pid
    · rw [if_pos hpid] at h
      exact ⟨now, supervisorId, by rw [hpid, h]⟩
    · rw [if_neg hpid] at h
      cases h
  · cases h

theorem issueOf_eq_some (h : issueOf jobId e = some issue) : ∃ input starting,
    e = .performed issue.pid (.markExternalStartIssued input) (.ok starting) ∧
      input.jobId = jobId ∧ issue.attempt = starting.attempt ∧
      issue.externalRunId = input.externalRunId := by
  unfold issueOf at h
  split at h
  · next p input starting =>
    by_cases hid : input.jobId = jobId
    · rw [if_pos hid] at h
      obtain rfl := Option.some.inj h
      exact ⟨input, starting, rfl, hid, rfl, rfl⟩
    · rw [if_neg hid] at h
      cases h
  · cases h

theorem launchOf_eq_some (h : launchOf jobId past e = some launch) : ∃ request resp job,
    e = .performed launch.pid (.launch request) resp ∧ claimedBy launch.pid past = some job ∧
      job.id = jobId ∧ launch.externalRunId = request.externalRunId := by
  unfold launchOf at h
  split at h
  · next p request resp =>
    by_cases hclaimed : (claimedBy p past).any (fun job => job.id = jobId) = true
    · rw [if_pos hclaimed] at h
      obtain rfl := Option.some.inj h
      obtain ⟨job, hjob, hid⟩ := (Option.any_eq_true _ _).mp hclaimed
      exact ⟨request, resp, job, rfl, hjob, of_decide_eq_true hid, rfl⟩
    · rw [if_neg hclaimed] at h
      cases h
  · cases h

theorem mem_of_claimedBy (h : claimedBy pid past = some job) : ∃ now supervisorId,
    .performed pid (.claimNext now supervisorId) (.ok (some job)) ∈ past := by
  obtain ⟨e, he, hclaim⟩ := List.exists_of_findSome?_eq_some h
  obtain ⟨now, supervisorId, rfl⟩ := claimOf_eq_some hclaim
  exact ⟨now, supervisorId, he⟩

theorem issuesOf_cons : issuesOf jobId (e :: past) =
    (issueOf jobId e).toList ++ issuesOf jobId past := by
  rw [issuesOf, List.filterMap_cons, issuesOf]
  cases issueOf jobId e <;> rfl

theorem issuesOf_cons_of_none (hnone : issueOf jobId e = none) :
    issuesOf jobId (e :: past) = issuesOf jobId past := by
  rw [issuesOf_cons, hnone]
  rfl

theorem launchesOf_cons_of_none (hnone : launchOf jobId past e = none) :
    launchesOf jobId (e :: past) = launchesOf jobId past := by
  rw [launchesOf, hnone]
  rfl

theorem mem_of_mem_launchesOf (h : launch ∈ launchesOf jobId past) : ∃ request resp,
    .performed launch.pid (.launch request) resp ∈ past := by
  induction past with
  | nil => cases h
  | cons e past ih =>
      rcases List.mem_append.mp h with hnew | hold
      · obtain ⟨request, resp, -, rfl, -⟩ := launchOf_eq_some (Option.mem_toList.mp hnew)
        exact ⟨request, resp, List.mem_cons_self⟩
      · obtain ⟨request, resp, hmem⟩ := ih hold
        exact ⟨request, resp, List.mem_cons_of_mem _ hmem⟩

end Past

/-! ## The attempts that have been issued -/

def SchedulerJobState.beforeStart (state : SchedulerJobState) : Prop :=
  state.waiting ∨ state = .claimed

structure JobAttempts (jobId : JsString) (past : List SchedulerEvent) (row : JobRow) : Prop where
  first : 1 ≤ row.attempt
  bounded : 1 ≤ row.maxAttempts → row.attempt ≤ row.maxAttempts
  /-- A claim shows the job as it was at some version. -/
  claimed : ∀ ⦃e pid job⦄, e ∈ past → claimOf pid e = some job → job.id = jobId →
    job.runId = row.runId ∧ job.version ≤ row.version ∧
      (row.version = job.version → row.attempt = job.attempt)
  descending : (issuesOf jobId past).Pairwise fun later earlier => earlier.attempt < later.attempt
  issued : ∀ issue ∈ issuesOf jobId past, 1 ≤ issue.attempt ∧ issue.attempt ≤ row.attempt ∧
    issue.externalRunId = attemptRunId row.runId issue.attempt
  ahead : row.state.beforeStart → ∀ issue ∈ issuesOf jobId past, issue.attempt < row.attempt

section Rows

variable {command : SchedulerCommand} {row row' : JobRow} {jobId : JsString}
  {past : List SchedulerEvent} {e : SchedulerEvent}

theorem not_beforeStart_mappedState (state : ExternalExecutionState) :
    ¬ (mappedState state).beforeStart := by
  obtain ⟨hwaiting, -, hclaimed⟩ := not_waiting_of_pastStart (pastStart_mappedState state)
  rintro (h | h)
  · exact hwaiting h
  · exact hclaimed h

theorem not_beforeStart_of_pastStart {state : SchedulerJobState} (h : state.pastStart = true) :
    ¬ state.beforeStart := by
  obtain ⟨hwaiting, -, hclaimed⟩ := not_waiting_of_pastStart h
  rintro (h | h)
  · exact hwaiting h
  · exact hclaimed h

theorem RowChange.attempt (h : RowChange command row row') :
    (row'.attempt = row.attempt ∧ (row'.state.beforeStart → row.state.beforeStart)) ∨
      (row'.attempt = row.attempt + 1 ∧ row.attempt < row.maxAttempts) := by
  cases h with
  | kept => exact .inl ⟨rfl, id⟩
  | flagged => exact .inl ⟨rfl, id⟩
  | extended => exact .inl ⟨rfl, id⟩
  | claimed hwaiting => exact .inl ⟨rfl, fun _ => .inl hwaiting⟩
  | unclaimed hclaimed => exact .inl ⟨rfl, fun _ => .inr hclaimed⟩
  | issued =>
      refine .inl ⟨rfl, fun h => ?_⟩
      rcases h with (h | h) | h <;> cases h
  | started => exact .inl ⟨rfl, fun h => absurd h (not_beforeStart_mappedState _)⟩
  | reconciled => exact .inl ⟨rfl, fun h => absurd h (not_beforeStart_mappedState _)⟩
  | stopped => exact .inl ⟨rfl, fun h => absurd h (not_beforeStart_of_pastStart rfl)⟩
  | timedOut => exact .inl ⟨rfl, fun h => absurd h (not_beforeStart_of_pastStart rfl)⟩
  | failed =>
      by_cases hmore : row.attempt < row.maxAttempts
      · refine .inr ⟨?_, hmore⟩
        simp only [JobRow.failStart, if_pos hmore]
      · simp only [JobRow.failStart, if_neg hmore]
        exact .inl ⟨trivial, fun h => absurd h (not_beforeStart_of_pastStart rfl)⟩

theorem JobAttempts.advance (h : JobAttempts jobId past row) (hchange : RowChange command row row') :
    JobAttempts jobId past row' := by
  have hscope := hchange.scope
  have hrun : row'.runId = row.runId := congrArg JobScope.runId hscope
  have hmax : row'.maxAttempts = row.maxAttempts := congrArg JobScope.maxAttempts hscope
  have hattempt : row.attempt ≤ row'.attempt := by
    rcases hchange.attempt with ⟨hsame, -⟩ | ⟨hnext, -⟩ <;> omega
  constructor
  · exact h.first.trans hattempt
  · intro hone
    rw [hmax] at hone ⊢
    have hbounded := h.bounded hone
    rcases hchange.attempt with ⟨hsame, -⟩ | ⟨hnext, hmore⟩ <;> omega
  · intro e pid job he hclaim hid
    obtain ⟨hjobRun, hle, hversion⟩ := h.claimed he hclaim hid
    obtain ⟨hmono, hkept⟩ := hchange.version
    refine ⟨hjobRun.trans hrun.symm, hle.trans hmono, fun hsame => ?_⟩
    have hold : row.version = job.version := by omega
    rw [hkept (by omega), hversion hold]
  · exact h.descending
  · intro issue hissue
    obtain ⟨hfirst, hle, hname⟩ := h.issued issue hissue
    exact ⟨hfirst, hle.trans hattempt, by rw [hname, hrun]⟩
  · intro hbefore issue hissue
    rcases hchange.attempt with ⟨hsame, hback⟩ | ⟨hnext, -⟩
    · rw [hsame]
      exact h.ahead (hback hbefore) issue hissue
    · have hle := (h.issued issue hissue).2.1
      omega

theorem JobAttempts.cons (h : JobAttempts jobId past row)
    (hclaim : ∀ pid job, claimOf pid e = some job → job.id = jobId → job.runId = row.runId ∧
      job.version ≤ row.version ∧ (row.version = job.version → row.attempt = job.attempt))
    (hissue : ∀ issue, issueOf jobId e = some issue → issue.attempt = row.attempt ∧
      issue.externalRunId = attemptRunId row.runId row.attempt ∧ ¬ row.state.beforeStart ∧
      ∀ older ∈ issuesOf jobId past, older.attempt < row.attempt) :
    JobAttempts jobId (e :: past) row := by
  have hclaimed : ∀ ⦃e' pid job⦄, e' ∈ e :: past → claimOf pid e' = some job →
      job.id = jobId → job.runId = row.runId ∧ job.version ≤ row.version ∧
        (row.version = job.version → row.attempt = job.attempt) := by
    intro e' pid job he' hjob hid
    rcases List.mem_cons.mp he' with rfl | hold
    · exact hclaim pid job hjob hid
    · exact h.claimed hold hjob hid
  cases hnew : issueOf jobId e with
  | none =>
      have hsame : issuesOf jobId (e :: past) = issuesOf jobId past := issuesOf_cons_of_none hnew
      constructor
      · exact h.first
      · exact h.bounded
      · exact hclaimed
      · rw [hsame]
        exact h.descending
      · rw [hsame]
        exact h.issued
      · rw [hsame]
        exact h.ahead
  | some issue =>
      obtain ⟨hattempt, hname, hafter, hahead⟩ := hissue issue hnew
      have hcons : issuesOf jobId (e :: past) = issue :: issuesOf jobId past := by
        rw [issuesOf_cons, hnew]
        rfl
      constructor
      · exact h.first
      · exact h.bounded
      · exact hclaimed
      · rw [hcons, List.pairwise_cons]
        refine ⟨fun older hmem => ?_, h.descending⟩
        rw [hattempt]
        exact hahead older hmem
      · rw [hcons]
        intro other hmem
        rcases List.mem_cons.mp hmem with rfl | hold
        · rw [hattempt]
          exact ⟨h.first, le_rfl, hname⟩
        · exact h.issued other hold
      · intro hbefore
        exact absurd hbefore hafter

end Rows

section Answers

variable {s t : SchedulerStore} {outside : Outside} {job starting : SchedulerJob} {now : ℕ}
  {supervisorId : JsString} {input : StartIssuedInput}

theorem exists_of_claimNext
    (hexec : execScheduler outside (.claimNext now supervisorId) s = (.ok (some job), t)) :
    ∃ row, s.jobs.get job.id = some row ∧ row.state.waiting ∧
      job = (row.claim now).returned ∧ t.jobs.get job.id = some (row.claim now) := by
  unfold execScheduler at hexec
  split at hexec
  · cases (Prod.mk.inj hexec).1
  · obtain ⟨hfound, rfl⟩ := Prod.mk.inj hexec
    have hclaim : s.claimNext now = (some job, (s.claimNext now).2) := by
      rw [← Except.ok.inj hfound]
    rcases SchedulerStore.claimNext_cases hclaim with ⟨hnone, -⟩ |
      ⟨row, hrow, hclaimable, hjob, hjobs, -⟩
    · cases hnone
    · obtain rfl := Option.some.inj hjob
      simp only [SchedulerStore.claimable, Bool.and_eq_true, decide_eq_true_eq, List.mem_cons,
        List.not_mem_nil, or_false] at hclaimable
      refine ⟨row, hrow, hclaimable.1.1.1.1, rfl, ?_⟩
      rw [hjobs]
      exact SchedulerStore.get_updateJob_self hrow

theorem exists_of_markExternalStartIssued
    (hexec : execScheduler outside (.markExternalStartIssued input) s = (.ok starting, t)) :
    ∃ row, s.jobs.get input.jobId = some row ∧ row.state = .claimed ∧
      row.version = input.expectedVersion ∧
      starting = (row.issue input.externalRunId input.lease input.now).returned ∧
      t.jobs.get input.jobId = some (row.issue input.externalRunId input.lease input.now) := by
  unfold execScheduler at hexec
  split at hexec
  · cases (Prod.mk.inj hexec).1
  · rcases SchedulerStore.markExternalStartIssued_cases hexec with ⟨⟨_, hthrown⟩, -⟩ |
      ⟨row, hrow, hclaimed, hversion, hstarting, hjobs, -⟩
    · cases hthrown
    · refine ⟨row, hrow, hclaimed, hversion, Except.ok.inj hstarting, ?_⟩
      rw [hjobs]
      exact SchedulerStore.get_updateJob_self hrow

end Answers

variable {cond : SchedulerCondition} {c : SchedulerConfig}

section Course

variable {pid : ℕ} {past : List SchedulerEvent} {supervisorId : JsString} {input : StartIssuedInput}
  {request : ExecutionStartRequest} {command : SchedulerCommand}

theorem startCourse_of_proc
    {next : Except Thrown command.Answer → SchedulerProgram SchedulerTickResult}
    (hrun : Run schedulerSystem cond .empty c) (hproc : c.procs pid = some (.call command next))
    (hstarts : Starts command) :
    ∃ supervisorId, StartCourse supervisorId (exchangesOf pid c.now.past) command := by
  obtain ⟨call, -, hpath⟩ := (tracked_of_run hrun).path pid _ hproc
  exact ⟨call.supervisorId, startCourse_of_tick hstarts ⟨next, hpath⟩⟩

theorem mem_past_of_exchanges {ex : List SchedulerExchange}
    {answer : Except Thrown command.Answer} (hex : exchangesOf pid past = ex)
    (hx : ⟨command, answer⟩ ∈ ex) : .performed pid command answer ∈ past := by
  rw [← hex] at hx
  exact mem_exchangesOf.mp hx

theorem claim_of_issue
    (hcourse : StartCourse supervisorId (exchangesOf pid past) (.markExternalStartIssued input)) :
    ∃ job now lease, input = startIssuedInput job lease now ∧
      .performed pid (.claimNext now supervisorId) (.ok (some job)) ∈ past := by
  generalize hex : exchangesOf pid past = ex at hcourse
  cases hcourse with
  | @issue before between now job leaseInput lease =>
      refine ⟨job, now, lease, rfl, mem_past_of_exchanges hex ?_⟩
      exact List.mem_append_right _ List.mem_cons_self

/-- What a tick launches is the run whose start it has issued, and it launches nothing
before. -/
structure LaunchCourse (pid : ℕ) (past : List SchedulerEvent) (request : ExecutionStartRequest)
    (job : SchedulerJob) : Prop where
  request_eq : ∃ now, request = startRequest job now
  issued : ∃ lease now starting, .performed pid (.markExternalStartIssued
    (startIssuedInput job lease now)) (.ok starting) ∈ past
  claims : ∀ ⦃now supervisorId other⦄,
    .performed pid (.claimNext now supervisorId) (.ok (some other)) ∈ past → other = job
  issues : ∀ ⦃input starting⦄,
    .performed pid (.markExternalStartIssued input) (.ok starting) ∈ past → input.jobId = job.id
  first : ∀ ⦃request' resp⦄, .performed pid (.launch request') resp ∉ past

theorem launchCourse_of_startCourse
    (hcourse : StartCourse supervisorId (exchangesOf pid past) (.launch request)) :
    ∃ job, LaunchCourse pid past request job := by
  generalize hex : exchangesOf pid past = ex at hcourse
  cases hcourse with
  | @launch before between now job starting leaseInput lease hbefore hbetween hrun =>
      have hcases : ∀ {cmd : SchedulerCommand} {answer : Except Thrown cmd.Answer},
          .performed pid cmd answer ∈ past → Starts cmd →
          (⟨cmd, answer⟩ : SchedulerExchange) ∈
            [⟨.claimNext now supervisorId, .ok (some job)⟩,
              ⟨.acquireLease leaseInput, .ok (some lease)⟩,
              ⟨.markExternalStartIssued (startIssuedInput job lease now), .ok starting⟩] := by
        intro cmd answer hmem hstarts
        have hx : (⟨cmd, answer⟩ : SchedulerExchange) ∈ exchangesOf pid past :=
          mem_exchangesOf.mpr hmem
        rw [hex] at hx
        simp only [List.mem_append, List.mem_cons, List.not_mem_nil, or_false] at hx ⊢
        rcases hx with h | h | h | h
        · exact absurd hstarts (hbefore _ h)
        · exact .inl h
        · exact absurd hstarts (hbetween _ h)
        · exact .inr h
      refine ⟨job, ⟨now, rfl⟩, ⟨lease, now, starting, mem_past_of_exchanges hex ?_⟩, ?_, ?_, ?_⟩
      · simp only [List.mem_append, List.mem_cons, or_true, true_or]
      · intro claimedAt supervisor other hmem
        have hx := hcases hmem nofun
        simp only [List.mem_cons, List.not_mem_nil, or_false] at hx
        rcases hx with h | h | h
        · injection h with hcmd hanswer
          injection hcmd with hnow hsupervisor
          subst hnow hsupervisor
          exact Option.some.inj (Except.ok.inj hanswer)
        · cases (Exchange.mk.inj h).1
        · cases (Exchange.mk.inj h).1
      · intro input starting' hmem
        have hx := hcases hmem nofun
        simp only [List.mem_cons, List.not_mem_nil, or_false] at hx
        rcases hx with h | h | h
        · cases (Exchange.mk.inj h).1
        · cases (Exchange.mk.inj h).1
        · injection (Exchange.mk.inj h).1 with hinput
          rw [hinput]
          rfl
      · intro request' resp hmem
        have hx := hcases hmem nofun
        simp only [List.mem_cons, List.not_mem_nil, or_false] at hx
        rcases hx with h | h | h <;> cases (Exchange.mk.inj h).1

end Course

/-! ## Every run keeps count -/

structure AttemptInv (m : SchedulerMoment) : Prop where
  known : ∀ ⦃jobId row⦄, m.state.jobs.get jobId = some row → JobAttempts jobId m.past row
  unknown : ∀ ⦃jobId⦄, m.state.jobs.get jobId = none → issuesOf jobId m.past = [] ∧
    ∀ ⦃e pid job⦄, e ∈ m.past → claimOf pid e = some job → job.id ≠ jobId

section Steps

variable {m : SchedulerMoment} {store : SchedulerStore} {pid : ℕ} {command : SchedulerCommand}
  {outside : Outside} {resp : Except Thrown command.Answer} {e : SchedulerEvent} {row : JobRow}
  {jobId : JsString} {scope : JobScope}

theorem claim_of_exec (hexec : execScheduler outside command m.state = (resp, store)) {p : ℕ}
    {job : SchedulerJob} (hclaim : claimOf p (.performed pid command resp) = some job) :
    ∃ old new, m.state.jobs.get job.id = some old ∧ store.jobs.get job.id = some new ∧
      job = new.returned := by
  obtain ⟨now, supervisorId, hevent⟩ := claimOf_eq_some hclaim
  injection hevent with hpid hcommand hresp
  subst hcommand
  obtain rfl := eq_of_heq hresp
  obtain ⟨old, hold, -, hjob, hnew⟩ := exists_of_claimNext hexec
  exact ⟨old, old.claim now, hold, hnew, hjob⟩

theorem issue_of_exec (hexec : execScheduler outside command m.state = (resp, store))
    {issue : Issue} (hissue : issueOf jobId (.performed pid command resp) = some issue) :
    ∃ input old, command = .markExternalStartIssued input ∧ input.jobId = jobId ∧
      m.state.jobs.get jobId = some old ∧ old.state = .claimed ∧
      old.version = input.expectedVersion ∧ issue.attempt = old.attempt ∧
      issue.externalRunId = input.externalRunId ∧
      store.jobs.get jobId = some (old.issue input.externalRunId input.lease input.now) := by
  obtain ⟨input, starting, hevent, rfl, hattempt, hname⟩ := issueOf_eq_some hissue
  injection hevent with hpid hcommand hresp
  subst hcommand
  obtain rfl := eq_of_heq hresp
  obtain ⟨old, hold, hclaimed, hversion, rfl, hnew⟩ := exists_of_markExternalStartIssued hexec
  exact ⟨input, old, rfl, rfl, hold, hclaimed, hversion, hattempt, hname, hnew⟩

theorem AttemptInv.perform (hinv : AttemptInv m)
    (hcourse : Starts command → ∃ supervisorId,
      StartCourse supervisorId (exchangesOf pid m.past) command)
    (hexec : execScheduler outside command m.state = (resp, store)) :
    AttemptInv (m.push (.performed pid command resp) store) := by
  have hscopes := scopesKept_of_exec hexec
  constructor
  · intro jobId row' hrow'
    rw [Moment.push_state] at hrow'
    obtain ⟨row, hrow, -⟩ := hscopes.back hrow'
    obtain ⟨_, hget, hchange⟩ := rowChange_of_exec hexec hrow
    obtain rfl := Option.some.inj (hrow'.symm.trans hget)
    have hattempts := hinv.known hrow
    apply (hattempts.advance hchange).cons
    · intro p job hclaim hid
      subst hid
      obtain ⟨old, new, -, hnew, hjob⟩ := claim_of_exec hexec hclaim
      obtain rfl := Option.some.inj (hrow'.symm.trans hnew)
      subst hjob
      exact ⟨rfl, le_rfl, fun _ => rfl⟩
    · intro issue hissue
      obtain ⟨input, old, rfl, rfl, hold, hclaimed, hversion, hattempt, hname, hnew⟩ :=
        issue_of_exec hexec hissue
      obtain rfl := Option.some.inj (hrow.symm.trans hold)
      obtain rfl := Option.some.inj (hrow'.symm.trans hnew)
      obtain ⟨supervisorId, hcourse⟩ := hcourse nofun
      obtain ⟨job, now, lease, rfl, hmem⟩ := claim_of_issue hcourse
      obtain ⟨hrun, -, hkept⟩ := hattempts.claimed hmem (if_pos rfl) rfl
      refine ⟨hattempt, ?_, ?_, fun older holder => ?_⟩
      · have hnumber : row.attempt = job.attempt := hkept hversion
        calc
          issue.externalRunId = externalRunIdFor job := hname
          _ = attemptRunId job.runId job.attempt := externalRunIdFor_eq job
          _ = attemptRunId row.runId row.attempt := by rw [hrun, hnumber]
      · rintro ((h | h) | h) <;> cases h
      · exact hattempts.ahead (.inr hclaimed) older holder
  · intro jobId hnone
    rw [Moment.push_state] at hnone
    have hbefore : m.state.jobs.get jobId = none := by
      by_contra hne
      obtain ⟨row, hrow⟩ := Option.ne_none_iff_exists'.mp hne
      obtain ⟨row', hrow', -⟩ := hscopes.evolve hrow
      rw [hnone] at hrow'
      cases hrow'
    obtain ⟨hissues, hclaims⟩ := hinv.unknown hbefore
    constructor
    · rw [Moment.push_past, issuesOf_cons_of_none, hissues]
      by_contra hne
      obtain ⟨issue, hissue⟩ := Option.ne_none_iff_exists'.mp hne
      obtain ⟨_, old, -, -, hold, -⟩ := issue_of_exec hexec hissue
      rw [hbefore] at hold
      cases hold
    · intro e p job he hclaim
      rcases List.mem_cons.mp he with rfl | hold
      · obtain ⟨old, -, hget, -⟩ := claim_of_exec hexec hclaim
        rintro rfl
        rw [hbefore] at hget
        cases hget
      · exact hclaims hold hclaim

theorem AttemptInv.frame (hinv : AttemptInv m) (hjobs : store.jobs = m.state.jobs)
    (hevent : ∀ pid command resp, e ≠ .performed pid command resp) :
    AttemptInv (m.push e store) := by
  have hclaim : ∀ pid job, claimOf pid e ≠ some job := by
    intro pid job h
    obtain ⟨_, _, rfl⟩ := claimOf_eq_some h
    exact hevent _ _ _ rfl
  have hissue : ∀ jobId issue, issueOf jobId e ≠ some issue := by
    intro jobId issue h
    obtain ⟨_, _, rfl, -⟩ := issueOf_eq_some h
    exact hevent _ _ _ rfl
  constructor
  · intro jobId row hrow
    rw [Moment.push_state, hjobs] at hrow
    apply (hinv.known hrow).cons
    · intro pid job h
      exact absurd h (hclaim pid job)
    · intro issue h
      exact absurd h (hissue jobId issue)
  · intro jobId hnone
    rw [Moment.push_state, hjobs] at hnone
    obtain ⟨hissues, hclaims⟩ := hinv.unknown hnone
    constructor
    · rw [Moment.push_past, issuesOf_cons_of_none, hissues]
      exact Option.eq_none_iff_forall_ne_some.mpr (hissue jobId)
    · intro e' pid job he h
      rcases List.mem_cons.mp he with rfl | hold
      · exact absurd h (hclaim pid job)
      · exact hclaims hold h

theorem attempt_of_admitJob {s t : SchedulerStore} (hadmitted : s.admitJob scope = some t)
    (hrow : t.jobs.get scope.id = some row) : row.attempt = 1 := by
  have hfresh := (get_admitJob hadmitted).1
  unfold SchedulerStore.admitJob at hadmitted
  split at hadmitted
  · cases hadmitted
  · obtain rfl := Option.some.inj hadmitted
    rw [Sql.Table.get_insertNew, if_pos ⟨rfl, hfresh⟩] at hrow
    obtain rfl := Option.some.inj hrow
    rfl

theorem AttemptInv.admitJob (hinv : AttemptInv m)
    (hadmitted : m.state.admitJob scope = some store) :
    AttemptInv { state := store, past := m.past } := by
  obtain ⟨hfresh, new, hscope, -, -, hget⟩ := get_admitJob hadmitted
  constructor
  · intro jobId row hrow
    by_cases hid : jobId = scope.id
    · subst hid
      have hone := attempt_of_admitJob hadmitted hrow
      obtain ⟨hissues, hclaims⟩ := hinv.unknown hfresh
      constructor
      · rw [hone]
      · intro hmax
        rw [hone]
        exact hmax
      · intro e pid job he hclaim hid
        exact absurd hid (hclaims he hclaim)
      · rw [hissues]
        exact List.Pairwise.nil
      · rw [hissues]
        exact fun issue hissue => absurd hissue List.not_mem_nil
      · rw [hissues]
        exact fun _ issue hissue => absurd hissue List.not_mem_nil
    · rw [hget, if_neg hid] at hrow
      exact hinv.known hrow
  · intro jobId hnone
    by_cases hid : jobId = scope.id
    · rw [hget, if_pos hid] at hnone
      cases hnone
    · rw [hget, if_neg hid] at hnone
      exact hinv.unknown hnone

theorem AttemptInv.step {c' : SchedulerConfig} (hrun : Run schedulerSystem cond .empty c)
    (hinv : AttemptInv c.now) (hstep : Step schedulerSystem cond c c') : AttemptInv c'.now := by
  cases hstep with
  | perform pid command next choice resp state hproc hcond hexec =>
      exact hinv.perform (startCourse_of_proc hrun hproc) (Option.some.inj hexec)
  | change change state hcond hchange =>
      have hevent : ∀ pid command resp,
          (.changed change : SchedulerEvent) ≠ .performed pid command resp :=
        fun _ _ _ h => by cases h
      cases change with
      | admitJob scope =>
          have hadmitted : c.now.state.admitJob scope = some state := hchange
          exact (hinv.admitJob hadmitted).frame rfl hevent
      | registerNode node =>
          obtain rfl := Option.some.inj hchange
          exact hinv.frame rfl hevent
      | setControl control =>
          obtain rfl := Option.some.inj hchange
          exact hinv.frame rfl hevent
  | spawn call hcond => exact hinv.frame rfl fun _ _ _ h => by cases h
  | finish pid result hproc hcond => exact hinv.frame rfl fun _ _ _ h => by cases h
  | crash pid p hproc hcond => exact hinv.frame rfl fun _ _ _ h => by cases h

end Steps

theorem attemptInv_of_run (hrun : Run schedulerSystem cond .empty c) : AttemptInv c.now := by
  induction hrun with
  | refl =>
      constructor
      · intro jobId row hrow
        cases hrow
      · intro jobId _
        exact ⟨rfl, fun e pid job he => absurd he List.not_mem_nil⟩
  | tail hrun hstep ih => exact ih.step hrun hstep

/-! ## The runs that are launched -/

/-- Every invocation is of a start that its tick has issued, and a tick invokes
`gateway.start` once. -/
structure LaunchInv (past : List SchedulerEvent) : Prop where
  issued : ∀ ⦃jobId launch⦄, launch ∈ launchesOf jobId past → ∃ issue ∈ issuesOf jobId past,
    issue.pid = launch.pid ∧ issue.externalRunId = launch.externalRunId
  once : ∀ jobId, ((launchesOf jobId past).map Launch.pid).Nodup

section Launches

variable {cond : SchedulerCondition} {c c' : SchedulerConfig} {jobId : JsString}
  {launch : Launch} {e : SchedulerEvent}

section

variable (hrun : Run schedulerSystem cond .empty c)

include hrun

theorem launchCourse_of_step (hstep : Step schedulerSystem cond c c')
    (hpast : c'.now.past = e :: c.now.past) (hlaunch : launchOf jobId c.now.past e = some launch) :
    ∃ request resp job,
    e = .performed launch.pid (.launch request) resp ∧ job.id = jobId ∧
      launch.externalRunId = externalRunIdFor job ∧
      LaunchCourse launch.pid c.now.past request job := by
  obtain ⟨request, resp, claimed, rfl, hclaimed, hid, hname⟩ := launchOf_eq_some hlaunch
  obtain ⟨-, ⟨next, hproc⟩, -⟩ := hstep.exec_of_performed hpast
  obtain ⟨supervisorId, hcourse⟩ := startCourse_of_proc hrun hproc nofun
  obtain ⟨job, hcourse⟩ := launchCourse_of_startCourse hcourse
  obtain ⟨now, supervisorId, hmem⟩ := mem_of_claimedBy hclaimed
  obtain rfl := hcourse.claims hmem
  obtain ⟨now, hrequest⟩ := hcourse.request_eq
  refine ⟨request, resp, claimed, rfl, hid, ?_, hcourse⟩
  rw [hname, hrequest]
  rfl

theorem LaunchInv.step (hinv : LaunchInv c.now.past) (hstep : Step schedulerSystem cond c c') :
    LaunchInv c'.now.past := by
  obtain ⟨e, hpast⟩ := hstep.past
  rw [hpast]
  have hmore : ∀ {jobId issue}, issue ∈ issuesOf jobId c.now.past →
      issue ∈ issuesOf jobId (e :: c.now.past) := by
    intro jobId issue hissue
    rw [issuesOf_cons]
    exact List.mem_append_right _ hissue
  constructor
  · intro jobId launch hmem
    rcases List.mem_append.mp hmem with hnew | hold
    · obtain ⟨request, resp, job, -, rfl, hname, hcourse⟩ :=
        launchCourse_of_step hrun hstep hpast (Option.mem_toList.mp hnew)
      obtain ⟨lease, now, starting, hissued⟩ := hcourse.issued
      refine ⟨⟨launch.pid, starting.attempt, externalRunIdFor job⟩, hmore ?_, rfl, hname.symm⟩
      exact List.mem_filterMap.mpr ⟨_, hissued, if_pos rfl⟩
    · obtain ⟨issue, hissue, hsame⟩ := hinv.issued hold
      exact ⟨issue, hmore hissue, hsame⟩
  · intro jobId
    cases hnew : launchOf jobId c.now.past e with
    | none =>
        rw [launchesOf_cons_of_none hnew]
        exact hinv.once jobId
    | some launch =>
        obtain ⟨request, resp, job, -, -, -, hcourse⟩ :=
          launchCourse_of_step hrun hstep hpast hnew
        have hcons : launchesOf jobId (e :: c.now.past) =
            launch :: launchesOf jobId c.now.past := by
          rw [launchesOf, hnew]
          rfl
        rw [hcons, List.map_cons, List.nodup_cons]
        refine ⟨fun hmem => ?_, hinv.once jobId⟩
        obtain ⟨other, hother, hpid⟩ := List.mem_map.mp hmem
        obtain ⟨request', resp', hearlier⟩ := mem_of_mem_launchesOf hother
        rw [hpid] at hearlier
        exact hcourse.first hearlier

theorem launchInv_of_run : LaunchInv c.now.past := by
  induction hrun with
  | refl =>
      constructor
      · intro jobId launch hmem
        cases hmem
      · intro jobId
        exact List.nodup_nil
  | tail hrun hstep ih => exact ih.step hrun hstep

theorem exists_attempt_of_launch (hlaunch : launch ∈ launchesOf jobId c.now.past) : ∃ row issue,
    c.now.state.jobs.get jobId = some row ∧ issue ∈ issuesOf jobId c.now.past ∧
      issue.pid = launch.pid ∧ 1 ≤ issue.attempt ∧ issue.attempt ≤ row.attempt ∧
      launch.externalRunId = attemptRunId row.runId issue.attempt := by
  obtain ⟨issue, hissue, hpid, hname⟩ := (launchInv_of_run hrun).issued hlaunch
  have hinv := attemptInv_of_run hrun
  cases hrow : c.now.state.jobs.get jobId with
  | none =>
      rw [(hinv.unknown hrow).1] at hissue
      cases hissue
  | some row =>
      obtain ⟨hfirst, hle, hissued⟩ := (hinv.known hrow).issued issue hissue
      exact ⟨row, issue, rfl, hissue, hpid, hfirst, hle, hname.symm.trans hissued⟩

theorem nodup_launches (jobId : JsString) :
    ((launchesOf jobId c.now.past).map Launch.externalRunId).Nodup := by
  have honce := (launchInv_of_run hrun).once jobId
  apply List.Nodup.map_on ?_ honce.of_map
  intro launch hlaunch launch' hlaunch' hname
  obtain ⟨row, issue, hrow, hissue, hpid, -, -, hnumber⟩ := exists_attempt_of_launch hrun hlaunch
  obtain ⟨row', issue', hrow', hissue', hpid', -, -, hnumber'⟩ :=
    exists_attempt_of_launch hrun hlaunch'
  obtain rfl := Option.some.inj (hrow.symm.trans hrow')
  have hattempt : issue.attempt = issue'.attempt :=
    attemptRunId_injective row.runId (hnumber.symm.trans (hname.trans hnumber'))
  have hdescending := ((attemptInv_of_run hrun).known hrow).descending
  have hattempts : ((issuesOf jobId c.now.past).map Issue.attempt).Nodup := by
    rw [List.Nodup, List.pairwise_map]
    exact hdescending.imp fun h => h.ne'
  obtain rfl := List.inj_on_of_nodup_map hattempts hissue hissue' hattempt
  exact List.inj_on_of_nodup_map honce hlaunch hlaunch' (hpid.symm.trans hpid')

theorem length_launches_le {row : JobRow} (hrow : c.now.state.jobs.get jobId = some row) :
    (launchesOf jobId c.now.past).length ≤ row.attempt := by
  have hsub : (launchesOf jobId c.now.past).map Launch.externalRunId ⊆
      (List.range row.attempt).map fun k => attemptRunId row.runId (k + 1) := by
    intro name hname
    obtain ⟨launch, hlaunch, rfl⟩ := List.mem_map.mp hname
    obtain ⟨row', issue, hrow', -, -, hfirst, hle, hnumber⟩ :=
      exists_attempt_of_launch hrun hlaunch
    obtain rfl := Option.some.inj (hrow.symm.trans hrow')
    refine List.mem_map.mpr ⟨issue.attempt - 1, List.mem_range.mpr (by omega), ?_⟩
    rw [hnumber, Nat.sub_add_cancel hfirst]
  have hle := List.Nodup.length_le_of_subset (nodup_launches hrun jobId) hsub
  simpa using hle

end

end Launches

/-! ## Jobs that are over -/

/-- The tick has issued the start of the job, still runs, and has not invoked
`gateway.start`. -/
def AboutToLaunch (pid : ℕ) (jobId : JsString) (past : List SchedulerEvent) : Prop :=
  InStart pid jobId past ∧ ∀ request resp, .performed pid (.launch request) resp ∉ past

def EndsJob (jobId : JsString) : SchedulerCommand → Prop
  | .reconcileExternal id external _ =>
    id = jobId ∧ (mappedState (external.getD SchedulerStore.unavailable).state).terminal = true
  | .markStopped id _ => id = jobId
  | .markTimedOut id _ => id = jobId
  | _ => False

/-- No tick ends a job that another tick is about to launch. -/
def LaunchesUndisturbed (m : SchedulerMoment) :
    Attempt SchedulerCommand TickCall SchedulerChange → Prop
  | .perform _ command =>
    ∀ jobId, EndsJob jobId command → ∀ p, ¬ AboutToLaunch p jobId m.past
  | _ => True

/-- The starts of a job are bounded, each has its own number, and a job that is over is not
started again. -/
structure StartsBounded (cond : SchedulerCondition) : Prop where
  bounded : ∀ {c jobId row}, Run schedulerSystem cond .empty c →
    c.now.state.jobs.get jobId = some row → 1 ≤ row.maxAttempts →
    (launchesOf jobId c.now.past).length ≤ row.maxAttempts
  distinct : ∀ {c}, Run schedulerSystem cond .empty c → ∀ jobId,
    ((launchesOf jobId c.now.past).map Launch.externalRunId).Nodup
  numbered : ∀ {c jobId launch}, Run schedulerSystem cond .empty c →
    launch ∈ launchesOf jobId c.now.past → ∃ row k, c.now.state.jobs.get jobId = some row ∧
      launch.externalRunId = attemptRunId row.runId k ∧ 1 ≤ k ∧
      (1 ≤ row.maxAttempts → k ≤ row.maxAttempts)
  ended : ∀ {c c' jobId}, Run schedulerSystem cond .empty c →
    Relation.ReflTransGen (Step schedulerSystem cond) c c' → JobOver jobId c.now.state →
    launchesOf jobId c'.now.past = launchesOf jobId c.now.past

section Over

variable {command : SchedulerCommand} {row row' : JobRow} {s t : SchedulerStore} {jobId : JsString}
  {cond : SchedulerCondition} {c c' : SchedulerConfig} {resp : Except Thrown command.Answer}
  {outside : Outside} {e : SchedulerEvent} {store : SchedulerStore} {m : SchedulerMoment}

theorem RowChange.state_eq (h : RowChange command row row') (hover : row.state.terminal = true) :
    row'.state = row.state := by
  have hlive : ∀ {state : SchedulerJobState}, row.state = state → state.terminal = false →
      row'.state = row.state := by
    intro state hstate hnot
    rw [hstate, hnot] at hover
    cases hover
  cases h with
  | kept => rfl
  | flagged => rfl
  | extended => rfl
  | claimed hwaiting =>
      rcases hwaiting with hstate | hstate
      · exact hlive hstate rfl
      · exact hlive hstate rfl
  | unclaimed hclaimed => exact hlive hclaimed rfl
  | issued _ hclaimed _ => exact hlive hclaimed rfl
  | failed _ hstarting => exact hlive hstarting rfl
  | started hnot => exact hlive rfl hnot
  | reconciled hnot => exact hlive rfl hnot
  | stopped hnot => exact hlive rfl hnot
  | timedOut hnot => exact hlive rfl hnot

theorem RowChange.ends (h : RowChange command row row') (hlive : row.state.terminal = false)
    (hover : row'.state.terminal = true) : EndsJob row.id command ∨
      (∃ external now, command = .markStarted row.id external now) ∨
      ∃ input, command = .handleStartFailure input ∧ input.jobId = row.id := by
  have hsame : ∀ {P : Prop}, row'.state = row.state → P := by
    intro P hstate
    rw [hstate, hlive] at hover
    cases hover
  cases h with
  | kept => exact hsame rfl
  | flagged => exact hsame rfl
  | extended => exact hsame rfl
  | claimed => cases hover
  | unclaimed => cases hover
  | issued => cases hover
  | started => exact .inr (.inl ⟨_, _, rfl⟩)
  | reconciled => exact .inl ⟨rfl, hover⟩
  | failed hid => exact .inr (.inr ⟨_, rfl, hid.symm⟩)
  | stopped => exact .inl rfl
  | timedOut => exact .inl rfl

theorem JobOver.exec (hover : JobOver jobId s)
    (hexec : execScheduler outside command s = (resp, t)) : JobOver jobId t := by
  obtain ⟨row, hrow, hterminal⟩ := hover
  obtain ⟨row', hrow', hchange⟩ := rowChange_of_exec hexec hrow
  refine ⟨row', hrow', ?_⟩
  rw [hchange.state_eq hterminal, hterminal]

theorem get_of_change {change : SchedulerChange} (hchange : change.apply s = some t)
    (hrow : s.jobs.get jobId = some row) : t.jobs.get jobId = some row := by
  cases change with
  | admitJob scope =>
      obtain ⟨hfresh, new, -, -, -, hget⟩ := get_admitJob hchange
      have hid : jobId ≠ scope.id := by
        rintro rfl
        rw [hfresh] at hrow
        cases hrow
      rw [hget, if_neg hid, hrow]
  | registerNode node =>
      obtain rfl := Option.some.inj hchange
      exact hrow
  | setControl control =>
      obtain rfl := Option.some.inj hchange
      exact hrow

theorem JobOver.steps (hover : JobOver jobId c.now.state)
    (hsteps : Relation.ReflTransGen (Step schedulerSystem cond) c c') :
    JobOver jobId c'.now.state := by
  apply steps_invariant (I := JobOver jobId) hsteps hover
  · intro outside command resp s t hexec hover
    exact hover.exec (Option.some.inj hexec)
  · intro m change t _ hchange hover
    obtain ⟨row, hrow, hterminal⟩ := hover
    exact ⟨row, get_of_change hchange hrow, hterminal⟩

theorem aboutToLaunch_cons {p : ℕ} {past : List SchedulerEvent}
    (h : AboutToLaunch p jobId (e :: past)) : AboutToLaunch p jobId past ∨
      ∃ input starting, input.jobId = jobId ∧
        e = .performed p (.markExternalStartIssued input) (.ok starting) := by
  obtain ⟨hin, hnone⟩ := h
  rcases inStart_cons hin with hbefore | hissued
  · exact .inl ⟨hbefore, fun request resp hmem => hnone _ _ (List.mem_cons_of_mem _ hmem)⟩
  · exact .inr hissued

/-- A job that is about to be launched is not over. -/
def LaunchesLive (m : SchedulerMoment) : Prop :=
  ∀ ⦃p jobId⦄, AboutToLaunch p jobId m.past → ¬ JobOver jobId m.state

theorem LaunchesLive.perform {q : ℕ} (hlive : LaunchesLive m) (hinv : SchedulerInv m)
    (hpromise : SchedulerPromise q m command) (hcond : LaunchesUndisturbed m (.perform q command))
    (hexec : execScheduler outside command m.state = (resp, store)) :
    LaunchesLive (m.push (.performed q command resp) store) := by
  intro p jobId habout
  rintro ⟨row', hrow', hover⟩
  rw [Moment.push_state] at hrow'
  rcases aboutToLaunch_cons habout with hbefore | ⟨input, starting, rfl, hevent⟩
  · obtain ⟨row, hrow, -⟩ := (scopesKept_of_exec hexec).back hrow'
    obtain rfl := SchedulerStore.id_of_get hrow
    obtain ⟨_, hget, hchange⟩ := rowChange_of_exec hexec hrow
    obtain rfl := Option.some.inj (hrow'.symm.trans hget)
    have hnot : row.state.terminal = false := by
      rw [← Bool.not_eq_true]
      exact fun hterminal => hlive hbefore ⟨row, hrow, hterminal⟩
    rcases hchange.ends hnot hover with hends | ⟨external, now, rfl⟩ | ⟨input, rfl, hid⟩
    · exact hcond row.id hends p hbefore
    · obtain ⟨externalRunId, hreturned⟩ := hpromise
      exact hbefore.1.not_returned hinv hreturned
    · obtain ⟨externalRunId, hreturned⟩ := hpromise
      rw [hid] at hreturned
      exact hbefore.1.not_returned hinv hreturned
  · injection hevent with _ hcommand hresp
    subst hcommand
    obtain rfl := eq_of_heq hresp
    obtain ⟨row, -, -, -, -, hnew⟩ := exists_of_markExternalStartIssued hexec
    obtain rfl := Option.some.inj (hrow'.symm.trans hnew)
    cases hover

theorem LaunchesLive.frame (hlive : LaunchesLive m)
    (hevent : ∀ pid command resp, e ≠ .performed pid command resp)
    (hover : ∀ jobId, JobOver jobId store → (∃ row, m.state.jobs.get jobId = some row) → JobOver
      jobId m.state) (hinv : SchedulerInv m) : LaunchesLive (m.push e store) := by
  intro p jobId habout hstore
  rcases aboutToLaunch_cons habout with hbefore | ⟨_, _, _, rfl⟩
  · obtain ⟨externalRunId, hissued⟩ := hbefore.1
    have hholds : (standing p jobId m.past).holds = true := by rw [hissued]; rfl
    obtain ⟨row, hrow, -⟩ := (hinv.job jobId).holder hholds
    exact hlive hbefore (hover jobId hstore ⟨row, hrow⟩)
  · exact hevent _ _ _ rfl

theorem LaunchesLive.step (hrun : Run schedulerSystem LaunchesUndisturbed .empty c)
    (hlive : LaunchesLive c.now) (hstep : Step schedulerSystem LaunchesUndisturbed c c') :
    LaunchesLive c'.now := by
  have hsound := sound_of_run hrun
  cases hstep with
  | perform pid command next choice resp state hproc hcond hexec =>
      have hself := hsound.verified hproc c.now (Outline.Later.refl hsound.inv) trivial
      exact hlive.perform hsound.inv hself.1 hcond (Option.some.inj hexec)
  | change change state hcond hchange =>
      refine hlive.frame (fun _ _ _ h => by cases h) ?_ hsound.inv
      rintro jobId ⟨row', hrow', hover⟩ ⟨row, hrow⟩
      obtain rfl := Option.some.inj ((get_of_change hchange hrow).symm.trans hrow')
      exact ⟨row, hrow, hover⟩
  | spawn call hcond => exact hlive.frame (fun _ _ _ h => by cases h) (fun _ h _ => h) hsound.inv
  | finish pid result hproc hcond =>
      exact hlive.frame (fun _ _ _ h => by cases h) (fun _ h _ => h) hsound.inv
  | crash pid p hproc hcond =>
      exact hlive.frame (fun _ _ _ h => by cases h) (fun _ h _ => h) hsound.inv

theorem launchesLive_of_run (hrun : Run schedulerSystem LaunchesUndisturbed .empty c) :
    LaunchesLive c.now := by
  induction hrun with
  | refl =>
      rintro p jobId ⟨⟨_, hissued⟩, -⟩
      cases hissued
  | tail hrun hstep ih => exact ih.step hrun hstep

theorem aboutToLaunch_of_step {launch : Launch} (hrun : Run schedulerSystem cond .empty c)
    (hstep : Step schedulerSystem cond c c') (hpast : c'.now.past = e :: c.now.past)
    (hlaunch : launchOf jobId c.now.past e = some launch) :
    AboutToLaunch launch.pid jobId c.now.past := by
  obtain ⟨request, resp, job, rfl, rfl, -, hcourse⟩ := launchCourse_of_step hrun hstep hpast hlaunch
  refine ⟨?_, hcourse.first⟩
  obtain ⟨jobId, hissued⟩ := Outline.promise_of_performed (sound_of_run hrun)
    (hstep.mono fun _ _ _ => trivial) hpast
  have hin : InStart launch.pid jobId c.now.past := ⟨_, hissued⟩
  obtain ⟨input, starting, rfl, hmem⟩ := hin.exists_mem
  rw [hcourse.issues hmem] at hin
  exact hin

/-- The starts are bounded in the runs in which no step ends a job that is about to be
launched. -/
theorem startsBounded_of_launchesUndisturbed
    (hundisturbed : ∀ m attempt, cond m attempt → LaunchesUndisturbed m attempt) :
    StartsBounded cond := by
  constructor
  · intro c jobId row hrun hrow hmax
    have hbounded := ((attemptInv_of_run hrun).known hrow).bounded hmax
    exact (length_launches_le hrun hrow).trans hbounded
  · intro c hrun jobId
    exact nodup_launches hrun jobId
  · intro c jobId launch hrun hlaunch
    obtain ⟨row, issue, hrow, -, -, hfirst, hle, hnumber⟩ := exists_attempt_of_launch hrun hlaunch
    refine ⟨row, issue.attempt, hrow, hnumber, hfirst, fun hmax => ?_⟩
    exact hle.trans (((attemptInv_of_run hrun).known hrow).bounded hmax)
  · intro c c' jobId hrun hsteps hover
    induction hsteps with
    | refl => rfl
    | @tail d d' hsteps hstep ih =>
        have hrun' : Run schedulerSystem cond .empty d := Relation.ReflTransGen.trans hrun hsteps
        obtain ⟨e, hpast⟩ := hstep.past
        rw [hpast, launchesOf_cons_of_none, ih]
        by_contra hne
        obtain ⟨launch, hlaunch⟩ := Option.ne_none_iff_exists'.mp hne
        have habout := aboutToLaunch_of_step hrun' hstep hpast hlaunch
        exact launchesLive_of_run (hrun'.mono hundisturbed) habout (hover.steps hsteps)

theorem startsBounded_launchesUndisturbed : StartsBounded LaunchesUndisturbed :=
  startsBounded_of_launchesUndisturbed fun _ _ hundisturbed => hundisturbed

/-- A job that has been blocked in the start window of a tick is launched by that tick. -/
theorem not_startsBounded : ¬ StartsBounded fun _ _ => True := by
  intro hclaim
  have hview : (execute schedulerSystem (Config.initial .empty)
      (underminedSchedule ++ [.perform 1 sampleOutside])).map
      (fun c => (stateOf c.now.state (js "job"), (launchesOf (js "job") c.now.past).length,
        (step schedulerSystem c (.perform 0 sampleOutside)).map fun c' =>
          (launchesOf (js "job") c'.now.past).length)) = some (some .blocked, 0, some 1) := by
    decide +kernel
  obtain ⟨c, hc, hview⟩ := Option.map_eq_some_iff.mp hview
  simp only [Prod.mk.injEq] at hview
  obtain ⟨hblocked, hnone, hafter⟩ := hview
  obtain ⟨c', hc', hone⟩ := Option.map_eq_some_iff.mp hafter
  have hover : JobOver (js "job") c.now.state := jobOver_iff.mpr ⟨.blocked, hblocked, rfl⟩
  have hsame := hclaim.ended (reached_of_execute hc) (.single (step_sound hc')) hover
  rw [hsame, hnone] at hone
  cases hone

end Over

end DevHarness.Scheduler
