import DevHarness.Scheduler.Entries

/-!
# The start window

Between the commit of `markExternalStartIssued` and the end of the start call a
job is `starting` and flagged, so that it is picked up should its tick die.  It
is picked up while the tick is alive as well: another tick that lists the job in
this window finds that the gateway does not know the external run, blocks the
job and releases its lease, and the run is launched all the same.

No such thing happens in the runs in which no tick lists jobs during a start,
and no tick starts a job that another one is about to reconcile.
-/

namespace DevHarness.Scheduler

open JsText Interleave

/-- The tick has issued the start of the job, and its start call is not over. -/
def InStart (pid : ℕ) (jobId : JsString) (past : List SchedulerEvent) : Prop :=
  ∃ externalRunId, standing pid jobId past = .issued externalRunId

/-- The job is in a terminal state. -/
def JobOver (jobId : JsString) (store : SchedulerStore) : Prop :=
  ∃ row, store.jobs.get jobId = some row ∧ row.state.terminal = true

abbrev SchedulerCondition :=
  SchedulerMoment → Attempt SchedulerCommand TickCall SchedulerChange → Prop

/-- At `c` no start is undermined. -/
structure StartSafe (c : SchedulerConfig) : Prop where
  /-- While a tick starts a job, no other tick ends the job because the external
  run is unknown. -/
  reconciled : ∀ {c' p q jobId now resp}, Step schedulerSystem (fun _ _ => True) c c' →
    InStart p jobId c.now.past → q ≠ p →
    c'.now.past = .performed q (.reconcileExternal jobId none now) resp :: c.now.past →
    ¬ JobOver jobId c.now.state → ¬ JobOver jobId c'.now.state
  /-- An external run is launched for a job that is not over. -/
  launched : ∀ {c' pid request resp}, Step schedulerSystem (fun _ _ => True) c c' →
    c'.now.past = .performed pid (.launch request) resp :: c.now.past →
    ∃ jobId row, InStart pid jobId c.now.past ∧ c.now.state.jobs.get jobId = some row ∧
      row.externalRunId = some request.externalRunId ∧ row.state.terminal = false

/-- No tick lists jobs while another is starting one, and no tick issues the
start of a job that another, still running, has listed. -/
def StartsApart (m : SchedulerMoment) : Attempt SchedulerCommand TickCall SchedulerChange → Prop
  | .perform _ (.listForReconciliation _) => ∀ p jobId, ¬ InStart p jobId m.past
  | .perform _ (.markExternalStartIssued input) =>
      ∀ q, standing q input.jobId m.past ≠ .listed
  | _ => True

section Window

variable {pid : ℕ} {jobId : JsString} {past : List SchedulerEvent} {e : SchedulerEvent}

theorem inStart_cons (h : InStart pid jobId (e :: past)) :
    InStart pid jobId past ∨ ∃ input starting, input.jobId = jobId ∧
      e = .performed pid (.markExternalStartIssued input) (.ok starting) := by
  obtain ⟨externalRunId, h⟩ := h
  by_cases hpid : e.pid? = some pid
  · rw [standing_cons_self hpid] at h
    by_cases htakes : Takes jobId e
    · unfold Takes at htakes
      split at htakes
      · simp only [Standing.after, if_pos htakes] at h
        cases h
      · next p input starting =>
        obtain rfl := Option.some.inj hpid
        exact .inr ⟨input, starting, htakes, rfl⟩
      · exact htakes.elim
    · have hfades : (standing pid jobId past).Fades
          ((standing pid jobId past).after jobId e) := Standing.fades_after htakes
      rcases hfades with hsame | hnone | ⟨_, hleased⟩ | hstarted
      · exact .inl ⟨externalRunId, hsame.symm.trans h⟩
      · rw [h] at hnone
        cases hnone
      · rw [h] at hleased
        cases hleased
      · rw [h] at hstarted
        cases hold : standing pid jobId past <;> rw [hold] at hstarted <;> cases hstarted
  · rw [standing_cons_of_ne hpid] at h
    exact .inl ⟨externalRunId, h⟩

theorem listed_cons (h : standing pid jobId (e :: past) = .listed) :
    standing pid jobId past = .listed ∨ ∃ now jobs, jobs ≠ [] ∧
      e = .performed pid (.listForReconciliation now) (.ok jobs) := by
  by_cases hpid : e.pid? = some pid
  · rw [standing_cons_self hpid] at h
    unfold Standing.after at h
    split at h
    case h_1 p now jobs =>
      obtain rfl := Option.some.inj hpid
      cases jobs with
      | nil => exact .inl h
      | cons job jobs => exact .inr ⟨now, job :: jobs, List.cons_ne_nil _ _, rfl⟩
    case h_7 =>
      cases hold : standing pid jobId past <;> rw [hold] at h <;> first | exact .inl rfl | cases h
    case h_8 =>
      cases hold : standing pid jobId past <;> rw [hold] at h <;> first | exact .inl rfl | cases h
    case h_11 => cases h
    case h_12 => cases h
    case h_13 => exact .inl h
    all_goals
      split at h
      · cases h
      · exact .inl h
  · rw [standing_cons_of_ne hpid] at h
    exact .inl h

theorem InStart.exists_mem (h : InStart pid jobId past) : ∃ input starting,
    input.jobId = jobId ∧
      .performed pid (.markExternalStartIssued input) (.ok starting) ∈ past := by
  induction past with
  | nil =>
      obtain ⟨_, h⟩ := h
      cases h
  | cons e past ih =>
      rcases inStart_cons h with hbefore | ⟨input, starting, hid, rfl⟩
      · obtain ⟨input, starting, hid, hmem⟩ := ih hbefore
        exact ⟨input, starting, hid, List.mem_cons_of_mem _ hmem⟩
      · exact ⟨input, starting, hid, List.mem_cons_self⟩

theorem InStart.not_returned {q : ℕ} {externalRunId : JsString} {m : SchedulerMoment}
    (hinv : SchedulerInv m) (hin : InStart pid jobId m.past) :
    standing q jobId m.past ≠ .returned externalRunId := by
  obtain ⟨issued, hissued⟩ := hin
  intro hreturned
  have hholds : (standing pid jobId m.past).holds = true := by rw [hissued]; rfl
  obtain rfl := (hinv.job jobId).holder_unique hholds (by rw [hreturned]; rfl)
  rw [hissued] at hreturned
  cases hreturned

theorem exists_mem_of_listed (h : standing pid jobId past = .listed) : ∃ now jobs, jobs ≠ [] ∧
    .performed pid (.listForReconciliation now) (.ok jobs) ∈ past := by
  induction past with
  | nil => cases h
  | cons e past ih =>
      rcases listed_cons h with hbefore | ⟨now, jobs, hne, rfl⟩
      · obtain ⟨now, jobs, hne, hmem⟩ := ih hbefore
        exact ⟨now, jobs, hne, List.mem_cons_of_mem _ hmem⟩
      · exact ⟨now, jobs, hne, List.mem_cons_self⟩

end Window

/-! ## What ends a start -/

/-- The commands that move a job out of `starting`. -/
def EndsStart (jobId : JsString) : SchedulerCommand → Prop
  | .markStarted id _ _ => id = jobId
  | .handleStartFailure input => input.jobId = jobId
  | .reconcileExternal id _ _ => id = jobId
  | .markStopped id _ => id = jobId
  | .markTimedOut id _ => id = jobId
  | _ => False

section Starting

variable {s t : SchedulerStore} {jobId : JsString} {row : JobRow} {f : JobRow → JobRow}
  {other : JsString}

/-- The job is `starting`. -/
def IsStarting (jobId : JsString) (store : SchedulerStore) : Prop :=
  ∃ row, store.jobs.get jobId = some row ∧ row.state = .starting

section

variable (h : IsStarting jobId s)

include h

theorem IsStarting.of_eq (hget : t.jobs.get jobId = s.jobs.get jobId) : IsStarting jobId t := by
  obtain ⟨row, hrow, hstate⟩ := h
  exact ⟨row, hget.trans hrow, hstate⟩

theorem IsStarting.of_map (hget : t.jobs.get jobId = (s.jobs.get jobId).map f)
    (hstate : ∀ row, row.state = .starting → (f row).state = .starting) : IsStarting jobId t := by
  obtain ⟨row, hrow, hstarting⟩ := h
  refine ⟨f row, ?_, hstate row hstarting⟩
  rw [hget, hrow, Option.map_some]

theorem IsStarting.of_updateJob {hscope : ∀ row, (f row).toJobScope = row.toJobScope}
    (hne : jobId ≠ other) (hjobs : t.jobs = (s.updateJob other f hscope).jobs) :
    IsStarting jobId t := by
  refine h.of_eq ?_
  rw [hjobs, SchedulerStore.get_updateJob_of_ne hne]

theorem IsStarting.ne_of_get (hget : s.jobs.get other = some row) (hstate : row.state ≠ .starting) :
    jobId ≠ other := by
  rintro rfl
  obtain ⟨row', hrow, hstarting⟩ := h
  obtain rfl : row = row' := Option.some.inj (hget.symm.trans hrow)
  exact hstate hstarting

theorem IsStarting.exec {command : SchedulerCommand} {outside : Outside}
    {resp : Except Thrown command.Answer} (hexec : execScheduler outside command s = (resp, t))
    (hends : ¬ EndsStart jobId command) : IsStarting jobId t := by
  have hcommit : ∀ {id external now} {resp : Except Thrown SchedulerJob}, jobId ≠ id →
      s.commitExternalState id external now = (resp, t) → IsStarting jobId t := by
    intro id external now resp hne hexec
    rcases SchedulerStore.commitExternalState_cases hexec with ⟨_, rfl⟩ | ⟨_, _, _, _, hjobs, _⟩
    · exact h
    · exact h.of_updateJob hne hjobs
  have hconclude : ∀ {id state phase code reason now} {resp : Except Thrown SchedulerJob},
      jobId ≠ id → s.concludeJob id state phase code reason now = (resp, t) →
      IsStarting jobId t := by
    intro id state phase code reason now resp hne hexec
    rcases SchedulerStore.concludeJob_cases hexec with ⟨_, rfl⟩ | ⟨_, _, _, _, hjobs, _⟩
    · exact h
    · exact h.of_updateJob hne hjobs
  unfold execScheduler at hexec
  split at hexec
  · obtain rfl := (Prod.mk.inj hexec).2
    exact h
  · split at hexec
    case h_2 now =>
      obtain rfl := (Prod.mk.inj hexec).2
      refine h.of_map SchedulerStore.get_expireStale fun row hstate => ?_
      split <;> exact hstate
    case h_3 ownerId now expiresAt =>
      obtain rfl := (Prod.mk.inj hexec).2
      refine h.of_map SchedulerStore.get_heartbeatOwned fun row hstate => ?_
      split <;> exact hstate
    case h_4 now supervisorId =>
      rcases hclaim : s.claimNext now with ⟨found, u⟩
      rw [hclaim] at hexec
      obtain rfl := (Prod.mk.inj hexec).2
      rcases SchedulerStore.claimNext_cases hclaim with ⟨_, rfl⟩ |
        ⟨row, hrow, hclaimable, _, hjobs, _⟩
      · exact h
      · have hstate : row.state ≠ .starting := by
          intro hstarting
          simp [SchedulerStore.claimable, hstarting] at hclaimable
        exact h.of_updateJob (h.ne_of_get hrow hstate) hjobs
    case h_6 id reason now =>
      obtain rfl := (Prod.mk.inj hexec).2
      refine h.of_map (SchedulerStore.get_updateJobs) fun row hstate => ?_
      simp [hstate]
    case h_7 input =>
      rcases hlease : s.acquireLease input with ⟨found, u⟩
      rw [hlease] at hexec
      obtain rfl := (Prod.mk.inj hexec).2
      rcases SchedulerStore.acquireLease_cases hlease with ⟨_, rfl⟩ | ⟨_, hjobs, _⟩
      · exact h
      · exact h.of_eq (by rw [hjobs])
    case h_8 input =>
      rcases SchedulerStore.markExternalStartIssued_cases hexec with ⟨_, rfl⟩ |
        ⟨row, hrow, hstate, _, _, hjobs, _⟩
      · exact h
      · refine h.of_updateJob (h.ne_of_get hrow ?_) hjobs
        rw [hstate]
        decide
    case h_12 id external now => exact hcommit (Ne.symm hends) hexec
    case h_13 input =>
      rcases SchedulerStore.handleStartFailure_cases hexec with ⟨_, rfl⟩ |
        ⟨_, _, _, _, hjobs, _⟩
      · exact h
      · exact h.of_updateJob (Ne.symm hends) hjobs
    case h_16 id external now => exact hcommit (Ne.symm hends) hexec
    case h_17 id now => exact hconclude (Ne.symm hends) hexec
    case h_18 id now => exact hconclude (Ne.symm hends) hexec
    all_goals
      obtain rfl := (Prod.mk.inj hexec).2
      exact h

end

end Starting

/-! ## Starts that are kept apart -/

/-- A job that a tick is starting is `starting`, and on nobody's list. -/
structure StartInv (m : SchedulerMoment) : Prop where
  starting : ∀ {p jobId}, InStart p jobId m.past → IsStarting jobId m.state
  unlisted : ∀ {p q jobId}, InStart p jobId m.past → standing q jobId m.past ≠ .listed

section Apart

variable {c c' : SchedulerConfig} {m : SchedulerMoment} {command : SchedulerCommand}
  {store : SchedulerStore}

theorem sound_of_run {cond : SchedulerCondition} (hrun : Run schedulerSystem cond .empty c) :
    schedulerOutline.Sound c := by
  have hinit : SchedulerInv { state := .empty, past := [] } := by
    refine ⟨?_, fun jobId => ⟨?_, ?_, ?_⟩⟩
    · intro id id' row row' hrow
      cases hrow
    · intro p q hp
      cases hp
    · intro p hp
      cases hp
    · intro row hrow
      cases hrow
  exact Outline.sound_of_run schedulerOutline_entries hinit (hrun.mono fun _ _ _ => trivial)

/-- A tick that ends the start of a job that another one is starting: there is
none. -/
theorem StartInv.not_endsStart {p q : ℕ} {jobId : JsString} (hinv : SchedulerInv m)
    (hstart : StartInv m) (hin : InStart p jobId m.past) (hpromise : SchedulerPromise q m command) :
    ¬ EndsStart jobId command := by
  have hlisted : standing q jobId m.past ≠ .listed := hstart.unlisted hin
  intro hends
  cases command with
  | markStarted id external now =>
      obtain rfl : id = jobId := hends
      obtain ⟨x, hx⟩ := hpromise
      exact hin.not_returned hinv hx
  | handleStartFailure input =>
      obtain rfl : input.jobId = jobId := hends
      obtain ⟨x, hx⟩ := hpromise
      exact hin.not_returned hinv hx
  | reconcileExternal id external now =>
      obtain rfl : id = jobId := hends
      exact hlisted hpromise
  | markStopped id now =>
      obtain rfl : id = jobId := hends
      exact hlisted hpromise
  | markTimedOut id now =>
      obtain rfl : id = jobId := hends
      exact hlisted hpromise
  | _ => exact hends

theorem StartInv.perform {q : ℕ} {outside : Outside} {resp : Except Thrown command.Answer}
    (hinv : SchedulerInv m) (hstart : StartInv m) (hpromise : SchedulerPromise q m command)
    (hcond : StartsApart m (.perform q command))
    (hexec : execScheduler outside command m.state = (resp, store)) :
    StartInv (m.push (.performed q command resp) store) := by
  constructor
  · intro p jobId hin
    rcases inStart_cons hin with hbefore | ⟨input, starting, rfl, hevent⟩
    · exact (hstart.starting hbefore).exec hexec (hstart.not_endsStart hinv hbefore hpromise)
    · injection hevent with hq hcommand hresp
      subst hq hcommand
      obtain rfl := eq_of_heq hresp
      unfold execScheduler at hexec
      split at hexec
      · cases (Prod.mk.inj hexec).1
      · rcases SchedulerStore.markExternalStartIssued_cases hexec with ⟨⟨_, hthrown⟩, _⟩ |
          ⟨row, hrow, _, _, _, hjobs, _⟩
        · cases hthrown
        · refine ⟨row.issue input.externalRunId input.lease input.now, ?_, rfl⟩
          rw [Moment.push_state, hjobs]
          exact SchedulerStore.get_updateJob_self hrow
  · intro p r jobId hin hlisted
    rcases listed_cons hlisted with hold | ⟨now, jobs, _, hlist⟩
    · rcases inStart_cons hin with hbefore | ⟨input, starting, rfl, hevent⟩
      · exact hstart.unlisted hbefore hold
      · injection hevent with _ hcommand _
        subst hcommand
        exact hcond r hold
    · injection hlist with _ hcommand _
      subst hcommand
      rcases inStart_cons hin with hbefore | ⟨_, _, _, hevent⟩
      · exact hcond p jobId hbefore
      · cases hevent

theorem StartInv.frame {e : SchedulerEvent} (hstart : StartInv m)
    (hevent : ∀ pid command resp, e ≠ .performed pid command resp)
    (hjobs : ∀ jobId, IsStarting jobId m.state → IsStarting jobId store) :
    StartInv (m.push e store) := by
  have hbefore : ∀ {p jobId}, InStart p jobId (e :: m.past) → InStart p jobId m.past := by
    intro p jobId hin
    rcases inStart_cons hin with h | ⟨_, _, _, h⟩
    · exact h
    · exact absurd h (hevent _ _ _)
  constructor
  · intro p jobId hin
    exact hjobs jobId (hstart.starting (hbefore hin))
  · intro p q jobId hin hlisted
    rcases listed_cons hlisted with hold | ⟨_, _, _, h⟩
    · exact hstart.unlisted (hbefore hin) hold
    · exact hevent _ _ _ h

theorem StartInv.change {change : SchedulerChange} (hstart : StartInv m)
    (hchange : change.apply m.state = some store) : StartInv (m.push (.changed change) store) := by
  refine hstart.frame (fun _ _ _ h => by cases h) fun jobId hstarting => ?_
  cases change with
  | admitJob scope =>
      obtain ⟨_, _, _, _, new, _, _, _, hjobs⟩ := SchedulerStore.admitJob_eq_some hchange
      obtain ⟨row, hrow, hstate⟩ := hstarting
      refine ⟨row, ?_, hstate⟩
      rw [hjobs, Sql.Table.get_insertNew, if_neg, hrow]
      rintro ⟨_, hnone⟩
      rw [hrow] at hnone
      cases hnone
  | registerNode node =>
      obtain rfl := Option.some.inj hchange
      exact hstarting
  | setControl control =>
      obtain rfl := Option.some.inj hchange
      exact hstarting

theorem StartInv.step (hsound : schedulerOutline.Sound c) (hstart : StartInv c.now)
    (hstep : Step schedulerSystem StartsApart c c') : StartInv c'.now := by
  cases hstep with
  | perform pid command next choice resp state hproc hcond hexec =>
      have hself := hsound.verified hproc c.now (Outline.Later.refl hsound.inv) trivial
      exact StartInv.perform hsound.inv hstart hself.1 hcond (Option.some.inj hexec)
  | change change state hcond hchange => exact hstart.change hchange
  | spawn call hcond => exact hstart.frame (fun _ _ _ h => by cases h) fun _ h => h
  | finish pid result hproc hcond => exact hstart.frame (fun _ _ _ h => by cases h) fun _ h => h
  | crash pid p hproc hcond => exact hstart.frame (fun _ _ _ h => by cases h) fun _ h => h

theorem startInv_of_run (hrun : Run schedulerSystem StartsApart .empty c) : StartInv c.now := by
  induction hrun with
  | refl =>
      constructor
      · rintro p jobId ⟨_, hissued⟩
        cases hissued
      · rintro p q jobId ⟨_, hissued⟩
        cases hissued
  | tail hrun hstep ih => exact ih.step (sound_of_run hrun) hstep

/-- In the runs in which starts are kept apart, no start is undermined. -/
theorem startSafe_of_startsApart (hrun : Run schedulerSystem StartsApart .empty c) :
    StartSafe c := by
  constructor
  · intro c' p q jobId now resp hstep hin _ hpast _
    have hpromise := Outline.promise_of_performed (sound_of_run hrun) hstep hpast
    exact absurd hpromise ((startInv_of_run hrun).unlisted hin)
  · intro c' pid request resp hstep hpast
    obtain ⟨jobId, hissued⟩ := Outline.promise_of_performed (sound_of_run hrun) hstep hpast
    have hholds : (standing pid jobId c.now.past).holds = true := by rw [hissued]; rfl
    obtain ⟨row, hrow, hallows⟩ := ((sound_of_run hrun).inv.job jobId).holder hholds
    rw [hissued] at hallows
    obtain ⟨row', hrow', hstarting⟩ := (startInv_of_run hrun).starting ⟨_, hissued⟩
    obtain rfl : row = row' := Option.some.inj (hrow.symm.trans hrow')
    refine ⟨jobId, row, ⟨_, hissued⟩, hrow, hallows.2.2, ?_⟩
    rw [hstarting]
    rfl

end Apart

/-! ## A start that is undermined -/

def sampleScope : JobScope where
  id := js "job"
  organizationId := js "organization"
  projectId := js "project"
  goalId := js "goal"
  issueId := js "issue"
  runId := js "run"
  externalTaskId := js "task"
  requiredCapability := .generalCoding
  priority := 100
  maxAttempts := 2
  budget := { maxRuntimeSeconds := some 60 }
  deadlineAt := 100000
  createdAt := 0

def sampleNode : NodeRow where
  id := js "node"
  name := js "node"
  provider := js "autodev"
  capabilities := [.generalCoding]
  maxConcurrentRuns := 1
  status := .online
  heartbeatAt := 0
  offlineAfter := 60000
  version := 1

def sampleOutside : Outside where
  failure := none
  clock := 1000
  started :=
    { externalRunId := js "cp-run-a1"
      state := .running
      phase := js "build"
      message := none }
  inspected := none

def sampleTick (supervisorId : String) : TickCall where
  supervisorId := js supervisorId
  leaseDurationMs := 30000

/-- A tick issues a start; before it launches, another tick lists the job and
inspects the external run. -/
def underminedSchedule : List (Action TickCall Outside SchedulerChange) :=
  [.change (.admitJob sampleScope), .change (.registerNode sampleNode),
    .spawn (sampleTick "first")] ++ List.replicate 7 (.perform 0 sampleOutside) ++
  [.spawn (sampleTick "second")] ++ List.replicate 3 (.perform 1 sampleOutside)

/-- A reconciliation of an external run that is unknown: who reconciled which
job. -/
structure UnknownRun where
  pid : ℕ
  jobId : JsString
  deriving DecidableEq

def lastUnknownRun : List SchedulerEvent → Option UnknownRun
  | .performed pid (.reconcileExternal jobId none _) _ :: _ => some ⟨pid, jobId⟩
  | _ => none

theorem exists_of_lastUnknownRun {past : List SchedulerEvent} {run : UnknownRun}
    (h : lastUnknownRun past = some run) : ∃ now resp rest,
      past = .performed run.pid (.reconcileExternal run.jobId none now) resp :: rest := by
  unfold lastUnknownRun at h
  split at h
  · next now resp rest =>
    obtain rfl := Option.some.inj h
    exact ⟨now, resp, rest, rfl⟩
  · cases h

def stateOf (store : SchedulerStore) (jobId : JsString) : Option SchedulerJobState :=
  (store.jobs.get jobId).map JobRow.state

theorem jobOver_iff {store : SchedulerStore} {jobId : JsString} :
    JobOver jobId store ↔ ∃ state, stateOf store jobId = some state ∧ state.terminal = true := by
  simp only [JobOver, stateOf, Option.map_eq_some_iff]
  constructor
  · rintro ⟨row, hrow, hover⟩
    exact ⟨row.state, ⟨row, hrow, rfl⟩, hover⟩
  · rintro ⟨_, ⟨row, hrow, rfl⟩, hover⟩
    exact ⟨row, hrow, hover⟩

/-- Another tick can block a job whose start has been issued and not yet
launched. -/
theorem not_startSafe : ¬ ∀ c, Reached schedulerSystem .empty c → StartSafe c := by
  intro hsafe
  have hrun : (execute schedulerSystem (Config.initial .empty) underminedSchedule).map
      (fun c => (standing 0 (js "job") c.now.past, stateOf c.now.state (js "job"),
        (step schedulerSystem c (.perform 1 sampleOutside)).map fun c' =>
          (lastUnknownRun c'.now.past, stateOf c'.now.state (js "job")))) =
      some (.issued (js "cp-run-a1"), some .starting,
        some (some ⟨1, js "job"⟩, some .blocked)) := by
    decide +kernel
  obtain ⟨c, hc, hobserved⟩ := Option.map_eq_some_iff.mp hrun
  obtain ⟨hissued, hobserved⟩ := Prod.mk.inj hobserved
  obtain ⟨hstarting, hnext⟩ := Prod.mk.inj hobserved
  obtain ⟨c', hc', hobserved'⟩ := Option.map_eq_some_iff.mp hnext
  obtain ⟨hlast, hblocked⟩ := Prod.mk.inj hobserved'
  obtain ⟨now, resp, rest, hpast⟩ := exists_of_lastUnknownRun hlast
  have hstep := step_sound hc'
  obtain ⟨e, he⟩ := hstep.past
  obtain rfl : rest = c.now.past := (List.cons.inj (hpast.symm.trans he)).2
  have hbefore : ¬ JobOver (js "job") c.now.state := by
    rw [jobOver_iff, hstarting]
    rintro ⟨state, hstate, hover⟩
    obtain rfl := Option.some.inj hstate
    cases hover
  refine (hsafe c (reached_of_execute hc)).reconciled hstep ⟨_, hissued⟩ (by decide) hpast
    hbefore ?_
  rw [jobOver_iff]
  exact ⟨.blocked, hblocked, rfl⟩

def isIssue : SchedulerEvent → Bool
  | .performed _ (.markExternalStartIssued _) (.ok _) => true
  | _ => false

def isListing : SchedulerEvent → Bool
  | .performed _ (.listForReconciliation _) (.ok (_ :: _)) => true
  | _ => false

def apart (m : SchedulerMoment) : Attempt SchedulerCommand TickCall SchedulerChange → Bool
  | .perform _ (.listForReconciliation _) => !m.past.any isIssue
  | .perform _ (.markExternalStartIssued _) => !m.past.any isListing
  | _ => true

theorem startsApart_of_apart (m : SchedulerMoment)
    (attempt : Attempt SchedulerCommand TickCall SchedulerChange)
    (hcheck : apart m attempt = true) : StartsApart m attempt := by
  unfold apart at hcheck
  split at hcheck
  · intro p jobId hin
    obtain ⟨input, starting, -, hmem⟩ := hin.exists_mem
    have hissue : m.past.any isIssue = true := List.any_eq_true.mpr ⟨_, hmem, rfl⟩
    rw [hissue] at hcheck
    cases hcheck
  · intro q hlisted
    obtain ⟨now, jobs, hne, hmem⟩ := exists_mem_of_listed hlisted
    have hlisting : m.past.any isListing = true := by
      refine List.any_eq_true.mpr ⟨_, hmem, ?_⟩
      cases jobs with
      | nil => exact absurd rfl hne
      | cons job jobs => rfl
    rw [hlisting] at hcheck
    cases hcheck
  · next hlist hissue =>
    unfold StartsApart
    split
    · exact absurd rfl (hlist _ _)
    · exact absurd rfl (hissue _ _)
    · trivial

theorem startSafe_of_startsApart_launch : ∃ c, Run schedulerSystem StartsApart .empty c ∧
    InStart 0 (js "job") c.now.past ∧ StartSafe c := by
  have hrun : (executeWhile schedulerSystem apart (Config.initial .empty)
      ([.change (.admitJob sampleScope), .change (.registerNode sampleNode),
        .spawn (sampleTick "first")] ++ List.replicate 7 (.perform 0 sampleOutside))).map
      (fun c => standing 0 (js "job") c.now.past) = some (.issued (js "cp-run-a1")) := by
    decide +kernel
  obtain ⟨c, hc, hissued⟩ := Option.map_eq_some_iff.mp hrun
  have hstarts : Run schedulerSystem StartsApart .empty c :=
    run_of_executeWhile startsApart_of_apart hc
  exact ⟨c, hstarts, ⟨_, hissued⟩, startSafe_of_startsApart hstarts⟩

end DevHarness.Scheduler
