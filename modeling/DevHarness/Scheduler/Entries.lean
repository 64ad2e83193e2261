import DevHarness.Scheduler.Outline

/-!
# A tick keeps its promises

The sequential part of the argument: `tick` followed from command to command.
Where a tick stands with a job is a matter of its own history, which the others
cannot add to.
-/

namespace DevHarness.Scheduler

open JsText Interleave

section Entries

variable {pid now : ℕ} {m m' : SchedulerMoment} {jobId externalRunId : JsString}
  {job starting : SchedulerJob} {supervisorId : JsString} {leaseDurationMs : ℕ}

def SameStandings (pid : ℕ) (m m' : SchedulerMoment) : Prop :=
  ∀ id, standing pid id m'.past = standing pid id m.past

theorem SameStandings.trans {m'' : SchedulerMoment} (h : SameStandings pid m m')
    (h' : SameStandings pid m' m'') : SameStandings pid m m'' :=
  fun id => (h' id).trans (h id)

theorem standing_later (hlater : schedulerOutline.Later pid m m') :
    SameStandings pid m m' :=
  fun _ => standing_of_eventsOf hlater.own

theorem standing_push {e : SchedulerEvent} {store : SchedulerStore}
    (hlater : schedulerOutline.Later pid m m') (hpid : e.pid? = some pid) :
    standing pid jobId (m'.push e store).past = (standing pid jobId m.past).after jobId e := by
  rw [Moment.push_past, standing_cons_self hpid, standing_later hlater]

/-- A command that changes no standing, and whose promise rests on the standings
of the tick. -/
private theorem ensures_quiet {command : SchedulerCommand}
    (hpromise : ∀ m', SameStandings pid m m' → SchedulerPromise pid m' command)
    (hquiet : ∀ id (old : Standing) resp, old.after id (.performed pid command resp) = old) :
    schedulerOutline.ensures pid (await command)
      (fun _ m' => SameStandings pid m m' ∧ schedulerOutline.Onward m m') m := by
  refine Outline.ensures_request fun m' hlater _ => ?_
  refine ⟨hpromise m' (standing_later hlater), ?_⟩
  intro outside answer store _ _ hevolves
  refine ⟨fun id => ?_, hlater.onward_push hevolves⟩
  rw [standing_push hlater rfl, hquiet]

private theorem ensures_last {command : SchedulerCommand}
    (hpromise : ∀ m', SameStandings pid m m' → SchedulerPromise pid m' command) :
    schedulerOutline.ensures pid (await command) (fun _ _ => True) m := by
  refine Outline.ensures_request fun m' hlater _ => ?_
  exact ⟨hpromise m' (standing_later hlater), fun _ _ _ _ _ _ => trivial⟩

/-! ## Reconciliation -/

theorem ensures_cancelExternal :
    schedulerOutline.ensures pid (cancelExternal job) (fun _ m' => SameStandings pid m m') m := by
  unfold cancelExternal
  split
  · exact Outline.ensures_mono (ensures_quiet (fun _ _ => trivial) fun _ _ _ => rfl)
      fun _ _ h => h.1
  · exact Outline.ensures_pure fun _ => rfl

theorem ensures_inspectExternal :
    schedulerOutline.ensures pid (inspectExternal job) (fun _ m' => SameStandings pid m m') m := by
  unfold inspectExternal
  split
  · exact Outline.ensures_mono (ensures_quiet (fun _ _ => trivial) fun _ _ _ => rfl)
      fun _ _ h => h.1
  · exact Outline.ensures_pure fun _ => rfl

theorem ensures_reconcile (hlisted : standing pid job.id m.past = .listed) :
    schedulerOutline.ensures pid (reconcile now job) (fun _ m' => SameStandings pid m m') m := by
  have hcommit : ∀ {m₁} {command : SchedulerCommand}, SameStandings pid m m₁ →
      (∀ m₂, standing pid job.id m₂.past = .listed → SchedulerPromise pid m₂ command) →
      (∀ id (old : Standing) resp, old.after id (.performed pid command resp) = old) →
      schedulerOutline.ensures pid (await command >>= fun _ => pure ())
        (fun _ m' => SameStandings pid m m') m₁ := by
    intro m₁ command hsame hpromise hquiet
    refine Outline.ensures_bind (Outline.ensures_mono (ensures_quiet ?_ hquiet) ?_)
    · intro m₂ hsame₂
      exact hpromise m₂ ((hsame₂ _).trans ((hsame _).trans hlisted))
    · rintro _ m₂ ⟨hsame₂, _⟩
      exact Outline.ensures_pure (hsame.trans hsame₂)
  unfold reconcile
  split
  · refine Outline.ensures_bind (Outline.ensures_mono ensures_cancelExternal ?_)
    intro _ m₁ hsame
    exact hcommit hsame (fun _ h => h) fun _ _ _ => rfl
  · split
    · refine Outline.ensures_bind (Outline.ensures_mono ensures_cancelExternal ?_)
      intro _ m₁ hsame
      exact hcommit hsame (fun _ h => h) fun _ _ _ => rfl
    · refine Outline.ensures_bind (Outline.ensures_mono ensures_inspectExternal ?_)
      intro external m₁ hsame
      exact hcommit hsame (fun _ h => h) fun _ _ _ => rfl

theorem ensures_reconcileAll {jobs : List SchedulerJob}
    (hlisted : ∀ job ∈ jobs, standing pid job.id m.past = .listed) :
    schedulerOutline.ensures pid (Program.forEach (reconcile now) jobs) (fun _ _ => True) m := by
  have hround : ∀ job ∈ jobs, ∀ m₁, SameStandings pid m m₁ →
      schedulerOutline.ensures pid (reconcile now job)
        (fun _ m' => SameStandings pid m m') m₁ := by
    intro job hjob m₁ hsame
    have hlisted₁ := (hsame job.id).trans (hlisted job hjob)
    exact Outline.ensures_mono (ensures_reconcile hlisted₁) fun _ _ h => hsame.trans h
  exact Outline.ensures_mono (Outline.ensures_forEach hround fun _ => rfl) fun _ _ _ => trivial

/-! ## The start of a job -/

theorem wp_gatewayStart {request : ExecutionStartRequest}
    (hissued : standing pid jobId m.past = .issued request.externalRunId) :
    schedulerOutline.wp pid (gatewayStart request)
      (fun _ m' => standing pid jobId m'.past = .returned request.externalRunId) m := by
  refine Outline.wp_bind.mpr (Outline.wp_request.mpr fun m₁ hlater₁ _ => ?_)
  refine ⟨⟨jobId, (standing_later hlater₁ _).trans hissued⟩, ?_⟩
  intro outside resp store _ _ _
  cases resp with
  | error thrown =>
      rw [standing_push hlater₁ rfl, hissued]
      rfl
  | ok u =>
      have hissued₁ : standing pid jobId (m₁.push (.performed pid (.launch request) (.ok u))
          store).past = .issued request.externalRunId := by
        rw [standing_push hlater₁ rfl, hissued]
        rfl
      refine Outline.wp_request.mpr fun m₂ hlater₂ _ => ?_
      refine ⟨⟨jobId, (standing_later hlater₂ _).trans hissued₁⟩, ?_⟩
      intro outside resp store _ _ _
      rw [standing_push hlater₂ rfl, hissued₁]
      rfl

theorem ensures_recordStartFailure {thrown : Thrown}
    (hreturned : standing pid job.id m.past = .returned externalRunId) :
    schedulerOutline.ensures pid (recordStartFailure job thrown) (fun _ _ => True) m := by
  refine Outline.ensures_bind (Outline.ensures_mono
    (ensures_quiet (fun _ _ => trivial) fun _ _ _ => rfl) ?_)
  rintro now m₁ ⟨hsame, _⟩
  refine Outline.ensures_bind (Outline.ensures_mono (ensures_last fun m₂ hsame₂ => ?_) ?_)
  · exact ⟨externalRunId, (hsame₂ _).trans ((hsame _).trans hreturned)⟩
  · intro _ _ _
    exact Outline.ensures_pure trivial

theorem ensures_recordStarted {external : ExternalExecutionStatus}
    (hreturned : standing pid job.id m.past = .returned externalRunId) :
    schedulerOutline.ensures pid (recordStarted job starting external) (fun _ _ => True) m := by
  refine Outline.ensures_bind (Outline.ensures_mono
    (ensures_quiet (fun _ _ => trivial) fun _ _ _ => rfl) ?_)
  rintro _ m₁ ⟨hsame₁, _⟩
  refine Outline.ensures_bind (Outline.ensures_mono
    (ensures_quiet (fun _ _ => trivial) fun _ _ _ => rfl) ?_)
  rintro now m₂ ⟨hsame₂, _⟩
  have hsame := hsame₁.trans hsame₂
  refine Outline.ensures_bind (Outline.ensures_mono (ensures_last fun m₃ hsame₃ => ?_) ?_)
  · exact ⟨externalRunId, (hsame₃ _).trans ((hsame _).trans hreturned)⟩
  · intro _ _ _
    exact Outline.ensures_pure trivial

theorem ensures_startExternal
    (hissued : standing pid job.id m.past = .issued (externalRunIdFor job)) :
    schedulerOutline.ensures pid (startExternal job starting now) (fun _ _ => True) m := by
  have hstart : schedulerOutline.wp pid (gatewayStart (startRequest job now))
      (fun _ m' => standing pid job.id m'.past = .returned (externalRunIdFor job)) m :=
    wp_gatewayStart hissued
  refine Outline.ensures_bind (Outline.wp_handle.mpr (Outline.wp_bind.mpr
    (Outline.wp_mono hstart ?_)))
  intro resp m₁ hreturned
  cases resp with
  | ok external =>
      intro outcome hok
      obtain rfl := Except.ok.inj hok
      exact ensures_recordStarted hreturned
  | error thrown =>
      intro outcome hok
      obtain rfl := Except.ok.inj hok
      exact ensures_recordStartFailure hreturned

/-! ## A claimed job -/

/-- The tick has claimed the job that it holds a copy of. -/
structure HasClaimed (pid : ℕ) (job : SchedulerJob) (m : SchedulerMoment) : Prop where
  claimed : standing pid job.id m.past = .claimed
  row : ∃ row, m.state.jobs.get job.id = some row ∧ row.runId = job.runId

theorem HasClaimed.move (h : HasClaimed pid job m) (hsame : SameStandings pid m m')
    (hevolves : JobsEvolve m.state m'.state) : HasClaimed pid job m' := by
  obtain ⟨row, hrow, hrun⟩ := h.row
  obtain ⟨row', hrow', hscope⟩ := hevolves hrow
  refine ⟨(hsame _).trans h.claimed, row', hrow', ?_⟩
  rw [← hrun, hscope]

theorem ensures_giveUpClaim {reason : JsString}
    (hclaimed : standing pid job.id m.past = .claimed) :
    schedulerOutline.ensures pid (giveUpClaim job reason now) (fun _ _ => True) m := by
  refine Outline.ensures_bind (Outline.ensures_mono (ensures_last fun m₁ hsame => ?_) ?_)
  · exact (hsame _).trans hclaimed
  · intro _ _ _
    exact Outline.ensures_pure trivial

theorem ensures_acquireLease {input : LeaseInput} (hrun : input.runId = job.runId)
    (hclaimed : HasClaimed pid job m) :
    schedulerOutline.ensures pid (await (.acquireLease input))
      (fun found m' => standing pid job.id m'.past =
        if found.isSome then .leased else .claimed) m := by
  refine Outline.ensures_request fun m₁ hlater _ => ?_
  have hclaimed₁ := hclaimed.move (standing_later hlater) hlater.evolves
  obtain ⟨row, hrow, hrun'⟩ := hclaimed₁.row
  refine ⟨⟨job.id, row, hclaimed₁.claimed, hrow, hrun'.trans hrun.symm⟩, ?_⟩
  intro outside found store _ _ _
  rw [standing_push hlater rfl, hclaimed.claimed]
  cases found <;> rfl

theorem ensures_markExternalStartIssued {input : StartIssuedInput}
    (hleased : standing pid input.jobId m.past = .leased) :
    schedulerOutline.ensures pid (await (.markExternalStartIssued input))
      (fun _ m' => standing pid input.jobId m'.past = .issued input.externalRunId) m := by
  refine Outline.ensures_request fun m₁ hlater _ => ?_
  refine ⟨(standing_later hlater _).trans hleased, ?_⟩
  intro outside starting store _ _ _
  rw [standing_push hlater rfl]
  simp only [Standing.after, if_true]

theorem ensures_startClaimed (hclaimed : HasClaimed pid job m) :
    schedulerOutline.ensures pid (startClaimed supervisorId leaseDurationMs now job)
      (fun _ _ => True) m := by
  refine Outline.ensures_bind (Outline.ensures_mono
    (ensures_quiet (fun _ _ => trivial) fun _ _ _ => rfl) ?_)
  rintro found m₁ ⟨hsame, hon⟩
  have hclaimed₁ := hclaimed.move hsame hon.evolves
  cases found with
  | none => exact ensures_giveUpClaim hclaimed₁.claimed
  | some node =>
      refine Outline.ensures_bind (Outline.ensures_mono (ensures_acquireLease rfl hclaimed₁) ?_)
      intro found m₂ hstanding
      cases found with
      | none => exact ensures_giveUpClaim hstanding
      | some lease =>
          refine Outline.ensures_bind (Outline.ensures_mono
            (ensures_markExternalStartIssued hstanding) ?_)
          intro starting m₃ hissued
          exact ensures_startExternal hissued

/-! ## `tick` -/

theorem ensures_listForReconciliation :
    schedulerOutline.ensures pid (await (.listForReconciliation now))
      (fun jobs m' => ∀ job ∈ jobs, standing pid job.id m'.past = .listed) m := by
  refine Outline.ensures_request fun m₁ hlater _ => ⟨trivial, ?_⟩
  intro outside jobs store _ _ _ job hjob
  rw [standing_push hlater rfl]
  have hany : (jobs.any fun other => decide (other.id = job.id)) = true := by
    rw [List.any_eq_true]
    exact ⟨job, hjob, by simp⟩
  simp only [Standing.after]
  rw [if_pos hany]

theorem ensures_claimNext :
    schedulerOutline.ensures pid (await (.claimNext now supervisorId))
      (fun found m' => ∀ job, found = some job → HasClaimed pid job m') m := by
  refine Outline.ensures_request fun m₁ hlater _ => ⟨trivial, ?_⟩
  rintro outside found store hexec _ _ job rfl
  constructor
  · rw [standing_push hlater rfl]
    simp only [Standing.after, if_true]
  · have hexec := Option.some.inj hexec
    unfold execScheduler at hexec
    split at hexec
    · cases (Prod.mk.inj hexec).1
    · obtain ⟨hfound, hstore⟩ := Prod.mk.inj hexec
      have hclaim : m₁.state.claimNext now = (some job, store) :=
        Prod.ext (Except.ok.inj hfound) hstore
      rcases SchedulerStore.claimNext_cases hclaim with ⟨h, _⟩ | ⟨row, hrow, _, hjob, hjobs, _⟩
      · cases h
      · obtain rfl := Option.some.inj hjob
        refine ⟨row.claim now, ?_, rfl⟩
        rw [Moment.push_state, hjobs]
        exact SchedulerStore.get_updateJob_self hrow

theorem ensures_tick :
    schedulerOutline.ensures pid (tick supervisorId leaseDurationMs) (fun _ _ => True) m := by
  refine Outline.ensures_bind (Outline.ensures_mono
    (ensures_quiet (fun _ _ => trivial) fun _ _ _ => rfl) ?_)
  rintro now m₁ _
  refine Outline.ensures_bind (Outline.ensures_mono ensures_listForReconciliation ?_)
  intro jobs m₂ hlisted
  cases jobs with
  | cons job jobs =>
      refine Outline.ensures_bind (Outline.ensures_mono (ensures_reconcileAll hlisted) ?_)
      intro _ _ _
      exact Outline.ensures_pure trivial
  | nil =>
      refine Outline.ensures_bind (Outline.ensures_mono
        (ensures_quiet (fun _ _ => trivial) fun _ _ _ => rfl) ?_)
      rintro _ m₃ _
      refine Outline.ensures_bind (Outline.ensures_mono ensures_claimNext ?_)
      intro found m₄ hclaimed
      cases found with
      | none => exact Outline.ensures_pure trivial
      | some job => exact ensures_startClaimed (hclaimed job rfl)

theorem schedulerOutline_entries : schedulerOutline.Entries := by
  intro pid call m _ _
  exact Outline.wp_of_ensures ensures_tick

end Entries

end DevHarness.Scheduler
