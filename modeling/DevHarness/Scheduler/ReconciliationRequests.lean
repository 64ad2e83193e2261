import DevHarness.Scheduler.InboxProgress

/-!
# Requests for reconciliation

A lease that expires asks for the reconciliation of its job, and so does an event that comes
too early.  Both requests are one column.  The ingestion of a later event computes the column
anew from the inbox, which does not know about leases.
-/

namespace DevHarness.Scheduler

open JsText

/-- A sweep, an ingestion, or an outcome of `reconcile`. -/
inductive ReconciliationStep
  | listForReconciliation (now : ℕ)
  | ingest (outside : IngestOutside) (input : IngestInput)
  | reconcileExternal (jobId : JsString) (external : Option ExternalExecutionStatus) (now : ℕ)
  | markTimedOut (jobId : JsString) (now : ℕ)
  | markStopped (jobId : JsString) (now : ℕ)

/-- The job that `reconcile` decides about, and what is answered. -/
def ReconciliationStep.decision (store : SchedulerStore) :
    ReconciliationStep → Option (JsString × (Except Thrown SchedulerJob × SchedulerStore))
  | .reconcileExternal jobId external now =>
    some (jobId, store.reconcileExternal jobId external now)
  | .markTimedOut jobId now => some (jobId, store.markTimedOut jobId now)
  | .markStopped jobId now => some (jobId, store.markStopped jobId now)
  | _ => none

def ReconciliationStep.apply (platform : Platform) (store : EventStore) :
    ReconciliationStep → EventStore
  | .listForReconciliation now =>
    { store with scheduler := (store.scheduler.listForReconciliation now).2 }
  | .ingest outside input => (store.ingest platform outside input).2
  | .reconcileExternal jobId external now =>
    { store with scheduler := (store.scheduler.reconcileExternal jobId external now).2 }
  | .markTimedOut jobId now =>
    { store with scheduler := (store.scheduler.markTimedOut jobId now).2 }
  | .markStopped jobId now =>
    { store with scheduler := (store.scheduler.markStopped jobId now).2 }

/-- The sweep finds that the lease of the job has expired; the job is not over. -/
def ReconciliationStep.Raises (store : EventStore) (jobId : JsString) :
    ReconciliationStep → Prop
  | .listForReconciliation now =>
    ∃ row, store.scheduler.jobs.get jobId = some row ∧ store.scheduler.affected now row = true
  | _ => False

/-- What `reconcile` decides about the job is stored. -/
def ReconciliationStep.Answers (store : EventStore) (jobId : JsString)
    (step : ReconciliationStep) : Prop :=
  ∃ job next, step.decision store.scheduler = some (jobId, (.ok job, next))

/-! ## Histories -/

/-- The jobs whose lease has expired and that no reconciliation has decided about since. -/
abbrev Requests := JsString → Prop

def Requests.after (requests : Requests) (store : EventStore) (step : ReconciliationStep) :
    Requests :=
  fun jobId => (requests jobId ∨ step.Raises store jobId) ∧ ¬ step.Answers store jobId

abbrev RequestCondition := EventStore → Requests → ReconciliationStep → Prop

/-- Steps in any order, each of which meets the condition. -/
inductive RequestHistory (platform : Platform) (cond : RequestCondition) (start : EventStore) :
    EventStore → Requests → Prop
  | start : RequestHistory platform cond start start fun _ => False
  | step {store : EventStore} {requests : Requests} (step : ReconciliationStep)
      (history : RequestHistory platform cond start store requests)
      (hcond : cond store requests step) :
      RequestHistory platform cond start (step.apply platform store)
        (requests.after store step)

def Flagged (store : EventStore) (jobId : JsString) : Prop :=
  ∀ ⦃row⦄, store.scheduler.jobs.get jobId = some row → row.reconciliationRequired = true

/-- A request stays in the column until it is answered, whatever the tables were before. -/
def RequestsKept (platform : Platform) (cond : RequestCondition) : Prop :=
  ∀ ⦃start store requests⦄, RequestHistory platform cond start store requests →
    ∀ ⦃jobId⦄, requests jobId → Flagged store jobId

/-- An event of the job waits in the inbox for a number that has not come, and still does
after the next number. -/
def EventStore.WaitsBeyond (store : EventStore) (context : EventContext) : Prop :=
  ∃ row ∈ store.inbox, row.jobId = context.job.id ∧ row.processing = .gap ∧
    ∃ missing, context.lastEventSequence + 1 < missing ∧ missing < row.event.sequence ∧
      ∀ other ∈ store.inbox, other.jobId = context.job.id → other.event.sequence = missing →
        other.processing.open = false

/-- The next event of a job whose lease has expired leaves an event waiting. -/
def KeepsRequests : RequestCondition := fun store requests step =>
  ∀ outside input, step = .ingest outside input → ∀ context, store.NextEvent input context →
    requests context.job.id → store.WaitsBeyond context

variable {platform : Platform} {store : EventStore}

section Ingestion

variable {outside : IngestOutside} {input : IngestInput} {context : EventContext}
  {progress : EventProgress}

/-- After the loop an event waits exactly if one did that the next number does not reach. -/
theorem waiting_iff (h : store.NextEvent input context)
    (hadvances : (beforeLoop store input context).Advances progress)
    (hpending : progress.pending = []) :
    progress.waiting = true ↔ store.WaitsBeyond context := by
  have hlast := lt_of_advances h hadvances hpending
  have hjob : progress.context.job = context.job := hadvances.job
  have hinserted : (insertedRow input context).event.sequence = context.lastEventSequence + 1 :=
    h.next
  constructor
  · intro hwaiting
    obtain ⟨row, hrow, hwaits⟩ := List.any_eq_true.mp hwaiting
    simp only [Bool.and_eq_true, decide_eq_true_eq, hjob] at hwaits
    obtain ⟨⟨hrowJob, hgap⟩, hbeyond⟩ := hwaits
    have hnotNext : ∀ other ∈ progress.store.inbox, other.jobId = context.job.id →
        other.event.sequence = progress.context.lastEventSequence + 1 →
        other.processing.open = false := by
      intro other hother hotherJob hnumber
      by_contra hopen
      have hmem : other ∈ progress.pending := by
        refine List.mem_filter.mpr ⟨hother, ?_⟩
        simp only [hotherJob, hjob, hnumber, decide_true, Bool.true_and]
        exact Bool.eq_true_of_not_eq_false hopen
      rw [hpending] at hmem
      exact List.not_mem_nil hmem
    have hne : row.event.sequence ≠ progress.context.lastEventSequence + 1 := by
      intro hnumber
      have hclosed := hnotNext row hrow hrowJob hnumber
      rw [hgap] at hclosed
      cases hclosed
    have hold : row ∈ store.inbox := by
      have hmem := (hadvances.beyond row hbeyond).mp hrow
      rw [inbox_beforeLoop] at hmem
      rcases List.mem_append.mp hmem with hmem | hmem
      · exact hmem
      · rw [List.mem_singleton.mp hmem] at hgap
        cases hgap
    refine ⟨row, hold, hrowJob, hgap, progress.context.lastEventSequence + 1, by omega, by omega,
      ?_⟩
    intro other hother hotherJob hnumber
    refine hnotNext other ((hadvances.beyond other (by omega)).mpr ?_) hotherJob hnumber
    rw [inbox_beforeLoop]
    exact List.mem_append_left _ hother
  · rintro ⟨row, hrow, hrowJob, hgap, missing, hlow, hhigh, hclosed⟩
    have hmissing : progress.context.lastEventSequence < missing := by
      by_contra hle
      obtain ⟨other, hother, hotherJob, hnumber, hopen⟩ := hadvances.taken missing
        (show context.lastEventSequence < missing by omega) (by omega)
      rw [inbox_beforeLoop] at hother
      rcases List.mem_append.mp hother with hold | hnew
      · rw [hclosed other hold hotherJob hnumber] at hopen
        cases hopen
      · rw [List.mem_singleton.mp hnew] at hnumber
        omega
    have hmem : row ∈ progress.store.inbox := by
      rw [hadvances.beyond row (by omega), inbox_beforeLoop]
      exact List.mem_append_left _ hrow
    have hbeyond : progress.context.lastEventSequence < row.event.sequence := by omega
    refine List.any_eq_true.mpr ⟨row, hmem, ?_⟩
    simp only [hrowJob, hjob, hgap, hbeyond, decide_true, Bool.and_self]

theorem reconciliationRequired_ingest (platform : Platform) (outside : IngestOutside)
    (h : store.NextEvent input context) :
    ∃ row, (store.ingest platform outside input).2.scheduler.jobs.get context.job.id = some row ∧
      (row.reconciliationRequired = true ↔ store.WaitsBeyond context) := by
  obtain ⟨progress, hdrain, hproceeds, hpending, hsettled⟩ := loop_of_nextEvent platform outside h
  have hjob : progress.context.job = context.job := hproceeds.job
  have hrow : progress.store.scheduler.jobs.get context.job.id = some context.job := by
    rw [hproceeds.jobs]
    exact (get_of_contextOf h.found).1
  refine ⟨context.job.follow progress.context.phase progress.waiting
    progress.context.runStatus outside.now, ?_, waiting_iff h (advances_drain hdrain) hpending⟩
  rw [hsettled, jobs_settle, hjob, SchedulerStore.get_updateJob_self hrow]

end Ingestion

section Steps

variable {requests : Requests} {jobId : JsString} {resp : Except Thrown SchedulerJob}
  {step : ReconciliationStep} {next : SchedulerStore} {decided : JsString}

theorem flagged_listForReconciliation {now : ℕ}
    (h : Flagged store jobId ∨
      (ReconciliationStep.listForReconciliation now).Raises store jobId) :
    Flagged ((ReconciliationStep.listForReconciliation now).apply platform store) jobId := by
  intro row' hrow'
  have hget : (store.scheduler.expireStale now).jobs.get jobId = some row' := hrow'
  rw [SchedulerStore.get_expireStale] at hget
  obtain ⟨row, hrow, rfl⟩ := Option.map_eq_some_iff.mp hget
  by_cases haffected : store.scheduler.affected now row = true
  · rw [if_pos haffected]
    rfl
  · rw [if_neg haffected]
    rcases h with hflagged | ⟨found, hfound, hraised⟩
    · exact hflagged hrow
    · obtain rfl := Option.some.inj (hrow.symm.trans hfound)
      exact absurd hraised haffected

theorem decision_cases (platform : Platform)
    (h : step.decision store.scheduler = some (decided, (resp, next))) :
    (step.apply platform store).scheduler = next ∧
      ((∃ job, resp = .ok job) ∨ next = store.scheduler) ∧
      ∀ id, id ≠ decided → next.jobs.get id = store.scheduler.jobs.get id := by
  cases step with
  | listForReconciliation now => cases h
  | ingest outside input => cases h
  | reconcileExternal id external now =>
      simp only [ReconciliationStep.decision, Option.some.injEq, Prod.mk.injEq] at h
      obtain ⟨rfl, hexec⟩ := h
      refine ⟨congrArg Prod.snd hexec, ?_⟩
      rcases SchedulerStore.commitExternalState_cases hexec with
        ⟨-, rfl⟩ | ⟨row, -, -, hresp, hjobs, -⟩
      · exact ⟨.inr rfl, fun _ _ => rfl⟩
      · refine ⟨.inl ⟨_, hresp⟩, fun other hne => ?_⟩
        rw [hjobs, SchedulerStore.get_updateJob_of_ne hne]
  | markTimedOut id now =>
      simp only [ReconciliationStep.decision, Option.some.injEq, Prod.mk.injEq] at h
      obtain ⟨rfl, hexec⟩ := h
      refine ⟨congrArg Prod.snd hexec, ?_⟩
      rcases SchedulerStore.concludeJob_cases hexec with
        ⟨-, rfl⟩ | ⟨row, -, -, hresp, hjobs, -⟩
      · exact ⟨.inr rfl, fun _ _ => rfl⟩
      · refine ⟨.inl ⟨_, hresp⟩, fun other hne => ?_⟩
        rw [hjobs, SchedulerStore.get_updateJob_of_ne hne]
  | markStopped id now =>
      simp only [ReconciliationStep.decision, Option.some.injEq, Prod.mk.injEq] at h
      obtain ⟨rfl, hexec⟩ := h
      refine ⟨congrArg Prod.snd hexec, ?_⟩
      rcases SchedulerStore.concludeJob_cases hexec with
        ⟨-, rfl⟩ | ⟨row, -, -, hresp, hjobs, -⟩
      · exact ⟨.inr rfl, fun _ _ => rfl⟩
      · refine ⟨.inl ⟨_, hresp⟩, fun other hne => ?_⟩
        rw [hjobs, SchedulerStore.get_updateJob_of_ne hne]

theorem flagged_decision (h : step.decision store.scheduler = some (decided, (resp, next)))
    (hopen : ¬ step.Answers store jobId) (hflagged : Flagged store jobId) :
    Flagged (step.apply platform store) jobId := by
  obtain ⟨hnext, hstored, hothers⟩ := decision_cases platform h
  intro row hrow
  rw [hnext] at hrow
  by_cases hid : jobId = decided
  · rcases hstored with ⟨job, rfl⟩ | rfl
    · exact absurd ⟨job, next, by rw [h, hid]⟩ hopen
    · exact hflagged hrow
  · rw [hothers jobId hid] at hrow
    exact hflagged hrow

theorem flagged_ingest {outside : IngestOutside} {input : IngestInput}
    (hcond : ∀ context, store.NextEvent input context → context.job.id = jobId →
      store.WaitsBeyond context) (hflagged : Flagged store jobId) :
    Flagged (store.ingest platform outside input).2 jobId := by
  rcases hexec : store.ingest platform outside input with ⟨resp, store'⟩
  intro row' hrow'
  rcases ingest_cases hexec with hsame | ⟨flagged, hflag⟩ | ⟨context, hnext⟩
  · rw [hsame] at hrow'
    exact hflagged hrow'
  · rw [hflag, SchedulerStore.get_updateJobs] at hrow'
    obtain ⟨row, hrow, rfl⟩ := Option.map_eq_some_iff.mp hrow'
    split
    · rfl
    · exact hflagged hrow
  · by_cases hid : context.job.id = jobId
    · obtain ⟨row, hrow, hiff⟩ := reconciliationRequired_ingest platform outside hnext
      rw [hexec, hid] at hrow
      obtain rfl := Option.some.inj (hrow.symm.trans hrow')
      exact hiff.mpr (hcond context hnext hid)
    · obtain ⟨status, hmaps⟩ := mapsEvent_of_nextEvent hnext hexec
      rw [hmaps.otherJobs jobId (Ne.symm hid)] at hrow'
      exact hflagged hrow'

theorem flagged_apply (step : ReconciliationStep) (hcond : KeepsRequests store requests step)
    (hflagged : ∀ ⦃id⦄, requests id → Flagged store id)
    (hrequest : requests.after store step jobId) :
    Flagged (step.apply platform store) jobId := by
  obtain ⟨hraised, hopen⟩ := hrequest
  have hdecision : ∀ {decided resp next}, step.decision store.scheduler =
      some (decided, (resp, next)) → ¬ step.Raises store jobId →
      Flagged (step.apply platform store) jobId := by
    intro decided resp next hdecided hnotRaised
    exact flagged_decision hdecided hopen (hflagged (hraised.resolve_right hnotRaised))
  cases step with
  | listForReconciliation now =>
      exact flagged_listForReconciliation (hraised.imp_left fun hrequested =>
        hflagged hrequested)
  | ingest outside input =>
      have hrequested : requests jobId := hraised.resolve_right id
      refine flagged_ingest ?_ (hflagged hrequested)
      intro context hnext hid
      refine hcond outside input rfl context hnext ?_
      rwa [hid]
  | reconcileExternal id external now => exact hdecision rfl fun h => h
  | markTimedOut id now => exact hdecision rfl fun h => h
  | markStopped id now => exact hdecision rfl fun h => h

end Steps

/-- A request is kept as long as the next event of its job leaves an event waiting. -/
theorem requestsKept_of_keepsRequests (platform : Platform) :
    RequestsKept platform KeepsRequests := by
  intro start store requests hhistory
  induction hhistory with
  | start =>
      intro jobId hrequest
      exact hrequest.elim
  | step step history hcond ih =>
      intro jobId hrequest
      exact flagged_apply step hcond ih hrequest

/-! ## An event after the expiry of a lease -/

def issuedStore : EventStore :=
  let registered := SchedulerStore.empty.registerNode sampleNode
  let claimed := ((registered.admitJob sampleScope).getD registered).claimNext 1000
  let leased := claimed.2.acquireLease
    { runId := js "run"
      nodeId := js "node"
      ownerId := js "first"
      now := 1000
      expiresAt := 31000 }
  let issued := leased.2.markExternalStartIssued
    { jobId := js "job"
      expectedVersion := 2
      externalRunId := js "cp-run-a1"
      lease := sampleLease
      now := 1000 }
  { EventStore.empty with scheduler := issued.2 }

def sweep : ReconciliationStep := .listForReconciliation 40000

def firstEvent : ReconciliationStep :=
  .ingest sampleIngestion { event := sampleEvent, digest := js "digest" }

def flagOf (store : EventStore) : Option Bool :=
  (store.scheduler.jobs.get (js "job")).map (·.reconciliationRequired)

theorem not_requestsKept : ¬ RequestsKept samplePlatform fun _ _ _ => True := by
  intro hclaim
  have hraised : ((issuedStore.scheduler.jobs.get (js "job")).map
      (issuedStore.scheduler.affected 40000)) = some true := by
    decide +kernel
  have hcleared : flagOf (firstEvent.apply samplePlatform
      (sweep.apply samplePlatform issuedStore)) = some false := by
    decide +kernel
  obtain ⟨row, hrow, haffected⟩ := Option.map_eq_some_iff.mp hraised
  obtain ⟨row', hrow', hflag⟩ := Option.map_eq_some_iff.mp hcleared
  have hstart : RequestHistory samplePlatform (fun _ _ _ => True) issuedStore issuedStore
      fun _ => False := .start
  have hhistory := RequestHistory.step firstEvent (.step sweep hstart trivial) trivial
  have hunanswered : ∀ (step : ReconciliationStep) (store : EventStore),
      step.decision store.scheduler = none → ¬ step.Answers store (js "job") := by
    rintro step store hnone ⟨job, next, hdecided⟩
    rw [hnone] at hdecided
    cases hdecided
  have hrequest : Flagged _ (js "job") := hclaim hhistory
    ⟨.inl ⟨.inr ⟨row, hrow, haffected⟩, hunanswered sweep _ rfl⟩, hunanswered firstEvent _ rfl⟩
  rw [hrequest hrow'] at hflag
  cases hflag

end DevHarness.Scheduler
