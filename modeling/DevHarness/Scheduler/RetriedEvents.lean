import DevHarness.Scheduler.Attempts
import DevHarness.Scheduler.InboxProgress

/-!
# Events of a retried attempt

The number of the last event belongs to the job, and the numbers of the events start again with
each attempt.  A job is retried only before it has taken an event, so the number is zero then.
An event of the earlier attempt may still wait in the inbox of the job, and is taken for an
event of the new one.
-/

namespace DevHarness.Scheduler

open JsText Interleave

/-! ## Where the row of a job comes from -/

/-- What a change makes of the row of a job, as far as its attempts are concerned. -/
inductive JobOrigin (store : EventStore) (id : JsString) : StoreChange → JobRow → Prop
  | admitted {change : StoreChange} {row' : JobRow}
      (hfresh : store.scheduler.jobs.get id = none) (hstate : row'.state = .pending)
      (hexternal : row'.externalRunId = none) : JobOrigin store id change row'
  | changed {outside : Outside} {command : SchedulerCommand} {row row' : JobRow}
      (hrow : store.scheduler.jobs.get id = some row) (hchange : RowChange command row row') :
      JobOrigin store id (.scheduler outside command) row'
  | same {change : StoreChange} {row row' : JobRow}
      (hrow : store.scheduler.jobs.get id = some row) (hstate : row'.state = row.state)
      (hexternal : row'.externalRunId = row.externalRunId) : JobOrigin store id change row'
  | mapped {outside : IngestOutside} {input : IngestInput} {context : EventContext} {row' : JobRow}
      (hnext : store.NextEvent input context) (hid : id = context.job.id)
      (hstate : row'.state.pastStart = true)
      (hexternal : row'.externalRunId = context.job.externalRunId) :
      JobOrigin store id (.ingest outside input) row'

variable {platform : Platform} {store store' : EventStore} {change : StoreChange} {id : JsString}
  {row row' : JobRow} {context : EventContext} {input : IngestInput} {outside : IngestOutside}
  {m : StoreMoment}

section Origins

theorem RunStatus.pastStart_jobState (status : RunStatus) : status.jobState.pastStart = true := by
  cases status <;> rfl

theorem externalRunId_of_contextOf {externalRunId : JsString}
    (h : store.contextOf externalRunId = some context) :
    context.job.externalRunId = some externalRunId ∧
      context.lastEventSequence = store.lastEventSequence context.job.id := by
  obtain ⟨job, hjob, hrest⟩ := Option.bind_eq_some_iff.mp h
  obtain ⟨run, -, hcontext⟩ := Option.bind_eq_some_iff.mp hrest
  obtain rfl := Option.some.inj hcontext
  exact ⟨by simpa using List.find?_some hjob, rfl⟩

theorem get_ingest (platform : Platform) (outside : IngestOutside)
    (h : store.NextEvent input context) :
    ∃ (phase : JsString) (flag : Bool) (status : RunStatus),
      (store.ingest platform outside input).2.scheduler.jobs.get context.job.id =
        some (context.job.follow phase flag status outside.now) := by
  obtain ⟨progress, -, hproceeds, -, hsettled⟩ := loop_of_nextEvent platform outside h
  have hjob : progress.context.job = context.job := hproceeds.job
  have hrow : progress.store.scheduler.jobs.get context.job.id = some context.job := by
    rw [hproceeds.jobs]
    exact (get_of_contextOf h.found).1
  refine ⟨progress.context.phase, progress.waiting, progress.context.runStatus, ?_⟩
  rw [hsettled, jobs_settle, hjob, SchedulerStore.get_updateJob_self hrow]

theorem externalRunId_admitJob {s t : SchedulerStore} {scope : JobScope}
    (hadmitted : s.admitJob scope = some t) (hrow : t.jobs.get scope.id = some row) :
    row.state = .pending ∧ row.externalRunId = none := by
  have hfresh := (get_admitJob hadmitted).1
  unfold SchedulerStore.admitJob at hadmitted
  split at hadmitted
  · cases hadmitted
  · obtain rfl := Option.some.inj hadmitted
    rw [Sql.Table.get_insertNew, if_pos ⟨rfl, hfresh⟩] at hrow
    obtain rfl := Option.some.inj hrow
    exact ⟨rfl, rfl⟩

theorem jobOrigin_ingest
    (hrow' : (store.ingest platform outside input).2.scheduler.jobs.get id = some row') :
    JobOrigin store id (.ingest outside input) row' := by
  rcases hexec : store.ingest platform outside input with ⟨resp, next⟩
  rw [hexec] at hrow'
  rcases ingest_cases hexec with hsame | ⟨flagged, hflag⟩ | ⟨context, hnext⟩
  · rw [hsame] at hrow'
    exact .same hrow' rfl rfl
  · rw [hflag, SchedulerStore.get_updateJobs] at hrow'
    obtain ⟨row, hrow, rfl⟩ := Option.map_eq_some_iff.mp hrow'
    by_cases hid : decide (row.id = flagged) = true
    · rw [if_pos hid]
      exact .same hrow rfl rfl
    · rw [if_neg hid]
      exact .same hrow rfl rfl
  · by_cases hid : id = context.job.id
    · obtain ⟨phase, flag, status, hget⟩ := get_ingest platform outside hnext
      rw [hexec, ← hid, hrow'] at hget
      obtain rfl := Option.some.inj hget
      exact .mapped hnext hid status.pastStart_jobState rfl
    · obtain ⟨status, hmaps⟩ := mapsEvent_of_nextEvent hnext hexec
      rw [hmaps.otherJobs id hid] at hrow'
      exact .same hrow' rfl rfl

theorem jobOrigin_of_apply (happly : change.apply platform store = some store')
    (hrow' : store'.scheduler.jobs.get id = some row') : JobOrigin store id change row' := by
  cases change with
  | scheduler outside command =>
      obtain rfl := Option.some.inj happly
      rcases hexec : execScheduler outside command store.scheduler with ⟨resp, next⟩
      have hget : next.jobs.get id = some row' := by
        rw [← hrow', hexec]
      have hrel := scopesKept_of_exec hexec id
      cases hrow : store.scheduler.jobs.get id with
      | none =>
          rw [hrow, hget] at hrel
          cases hrel
      | some row =>
          obtain ⟨found, hfound, hchange⟩ := rowChange_of_exec hexec hrow
          obtain rfl := Option.some.inj (hget.symm.trans hfound)
          exact .changed hrow hchange
  | others change =>
      obtain ⟨scheduler, hchange, rfl⟩ := Option.map_eq_some_iff.mp happly
      cases change with
      | admitJob scope =>
          obtain ⟨hfresh, new, -, -, -, hget⟩ := get_admitJob hchange
          by_cases hid : id = scope.id
          · subst hid
            obtain ⟨hstate, hexternal⟩ := externalRunId_admitJob hchange hrow'
            exact .admitted hfresh hstate hexternal
          · have hsame : store.scheduler.jobs.get id = some row' := by
              rw [← hrow', hget, if_neg hid]
            exact .same hsame rfl rfl
      | registerNode node =>
          obtain rfl := Option.some.inj hchange
          exact .same hrow' rfl rfl
      | setControl control =>
          obtain rfl := Option.some.inj hchange
          exact .same hrow' rfl rfl
  | ingest outside input =>
      obtain rfl := Option.some.inj happly
      exact jobOrigin_ingest hrow'

theorem jobsEvolve_apply (happly : change.apply platform store = some store') :
    JobsEvolve store.scheduler store'.scheduler := by
  cases change with
  | scheduler outside command =>
      obtain rfl := Option.some.inj happly
      exact (scopesKept_of_exec rfl).evolve
  | others change =>
      obtain ⟨scheduler, hchange, rfl⟩ := Option.map_eq_some_iff.mp happly
      cases change with
      | admitJob scope =>
          obtain ⟨hfresh, new, -, -, -, hget⟩ := get_admitJob hchange
          intro id row hrow
          have hid : id ≠ scope.id := by
            rintro rfl
            rw [hfresh] at hrow
            cases hrow
          exact ⟨row, by rw [hget, if_neg hid, hrow], rfl⟩
      | registerNode node =>
          obtain rfl := Option.some.inj hchange
          exact (ScopesKept.of_eq rfl).evolve
      | setControl control =>
          obtain rfl := Option.some.inj hchange
          exact (ScopesKept.of_eq rfl).evolve
  | ingest outside input =>
      obtain ⟨resp, hexec⟩ := exists_ingest_of_apply happly
      by_cases hnext : ∃ context, store.NextEvent input context
      · obtain ⟨context, hnext⟩ := hnext
        obtain ⟨status, hmaps⟩ := mapsEvent_of_nextEvent hnext hexec
        exact (hmaps.scopesKept (get_of_contextOf hnext.found).1).evolve
      · exact (orderly_of_ingest (not_exists.mp hnext) hexec).1.evolve

end Origins

/-! ## What always holds -/

/-- The number of the last event of a job, and the rows that wait. -/
structure Counted (store : EventStore) : Prop where
  /-- A job that has taken an event is past its start. -/
  taken : ∀ ⦃id⦄, store.lastEventSequence id ≠ 0 →
    ∃ row, store.scheduler.jobs.get id = some row ∧ row.state.pastStart = true
  /-- A job that is to be started has no external run. -/
  unissued : ∀ ⦃id row⦄, store.scheduler.jobs.get id = some row → row.state.beforeStart →
    row.externalRunId = none
  /-- No row of the next event waits. -/
  due : ∀ row ∈ store.inbox, row.processing.open = true →
    row.event.sequence ≠ store.lastEventSequence row.jobId + 1

section Counting

variable {command : SchedulerCommand}

theorem RowChange.pastStart (h : RowChange command row row') (hpast : row.state.pastStart = true) :
    row'.state.pastStart = true := by
  obtain ⟨hwaiting, hstarting, hclaimed⟩ := not_waiting_of_pastStart hpast
  cases h with
  | kept => exact hpast
  | flagged => exact hpast
  | extended => exact hpast
  | claimed h => exact absurd h hwaiting
  | unclaimed h => exact absurd h hclaimed
  | issued _ h => exact absurd h hclaimed
  | started => exact pastStart_mappedState _
  | reconciled => exact pastStart_mappedState _
  | failed _ h => exact absurd h hstarting
  | stopped => rfl
  | timedOut => rfl

/-- An external run is given to a job that is claimed, and taken from it for another attempt. -/
theorem RowChange.externalRunId (h : RowChange command row row') :
    row'.externalRunId = row.externalRunId ∨ row'.externalRunId = none ∨
      ∃ input, command = .markExternalStartIssued input ∧ row.id = input.jobId ∧
        row.state = .claimed ∧ row'.state = .starting ∧
        row'.externalRunId = some input.externalRunId := by
  cases h with
  | issued hid hclaimed => exact .inr (.inr ⟨_, rfl, hid, hclaimed, rfl, rfl⟩)
  | failed => exact .inr (.inl rfl)
  | _ => exact .inl rfl

theorem RowChange.unissued (h : RowChange command row row')
    (hnone : row.state.beforeStart → row.externalRunId = none) (hbefore : row'.state.beforeStart) :
    row'.externalRunId = none := by
  rcases h.externalRunId with hsame | hretried | ⟨input, -, -, -, hstarting, -⟩
  · rcases h.attempt with ⟨-, hstill⟩ | ⟨hlater, -⟩
    · rw [hsame, hnone (hstill hbefore)]
    · cases h with
      | failed => rfl
      | _ => exact absurd hlater (Nat.ne_of_lt (Nat.lt_succ_self _))
  · exact hretried
  · rw [hstarting] at hbefore
    rcases hbefore with (h | h) | h <;> cases h

theorem lastEventSequence_apply (happly : change.apply platform store = some store')
    (id : JsString) :
    store'.lastEventSequence id = store.lastEventSequence id ∨
    ∃ outside input context, change = .ingest outside input ∧ store.NextEvent input context ∧
      id = context.job.id := by
  cases change with
  | scheduler outside command =>
      obtain rfl := Option.some.inj happly
      exact .inl rfl
  | others change =>
      obtain ⟨scheduler, -, rfl⟩ := Option.map_eq_some_iff.mp happly
      exact .inl rfl
  | ingest outside input =>
      obtain ⟨resp, hexec⟩ := exists_ingest_of_apply happly
      rcases ingest_outcomes hexec with rfl | ⟨context, -, -, rfl⟩ | ⟨context, -, -, rfl⟩ |
        ⟨context, hnext⟩
      · exact .inl rfl
      · exact .inl rfl
      · exact .inl rfl
      · by_cases hid : id = context.job.id
        · exact .inr ⟨outside, input, context, rfl, hnext, hid⟩
        · obtain ⟨progress, hdrain, hproceeds, -, hsettled⟩ := loop_of_nextEvent platform outside
            hnext
          obtain ⟨-, rfl⟩ := Prod.mk.inj (hexec.symm.trans hsettled)
          have hjob : progress.context.job = context.job := hproceeds.job
          have hcolumns : progress.store.lastEventSequence = store.lastEventSequence :=
            (advances_drain hdrain).columns
          rw [lastEventSequence_settle, hjob, if_neg hid, hcolumns]
          exact .inl rfl

theorem due_ingest (h : Counted store) : ∀ row ∈ (store.ingest platform outside input).2.inbox,
    row.processing.open = true → row.event.sequence ≠
      (store.ingest platform outside input).2.lastEventSequence row.jobId + 1 := by
  rcases hexec : store.ingest platform outside input with ⟨resp, next⟩
  intro row hrow hopen
  rcases ingest_outcomes hexec with rfl | ⟨context, hfound, hearly, rfl⟩ |
    ⟨context, hfound, hlate, rfl⟩ | ⟨context, hnext⟩
  · exact h.due row hrow hopen
  · rcases List.mem_append.mp hrow with hold | hnew
    · exact h.due row hold hopen
    · obtain rfl := List.mem_singleton.mp hnew
      have hlast := (externalRunId_of_contextOf hfound).2
      change input.event.sequence ≠ store.lastEventSequence context.job.id + 1
      omega
  · rcases List.mem_append.mp hrow with hold | hnew
    · exact h.due row hold hopen
    · obtain rfl := List.mem_singleton.mp hnew
      cases hopen
  · obtain ⟨progress, hdrain, hproceeds, hpending, hsettled⟩ := loop_of_nextEvent platform outside
      hnext
    obtain ⟨-, rfl⟩ := Prod.mk.inj (hexec.symm.trans hsettled)
    have hadvances := advances_drain hdrain
    have hjob : progress.context.job = context.job := hproceeds.job
    have hcolumns : progress.store.lastEventSequence = store.lastEventSequence :=
      hadvances.columns
    change row ∈ progress.store.inbox at hrow
    intro hnumber
    rw [lastEventSequence_settle] at hnumber
    by_cases hid : row.jobId = progress.context.job.id
    · rw [if_pos hid] at hnumber
      have hwaits : row ∈ progress.pending := by
        refine List.mem_filter.mpr ⟨hrow, ?_⟩
        simp only [hid, hnumber, hopen, decide_true, Bool.and_self]
      rw [hpending] at hwaits
      exact List.not_mem_nil hwaits
    · rw [if_neg hid, hcolumns] at hnumber
      have hold := hadvances.opened row hrow hopen
      rw [inbox_beforeLoop] at hold
      rcases List.mem_append.mp hold with hold | hnew
      · exact h.due row hold hopen hnumber
      · rw [List.mem_singleton.mp hnew, hjob] at hid
        exact hid rfl

theorem Counted.apply (h : Counted store) (happly : change.apply platform store = some store') :
    Counted store' := by
  constructor
  · intro id htaken
    rcases lastEventSequence_apply happly id with hsame |
      ⟨outside, input, context, rfl, hnext, rfl⟩
    · rw [hsame] at htaken
      obtain ⟨row, hrow, hpast⟩ := h.taken htaken
      obtain ⟨row', hrow', -⟩ := jobsEvolve_apply happly hrow
      refine ⟨row', hrow', ?_⟩
      cases jobOrigin_of_apply happly hrow' with
      | admitted hfresh =>
          rw [hfresh] at hrow
          cases hrow
      | changed hold hchange =>
          obtain rfl := Option.some.inj (hrow.symm.trans hold)
          exact hchange.pastStart hpast
      | same hold hstate =>
          obtain rfl := Option.some.inj (hrow.symm.trans hold)
          rw [hstate, hpast]
      | mapped _ _ hstate => exact hstate
    · obtain rfl := Option.some.inj happly
      obtain ⟨phase, flag, status, hget⟩ := get_ingest platform outside hnext
      exact ⟨_, hget, status.pastStart_jobState⟩
  · intro id row' hrow' hbefore
    cases jobOrigin_of_apply happly hrow' with
    | admitted _ _ hexternal => exact hexternal
    | changed hrow hchange => exact hchange.unissued (h.unissued hrow) hbefore
    | same hrow hstate hexternal =>
        rw [hexternal]
        rw [hstate] at hbefore
        exact h.unissued hrow hbefore
    | mapped _ _ hstate => exact absurd hbefore (not_beforeStart_of_pastStart hstate)
  · cases change with
    | scheduler outside command =>
        obtain rfl := Option.some.inj happly
        exact h.due
    | others change =>
        obtain ⟨scheduler, -, rfl⟩ := Option.map_eq_some_iff.mp happly
        exact h.due
    | ingest outside input =>
        obtain rfl := Option.some.inj happly
        exact due_ingest h

end Counting

/-! ## Deliveries in order -/

def isDelivery (externalRunId : JsString) : Event Empty (fun _ => Unit) Empty Empty Unit StoreChange →
    Bool
  | .changed (.ingest _ input) => decide (input.event.externalRunId = externalRunId)
  | _ => false

def deliveries (externalRunId : JsString) (m : StoreMoment) : ℕ :=
  m.past.countP (isDelivery externalRunId)

/-- The event belongs to the job of its external run, and no event is known under its id. -/
structure EventStore.Valid (store : EventStore) (input : IngestInput) (context : EventContext) :
    Prop where
  unknown : (store.inbox.find? fun row =>
    row.event.sourceEventId = input.event.sourceEventId) = none
  found : store.contextOf input.event.externalRunId = some context
  identified : EventStore.identified context input.event = true

/-- The events of the external run come one after the other. -/
def InOrder (externalRunId : JsString) (m : StoreMoment) : Attempt Empty Empty StoreChange → Prop
  | .change (.ingest _ input) => input.event.externalRunId = externalRunId →
    (∃ context, m.state.Valid input context) ∧
      input.event.sequence = deliveries externalRunId m + 1
  | _ => True

/-- A start is issued under an id that no job and no event has. -/
def NewIds (m : StoreMoment) : Attempt Empty Empty StoreChange → Prop
  | .change (.scheduler _ (.markExternalStartIssued input)) =>
    (∀ ⦃id row⦄, m.state.scheduler.jobs.get id = some row →
      row.externalRunId ≠ some input.externalRunId) ∧
    ∀ row ∈ m.state.inbox, row.event.externalRunId ≠ input.externalRunId
  | _ => True

/-- When an event of the external run comes, no event of another external run waits in the inbox
of its job with the number after it. -/
def NothingStale (externalRunId : JsString) (m : StoreMoment) :
    Attempt Empty Empty StoreChange → Prop
  | .change (.ingest _ input) => input.event.externalRunId = externalRunId →
    ∀ context, m.state.contextOf externalRunId = some context → ∀ row ∈ m.state.inbox,
      row.jobId = context.job.id → row.event.externalRunId ≠ externalRunId →
      row.event.sequence = input.event.sequence + 1 → row.processing.open = false
  | _ => True

/-- What the deliveries in order have led to. -/
structure InStep (externalRunId : JsString) (m : StoreMoment) : Prop where
  counted : Counted m.state
  unique : ∀ ⦃id id' row row'⦄, m.state.scheduler.jobs.get id = some row →
    m.state.scheduler.jobs.get id' = some row' → row.externalRunId = some externalRunId →
    row'.externalRunId = some externalRunId → id = id'
  numbered : ∀ event ∈ m.state.inbox.map InboxRow.event, event.externalRunId = externalRunId →
    event.sequence ≤ deliveries externalRunId m
  recorded : 0 < deliveries externalRunId m →
    ∃ event ∈ m.state.inbox.map InboxRow.event, event.externalRunId = externalRunId
  last : ∀ ⦃id row⦄, m.state.scheduler.jobs.get id = some row →
    row.externalRunId = some externalRunId →
    m.state.lastEventSequence id = deliveries externalRunId m

section Order

variable {externalRunId : JsString}

theorem deliveries_push (m : StoreMoment) (change : StoreChange) (store : EventStore) :
    deliveries externalRunId (m.push (.changed change) store) = deliveries externalRunId m +
      if isDelivery externalRunId (.changed change) = true then 1 else 0 :=
  List.countP_cons

theorem nextEvent_of_valid (h : InStep externalRunId m)
    (hexternal : input.event.externalRunId = externalRunId) (hvalid : m.state.Valid input context)
    (hnumber : input.event.sequence = deliveries externalRunId m + 1) :
    m.state.NextEvent input context := by
  obtain ⟨hunknown, hfound, hidentified⟩ := hvalid
  obtain ⟨hjob, hlast⟩ := externalRunId_of_contextOf hfound
  rw [hexternal] at hjob
  refine ⟨hunknown, hfound, hidentified, ?_, ?_⟩
  · apply Bool.eq_false_iff.mpr
    intro htaken
    obtain ⟨row, hrow, hsame⟩ := List.any_eq_true.mp htaken
    simp only [Bool.and_eq_true, decide_eq_true_eq, hexternal] at hsame
    have hle := h.numbered row.event (List.mem_map_of_mem hrow) hsame.1
    omega
  · rw [hlast, h.last (get_of_contextOf hfound).1 hjob, hnumber]

theorem not_waiting_of_inStep (h : InStep externalRunId m)
    (hexternal : input.event.externalRunId = externalRunId)
    (hnumber : input.event.sequence = deliveries externalRunId m + 1)
    (hfound : m.state.contextOf externalRunId = some context)
    (hcond : NothingStale externalRunId m (.change (.ingest outside input))) :
    ∀ row ∈ m.state.inbox, row.jobId = context.job.id →
      row.event.sequence = input.event.sequence + 1 → row.processing.open = false := by
  intro row hrow hjob hafter
  by_cases hown : row.event.externalRunId = externalRunId
  · have hle := h.numbered row.event (List.mem_map_of_mem hrow) hown
    omega
  · exact hcond hexternal context hfound row hrow hjob hown hafter

/-- After the event, its number is the one of the job if nothing waits with the number after
it, and only then. -/
theorem lastEventSequence_ingest (platform : Platform) (outside : IngestOutside)
    (h : store.NextEvent input context) :
    (store.ingest platform outside input).2.lastEventSequence context.job.id =
        input.event.sequence ↔
      ∀ row ∈ store.inbox, row.jobId = context.job.id →
        row.event.sequence = input.event.sequence + 1 → row.processing.open = false := by
  obtain ⟨progress, hdrain, hproceeds, hpending, hsettled⟩ := loop_of_nextEvent platform outside h
  have hadvances := advances_drain hdrain
  have hlt := lt_of_advances h hadvances hpending
  have hjob : progress.context.job = context.job := hproceeds.job
  have hnumber := h.next
  rw [hsettled]
  simp only [lastEventSequence_settle, hjob, if_true]
  constructor
  · intro hlast row hrow hrowJob hafter
    by_contra hopen
    have hmem : row ∈ progress.store.inbox := by
      rw [hadvances.beyond row (by omega), inbox_beforeLoop]
      exact List.mem_append_left _ hrow
    have hwaits : row ∈ progress.pending := by
      refine List.mem_filter.mpr ⟨hmem, ?_⟩
      simp only [hrowJob, hjob, hafter, hlast, decide_true, Bool.true_and]
      exact Bool.eq_true_of_not_eq_false hopen
    rw [hpending] at hwaits
    exact List.not_mem_nil hwaits
  · intro hclosed
    by_contra hne
    obtain ⟨row, hrow, hrowJob, hafter, hopen⟩ := hadvances.taken (input.event.sequence + 1)
      (show context.lastEventSequence < input.event.sequence + 1 by omega) (by omega)
    rw [inbox_beforeLoop] at hrow
    rcases List.mem_append.mp hrow with hold | hnew
    · rw [hclosed row hold hrowJob hafter] at hopen
      cases hopen
    · rw [List.mem_singleton.mp hnew] at hafter
      change input.event.sequence = input.event.sequence + 1 at hafter
      omega

theorem events_ingest (platform : Platform) (outside : IngestOutside)
    (h : store.NextEvent input context) :
    (store.ingest platform outside input).2.inbox.map InboxRow.event =
      store.inbox.map InboxRow.event ++ [input.event] := by
  obtain ⟨progress, hdrain, -, -, hsettled⟩ := loop_of_nextEvent platform outside h
  rw [hsettled, inbox_settle, (advances_drain hdrain).events, inbox_beforeLoop, List.map_append]
  rfl

theorem events_ingest_cases (platform : Platform) (store : EventStore) (outside : IngestOutside)
    (input : IngestInput) :
    (store.ingest platform outside input).2.inbox.map InboxRow.event =
        store.inbox.map InboxRow.event ∨
      (store.ingest platform outside input).2.inbox.map InboxRow.event =
        store.inbox.map InboxRow.event ++ [input.event] := by
  rcases hexec : store.ingest platform outside input with ⟨resp, next⟩
  rcases ingest_outcomes hexec with rfl | ⟨context, -, -, rfl⟩ | ⟨context, -, -, rfl⟩ |
    ⟨context, hnext⟩
  · exact .inl rfl
  · exact .inr List.map_append
  · exact .inr List.map_append
  · have hevents := events_ingest platform outside hnext
    rw [hexec] at hevents
    exact .inr hevents

theorem origin_of_externalRunId {id : JsString} {row' : JobRow}
    (happly : change.apply platform m.state = some store')
    (hrow' : store'.scheduler.jobs.get id = some row')
    (hexternal : row'.externalRunId = some externalRunId) :
    (∃ row, m.state.scheduler.jobs.get id = some row ∧
      row.externalRunId = some externalRunId) ∨
    ∃ outside input row, change = .scheduler outside (.markExternalStartIssued input) ∧
      m.state.scheduler.jobs.get id = some row ∧ id = input.jobId ∧ row.state = .claimed ∧
      input.externalRunId = externalRunId := by
  cases jobOrigin_of_apply happly hrow' with
  | admitted _ _ hnone =>
      rw [hnone] at hexternal
      cases hexternal
  | @changed outside command row _ hrow hchange =>
      rcases hchange.externalRunId with hsame | hnone | ⟨input, rfl, hid, hclaimed, -, hissued⟩
      · exact .inl ⟨row, hrow, by rw [← hsame, hexternal]⟩
      · rw [hnone] at hexternal
        cases hexternal
      · rw [hissued] at hexternal
        refine .inr ⟨outside, input, row, rfl, hrow, ?_, hclaimed, Option.some.inj hexternal⟩
        rw [← hid, SchedulerStore.id_of_get hrow]
  | @same _ row _ hrow _ hsame => exact .inl ⟨row, hrow, by rw [← hsame, hexternal]⟩
  | mapped hnext hid _ hsame =>
      subst hid
      exact .inl ⟨_, (get_of_contextOf hnext.found).1, by rw [← hsame, hexternal]⟩

theorem InStep.keep (h : InStep externalRunId m)
    (happly : change.apply platform m.state = some store')
    (hother : isDelivery externalRunId (.changed change) = false)
    (hnew : NewIds m (.change change))
    (hevents : ∀ event, event.externalRunId = externalRunId →
      (event ∈ store'.inbox.map InboxRow.event ↔ event ∈ m.state.inbox.map InboxRow.event)) :
    InStep externalRunId (m.push (.changed change) store') := by
  have hcount : deliveries externalRunId (m.push (.changed change) store') =
      deliveries externalRunId m := by
    rw [deliveries_push, hother]
    rfl
  have hissued : ∀ {outside input}, change = .scheduler outside (.markExternalStartIssued input) →
      input.externalRunId = externalRunId →
      (∀ ⦃id row⦄, m.state.scheduler.jobs.get id = some row →
        row.externalRunId ≠ some externalRunId) ∧ deliveries externalRunId m = 0 := by
    rintro outside input rfl rfl
    obtain ⟨hjobs, hrows⟩ := hnew
    refine ⟨hjobs, ?_⟩
    by_contra hpos
    obtain ⟨event, hevent, hsame⟩ := h.recorded (Nat.pos_of_ne_zero hpos)
    obtain ⟨row, hrow, rfl⟩ := List.mem_map.mp hevent
    exact hrows row hrow hsame
  constructor
  · exact h.counted.apply happly
  · intro id id' row row' hrow hrow' hexternal hexternal'
    rcases origin_of_externalRunId happly hrow hexternal with ⟨old, hold, hsame⟩ |
      ⟨outside, input, old, hchange, hold, hid, -, hinput⟩
    · rcases origin_of_externalRunId happly hrow' hexternal' with ⟨old', hold', hsame'⟩ |
        ⟨outside, input, old', hchange, -, -, -, hinput⟩
      · exact h.unique hold hold' hsame hsame'
      · exact absurd hsame ((hissued hchange hinput).1 hold)
    · rcases origin_of_externalRunId happly hrow' hexternal' with ⟨old', hold', hsame'⟩ |
        ⟨outside', input', old', hchange', -, hid', -, -⟩
      · exact absurd hsame' ((hissued hchange hinput).1 hold')
      · rw [hchange] at hchange'
        simp only [StoreChange.scheduler.injEq, SchedulerCommand.markExternalStartIssued.injEq]
          at hchange'
        rw [hid, hid', hchange'.2]
  · intro event hevent hsame
    rw [hcount]
    exact h.numbered event ((hevents event hsame).mp hevent) hsame
  · intro hpos
    rw [hcount] at hpos
    obtain ⟨event, hevent, hsame⟩ := h.recorded hpos
    exact ⟨event, (hevents event hsame).mpr hevent, hsame⟩
  · intro id row' hrow' hexternal
    have hlast : store'.lastEventSequence id = m.state.lastEventSequence id := by
      rcases lastEventSequence_apply happly id with hlast |
        ⟨outside, input, context, rfl, hnext, rfl⟩
      · exact hlast
      · obtain ⟨row, hrow, hsame⟩ : ∃ row, m.state.scheduler.jobs.get context.job.id = some row ∧
            row.externalRunId = some externalRunId := by
          rcases origin_of_externalRunId happly hrow' hexternal with hold |
            ⟨_, _, _, hchange, -⟩
          · exact hold
          · cases hchange
        have hjob := (externalRunId_of_contextOf hnext.found).1
        obtain rfl := Option.some.inj (hrow.symm.trans (get_of_contextOf hnext.found).1)
        have hdelivery : input.event.externalRunId = externalRunId :=
          Option.some.inj (hjob.symm.trans hsame)
        simp [isDelivery, hdelivery] at hother
    change store'.lastEventSequence id = _
    rw [hcount, hlast]
    rcases origin_of_externalRunId happly hrow' hexternal with ⟨row, hrow, hsame⟩ |
      ⟨outside, input, row, hchange, hrow, -, hclaimed, hinput⟩
    · exact h.last hrow hsame
    · rw [(hissued hchange hinput).2]
      by_contra htaken
      obtain ⟨row', hsome, hpast⟩ := h.counted.taken htaken
      obtain rfl := Option.some.inj (hrow.symm.trans hsome)
      rw [hclaimed] at hpast
      cases hpast

theorem InStep.deliver (h : InStep externalRunId m)
    (hexternal : input.event.externalRunId = externalRunId) (hvalid : m.state.Valid input context)
    (hnumber : input.event.sequence = deliveries externalRunId m + 1)
    (hcond : NothingStale externalRunId m (.change (.ingest outside input))) :
    InStep externalRunId (m.push (.changed (.ingest outside input))
      (m.state.ingest platform outside input).2) := by
  have happly : (StoreChange.ingest outside input).apply platform m.state =
      some (m.state.ingest platform outside input).2 := rfl
  have hnext := nextEvent_of_valid h hexternal hvalid hnumber
  have hfound := hvalid.found
  rw [hexternal] at hfound
  have hcount : deliveries externalRunId (m.push (.changed (.ingest outside input))
      (m.state.ingest platform outside input).2) = deliveries externalRunId m + 1 := by
    rw [deliveries_push]
    simp [isDelivery, hexternal]
  have hold : ∀ {id row'}, (m.state.ingest platform outside input).2.scheduler.jobs.get id =
      some row' → row'.externalRunId = some externalRunId →
      ∃ row, m.state.scheduler.jobs.get id = some row ∧
        row.externalRunId = some externalRunId := by
    intro id row' hrow' hsame
    rcases origin_of_externalRunId happly hrow' hsame with hold | ⟨_, _, _, hchange, -⟩
    · exact hold
    · cases hchange
  constructor
  · exact h.counted.apply happly
  · intro id id' row row' hrow hrow' hsame hsame'
    obtain ⟨old, hget, hsame⟩ := hold hrow hsame
    obtain ⟨old', hget', hsame'⟩ := hold hrow' hsame'
    exact h.unique hget hget' hsame hsame'
  · intro event hevent hsame
    rw [hcount]
    change event ∈ (m.state.ingest platform outside input).2.inbox.map InboxRow.event at hevent
    rw [events_ingest platform outside hnext] at hevent
    rcases List.mem_append.mp hevent with hevent | hevent
    · exact Nat.le_succ_of_le (h.numbered event hevent hsame)
    · rw [List.mem_singleton.mp hevent, hnumber]
  · intro _
    refine ⟨input.event, ?_, hexternal⟩
    change input.event ∈ (m.state.ingest platform outside input).2.inbox.map InboxRow.event
    rw [events_ingest platform outside hnext]
    exact List.mem_append_right _ (List.mem_singleton.mpr rfl)
  · intro id row' hrow' hsame
    obtain ⟨row, hrow, hsame⟩ := hold hrow' hsame
    obtain ⟨hjob, -⟩ := externalRunId_of_contextOf hfound
    have hid : id = context.job.id := h.unique hrow (get_of_contextOf hfound).1 hsame hjob
    rw [hcount, hid, ← hnumber]
    exact (lastEventSequence_ingest platform outside hnext).mpr
      (not_waiting_of_inStep h hexternal hnumber hfound hcond)

theorem InStep.apply (h : InStep externalRunId m)
    (happly : change.apply platform m.state = some store') (hnew : NewIds m (.change change))
    (horder : InOrder externalRunId m (.change change))
    (hcond : NothingStale externalRunId m (.change change)) :
    InStep externalRunId (m.push (.changed change) store') := by
  cases change with
  | scheduler outside command =>
      obtain rfl := Option.some.inj happly
      exact h.keep happly rfl hnew fun _ _ => Iff.rfl
  | others change =>
      obtain ⟨scheduler, -, rfl⟩ := Option.map_eq_some_iff.mp happly
      exact h.keep happly rfl hnew fun _ _ => Iff.rfl
  | ingest outside input =>
      obtain rfl := Option.some.inj happly
      by_cases hexternal : input.event.externalRunId = externalRunId
      · obtain ⟨⟨context, hvalid⟩, hnumber⟩ := horder hexternal
        exact h.deliver hexternal hvalid hnumber hcond
      · refine h.keep happly (decide_eq_false hexternal) hnew ?_
        intro event hsame
        rcases events_ingest_cases platform m.state outside input with hevents | hevents
        · rw [hevents]
        · rw [hevents, List.mem_append, List.mem_singleton]
          constructor
          · rintro (hold | rfl)
            · exact hold
            · exact absurd hsame hexternal
          · exact .inl

end Order

section Admissible

variable {externalRunId : JsString} {attempt : Attempt Empty Empty StoreChange}

end Admissible

end DevHarness.Scheduler
