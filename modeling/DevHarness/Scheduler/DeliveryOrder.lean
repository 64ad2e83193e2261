import DevHarness.Scheduler.MemoryEvents
import DevHarness.Scheduler.TerminalJobs

/-!
# The order of deliveries

A repository that has received some events of a run, in whatever order, has taken the ones that
go from one on without a gap, and keeps the others.
-/

namespace DevHarness.Scheduler

open JsText Sequence

def RegisteredRun.course (platform : Platform) (run : RegisteredRun) (inputs : List IngestInput) :
    RegisteredRun × List RunOutboxEvent :=
  inputs.foldl (fun reached input =>
    let taken := reached.1.take platform input.event
    (taken.1, reached.2 ++ taken.2)) (run, [])

def RegisteredRun.withFlag (run : RegisteredRun) (flag : Bool) : RegisteredRun :=
  { run with reconciliationRequired := flag }

def IngestInput.number (input : IngestInput) : ℕ := input.event.sequence

def InboxRecord.input (record : InboxRecord) : IngestInput where
  event := record.event
  digest := record.digest

namespace RegisteredRun

variable {event : RunEvent} {platform : Platform} {run start : RegisteredRun}
  {events delivered : List IngestInput} {first k : ℕ}

theorem course_append (inputs : List IngestInput) (input : IngestInput) :
    run.course platform (inputs ++ [input]) =
      (((run.course platform inputs).1.take platform input.event).1,
        (run.course platform inputs).2 ++
          ((run.course platform inputs).1.take platform input.event).2) := by
  rw [course, List.foldl_append]
  rfl

/-! ### The flag plays no part -/

@[simp] theorem status_withFlag (flag : Bool) : (run.withFlag flag).status = run.status := rfl

theorem moveTo_withFlag (flag : Bool) (status : RunStatus) (eventType : String) :
    (run.withFlag flag).moveTo status eventType =
      ((run.moveTo status eventType).1.withFlag flag, (run.moveTo status eventType).2) := rfl

theorem enter_withFlag (flag : Bool) (status : RunStatus) : (run.withFlag flag).enter status =
    ((run.enter status).1.withFlag flag, (run.enter status).2) := by
  unfold enter
  rw [status_withFlag]
  split
  · rfl
  · rfl

theorem follow_withFlag (flag : Bool) (status : RunStatus) :
    (run.withFlag flag).follow status =
      ((run.follow status).1.withFlag flag, (run.follow status).2) := by
  by_cases hqueued : run.status = .queued ∧ status ≠ .running
  · simp only [follow, status_withFlag, if_pos hqueued, moveTo_withFlag, enter_withFlag]
  · simp only [follow, status_withFlag, if_neg hqueued, enter_withFlag]

def reach (run : RegisteredRun) (event : RunEvent) : RegisteredRun :=
  { run with phase := event.phase, lastEventSequence := event.sequence }

theorem take_cases (platform : Platform) (run : RegisteredRun) (event : RunEvent) :
    (∀ flag, (run.withFlag flag).take platform event = ((run.reach event).withFlag flag, [])) ∨
      ∃ status, ∀ flag,
        (run.withFlag flag).take platform event = ((run.reach event).withFlag flag).follow status := by
  by_cases hterminal : run.status.terminal = true
  · refine .inl fun flag => ?_
    simp only [take, status_withFlag, hterminal, if_true]
    rfl
  · cases hmapped : mappedStatus platform event with
    | none =>
        refine .inl fun flag => ?_
        simp only [take, status_withFlag, hterminal, hmapped]
        rfl
    | some status =>
        by_cases hsame : status = run.status
        · refine .inl fun flag => ?_
          simp only [take, status_withFlag, hterminal, hmapped, hsame, if_true]
          rfl
        · refine .inr ⟨status, fun flag => ?_⟩
          simp only [take, status_withFlag, hterminal, hmapped, hsame]
          rfl

theorem take_withFlag (flag : Bool) : (run.withFlag flag).take platform event =
    ((run.take platform event).1.withFlag flag, (run.take platform event).2) := by
  rcases take_cases platform run event with htaken | ⟨status, htaken⟩
  · have hrun : run.take platform event = (run.reach event, []) := htaken run.reconciliationRequired
    rw [htaken, hrun]
  · have hrun : run.take platform event = (run.reach event).follow status :=
      htaken run.reconciliationRequired
    rw [htaken, hrun, follow_withFlag]

theorem enter_fields (run : RegisteredRun) (status : RunStatus) :
    (run.enter status).1.toRunIdentity = run.toRunIdentity ∧
      (run.enter status).1.lastEventSequence = run.lastEventSequence := by
  unfold enter
  split
  · exact ⟨rfl, rfl⟩
  · exact ⟨rfl, rfl⟩

theorem follow_fields (status : RunStatus) :
    (run.follow status).1.toRunIdentity = run.toRunIdentity ∧
      (run.follow status).1.lastEventSequence = run.lastEventSequence := by
  unfold follow
  split
  · exact (run.moveTo .running "run.started").1.enter_fields status
  · exact run.enter_fields status

theorem take_fields : (run.take platform event).1.toRunIdentity = run.toRunIdentity ∧
    (run.take platform event).1.lastEventSequence = event.sequence := by
  rcases take_cases platform run event with htaken | ⟨status, htaken⟩
  · have hrun : run.take platform event = (run.reach event, []) := htaken run.reconciliationRequired
    rw [hrun]
    exact ⟨rfl, rfl⟩
  · have hrun : run.take platform event = (run.reach event).follow status :=
      htaken run.reconciliationRequired
    rw [hrun]
    exact follow_fields status

theorem identity_course (inputs : List IngestInput) :
    (run.course platform inputs).1.toRunIdentity = run.toRunIdentity := by
  induction inputs using List.reverseRecOn with
  | nil => rfl
  | append_singleton inputs input ih =>
      rw [course_append]
      exact take_fields.1.trans ih

end RegisteredRun

/-! ## What is delivered -/

/-- The events have distinct ids and distinct positive numbers, by which they are listed, and
belong to the run. -/
structure EventsOf (run : RunIdentity) (events : List IngestInput) : Prop where
  increasing : Increasing IngestInput.number events
  sources : (events.map fun input => input.event.sourceEventId).Nodup
  external : ∀ input ∈ events, input.event.externalRunId = run.externalRunId
  matching : ∀ input ∈ events, MemoryEventRepository.matchesRun run input.event = true

theorem EventsOf.eq_of_source_eq {run : RunIdentity} {events : List IngestInput}
    (h : EventsOf run events) {left right : IngestInput} (hleft : left ∈ events)
    (hright : right ∈ events) (hsame : left.event.sourceEventId = right.event.sourceEventId) :
    left = right :=
  List.inj_on_of_nodup_map h.sources hleft hright hsame

/-- The numbers `1..k` of what is delivered have been taken, and the other events wait, those
after `first` as gaps. -/
structure Taken (platform : Platform) (start : RegisteredRun)
    (events delivered : List IngestInput) (first k : ℕ) (run : RegisteredRun)
    (inbox : List InboxRecord) (outbox : List RunOutboxEvent) : Prop where
  contained : Set.Icc 1 k ⊆ numbersOf IngestInput.number delivered
  course : run = (start.course platform (events.take k)).1.withFlag run.reconciliationRequired
  last : run.lastEventSequence = k
  emitted : outbox = (start.course platform (events.take k)).2
  inputs : ∀ input, input ∈ inbox.map InboxRecord.input ↔ input ∈ delivered
  nodup : (inbox.map InboxRecord.input).Nodup
  done : ∀ record ∈ inbox, record.event.sequence ≤ k → record.processingStatus.open = false
  waits : ∀ record ∈ inbox, k < record.event.sequence → record.processingStatus.open = true
  gaps : ∀ record ∈ inbox, first < record.event.sequence → k < record.event.sequence →
    record.processingStatus = .gap

section Loop

variable {loop : MemoryLoop} {next record : InboxRecord}

abbrev MemoryLoop.Taken (platform : Platform) (start : RegisteredRun)
    (events delivered : List IngestInput) (first k : ℕ) (loop : MemoryLoop) : Prop :=
  Scheduler.Taken platform start events delivered first k loop.run loop.inbox loop.outbox

theorem Taken.identity {run : RegisteredRun} {inbox : List InboxRecord}
    {outbox : List RunOutboxEvent}
    (h : Taken platform start events delivered first k run inbox outbox) :
    run.toRunIdentity = start.toRunIdentity := by
  rw [h.course]
  exact RegisteredRun.identity_course _

theorem mem_delivered (h : loop.Taken platform start events delivered first k)
    (hrecord : record ∈ loop.inbox) : record.input ∈ delivered :=
  (h.inputs _).mp (List.mem_map_of_mem hrecord)

section

variable (hevents : EventsOf start.toRunIdentity events)
  (hsubset : ∀ input ∈ delivered, input ∈ events)
  (h : loop.Taken platform start events delivered first k)

include hevents hsubset h

theorem isNext_unique :
    loop.inbox.Pairwise fun left right =>
      ¬ (loop.isNext left = true ∧ loop.isNext right = true) := by
  have hpairwise := List.pairwise_map.mp h.nodup
  apply hpairwise.imp_of_mem
  intro left right hleft hright hne hboth
  obtain ⟨hnext, hnext'⟩ := hboth
  simp only [MemoryLoop.isNext, Bool.and_eq_true, decide_eq_true_eq] at hnext hnext'
  apply hne
  apply hevents.increasing.eq_of_number_eq (hsubset _ (mem_delivered h hleft))
    (hsubset _ (mem_delivered h hright))
  exact hnext.1.2.trans hnext'.1.2.symm

theorem taken_apply (hnext : loop.inbox.find? loop.isNext = some next) :
    (loop.apply platform next).Taken platform start events delivered first (k + 1) := by
  have hmem : next ∈ loop.inbox := List.mem_of_find?_eq_some hnext
  have hfound := List.find?_some hnext
  simp only [MemoryLoop.isNext, Bool.and_eq_true, decide_eq_true_eq] at hfound
  obtain ⟨⟨-, hnumber⟩, -⟩ := hfound
  rw [h.last] at hnumber
  have hinput : next.input ∈ events := hsubset _ (mem_delivered h hmem)
  have htake : events.take (k + 1) = events.take k ++ [next.input] := by
    apply hevents.increasing.take_succ hinput _ hnumber
    intro n hn
    obtain ⟨input, hdelivered, hsame⟩ := h.contained hn
    exact ⟨input, hsubset input hdelivered, hsame⟩
  have hcourse : loop.run.take platform next.event =
      ((start.course platform (events.take (k + 1))).1.withFlag loop.run.reconciliationRequired,
        ((start.course platform (events.take k)).1.take platform next.event).2) := by
    rw [h.course, RegisteredRun.take_withFlag, htake, RegisteredRun.course_append]
    rfl
  have hinbox : (loop.apply platform next).inbox = loop.inbox.map fun record =>
      if loop.isNext record then
        { record with
          processingStatus := if loop.run.status.terminal then .terminalIgnored else .applied }
      else record := updateFirst_eq_map (isNext_unique hevents hsubset h)
  have hinputs : (loop.apply platform next).inbox.map InboxRecord.input =
      loop.inbox.map InboxRecord.input := map_updateFirst fun _ => rfl
  have hrun : (loop.apply platform next).run = (loop.run.take platform next.event).1 := rfl
  constructor
  · intro n hn
    by_cases hlast : n = k + 1
    · exact ⟨next.input, mem_delivered h hmem, hnumber.trans hlast.symm⟩
    · exact h.contained ⟨hn.1, by have := hn.2; omega⟩
  · rw [hrun, hcourse]
    rfl
  · rw [hrun, RegisteredRun.take_fields.2, hnumber]
  · change loop.outbox ++ (loop.run.take platform next.event).2 = _
    rw [hcourse, h.emitted, htake, RegisteredRun.course_append]
    rfl
  · intro input
    rw [hinputs]
    exact h.inputs input
  · rw [hinputs]
    exact h.nodup
  · intro record hrecord hle
    rw [hinbox] at hrecord
    obtain ⟨old, hold, rfl⟩ := List.mem_map.mp hrecord
    by_cases hisNext : loop.isNext old = true
    · rw [if_pos hisNext]
      cases loop.run.status.terminal <;> rfl
    · rw [if_neg hisNext] at hle ⊢
      by_cases hlast : old.event.sequence = k + 1
      · have hexternal : old.event.externalRunId = loop.run.externalRunId := by
          have hsame := hevents.external _ (hsubset _ (mem_delivered h hold))
          exact hsame.trans (congrArg RunIdentity.externalRunId h.identity.symm)
        by_contra hopen
        apply hisNext
        simp only [MemoryLoop.isNext, hexternal, h.last, hlast, decide_true, Bool.true_and]
        exact Bool.eq_true_of_not_eq_false hopen
      · exact h.done old hold (by omega)
  · intro record hrecord hlt
    rw [hinbox] at hrecord
    obtain ⟨old, hold, rfl⟩ := List.mem_map.mp hrecord
    by_cases hisNext : loop.isNext old = true
    · rw [if_pos hisNext] at hlt
      simp only [MemoryLoop.isNext, Bool.and_eq_true, decide_eq_true_eq, h.last] at hisNext
      have hnumber' := hisNext.1.2
      change k + 1 < old.event.sequence at hlt
      omega
    · rw [if_neg hisNext] at hlt ⊢
      exact h.waits old hold (by omega)
  · intro record hrecord hfirst hlt
    rw [hinbox] at hrecord
    obtain ⟨old, hold, rfl⟩ := List.mem_map.mp hrecord
    by_cases hisNext : loop.isNext old = true
    · rw [if_pos hisNext] at hlt
      simp only [MemoryLoop.isNext, Bool.and_eq_true, decide_eq_true_eq, h.last] at hisNext
      have hnumber' := hisNext.1.2
      change k + 1 < old.event.sequence at hlt
      omega
    · rw [if_neg hisNext] at hfirst hlt ⊢
      exact h.gaps old hold hfirst (by omega)

theorem missing_of_find?_eq_none (hnone : loop.inbox.find? loop.isNext = none) :
    k + 1 ∉ numbersOf IngestInput.number delivered := by
  rintro ⟨input, hinput, hnumber⟩
  obtain ⟨record, hrecord, rfl⟩ := List.mem_map.mp ((h.inputs input).mpr hinput)
  have hnumber' : record.event.sequence = k + 1 := hnumber
  apply List.find?_eq_none.mp hnone record hrecord
  have hexternal : record.event.externalRunId = loop.run.externalRunId := by
    have hsame := hevents.external _ (hsubset _ hinput)
    exact hsame.trans (congrArg RunIdentity.externalRunId h.identity.symm)
  simp only [MemoryLoop.isNext, hexternal, h.last, hnumber', decide_true, Bool.true_and]
  exact h.waits record hrecord (by omega)

end

theorem length_apply (platform : Platform) (loop : MemoryLoop) (next : InboxRecord) :
    (loop.apply platform next).inbox.length = loop.inbox.length := by
  have hmap : (loop.apply platform next).inbox.map InboxRecord.input =
      loop.inbox.map InboxRecord.input := map_updateFirst fun _ => rfl
  have hsame := congrArg List.length hmap
  simpa only [List.length_map] using hsame

theorem taken_drainInbox (hevents : EventsOf start.toRunIdentity events)
    (hsubset : ∀ input ∈ delivered, input ∈ events) {fuel : ℕ}
    (h : loop.Taken platform start events delivered first k) (hfuel : loop.inbox.length ≤ k + fuel) :
    ∃ last, (drainInbox platform fuel loop).Taken platform start events delivered first last ∧
      last + 1 ∉ numbersOf IngestInput.number delivered ∧ k ≤ last := by
  induction fuel generalizing k loop with
  | zero =>
      refine ⟨k, h, ?_, le_rfl⟩
      rintro ⟨input, hinput, hnumber⟩
      have hcontained : Set.Icc 1 (k + 1) ⊆
          numbersOf IngestInput.number (loop.inbox.map InboxRecord.input) := by
        intro n hn
        by_cases hlast : n = k + 1
        · exact ⟨input, (h.inputs input).mpr hinput, hnumber.trans hlast.symm⟩
        · obtain ⟨other, hother, hsame⟩ := h.contained ⟨hn.1, by have := hn.2; omega⟩
          exact ⟨other, (h.inputs other).mpr hother, hsame⟩
      have hle := le_length_of_contained hcontained
      rw [List.length_map] at hle
      omega
  | succ fuel ih =>
      unfold drainInbox
      split
      · next hnone => exact ⟨k, h, missing_of_find?_eq_none hevents hsubset h hnone, le_rfl⟩
      · next next hnext =>
        have htaken := taken_apply hevents hsubset h hnext
        have hlength := length_apply platform loop next
        obtain ⟨last, hlast, hgap, hle⟩ := ih htaken (by omega)
        exact ⟨last, hlast, hgap, by omega⟩

end Loop

/-! ## One delivery -/

/-- What a repository knows of a run after some deliveries: its longest run of numbers is
`1..k`. -/
structure Received (platform : Platform) (start : RegisteredRun)
    (events delivered : List IngestInput) (k : ℕ) (run : RegisteredRun)
    (repository : MemoryEventRepository) : Prop where
  found : repository.runOf start.externalRunId = some run
  taken : Taken platform start events delivered 0 k run repository.inbox repository.outbox
  missing : k + 1 ∉ numbersOf IngestInput.number delivered
  fresh : delivered = [] → run.reconciliationRequired = start.reconciliationRequired
  flag : delivered ≠ [] →
    (run.reconciliationRequired = true ↔ ∃ input ∈ delivered, k < input.number)

section Deliveries

variable {repository : MemoryEventRepository} {input : IngestInput} {inbox : List InboxRecord}
  {outbox : List RunOutboxEvent} {delivered' : List IngestInput}

theorem runOf_write {externalRunId : JsString} {old : RegisteredRun}
    (hfound : repository.runOf externalRunId = some old)
    (hexternal : run.externalRunId = externalRunId) :
    (repository.write run).runOf externalRunId = some run := by
  subst hexternal
  exact find?_updateFirst hfound (decide_eq_true rfl)

theorem Taken.congr (h : Taken platform start events delivered first k run inbox outbox)
    (hsame : ∀ input, input ∈ delivered ↔ input ∈ delivered') :
    Taken platform start events delivered' first k run inbox outbox where
  contained := by
    intro n hn
    obtain ⟨input, hinput, hnumber⟩ := h.contained hn
    exact ⟨input, (hsame input).mp hinput, hnumber⟩
  course := h.course
  last := h.last
  emitted := h.emitted
  inputs := fun input => (h.inputs input).trans (hsame input)
  nodup := h.nodup
  done := h.done
  waits := h.waits
  gaps := h.gaps

theorem Taken.push (h : Taken platform start events delivered 0 k run inbox outbox) (first : ℕ)
    (processingStatus : ProcessingStatus)
    (hpositive : ∀ record ∈ inbox, 0 < record.event.sequence) (hnew : input ∉ delivered) (hlater : k < input.number)
    (hopen : processingStatus.open = true)
    (hgap : first < input.number → processingStatus = .gap) :
    Taken platform start events (delivered ++ [input]) first k run
      (inbox ++ [{ event := input.event, digest := input.digest,
                   processingStatus := processingStatus }]) outbox where
  contained := by
    intro n hn
    obtain ⟨other, hother, hnumber⟩ := h.contained hn
    exact ⟨other, List.mem_append_left _ hother, hnumber⟩
  course := h.course
  last := h.last
  emitted := h.emitted
  inputs := by
    intro other
    rw [List.map_append, List.mem_append, List.mem_append, h.inputs]
    rfl
  nodup := by
    rw [List.map_append]
    apply List.Nodup.append h.nodup (List.nodup_singleton _)
    intro other hother hlast
    have heq : other = input := List.mem_singleton.mp hlast
    rw [heq] at hother
    exact hnew ((h.inputs input).mp hother)
  done := by
    intro record hrecord hle
    rcases List.mem_append.mp hrecord with hold | hlast
    · exact h.done record hold hle
    · rw [List.mem_singleton.mp hlast] at hle
      change input.number ≤ k at hle
      omega
  waits := by
    intro record hrecord hlt
    rcases List.mem_append.mp hrecord with hold | hlast
    · exact h.waits record hold hlt
    · rw [List.mem_singleton.mp hlast]
      exact hopen
  gaps := by
    intro record hrecord hfirst hlt
    rcases List.mem_append.mp hrecord with hold | hlast
    · exact h.gaps record hold (hpositive record hold) hlt
    · rw [List.mem_singleton.mp hlast] at hfirst ⊢
      exact hgap hfirst

theorem waiting_iff_exists (hevents : EventsOf start.toRunIdentity events)
    (hsubset : ∀ input ∈ delivered, input ∈ events)
    (h : Taken platform start events delivered 0 k run inbox outbox) :
    MemoryEventRepository.waiting run inbox = true ↔ ∃ input ∈ delivered, k < input.number := by
  constructor
  · intro hwaiting
    obtain ⟨record, hrecord, hwaits⟩ := List.any_eq_true.mp hwaiting
    simp only [Bool.and_eq_true, decide_eq_true_eq, h.last] at hwaits
    exact ⟨record.input, (h.inputs _).mp (List.mem_map_of_mem hrecord), hwaits.2⟩
  · rintro ⟨input, hinput, hlater⟩
    obtain ⟨record, hrecord, rfl⟩ := List.mem_map.mp ((h.inputs input).mpr hinput)
    have hlater' : k < record.event.sequence := hlater
    have hgap := h.gaps record hrecord (by omega) hlater'
    have hexternal : record.event.externalRunId = run.externalRunId := by
      have hsame := hevents.external _ (hsubset _ hinput)
      exact hsame.trans (congrArg RunIdentity.externalRunId h.identity.symm)
    refine List.any_eq_true.mpr ⟨record, hrecord, ?_⟩
    simp only [hexternal, hgap, h.last, hlater', decide_true, Bool.and_self]

theorem ingest_delivered
    (h : Taken platform start events delivered 0 k run repository.inbox repository.outbox)
    (hdelivered : input ∈ delivered) : (repository.ingest platform input).2 = repository := by
  obtain ⟨record, hrecord, rfl⟩ := List.mem_map.mp ((h.inputs input).mpr hdelivered)
  unfold MemoryEventRepository.ingest
  cases hfound : repository.inbox.find? fun other =>
      decide (other.event.sourceEventId = record.input.event.sourceEventId) with
  | some existing => rfl
  | none =>
      have hnone := List.find?_eq_none.mp hfound record hrecord
      exact absurd (decide_eq_true rfl) hnone

section

variable (hevents : EventsOf start.toRunIdentity events)
  (hsubset : ∀ input ∈ delivered, input ∈ events)
  (h : Received platform start events delivered k run repository)

include hevents hsubset h

theorem ingest_new (hinput : input ∈ events) (hnew : input ∉ delivered) :
    (k + 1 < input.number ∧ (repository.ingest platform input).2 =
      (repository.push input .gap).write (run.withFlag true)) ∨
    (input.number = k + 1 ∧ (repository.ingest platform input).2 =
      ((repository.push input .pending).applyPending platform run).2) := by
  have hunknown : (repository.inbox.find? fun record =>
      decide (record.event.sourceEventId = input.event.sourceEventId)) = none := by
    apply List.find?_eq_none.mpr
    intro record hrecord hsame
    have hdelivered := (h.taken.inputs _).mp (List.mem_map_of_mem hrecord)
    have heq : record.input = input :=
      hevents.eq_of_source_eq (hsubset _ hdelivered) hinput (of_decide_eq_true hsame)
    rw [heq] at hdelivered
    exact hnew hdelivered
  have hfound : repository.runOf input.event.externalRunId = some run := by
    rw [hevents.external input hinput]
    exact h.found
  have hmatches : MemoryEventRepository.matchesRun run.toRunIdentity input.event = true := by
    rw [h.taken.identity]
    exact hevents.matching input hinput
  have hlast : run.lastEventSequence = k := h.taken.last
  have hlate : ¬ input.number ≤ k := by
    intro hle
    have hpositive := hevents.increasing.positive input hinput
    obtain ⟨other, hother, hsame⟩ := h.taken.contained
      (show input.number ∈ Set.Icc 1 k from ⟨hpositive, hle⟩)
    obtain rfl := hevents.increasing.eq_of_number_eq (hsubset other hother) hinput hsame
    exact hnew hother
  unfold MemoryEventRepository.ingest
  simp only [hunknown, hfound, hmatches, if_true]
  by_cases hearly : run.lastEventSequence + 1 < input.event.sequence
  · rw [if_pos hearly]
    rw [hlast] at hearly
    exact .inl ⟨hearly, rfl⟩
  · have hlate' : ¬ input.event.sequence ≤ run.lastEventSequence := by
      rw [hlast]
      exact hlate
    rw [if_neg hearly, if_neg hlate']
    have hnumber : input.number = k + 1 := by
      change input.event.sequence = k + 1
      omega
    exact .inr ⟨hnumber, rfl⟩

theorem received_gap (hnew : input ∉ delivered) (hearly : k + 1 < input.number) :
    Received platform start events (delivered ++ [input]) k (run.withFlag true)
      ((repository.push input .gap).write (run.withFlag true)) := by
  have hpositive : ∀ record ∈ repository.inbox, 0 < record.event.sequence := fun record hrecord =>
    hevents.increasing.positive _
      (hsubset _ ((h.taken.inputs _).mp (List.mem_map_of_mem hrecord)))
  have htaken := h.taken.push 0 .gap hpositive hnew (by omega) rfl fun _ => rfl
  have hexternal : (run.withFlag true).externalRunId = start.externalRunId :=
    congrArg RunIdentity.externalRunId h.taken.identity
  constructor
  · have hfound : (repository.push input .gap).runOf start.externalRunId = some run := h.found
    exact runOf_write hfound hexternal
  · refine { htaken with course := ?_ }
    rw [h.taken.course]
    rfl
  · rintro ⟨other, hother, hnumber⟩
    rcases List.mem_append.mp hother with hold | hlast
    · exact h.missing ⟨other, hold, hnumber⟩
    · rw [List.mem_singleton.mp hlast] at hnumber
      omega
  · intro hnil
    exact absurd hnil (List.append_ne_nil_of_right_ne_nil _ (List.cons_ne_nil _ _))
  · intro _
    have hlater : ∃ other ∈ delivered ++ [input], k < other.number :=
      ⟨input, List.mem_append_right _ (List.mem_singleton.mpr rfl), by omega⟩
    exact ⟨fun _ => hlater, fun _ => rfl⟩

theorem received_next (hinput : input ∈ events) (hnew : input ∉ delivered)
    (hnumber : input.number = k + 1) :
    ∃ k' run', Received platform start events (delivered ++ [input]) k' run'
      ((repository.push input .pending).applyPending platform run).2 := by
  have hpositive : ∀ record ∈ repository.inbox, 0 < record.event.sequence := fun record hrecord =>
    hevents.increasing.positive _
      (hsubset _ ((h.taken.inputs _).mp (List.mem_map_of_mem hrecord)))
  have hsubset' : ∀ other ∈ delivered ++ [input], other ∈ events := by
    intro other hother
    rcases List.mem_append.mp hother with hold | hlast
    · exact hsubset other hold
    · rwa [List.mem_singleton.mp hlast]
  have hpushed := h.taken.push (k + 1) .pending hpositive hnew (by omega) rfl
    fun hlater => absurd hlater (by omega)
  let loop : MemoryLoop :=
    { run := run
      inbox := (repository.push input .pending).inbox
      outbox := repository.outbox
      ignored := false }
  have hloop : loop.Taken platform start events (delivered ++ [input]) (k + 1) k := hpushed
  have hlength : loop.inbox.length ≤ k + loop.inbox.length := Nat.le_add_left _ _
  obtain ⟨last, hlast, hmissing, hle⟩ := taken_drainInbox hevents hsubset' hloop hlength
  let reached := drainInbox platform loop.inbox.length loop
  let settled := reached.run.withFlag (MemoryEventRepository.waiting reached.run reached.inbox)
  have hfirst : k + 1 ≤ last := by
    by_contra hstuck
    obtain rfl : last = k := by omega
    exact hmissing ⟨input, List.mem_append_right _ (List.mem_singleton.mpr rfl), hnumber⟩
  have hall : Taken platform start events (delivered ++ [input]) 0 last reached.run
      reached.inbox reached.outbox :=
    { hlast with
      gaps := fun record hrecord _ hlater => hlast.gaps record hrecord (by omega) hlater }
  refine ⟨last, settled, ?_, ?_, hmissing, ?_, ?_⟩
  · have hexternal : settled.externalRunId = start.externalRunId :=
      congrArg RunIdentity.externalRunId hall.identity
    have hfound : MemoryEventRepository.runOf
        { repository.push input .pending with inbox := reached.inbox, outbox := reached.outbox }
        start.externalRunId = some run := h.found
    exact runOf_write hfound hexternal
  · refine { hall with course := ?_ }
    have hcourse := hall.course
    simp only [settled]
    rw [hcourse]
    rfl
  · intro hnil
    exact absurd hnil (List.append_ne_nil_of_right_ne_nil _ (List.cons_ne_nil _ _))
  · intro _
    exact waiting_iff_exists hevents hsubset' hall

theorem received_ingest (hinput : input ∈ events) :
    ∃ k' run', Received platform start events (delivered ++ [input]) k' run'
      (repository.ingest platform input).2 := by
  by_cases hdelivered : input ∈ delivered
  · have hsame : ∀ other, other ∈ delivered ↔ other ∈ delivered ++ [input] := by
      intro other
      rw [List.mem_append, List.mem_singleton]
      constructor
      · exact .inl
      · rintro (hold | rfl)
        · exact hold
        · exact hdelivered
    rw [ingest_delivered h.taken hdelivered]
    refine ⟨k, run, h.found, h.taken.congr hsame, ?_, ?_, ?_⟩
    · rintro ⟨other, hother, hnumber⟩
      exact h.missing ⟨other, (hsame other).mpr hother, hnumber⟩
    · intro hnil
      exact absurd hnil (List.append_ne_nil_of_right_ne_nil _ (List.cons_ne_nil _ _))
    · intro _
      rw [h.flag (List.ne_nil_of_mem hdelivered)]
      constructor
      · rintro ⟨other, hother, hlater⟩
        exact ⟨other, (hsame other).mp hother, hlater⟩
      · rintro ⟨other, hother, hlater⟩
        exact ⟨other, (hsame other).mpr hother, hlater⟩
  · rcases ingest_new hevents hsubset h hinput hdelivered with ⟨hearly, hgap⟩ | ⟨hnumber, hnext⟩
    · rw [hgap]
      exact ⟨k, _, received_gap hevents hsubset h hdelivered hearly⟩
    · rw [hnext]
      exact received_next hevents hsubset h hinput hdelivered hnumber

theorem received_deliver {deliveries : List IngestInput}
    (hdeliveries : ∀ input ∈ deliveries, input ∈ events) :
    ∃ k' run', Received platform start events (delivered ++ deliveries) k' run'
      (repository.deliver platform deliveries) := by
  induction deliveries generalizing delivered k run repository with
  | nil =>
      rw [List.append_nil]
      exact ⟨k, run, h⟩
  | cons input deliveries ih =>
      have hinput := hdeliveries input List.mem_cons_self
      obtain ⟨k', run', h'⟩ := received_ingest hevents hsubset h hinput
      have hsubset' : ∀ other ∈ delivered ++ [input], other ∈ events := by
        intro other hother
        rcases List.mem_append.mp hother with hold | hlast
        · exact hsubset other hold
        · rwa [List.mem_singleton.mp hlast]
      have hrest := ih hsubset' h' fun other hother =>
        hdeliveries other (List.mem_cons_of_mem _ hother)
      rw [List.append_assoc, List.singleton_append] at hrest
      exact hrest

end

theorem received_new {runs : List RegisteredRun}
    (hfound : (MemoryEventRepository.new runs).runOf start.externalRunId = some start)
    (hzero : start.lastEventSequence = 0) :
    Received platform start events [] 0 start (.new runs) where
  found := hfound
  taken :=
    { contained := by
        intro n hn
        have hlow := hn.1
        have hhigh := hn.2
        omega
      course := rfl
      last := hzero
      emitted := rfl
      inputs := fun _ => Iff.rfl
      nodup := List.nodup_nil
      done := fun _ hrecord => absurd hrecord List.not_mem_nil
      waits := fun _ hrecord => absurd hrecord List.not_mem_nil
      gaps := fun _ hrecord => absurd hrecord List.not_mem_nil }
  missing := by
    rintro ⟨input, hinput, -⟩
    exact List.not_mem_nil hinput
  fresh := fun _ => rfl
  flag := fun hne => absurd rfl hne

theorem Received.longest (h : Received platform start events delivered k run repository) :
    IsLongestPrefix (numbersOf IngestInput.number delivered) k :=
  isLongestPrefix_iff.mpr ⟨h.taken.contained, h.missing⟩

theorem Received.agree (h : Received platform start events delivered k run repository) {k' : ℕ}
    {run' : RegisteredRun} {repository' : MemoryEventRepository}
    (h' : Received platform start events delivered' k' run' repository')
    (hsame : ∀ input, input ∈ delivered ↔ input ∈ delivered') :
    run = run' ∧ repository.outbox = repository'.outbox := by
  have hnumbers : numbersOf IngestInput.number delivered =
      numbersOf IngestInput.number delivered' := by
    ext n
    simp only [numbersOf, Set.mem_ofPred_eq, hsame]
  have hlongest := h.longest
  rw [hnumbers] at hlongest
  obtain rfl := hlongest.unique h'.longest
  have hflag : run.reconciliationRequired = run'.reconciliationRequired := by
    by_cases hnil : delivered = []
    · have hnil' : delivered' = [] := by
        apply List.eq_nil_iff_forall_not_mem.mpr
        intro input hinput
        have hmem := (hsame input).mpr hinput
        rw [hnil] at hmem
        exact List.not_mem_nil hmem
      rw [h.fresh hnil, h'.fresh hnil']
    · have hnil' : delivered' ≠ [] := by
        obtain ⟨input, hinput⟩ := List.exists_mem_of_ne_nil _ hnil
        exact List.ne_nil_of_mem ((hsame input).mp hinput)
      rw [Bool.eq_iff_iff, h.flag hnil, h'.flag hnil']
      simp only [hsame]
  refine ⟨?_, ?_⟩
  · rw [h.taken.course, h'.taken.course, hflag]
  · rw [h.taken.emitted, h'.taken.emitted]

end Deliveries

/-- However the events of a registered run are delivered, each at least once, the run and the
outbox are as after a delivery by increasing numbers, and the run has taken the longest run of
numbers from one on. -/
theorem deliver_eq_inOrder (platform : Platform) {runs : List RegisteredRun}
    {run : RegisteredRun} {events deliveries : List IngestInput}
    (hrun : (MemoryEventRepository.new runs).runOf run.externalRunId = some run)
    (hzero : run.lastEventSequence = 0) (hevents : EventsOf run.toRunIdentity events)
    (hdeliveries : ∀ input, input ∈ deliveries ↔ input ∈ events) :
    ((MemoryEventRepository.new runs).deliver platform deliveries).runOf run.externalRunId =
      ((MemoryEventRepository.new runs).deliver platform events).runOf run.externalRunId ∧
    ((MemoryEventRepository.new runs).deliver platform deliveries).outbox =
      ((MemoryEventRepository.new runs).deliver platform events).outbox ∧
    ∃ final, ((MemoryEventRepository.new runs).deliver platform deliveries).runOf
        run.externalRunId = some final ∧
      IsLongestPrefix (numbersOf IngestInput.number events) final.lastEventSequence := by
  have hstart : Received platform run events [] 0 run (.new runs) := received_new hrun hzero
  have hnone : ∀ input ∈ ([] : List IngestInput), input ∈ events :=
    fun _ hinput => absurd hinput List.not_mem_nil
  obtain ⟨k, final, h⟩ := received_deliver hevents hnone hstart
    fun input hinput => (hdeliveries input).mp hinput
  obtain ⟨k', final', h'⟩ := received_deliver hevents hnone hstart fun _ hinput => hinput
  rw [List.nil_append] at h h'
  obtain ⟨rfl, houtbox⟩ := h.agree h' hdeliveries
  refine ⟨by rw [h.found, h'.found], houtbox, final, h.found, ?_⟩
  rw [h'.taken.last]
  exact h'.longest

def registeredSample : RegisteredRun where
  id := js "run"
  organizationId := js "organization"
  projectId := js "project"
  goalId := js "goal"
  issueId := none
  externalRunId := js "cp-run-a1"
  externalTaskId := js "task"
  status := .queued
  phase := js "queued"
  version := 1
  lastEventSequence := 0
  reconciliationRequired := false

def deliveredSample (sourceEventId status : String) (sequence : ℕ) : IngestInput where
  event :=
    { sampleEvent with
      sourceEventId := js sourceEventId
      status := js status
      sequence := sequence }
  digest := js sourceEventId

/-- The second event is delivered twice, the fourth before the third is there. -/
theorem deliver_eq_inOrder_sample :
    let first := deliveredSample "event-1" "running" 1
    let second := deliveredSample "event-2" "done" 2
    let fourth := deliveredSample "event-4" "done" 4
    let repository := MemoryEventRepository.new [registeredSample]
    let shuffled := repository.deliver samplePlatform [second, fourth, second, first]
    let inOrder := repository.deliver samplePlatform [first, second, fourth]
    shuffled.runOf registeredSample.externalRunId = inOrder.runOf registeredSample.externalRunId ∧
    shuffled.outbox = inOrder.outbox ∧
    ∃ final, shuffled.runOf registeredSample.externalRunId = some final ∧
      IsLongestPrefix (numbersOf IngestInput.number [first, second, fourth])
        final.lastEventSequence := by
  intro first second fourth repository shuffled inOrder
  have hrun : repository.runOf registeredSample.externalRunId = some registeredSample := by
    decide +kernel
  have hevents : EventsOf registeredSample.toRunIdentity [first, second, fourth] :=
    { increasing := ⟨by decide +kernel, by decide +kernel⟩
      sources := by decide +kernel
      external := by decide +kernel
      matching := by decide +kernel }
  have hshuffled : ∀ a b c input : IngestInput, input ∈ [b, c, b, a] ↔ input ∈ [a, b, c] := by
    intro a b c input
    simp only [List.mem_cons, List.not_mem_nil, or_false]
    tauto
  exact deliver_eq_inOrder samplePlatform hrun rfl hevents (hshuffled first second fourth)

end DevHarness.Scheduler
