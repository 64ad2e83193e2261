import DevHarness.Scheduler.TerminalJobs

/-!
# The inbox in the loop

The loop takes the numbers of a job one after the other, each from a row that waits, and
leaves the rows of later numbers alone.
-/

namespace DevHarness.Scheduler

open JsText

def insertedRow (input : IngestInput) (context : EventContext) : InboxRow where
  jobId := context.job.id
  runId := context.job.runId
  digest := input.digest
  event := input.event
  processing := .pending

theorem inbox_beforeLoop (store : EventStore) (input : IngestInput) (context : EventContext) :
    (beforeLoop store input context).store.inbox =
      store.inbox ++ [insertedRow input context] := rfl

namespace EventProgress

variable {last progress next : EventProgress} {processing : ProcessingStatus} {other row : InboxRow}

/-- What the loop does to the number of the job and to the inbox. -/
structure Advances (progress next : EventProgress) : Prop where
  job : next.context.job = progress.context.job
  /-- The columns of the jobs are written after the loop. -/
  columns : next.store.lastEventSequence = progress.store.lastEventSequence
  /-- No row comes or goes. -/
  events : next.store.inbox.map InboxRow.event = progress.store.inbox.map InboxRow.event
  /-- No row is opened. -/
  opened : ∀ row ∈ next.store.inbox, row.processing.open = true → row ∈ progress.store.inbox
  le : progress.context.lastEventSequence ≤ next.context.lastEventSequence
  /-- The rows of later numbers stay. -/
  beyond : ∀ row : InboxRow, next.context.lastEventSequence < row.event.sequence →
    (row ∈ next.store.inbox ↔ row ∈ progress.store.inbox)
  /-- A number that is taken had a row that waits. -/
  taken : ∀ n, progress.context.lastEventSequence < n → n ≤ next.context.lastEventSequence →
    ∃ row ∈ progress.store.inbox, row.jobId = progress.context.job.id ∧
      row.event.sequence = n ∧ row.processing.open = true

theorem Advances.refl (progress : EventProgress) : progress.Advances progress where
  job := rfl
  columns := rfl
  events := rfl
  opened := fun _ hrow _ => hrow
  le := le_rfl
  beyond := fun _ _ => Iff.rfl
  taken := fun n hlow hhigh => by omega

theorem Advances.trans (h : progress.Advances next) (h' : next.Advances last) :
    progress.Advances last where
  job := h'.job.trans h.job
  columns := h'.columns.trans h.columns
  events := h'.events.trans h.events
  opened := fun row hrow hopen => h.opened row (h'.opened row hrow hopen) hopen
  le := h.le.trans h'.le
  beyond := by
    intro row hrow
    rw [h'.beyond row hrow, h.beyond row (lt_of_le_of_lt h'.le hrow)]
  taken := by
    intro n hlow hhigh
    by_cases hn : n ≤ next.context.lastEventSequence
    · exact h.taken n hlow hn
    · obtain ⟨row, hrow, hjob, hnumber, hopen⟩ := h'.taken n (by omega) hhigh
      refine ⟨row, (h.beyond row ?_).mp hrow, by rw [hjob, h.job], hnumber, hopen⟩
      omega

theorem mem_mark (hne : other.event.sequence ≠ row.event.sequence) :
    other ∈ (progress.mark row processing).store.inbox ↔ other ∈ progress.store.inbox := by
  have hrow : other ≠ row := by
    rintro rfl
    exact hne rfl
  simp only [mark, List.mem_map]
  constructor
  · rintro ⟨found, hfound, hsame⟩
    by_cases heq : found = row
    · rw [if_pos heq] at hsame
      subst heq
      rw [← hsame] at hne
      exact absurd rfl hne
    · rw [if_neg heq] at hsame
      rwa [← hsame]
  · intro hmem
    exact ⟨other, hmem, if_neg hrow⟩

theorem events_mark (progress : EventProgress) (row : InboxRow) (processing : ProcessingStatus) :
    (progress.mark row processing).store.inbox.map InboxRow.event =
      progress.store.inbox.map InboxRow.event := by
  simp only [mark, List.map_map]
  apply List.map_congr_left
  intro other _
  by_cases heq : other = row
  · simp only [Function.comp_apply, if_pos heq]
  · simp only [Function.comp_apply, if_neg heq]

theorem mem_of_open_mark (hdone : processing.open = false) (hopen : other.processing.open = true)
    (h : other ∈ (progress.mark row processing).store.inbox) : other ∈ progress.store.inbox := by
  obtain ⟨found, hfound, hsame⟩ := List.mem_map.mp h
  by_cases heq : found = row
  · rw [if_pos heq] at hsame
    rw [← hsame, hdone] at hopen
    cases hopen
  · rw [if_neg heq] at hsame
    rwa [← hsame]

end EventProgress

section Loop

variable {platform : Platform} {event : RunEvent}

theorem inbox_transitionRun {status : RunStatus}
    (h : transitionRun progress status event = .ok next) :
    next.store.inbox = progress.store.inbox ∧
      next.store.lastEventSequence = progress.store.lastEventSequence ∧
      next.context.job = progress.context.job ∧
      next.context.lastEventSequence = progress.context.lastEventSequence ∧
      next.ignored = progress.ignored := by
  unfold transitionRun at h
  simp only at h
  split at h
  · cases h
  · split at h
    · obtain rfl := Except.ok.inj h
      exact ⟨rfl, rfl, rfl, rfl, rfl⟩
    · cases h

theorem inbox_mapEvent (h : mapEvent platform progress event = .ok next) :
    next.store.inbox = progress.store.inbox ∧
      next.store.lastEventSequence = progress.store.lastEventSequence ∧
      next.context.job = progress.context.job ∧
      next.context.lastEventSequence = progress.context.lastEventSequence ∧
      next.ignored = progress.ignored := by
  unfold mapEvent at h
  split at h
  · obtain rfl := Except.ok.inj h
    exact ⟨rfl, rfl, rfl, rfl, rfl⟩
  · next target _ =>
    by_cases hsame : target = progress.context.runStatus
    · rw [if_pos hsame] at h
      obtain rfl := Except.ok.inj h
      exact ⟨rfl, rfl, rfl, rfl, rfl⟩
    · rw [if_neg hsame] at h
      by_cases hqueued : progress.context.runStatus = .queued ∧ target ≠ .running
      · rw [if_pos hqueued] at h
        cases hstarted : transitionRun progress .running event with
        | error thrown =>
            rw [hstarted] at h
            cases h
        | ok started =>
            simp only [hstarted, bind, Except.bind] at h
            obtain ⟨hinbox, hcolumns, hjob, hlast, hignored⟩ := inbox_transitionRun hstarted
            split at h
            · obtain rfl := Except.ok.inj h
              exact ⟨hinbox, hcolumns, hjob, hlast, hignored⟩
            · obtain ⟨hinbox', hcolumns', hjob', hlast', hignored'⟩ := inbox_transitionRun h
              exact ⟨hinbox'.trans hinbox, hcolumns'.trans hcolumns, hjob'.trans hjob,
                hlast'.trans hlast, hignored'.trans hignored⟩
      · rw [if_neg hqueued] at h
        simp only [bind, Except.bind, pure, Except.pure, if_neg hsame] at h
        exact inbox_transitionRun h

theorem advances_applyNext (hrow : row ∈ progress.pending)
    (h : applyNext platform progress row = .ok next) :
    progress.Advances next ∧
      next.context.lastEventSequence = progress.context.lastEventSequence + 1 := by
  obtain ⟨hmem, hjob, hnumber, hopen⟩ := EventProgress.of_mem_pending hrow
  obtain ⟨mapped, processing, ignored, hinbox, hcolumns, hmappedJob, hlast, hdone,
    rfl⟩ :
      ∃ (mapped : EventProgress) (processing : ProcessingStatus) (ignored : Bool),
        mapped.store.inbox = progress.store.inbox ∧
        mapped.store.lastEventSequence = progress.store.lastEventSequence ∧
        mapped.context.job = progress.context.job ∧
        mapped.context.lastEventSequence = row.event.sequence ∧
        processing.open = false ∧
        next = { mapped.mark row processing with ignored := ignored } := by
    unfold applyNext at h
    simp only at h
    split at h
    · obtain rfl := Except.ok.inj h
      exact ⟨progress.take row, .terminalIgnored, true, rfl, rfl, rfl, rfl, rfl, rfl⟩
    · cases hmapped : mapEvent platform (progress.take row) row.event with
      | error thrown =>
          rw [hmapped] at h
          cases h
      | ok mapped =>
          rw [hmapped] at h
          obtain rfl := Except.ok.inj h
          obtain ⟨hinbox, hcolumns, hmappedJob, hlast, -⟩ := inbox_mapEvent hmapped
          exact ⟨mapped, .applied, mapped.ignored, hinbox, hcolumns, hmappedJob, hlast, rfl, rfl⟩
  have hnext : mapped.context.lastEventSequence = progress.context.lastEventSequence + 1 :=
    hlast.trans hnumber
  refine ⟨⟨hmappedJob, hcolumns, ?_, ?_, ?_, ?_, ?_⟩, hnext⟩
  · change (mapped.mark row processing).store.inbox.map InboxRow.event = _
    rw [EventProgress.events_mark, hinbox]
  · intro other hother hopen
    rw [← hinbox]
    exact EventProgress.mem_of_open_mark hdone hopen hother
  · change _ ≤ mapped.context.lastEventSequence
    omega
  · intro other hother
    have hne : other.event.sequence ≠ row.event.sequence := by
      change mapped.context.lastEventSequence < other.event.sequence at hother
      omega
    change other ∈ (mapped.mark row processing).store.inbox ↔ _
    rw [EventProgress.mem_mark hne, hinbox]
  · intro n hlow hhigh
    change n ≤ mapped.context.lastEventSequence at hhigh
    exact ⟨row, hmem, hjob, by omega, hopen⟩

theorem advances_drain {before : InboxRow → InboxRow → Bool} {fuel : ℕ}
    (h : drain platform before fuel progress = .ok next) : progress.Advances next := by
  induction fuel generalizing progress with
  | zero =>
      obtain rfl := Except.ok.inj h
      exact .refl _
  | succ fuel ih =>
      unfold drain at h
      split at h
      · obtain rfl := Except.ok.inj h
        exact .refl _
      · next row hfirst =>
        cases hpass : applyNext platform progress row with
        | error thrown =>
            rw [hpass] at h
            cases h
        | ok passed =>
            simp only [hpass, bind, Except.bind] at h
            exact (advances_applyNext (Sql.mem_of_first hfirst) hpass).1.trans (ih h)

theorem lt_of_advances {store : EventStore} {input : IngestInput} {context : EventContext}
    (h : store.NextEvent input context)
    (hadvances : (beforeLoop store input context).Advances progress)
    (hpending : progress.pending = []) :
    context.lastEventSequence < progress.context.lastEventSequence := by
  by_contra hle
  have hsame : progress.context.lastEventSequence = context.lastEventSequence := by
    have hge : context.lastEventSequence ≤ progress.context.lastEventSequence := hadvances.le
    omega
  have hnumber : (insertedRow input context).event.sequence = context.lastEventSequence + 1 :=
    h.next
  have hmem : insertedRow input context ∈ progress.store.inbox := by
    rw [hadvances.beyond _ (by omega), inbox_beforeLoop]
    exact List.mem_append_right _ (List.mem_singleton.mpr rfl)
  have hwaits : insertedRow input context ∈ progress.pending := by
    refine List.mem_filter.mpr ⟨hmem, ?_⟩
    have hjob : (insertedRow input context).jobId = progress.context.job.id := by
      rw [hadvances.job]
      rfl
    simp only [hjob, hnumber, hsame, decide_true, Bool.true_and]
    rfl
  rw [hpending] at hwaits
  exact List.not_mem_nil hwaits

end Loop

end DevHarness.Scheduler
