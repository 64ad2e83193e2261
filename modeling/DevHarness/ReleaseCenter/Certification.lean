import DevHarness.ReleaseCenter.Canary

/-!
# Certified canaries

What each operation of a canary does, and what holds of a canary after any sequence of them: the
windows of every attempt follow one another from its start, and a canary that has passed is
certified with exactly the windows of its last attempt.
-/

namespace DevHarness.ReleaseCenter

open JsText Sequence

/-! ## What an operation does -/

/-- The window that is recorded as the next of its attempt. -/
structure NextWindow (value : CanaryAggregate) (canaryStart now : ℤ) (window : CanaryWindow) :
    Prop where
  attempt : window.attempt = value.attempt
  sequence : window.sequence = (value.windowsOf value.attempt).length + 1
  contiguous : window.startedAt =
    ((value.windowsOf value.attempt).getLast?.map (·.endedAt)).getD canaryStart
  lasts : window.startedAt < window.endedAt ∧ window.endedAt - window.startedAt ≤ hourMs
  past : window.endedAt ≤ now
  refs : window.evidenceRefs ≠ [] ∧ ∀ ref ∈ window.evidenceRefs, evidenceRef ref = true

/-- What the checks of an event leave of its own fields. -/
def CanaryEventKind.WellFormed : CanaryEventKind → Prop
  | .defect severity workaround status =>
    Trimmed status ∧ (severity = .p2 → ∃ text, workaround = some text ∧ Trimmed text)
  | .alert _ _ => True
  | .intervention reason => Trimmed reason

structure NextEvent (value : CanaryAggregate) (event : CanaryEvent) : Prop where
  attempt : event.attempt = value.attempt
  safe : safeId event.id = true
  owner : safeId event.ownerId = true
  refs : event.evidenceRefs ≠ [] ∧ ∀ ref ∈ event.evidenceRefs, evidenceRef ref = true
  kind : event.kind.WellFormed

/-- A step of a canary: what each operation asks for, and what it leaves. -/
inductive CanaryStep (value : CanaryAggregate) (now : ℤ) : CanaryAggregate → Prop
  | approved (ownerId : JsString) (hdraft : value.status = .draft)
      (howner : safeId ownerId = true) :
      CanaryStep value now
        { value with
          status := .observing
          ownerId := some ownerId
          approvedAt := some now
          startedAt := some now
          endedAt := none
          version := value.version + 1
          updatedAt := now }
  | restarted (ownerId : JsString) (hstopped : value.status = .stopped)
      (howner : safeId ownerId = true) :
      CanaryStep value now
        { value with
          status := .observing
          attempt := value.attempt + 1
          ownerId := some ownerId
          approvedAt := some now
          startedAt := some now
          endedAt := none
          report := none
          version := value.version + 1
          updatedAt := now }
  | recordedWindow (canaryStart : ℤ) (window : CanaryWindow) (hobserving : value.status = .observing)
      (hstart : value.startedAt = some canaryStart)
      (hwindow : NextWindow value canaryStart now window) :
      CanaryStep value now (withWindow value window now)
  | recordedEvent (event : CanaryEvent) (hobserving : value.status = .observing)
      (hevent : NextEvent value event) :
      CanaryStep value now (withEvent value event now)
  | resolvedAlert (isNamed : CanaryEvent → Bool) (hobserving : value.status = .observing) :
      CanaryStep value now
        { value with
          events := updateFirst isNamed CanaryEvent.resolve value.events
          version := value.version + 1
          updatedAt := now }
  | passed (finalizing : Finalizing) (verification : ReportVerification)
      (heligible : eligible value = .ok finalizing)
      (hreport : GoodReport (canaryReport value finalizing verification) now) :
      CanaryStep value now
        { value with
          status := .passed
          endedAt := some finalizing.endedAt
          report := some (canaryReport value finalizing verification)
          version := value.version + 1
          updatedAt := now }

variable {finalizing : Finalizing} {canaryStart now : ℤ} {parse : JsString → Option ℤ}
  {value next : CanaryAggregate} {window : CanaryWindow}

section Steps

variable {event : NewCanaryEvent} {actorId reason : JsString}

theorem observingSince_eq_ok : observingSince value = .ok canaryStart ↔
    value.status = .observing ∧ value.startedAt = some canaryStart := by
  unfold observingSince
  split
  · next startedAt hstatus hstart => simp [hstatus, hstart]
  · next hnone =>
    simp only [reduceCtorEq, false_iff]
    rintro ⟨hstatus, hstart⟩
    exact hnone canaryStart hstatus hstart

theorem eligible_eq_ok : eligible value = .ok finalizing ↔
    value.status = .observing ∧ value.startedAt = some finalizing.startedAt ∧
      value.approvedAt = some finalizing.approvedAt ∧ value.ownerId = some finalizing.ownerId ∧
      (∃ last, (value.windowsOf value.attempt).getLast? = some last ∧
        last.endedAt = finalizing.endedAt) ∧
      12 ≤ (value.windowsOf value.attempt).length ∧
      12 * hourMs ≤ finalizing.endedAt - finalizing.startedAt := by
  unfold eligible
  split
  · next startedAt approvedAt ownerId hstatus hstart happroved howner =>
    simp only [hstatus, hstart, happroved, howner, true_and, Option.some.injEq]
    cases hlast : (value.windowsOf value.attempt).getLast? with
    | none => simp
    | some last =>
        simp only [Option.some.injEq, exists_eq_left']
        by_cases hlong : 12 ≤ (value.windowsOf value.attempt).length ∧
            12 * hourMs ≤ last.endedAt - startedAt
        · rw [if_pos hlong, Except.ok.injEq]
          constructor
          · rintro rfl
            exact ⟨rfl, rfl, rfl, rfl, hlong⟩
          · rintro ⟨rfl, rfl, rfl, hended, -⟩
            rw [hended]
        · rw [if_neg hlong]
          simp only [reduceCtorEq, false_iff]
          rintro ⟨rfl, -, -, hended, hlong'⟩
          rw [← hended] at hlong'
          exact hlong hlong'
  · next hnone =>
    simp only [reduceCtorEq, false_iff]
    rintro ⟨hstatus, hstart, happroved, howner, -⟩
    exact hnone _ _ _ hstatus hstart happroved howner

theorem wellFormed_of_eventKind {kind : CanaryEventKind} (h : eventKind event = .ok kind) :
    kind.WellFormed := by
  unfold eventKind at h
  split at h
  · obtain ⟨reason, hreason, rfl⟩ := map_eq_ok.mp h
    exact trimmed_of_required hreason
  · obtain ⟨severity, -, h⟩ := bind_eq_ok.mp h
    split at h
    · obtain rfl := Except.ok.inj h
      trivial
    · obtain ⟨workaround, hworkaround, h⟩ := bind_eq_ok.mp h
      obtain ⟨status, hstatus, h⟩ := bind_eq_ok.mp h
      obtain rfl := Except.ok.inj h
      refine ⟨trimmed_of_required hstatus, ?_⟩
      intro hp2
      rw [eventWorkaround, if_pos hp2] at hworkaround
      obtain ⟨text, htext, rfl⟩ := map_eq_ok.mp hworkaround
      exact ⟨text, rfl, trimmed_of_required htext⟩

theorem step_of_approveCanary (h : approveCanary value actorId reason now = .ok next) :
    CanaryStep value now next := by
  simp only [approveCanary, check_bind_eq_ok, validate_eq_ok, decide_eq_true_eq] at h
  obtain ⟨hdraft, h⟩ := h
  obtain ⟨_, -, h⟩ := bind_eq_ok.mp h
  obtain ⟨ownerId, howner, h⟩ := bind_eq_ok.mp h
  obtain rfl := Except.ok.inj h
  exact .approved ownerId hdraft (safeId_of_id howner).1

theorem step_of_restartCanary (h : restartCanary value actorId reason now = .ok next) :
    CanaryStep value now next := by
  simp only [restartCanary, check_bind_eq_ok, validate_eq_ok, decide_eq_true_eq] at h
  obtain ⟨hstopped, h⟩ := h
  obtain ⟨_, -, h⟩ := bind_eq_ok.mp h
  obtain ⟨ownerId, howner, h⟩ := bind_eq_ok.mp h
  obtain rfl := Except.ok.inj h
  exact .restarted ownerId hstopped (safeId_of_id howner).1

theorem step_of_recordCanaryWindow {actorId : JsString} {window : NewCanaryWindow}
    (h : recordCanaryWindow parse value actorId window now = .ok next) :
    CanaryStep value now next := by
  obtain ⟨canaryStart, hobserving, h⟩ := bind_eq_ok.mp h
  obtain ⟨hstatus, hstart⟩ := observingSince_eq_ok.mp hobserving
  rw [check_bind_eq_ok] at h
  obtain ⟨-, h⟩ := h
  obtain ⟨startedAt, -, h⟩ := bind_eq_ok.mp h
  obtain ⟨endedAt, -, h⟩ := bind_eq_ok.mp h
  simp only [check_bind_eq_ok, validate_eq_ok, decide_eq_true_eq] at h
  obtain ⟨⟨hcontiguous, hlasts⟩, hpast, h⟩ := h
  obtain ⟨status, -, h⟩ := bind_eq_ok.mp h
  obtain ⟨p0Count, -, h⟩ := bind_eq_ok.mp h
  obtain ⟨p1Count, -, h⟩ := bind_eq_ok.mp h
  obtain ⟨refs, hrefs, h⟩ := bind_eq_ok.mp h
  obtain ⟨recordedBy, -, h⟩ := bind_eq_ok.mp h
  obtain rfl := Except.ok.inj h
  exact .recordedWindow canaryStart _ hstatus hstart
    { attempt := rfl
      sequence := rfl
      contiguous := hcontiguous
      lasts := hlasts
      past := hpast
      refs := evidenceRefs_valid hrefs }

theorem step_of_recordCanaryEvent {actorId : JsString}
    (h : recordCanaryEvent parse value actorId event now = .ok next) :
    CanaryStep value now next := by
  obtain ⟨canaryStart, hobserving, h⟩ := bind_eq_ok.mp h
  obtain ⟨hstatus, -⟩ := observingSince_eq_ok.mp hobserving
  rw [check_bind_eq_ok] at h
  obtain ⟨-, h⟩ := h
  obtain ⟨eventId, hsafe, h⟩ := bind_eq_ok.mp h
  obtain ⟨observedAt, -, h⟩ := bind_eq_ok.mp h
  obtain ⟨ownerId, howner, h⟩ := bind_eq_ok.mp h
  obtain ⟨refs, hrefs, h⟩ := bind_eq_ok.mp h
  obtain ⟨recordedBy, -, h⟩ := bind_eq_ok.mp h
  rw [check_bind_eq_ok] at h
  obtain ⟨-, h⟩ := h
  obtain ⟨kind, hkind, h⟩ := bind_eq_ok.mp h
  obtain rfl := Except.ok.inj h
  exact .recordedEvent _ hstatus
    { attempt := rfl
      safe := (safeId_of_id hsafe).1
      owner := (safeId_of_id howner).1
      refs := evidenceRefs_valid hrefs
      kind := wellFormed_of_eventKind hkind }

theorem step_of_resolveCanaryAlert {eventId reason : JsString}
    (h : resolveCanaryAlert value eventId reason now = .ok next) : CanaryStep value now next := by
  simp only [resolveCanaryAlert, check_bind_eq_ok, validate_eq_ok, decide_eq_true_eq] at h
  obtain ⟨hobserving, h⟩ := h
  obtain ⟨_, -, h⟩ := bind_eq_ok.mp h
  rw [check_bind_eq_ok] at h
  obtain ⟨-, h⟩ := h
  obtain rfl := Except.ok.inj h
  exact .resolvedAlert _ hobserving

theorem step_of_finalizeCanary {verification : PassedGoalVerification}
    (h : finalizeCanary parse value verification now = .ok next) : CanaryStep value now next := by
  obtain ⟨finalizing, heligible, h⟩ := bind_eq_ok.mp h
  obtain ⟨verified, -, h⟩ := bind_eq_ok.mp h
  obtain ⟨result, hresult, h⟩ := bind_eq_ok.mp h
  obtain rfl := Except.ok.inj h
  exact .passed finalizing verified heligible (validateP12CanaryReport_eq_ok.mp ⟨result, hresult⟩)

theorem step_of_apply {operation : CanaryOperation}
    (h : operation.apply parse value now = .ok next) : CanaryStep value now next := by
  cases operation with
  | approve actorId reason => exact step_of_approveCanary h
  | recordWindow actorId window => exact step_of_recordCanaryWindow h
  | recordEvent actorId event => exact step_of_recordCanaryEvent h
  | resolveAlert eventId reason => exact step_of_resolveCanaryAlert h
  | restart actorId reason => exact step_of_restartCanary h
  | finalize verification => exact step_of_finalizeCanary h

theorem CanaryStep.version (h : CanaryStep value now next) : next.version = value.version + 1 := by
  cases h <;> rfl

end Steps

/-! ## Runs -/

/-- The times of the calls and the canary after each of them, newest first; `clock` says which
time may follow which.  A call that fails leaves the canary as it was. -/
inductive CanaryRun (parse : JsString → Option ℤ) (clock : ℤ → ℤ → Prop) :
    List (ℤ × CanaryAggregate) → Prop
  | created (input : CreateCanaryInput) (now : ℤ) (value : CanaryAggregate)
      (hcreate : createCanary input now = .ok value) : CanaryRun parse clock [(now, value)]
  | called (operation : CanaryOperation) (now later : ℤ) (value next : CanaryAggregate)
      (past : List (ℤ × CanaryAggregate)) (hrun : CanaryRun parse clock ((now, value) :: past))
      (hclock : clock now later) (happly : operation.apply parse value later = .ok next) :
      CanaryRun parse clock ((later, next) :: (now, value) :: past)
  | refused (operation : CanaryOperation) (now later : ℤ) (value : CanaryAggregate)
      (error : ReleaseError) (past : List (ℤ × CanaryAggregate))
      (hrun : CanaryRun parse clock ((now, value) :: past)) (hclock : clock now later)
      (happly : operation.apply parse value later = .error error) :
      CanaryRun parse clock ((later, value) :: (now, value) :: past)

/-- The windows are numbered and follow one another from a start, each at most an hour long. -/
def Contiguous : ℕ → ℤ → List CanaryWindow → Prop
  | _, _, [] => True
  | index, start, window :: rest =>
    (window.sequence = index + 1 ∧ window.startedAt = start ∧ window.startedAt < window.endedAt ∧
      window.endedAt - window.startedAt ≤ hourMs) ∧ Contiguous (index + 1) window.endedAt rest

/-- What certifies a canary that has passed. -/
structure CertifiedReport (value : CanaryAggregate) (report : CanaryReport) : Prop where
  stored : value.report = some report
  windows : report.observation.windows =
    (value.windowsOf value.attempt).map CanaryWindow.toReport
  contiguous : Contiguous 0 report.observation.startedAt (value.windowsOf value.attempt)
  starts : value.startedAt = some report.observation.startedAt
  covers : lastEnd report.observation.startedAt report.observation.windows =
    report.observation.endedAt
  lasts : 12 * hourMs ≤ report.observation.endedAt - report.observation.startedAt
  alerts : report.alerts = (value.eventsOf value.attempt).filterMap CanaryEvent.alert?
  resolved : ∀ alert ∈ report.alerts, alert.resolved = true

/-- A canary after a run, at a time. -/
structure CertifiedCanary (parse : JsString → Option ℤ) (history : List (ℤ × CanaryAggregate))
    (now : ℤ) (value : CanaryAggregate) : Prop where
  /-- The windows of an attempt follow one another from where the attempt has started. -/
  contiguous : ∀ entry ∈ history, ∀ start, entry.2.startedAt = some start →
    Contiguous 0 start (value.windowsOf entry.2.attempt)
  /-- A window belongs to an attempt that has started. -/
  placed : ∀ window ∈ value.windows, ∃ entry ∈ history, entry.2.attempt = window.attempt ∧
    entry.2.startedAt.isSome
  past : ∀ window ∈ value.windows, window.endedAt ≤ now
  healthy : value.status = .observing → ∀ window ∈ value.windowsOf value.attempt,
    window.status = .healthy ∧ window.p0Count = 0 ∧ window.p1Count = 0
  quiet : value.status = .observing → ∀ event ∈ value.eventsOf value.attempt,
    event.kind.stops = false
  certified : value.status = .passed → ∃ report, CertifiedReport value report
  version : ∀ (operation : CanaryOperation) later next,
    operation.apply parse value later = .ok next → next.version = value.version + 1

/-! ## The invariant -/

/-- How the attempts of a history and the windows of the canary are related. -/
structure AttemptOrder (history : List (ℤ × CanaryAggregate)) (value : CanaryAggregate) : Prop where
  attempts : ∀ entry ∈ history, entry.2.attempt ≤ value.attempt
  started : ∀ entry ∈ history, ∀ start, entry.2.startedAt = some start →
    entry.2.attempt = value.attempt → value.startedAt = some start
  windows : ∀ window ∈ value.windows, window.attempt ≤ value.attempt
  events : ∀ event ∈ value.events, event.attempt ≤ value.attempt
  draft : value.status = .draft → value.windows = [] ∧ value.events = [] ∧
    ∀ entry ∈ history, entry.2.startedAt = none

section Contiguity

variable {index : ℕ} {start : ℤ} {windows : List CanaryWindow}

theorem contiguous_append (h : Contiguous index start windows)
    (hsequence : window.sequence = index + windows.length + 1)
    (hstart : window.startedAt = (windows.getLast?.map (·.endedAt)).getD start)
    (hlasts : window.startedAt < window.endedAt ∧ window.endedAt - window.startedAt ≤ hourMs) :
    Contiguous index start (windows ++ [window]) := by
  induction windows generalizing index start with
  | nil => exact ⟨⟨hsequence, hstart, hlasts⟩, trivial⟩
  | cons first rest ih =>
      obtain ⟨hfirst, hrest⟩ := h
      refine ⟨hfirst, ih hrest ?_ ?_⟩
      · rw [hsequence, List.length_cons]
        omega
      · rw [hstart, List.getLast?_cons]
        cases rest.getLast? <;> rfl

theorem goodWindows_of_contiguous (h : Contiguous index start windows)
    (hhealthy : ∀ window ∈ windows, window.status = .healthy ∧ window.p0Count = 0 ∧
      window.p1Count = 0)
    (hrefs : ∀ window ∈ windows, window.evidenceRefs ≠ [] ∧
      ∀ ref ∈ window.evidenceRefs, evidenceRef ref = true) :
    GoodWindows index start (windows.map CanaryWindow.toReport) := by
  induction windows generalizing index start with
  | nil => trivial
  | cons first rest ih =>
      obtain ⟨⟨hsequence, hstart, hlasts⟩, hrest⟩ := h
      refine ⟨⟨hsequence, hstart, hlasts, hhealthy first List.mem_cons_self,
        hrefs first List.mem_cons_self⟩, ih hrest ?_ ?_⟩
      · exact fun window hwindow => hhealthy window (List.mem_cons_of_mem first hwindow)
      · exact fun window hwindow => hrefs window (List.mem_cons_of_mem first hwindow)

theorem windowsOf_withWindow {now : ℤ} (attempt : ℕ) :
    (withWindow value window now).windowsOf attempt =
      value.windowsOf attempt ++ if window.attempt = attempt then [window] else [] := by
  unfold CanaryAggregate.windowsOf withWindow
  rw [List.filter_append]
  congr 1
  by_cases hattempt : window.attempt = attempt
  · simp [hattempt]
  · simp [hattempt]

end Contiguity

/-- What every step of a run preserves. -/
structure CanaryInvariant (history : List (ℤ × CanaryAggregate)) (value : CanaryAggregate) :
    Prop where
  order : AttemptOrder history value
  contiguous : ∀ entry ∈ history, ∀ start, entry.2.startedAt = some start →
    Contiguous 0 start (value.windowsOf entry.2.attempt)
  placed : ∀ window ∈ value.windows, ∃ entry ∈ history, entry.2.attempt = window.attempt ∧
    entry.2.startedAt.isSome
  healthy : value.status = .observing → ∀ window ∈ value.windowsOf value.attempt,
    window.stops = false
  quiet : value.status = .observing → ∀ event ∈ value.eventsOf value.attempt,
    event.kind.stops = false
  certified : value.status = .passed → ∃ report, CertifiedReport value report

section Invariants

variable {history : List (ℤ × CanaryAggregate)} {later : ℤ} {attempt : ℕ} {event : CanaryEvent}
  {isNamed : CanaryEvent → Bool}

theorem mem_windowsOf :
    window ∈ value.windowsOf attempt ↔ window ∈ value.windows ∧ window.attempt = attempt := by
  rw [CanaryAggregate.windowsOf, List.mem_filter, decide_eq_true_eq]

theorem mem_eventsOf :
    event ∈ value.eventsOf attempt ↔ event ∈ value.events ∧ event.attempt = attempt := by
  rw [CanaryAggregate.eventsOf, List.mem_filter, decide_eq_true_eq]

section

variable (h : AttemptOrder history value)

include h

theorem AttemptOrder.windowsOf_next : value.windowsOf (value.attempt + 1) = [] := by
  apply List.eq_nil_iff_forall_not_mem.mpr
  intro window hwindow
  obtain ⟨hmem, hattempt⟩ := mem_windowsOf.mp hwindow
  have hle := h.windows window hmem
  omega

theorem AttemptOrder.eventsOf_next : value.eventsOf (value.attempt + 1) = [] := by
  apply List.eq_nil_iff_forall_not_mem.mpr
  intro event hevent
  obtain ⟨hmem, hattempt⟩ := mem_eventsOf.mp hevent
  have hle := h.events event hmem
  omega

theorem AttemptOrder.within (hattempt : next.attempt = value.attempt)
    (hstart : next.startedAt = value.startedAt) (hstatus : next.status ≠ .draft)
    (hwindows : ∀ window ∈ next.windows, window.attempt ≤ next.attempt)
    (hevents : ∀ event ∈ next.events, event.attempt ≤ next.attempt) :
    AttemptOrder ((later, next) :: history) next := by
  constructor
  · intro entry hentry
    rcases List.mem_cons.mp hentry with rfl | hold
    · exact le_rfl
    · rw [hattempt]
      exact h.attempts entry hold
  · intro entry hentry start hsome hsame
    rcases List.mem_cons.mp hentry with rfl | hold
    · exact hsome
    · rw [hstart]
      exact h.started entry hold start hsome (hsame.trans hattempt)
  · exact hwindows
  · exact hevents
  · exact fun hdraft => absurd hdraft hstatus

end

section

variable (h : CanaryInvariant history value)

include h

theorem CanaryInvariant.contiguous_keep (hhead : (now, value) ∈ history)
    (hwindows : next.windows = value.windows) (hattempt : next.attempt = value.attempt)
    (hstart : next.startedAt = value.startedAt) :
    ∀ entry ∈ (later, next) :: history, ∀ start, entry.2.startedAt = some start →
      Contiguous 0 start (next.windowsOf entry.2.attempt) := by
  intro entry hentry start hsome
  have hsame : ∀ attempt, next.windowsOf attempt = value.windowsOf attempt := by
    intro attempt
    rw [CanaryAggregate.windowsOf, CanaryAggregate.windowsOf, hwindows]
  rw [hsame]
  rcases List.mem_cons.mp hentry with rfl | hold
  · rw [hattempt]
    exact h.contiguous _ hhead start (hstart ▸ hsome)
  · exact h.contiguous entry hold start hsome

theorem CanaryInvariant.placed_keep (hwindows : next.windows = value.windows) :
    ∀ window ∈ next.windows, ∃ entry ∈ (later, next) :: history,
      entry.2.attempt = window.attempt ∧ entry.2.startedAt.isSome := by
  intro window hwindow
  rw [hwindows] at hwindow
  obtain ⟨entry, hentry, hplaced⟩ := h.placed window hwindow
  exact ⟨entry, List.mem_cons_of_mem _ hentry, hplaced⟩

theorem CanaryInvariant.approved (hdraft : value.status = .draft)
    (hwindows : next.windows = value.windows) (hevents : next.events = value.events)
    (hattempt : next.attempt = value.attempt) (hstatus : next.status = .observing) :
    CanaryInvariant ((later, next) :: history) next := by
  obtain ⟨hnil, hnone, hunstarted⟩ := h.order.draft hdraft
  rw [hnil] at hwindows
  rw [hnone] at hevents
  have hempty : ∀ attempt, next.windowsOf attempt = [] := by
    intro attempt
    rw [CanaryAggregate.windowsOf, hwindows, List.filter_nil]
  have hquiet : ∀ attempt, next.eventsOf attempt = [] := by
    intro attempt
    rw [CanaryAggregate.eventsOf, hevents, List.filter_nil]
  constructor
  · constructor
    · intro entry hentry
      rcases List.mem_cons.mp hentry with rfl | hold
      · exact le_rfl
      · rw [hattempt]
        exact h.order.attempts entry hold
    · intro entry hentry start hsome _
      rcases List.mem_cons.mp hentry with rfl | hold
      · exact hsome
      · rw [hunstarted entry hold] at hsome
        cases hsome
    · simp [hwindows]
    · simp [hevents]
    · intro hstill
      rw [hstatus] at hstill
      cases hstill
  · intro entry _ start _
    rw [hempty]
    trivial
  · simp [hwindows]
  · simp [hempty]
  · simp [hquiet]
  · intro hpassed
    rw [hstatus] at hpassed
    cases hpassed

theorem CanaryInvariant.restarted (hwindows : next.windows = value.windows)
    (hevents : next.events = value.events) (hattempt : next.attempt = value.attempt + 1)
    (hstatus : next.status = .observing) : CanaryInvariant ((later, next) :: history) next := by
  have hwindowsOf : ∀ attempt, next.windowsOf attempt = value.windowsOf attempt := by
    intro attempt
    rw [CanaryAggregate.windowsOf, CanaryAggregate.windowsOf, hwindows]
  have heventsOf : ∀ attempt, next.eventsOf attempt = value.eventsOf attempt := by
    intro attempt
    rw [CanaryAggregate.eventsOf, CanaryAggregate.eventsOf, hevents]
  constructor
  · constructor
    · intro entry hentry
      rcases List.mem_cons.mp hentry with rfl | hold
      · exact le_rfl
      · have hle := h.order.attempts entry hold
        omega
    · intro entry hentry start hsome hsame
      rcases List.mem_cons.mp hentry with rfl | hold
      · exact hsome
      · have hle := h.order.attempts entry hold
        omega
    · intro window hwindow
      rw [hwindows] at hwindow
      have hle := h.order.windows window hwindow
      omega
    · intro event hevent
      rw [hevents] at hevent
      have hle := h.order.events event hevent
      omega
    · intro hstill
      rw [hstatus] at hstill
      cases hstill
  · intro entry hentry start hsome
    rw [hwindowsOf]
    rcases List.mem_cons.mp hentry with rfl | hold
    · rw [hattempt, h.order.windowsOf_next]
      trivial
    · exact h.contiguous entry hold start hsome
  · exact h.placed_keep hwindows
  · intro _ window hwindow
    rw [hattempt, hwindowsOf, h.order.windowsOf_next] at hwindow
    exact absurd hwindow List.not_mem_nil
  · intro _ event hevent
    rw [hattempt, heventsOf, h.order.eventsOf_next] at hevent
    exact absurd hevent List.not_mem_nil
  · intro hpassed
    rw [hstatus] at hpassed
    cases hpassed

theorem CanaryInvariant.recordedWindow (hhead : (now, value) ∈ history)
    (hobserving : value.status = .observing) (hstart : value.startedAt = some canaryStart)
    (hwindow : NextWindow value canaryStart later window) :
    CanaryInvariant ((later, withWindow value window later) :: history)
      (withWindow value window later) := by
  have hsequence : window.sequence = 0 + (value.windowsOf value.attempt).length + 1 := by
    rw [hwindow.sequence, Nat.zero_add]
  constructor
  · refine h.order.within rfl rfl ?_ ?_ h.order.events
    · simp only [withWindow]
      split <;> simp
    · intro other hother
      rcases List.mem_append.mp hother with hold | hnew
      · exact h.order.windows other hold
      · rw [List.mem_singleton.mp hnew, hwindow.attempt]
        exact le_rfl
  · intro entry hentry start hsome
    have hold : ∀ start, value.startedAt = some start →
        Contiguous 0 start ((withWindow value window later).windowsOf value.attempt) := by
      intro start hsame
      rw [hstart] at hsame
      obtain rfl := Option.some.inj hsame
      rw [windowsOf_withWindow, if_pos hwindow.attempt]
      exact contiguous_append (h.contiguous _ hhead _ hstart) hsequence hwindow.contiguous
        hwindow.lasts
    rcases List.mem_cons.mp hentry with rfl | hmem
    · exact hold start hsome
    · by_cases hattempt : entry.2.attempt = value.attempt
      · rw [hattempt]
        exact hold start (h.order.started entry hmem start hsome hattempt)
      · rw [windowsOf_withWindow, hwindow.attempt, if_neg fun hsame => hattempt hsame.symm,
          List.append_nil]
        exact h.contiguous entry hmem start hsome
  · intro other hother
    rcases List.mem_append.mp hother with hold | hnew
    · obtain ⟨entry, hentry, hplaced⟩ := h.placed other hold
      exact ⟨entry, List.mem_cons_of_mem _ hentry, hplaced⟩
    · rw [List.mem_singleton.mp hnew, hwindow.attempt]
      exact ⟨_, List.mem_cons_of_mem _ hhead, rfl, Option.isSome_iff_exists.mpr ⟨_, hstart⟩⟩
  · intro hstill other hother
    have hgood : window.stops = false := by
      by_contra hstops
      rw [Bool.not_eq_false] at hstops
      simp only [withWindow, hstops, if_true] at hstill
      cases hstill
    rcases mem_windowsOf.mp hother with ⟨hmem, hattempt⟩
    rcases List.mem_append.mp hmem with hold | hnew
    · exact h.healthy hobserving other (mem_windowsOf.mpr ⟨hold, hattempt⟩)
    · rw [List.mem_singleton.mp hnew]
      exact hgood
  · intro _ event hevent
    exact h.quiet hobserving event hevent
  · intro hpassed
    simp only [withWindow] at hpassed
    split at hpassed <;> cases hpassed

theorem CanaryInvariant.recordedEvent (hhead : (now, value) ∈ history)
    (hobserving : value.status = .observing) (hevent : NextEvent value event) :
    CanaryInvariant ((later, withEvent value event later) :: history)
      (withEvent value event later) := by
  constructor
  · refine h.order.within rfl rfl ?_ h.order.windows ?_
    · simp only [withEvent]
      split <;> simp
    · intro other hother
      rcases List.mem_append.mp hother with hold | hnew
      · exact h.order.events other hold
      · rw [List.mem_singleton.mp hnew, hevent.attempt]
        exact le_rfl
  · exact h.contiguous_keep hhead rfl rfl rfl
  · exact h.placed_keep rfl
  · exact fun _ window hwindow => h.healthy hobserving window hwindow
  · intro hstill other hother
    have hgood : event.kind.stops = false := by
      by_contra hstops
      rw [Bool.not_eq_false] at hstops
      simp only [withEvent, hstops, if_true] at hstill
      cases hstill
    rcases mem_eventsOf.mp hother with ⟨hmem, hattempt⟩
    rcases List.mem_append.mp hmem with hold | hnew
    · exact h.quiet hobserving other (mem_eventsOf.mpr ⟨hold, hattempt⟩)
    · rw [List.mem_singleton.mp hnew]
      exact hgood
  · intro hpassed
    simp only [withEvent] at hpassed
    split at hpassed <;> cases hpassed

end

theorem attempt_resolve (event : CanaryEvent) : event.resolve.attempt = event.attempt := by
  unfold CanaryEvent.resolve
  split <;> rfl

theorem stops_resolve (event : CanaryEvent) : event.resolve.kind.stops = event.kind.stops := by
  unfold CanaryEvent.resolve
  split
  · next severity resolved hkind => rw [hkind]; rfl
  · rfl

theorem exists_of_mem_resolved (h : event ∈ updateFirst isNamed CanaryEvent.resolve value.events) :
    ∃ source ∈ value.events, (event = source ∨ event = source.resolve) ∧
      source.attempt = event.attempt ∧ source.kind.stops = event.kind.stops := by
  rcases of_mem_updateFirst h with hold | ⟨source, hsource, -, rfl⟩
  · exact ⟨event, hold, Or.inl rfl, rfl, rfl⟩
  · exact ⟨source, hsource, Or.inr rfl, (attempt_resolve source).symm, (stops_resolve source).symm⟩

section

variable (h : CanaryInvariant history value) (hhead : (now, value) ∈ history)

include h hhead

theorem CanaryInvariant.resolvedAlert (hobserving : value.status = .observing)
    (hevents : next.events = updateFirst isNamed CanaryEvent.resolve value.events)
    (hwindows : next.windows = value.windows) (hattempt : next.attempt = value.attempt)
    (hstart : next.startedAt = value.startedAt) (hstatus : next.status = value.status) :
    CanaryInvariant ((later, next) :: history) next := by
  constructor
  · refine h.order.within hattempt hstart ?_ ?_ ?_
    · rw [hstatus, hobserving]
      decide
    · rw [hwindows, hattempt]
      exact h.order.windows
    · intro event hevent
      rw [hevents] at hevent
      obtain ⟨source, hsource, -, hsame, -⟩ := exists_of_mem_resolved hevent
      rw [← hsame, hattempt]
      exact h.order.events source hsource
  · exact h.contiguous_keep hhead hwindows hattempt hstart
  · exact h.placed_keep hwindows
  · intro _ window hwindow
    rw [mem_windowsOf, hwindows, hattempt, ← mem_windowsOf] at hwindow
    exact h.healthy hobserving window hwindow
  · intro _ event hevent
    rw [mem_eventsOf, hevents, hattempt] at hevent
    obtain ⟨source, hsource, -, hsame, hstops⟩ := exists_of_mem_resolved hevent.1
    rw [← hstops]
    exact h.quiet hobserving source (mem_eventsOf.mpr ⟨hsource, hsame.trans hevent.2⟩)
  · intro hpassed
    rw [hstatus, hobserving] at hpassed
    cases hpassed

theorem CanaryInvariant.passed {verification : ReportVerification}
    (heligible : eligible value = .ok finalizing)
    (hreport : GoodReport (canaryReport value finalizing verification) later)
    (hstored : next.report = some (canaryReport value finalizing verification))
    (hwindows : next.windows = value.windows) (hevents : next.events = value.events)
    (hattempt : next.attempt = value.attempt) (hstart : next.startedAt = value.startedAt)
    (hstatus : next.status = .passed) : CanaryInvariant ((later, next) :: history) next := by
  obtain ⟨-, hstarted, -, -, -, -, hlasts⟩ := eligible_eq_ok.mp heligible
  have hwindowsOf : next.windowsOf next.attempt = value.windowsOf value.attempt := by
    rw [CanaryAggregate.windowsOf, CanaryAggregate.windowsOf, hwindows, hattempt]
  have heventsOf : next.eventsOf next.attempt = value.eventsOf value.attempt := by
    rw [CanaryAggregate.eventsOf, CanaryAggregate.eventsOf, hevents, hattempt]
  constructor
  · refine h.order.within hattempt hstart ?_ ?_ ?_
    · rw [hstatus]
      decide
    · rw [hwindows, hattempt]
      exact h.order.windows
    · rw [hevents, hattempt]
      exact h.order.events
  · exact h.contiguous_keep hhead hwindows hattempt hstart
  · exact h.placed_keep hwindows
  · intro hobserving
    rw [hstatus] at hobserving
    cases hobserving
  · intro hobserving
    rw [hstatus] at hobserving
    cases hobserving
  · intro _
    refine ⟨canaryReport value finalizing verification, ?_⟩
    constructor
    · exact hstored
    · rw [hwindowsOf]
      rfl
    · rw [hwindowsOf]
      exact h.contiguous _ hhead _ hstarted
    · rw [hstart]
      exact hstarted
    · exact hreport.observation.covers
    · exact hlasts
    · rw [heventsOf]
      rfl
    · exact fun alert halert => (hreport.alerts alert halert).resolved

theorem CanaryInvariant.step (hstep : CanaryStep value later next) :
    CanaryInvariant ((later, next) :: history) next := by
  cases hstep with
  | approved ownerId hdraft howner => exact h.approved hdraft rfl rfl rfl rfl
  | restarted ownerId hstopped howner => exact h.restarted rfl rfl rfl rfl
  | recordedWindow canaryStart window hobserving hstart hwindow =>
      exact h.recordedWindow hhead hobserving hstart hwindow
  | recordedEvent event hobserving hevent => exact h.recordedEvent hhead hobserving hevent
  | resolvedAlert isNamed hobserving =>
      exact h.resolvedAlert hhead hobserving rfl rfl rfl rfl rfl
  | passed finalizing verification heligible hreport =>
      exact h.passed hhead heligible hreport rfl rfl rfl rfl rfl rfl

theorem CanaryInvariant.refused : CanaryInvariant ((later, value) :: history) value := by
  have hentry : ∀ entry ∈ (later, value) :: history, ∃ old ∈ history, old.2 = entry.2 := by
    intro entry hmem
    rcases List.mem_cons.mp hmem with rfl | hold
    · exact ⟨_, hhead, rfl⟩
    · exact ⟨entry, hold, rfl⟩
  constructor
  · constructor
    · intro entry hmem
      obtain ⟨old, hold, hsame⟩ := hentry entry hmem
      rw [← hsame]
      exact h.order.attempts old hold
    · intro entry hmem
      obtain ⟨old, hold, hsame⟩ := hentry entry hmem
      rw [← hsame]
      exact h.order.started old hold
    · exact h.order.windows
    · exact h.order.events
    · intro hdraft
      obtain ⟨hnil, hnone, hunstarted⟩ := h.order.draft hdraft
      refine ⟨hnil, hnone, ?_⟩
      intro entry hmem
      obtain ⟨old, hold, hsame⟩ := hentry entry hmem
      rw [← hsame]
      exact hunstarted old hold
  · exact h.contiguous_keep hhead rfl rfl rfl
  · exact h.placed_keep rfl
  · exact h.healthy
  · exact h.quiet
  · exact h.certified

end

/-- A draft that has just been created. -/
structure FreshCanary (value : CanaryAggregate) : Prop where
  status : value.status = .draft
  windows : value.windows = []
  events : value.events = []
  ownerId : value.ownerId = none
  approvedAt : value.approvedAt = none
  startedAt : value.startedAt = none

theorem CanaryInvariant.created (h : FreshCanary value) :
    CanaryInvariant [(now, value)] value := by
  have hpassed : value.status ≠ .passed := by
    rw [h.status]
    decide
  have hobserving : value.status ≠ .observing := by
    rw [h.status]
    decide
  constructor
  · constructor
    · intro entry hentry
      rw [List.mem_singleton.mp hentry]
    · intro entry hentry start hsome _
      rw [List.mem_singleton.mp hentry] at hsome
      exact hsome
    · simp [h.windows]
    · simp [h.events]
    · intro _
      refine ⟨h.windows, h.events, ?_⟩
      intro entry hentry
      rw [List.mem_singleton.mp hentry]
      exact h.startedAt
  · intro entry hentry start hsome
    rw [List.mem_singleton.mp hentry, h.startedAt] at hsome
    cases hsome
  · simp [h.windows]
  · exact fun hstatus => absurd hstatus hobserving
  · exact fun hstatus => absurd hstatus hobserving
  · exact fun hstatus => absurd hstatus hpassed

end Invariants

/-! ## The creation of a canary -/

structure StaticFields (value : CanaryAggregate) : Prop where
  id : safeId value.id = true
  project : safeId value.projectId = true
  goal : safeId value.goalId = true
  commit : commitSha value.candidateCommit = true
  version : 1 ≤ value.goalContractVersion
  allowed : value.allowedAreas ≠ [] ∧ ∀ area ∈ value.allowedAreas, Trimmed area
  excluded : value.excludedAreas ≠ [] ∧ ∀ area ∈ value.excludedAreas, Trimmed area
  disjoint : ∀ area ∈ value.allowedAreas, area ∉ value.excludedAreas
  success : value.successConditions ≠ [] ∧ ∀ text ∈ value.successConditions, Trimmed text
  stop : value.stopConditions ≠ [] ∧ ∀ text ∈ value.stopConditions, Trimmed text
  rollback : runbookPath value.rollbackRunbook = true ∧ Trimmed value.rollbackRunbook
  stopRunbook : runbookPath value.stopRunbook = true ∧ Trimmed value.stopRunbook

theorem le_of_positive {number : Option ℤ} {message : JsString} {n : ℤ}
    (h : positive number message = .ok n) : 1 ≤ n := by
  cases number with
  | none => cases h
  | some m =>
      simp only [positive, check_bind_eq_ok, validate_eq_ok, decide_eq_true_eq] at h
      obtain ⟨hm, h⟩ := h
      obtain rfl := Except.ok.inj h
      exact hm

theorem created_of_createCanary {input : CreateCanaryInput}
    (h : createCanary input now = .ok value) : FreshCanary value ∧ StaticFields value := by
  rw [createCanary, check_bind_eq_ok, validate_eq_ok] at h
  obtain ⟨hcommit, h⟩ := h
  obtain ⟨version, hversion, h⟩ := bind_eq_ok.mp h
  obtain ⟨allowedAreas, hallowed, h⟩ := bind_eq_ok.mp h
  obtain ⟨excludedAreas, hexcluded, h⟩ := bind_eq_ok.mp h
  rw [check_bind_eq_ok, validate_eq_ok] at h
  obtain ⟨hdisjoint, h⟩ := h
  obtain ⟨canaryId, hid, h⟩ := bind_eq_ok.mp h
  obtain ⟨organizationId, -, h⟩ := bind_eq_ok.mp h
  obtain ⟨projectId, hproject, h⟩ := bind_eq_ok.mp h
  obtain ⟨goalId, hgoal, h⟩ := bind_eq_ok.mp h
  obtain ⟨success, hsuccess, h⟩ := bind_eq_ok.mp h
  obtain ⟨stop, hstop, h⟩ := bind_eq_ok.mp h
  obtain ⟨rollbackRunbook, hrollback, h⟩ := bind_eq_ok.mp h
  obtain ⟨stopRunbook, hstopRunbook, h⟩ := bind_eq_ok.mp h
  obtain ⟨createdBy, -, h⟩ := bind_eq_ok.mp h
  obtain rfl := Except.ok.inj h
  refine ⟨⟨rfl, rfl, rfl, rfl, rfl, rfl⟩, ?_⟩
  exact
    { id := (safeId_of_id hid).1
      project := (safeId_of_id hproject).1
      goal := (safeId_of_id hgoal).1
      commit := hcommit
      version := le_of_positive hversion
      allowed := trimmed_of_strings hallowed
      excluded := trimmed_of_strings hexcluded
      disjoint := by simpa using hdisjoint
      success := trimmed_of_strings hsuccess
      stop := trimmed_of_strings hstop
      rollback := runbookPath_of_runbook hrollback
      stopRunbook := runbookPath_of_runbook hstopRunbook }

/-! ## Certification -/

theorem canaryInvariant_of_run {clock : ℤ → ℤ → Prop} {history : List (ℤ × CanaryAggregate)}
    (hrun : CanaryRun parse clock history) :
    ∀ entry ∈ history.head?, CanaryInvariant history entry.2 := by
  induction hrun with
  | created input now value hcreate =>
      rintro _ ⟨⟩
      exact .created (created_of_createCanary hcreate).1
  | called operation now later value next past _ _ happly ih =>
      rintro _ ⟨⟩
      exact (ih (now, value) rfl).step List.mem_cons_self (step_of_apply happly)
  | refused operation now later value error past _ _ _ ih =>
      rintro _ ⟨⟩
      exact (ih (now, value) rfl).refused List.mem_cons_self

theorem CanaryStep.past {next : CanaryAggregate} (h : CanaryStep value now next)
    (hwindow : window ∈ next.windows) : window ∈ value.windows ∨ window.endedAt ≤ now := by
  cases h with
  | recordedWindow canaryStart recorded hobserving hstart hrecorded =>
      rcases List.mem_append.mp hwindow with hold | hnew
      · exact Or.inl hold
      · rw [List.mem_singleton.mp hnew]
        exact Or.inr hrecorded.past
  | approved => exact Or.inl hwindow
  | restarted => exact Or.inl hwindow
  | recordedEvent => exact Or.inl hwindow
  | resolvedAlert => exact Or.inl hwindow
  | passed => exact Or.inl hwindow

/-- A clock that does not go back. -/
def Forward (now later : ℤ) : Prop :=
  now ≤ later

theorem past_of_run {history : List (ℤ × CanaryAggregate)}
    (hrun : CanaryRun parse Forward history) :
    ∀ entry ∈ history.head?, ∀ window ∈ entry.2.windows, window.endedAt ≤ entry.1 := by
  induction hrun with
  | created input now value hcreate =>
      rintro _ ⟨⟩ window hwindow
      rw [(created_of_createCanary hcreate).1.windows] at hwindow
      exact absurd hwindow List.not_mem_nil
  | called operation now later value next past _ hclock happly ih =>
      rintro _ ⟨⟩ window hwindow
      rcases (step_of_apply happly).past hwindow with hold | hpast
      · exact (ih (now, value) rfl window hold).trans hclock
      · exact hpast
  | refused operation now later value error past _ hclock _ ih =>
      rintro _ ⟨⟩ window hwindow
      exact (ih (now, value) rfl window hwindow).trans hclock

theorem not_stops_iff : window.stops = false ↔
    window.status = .healthy ∧ window.p0Count = 0 ∧ window.p1Count = 0 := by
  simp [CanaryWindow.stops, and_assoc]

/-- What holds of a canary after any sequence of calls. -/
theorem certifiedCanary_of_run {parse : JsString → Option ℤ} {now : ℤ} {value : CanaryAggregate}
    {past : List (ℤ × CanaryAggregate)}
    (hrun : CanaryRun parse Forward ((now, value) :: past)) :
    CertifiedCanary parse ((now, value) :: past) now value := by
  have h := canaryInvariant_of_run hrun (now, value) rfl
  exact
    { contiguous := h.contiguous
      placed := h.placed
      past := past_of_run hrun (now, value) rfl
      healthy := fun hobserving window hwindow =>
        not_stops_iff.mp (h.healthy hobserving window hwindow)
      quiet := h.quiet
      certified := h.certified
      version := fun operation later next happly => (step_of_apply happly).version }

/-! ## A canary of hourly windows -/

def parseHours (text : JsString) : Option ℤ :=
  ((List.range 14).find? fun hour => toISOString (hour * hourMs) = text).map fun hour =>
    hour * hourMs

def canaryDraft : CreateCanaryInput where
  canaryId := js "canary-01"
  organizationId := js "organization-01"
  projectId := js "project-01"
  goalId := js "goal-01"
  candidateCommit := List.replicate 40 0x61
  goalContractVersion := some 3
  allowedAreas := [js "documentation"]
  excludedAreas := [js "billing"]
  successConditions := [js "No P0/P1 for 12 hours"]
  stopConditions := [js "Any P0/P1"]
  rollbackRunbook := js "docs/runbooks/rollback.md"
  stopRunbook := js "docs/runbooks/stop.md"
  createdBy := js "oidc_operator"

def draftCanary : CanaryAggregate where
  id := js "canary-01"
  organizationId := js "organization-01"
  projectId := js "project-01"
  goalId := js "goal-01"
  candidateCommit := List.replicate 40 0x61
  status := .draft
  attempt := 1
  goalContractVersion := 3
  allowedAreas := [js "documentation"]
  excludedAreas := [js "billing"]
  successConditions := [js "No P0/P1 for 12 hours"]
  stopConditions := [js "Any P0/P1"]
  rollbackRunbook := js "docs/runbooks/rollback.md"
  stopRunbook := js "docs/runbooks/stop.md"
  ownerId := none
  approvedAt := none
  startedAt := none
  endedAt := none
  report := none
  windows := []
  events := []
  version := 1
  createdBy := js "oidc_operator"
  createdAt := 0
  updatedAt := 0

def hourlyWindow (hour : ℕ) : NewCanaryWindow where
  sequence := some (hour + 1)
  startedAt := toISOString (hour * hourMs)
  endedAt := toISOString ((hour + 1) * hourMs)
  status := js "healthy"
  p0Count := some 0
  p1Count := some 0
  evidenceRefs := [js "metric-window:01"]

def observedCanary (owner : JsString) (hours : ℕ) : CanaryAggregate :=
  { draftCanary with
    status := .observing
    ownerId := some owner
    approvedAt := some 0
    startedAt := some 0
    windows := (List.range hours).map fun hour =>
      { attempt := 1
        sequence := hour + 1
        startedAt := hour * hourMs
        endedAt := (hour + 1) * hourMs
        status := .healthy
        p0Count := 0
        p1Count := 0
        evidenceRefs := [js "metric-window:01"]
        recordedBy := js "oidc_operations" }
    version := hours + 2
    updatedAt := hours * hourMs }

theorem createCanary_canaryDraft : createCanary canaryDraft 0 = .ok draftCanary := by
  decide +kernel

theorem certifiedCanary_firstHour :
    CertifiedCanary parseHours
      [(hourMs, observedCanary (js "oidc_owner") 1), (0, observedCanary (js "oidc_owner") 0),
        (0, draftCanary)] hourMs (observedCanary (js "oidc_owner") 1) := by
  have happrove : CanaryOperation.apply parseHours draftCanary 0
      (.approve (js "oidc_owner") (js "bounded")) =
      .ok (observedCanary (js "oidc_owner") 0) := by decide +kernel
  have hrecord : CanaryOperation.apply parseHours (observedCanary (js "oidc_owner") 0) hourMs
      (.recordWindow (js "oidc_operations") (hourlyWindow 0)) =
      .ok (observedCanary (js "oidc_owner") 1) := by decide +kernel
  have hlater : (0 : ℤ) ≤ hourMs := by decide
  have hcreated : CanaryRun parseHours Forward [(0, draftCanary)] :=
    .created canaryDraft 0 draftCanary createCanary_canaryDraft
  have happroved := CanaryRun.called _ _ _ _ _ _ hcreated (le_refl (0 : ℤ)) happrove
  exact certifiedCanary_of_run (CanaryRun.called _ _ _ _ _ _ happroved hlater hrecord)

end DevHarness.ReleaseCenter
