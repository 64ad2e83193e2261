import DevHarness.ReleaseCenter.LockedEvidence

/-!
# Accepted reports

What the domain checks when it records a field is what the gates ask of it twelve hours later,
except that the gates also refuse placeholders for the identities that answer for a report.
-/

namespace DevHarness.ReleaseCenter

open JsText Sequence

/-! ## What is recorded of a canary -/

structure RecordedEvent (event : CanaryEvent) : Prop where
  safe : safeId event.id = true
  owner : safeId event.ownerId = true
  refs : event.evidenceRefs ≠ [] ∧ ∀ ref ∈ event.evidenceRefs, evidenceRef ref = true
  kind : event.kind.WellFormed

/-- What the domain has checked of a canary. -/
structure RecordedFields (value : CanaryAggregate) : Prop where
  static : StaticFields value
  owner : ∀ ownerId, value.ownerId = some ownerId → safeId ownerId = true
  approved : value.approvedAt = value.startedAt
  begun : value.status ≠ .draft → value.ownerId.isSome ∧ value.startedAt.isSome
  windows : ∀ window ∈ value.windows, window.evidenceRefs ≠ [] ∧
    ∀ ref ∈ window.evidenceRefs, evidenceRef ref = true
  events : ∀ event ∈ value.events, RecordedEvent event

variable {clock : ℤ → ℤ → Prop} {parse : JsString → Option ℤ} {now : ℤ}

section Recorded

variable {value next : CanaryAggregate}

theorem RecordedEvent.resolve {event : CanaryEvent} (h : RecordedEvent event) :
    RecordedEvent event.resolve := by
  unfold CanaryEvent.resolve
  split
  · exact ⟨h.safe, h.owner, h.refs, trivial⟩
  · exact h

theorem StaticFields.step (h : StaticFields value) (hstep : CanaryStep value now next) :
    StaticFields next := by
  obtain ⟨hid, hproject, hgoal, hcommit, hversion, hallowed, hexcluded, hdisjoint, hsuccess, hstop,
    hrollback, hstopRunbook⟩ := h
  cases hstep <;> exact ⟨hid, hproject, hgoal, hcommit, hversion, hallowed, hexcluded, hdisjoint,
    hsuccess, hstop, hrollback, hstopRunbook⟩

theorem RecordedFields.step (h : RecordedFields value) (hstep : CanaryStep value now next) :
    RecordedFields next := by
  have hstatic := h.static.step hstep
  cases hstep with
  | approved ownerId hdraft howner =>
      have hsafe : ∀ other, some ownerId = some other → safeId other = true := by
        rintro _ ⟨⟩
        exact howner
      exact ⟨hstatic, hsafe, rfl, fun _ => ⟨rfl, rfl⟩, h.windows, h.events⟩
  | restarted ownerId hstopped howner =>
      have hsafe : ∀ other, some ownerId = some other → safeId other = true := by
        rintro _ ⟨⟩
        exact howner
      exact ⟨hstatic, hsafe, rfl, fun _ => ⟨rfl, rfl⟩, h.windows, h.events⟩
  | recordedWindow canaryStart window hobserving hstart hwindow =>
      have hbegun := h.begun (by rw [hobserving]; decide)
      have hwindows : ∀ other ∈ value.windows ++ [window], other.evidenceRefs ≠ [] ∧
          ∀ ref ∈ other.evidenceRefs, evidenceRef ref = true := by
        intro other hother
        rcases List.mem_append.mp hother with hold | hnew
        · exact h.windows other hold
        · rw [List.mem_singleton.mp hnew]
          exact hwindow.refs
      exact ⟨hstatic, h.owner, h.approved, fun _ => hbegun, hwindows, h.events⟩
  | recordedEvent event hobserving hevent =>
      have hbegun := h.begun (by rw [hobserving]; decide)
      have hevents : ∀ other ∈ value.events ++ [event], RecordedEvent other := by
        intro other hother
        rcases List.mem_append.mp hother with hold | hnew
        · exact h.events other hold
        · rw [List.mem_singleton.mp hnew]
          exact ⟨hevent.safe, hevent.owner, hevent.refs, hevent.kind⟩
      exact ⟨hstatic, h.owner, h.approved, fun _ => hbegun, h.windows, hevents⟩
  | resolvedAlert isNamed hobserving =>
      have hevents : ∀ event ∈ updateFirst isNamed CanaryEvent.resolve value.events,
          RecordedEvent event := by
        intro event hevent
        obtain ⟨source, hsource, hsame, -⟩ := exists_of_mem_resolved hevent
        rcases hsame with rfl | rfl
        · exact h.events _ hsource
        · exact (h.events _ hsource).resolve
      exact ⟨hstatic, h.owner, h.approved, h.begun, h.windows, hevents⟩
  | passed finalizing verification heligible hreport =>
      have hobserving := (eligible_eq_ok.mp heligible).1
      have hbegun := h.begun (by rw [hobserving]; decide)
      exact ⟨hstatic, h.owner, h.approved, fun _ => hbegun, h.windows, h.events⟩

theorem recordedFields_of_run {history : List (ℤ × CanaryAggregate)}
    (hrun : CanaryRun parse clock history) : ∀ entry ∈ history.head?, RecordedFields entry.2 := by
  induction hrun with
  | created input now value hcreate =>
      rintro _ ⟨⟩
      obtain ⟨hfresh, hstatic⟩ := created_of_createCanary hcreate
      exact
        { static := hstatic
          owner := by simp [hfresh.ownerId]
          approved := hfresh.approvedAt.trans hfresh.startedAt.symm
          begun := fun hbegun => absurd hfresh.status hbegun
          windows := by simp [hfresh.windows]
          events := by simp [hfresh.events] }
  | called operation now later value next past _ _ happly ih =>
      rintro _ ⟨⟩
      exact (ih (now, value) rfl).step (step_of_apply happly)
  | refused operation now later value error past _ _ _ ih =>
      rintro _ ⟨⟩
      exact ih (now, value) rfl

end Recorded

/-! ## The report of a canary -/

def CanaryEvent.answerable? (event : CanaryEvent) : Option JsString :=
  match event.kind with
  | .defect .p2 _ _ => some event.ownerId
  | .defect _ _ _ => none
  | .alert _ _ => some event.ownerId
  | .intervention _ => some event.ownerId

def CanaryAggregate.answerable (value : CanaryAggregate) (verificationId : JsString) :
    List JsString :=
  value.projectId :: value.goalId :: verificationId :: value.ownerId.toList ++
    (value.eventsOf value.attempt).filterMap CanaryEvent.answerable?

section Reports

variable {value : CanaryAggregate} {event : CanaryEvent} {verified : ReportVerification}
  {verification : PassedGoalVerification} {last : CanaryWindow} {time startedAt : ℤ}

theorem lastEnd_map_toReport (start : ℤ) (windows : List CanaryWindow) :
    lastEnd start (windows.map CanaryWindow.toReport) =
      (windows.getLast?.map (·.endedAt)).getD start := by
  rw [lastEnd, List.getLast?_map, Option.map_map]
  rfl

theorem goodDefect_iff {defect : ReportDefect} (h : RecordedEvent event)
    (hquiet : event.kind.stops = false) (hdefect : event.defect? = some defect) :
    GoodDefect defect ↔ ∀ identity ∈ event.answerable?, isPlaceholder identity = false := by
  obtain ⟨eventId, attempt, kind, observedAt, ownerId, refs, recordedBy⟩ := event
  obtain ⟨hsafe, howner, hrefs, hkind⟩ := h
  cases kind with
  | alert severity resolved => cases hdefect
  | intervention reason => cases hdefect
  | defect severity workaround status =>
      obtain rfl := Option.some.inj hdefect
      obtain ⟨hstatus, hworkaround⟩ := hkind
      by_cases hp2 : severity = .p2
      · subst hp2
        obtain ⟨text, rfl, htext⟩ := hworkaround rfl
        constructor
        · rintro hgood _ ⟨⟩
          exact (hgood.p2 rfl).2.1
        · intro hreal
          exact ⟨hsafe, hquiet, fun _ => ⟨howner, hreal _ rfl, htext.trim_ne_nil⟩,
            hstatus.trim_ne_nil⟩
      · constructor
        · rintro - identity hidentity
          cases severity with
          | p2 => exact absurd rfl hp2
          | p0 => cases hidentity
          | p1 => cases hidentity
          | p3 => cases hidentity
        · intro _
          exact ⟨hsafe, hquiet, fun hp2' => absurd hp2' hp2, hstatus.trim_ne_nil⟩

theorem goodAlert_iff {alert : ReportAlert} (h : RecordedEvent event)
    (hquiet : event.kind.stops = false) (halert : event.alert? = some alert)
    (hresolved : alert.resolved = true) :
    GoodAlert alert ↔ ∀ identity ∈ event.answerable?, isPlaceholder identity = false := by
  obtain ⟨eventId, attempt, kind, observedAt, ownerId, refs, recordedBy⟩ := event
  obtain ⟨hsafe, howner, hrefs, -⟩ := h
  cases kind with
  | defect severity workaround status => cases halert
  | intervention reason => cases halert
  | alert severity resolved =>
      obtain rfl := Option.some.inj halert
      constructor
      · rintro hgood _ ⟨⟩
        exact hgood.operational.owner.2
      · intro hreal
        exact ⟨⟨hsafe, ⟨howner, hreal _ rfl⟩, hrefs⟩, hquiet, hresolved⟩

theorem goodIntervention_iff {intervention : ReportIntervention} (h : RecordedEvent event)
    (hintervention : event.intervention? = some intervention) :
    GoodIntervention intervention ↔
      ∀ identity ∈ event.answerable?, isPlaceholder identity = false := by
  obtain ⟨eventId, attempt, kind, observedAt, ownerId, refs, recordedBy⟩ := event
  obtain ⟨hsafe, howner, hrefs, hkind⟩ := h
  cases kind with
  | defect severity workaround status => cases hintervention
  | alert severity resolved => cases hintervention
  | intervention reason =>
      obtain rfl := Option.some.inj hintervention
      constructor
      · rintro hgood _ ⟨⟩
        exact hgood.operational.owner.2
      · intro hreal
        exact ⟨⟨hsafe, ⟨howner, hreal _ rfl⟩, hrefs⟩, hkind.trim_ne_nil⟩

theorem goodEvents_iff (h : RecordedFields value)
    (hquiet : ∀ event ∈ value.eventsOf value.attempt, event.kind.stops = false)
    (hresolved : ∀ alert ∈ (value.eventsOf value.attempt).filterMap CanaryEvent.alert?,
      alert.resolved = true) :
    ((∀ defect ∈ (value.eventsOf value.attempt).filterMap CanaryEvent.defect?, GoodDefect defect) ∧
      (∀ alert ∈ (value.eventsOf value.attempt).filterMap CanaryEvent.alert?, GoodAlert alert) ∧
      ∀ intervention ∈ (value.eventsOf value.attempt).filterMap CanaryEvent.intervention?,
        GoodIntervention intervention) ↔
    ∀ identity ∈ (value.eventsOf value.attempt).filterMap CanaryEvent.answerable?,
      isPlaceholder identity = false := by
  have hrecorded : ∀ event ∈ value.eventsOf value.attempt, RecordedEvent event :=
    fun event hevent => h.events event (mem_eventsOf.mp hevent).1
  constructor
  · rintro ⟨hdefects, halerts, hinterventions⟩ identity hidentity
    obtain ⟨event, hevent, hanswers⟩ := List.mem_filterMap.mp hidentity
    have hgood := hrecorded event hevent
    have hcalm := hquiet event hevent
    cases hkind : event.kind with
    | defect severity workaround status =>
        obtain ⟨defect, hdefect⟩ : ∃ defect, event.defect? = some defect := by
          rw [CanaryEvent.defect?, hkind]
          exact ⟨_, rfl⟩
        exact (goodDefect_iff hgood hcalm hdefect).mp
          (hdefects defect (List.mem_filterMap.mpr ⟨event, hevent, hdefect⟩)) identity hanswers
    | alert severity resolved =>
        obtain ⟨alert, halert⟩ : ∃ alert, event.alert? = some alert := by
          rw [CanaryEvent.alert?, hkind]
          exact ⟨_, rfl⟩
        have hmem := List.mem_filterMap.mpr ⟨event, hevent, halert⟩
        exact (goodAlert_iff hgood hcalm halert (hresolved alert hmem)).mp
          (halerts alert hmem) identity hanswers
    | intervention reason =>
        obtain ⟨intervention, hintervention⟩ :
            ∃ intervention, event.intervention? = some intervention := by
          rw [CanaryEvent.intervention?, hkind]
          exact ⟨_, rfl⟩
        exact (goodIntervention_iff hgood hintervention).mp (hinterventions intervention
          (List.mem_filterMap.mpr ⟨event, hevent, hintervention⟩)) identity hanswers
  · intro hreal
    have hanswers : ∀ event ∈ value.eventsOf value.attempt,
        ∀ identity ∈ event.answerable?, isPlaceholder identity = false :=
      fun event hevent identity hidentity =>
        hreal identity (List.mem_filterMap.mpr ⟨event, hevent, hidentity⟩)
    refine ⟨?_, ?_, ?_⟩
    · intro defect hmem
      obtain ⟨event, hevent, hdefect⟩ := List.mem_filterMap.mp hmem
      exact (goodDefect_iff (hrecorded event hevent) (hquiet event hevent) hdefect).mpr
        (hanswers event hevent)
    · intro alert hmem
      obtain ⟨event, hevent, halert⟩ := List.mem_filterMap.mp hmem
      exact (goodAlert_iff (hrecorded event hevent) (hquiet event hevent) halert
        (hresolved alert hmem)).mpr (hanswers event hevent)
    · intro intervention hmem
      obtain ⟨event, hevent, hintervention⟩ := List.mem_filterMap.mp hmem
      exact (goodIntervention_iff (hrecorded event hevent) hintervention).mpr
        (hanswers event hevent)

theorem StaticFields.goodConditions (h : StaticFields value) :
    GoodConditions
      { success := value.successConditions
        stop := value.stopConditions
        rollbackRunbook := value.rollbackRunbook
        stopRunbook := value.stopRunbook } := by
  exact
    { success := ⟨h.success.1, fun text hmem => (h.success.2 text hmem).trim_ne_nil⟩
      stop := ⟨h.stop.1, fun text hmem => (h.stop.2 text hmem).trim_ne_nil⟩
      rollback := ⟨h.rollback.2.trim_ne_nil, h.rollback.1⟩
      stopRunbook := ⟨h.stopRunbook.2.trim_ne_nil, h.stopRunbook.1⟩ }

theorem reportVerification_fields (h : reportVerification parse verification = .ok verified) :
    verified.status = js "passed" ∧ safeId verified.verificationId = true ∧
      verified.evidenceRefs ≠ [] ∧ ∀ ref ∈ verified.evidenceRefs, evidenceRef ref = true := by
  obtain ⟨verificationId, hid, h⟩ := bind_eq_ok.mp h
  obtain ⟨completedAt, -, h⟩ := bind_eq_ok.mp h
  obtain ⟨refs, hrefs, h⟩ := bind_eq_ok.mp h
  obtain rfl := Except.ok.inj h
  exact ⟨rfl, (safeId_of_id hid).1, evidenceRefs_valid hrefs⟩

/-- A canary that has been observed long enough, and a verification of its goal in that time. -/
structure ObservedCanary (value : CanaryAggregate) (verified : ReportVerification)
    (startedAt : ℤ) (last : CanaryWindow) : Prop where
  status : value.status = .observing
  started : value.startedAt = some startedAt
  ended : (value.windowsOf value.attempt).getLast? = some last
  count : 12 ≤ (value.windowsOf value.attempt).length
  hours : 12 * hourMs ≤ last.endedAt - startedAt
  resolved : ∀ alert ∈ (value.eventsOf value.attempt).filterMap CanaryEvent.alert?,
    alert.resolved = true
  during : startedAt ≤ verified.completedAt ∧ verified.completedAt ≤ last.endedAt

/-- The report of a canary that has been observed long enough is accepted unless an identity that
answers for it is a placeholder. -/
theorem goodReport_iff {history : List (ℤ × CanaryAggregate)} {finalizing : Finalizing}
    (hinvariant : CanaryInvariant history value) (hhead : (time, value) ∈ history)
    (hrecorded : RecordedFields value)
    (hverified : reportVerification parse verification = .ok verified)
    (hobserved : ObservedCanary value verified startedAt last)
    (hfinalizing : eligible value = .ok finalizing) (hnow : last.endedAt ≤ now) :
    GoodReport (canaryReport value finalizing verified) now ↔
      ∀ identity ∈ value.answerable verified.verificationId, isPlaceholder identity = false := by
  obtain ⟨hstatus, hsafe, hrefs⟩ := reportVerification_fields hverified
  obtain ⟨-, hstarted, happroved, howner, ⟨last', hlast', hended⟩, -, -⟩ :=
    eligible_eq_ok.mp hfinalizing
  rw [hobserved.ended] at hlast'
  obtain rfl := Option.some.inj hlast'
  rw [hobserved.started] at hstarted
  obtain rfl := Option.some.inj hstarted
  have hevents := goodEvents_iff hrecorded (hinvariant.quiet hobserved.status) hobserved.resolved
  have hstatic := hrecorded.static
  simp only [CanaryAggregate.answerable, howner, Option.toList_some, List.cons_append,
    List.nil_append, List.forall_mem_cons, ← hevents]
  constructor
  · intro hgood
    exact ⟨hgood.project.safe.2, hgood.scope.goal.2, hgood.verification.safe.2,
      hgood.project.owner.2, hgood.defects, hgood.alerts, hgood.interventions⟩
  · rintro ⟨hproject, hgoal, hverification, howned, hdefects, halerts, hinterventions⟩
    have hwindows : GoodWindows 0 finalizing.startedAt
        ((value.windowsOf value.attempt).map CanaryWindow.toReport) := by
      apply goodWindows_of_contiguous (hinvariant.contiguous _ hhead _ hobserved.started)
      · intro window hwindow
        exact not_stops_iff.mp (hinvariant.healthy hobserved.status window hwindow)
      · intro window hwindow
        exact hrecorded.windows window (mem_windowsOf.mp hwindow).1
    have hcovers : lastEnd finalizing.startedAt
        ((value.windowsOf value.attempt).map CanaryWindow.toReport) = finalizing.endedAt := by
      rw [lastEnd_map_toReport, hobserved.ended]
      exact hended
    have hbefore : finalizing.approvedAt ≤ finalizing.startedAt := by
      have hsame := hrecorded.approved
      rw [happroved, hobserved.started] at hsame
      exact (Option.some.inj hsame).le
    have hlength : 12 ≤ ((value.windowsOf value.attempt).map CanaryWindow.toReport).length := by
      rw [List.length_map]
      exact hobserved.count
    have htrimmed : ∀ {areas : List JsString}, (∀ area ∈ areas, Trimmed area) →
        ∀ area ∈ areas, trim area ≠ [] := fun h area harea => (h area harea).trim_ne_nil
    have hduring := hobserved.during
    have hhours := hobserved.hours
    rw [hended] at hduring hhours hnow
    exact
      { schema := rfl
        safe := hstatic.id
        passed := ⟨rfl, rfl⟩
        project :=
          { safe := ⟨hstatic.project, hproject⟩
            owner := ⟨hrecorded.owner _ howner, howned⟩
            internal := ⟨rfl, rfl⟩ }
        scope :=
          { goal := ⟨hstatic.goal, hgoal⟩
            version := hstatic.version
            allowed := ⟨hstatic.allowed.1, htrimmed hstatic.allowed.2⟩
            excluded := ⟨hstatic.excluded.1, htrimmed hstatic.excluded.2⟩
            disjoint := hstatic.disjoint }
        conditions := hstatic.goodConditions
        observation := ⟨rfl, hnow, hhours, hlength, hwindows, hcovers⟩
        approved := hbefore
        defects := hdefects
        alerts := halerts
        interventions := hinterventions
        verification := ⟨hstatus, ⟨hsafe, hverification⟩, hduring, hrefs⟩
        gaps := rfl }

theorem finalizing_of_observed {startedAt : ℤ} (hrecorded : RecordedFields value)
    (hobserved : ObservedCanary value verified startedAt last) :
    ∃ finalizing, eligible value = .ok finalizing := by
  have hbegun := hrecorded.begun (by rw [hobserved.status]; decide)
  obtain ⟨ownerId, howner⟩ := Option.isSome_iff_exists.mp hbegun.1
  have happroved := hrecorded.approved.trans hobserved.started
  exact ⟨⟨ownerId, startedAt, startedAt, last.endedAt⟩, eligible_eq_ok.mpr ⟨hobserved.status,
    hobserved.started, happroved, howner, ⟨last, hobserved.ended, rfl⟩, hobserved.count,
    hobserved.hours⟩⟩

theorem finalizeCanary_ok_iff {past : List (ℤ × CanaryAggregate)}
    (hrun : CanaryRun parse clock ((time, value) :: past))
    (hverified : reportVerification parse verification = .ok verified)
    (hobserved : ObservedCanary value verified startedAt last) (hnow : last.endedAt ≤ now) :
    (∃ passed, finalizeCanary parse value verification now = .ok passed) ↔
      ∀ identity ∈ value.answerable verified.verificationId, isPlaceholder identity = false := by
  have hinvariant : CanaryInvariant ((time, value) :: past) value :=
    canaryInvariant_of_run hrun (time, value) rfl
  have hrecorded : RecordedFields value := recordedFields_of_run hrun (time, value) rfl
  obtain ⟨finalizing, hfinalizing⟩ := finalizing_of_observed hrecorded hobserved
  rw [← goodReport_iff hinvariant List.mem_cons_self hrecorded hverified hobserved hfinalizing hnow,
    ← validateP12CanaryReport_eq_ok]
  constructor
  · rintro ⟨passed, h⟩
    rw [finalizeCanary, hfinalizing, ok_bind, hverified, ok_bind] at h
    obtain ⟨result, hresult, -⟩ := bind_eq_ok.mp h
    exact ⟨result, hresult⟩
  · rintro ⟨result, hresult⟩
    exact ⟨_, bind_eq_ok.mpr ⟨finalizing, hfinalizing, bind_eq_ok.mpr ⟨verified, hverified,
      bind_eq_ok.mpr ⟨result, hresult, rfl⟩⟩⟩⟩

end Reports

/-! ## What is recorded of a release -/

theorem goodReport_of_run {parse : JsString → Option ℤ} {history : List (ℤ × CanaryAggregate)}
    (hrun : CanaryRun parse Forward history) :
    ∀ entry ∈ history.head?, ∀ report, entry.2.status = .passed → entry.2.report = some report →
      GoodReport report entry.1 := by
  induction hrun with
  | created input now value hcreate =>
      rintro _ ⟨⟩ report hpassed
      rw [(created_of_createCanary hcreate).1.status] at hpassed
      cases hpassed
  | called operation now later value next past _ _ happly =>
      rintro _ ⟨⟩ report hpassed hreport
      cases step_of_apply happly with
      | passed finalizing verification heligible hgood =>
          obtain rfl := Option.some.inj hreport
          exact hgood
      | approved => cases hpassed
      | restarted => cases hpassed
      | recordedWindow canaryStart window hobserving hstart hwindow =>
          simp only [withWindow] at hpassed
          split at hpassed <;> cases hpassed
      | recordedEvent event hobserving hevent =>
          simp only [withEvent] at hpassed
          split at hpassed <;> cases hpassed
      | resolvedAlert isNamed hobserving =>
          rw [hobserving] at hpassed
          cases hpassed
  | refused operation now later value error past _ hclock _ ih =>
      rintro _ ⟨⟩ report hpassed hreport
      exact (ih (now, value) rfl report hpassed hreport).later hclock

/-- What the domain has checked of a release that began at a time. -/
structure RecordedRelease (start now : ℤ) (value : ProductionReleaseAggregate) : Prop where
  safe : safeId value.id = true
  commit : commitSha value.candidateCommit = true
  canary : GoodReport value.canaryReport start
  noCritical : value.defects.p0Count = 0 ∧ value.defects.p1Count = 0
  defects : ∀ defect ∈ value.defects.p2, GoodReleaseDefect defect
  begun : start ≤ now
  gates : ∀ gate ∈ value.gates, GoodGate start now gate.toReportGate
  distinct : (value.gates.map (·.gateId)).Nodup

section Releases

variable {hashing : Hashing} {canary : CanaryAggregate} {value next : ProductionReleaseAggregate}
  {start after evaluatedAt : ℤ} {signature : ProductionSignature}

theorem GoodGate.later {gate : ReportGate} (h : GoodGate start now gate) (hle : now ≤ after) :
    GoodGate start after gate :=
  { h with checked := ⟨h.checked.1, h.checked.2.trans hle⟩ }

theorem RecordedRelease.later (h : RecordedRelease start now value) (hle : now ≤ after) :
    RecordedRelease start after value :=
  { h with
    begun := h.begun.trans hle
    gates := fun gate hgate => (h.gates gate hgate).later hle }

theorem RecordedRelease.step (h : RecordedRelease start now value) (hle : now ≤ after)
    (hstep : ReleaseStep hashing value after next) : RecordedRelease start after next := by
  obtain ⟨hsafe, hcommit, hcanary, hcritical, hdefects, hbegun, hgates, hdistinct⟩ := h.later hle
  cases hstep with
  | recorded gate hdraft hgate =>
      have hrecorded : ∀ other ∈
          (value.gates.filter fun existing => existing.gateId ≠ gate.gateId) ++ [gate],
          GoodGate start after other.toReportGate := by
        intro other hother
        rcases List.mem_append.mp hother with hold | hnew
        · exact hgates other (List.mem_filter.mp hold).1
        · rw [List.mem_singleton.mp hnew]
          refine ⟨hgate.status, ?_, hgate.refs⟩
          rw [hgate.checkedAt]
          exact ⟨hbegun, le_refl after⟩
      have hnodup : (((value.gates.filter fun existing => existing.gateId ≠ gate.gateId) ++
          [gate]).map (·.gateId)).Nodup := by
        rw [List.map_append, List.nodup_append]
        refine ⟨hdistinct.sublist (List.filter_sublist.map _), List.nodup_singleton _, ?_⟩
        intro gateId hold gateId' hnew hsame
        obtain ⟨other, hother, rfl⟩ := List.mem_map.mp hold
        rw [List.map_singleton, List.mem_singleton] at hnew
        have hdiffers := (List.mem_filter.mp hother).2
        rw [decide_eq_true_eq] at hdiffers
        exact hdiffers (hsame.trans hnew)
      exact ⟨hsafe, hcommit, hcanary, hcritical, hdefects, hbegun, hrecorded, hnodup⟩
  | evaluated hdraft hcomplete hlength =>
      exact ⟨hsafe, hcommit, hcanary, hcritical, hdefects, hbegun, hgates, hdistinct⟩
  | signed evaluatedAt digest signature hstatus hevaluated hdigest hsignature hvalid =>
      exact ⟨hsafe, hcommit, hcanary, hcritical, hdefects, hbegun, hgates, hdistinct⟩

theorem goodReleaseDefect_of_fresh (hrecorded : RecordedFields canary)
    (hfresh : FreshRelease canary value) :
    ∀ defect ∈ value.defects.p2, GoodReleaseDefect defect := by
  intro defect hdefect
  obtain ⟨outcome, houtcome, hok⟩ := exists_of_mem_mapM hfresh.defects defect hdefect
  obtain ⟨event, hevent, hrelease⟩ := List.mem_filterMap.mp houtcome
  have hgood := hrecorded.events event (mem_eventsOf.mp hevent).1
  unfold releaseDefect at hrelease
  split at hrelease
  · obtain rfl := Option.some.inj hrelease
    obtain ⟨workaround, hworkaround, hok⟩ := bind_eq_ok.mp hok
    obtain rfl := Except.ok.inj hok
    exact ⟨hgood.safe, hgood.owner, (trimmed_of_required hworkaround).trim_ne_nil, hgood.refs⟩
  · cases hrelease

theorem recordedRelease_of_run {canaryPast : List (ℤ × CanaryAggregate)} {canaryTime : ℤ}
    (hcanary : CanaryRun parse Forward ((canaryTime, canary) :: canaryPast))
    (hafter : canaryTime ≤ start) {history : List (ℤ × ProductionReleaseAggregate)}
    (hrun : ReleaseRun hashing Forward canary start history) :
    ∀ entry ∈ history.head?, RecordedRelease start entry.1 entry.2 := by
  induction hrun with
  | created releaseId actorId canary now value hcreate =>
      rintro _ ⟨⟩
      have hfresh := fresh_of_createProductionRelease hcreate
      have hrecorded := recordedFields_of_run hcanary (canaryTime, canary) rfl
      have hreport := goodReport_of_run hcanary (canaryTime, canary) rfl value.canaryReport
        hfresh.passed hfresh.report
      exact
        { safe := hfresh.safe
          commit := by
            rw [hfresh.commit]
            exact hrecorded.static.commit
          canary := hreport.later hafter
          noCritical := hfresh.noCritical
          defects := goodReleaseDefect_of_fresh hrecorded hfresh
          begun := le_refl now
          gates := by simp [hfresh.gates]
          distinct := by simp [hfresh.gates] }
  | called operation canary start now later value next past _ hclock happly ih =>
      rintro _ ⟨⟩
      exact (ih hcanary hafter (now, value) rfl).step hclock (releaseStep_of_apply happly)
  | refused operation canary start now later value error past _ hclock _ ih =>
      rintro _ ⟨⟩
      exact (ih hcanary hafter (now, value) rfl).later hclock

/-! ## The report of a release -/

theorem RecordedRelease.gateCount (h : RecordedRelease start now value)
    (hcomplete : ∀ gateId, gateId ∈ value.gates.map (·.gateId)) :
    value.gates.length = ProductionGateId.all.length := by
  have hperm : (value.gates.map (·.gateId)).Perm ProductionGateId.all := by
    rw [List.perm_ext_iff_of_nodup h.distinct (by decide)]
    intro gateId
    exact ⟨fun _ => gateId.mem_all, fun _ => hcomplete gateId⟩
  rw [← List.length_map (·.gateId)]
  exact hperm.length_eq

def evaluatedDraft (hashing : Hashing) (value : ProductionReleaseAggregate) (evaluatedAt : ℤ) :
    ProductionReleaseAggregate :=
  { value with
    status := .awaitingSignatures
    evaluatedAt := some evaluatedAt
    attestationDigest :=
      some (hashing.releaseAttestationDigest (productionReport value [] evaluatedAt))
    report := some (productionReport value [] evaluatedAt)
    version := value.version + 1
    updatedAt := evaluatedAt }

theorem productionReport_evaluatedDraft (signatures : List ProductionSignature) (evaluatedAt : ℤ) :
    productionReport (evaluatedDraft hashing value evaluatedAt) signatures evaluatedAt =
      productionReport value signatures evaluatedAt := rfl

theorem awaiting_evaluatedDraft (evaluatedAt : ℤ) :
    awaiting (evaluatedDraft hashing value evaluatedAt) = .ok (evaluatedAt,
      hashing.releaseAttestationDigest (productionReport value [] evaluatedAt)) := by
  have hdigest : hashing.releaseAttestationDigest (productionReport value [] evaluatedAt) ≠ [] := by
    intro hnil
    have htext : digestText (hashing.releaseAttestationDigest
        (productionReport value [] evaluatedAt)) = true := digestText_releaseAttestationDigest
    rw [hnil] at htext
    cases htext
  exact awaiting_eq_ok.mpr ⟨rfl, rfl, rfl, hdigest⟩

theorem evaluateProductionRelease_ok {actorId actor : JsString}
    (h : RecordedRelease start now value) (hdraft : value.status = .draft)
    (hcomplete : ∀ gateId, gateId ∈ value.gates.map (·.gateId))
    (hactor : id actorId (js "actorId") = .ok actor) :
    evaluateProductionRelease hashing value actorId evaluatedAt =
      .ok (evaluatedDraft hashing value evaluatedAt) := by
  have hall : (ProductionGateId.all.all fun gateId =>
      gateId ∈ value.gates.map (·.gateId)) = true := by
    rw [List.all_eq_true]
    exact fun gateId _ => decide_eq_true (hcomplete gateId)
  simp only [evaluateProductionRelease, check_bind_eq_ok, validate_eq_ok, Bool.and_eq_true,
    decide_eq_true_eq]
  exact ⟨hdraft, ⟨hall, h.gateCount hcomplete⟩, bind_eq_ok.mpr ⟨actor, hactor, rfl⟩⟩

/-- The first signature of a report is accepted unless one of its identities is a placeholder. -/
theorem goodRelease_iff {signedAt : ℤ} {unsigned : ProductionReleaseAggregate}
    (h : RecordedRelease start evaluatedAt value)
    (hcomplete : ∀ gateId, gateId ∈ value.gates.map (·.gateId)) (hlater : evaluatedAt ≤ signedAt)
    (hsignature : NextSignature unsigned (hashing.releaseAttestationDigest (productionReport value
      [] evaluatedAt)) signedAt signature) :
    GoodRelease hashing (productionReport value [signature] evaluatedAt) signedAt ↔
      ∀ identity ∈ [signature.signerId, signature.requestId, signature.auditReceiptId],
        isPlaceholder identity = false := by
  have hcanaryEnd := h.canary.observation.past
  have hids : (productionReport value [signature] evaluatedAt).gates.map (·.gateId) =
      value.gates.map (·.gateId) := by
    simp [productionReport]
  simp only [List.forall_mem_cons, List.not_mem_nil, false_implies, implies_true, and_true]
  constructor
  · intro hgood
    have hsigned := hgood.signatures signature (List.mem_singleton.mpr rfl)
    exact ⟨hsigned.signer.2, hsigned.request.2, hsigned.receipt.2⟩
  · rintro ⟨hsigner, hrequest, hreceipt⟩
    have hgates : ∀ gate ∈ value.gates.map (·.toReportGate),
        GoodGate value.canaryReport.observation.endedAt evaluatedAt gate := by
      intro gate hgate
      obtain ⟨check, hcheck, rfl⟩ := List.mem_map.mp hgate
      have hgood := h.gates check hcheck
      exact { hgood with checked := ⟨hcanaryEnd.trans hgood.checked.1, hgood.checked.2⟩ }
    have hcount : (value.gates.map (·.toReportGate)).length = ProductionGateId.all.length := by
      rw [List.length_map]
      exact h.gateCount hcomplete
    have hsigned : ∀ other ∈ [signature], GoodSignature
        (hashing.releaseAttestationDigest (productionReport value [signature] evaluatedAt))
        evaluatedAt signedAt other := by
      intro other hother
      rw [List.mem_singleton.mp hother]
      refine
        { signer := ⟨hsignature.signer, hsigner⟩
          signed := ?_
          attested := hsignature.attested
          reason := ⟨hsignature.reason.1.trim_ne_nil, hsignature.reason.2⟩
          request := ⟨hsignature.request, hrequest⟩
          receipt := ⟨hsignature.receipt, hreceipt⟩
          bound := hsignature.bound.trans (releaseAttestationDigest_congr rfl) }
      rw [hsignature.signedAt]
      exact ⟨hlater, le_refl signedAt⟩
    exact
      { schema := ⟨rfl, rfl⟩
        safe := h.safe
        commit := h.commit
        evaluated := hlater
        canary := h.canary.later (h.begun.trans hlater)
        afterCanary := hcanaryEnd.trans h.begun
        gateCount := hcount
        gates := hgates
        distinct := by
          rw [hids]
          exact h.distinct
        complete := by
          rw [hids]
          exact hcomplete
        noCritical := h.noCritical
        defects := h.defects
        gaps := rfl
        result := rfl
        signatureCount := rfl
        signatures := hsigned
        roles := List.nodup_singleton _ }

theorem signProductionRelease_ok_iff {input : SignInput} {awaited : ℤ × JsString}
    (hawaiting : awaiting value = .ok awaited) (hunsigned : value.signatures = [])
    (hsignature : newSignature value input awaited.2 now = .ok signature) :
    (∃ approved, signProductionRelease hashing value input now = .ok approved) ↔
      GoodRelease hashing (productionReport value [signature] awaited.1) now := by
  have hvalid : validateSigned hashing (productionReport value [signature] awaited.1) now = .ok () ↔
      GoodRelease hashing (productionReport value [signature] awaited.1) now := by
    rw [validateSigned_eq_ok]
    exact ⟨fun h => h rfl, fun h _ => h⟩
  rw [← hvalid]
  constructor
  · rintro ⟨approved, h⟩
    rw [signProductionRelease, hawaiting, ok_bind, hsignature, ok_bind, hunsigned] at h
    exact (check_bind_eq_ok.mp h).1
  · intro hsigned
    rw [signProductionRelease, hawaiting, ok_bind, hsignature, ok_bind, hunsigned]
    exact ⟨_, check_bind_eq_ok.mpr ⟨hsigned, rfl⟩⟩

end Releases

/-- The gates accept the reports that the domain builds, unless an identity that answers for one
is a placeholder. -/
structure AcceptedReports (parse : JsString → Option ℤ) (hashing : Hashing) : Prop where
  /-- A reachable canary that has been observed long enough is finalized. -/
  canary : ∀ {time now startedAt : ℤ} {value : CanaryAggregate} {past : List (ℤ × CanaryAggregate)}
    {verification : PassedGoalVerification} {verified : ReportVerification} {last : CanaryWindow},
    CanaryRun parse (fun _ _ => True) ((time, value) :: past) →
    reportVerification parse verification = .ok verified →
    ObservedCanary value verified startedAt last → last.endedAt ≤ now →
    ((∃ passed, finalizeCanary parse value verification now = .ok passed) ↔
      ∀ identity ∈ value.answerable verified.verificationId, isPlaceholder identity = false)
  /-- A reachable draft with all gates is evaluated and signed. -/
  release : ∀ {canaryTime start now evaluatedAt : ℤ} {canary : CanaryAggregate}
    {canaryPast : List (ℤ × CanaryAggregate)} {value : ProductionReleaseAggregate}
    {past : List (ℤ × ProductionReleaseAggregate)} {actorId actor : JsString},
    CanaryRun parse Forward ((canaryTime, canary) :: canaryPast) → canaryTime ≤ start →
    ReleaseRun hashing Forward canary start ((now, value) :: past) →
    value.status = .draft → (∀ gateId, gateId ∈ value.gates.map (·.gateId)) →
    now ≤ evaluatedAt → id actorId (js "actorId") = .ok actor →
    ∃ evaluated, evaluateProductionRelease hashing value actorId evaluatedAt = .ok evaluated ∧
      ∀ {signedAt : ℤ} {input : SignInput} {digest : JsString} {signature : ProductionSignature},
        evaluatedAt ≤ signedAt → evaluated.attestationDigest = some digest →
        newSignature evaluated input digest signedAt = .ok signature →
        ((∃ approved, signProductionRelease hashing evaluated input signedAt = .ok approved) ↔
          ∀ identity ∈ [signature.signerId, signature.requestId, signature.auditReceiptId],
            isPlaceholder identity = false)

theorem acceptedReports (parse : JsString → Option ℤ) (hashing : Hashing) :
    AcceptedReports parse hashing := by
  constructor
  · intro time now startedAt value past verification verified last hrun hverified hobserved hnow
    exact finalizeCanary_ok_iff hrun hverified hobserved hnow
  · intro canaryTime start now evaluatedAt canary canaryPast value past actorId actor hcanary hafter
      hrun hdraft hcomplete hnow hactor
    have hrecorded : RecordedRelease start now value :=
      recordedRelease_of_run hcanary hafter hrun (now, value) rfl
    have hunsigned : value.signatures = [] :=
      ((evidenceInvariant_of_run hrun (now, value) rfl).drafts hdraft).2.1
    refine ⟨_, evaluateProductionRelease_ok hrecorded hdraft hcomplete hactor, ?_⟩
    intro signedAt input digest signature hlater hdigest hsignature
    obtain rfl := Option.some.inj hdigest
    rw [← goodRelease_iff (hrecorded.later hnow) hcomplete hlater
      (nextSignature_of_newSignature hsignature), ← productionReport_evaluatedDraft]
    exact signProductionRelease_ok_iff (awaiting_evaluatedDraft evaluatedAt) hunsigned hsignature

/-! ## A canary whose owner is a placeholder -/

def hourlyGoal : PassedGoalVerification where
  id := js "verification-01"
  verifiedAt := toISOString (11 * hourMs)
  evidenceRefs := [js "goal-verification:01"]

theorem hourlyRun (hours : ℕ) (hhours : hours ≤ 12) : ∃ past,
    CanaryRun parseHours (fun _ _ => True)
      ((hours * hourMs, observedCanary (js "oidc-test") hours) :: past) := by
  have hsteps : ∀ hour < 12, CanaryOperation.apply parseHours
      (observedCanary (js "oidc-test") hour) ((hour + 1 : ℕ) * hourMs)
      (.recordWindow (js "oidc_operations") (hourlyWindow hour)) =
      .ok (observedCanary (js "oidc-test") (hour + 1)) := by decide +kernel
  induction hours with
  | zero =>
      have happrove : CanaryOperation.apply parseHours draftCanary ((0 : ℕ) * hourMs)
          (.approve (js "oidc-test") (js "bounded")) =
          .ok (observedCanary (js "oidc-test") 0) := by decide +kernel
      exact ⟨_, .called _ _ _ _ _ _ (.created canaryDraft 0 draftCanary createCanary_canaryDraft)
        trivial happrove⟩
  | succ hours ih =>
      obtain ⟨past, hrun⟩ := ih (by omega)
      exact ⟨_, .called _ _ _ _ _ _ hrun trivial (hsteps hours (by omega))⟩

/-- The domain takes an owner that the gate refuses twelve hours later. -/
theorem not_finalized_of_observed :
    ¬ ∀ (time now startedAt : ℤ) (value : CanaryAggregate) (past : List (ℤ × CanaryAggregate))
      (verification : PassedGoalVerification) (verified : ReportVerification) (last : CanaryWindow),
      CanaryRun parseHours (fun _ _ => True) ((time, value) :: past) →
      reportVerification parseHours verification = .ok verified →
      ObservedCanary value verified startedAt last → last.endedAt ≤ now →
      ∃ passed, finalizeCanary parseHours value verification now = .ok passed := by
  intro h
  obtain ⟨past, hrun⟩ := hourlyRun 12 le_rfl
  have hverified : reportVerification parseHours hourlyGoal = .ok hourlyVerification := by
    decide +kernel
  have hobserved : ObservedCanary (observedCanary (js "oidc-test") 12) hourlyVerification 0
      { attempt := 1
        sequence := 12
        startedAt := 11 * hourMs
        endedAt := 12 * hourMs
        status := .healthy
        p0Count := 0
        p1Count := 0
        evidenceRefs := [js "metric-window:01"]
        recordedBy := js "oidc_operations" } := by
    constructor <;> decide +kernel
  obtain ⟨passed, hpassed⟩ := h _ (12 * hourMs) _ _ _ _ _ _ hrun hverified hobserved le_rfl
  have hrefused : finalizeCanary parseHours (observedCanary (js "oidc-test") 12) hourlyGoal
      (12 * hourMs) =
      .error (.gate (js "project.ownerId is invalid or a placeholder")) := by decide +kernel
  rw [hrefused] at hpassed
  cases hpassed

end DevHarness.ReleaseCenter
