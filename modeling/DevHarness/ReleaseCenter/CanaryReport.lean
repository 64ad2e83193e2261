import Mathlib.Algebra.Order.Field.Basic
import Mathlib.Algebra.Order.Field.Rat
import Mathlib.Tactic.NormNum
import DevHarness.ReleaseCenter.Checks

/-!
# Canary reports

The report that a finished canary is certified with, and the gate that accepts it.  What the
gate reads from a report of another shape is not modelled: a report is built by the domain.
-/

namespace DevHarness.ReleaseCenter

open JsText Sequence

/-! ## The report -/

def hourMs : ℤ := 3600000

inductive WindowStatus
  | healthy
  | unhealthy
  deriving DecidableEq

inductive Severity
  | p0
  | p1
  | p2
  | p3
  deriving DecidableEq

def Severity.isCritical (severity : Severity) : Bool :=
  severity = .p0 || severity = .p1

structure ReportProject where
  projectId : JsString
  internal : Bool
  risk : JsString
  ownerId : JsString
  approvedAt : ℤ
  deriving DecidableEq

structure ReportScope where
  goalId : JsString
  goalContractVersion : ℤ
  allowedAreas : List JsString
  excludedAreas : List JsString
  deriving DecidableEq

structure ReportConditions where
  success : List JsString
  stop : List JsString
  rollbackRunbook : JsString
  stopRunbook : JsString
  deriving DecidableEq

structure ReportWindow where
  sequence : ℕ
  startedAt : ℤ
  endedAt : ℤ
  status : WindowStatus
  p0Count : ℕ
  p1Count : ℕ
  evidenceRefs : List JsString
  deriving DecidableEq

structure ReportObservation where
  requiredDurationHours : ℤ
  startedAt : ℤ
  endedAt : ℤ
  windows : List ReportWindow
  deriving DecidableEq

structure ReportDefect where
  id : JsString
  severity : Severity
  ownerId : JsString
  status : JsString
  workaround : Option JsString
  deriving DecidableEq

structure ReportAlert where
  id : JsString
  severity : Severity
  observedAt : ℤ
  ownerId : JsString
  resolved : Bool
  evidenceRefs : List JsString
  deriving DecidableEq

structure ReportIntervention where
  id : JsString
  observedAt : ℤ
  ownerId : JsString
  reason : JsString
  evidenceRefs : List JsString
  deriving DecidableEq

structure ReportVerification where
  status : JsString
  verificationId : JsString
  completedAt : ℤ
  evidenceRefs : List JsString
  deriving DecidableEq

structure CanaryReport where
  schemaVersion : JsString
  canaryId : JsString
  status : JsString
  project : ReportProject
  scope : ReportScope
  conditions : ReportConditions
  observation : ReportObservation
  defects : List ReportDefect
  alerts : List ReportAlert
  interventions : List ReportIntervention
  goalVerification : ReportVerification
  gaps : List JsString
  result : JsString
  deriving DecidableEq

/-! ## The gate -/

namespace CanaryGate

open Gate

/-- `id` of the canary gate. -/
def id (value : JsString) (label : String) (rejectPlaceholder : Bool) : Except ReleaseError Unit :=
  Gate.id (js " is invalid or a placeholder") value (js label) rejectPlaceholder

/-- `id` of the canary gate, for the field of an item. -/
def itemId (value : JsString) (list : String) (index : ℕ) (field : String)
    (rejectPlaceholder : Bool) : Except ReleaseError Unit :=
  Gate.id (js " is invalid or a placeholder") value
    (itemLabel (js list) index ++ js "." ++ js field) rejectPlaceholder

def checkWindow (index : ℕ) (previousEnd : ℤ) (window : ReportWindow) :
    Except ReleaseError Unit := do
  ensure (decide (window.sequence = index + 1))
    (js "Canary observation window sequence is not contiguous")
  ensure (decide (window.startedAt = previousEnd ∧ window.startedAt < window.endedAt ∧
      window.endedAt - window.startedAt ≤ hourMs))
    (js "Canary observation windows must be contiguous and at most one hour")
  ensure (decide (window.status = .healthy ∧ window.p0Count = 0 ∧ window.p1Count = 0))
    (js "Canary observation contains a P0/P1 or unhealthy window")
  Gate.evidenceRefs window.evidenceRefs
    (itemLabel (js "observation.windows") index ++ js ".evidenceRefs")

/-- The loop over the windows, from where the last one ended; it gives the last end. -/
def checkWindows : ℕ → ℤ → List ReportWindow → Except ReleaseError ℤ
  | _, previousEnd, [] => .ok previousEnd
  | index, previousEnd, window :: rest => do
    checkWindow index previousEnd window
    checkWindows (index + 1) window.endedAt rest

structure ObservationResult where
  durationHours : ℚ
  windowCount : ℕ

def validateObservation (observation : ReportObservation) (now : ℤ) :
    Except ReleaseError ObservationResult := do
  ensure (decide (observation.requiredDurationHours = 12))
    (js "Canary requires exactly the 12-hour minimum gate")
  ensure (decide (observation.endedAt ≤ now)) (js "Canary observation cannot end in the future")
  let durationHours : ℚ := (observation.endedAt - observation.startedAt : ℤ) / hourMs
  ensure (decide (12 ≤ durationHours)) (js "Canary must observe at least 12 continuous hours")
  ensure (decide (12 ≤ observation.windows.length))
    (js "Canary requires at least 12 evidence windows")
  let previousEnd ← checkWindows 0 observation.startedAt observation.windows
  ensure (decide (previousEnd = observation.endedAt))
    (js "Canary observation windows do not cover the declared end time")
  pure { durationHours := durationHours, windowCount := observation.windows.length }

/-- What the gate asks of a `P2`. -/
def checkP2 (defect : ReportDefect) (index : ℕ) : Except ReleaseError Unit :=
  if defect.severity = .p2 then do
    itemId defect.ownerId "defects" index "ownerId" true
    string (defect.workaround.getD []) (itemLabel (js "defects") index ++ js ".workaround")
  else .ok ()

def checkDefect (defect : ReportDefect) (index : ℕ) : Except ReleaseError Unit := do
  itemId defect.id "defects" index "id" false
  ensure (!defect.severity.isCritical) (js "Canary cannot pass with any P0/P1 defect")
  checkP2 defect index
  string defect.status (itemLabel (js "defects") index ++ js ".status")

/-- The number of `P2` defects. -/
def validateDefects (defects : List ReportDefect) : Except ReleaseError ℕ := do
  defects.zipIdx.forM fun (defect, index) => checkDefect defect index
  pure (defects.countP fun defect => defect.severity = .p2)

def checkOperational (list : String) (index : ℕ) (eventId ownerId : JsString)
    (refs : List JsString) : Except ReleaseError Unit := do
  itemId eventId list index "id" false
  itemId ownerId list index "ownerId" true
  Gate.evidenceRefs refs (itemLabel (js list) index ++ js ".evidenceRefs")

def checkAlert (alert : ReportAlert) (index : ℕ) : Except ReleaseError Unit := do
  checkOperational "alerts" index alert.id alert.ownerId alert.evidenceRefs
  ensure (!alert.severity.isCritical) (js "Canary cannot pass with any P0/P1 alert")
  ensure alert.resolved (js "Canary alerts must be resolved")

def checkIntervention (intervention : ReportIntervention) (index : ℕ) :
    Except ReleaseError Unit := do
  checkOperational "interventions" index intervention.id intervention.ownerId
    intervention.evidenceRefs
  string intervention.reason (itemLabel (js "interventions") index ++ js ".reason")

def checkProject (project : ReportProject) : Except ReleaseError Unit := do
  id project.projectId "project.projectId" true
  id project.ownerId "project.ownerId" true
  ensure (project.internal && project.risk = js "low")
    (js "Canary project must be approved as low-risk and internal")

def checkScope (scope : ReportScope) : Except ReleaseError Unit := do
  id scope.goalId "scope.goalId" true
  ensure (decide (1 ≤ scope.goalContractVersion))
    (js "scope.goalContractVersion must be positive")
  Gate.strings scope.allowedAreas (js "scope.allowedAreas")
  Gate.strings scope.excludedAreas (js "scope.excludedAreas")
  ensure (!scope.allowedAreas.any fun area => area ∈ scope.excludedAreas)
    (js "Canary allowed and excluded scope overlap")

def checkRunbook (path : JsString) (key : String) : Except ReleaseError Unit := do
  string path (js "conditions." ++ js key)
  ensure (runbookPath path)
    (js "conditions." ++ js key ++ js " must reference a repository Runbook")

def checkConditions (conditions : ReportConditions) : Except ReleaseError Unit := do
  Gate.strings conditions.success (js "conditions.success")
  Gate.strings conditions.stop (js "conditions.stop")
  checkRunbook conditions.rollbackRunbook "rollbackRunbook"
  checkRunbook conditions.stopRunbook "stopRunbook"

def checkVerification (verification : ReportVerification) (observation : ReportObservation) :
    Except ReleaseError Unit := do
  ensure (verification.status = js "passed") (js "Goal Verification must pass")
  id verification.verificationId "goalVerification.verificationId" true
  ensure (decide (observation.startedAt ≤ verification.completedAt ∧
      verification.completedAt ≤ observation.endedAt))
    (js "Goal Verification must complete during the Canary window")
  Gate.evidenceRefs verification.evidenceRefs (js "goalVerification.evidenceRefs")

end CanaryGate

structure CanaryGateResult where
  durationHours : ℚ
  windowCount : ℕ
  p2Count : ℕ

open CanaryGate in
def validateP12CanaryReport (report : CanaryReport) (now : ℤ) :
    Except ReleaseError CanaryGateResult := do
  Gate.ensure (report.schemaVersion = js "harness.p12-canary-report.v1")
    (js "unsupported canary schema")
  CanaryGate.id report.canaryId "canaryId" false
  Gate.ensure (report.status = js "passed" && report.result = js "passed")
    (js "Canary report is not passed")
  checkProject report.project
  checkScope report.scope
  checkConditions report.conditions
  let result ← validateObservation report.observation now
  Gate.ensure (decide (report.project.approvedAt ≤ report.observation.startedAt))
    (js "Canary owner approval must precede observation")
  let p2Count ← CanaryGate.validateDefects report.defects
  report.alerts.zipIdx.forM fun (alert, index) => checkAlert alert index
  report.interventions.zipIdx.forM fun (intervention, index) =>
    checkIntervention intervention index
  checkVerification report.goalVerification report.observation
  Gate.ensure report.gaps.isEmpty (js "Canary report has unresolved gaps")
  pure
    { durationHours := result.durationHours
      windowCount := result.windowCount
      p2Count := p2Count }

/-! ## What the gate accepts -/

/-- The window that the gate accepts at an index, after one that ended at `previousEnd`. -/
structure GoodWindow (index : ℕ) (previousEnd : ℤ) (window : ReportWindow) : Prop where
  sequence : window.sequence = index + 1
  contiguous : window.startedAt = previousEnd
  lasts : window.startedAt < window.endedAt ∧ window.endedAt - window.startedAt ≤ hourMs
  healthy : window.status = .healthy ∧ window.p0Count = 0 ∧ window.p1Count = 0
  refs : window.evidenceRefs ≠ [] ∧ ∀ ref ∈ window.evidenceRefs, evidenceRef ref = true

def GoodWindows : ℕ → ℤ → List ReportWindow → Prop
  | _, _, [] => True
  | index, previousEnd, window :: rest =>
    GoodWindow index previousEnd window ∧ GoodWindows (index + 1) window.endedAt rest

def lastEnd (start : ℤ) (windows : List ReportWindow) : ℤ :=
  (windows.getLast?.map (·.endedAt)).getD start

structure GoodDefect (defect : ReportDefect) : Prop where
  safe : safeId defect.id = true
  severity : defect.severity.isCritical = false
  p2 : defect.severity = .p2 → safeId defect.ownerId = true ∧ isPlaceholder defect.ownerId = false ∧
    trim (defect.workaround.getD []) ≠ []
  status : trim defect.status ≠ []

/-- What the gate asks of alerts and of interventions alike. -/
structure GoodOperational (eventId ownerId : JsString) (refs : List JsString) : Prop where
  safe : safeId eventId = true
  owner : safeId ownerId = true ∧ isPlaceholder ownerId = false
  refs : refs ≠ [] ∧ ∀ ref ∈ refs, evidenceRef ref = true

structure GoodAlert (alert : ReportAlert) : Prop where
  operational : GoodOperational alert.id alert.ownerId alert.evidenceRefs
  severity : alert.severity.isCritical = false
  resolved : alert.resolved = true

structure GoodIntervention (intervention : ReportIntervention) : Prop where
  operational : GoodOperational intervention.id intervention.ownerId intervention.evidenceRefs
  reason : trim intervention.reason ≠ []

structure GoodObservation (observation : ReportObservation) (now : ℤ) : Prop where
  required : observation.requiredDurationHours = 12
  past : observation.endedAt ≤ now
  hours : 12 * hourMs ≤ observation.endedAt - observation.startedAt
  count : 12 ≤ observation.windows.length
  windows : GoodWindows 0 observation.startedAt observation.windows
  covers : lastEnd observation.startedAt observation.windows = observation.endedAt

structure GoodProject (project : ReportProject) : Prop where
  safe : safeId project.projectId = true ∧ isPlaceholder project.projectId = false
  owner : safeId project.ownerId = true ∧ isPlaceholder project.ownerId = false
  internal : project.internal = true ∧ project.risk = js "low"

structure GoodScope (scope : ReportScope) : Prop where
  goal : safeId scope.goalId = true ∧ isPlaceholder scope.goalId = false
  version : 1 ≤ scope.goalContractVersion
  allowed : scope.allowedAreas ≠ [] ∧ ∀ area ∈ scope.allowedAreas, trim area ≠ []
  excluded : scope.excludedAreas ≠ [] ∧ ∀ area ∈ scope.excludedAreas, trim area ≠ []
  disjoint : ∀ area ∈ scope.allowedAreas, area ∉ scope.excludedAreas

def GoodRunbook (path : JsString) : Prop :=
  trim path ≠ [] ∧ runbookPath path = true

structure GoodConditions (conditions : ReportConditions) : Prop where
  success : conditions.success ≠ [] ∧ ∀ condition ∈ conditions.success, trim condition ≠ []
  stop : conditions.stop ≠ [] ∧ ∀ condition ∈ conditions.stop, trim condition ≠ []
  rollback : GoodRunbook conditions.rollbackRunbook
  stopRunbook : GoodRunbook conditions.stopRunbook

structure GoodVerification (verification : ReportVerification) (observation : ReportObservation) :
    Prop where
  status : verification.status = js "passed"
  safe : safeId verification.verificationId = true ∧
    isPlaceholder verification.verificationId = false
  during : observation.startedAt ≤ verification.completedAt ∧
    verification.completedAt ≤ observation.endedAt
  refs : verification.evidenceRefs ≠ [] ∧ ∀ ref ∈ verification.evidenceRefs, evidenceRef ref = true

structure GoodReport (report : CanaryReport) (now : ℤ) : Prop where
  schema : report.schemaVersion = js "harness.p12-canary-report.v1"
  safe : safeId report.canaryId = true
  passed : report.status = js "passed" ∧ report.result = js "passed"
  project : GoodProject report.project
  scope : GoodScope report.scope
  conditions : GoodConditions report.conditions
  observation : GoodObservation report.observation now
  approved : report.project.approvedAt ≤ report.observation.startedAt
  defects : ∀ defect ∈ report.defects, GoodDefect defect
  alerts : ∀ alert ∈ report.alerts, GoodAlert alert
  interventions : ∀ intervention ∈ report.interventions, GoodIntervention intervention
  verification : GoodVerification report.goalVerification report.observation
  gaps : report.gaps = []

section Accepted

variable {report : CanaryReport} {now previousEnd : ℤ} {u : Unit} {index : ℕ}
  {observation : ReportObservation} {value : JsString} {reject : Bool} {defects : List ReportDefect}

theorem checkWindow_eq_ok {window : ReportWindow} :
    CanaryGate.checkWindow index previousEnd window = .ok u ↔
      GoodWindow index previousEnd window := by
  simp only [CanaryGate.checkWindow, check_bind_eq_ok, ensure_eq_ok, decide_eq_true_eq,
    gateRefs_eq_ok]
  constructor
  · rintro ⟨hsequence, ⟨hstart, hlasts⟩, hhealthy, hrefs⟩
    exact ⟨hsequence, hstart, hlasts, hhealthy, hrefs⟩
  · rintro ⟨hsequence, hstart, hlasts, hhealthy, hrefs⟩
    exact ⟨hsequence, ⟨hstart, hlasts⟩, hhealthy, hrefs⟩

theorem lastEnd_cons (start : ℤ) (window : ReportWindow) (rest : List ReportWindow) :
    lastEnd start (window :: rest) = lastEnd window.endedAt rest := by
  unfold lastEnd
  rw [List.getLast?_cons]
  cases rest.getLast? <;> rfl

theorem checkWindows_eq_ok {last : ℤ} {windows : List ReportWindow} :
    CanaryGate.checkWindows index previousEnd windows = .ok last ↔
      GoodWindows index previousEnd windows ∧ lastEnd previousEnd windows = last := by
  induction windows generalizing index previousEnd with
  | nil =>
      rw [CanaryGate.checkWindows, Except.ok.injEq]
      exact (and_iff_right trivial).symm
  | cons window rest ih =>
      rw [CanaryGate.checkWindows, check_bind_eq_ok, checkWindow_eq_ok, ih, lastEnd_cons,
        GoodWindows, and_assoc]

theorem twelve_le_hours {length : ℤ} : 12 ≤ (length : ℚ) / (hourMs : ℤ) ↔ 12 * hourMs ≤ length := by
  have hpos : (0 : ℚ) < (hourMs : ℤ) := by
    unfold hourMs
    norm_num
  rw [le_div_iff₀ hpos]
  exact_mod_cast Iff.rfl

theorem validateObservation_eq_ok :
    (∃ result, CanaryGate.validateObservation observation now = .ok result) ↔
      GoodObservation observation now := by
  simp only [CanaryGate.validateObservation, check_bind_eq_ok, ensure_eq_ok, decide_eq_true_eq,
    twelve_le_hours]
  simp only [bind_eq_ok, checkWindows_eq_ok, ensure_eq_ok, decide_eq_true_eq]
  constructor
  · rintro ⟨_, hrequired, hpast, hhours, hcount, _, ⟨hwindows, rfl⟩, _, hcovers, -⟩
    exact ⟨hrequired, hpast, hhours, hcount, hwindows, hcovers⟩
  · rintro ⟨hrequired, hpast, hhours, hcount, hwindows, hcovers⟩
    exact ⟨_, hrequired, hpast, hhours, hcount, _, ⟨hwindows, rfl⟩, (), hcovers, rfl⟩

theorem itemId_eq_ok {list field : String} :
    CanaryGate.itemId value list index field reject = .ok u ↔
      safeId value = true ∧ (reject = true → isPlaceholder value = false) :=
  gateId_eq_ok

theorem canaryId_eq_ok {label : String} :
    CanaryGate.id value label reject = .ok u ↔
      safeId value = true ∧ (reject = true → isPlaceholder value = false) :=
  gateId_eq_ok

theorem checkDefect_eq_ok {defect : ReportDefect} :
    CanaryGate.checkDefect defect index = .ok u ↔ GoodDefect defect := by
  have hp2 : CanaryGate.checkP2 defect index = .ok () ↔ (defect.severity = .p2 →
      safeId defect.ownerId = true ∧ isPlaceholder defect.ownerId = false ∧
        trim (defect.workaround.getD []) ≠ []) := by
    unfold CanaryGate.checkP2
    by_cases hseverity : defect.severity = .p2
    · rw [if_pos hseverity, check_bind_eq_ok, itemId_eq_ok, string_eq_ok]
      simp [hseverity, and_assoc]
    · simp [hseverity]
  simp only [CanaryGate.checkDefect, check_bind_eq_ok, ensure_eq_ok, hp2, itemId_eq_ok,
    string_eq_ok, Bool.not_eq_true', Bool.false_eq_true, false_implies, and_true]
  constructor
  · rintro ⟨hsafe, hseverity, hp2, hstatus⟩
    exact ⟨hsafe, hseverity, hp2, hstatus⟩
  · rintro ⟨hsafe, hseverity, hp2, hstatus⟩
    exact ⟨hsafe, hseverity, hp2, hstatus⟩

theorem checkOperational_eq_ok {list : String} {eventId ownerId : JsString} {refs : List JsString} :
    CanaryGate.checkOperational list index eventId ownerId refs = .ok u ↔
      GoodOperational eventId ownerId refs := by
  simp only [CanaryGate.checkOperational, check_bind_eq_ok, itemId_eq_ok, gateRefs_eq_ok,
    Bool.false_eq_true, false_implies, and_true, true_implies]
  constructor
  · rintro ⟨hsafe, howner, hrefs⟩
    exact ⟨hsafe, howner, hrefs⟩
  · rintro ⟨hsafe, howner, hrefs⟩
    exact ⟨hsafe, howner, hrefs⟩

theorem checkAlert_eq_ok {alert : ReportAlert} :
    CanaryGate.checkAlert alert index = .ok u ↔ GoodAlert alert := by
  simp only [CanaryGate.checkAlert, check_bind_eq_ok, checkOperational_eq_ok, ensure_eq_ok,
    Bool.not_eq_true']
  constructor
  · rintro ⟨hoperational, hseverity, hresolved⟩
    exact ⟨hoperational, hseverity, hresolved⟩
  · rintro ⟨hoperational, hseverity, hresolved⟩
    exact ⟨hoperational, hseverity, hresolved⟩

theorem checkIntervention_eq_ok {intervention : ReportIntervention} :
    CanaryGate.checkIntervention intervention index = .ok u ↔ GoodIntervention intervention := by
  simp only [CanaryGate.checkIntervention, check_bind_eq_ok, checkOperational_eq_ok, string_eq_ok]
  constructor
  · rintro ⟨hoperational, hreason⟩
    exact ⟨hoperational, hreason⟩
  · rintro ⟨hoperational, hreason⟩
    exact ⟨hoperational, hreason⟩

theorem checkProject_eq_ok : CanaryGate.checkProject report.project = .ok u ↔
    GoodProject report.project := by
  simp only [CanaryGate.checkProject, check_bind_eq_ok, canaryId_eq_ok, ensure_eq_ok,
    Bool.and_eq_true, decide_eq_true_eq, true_implies]
  constructor
  · rintro ⟨hsafe, howner, hinternal⟩
    exact ⟨hsafe, howner, hinternal⟩
  · rintro ⟨hsafe, howner, hinternal⟩
    exact ⟨hsafe, howner, hinternal⟩

theorem checkScope_eq_ok : CanaryGate.checkScope report.scope = .ok u ↔ GoodScope report.scope := by
  simp only [CanaryGate.checkScope, check_bind_eq_ok, canaryId_eq_ok, ensure_eq_ok, strings_eq_ok,
    decide_eq_true_eq, true_implies, Bool.not_eq_true', List.any_eq_false]
  constructor
  · rintro ⟨hgoal, hversion, hallowed, hexcluded, hdisjoint⟩
    exact ⟨hgoal, hversion, hallowed, hexcluded, hdisjoint⟩
  · rintro ⟨hgoal, hversion, hallowed, hexcluded, hdisjoint⟩
    exact ⟨hgoal, hversion, hallowed, hexcluded, hdisjoint⟩

theorem checkConditions_eq_ok : CanaryGate.checkConditions report.conditions = .ok u ↔
    GoodConditions report.conditions := by
  simp only [CanaryGate.checkConditions, CanaryGate.checkRunbook, check_bind_eq_ok, ensure_eq_ok,
    strings_eq_ok, string_eq_ok]
  constructor
  · rintro ⟨hsuccess, hstop, hrollback, hstopRunbook⟩
    exact ⟨hsuccess, hstop, hrollback, hstopRunbook⟩
  · rintro ⟨hsuccess, hstop, hrollback, hstopRunbook⟩
    exact ⟨hsuccess, hstop, hrollback, hstopRunbook⟩

theorem checkVerification_eq_ok {verification : ReportVerification} :
    CanaryGate.checkVerification verification observation = .ok u ↔
      GoodVerification verification observation := by
  simp only [CanaryGate.checkVerification, check_bind_eq_ok, ensure_eq_ok, canaryId_eq_ok,
    gateRefs_eq_ok, decide_eq_true_eq, true_implies]
  constructor
  · rintro ⟨hstatus, hsafe, hduring, hrefs⟩
    exact ⟨hstatus, hsafe, hduring, hrefs⟩
  · rintro ⟨hstatus, hsafe, hduring, hrefs⟩
    exact ⟨hstatus, hsafe, hduring, hrefs⟩

theorem forM_zipIdx_eq_ok {α : Type} {items : List α} {check : α → ℕ → Except ReleaseError Unit}
    {P : α → Prop} (h : ∀ item index, check item index = .ok () ↔ P item) :
    (items.zipIdx.forM fun entry => check entry.1 entry.2) = .ok u ↔ ∀ item ∈ items, P item := by
  rw [forM_eq_ok]
  constructor
  · intro hall item hitem
    obtain ⟨index, hindex, rfl⟩ := List.mem_iff_getElem.mp hitem
    have hmem : (items[index], index) ∈ items.zipIdx := by
      rw [List.mem_zipIdx_iff_getElem?]
      exact List.getElem?_eq_getElem hindex
    exact (h _ _).mp (hall _ hmem)
  · rintro hall ⟨item, index⟩ hmem
    rw [List.mem_zipIdx_iff_getElem?] at hmem
    exact (h _ _).mpr (hall item (List.mem_of_getElem? hmem))

theorem forM_checkDefect :
    (defects.zipIdx.forM fun entry => CanaryGate.checkDefect entry.1 entry.2) = .ok u ↔
      ∀ defect ∈ defects, GoodDefect defect :=
  forM_zipIdx_eq_ok fun _ _ => checkDefect_eq_ok

theorem forM_checkAlert {alerts : List ReportAlert} :
    (alerts.zipIdx.forM fun entry => CanaryGate.checkAlert entry.1 entry.2) = .ok u ↔
      ∀ alert ∈ alerts, GoodAlert alert :=
  forM_zipIdx_eq_ok fun _ _ => checkAlert_eq_ok

theorem forM_checkIntervention {interventions : List ReportIntervention} :
    (interventions.zipIdx.forM fun entry =>
      CanaryGate.checkIntervention entry.1 entry.2) = .ok u ↔
      ∀ intervention ∈ interventions, GoodIntervention intervention :=
  forM_zipIdx_eq_ok fun _ _ => checkIntervention_eq_ok

theorem validateDefects_eq_ok :
    (∃ p2Count, CanaryGate.validateDefects defects = .ok p2Count) ↔
      ∀ defect ∈ defects, GoodDefect defect := by
  simp only [CanaryGate.validateDefects, check_bind_eq_ok, forM_checkDefect]
  constructor
  · rintro ⟨_, hdefects, -⟩
    exact hdefects
  · intro hdefects
    exact ⟨_, hdefects, rfl⟩

theorem validateP12CanaryReport_eq_ok :
    (∃ result, validateP12CanaryReport report now = .ok result) ↔ GoodReport report now := by
  simp only [validateP12CanaryReport, check_bind_eq_ok, ensure_eq_ok, canaryId_eq_ok,
    checkProject_eq_ok, checkScope_eq_ok, checkConditions_eq_ok, Bool.false_eq_true, false_implies,
    and_true, decide_eq_true_eq, Bool.and_eq_true]
  constructor
  · rintro ⟨result, hschema, hsafe, hpassed, hproject, hscope, hconditions, h⟩
    obtain ⟨observed, hobservation, h⟩ := bind_eq_ok.mp h
    rw [check_bind_eq_ok, ensure_eq_ok, decide_eq_true_eq] at h
    obtain ⟨happroved, h⟩ := h
    obtain ⟨p2Count, hdefects, h⟩ := bind_eq_ok.mp h
    simp only [check_bind_eq_ok, ensure_eq_ok, checkVerification_eq_ok, forM_checkAlert,
      forM_checkIntervention, List.isEmpty_iff] at h
    obtain ⟨halerts, hinterventions, hverification, hgaps, -⟩ := h
    exact
      { schema := hschema
        safe := hsafe
        passed := hpassed
        project := hproject
        scope := hscope
        conditions := hconditions
        observation := validateObservation_eq_ok.mp ⟨observed, hobservation⟩
        approved := happroved
        defects := validateDefects_eq_ok.mp ⟨p2Count, hdefects⟩
        alerts := halerts
        interventions := hinterventions
        verification := hverification
        gaps := hgaps }
  · intro h
    obtain ⟨observed, hobservation⟩ := validateObservation_eq_ok.mpr h.observation
    obtain ⟨p2Count, hdefects⟩ := validateDefects_eq_ok.mpr h.defects
    refine ⟨⟨observed.durationHours, observed.windowCount, p2Count⟩, h.schema, h.safe, h.passed,
      h.project, h.scope, h.conditions, ?_⟩
    rw [hobservation, ok_bind, check_bind_eq_ok, ensure_eq_ok, decide_eq_true_eq]
    refine ⟨h.approved, ?_⟩
    rw [hdefects, ok_bind]
    simp only [check_bind_eq_ok, ensure_eq_ok, checkVerification_eq_ok, forM_checkAlert,
      forM_checkIntervention, List.isEmpty_iff]
    exact ⟨h.alerts, h.interventions, h.verification, h.gaps, rfl⟩

theorem GoodReport.later {later : ℤ} (h : GoodReport report now) (hle : now ≤ later) :
    GoodReport report later :=
  { h with observation := { h.observation with past := h.observation.past.trans hle } }

end Accepted

end DevHarness.ReleaseCenter
