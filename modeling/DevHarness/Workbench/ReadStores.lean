import DevHarness.Workbench.ReadStore
import Mathlib.Data.List.Dedup

/-!
# The two read stores

`NeonWorkbenchReadStore` and `NodePostgresWorkbenchReadStore` read the same tables.  They
show the same tasks; of the snapshots, only the first reads the stored summaries.
-/

namespace DevHarness.Workbench

open JsText

/-! ## Tables -/

/-- A row of `workbench_snapshots`.  A revision is one that a double holds exactly. -/
structure SnapshotRow where
  scope : WorkbenchProjectionScope
  revision : ℕ
  generatedAt : ℤ
  summary : WorkbenchSummary

/-- A row of `workbench_tasks`. -/
structure WorkbenchTaskRow where
  scope : WorkbenchProjectionScope
  taskId : JsString
  goalId : JsString
  stage : JsString
  attentionRequired : Bool
  rank : ℤ
  payload : GlobalTask
  deriving DecidableEq

structure WorkbenchTables where
  snapshots : Sql.Table SnapshotRow.scope
  tasks : Sql.Table fun row : WorkbenchTaskRow => (row.scope, row.taskId)

def TaskFilter.text : TaskFilter → JsString
  | .all => js "all"
  | .attention => js "attention"
  | .running => js "running"
  | .review => js "review"
  | .blocked => js "blocked"
  | .waiting => js "waiting"

/-- `ORDER BY rank, organization_id, project_id, task_id`. -/
def WorkbenchTaskRow.listedBefore : WorkbenchTaskRow → WorkbenchTaskRow → Bool :=
  Sql.thenBy (fun row => row.rank)
    (Sql.thenBy (fun row => units row.scope.organizationId)
      (Sql.thenBy (fun row => units row.scope.projectId)
        (Sql.byKey fun row => units row.taskId)))

def countRows (rows : List WorkbenchTaskRow) : WorkbenchSummaryCounts where
  taskCounts :=
    { all := rows.length
      attention := rows.countP (·.attentionRequired)
      running := rows.countP (·.stage = js "running")
      review := rows.countP (·.stage = js "review")
      blocked := rows.countP (·.stage = js "blocked")
      waiting := rows.countP (·.stage = js "waiting") }
  activeWorkers := ((rows.filter (·.stage = js "running")).filterMap
    (·.payload.execution.actorId)).dedup.length

/-! ## Summaries -/

/-- What the runtime and the database leave open: what an integer that is too large for a
double is rounded to, and the order in which rows come without `ORDER BY`. -/
structure ReadRuntime extends Runtime where
  less_self : ∀ x, less x x = false
  rounded : ℤ → JsNumber
  returned : List SnapshotRow → List SnapshotRow
  perm_returned : ∀ rows, (returned rows).Perm rows

def isDigit (u : UInt16) : Bool :=
  0x30 ≤ u && u ≤ 0x39

def digitsValue (digits : JsString) : ℕ :=
  digits.foldl (fun value u => value * 10 + (u.toNat - 0x30)) 0

/-- `Number.parseInt(text, 10)` before rounding; `none` is `NaN`. -/
def parseInt (text : JsString) : Option ℤ :=
  let trimmed := text.dropWhile isWhiteSpace
  let digits := (match trimmed with
    | 0x2B :: rest => rest
    | 0x2D :: rest => rest
    | _ => trimmed).takeWhile isDigit
  if digits = [] then none
  else if trimmed.head? = some 0x2D then some (-digitsValue digits)
  else some (digitsValue digits)

/-- `text.replace("/", "")`: the first slash goes. -/
def replaceSlash (text : JsString) : JsString :=
  text.erase 0x2F

section Summaries

variable (runtime : ReadRuntime)

theorem natAbs_zero_le : Int.natAbs 0 ≤ 9007199254740991 := by decide

def zero : JsNumber := integer 0 natAbs_zero_le

/-- `Number.parseInt(text, 10) || 0`. -/
def ReadRuntime.parsed (text : JsString) : JsNumber :=
  match parseInt text with
  | none => zero
  | some n => if h : n.natAbs ≤ 9007199254740991 then integer n h else runtime.rounded n

def ReadRuntime.sum (texts : List JsString) : JsNumber :=
  texts.foldl (fun sum text => runtime.add sum (runtime.parsed text)) zero

def metricsOf (summaries : List WorkbenchSummary) (id : WorkbenchMetricId) :
    List WorkbenchMetric :=
  (summaries.flatMap (·.metrics)).filter (·.id = id)

def ReadRuntime.sumMetric (summaries : List WorkbenchSummary) (id : WorkbenchMetricId) :
    JsNumber :=
  runtime.sum ((metricsOf summaries id).map (·.value))

def ReadRuntime.capacity (summaries : List WorkbenchSummary) : JsNumber :=
  runtime.sum ((metricsOf summaries .activeWorkers).map fun metric =>
    (metric.suffix.map replaceSlash).getD (js "0"))

def worstBudgetHealth (summaries : List WorkbenchSummary) : JsString :=
  let budgetValues := (metricsOf summaries .budgetHealth).map (·.value)
  if js "超限" ∈ budgetValues then js "超限"
  else if js "告警" ∈ budgetValues then js "告警"
  else js "健康"

/-- `buildScopedWorkbenchSummary` of counts and authoritative summaries. -/
def buildAuthoritativeSummary (counts : WorkbenchSummaryCounts)
    (summaries : List WorkbenchSummary) : WorkbenchSummary where
  taskCounts := counts.taskCounts
  metrics :=
    [{ id := .attention
       label := js "需处理"
       value := count counts.taskCounts.attention
       suffix := none
       detail := js "当前可见范围"
       tone := none
       targetFilter := some .attention
       targetView := none },
      { id := .running
        label := js "执行中"
        value := count counts.taskCounts.running
        suffix := none
        detail := js "当前可见范围"
        tone := none
        targetFilter := some .running
        targetView := none },
      { id := .activeWorkers
        label := js "活跃 Worker"
        value := if 0 < summaries.length then
            (runtime.sumMetric summaries .activeWorkers).toText
          else count counts.activeWorkers
        suffix := if 0 < summaries.length then
            some (js "/" ++ (runtime.capacity summaries).toText)
          else none
        detail := js "有效 lease / 可见项目容量"
        tone := none
        targetFilter := none
        targetView := some .scheduler },
      { id := .blocked
        label := js "阻塞"
        value := count counts.taskCounts.blocked
        suffix := none
        detail := js "当前可见范围"
        tone := some (if 0 < counts.taskCounts.blocked then .danger else .default)
        targetFilter := some .blocked
        targetView := none },
      { id := .completedToday
        label := js "今日完成"
        value := (runtime.sumMetric summaries .completedToday).toText
        suffix := none
        detail := js "当前可见范围"
        tone := some (if runtime.less zero (runtime.sumMetric summaries .completedToday) then
          .success else .default)
        targetFilter := none
        targetView := none },
      { id := .budgetHealth
        label := js "预算健康"
        value := worstBudgetHealth summaries
        suffix := none
        detail := js "采用可见项目中的最严重状态"
        tone := some (if worstBudgetHealth summaries = js "健康" then .success else .danger)
        targetFilter := none
        targetView := some .scheduler }]

end Summaries

def laterRow (current : Option SnapshotRow) (row : SnapshotRow) : Option SnapshotRow :=
  match current with
  | none => some row
  | some latest => if latest.generatedAt < row.generatedAt then some row else some latest

/-- `latest`: the first row than which no later one is more recent. -/
def latestRow (rows : List SnapshotRow) : Option SnapshotRow :=
  rows.foldl laterRow none

/-- `latest?.generatedAt ?? new Date(0)`. -/
def latestTime (rows : List SnapshotRow) : ℤ :=
  ((latestRow rows).map (·.generatedAt)).getD 0

def SnapshotRow.tag (row : SnapshotRow) : JsString :=
  row.scope.organizationId ++ js "/" ++ row.scope.projectId ++ js ":" ++
    js (toString row.revision) ++ js ":" ++ toISOString row.generatedAt

namespace NodePostgresWorkbenchReadStore

def whereClause (input : ReadPersistedTasksInput) (includeListFilter : Bool)
    (row : WorkbenchTaskRow) : Bool :=
  isVisible input.scopeId input.visibility row.scope &&
    (!truthy input.goalId || input.goalId = some row.goalId) &&
    (if includeListFilter && input.filter = some .attention then row.attentionRequired
      else if includeListFilter && input.filter.isSome && input.filter ≠ some .all then
        input.filter.any fun filter => row.stage = filter.text
      else true)

/-- `ORDER BY organization_id, project_id`. -/
def snapshots (tables : WorkbenchTables) (input : ReadPersistedTasksInput) : List SnapshotRow :=
  Sql.orderBy (Sql.thenBy (fun row => units row.scope.organizationId)
      (Sql.byKey fun row => units row.scope.projectId))
    (tables.snapshots.rows.filter fun row => isVisible input.scopeId input.visibility row.scope)

def readPage (runtime : ReadRuntime) (tables : WorkbenchTables) (input : ReadPersistedTasksInput) :
    PersistedWorkbenchPage :=
  let snapshotRows := snapshots tables input
  let listed := tables.tasks.rows.filter (whereClause input true)
  let summarised := tables.tasks.rows.filter (whereClause input false)
  { snapshot :=
      { revision := snapshotRows.foldl (fun maximum row => max maximum row.revision) 0
        generatedAt := latestTime snapshotRows
        summary := buildAuthoritativeSummary runtime (countRows summarised) []
        cacheTag := join (js "|") (snapshotRows.map SnapshotRow.tag) }
    tasks := (((Sql.orderBy WorkbenchTaskRow.listedBefore listed).drop input.offset).take
      input.limit).map (·.payload)
    total := listed.length }

end NodePostgresWorkbenchReadStore

/-! ## The store on Neon -/

namespace NeonWorkbenchReadStore

/-- `visibility` and `snapshotVisibility`. -/
def visibilityCondition (visibility : ActorVisibilityScope) (scope : WorkbenchProjectionScope) :
    Bool :=
  if 0 < visibility.organizationIds.length ∨ 0 < visibility.projectIds.length then
    (if 0 < visibility.organizationIds.length then
        decide (scope.organizationId ∈ visibility.organizationIds)
      else false) ||
    (if 0 < visibility.projectIds.length then
        decide (scope.projectId ∈ visibility.projectIds)
      else false)
  else false

def baseConditions (input : ReadPersistedTasksInput) (row : WorkbenchTaskRow) : Bool :=
  decide (row.scope.scopeId = input.scopeId) && visibilityCondition input.visibility row.scope &&
    (if truthy input.goalId then decide (some row.goalId = input.goalId) else true)

/-- `baseConditions`, and what the filter adds to them. -/
def conditions (input : ReadPersistedTasksInput) (row : WorkbenchTaskRow) : Bool :=
  baseConditions input row &&
    (match input.filter with
      | none => true
      | some .attention => row.attentionRequired
      | some filter => if filter ≠ .all then row.stage = filter.text else true)

/-- `` `${organizationId}/${projectId}` ``. -/
def sortKey (row : SnapshotRow) : JsString :=
  row.scope.organizationId ++ js "/" ++ row.scope.projectId

variable (runtime : ReadRuntime)

def snapshots (tables : WorkbenchTables) (input : ReadPersistedTasksInput) : List SnapshotRow :=
  runtime.returned (tables.snapshots.rows.filter fun row =>
    decide (row.scope.scopeId = input.scopeId) && visibilityCondition input.visibility row.scope)

/-- `snapshots.sort(…)`. -/
def sortByProject (rows : List SnapshotRow) : List SnapshotRow :=
  Sql.orderBy (fun left right =>
    runtime.localeCompare (sortKey left) (sortKey right) ≠ .gt) rows

def readPage (tables : WorkbenchTables) (input : ReadPersistedTasksInput) :
    PersistedWorkbenchPage :=
  let snapshotRows := snapshots runtime tables input
  let listed := tables.tasks.rows.filter (conditions input)
  let summarised := tables.tasks.rows.filter (baseConditions input)
  { snapshot :=
      { revision := snapshotRows.foldl (fun total row => total + row.revision) 0
        generatedAt := latestTime snapshotRows
        summary := buildAuthoritativeSummary runtime (countRows summarised)
          (snapshotRows.map (·.summary))
        cacheTag := join (js "|") ((sortByProject runtime snapshotRows).map SnapshotRow.tag) }
    tasks := (((Sql.orderBy WorkbenchTaskRow.listedBefore listed).drop input.offset).take
      input.limit).map (·.payload)
    total := listed.length }

end NeonWorkbenchReadStore

section Agreement

variable {runtime : ReadRuntime} {tables : WorkbenchTables} {input : ReadPersistedTasksInput}

open NeonWorkbenchReadStore NodePostgresWorkbenchReadStore

theorem visibilityCondition_eq_isVisible (scope : WorkbenchProjectionScope) :
    (decide (scope.scopeId = input.scopeId) && visibilityCondition input.visibility scope) =
      isVisible input.scopeId input.visibility scope := by
  obtain ⟨scopeId, ⟨actorId, organizationIds, projectIds⟩, goalId, filter, offset, limit⟩ := input
  by_cases horganizations : 0 < organizationIds.length <;>
    by_cases hprojects : 0 < projectIds.length <;>
    simp_all [visibilityCondition, isVisible]

theorem baseConditions_eq_whereClause (row : WorkbenchTaskRow) :
    baseConditions input row = whereClause input false row := by
  rw [baseConditions, visibilityCondition_eq_isVisible, whereClause]
  simp only [Bool.false_and, Bool.false_eq_true, if_false, Bool.and_true]
  by_cases hgoal : truthy input.goalId = true
  · simp only [hgoal, if_true, Bool.not_true, Bool.false_or, eq_comm]
  · simp only [hgoal, if_false, Bool.not_false, Bool.true_or, Bool.false_eq_true]

theorem conditions_eq_whereClause (row : WorkbenchTaskRow) :
    conditions input row = whereClause input true row := by
  rw [conditions, baseConditions_eq_whereClause, whereClause, whereClause]
  simp only [Bool.false_and, Bool.false_eq_true, if_false, Bool.and_true, Bool.true_and]
  congr 1
  rcases input.filter with - | filter
  · rfl
  · cases filter <;> rfl

def WorkbenchTables.visibleRows (tables : WorkbenchTables) (input : ReadPersistedTasksInput) :
    List SnapshotRow :=
  tables.snapshots.rows.filter fun row => isVisible input.scopeId input.visibility row.scope

theorem perm_neonSnapshots :
    (NeonWorkbenchReadStore.snapshots runtime tables input).Perm (tables.visibleRows input) := by
  have hrows := runtime.perm_returned (tables.snapshots.rows.filter fun row =>
    decide (row.scope.scopeId = input.scopeId) && visibilityCondition input.visibility row.scope)
  simp only [visibilityCondition_eq_isVisible] at hrows
  rw [NeonWorkbenchReadStore.snapshots, WorkbenchTables.visibleRows]
  simp only [visibilityCondition_eq_isVisible]
  exact hrows

theorem perm_nodeSnapshots :
    (NodePostgresWorkbenchReadStore.snapshots tables input).Perm (tables.visibleRows input) :=
  Sql.perm_orderBy _ _

theorem countRows_readPage :
    countRows (tables.tasks.rows.filter (baseConditions input)) =
      countRows (tables.tasks.rows.filter (whereClause input false)) := by
  rw [show baseConditions input = whereClause input false from
    funext baseConditions_eq_whereClause]

theorem snapshots_eq_nil_iff :
    NeonWorkbenchReadStore.snapshots runtime tables input = [] ↔
      tables.visibleRows input = [] := by
  constructor
  · intro hnil
    exact List.nil_perm.mp ((List.Perm.of_eq hnil.symm).trans perm_neonSnapshots)
  · intro hnil
    exact List.perm_nil.mp (perm_neonSnapshots.trans (List.Perm.of_eq hnil))

theorem summary_nil_of_eq {counts counts' : WorkbenchSummaryCounts}
    {summaries : List WorkbenchSummary}
    (h : buildAuthoritativeSummary runtime counts summaries =
      buildAuthoritativeSummary runtime counts' []) : summaries = [] := by
  have hmetric := congrArg (fun summary => summary.metrics[2]?.map (·.suffix)) h
  simp only [buildAuthoritativeSummary, List.getElem?_cons_succ, List.getElem?_cons_zero,
    Option.map_some, Option.some.injEq, List.length_nil, Nat.lt_irrefl, if_false] at hmetric
  by_contra hne
  rw [if_pos (List.length_pos_of_ne_nil hne)] at hmetric
  cases hmetric

/-- The two stores read the same page exactly where no stored snapshot is visible. -/
theorem readPage_eq_iff (runtime : ReadRuntime) (tables : WorkbenchTables)
    (input : ReadPersistedTasksInput) :
    NeonWorkbenchReadStore.readPage runtime tables input =
        NodePostgresWorkbenchReadStore.readPage runtime tables input ↔
      tables.visibleRows input = [] := by
  constructor
  · intro h
    have hsummary := congrArg (·.snapshot.summary) h
    have hnil := summary_nil_of_eq hsummary
    exact snapshots_eq_nil_iff.mp (List.map_eq_nil_iff.mp hnil)
  · intro hnil
    have hneon : NeonWorkbenchReadStore.snapshots runtime tables input = [] :=
      snapshots_eq_nil_iff.mpr hnil
    have hnode : NodePostgresWorkbenchReadStore.snapshots tables input = [] :=
      List.perm_nil.mp (perm_nodeSnapshots.trans (List.Perm.of_eq hnil))
    have hlisted : conditions input = whereClause input true :=
      funext conditions_eq_whereClause
    rw [NeonWorkbenchReadStore.readPage, NodePostgresWorkbenchReadStore.readPage, hneon, hnode,
      hlisted, countRows_readPage]
    rfl

end Agreement

/-! ## One project -/

theorem beginsNumber_infinity : beginsNumber (js "Infinity") = true := by decide

def addIntegers : JsNumber → JsNumber → JsNumber
  | .safeInteger a _, .safeInteger b _ =>
    if h : (a + b).natAbs ≤ 9007199254740991 then .safeInteger (a + b) h
    else .other (js "Infinity") beginsNumber_infinity
  | a, _ => a

def lessIntegers : JsNumber → JsNumber → Bool
  | .safeInteger a _, .safeInteger b _ => a < b
  | _, _ => false

def integerRuntime : ReadRuntime where
  parse := fun _ => none
  toLowerCase := fun text => text.map foldCase
  toLowerCase_of_lower := fun _ h => map_foldCase_of_lower h
  isFinite := fun _ => true
  add := addIntegers
  div := fun a _ => a
  less := lessIntegers
  localeCompare := fun a b => compare (units a) (units b)
  dayKey := fun date => js (toString (date / 86400000))
  semanticHash := fun _ _ => []
  less_self := by
    intro x
    cases x with
    | safeInteger n _ => exact decide_eq_false (Int.lt_irrefl n)
    | other _ _ => rfl
  rounded := fun _ => .other (js "Infinity") beginsNumber_infinity
  returned := id
  perm_returned := fun _ => .refl _

def storedSummary : WorkbenchSummary where
  metrics :=
    [{ id := .activeWorkers, label := js "活跃 Worker", value := js "1", suffix := some (js "/2"),
       detail := js "有效 lease / 在线容量", tone := none, targetFilter := none,
       targetView := some .scheduler },
      { id := .completedToday, label := js "今日完成", value := js "3", suffix := none,
        detail := js "Asia/Shanghai", tone := some .success, targetFilter := none,
        targetView := none },
      { id := .budgetHealth, label := js "预算健康", value := js "超限", suffix := none,
        detail := js "当前项目", tone := some .danger, targetFilter := none,
        targetView := some .scheduler }]
  taskCounts :=
    { all := 0, attention := 0, running := 0, review := 0, blocked := 0, waiting := 0 }

def oneProject : WorkbenchProjectionScope where
  scopeId := js "workbench"
  organizationId := js "00000000-0000-4000-8000-000000000001"
  projectId := js "00000000-0000-4000-8000-000000000002"

def oneSnapshot : WorkbenchTables where
  snapshots := (Sql.Table.empty _).insertNew
    { scope := oneProject, revision := 1, generatedAt := 1000, summary := storedSummary }
  tasks := Sql.Table.empty _

def firstPage : ReadPersistedTasksInput where
  scopeId := js "workbench"
  visibility :=
    { actorId := js "actor", organizationIds := [oneProject.organizationId], projectIds := [] }
  goalId := none
  filter := none
  offset := 0
  limit := 50

def storedMetrics (page : PersistedWorkbenchPage) : List (JsString × Option JsString) :=
  (page.snapshot.summary.metrics.filter fun metric =>
    metric.id ∈ [.activeWorkers, .completedToday, .budgetHealth]).map fun metric =>
      (metric.value, metric.suffix)

/-- A project over budget with three completed tasks: the store on node-postgres shows a
healthy one with none. -/
theorem readPage_ne :
    NeonWorkbenchReadStore.readPage integerRuntime oneSnapshot firstPage ≠
        NodePostgresWorkbenchReadStore.readPage integerRuntime oneSnapshot firstPage ∧
      storedMetrics (NeonWorkbenchReadStore.readPage integerRuntime oneSnapshot firstPage) =
        [(js "1", some (js "/2")), (js "3", none), (js "超限", none)] ∧
      storedMetrics (NodePostgresWorkbenchReadStore.readPage integerRuntime oneSnapshot
          firstPage) =
        [(js "0", none), (js "0", none), (js "健康", none)] := by
  decide +kernel

def TaskStage.text : TaskStage → JsString
  | .running => js "running"
  | .review => js "review"
  | .blocked => js "blocked"
  | .waiting => js "waiting"

/-- `buildWorkbenchTaskRows`: the columns repeat what the payload says. -/
def TaskRow.columns (row : TaskRow) : WorkbenchTaskRow where
  scope := row.scope
  taskId := row.payload.id
  goalId := row.payload.goalId
  stage := row.payload.stage.text
  attentionRequired := row.payload.attention.required
  rank := row.rank
  payload := row.payload

end DevHarness.Workbench
