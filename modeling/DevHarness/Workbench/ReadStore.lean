import DevHarness.Workbench.Publications

/-!
# Reading a page

A page shows the projects that an actor can see.  Its revision is the largest of theirs.
-/

namespace DevHarness.Workbench

open JsText

structure ActorVisibilityScope where
  actorId : JsString
  organizationIds : List JsString
  projectIds : List JsString
  deriving DecidableEq

def hasVisibleProjects (visibility : ActorVisibilityScope) : Bool :=
  visibility.organizationIds.length > 0 || visibility.projectIds.length > 0

/-- A row of `workbench_snapshots` with its rows of `workbench_tasks`, by rank. -/
structure StoredSnapshot where
  scope : WorkbenchProjectionScope
  revision : ℕ
  generatedAt : ℤ
  summary : WorkbenchSummary
  tasks : List GlobalTask
  deriving DecidableEq

def Projection.stored (projection : Projection) : StoredSnapshot where
  scope := projection.scope
  revision := projection.revision
  generatedAt := projection.generatedAt
  summary := projection.summary
  tasks := projection.tasks

/-- `scope_id = $1 AND (organization_id = ANY($2) OR project_id = ANY($3))`. -/
def isVisible (scopeId : JsString) (visibility : ActorVisibilityScope)
    (scope : WorkbenchProjectionScope) : Bool :=
  decide (scope.scopeId = scopeId ∧ (scope.organizationId ∈ visibility.organizationIds ∨
    scope.projectId ∈ visibility.projectIds))

/-- `ORDER BY organization_id, project_id`. -/
def visibleSnapshots (scopeId : JsString) (visibility : ActorVisibilityScope)
    (table : ProjectionTable) : List StoredSnapshot :=
  Sql.orderBy (Sql.thenBy (fun row => units row.scope.organizationId)
      (Sql.byKey fun row => units row.scope.projectId))
    ((table.rows.filter fun row => isVisible scopeId visibility row.scope).map Projection.stored)

/-! ## Pages -/

structure ReadPersistedTasksInput where
  scopeId : JsString
  visibility : ActorVisibilityScope
  goalId : Option JsString
  filter : Option TaskFilter
  offset : ℕ
  limit : ℕ

/-- A row of `workbench_tasks`. -/
structure TaskRow where
  scope : WorkbenchProjectionScope
  rank : ℕ
  payload : GlobalTask

def StoredSnapshot.taskRows (snapshot : StoredSnapshot) : List TaskRow :=
  snapshot.tasks.zipIdx.map fun (task, rank) => ⟨snapshot.scope, rank, task⟩

/-- The list filter of `whereClause`. -/
def TaskFilter.selects (filter : TaskFilter) (task : GlobalTask) : Bool :=
  match filter with
  | .all => true
  | .attention => task.attention.required
  | .running => task.stage = .running
  | .review => task.stage = .review
  | .blocked => task.stage = .blocked
  | .waiting => task.stage = .waiting

/-- The clauses of `whereClause` on a task of a visible project. -/
def ReadPersistedTasksInput.selects (input : ReadPersistedTasksInput) (includeListFilter : Bool)
    (task : GlobalTask) : Bool :=
  (!truthy input.goalId || input.goalId = some task.goalId) &&
    (!includeListFilter || input.filter.all fun filter => filter.selects task)

structure WorkbenchSummaryCounts where
  taskCounts : TaskFilterCounts
  activeWorkers : ℕ

def summaryCounts (tasks : List GlobalTask) : WorkbenchSummaryCounts where
  taskCounts := taskCounts tasks
  activeWorkers := ((tasks.filter fun task => task.stage = .running).filterMap
    (·.execution.actorId)).dedup.length

/-- `buildScopedWorkbenchSummary`, without authoritative summaries. -/
def buildScopedWorkbenchSummary (counts : WorkbenchSummaryCounts) : WorkbenchSummary where
  taskCounts := counts.taskCounts
  metrics :=
    [{ id := .attention
       label := js "需处理"
       value := count counts.taskCounts.attention
       suffix := none
       detail := js "当前可见范围"
       tone := none
       targetFilter := some .attention
       targetView := none },
      { id := .running
        label := js "执行中"
        value := count counts.taskCounts.running
        suffix := none
        detail := js "当前可见范围"
        tone := none
        targetFilter := some .running
        targetView := none },
      { id := .activeWorkers
        label := js "活跃 Worker"
        value := count counts.activeWorkers
        suffix := none
        detail := js "有效 lease / 可见项目容量"
        tone := none
        targetFilter := none
        targetView := some .scheduler },
      { id := .blocked
        label := js "阻塞"
        value := count counts.taskCounts.blocked
        suffix := none
        detail := js "当前可见范围"
        tone := some (if 0 < counts.taskCounts.blocked then .danger else .default)
        targetFilter := some .blocked
        targetView := none },
      { id := .completedToday
        label := js "今日完成"
        value := count 0
        suffix := none
        detail := js "当前可见范围"
        tone := some .default
        targetFilter := none
        targetView := none },
      { id := .budgetHealth
        label := js "预算健康"
        value := js "健康"
        suffix := none
        detail := js "采用可见项目中的最严重状态"
        tone := some .success
        targetFilter := none
        targetView := some .scheduler }]

structure PersistedWorkbenchSnapshot where
  revision : ℕ
  generatedAt : ℤ
  summary : WorkbenchSummary
  cacheTag : JsString
  deriving DecidableEq

structure PersistedWorkbenchPage where
  snapshot : PersistedWorkbenchSnapshot
  tasks : List GlobalTask
  total : ℕ
  deriving DecidableEq

/-- `snapshotRows.reduce((maximum, row) => Math.max(maximum, Number(row.revision)), 0)`. -/
def maximumRevision (snapshots : List StoredSnapshot) : ℕ :=
  snapshots.foldl (fun maximum row => max maximum row.revision) 0

/-- The time of the latest row, or `new Date(0)`. -/
def latestGeneratedAt (snapshots : List StoredSnapshot) : ℤ :=
  ((snapshots.foldl (fun current row =>
    match current with
    | none => some row
    | some latest => if latest.generatedAt < row.generatedAt then some row else some latest)
    none).map (·.generatedAt)).getD 0

def cacheTag (snapshots : List StoredSnapshot) : JsString :=
  join (js "|") (snapshots.map fun row =>
    row.scope.organizationId ++ js "/" ++ row.scope.projectId ++ js ":" ++
      js (toString row.revision) ++ js ":" ++ toISOString row.generatedAt)

/-- What `readPage` makes of the rows that its transaction reads. -/
def pageOf (snapshots : List StoredSnapshot) (input : ReadPersistedTasksInput) :
    PersistedWorkbenchPage :=
  let rows := Sql.orderBy
    (Sql.thenBy (fun row => row.rank)
      (Sql.thenBy (fun row => units row.scope.organizationId)
        (Sql.thenBy (fun row => units row.scope.projectId)
          (Sql.byKey fun row => units row.payload.id))))
    (snapshots.flatMap StoredSnapshot.taskRows)
  let listed := (rows.map (·.payload)).filter (input.selects true)
  let summarised := (rows.map (·.payload)).filter (input.selects false)
  { snapshot :=
      { revision := maximumRevision snapshots
        generatedAt := latestGeneratedAt snapshots
        summary := buildScopedWorkbenchSummary (summaryCounts summarised)
        cacheTag := cacheTag snapshots }
    tasks := (listed.drop input.offset).take input.limit
    total := listed.length }

def readPage (table : ProjectionTable) (input : ReadPersistedTasksInput) :
    PersistedWorkbenchPage :=
  pageOf (visibleSnapshots input.scopeId input.visibility table) input

/-- The data of `getWorkbench({ limit })`, from the rows that were read. -/
def workbenchData (scopeId : JsString) (visibility : ActorVisibilityScope) (limit : ℕ)
    (snapshots : List StoredSnapshot) : WorkbenchSnapshot :=
  let page := pageOf snapshots
    { scopeId := scopeId
      visibility := visibility
      goalId := none
      filter := none
      offset := 0
      limit := limit }
  { revision := page.snapshot.revision
    generatedAt := page.snapshot.generatedAt
    summary := page.snapshot.summary
    tasks := page.tasks }

section MaximumRevision

variable {snapshots : List StoredSnapshot} {n : ℕ}

theorem foldl_max_lt_iff {m : ℕ} :
    snapshots.foldl (fun maximum row => max maximum row.revision) m < n ↔
      m < n ∧ ∀ row ∈ snapshots, row.revision < n := by
  induction snapshots generalizing m with
  | nil => simp
  | cons row rows ih =>
      rw [List.foldl_cons, ih, List.forall_mem_cons, Nat.max_lt, and_assoc]

theorem maximumRevision_lt_iff :
    maximumRevision snapshots < n ↔ 0 < n ∧ ∀ row ∈ snapshots, row.revision < n :=
  foldl_max_lt_iff

theorem revision_le_maximumRevision {row : StoredSnapshot} (hrow : row ∈ snapshots) :
    row.revision ≤ maximumRevision snapshots :=
  Nat.lt_succ_iff.mp ((maximumRevision_lt_iff.mp (Nat.lt_succ_self _)).2 row hrow)

theorem maximumRevision_le (h : ∀ row ∈ snapshots, row.revision ≤ n) :
    maximumRevision snapshots ≤ n :=
  Nat.lt_succ_iff.mp
    (maximumRevision_lt_iff.mpr ⟨Nat.succ_pos n, fun row hrow => Nat.lt_succ_of_le (h row hrow)⟩)

end MaximumRevision

section Publish

variable {scopeId : JsString} {visibility : ActorVisibilityScope} {table next : ProjectionTable}
  {input : PublishInput} {state : WorkbenchProjectionState} {snapshot : StoredSnapshot}

theorem mem_visibleSnapshots : snapshot ∈ visibleSnapshots scopeId visibility table ↔
    isVisible scopeId visibility snapshot.scope = true ∧
      ∃ row, table.get snapshot.scope = some row ∧ row.stored = snapshot := by
  rw [visibleSnapshots, Sql.mem_orderBy, List.mem_map]
  constructor
  · rintro ⟨row, hrow, rfl⟩
    obtain ⟨hmem, hvisible⟩ := List.mem_filter.mp hrow
    exact ⟨hvisible, row, Sql.Table.get_of_mem hmem, rfl⟩
  · rintro ⟨hvisible, row, hrow, rfl⟩
    exact ⟨row, List.mem_filter.mpr ⟨Sql.Table.mem_of_get hrow, hvisible⟩, rfl⟩

def ProjectionTable.nextRevision (table : ProjectionTable) (scope : WorkbenchProjectionScope) :
    ℕ :=
  ((table.get scope).map (·.revision)).getD 0 + 1

/-- The publish stores a new revision of a visible project. -/
def PublishesVisible (scopeId : JsString) (visibility : ActorVisibilityScope)
    (table : ProjectionTable) (input : PublishInput) : Prop :=
  isVisible scopeId visibility input.scope = true ∧
    (table.get input.scope).map (·.digest) ≠ some input.digest ∧
    (input.snapshot.tasks.map (·.id)).Nodup

/-- An update of one row leaves the rows that meet a condition alone, when neither the row
nor what it becomes meets it. -/
theorem filter_map_of_unselected {α : Type} {p : α → Bool} {f : α → α} {rows : List α}
    (h : ∀ row ∈ rows, f row = row ∨ p row = false ∧ p (f row) = false) :
    (rows.map f).filter p = rows.filter p := by
  induction rows with
  | nil => rfl
  | cons row rows ih =>
      have hrest := ih fun other hother => h other (List.mem_cons_of_mem _ hother)
      rw [List.map_cons, List.filter_cons, List.filter_cons, hrest]
      rcases h row List.mem_cons_self with hsame | ⟨hrow, hupdated⟩
      · rw [hsame]
      · simp only [hrow, hupdated, Bool.false_eq_true, if_false]

/-- An update that keeps a condition and what is read of a row keeps what is read where the
condition holds. -/
theorem map_filter_map_of_kept {α β : Type} {p : α → Bool} {f : α → α} {g : α → β}
    {rows : List α} (h : ∀ row ∈ rows, p (f row) = p row ∧ g (f row) = g row) :
    ((rows.map f).filter p).map g = (rows.filter p).map g := by
  induction rows with
  | nil => rfl
  | cons row rows ih =>
      have hrest := ih fun other hother => h other (List.mem_cons_of_mem _ hother)
      obtain ⟨hcondition, hread⟩ := h row List.mem_cons_self
      rw [List.map_cons, List.filter_cons, List.filter_cons, hcondition]
      split
      · rw [List.map_cons, List.map_cons, hread, hrest]
      · exact hrest

theorem visibleSnapshots_put {projection : Projection}
    (h : isVisible scopeId visibility projection.scope = false) :
    visibleSnapshots scopeId visibility (ProjectionTable.put table projection) =
      visibleSnapshots scopeId visibility table := by
  have hupdated : ((table.updateWhere (fun row => row.scope = projection.scope)
      (fun row => { projection with scope := row.scope }) (fun _ => rfl)).rows.filter
        fun row => isVisible scopeId visibility row.scope) =
      table.rows.filter fun row => isVisible scopeId visibility row.scope := by
    refine filter_map_of_unselected fun row _ => ?_
    by_cases hscope : row.scope = projection.scope
    · right
      simp only [hscope, decide_true, if_true, h, and_self]
    · left
      simp only [hscope, decide_false, Bool.false_eq_true, if_false]
  have hinserted : ((ProjectionTable.put table projection).rows.filter
      fun row => isVisible scopeId visibility row.scope) =
      table.rows.filter fun row => isVisible scopeId visibility row.scope := by
    rw [← hupdated, ProjectionTable.put, Sql.Table.insertNew]
    split
    · rfl
    · rw [List.filter_append, List.filter_singleton, h]
      exact List.append_nil _
  rw [visibleSnapshots, hinserted, visibleSnapshots]

theorem visibleSnapshots_advance {scope : WorkbenchProjectionScope}
    {cursor : Option WorkbenchProjectionCursor} :
    visibleSnapshots scopeId visibility (ProjectionTable.advance table scope cursor) =
      visibleSnapshots scopeId visibility table := by
  have hrows : ((ProjectionTable.advance table scope cursor).rows.filter
        fun row => isVisible scopeId visibility row.scope).map Projection.stored =
      (table.rows.filter fun row => isVisible scopeId visibility row.scope).map
        Projection.stored := by
    refine map_filter_map_of_kept fun row _ => ?_
    by_cases hscope : row.scope = scope
    · simp only [hscope, decide_true, if_true]
      exact ⟨trivial, by rw [← hscope]; rfl⟩
    · simp only [hscope, decide_false, Bool.false_eq_true, if_false, and_self]
  rw [visibleSnapshots, hrows, visibleSnapshots]

theorem visibleSnapshots_publish_of_not
    (h : ¬ PublishesVisible scopeId visibility table input) :
    visibleSnapshots scopeId visibility (ProjectionTable.publish table input).2 =
      visibleSnapshots scopeId visibility table := by
  obtain ⟨⟨result, next⟩, hpublish⟩ : ∃ published, ProjectionTable.publish table input = published :=
    ⟨_, rfl⟩
  rw [hpublish]
  cases result with
  | error error => rw [ProjectionTable.publish_error hpublish]
  | ok state =>
      cases ProjectionTable.published_of_publish hpublish with
      | advanced row hrow hdigest => exact visibleSnapshots_advance
      | created hdigest =>
          by_cases hvisible : isVisible scopeId visibility input.scope = true
          · have hnodup : (input.snapshot.tasks.map (·.id)).Nodup := by
              unfold ProjectionTable.publish at hpublish
              simp only [hdigest, if_false] at hpublish
              split at hpublish
              · next hnodup => exact hnodup
              · cases (Prod.mk.inj hpublish).1
            exact (h ⟨hvisible, hdigest, hnodup⟩).elim
          · exact visibleSnapshots_put (Bool.eq_false_iff.mpr hvisible)

theorem publish_of_publishesVisible (h : PublishesVisible scopeId visibility table input) :
    (ProjectionTable.publish table input).2 =
      ProjectionTable.put table (input.projection (table.nextRevision input.scope)) := by
  obtain ⟨-, hdigest, hnodup⟩ := h
  unfold ProjectionTable.publish
  simp only [hdigest, if_false, if_pos hnodup]
  rfl

theorem mem_visibleSnapshots_of_publish (h : PublishesVisible scopeId visibility table input) :
    (input.projection (table.nextRevision input.scope)).stored ∈
      visibleSnapshots scopeId visibility (ProjectionTable.publish table input).2 := by
  rw [publish_of_publishesVisible h, mem_visibleSnapshots]
  refine ⟨h.1, _, ?_, rfl⟩
  rw [ProjectionTable.get_put]
  exact if_pos rfl

theorem not_mem_visibleSnapshots_nextRevision :
    (input.projection (table.nextRevision input.scope)).stored ∉
      visibleSnapshots scopeId visibility table := by
  intro hmem
  obtain ⟨-, row, hrow, hstored⟩ := mem_visibleSnapshots.mp hmem
  have hget : table.get input.scope = some row := hrow
  have hrevision : row.revision = table.nextRevision input.scope :=
    congrArg StoredSnapshot.revision hstored
  rw [ProjectionTable.nextRevision, hget] at hrevision
  exact Nat.succ_ne_self _ hrevision.symm

theorem visible_of_publish (h : PublishesVisible scopeId visibility table input)
    (hrow : snapshot ∈ visibleSnapshots scopeId visibility table) :
    snapshot ∈ visibleSnapshots scopeId visibility (ProjectionTable.publish table input).2 ∨
      snapshot.revision < table.nextRevision input.scope := by
  obtain ⟨hvisible, row, hget, rfl⟩ := mem_visibleSnapshots.mp hrow
  by_cases hscope : row.scope = input.scope
  · right
    have hcurrent : table.get input.scope = some row := hscope ▸ hget
    rw [ProjectionTable.nextRevision, hcurrent]
    exact Nat.lt_succ_self _
  · left
    rw [publish_of_publishesVisible h, mem_visibleSnapshots]
    refine ⟨hvisible, row, ?_, rfl⟩
    rw [ProjectionTable.get_put]
    exact (if_neg hscope).trans hget

theorem of_mem_visibleSnapshots_publish (h : PublishesVisible scopeId visibility table input)
    (hrow : snapshot ∈ visibleSnapshots scopeId visibility
      (ProjectionTable.publish table input).2) :
    snapshot ∈ visibleSnapshots scopeId visibility table ∨
      snapshot.revision = table.nextRevision input.scope := by
  rw [publish_of_publishesVisible h] at hrow
  obtain ⟨hvisible, row, hget, rfl⟩ := mem_visibleSnapshots.mp hrow
  rw [ProjectionTable.get_put] at hget
  split at hget
  · right
    rw [← Option.some.inj hget]
    rfl
  · exact .inl (mem_visibleSnapshots.mpr ⟨hvisible, row, hget, rfl⟩)

theorem maximumRevision_publish_mono (scopeId : JsString) (visibility : ActorVisibilityScope)
    (table : ProjectionTable) (input : PublishInput) :
    maximumRevision (visibleSnapshots scopeId visibility table) ≤
      maximumRevision (visibleSnapshots scopeId visibility
        (ProjectionTable.publish table input).2) := by
  by_cases h : PublishesVisible scopeId visibility table input
  · refine maximumRevision_le fun row hrow => ?_
    rcases visible_of_publish h hrow with hstays | hreplaced
    · exact revision_le_maximumRevision hstays
    · exact hreplaced.le.trans (revision_le_maximumRevision (mem_visibleSnapshots_of_publish h))
  · rw [visibleSnapshots_publish_of_not h]

end Publish

end DevHarness.Workbench
