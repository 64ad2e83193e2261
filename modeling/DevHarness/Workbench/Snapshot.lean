import Mathlib.Algebra.Ring.Int.Defs
import DevHarness.ControlPlane.Validation
import DevHarness.Text.Dates
import DevHarness.Text.Patterns
import DevHarness.Workbench.Contracts

/-!
# The snapshot of a project

`buildWorkbenchSnapshot` turns the facts of a project into tasks, metrics and counts.  What
it shows does not depend on the clock: the reference time is the latest timestamp among
the facts, and without any timestamp there is nothing to show.
-/

namespace DevHarness.Workbench

open JsText
open ControlPlane (GoalStatus Thrown plainError require)

/-- What the runtime provides: the arithmetic of doubles, the order and the calendar of its
locale, and the hash of a semantic snapshot. -/
structure Runtime extends Platform where
  isFinite : JsNumber → Bool
  add : JsNumber → JsNumber → JsNumber
  div : JsNumber → JsNumber → JsNumber
  less : JsNumber → JsNumber → Bool
  localeCompare : JsString → JsString → Ordering
  /-- The day of a date in Asia/Shanghai. -/
  dayKey : ℤ → JsString
  /-- The SHA-256 of the canonical JSON of summary and tasks. -/
  semanticHash : WorkbenchSummary → List GlobalTask → JsString

def integer (n : ℤ) (h : n.natAbs ≤ 9007199254740991) : JsNumber := .safeInteger n h

def includes (word text : JsString) : Bool :=
  text.tails.any fun rest => word.isPrefixOf rest

/-! ## One task -/

def timestamps (facts : WorkbenchProjectionFacts) : List ℤ :=
  facts.goals.flatMap (fun fact => [fact.createdAt, fact.updatedAt]) ++
    facts.issues.flatMap (fun fact => [fact.createdAt, fact.updatedAt]) ++
    facts.runs.flatMap
      (fun fact => fact.updatedAt :: fact.startedAt.toList ++ fact.finishedAt.toList) ++
    facts.schedulerJobs.flatMap (fun fact => [fact.createdAt, fact.updatedAt]) ++
    facts.dependencies.map (fun fact => fact.createdAt) ++
    facts.nodes.map (fun fact => fact.updatedAt) ++
    facts.leases.map (fun fact => fact.heartbeatAt) ++
    facts.controls.map (fun fact => fact.updatedAt) ++
    facts.evidenceCounts.map (fun fact => fact.updatedAt) ++
    facts.deliveryEvidence.map (fun fact => fact.updatedAt)

def workbenchFactsWatermark (facts : WorkbenchProjectionFacts) (fallback : ℤ) : ℤ :=
  (((timestamps facts).insertionSort fun left right => right ≤ left).head?).getD fallback

def latestBy {α : Type} (timestamp : α → ℤ) (values : List α) : Option α :=
  (values.insertionSort fun left right => timestamp right ≤ timestamp left).head?

def secondsSince (start finish : ℤ) : ℕ :=
  ((finish - start) / 1000).toNat

def priorityFor : Option SchedulerJobProjectionFact → TaskPriority
  | none => .p0
  | some job => if job.priority ≤ 33 then .p0 else if job.priority ≤ 66 then .p1 else .p2

section Task

variable (runtime : Runtime)

/-- `job?.phase.toLowerCase().includes(word)`. -/
def phaseIncludes (job : Option SchedulerJobProjectionFact) (word : String) : Bool :=
  job.any fun job => includes (js word) (runtime.toLowerCase job.phase)

def stageFor (issue : IssueProjectionFact) (run : Option RunProjectionFact)
    (job : Option SchedulerJobProjectionFact) : TaskStage :=
  if issue.status = .blocked ∨ run.map (·.status) = some .failed ∨
      job.map (·.state) = some .blocked ∨ job.map (·.state) = some .failed then .blocked
  else if phaseIncludes runtime job "review" ∨ phaseIncludes runtime job "verify" then .review
  else if run.map (·.status) = some .running ∨ issue.status = .inProgress ∨
      job.map (·.state) ∈ [some .claimed, some .starting, some .running] then .running
  else .waiting

def progressFor (issue : IssueProjectionFact) (run : Option RunProjectionFact)
    (job : Option SchedulerJobProjectionFact) : ℕ :=
  if issue.status = .completed ∨ run.map (·.status) = some .succeeded ∨
      job.map (·.state) = some .succeeded then 100
  else if phaseIncludes runtime job "landing" then 95
  else if phaseIncludes runtime job "review" then 90
  else if phaseIncludes runtime job "verify" then 80
  else if run.map (·.status) = some .running ∨ job.map (·.state) = some .running then 55
  else if job.map (·.state) ∈ [some .claimed, some .starting] then 35
  else if issue.status = .inProgress ∨ issue.status = .blocked then 30
  else if issue.status = .ready then 20
  else if issue.status = .approved then 10
  else 0

def conflictKeys (job : Option SchedulerJobProjectionFact) : List JsString :=
  match job.bind fun job => job.budget.get (js "conflictKeys") with
  | some (.array keys) => keys.filterMap fun key =>
    match key with
    | .string text => if 0 < text.length then some text else none
    | _ => none
  | _ => []

def holdsBack (generatedAt : ℤ) (control : ExecutionControlProjectionFact) : Bool :=
  control.state ≠ .active || control.circuitOpenUntil.any fun until' => generatedAt < until'

def ControlState.text : ControlState → JsString
  | .active => js "active"
  | .paused => js "paused"
  | .draining => js "draining"
  | .stopped => js "stopped"

/-- `String(n)`. -/
def count (n : ℕ) : JsString := js (toString n)

/-- `left || right` of texts. -/
def orElse (left : Option JsString) (right : JsString) : JsString :=
  match left with
  | some (u :: rest) => u :: rest
  | _ => right

/-- What the facts say about one issue. -/
structure IssueContext where
  run : Option RunProjectionFact
  job : Option SchedulerJobProjectionFact
  stage : TaskStage
  dependencies : List IssueDependencyProjectionFact
  control : Option ExecutionControlProjectionFact
  node : Option ExecutionNodeProjectionFact

def issueContext (issue : IssueProjectionFact) (facts : WorkbenchProjectionFacts)
    (generatedAt : ℤ) : IssueContext :=
  let run := latestBy (·.updatedAt) (facts.runs.filter fun run => run.issueId = issue.id)
  let job := latestBy (·.updatedAt)
    (facts.schedulerJobs.filter fun job => job.issueId = issue.id)
  { run := run
    job := job
    stage := stageFor runtime issue run job
    dependencies := facts.dependencies.filter fun dependency => dependency.issueId = issue.id
    control := facts.controls.find? (holdsBack generatedAt)
    node := (job.bind (·.nodeId)).bind fun nodeId =>
      if nodeId = [] then none else facts.nodes.find? fun node => node.id = nodeId }

namespace IssueContext

variable (context : IssueContext) (issue : IssueProjectionFact) (generatedAt : ℤ)

def reconciliation : Bool := context.job.map (·.state) = some .reconciling

def required : Bool :=
  context.stage = .blocked || context.reconciliation || context.control.isSome

def blocking : Bool :=
  context.stage = .blocked || context.control.map (·.state) = some .stopped

/-- `run?.startedAt ?? job?.createdAt ?? issue.createdAt`. -/
def waitingFrom : ℤ :=
  match context.run.bind (·.startedAt) with
  | some startedAt => startedAt
  | none => (context.job.map (·.createdAt)).getD issue.createdAt

def waitingSeconds : Option ℕ :=
  if context.stage = .blocked ∨ context.stage = .waiting then
    some (secondsSince (context.waitingFrom issue) generatedAt)
  else none

def blockedTaskCount : ℕ :=
  (context.dependencies.filter fun dependency => !dependency.satisfied).length +
    (conflictKeys context.job).length

def rankingReason : JsString :=
  join (js " · ")
    [match context.job.map (·.deadlineAt) with
      | some dueAt => js "截止 " ++ toISOString dueAt
      | none => js "无明确截止时间",
    if 0 < context.blockedTaskCount then
      js "阻塞影响 " ++ count context.blockedTaskCount ++ js " 项"
    else js "无下游阻塞",
    match context.waitingSeconds issue generatedAt with
      | some seconds => js "已等待 " ++ count seconds ++ js " 秒"
      | none => js "正在推进"]

def status : TaskStatus :=
  match context.stage with
  | .blocked =>
    { code := (context.job.bind (·.failureCode)).getD (js "blocked")
      label := js "阻塞"
      tone := .danger }
  | .review => { code := js "review", label := js "Review", tone := .warning }
  | .running =>
    { code := orElse (context.job.map (·.phase)) (js "running")
      label := js "执行中"
      tone := .info }
  | .waiting =>
    { code := if context.reconciliation then js "reconciling" else js "waiting"
      label := if context.reconciliation then js "恢复核对" else js "等待"
      tone := .neutral }

def action : TaskAction :=
  match context.stage with
  | .blocked => ⟨.resolveBlocker, js "处理阻塞", true, .operator, none⟩
  | .review => ⟨.reviewEvidence, js "审查证据", true, .approver, none⟩
  | .running => ⟨.inspectRun, js "查看执行", true, .viewer, some .run⟩
  | .waiting => ⟨.inspectSchedule, js "查看调度", true, .viewer, some .scheduler⟩

def headline : JsString :=
  if context.required then
    (context.job.bind (·.failureReason)).getD
      (match context.control with
        | some control => js "执行控制为 " ++ control.state.text
        | none => js "调度状态需要人工确认")
  else js "任务正常推进"

def attention : TaskAttention where
  required := context.required
  count := if context.required then max 1 context.blockedTaskCount else 0
  severity :=
    if context.required then if context.blocking then .blocking else .warning else .none
  headline := context.headline
  rankingReason := context.rankingReason issue generatedAt
  impact :=
    if context.required then
      js "影响 " ++ issue.issueKey ++ js " 及 " ++ count context.blockedTaskCount ++
        js " 项依赖或冲突"
    else issue.issueKey ++ js " 正按权威调度状态推进"
  dueAt := context.job.map (·.deadlineAt)
  waitingSeconds := context.waitingSeconds issue generatedAt
  blockedTaskCount := some context.blockedTaskCount

def nextCheckpoint : JsString :=
  if context.stage = .blocked then js "解除阻塞后重新调度"
  else orElse (context.job.map (·.phase))
    (if context.stage = .waiting then js "等待领取" else js "同步执行状态")

def execution : TaskExecutionContext where
  actorType := if context.node.isSome then .worker else .scheduler
  actorId := context.node.map (·.name)
  actorLabel := (context.node.map (·.name)).getD (js "Scheduler")
  elapsedSeconds := secondsSince (context.waitingFrom issue) generatedAt
  nextCheckpoint := context.nextCheckpoint

def dependencyText : JsString :=
  if 0 < context.dependencies.length then
    join (js " · ") (context.dependencies.map fun dependency =>
      dependency.dependsOnIssueKey ++ js (if dependency.satisfied then " 已完成" else " 未完成"))
  else js "无前置依赖"

def workspace : JsString :=
  match context.node with
  | some node => js "执行节点 " ++ node.name
  | none => js "未分配隔离工作区"

end IssueContext

def issueTask (issue : IssueProjectionFact) (facts : WorkbenchProjectionFacts)
    (generatedAt : ℤ) : GlobalTask :=
  let context := issueContext runtime issue facts generatedAt
  let evidenceCount :=
    ((facts.evidenceCounts.find? fun entry => entry.issueId = issue.id).map (·.count)).getD 0
  { id := issue.goalId ++ js ":" ++ issue.issueKey
    version := issue.version + (context.run.map (·.version)).getD 0 +
      (context.job.map (·.version)).getD 0
    goalId := issue.goalId
    title := issue.title
    kind := .issue
    priority := priorityFor context.job
    stage := context.stage
    status := context.status
    progress :=
      { percent := progressFor runtime issue context.run context.job
        updatedAt := (latestBy id (issue.updatedAt :: (context.run.map (·.updatedAt)).toList ++
          (context.job.map (·.updatedAt)).toList)).getD issue.updatedAt }
    attention := context.attention issue generatedAt
    execution := context.execution issue generatedAt
    action := context.action
    detail :=
      { dependency := context.dependencyText
        evidence := count evidenceCount ++ js " 项持久化证据"
        workspace := context.workspace }
    deliveryEvidence :=
      (facts.deliveryEvidence.find? fun entry => entry.issueId = issue.id).map (·.summary) }

end Task

def goalStatusText : GoalStatus → JsString
  | .draft => js "draft"
  | .clarifying => js "clarifying"
  | .planning => js "planning"
  | .approved => js "approved"
  | .executing => js "executing"
  | .verifying => js "verifying"
  | .completed => js "completed"
  | .cancelled => js "cancelled"

def goalGateTask (goal : GoalProjectionFact) (generatedAt : ℤ) : GlobalTask :=
  let review : Bool := goal.status = .verifying
  let seconds := secondsSince goal.updatedAt generatedAt
  { id := goal.id ++ js ":GOAL"
    version := goal.version
    goalId := goal.id
    title := goal.title
    kind := .gate
    priority := .p0
    stage := if review then .review else .waiting
    status :=
      { code := goalStatusText goal.status
        label := if review then js "等待验收" else js "等待门禁"
        tone := .warning }
    progress :=
      { percent := if review then 95 else if goal.status = .approved then 25 else 10
        updatedAt := goal.updatedAt }
    attention :=
      { required := true
        count := 1
        severity := .warning
        headline :=
          if review then js "Goal 验收待人工确认"
          else js "Goal 仍处于 " ++ goalStatusText goal.status ++ js " 门禁"
        rankingReason := js "门禁等待 " ++ count seconds ++ js " 秒"
        impact := js "未通过门禁前不会进入下一执行阶段"
        dueAt := none
        waitingSeconds := some seconds
        blockedTaskCount := some 1 }
    execution :=
      { actorType := .role
        actorId := none
        actorLabel := if review then js "Goal Approver" else js "Goal Planner"
        elapsedSeconds := seconds
        nextCheckpoint := if review then js "确认验收证据" else js "完成当前 Goal 门禁" }
    action :=
      if review then ⟨.reviewEvidence, js "审查证据", true, .approver, some .verify⟩
      else ⟨.answerQuestions, js "处理门禁", true, .approver, some .clarify⟩
    detail :=
      { dependency := js "Goal v" ++ count goal.version
        evidence := js "等待领域门禁证据"
        workspace := js "Goal Workspace" }
    deliveryEvidence := none }

/-! ## The snapshot -/

def priorityRank : TaskPriority → ℕ
  | .p0 => 0
  | .p1 => 1
  | .p2 => 2

def compareDue : Option ℤ → Option ℤ → Ordering
  | none, none => .eq
  | none, some _ => .gt
  | some _, none => .lt
  | some left, some right => compare left right

section Snapshot

variable (runtime : Runtime)

def compareGlobalTasks (left right : GlobalTask) : Ordering :=
  (compare right.attention.required left.attention.required).then
    ((compare (priorityRank left.priority) (priorityRank right.priority)).then
      ((compareDue left.attention.dueAt right.attention.dueAt).then
        ((compare (right.attention.blockedTaskCount.getD 0)
            (left.attention.blockedTaskCount.getD 0)).then
          ((compare (right.attention.waitingSeconds.getD 0)
              (left.attention.waitingSeconds.getD 0)).then
            (runtime.localeCompare left.id right.id)))))

def numeric : Option Json → Option JsNumber
  | some (.number n) =>
    if runtime.isFinite n ∧ runtime.less n (integer 0 (by decide)) = false then some n else none
  | _ => none

def budgetTotal (field : String) (jobs : List SchedulerJobProjectionFact) : JsNumber :=
  jobs.foldl (fun total job =>
    runtime.add total
      ((numeric runtime (job.budget.get (js field))).getD (integer 0 (by decide))))
    (integer 0 (by decide))

def budgetHealth (tokensUsed tokenLimit : JsNumber) : JsString :=
  let zero := integer 0 (by decide)
  let ratio := if runtime.less zero tokenLimit then runtime.div tokensUsed tokenLimit else zero
  if runtime.less (integer 1 (by decide)) ratio then js "超限"
  else if runtime.less ratio (.other (js "0.85") (by decide)) = false then js "告警"
  else js "健康"

def metrics (facts : WorkbenchProjectionFacts) (tasks : List GlobalTask) (generatedAt : ℤ) :
    List WorkbenchMetric :=
  let activeNodeIds := ((facts.leases.filter fun lease =>
    lease.status = .active ∧ generatedAt < lease.expiresAt).map (·.nodeId)).dedup
  let onlineNodes := facts.nodes.filter fun node =>
    node.status = .online ∧ generatedAt < node.offlineAfter
  let capacity := (onlineNodes.map fun node => max 0 node.maxConcurrentRuns).sum
  let completedToday := (facts.runs.filter fun run =>
    run.status = .succeeded ∧ run.finishedAt.any fun finishedAt =>
      runtime.dayKey finishedAt = runtime.dayKey generatedAt).length
  let tokensUsed := budgetTotal runtime "tokensUsed" facts.schedulerJobs
  let tokenLimit := budgetTotal runtime "tokenLimit" facts.schedulerJobs
  let health := budgetHealth runtime tokensUsed tokenLimit
  let attention := (tasks.filter fun task => task.attention.required).length
  let running := (tasks.filter fun task => task.stage = .running).length
  let blocked := (tasks.filter fun task => task.stage = .blocked).length
  [{ id := .attention
     label := js "需处理"
     value := count attention
     suffix := none
     detail := js "权威门禁与阻塞"
     tone := some (if 0 < attention then .danger else .default)
     targetFilter := some .attention
     targetView := none },
    { id := .running
      label := js "执行中"
      value := count running
      suffix := none
      detail := js "Run / Scheduler 正在推进"
      tone := none
      targetFilter := some .running
      targetView := none },
    { id := .activeWorkers
      label := js "活跃 Worker"
      value := count activeNodeIds.length
      suffix := some (js "/" ++ js (toString capacity))
      detail := js "有效 lease / 在线容量"
      tone := none
      targetFilter := none
      targetView := some .scheduler },
    { id := .blocked
      label := js "阻塞"
      value := count blocked
      suffix := none
      detail := js "领域或调度阻塞"
      tone := some (if 0 < blocked then .danger else .default)
      targetFilter := some .blocked
      targetView := none },
    { id := .completedToday
      label := js "今日完成"
      value := count completedToday
      suffix := none
      detail := js "Asia/Shanghai 成功 Run"
      tone := some (if 0 < completedToday then .success else .default)
      targetFilter := none
      targetView := none },
    { id := .budgetHealth
      label := js "预算健康"
      value := health
      suffix := none
      detail :=
        if runtime.less (integer 0 (by decide)) tokenLimit then
          tokensUsed.toText ++ js "/" ++ tokenLimit.toText ++ js " tokens"
        else js "尚无预算消耗"
      tone := some (if health = js "健康" then .success else .danger)
      targetFilter := none
      targetView := some .scheduler }]

def taskCounts (tasks : List GlobalTask) : TaskFilterCounts where
  all := tasks.length
  attention := (tasks.filter fun task => task.attention.required).length
  running := (tasks.filter fun task => task.stage = .running).length
  review := (tasks.filter fun task => task.stage = .review).length
  blocked := (tasks.filter fun task => task.stage = .blocked).length
  waiting := (tasks.filter fun task => task.stage = .waiting).length

def snapshotTasks (facts : WorkbenchProjectionFacts) (generatedAt : ℤ) : List GlobalTask :=
  ((facts.issues.filter fun issue => issue.status ∉ [.completed, .cancelled]).map
      (fun issue => issueTask runtime issue facts generatedAt) ++
    (facts.goals.filter fun goal => goal.status ∉ [.executing, .completed, .cancelled]).map
      fun goal => goalGateTask goal generatedAt).insertionSort
    fun left right => compareGlobalTasks runtime left right ≠ .gt

def snapshotSummary (facts : WorkbenchProjectionFacts) (generatedAt : ℤ) : WorkbenchSummary :=
  let tasks := snapshotTasks runtime facts generatedAt
  { metrics := metrics runtime facts tasks generatedAt
    taskCounts := taskCounts tasks }

/-- The reference time is a `Date`, so its text can be parsed. -/
def buildWorkbenchSnapshot (facts : WorkbenchProjectionFacts) (revision : ℕ)
    (generatedAt : ℤ) : Except Thrown WorkbenchSnapshot := do
  require (revision ≤ 9007199254740991)
    (plainError (js "Workbench revision must be a non-negative safe integer"))
  pure
    { revision := revision
      generatedAt := generatedAt
      summary := snapshotSummary runtime facts generatedAt
      tasks := snapshotTasks runtime facts generatedAt }

def workbenchSemanticDigest (snapshot : WorkbenchSnapshot) : JsString :=
  runtime.semanticHash snapshot.summary snapshot.tasks

/-! ## The clock -/

variable {runtime : Runtime} {facts : WorkbenchProjectionFacts}

theorem facts_of_timestamps (h : timestamps facts = []) :
    facts.goals = [] ∧ facts.issues = [] ∧ facts.runs = [] ∧ facts.schedulerJobs = [] ∧
      facts.nodes = [] ∧ facts.leases = [] := by
  simp only [timestamps, List.append_eq_nil_iff, List.flatMap_eq_nil_iff, List.map_eq_nil_iff,
    List.cons_ne_nil, imp_false] at h
  obtain ⟨⟨⟨⟨⟨⟨⟨⟨⟨hgoals, hissues⟩, hruns⟩, hjobs⟩, -⟩, hnodes⟩, hleases⟩, -⟩, -⟩, -⟩ := h
  refine ⟨?_, ?_, ?_, ?_, hnodes, hleases⟩
  · exact List.eq_nil_iff_forall_not_mem.mpr hgoals
  · exact List.eq_nil_iff_forall_not_mem.mpr hissues
  · exact List.eq_nil_iff_forall_not_mem.mpr fun run hrun => (hruns run hrun).1.elim
  · exact List.eq_nil_iff_forall_not_mem.mpr hjobs

theorem watermark_cases (facts : WorkbenchProjectionFacts) :
    (∀ now now', workbenchFactsWatermark facts now = workbenchFactsWatermark facts now') ∨
      timestamps facts = [] := by
  cases htimes : timestamps facts with
  | nil => exact .inr rfl
  | cons time times =>
      refine .inl fun now now' => ?_
      unfold workbenchFactsWatermark
      have hne : ((timestamps facts).insertionSort fun left right => right ≤ left) ≠ [] := by
        intro hnil
        have hlength := List.length_insertionSort (fun left right : ℤ => right ≤ left)
          (timestamps facts)
        rw [hnil, htimes] at hlength
        cases hlength
      obtain ⟨first, rest, hsorted⟩ := List.exists_cons_of_ne_nil hne
      rw [hsorted]
      rfl

theorem snapshotTasks_of_timestamps (h : timestamps facts = []) (generatedAt : ℤ) :
    snapshotTasks runtime facts generatedAt = [] := by
  obtain ⟨hgoals, hissues, -⟩ := facts_of_timestamps h
  rw [snapshotTasks, hgoals, hissues]
  rfl

theorem snapshotSummary_of_timestamps (h : timestamps facts = []) (time time' : ℤ) :
    snapshotSummary runtime facts time = snapshotSummary runtime facts time' := by
  obtain ⟨-, -, hruns, hjobs, hnodes, hleases⟩ := facts_of_timestamps h
  simp only [snapshotSummary, snapshotTasks_of_timestamps h, metrics, hruns, hjobs, hnodes,
    hleases, List.filter_nil]

def shownDigest (runtime : Runtime) (facts : WorkbenchProjectionFacts) (now : ℤ) : JsString :=
  let generatedAt := workbenchFactsWatermark facts now
  runtime.semanticHash (snapshotSummary runtime facts generatedAt)
    (snapshotTasks runtime facts generatedAt)

theorem shownDigest_eq (runtime : Runtime) (facts : WorkbenchProjectionFacts) (now now' : ℤ) :
    shownDigest runtime facts now = shownDigest runtime facts now' := by
  simp only [shownDigest]
  rcases watermark_cases facts with hsame | hnone
  · rw [hsame now now']
  · rw [snapshotTasks_of_timestamps hnone, snapshotTasks_of_timestamps hnone,
      snapshotSummary_of_timestamps hnone (workbenchFactsWatermark facts now)
        (workbenchFactsWatermark facts now')]

theorem digest_of_build {revision : ℕ} {now : ℤ} {snapshot : WorkbenchSnapshot}
    (h : buildWorkbenchSnapshot runtime facts revision (workbenchFactsWatermark facts now) =
      .ok snapshot) :
    workbenchSemanticDigest runtime snapshot = shownDigest runtime facts now := by
  simp only [buildWorkbenchSnapshot, ControlPlane.bind_eq_ok, pure, Except.pure] at h
  obtain ⟨-, -, hsnapshot⟩ := h
  rw [← Except.ok.inj hsnapshot]
  rfl

end Snapshot

end DevHarness.Workbench
