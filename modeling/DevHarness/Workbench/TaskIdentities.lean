import DevHarness.ControlPlane.GoalWorkspace
import DevHarness.ControlPlane.IssuePlanDraft
import DevHarness.Workbench.Staleness

/-!
# The identities of tasks

The task of an issue is named by its goal and its key, the gate of a goal by the goal and the
word `GOAL`.  The word is itself a key that an issue may have.
-/

namespace DevHarness.Workbench

open JsText
open ControlPlane (GoalStatus goalTransitions isIssueKey)

/-! ## Writes -/

structure IssueTransition where
  source : IssueStatus
  target : IssueStatus

/-- The edges of `issueStateMachine`. -/
def issueTransitions : List IssueTransition :=
  [⟨.draft, .approved⟩, ⟨.approved, .ready⟩, ⟨.ready, .inProgress⟩, ⟨.inProgress, .blocked⟩,
    ⟨.blocked, .ready⟩, ⟨.inProgress, .completed⟩] ++
  [IssueStatus.draft, .approved, .ready, .inProgress, .blocked].map fun status =>
    ⟨status, .cancelled⟩

/-- A goal is edited, or it is moved along an edge of its state machine. -/
def GoalRow.MayBecome (row next : GoalRow) : Prop :=
  next.project = row.project ∧ next.id = row.id ∧
    (next.status = row.status ∨
      ∃ transition ∈ goalTransitions, transition.source = row.status ∧
        transition.target = next.status)

def IssueRow.MayBecome (row next : IssueRow) : Prop :=
  next.project = row.project ∧ next.id = row.id ∧ next.goalId = row.goalId ∧
    next.issueKey = row.issueKey ∧ next.revision = row.revision ∧
    (next.status = row.status ∨
      ∃ transition ∈ issueTransitions, transition.source = row.status ∧
        transition.target = next.status)

/-- The columns of `issues_goal_key_revision_uidx`. -/
def IssueRow.revisionKey (row : IssueRow) : ProjectKey × JsString × JsString × ℕ :=
  (row.project, row.goalId, row.issueKey, row.revision)

/-- What one write of the services does to the tables, up to what the other tables hold.  An
issue is of a goal of its project, and its key is one that `validateIssuePlanDraft` accepts;
`issues_identity_chk` asks for the same. -/
inductive TableWrite : AuthoritativeTables → AuthoritativeTables → Prop
  | createGoal {tables : AuthoritativeTables} (row : GoalRow)
      (fresh : row.id ∉ tables.goals.map (·.id)) (draft : row.status = .draft) :
      TableWrite tables { tables with goals := tables.goals ++ [row] }
  | updateGoal {tables : AuthoritativeTables} (update : GoalRow → GoalRow)
      (allowed : ∀ row ∈ tables.goals, row.MayBecome (update row)) :
      TableWrite tables { tables with goals := tables.goals.map update }
  | createIssue {tables : AuthoritativeTables} (row : IssueRow)
      (fresh : row.id ∉ tables.issues.map (·.id))
      (goal : ∃ goal ∈ tables.goals, goal.id = row.goalId ∧ goal.project = row.project)
      (key : isIssueKey row.issueKey = true ∧ row.issueKey.length ≤ 64)
      (revision : row.revisionKey ∉ tables.issues.map IssueRow.revisionKey)
      (draft : row.status = .draft) :
      TableWrite tables { tables with issues := tables.issues ++ [row] }
  | updateIssue {tables : AuthoritativeTables} (update : IssueRow → IssueRow)
      (allowed : ∀ row ∈ tables.issues, row.MayBecome (update row)) :
      TableWrite tables { tables with issues := tables.issues.map update }
  | other {tables next : AuthoritativeTables} (goals : next.goals = tables.goals)
      (issues : next.issues = tables.issues) : TableWrite tables next

/-- The tables that writes lead to from empty ones. -/
def Written (tables : AuthoritativeTables) : Prop :=
  Relation.ReflTransGen TableWrite .empty tables

/-- What `loadFacts` has read: its queries need not see the same moment. -/
structure LoadedFacts (scope : WorkbenchProjectionScope) where
  facts : WorkbenchProjectionFacts
  goalTables : AuthoritativeTables
  issueTables : AuthoritativeTables
  goals_written : Written goalTables
  issues_written : Written issueTables
  goals_read : facts.goals = goalTables.goalFacts scope
  issues_read : facts.issues = issueTables.issueFacts scope

def LoadedFacts.ofTables (tables : AuthoritativeTables) (scope : WorkbenchProjectionScope)
    (written : Written tables) : LoadedFacts scope where
  facts := tables.loadFacts scope
  goalTables := tables
  issueTables := tables
  goals_written := written
  issues_written := written
  goals_read := rfl
  issues_read := rfl

variable {scope : WorkbenchProjectionScope} {runtime : Runtime}

section Written

variable {tables next : AuthoritativeTables}

/-- The ids of goals differ, and the keys of issues are accepted. -/
structure WellKept (tables : AuthoritativeTables) : Prop where
  goals : (tables.goals.map (·.id)).Nodup
  keys : ∀ row ∈ tables.issues, isIssueKey row.issueKey = true

theorem WellKept.write (h : WellKept tables) (hwrite : TableWrite tables next) :
    WellKept next := by
  cases hwrite with
  | createGoal row fresh draft =>
      refine ⟨?_, h.keys⟩
      rw [List.map_append]
      exact h.goals.append (List.nodup_singleton _) (List.disjoint_singleton.mpr fresh)
  | updateGoal update allowed =>
      refine ⟨?_, h.keys⟩
      have hids : (tables.goals.map update).map (·.id) = tables.goals.map (·.id) := by
        rw [List.map_map]
        exact List.map_congr_left fun row hrow => (allowed row hrow).2.1
      rw [hids]
      exact h.goals
  | createIssue row fresh goal key revision draft =>
      refine ⟨h.goals, ?_⟩
      intro other hother
      rcases List.mem_append.mp hother with hold | hnew
      · exact h.keys other hold
      · rw [List.mem_singleton.mp hnew]
        exact key.1
  | updateIssue update allowed =>
      refine ⟨h.goals, ?_⟩
      intro other hother
      obtain ⟨row, hrow, rfl⟩ := List.mem_map.mp hother
      rw [(allowed row hrow).2.2.2.1]
      exact h.keys row hrow
  | other goals issues =>
      refine ⟨?_, ?_⟩
      · rw [goals]
        exact h.goals
      · rw [issues]
        exact h.keys

theorem wellKept_of_written (h : Written tables) : WellKept tables := by
  induction h with
  | refl => exact ⟨List.nodup_nil, fun row hrow => by cases hrow⟩
  | tail _ hwrite ih => exact ih.write hwrite

theorem nodup_goalFacts (h : WellKept tables) : ((tables.goalFacts scope).map (·.id)).Nodup := by
  rw [AuthoritativeTables.goalFacts, List.map_map]
  have hperm := Sql.perm_orderBy (Sql.byKey (units ·.id))
    (tables.goals.filter fun row => row.project = scope.project)
  apply (hperm.map _).nodup_iff.mpr
  exact h.goals.sublist (List.filter_sublist.map _)

theorem nodup_issueFacts :
    ((tables.issueFacts scope).map fun issue => (issue.goalId, issue.issueKey)).Nodup := by
  rw [AuthoritativeTables.issueFacts, List.map_map]
  exact Sql.nodup_distinctOn _ _

theorem isIssueKey_of_mem_issueFacts (h : WellKept tables) {issue : IssueProjectionFact}
    (hissue : issue ∈ tables.issueFacts scope) : isIssueKey issue.issueKey = true := by
  obtain ⟨row, hrow, rfl⟩ := List.mem_map.mp hissue
  have hmem := Sql.mem_orderBy.mp (Sql.mem_of_distinctOn hrow)
  exact h.keys row (List.mem_filter.mp hmem).1

end Written

/-! ## Names -/

theorem append_colon_inj {a b k l : JsString} (hk : 0x3A ∉ k) (hl : 0x3A ∉ l)
    (h : a ++ 0x3A :: k = b ++ 0x3A :: l) : a = b ∧ k = l := by
  rcases List.append_eq_append_iff.mp h with ⟨c, rfl, hc⟩ | ⟨c, rfl, hc⟩
  · cases c with
    | nil => exact ⟨(List.append_nil a).symm, (List.cons.inj hc).2⟩
    | cons u c =>
        have hmem : 0x3A ∈ k := by
          rw [(List.cons.inj hc).2]
          exact List.mem_append_right c List.mem_cons_self
        exact absurd hmem hk
  · cases c with
    | nil => exact ⟨List.append_nil b, (List.cons.inj hc).2.symm⟩
    | cons u c =>
        have hmem : 0x3A ∈ l := by
          rw [(List.cons.inj hc).2]
          exact List.mem_append_right c List.mem_cons_self
        exact absurd hmem hl

theorem colon_not_mem_of_isIssueKey {key : JsString} (h : isIssueKey key = true) :
    0x3A ∉ key := by
  cases key with
  | nil => exact List.not_mem_nil
  | cons first rest =>
      simp only [isIssueKey, Bool.decide_and, Bool.and_eq_true, decide_eq_true_eq] at h
      obtain ⟨hfirst, hrest⟩ := h
      intro hmem
      rcases List.mem_cons.mp hmem with hhead | htail
      · subst hhead
        exact absurd hfirst.1 (by decide)
      · exact absurd (hrest 0x3A htail) (by decide)

def gateKey : JsString := js "GOAL"

theorem isIssueKey_gateKey : isIssueKey gateKey = true := by
  decide

def taskIdOf (goalId key : JsString) : JsString :=
  goalId ++ 0x3A :: key

theorem taskIdOf_inj {goalId goalId' key key' : JsString} (hkey : isIssueKey key = true)
    (hkey' : isIssueKey key' = true) :
    taskIdOf goalId key = taskIdOf goalId' key' ↔ goalId = goalId' ∧ key = key' := by
  constructor
  · exact append_colon_inj (colon_not_mem_of_isIssueKey hkey) (colon_not_mem_of_isIssueKey hkey')
  · rintro ⟨rfl, rfl⟩
    rfl

def IssueProjectionFact.open (issue : IssueProjectionFact) : Bool :=
  issue.status ∉ [.completed, .cancelled]

def GoalProjectionFact.gated (goal : GoalProjectionFact) : Bool :=
  goal.status ∉ [.executing, .completed, .cancelled]

section Names

variable {facts : WorkbenchProjectionFacts} {generatedAt : ℤ}

theorem issueTask_id (issue : IssueProjectionFact) :
    (issueTask runtime issue facts generatedAt).id = taskIdOf issue.goalId issue.issueKey := by
  rw [issueTask, taskIdOf, List.append_assoc]
  rfl

theorem perm_taskIds : ((snapshotTasks runtime facts generatedAt).map (·.id)).Perm
    ((facts.issues.filter (·.open)).map (fun issue => taskIdOf issue.goalId issue.issueKey) ++
      (facts.goals.filter (·.gated)).map fun goal => taskIdOf goal.id gateKey) := by
  rw [snapshotTasks]
  refine ((List.perm_insertionSort _ _).map _).trans (List.Perm.of_eq ?_)
  rw [List.map_append, List.map_map, List.map_map]
  congr 1
  exact List.map_congr_left fun issue _ => issueTask_id issue

end Names

/-! ## The key of the gate -/

/-- An open issue of a goal that has a gate is keyed like the gate. -/
def GateKeyTaken (facts : WorkbenchProjectionFacts) : Prop :=
  ∃ issue ∈ facts.issues, issue.open = true ∧ issue.issueKey = gateKey ∧
    ∃ goal ∈ facts.goals, goal.gated = true ∧ goal.id = issue.goalId

section Loaded

variable (loaded : LoadedFacts scope)

theorem LoadedFacts.isIssueKey {issue : IssueProjectionFact}
    (hissue : issue ∈ loaded.facts.issues) : isIssueKey issue.issueKey = true := by
  rw [loaded.issues_read] at hissue
  exact isIssueKey_of_mem_issueFacts (wellKept_of_written loaded.issues_written) hissue

theorem LoadedFacts.nodup_issueIds : ((loaded.facts.issues.filter (·.open)).map
    fun issue => taskIdOf issue.goalId issue.issueKey).Nodup := by
  have hpairs : (loaded.facts.issues.map fun issue => (issue.goalId, issue.issueKey)).Nodup := by
    rw [loaded.issues_read]
    exact nodup_issueFacts
  apply List.Nodup.sublist (List.filter_sublist.map _)
  rw [List.Nodup, List.pairwise_map] at hpairs ⊢
  refine hpairs.imp_of_mem ?_
  intro issue other hissue hother hne heq
  obtain ⟨hgoal, hkey⟩ :=
    (taskIdOf_inj (loaded.isIssueKey hissue) (loaded.isIssueKey hother)).mp heq
  exact hne (Prod.ext hgoal hkey)

theorem LoadedFacts.nodup_gateIds : ((loaded.facts.goals.filter (·.gated)).map
    fun goal => taskIdOf goal.id gateKey).Nodup := by
  have hids : (loaded.facts.goals.map (·.id)).Nodup := by
    rw [loaded.goals_read]
    exact nodup_goalFacts (wellKept_of_written loaded.goals_written)
  apply List.Nodup.sublist (List.filter_sublist.map _)
  rw [List.Nodup, List.pairwise_map] at hids ⊢
  refine hids.imp ?_
  intro goal other hne heq
  exact hne ((taskIdOf_inj isIssueKey_gateKey isIssueKey_gateKey).mp heq).1

theorem LoadedFacts.disjoint_iff :
    List.Disjoint
        ((loaded.facts.issues.filter (·.open)).map fun issue =>
          taskIdOf issue.goalId issue.issueKey)
        ((loaded.facts.goals.filter (·.gated)).map fun goal => taskIdOf goal.id gateKey) ↔
      ¬ GateKeyTaken loaded.facts := by
  constructor
  · rintro hdisjoint ⟨issue, hissue, hopen, hkey, goal, hgoal, hgated, hid⟩
    have hleft := List.mem_map_of_mem (f := fun issue : IssueProjectionFact =>
      taskIdOf issue.goalId issue.issueKey) (List.mem_filter.mpr ⟨hissue, hopen⟩)
    have hright := List.mem_map_of_mem (f := fun goal : GoalProjectionFact =>
      taskIdOf goal.id gateKey) (List.mem_filter.mpr ⟨hgoal, hgated⟩)
    rw [hkey] at hleft
    rw [hid] at hright
    exact hdisjoint hleft hright
  · intro htaken id hleft hright
    obtain ⟨issue, hissue, rfl⟩ := List.mem_map.mp hleft
    obtain ⟨goal, hgoal, heq⟩ := List.mem_map.mp hright
    obtain ⟨hissueMem, hopen⟩ := List.mem_filter.mp hissue
    obtain ⟨hgoalMem, hgated⟩ := List.mem_filter.mp hgoal
    obtain ⟨hid, hkey⟩ :=
      (taskIdOf_inj isIssueKey_gateKey (loaded.isIssueKey hissueMem)).mp heq
    exact htaken ⟨issue, hissueMem, hopen, hkey.symm, goal, hgoalMem, hgated, hid⟩

theorem LoadedFacts.nodup_taskIds_iff (generatedAt : ℤ) :
    ((snapshotTasks runtime loaded.facts generatedAt).map (·.id)).Nodup ↔
      ¬ GateKeyTaken loaded.facts := by
  rw [perm_taskIds.nodup_iff, List.nodup_append', loaded.disjoint_iff]
  constructor
  · exact fun h => h.2.2
  · exact fun h => ⟨loaded.nodup_issueIds, loaded.nodup_gateIds, h⟩

end Loaded

/-! ## Publishing -/

theorem exists_publish (table : ProjectionTable) {input : PublishInput}
    (h : (input.snapshot.tasks.map (·.id)).Nodup) :
    ∃ state, (ProjectionTable.publish table input).1 = .ok state := by
  unfold ProjectionTable.publish
  by_cases hdigest : (table.get input.scope).map (·.digest) = some input.digest
  · obtain ⟨row, hrow, -⟩ := Option.map_eq_some_iff.mp hdigest
    have hread : ProjectionTable.readState
        (ProjectionTable.advance table input.scope input.cursor) input.scope =
        some { row with cursor := input.cursor }.state := by
      rw [ProjectionTable.readState, ProjectionTable.get_advance, hrow]
      simp
    simp only [hdigest, hread, if_true]
    exact ⟨_, rfl⟩
  · simp only [hdigest, h, if_true, if_false]
    exact ⟨_, rfl⟩

/-- The tasks that a project shows have different ids, and whatever is stored, a snapshot of
the facts can be published. -/
structure Publishable (runtime : Runtime) (scope : WorkbenchProjectionScope)
    (facts : WorkbenchProjectionFacts) : Prop where
  distinct : ∀ generatedAt, ((snapshotTasks runtime facts generatedAt).map (·.id)).Nodup
  published : ∀ (table : ProjectionTable) (cursor : Option WorkbenchProjectionCursor)
    (revision : ℕ) (generatedAt : ℤ) (snapshot : WorkbenchSnapshot),
    buildWorkbenchSnapshot runtime facts revision generatedAt = .ok snapshot →
      ∃ state, (ProjectionTable.publish table
        { scope := scope
          cursor := cursor
          digest := workbenchSemanticDigest runtime snapshot
          snapshot := snapshot }).1 = .ok state

/-- A project can be published unless an open issue has taken the key of a gate. -/
theorem publishable_iff (runtime : Runtime) {scope : WorkbenchProjectionScope}
    (loaded : LoadedFacts scope) :
    Publishable runtime scope loaded.facts ↔ ¬ GateKeyTaken loaded.facts := by
  constructor
  · intro h
    exact (loaded.nodup_taskIds_iff 0).mp (h.distinct 0)
  · intro htaken
    have hdistinct : ∀ generatedAt,
        ((snapshotTasks runtime loaded.facts generatedAt).map (·.id)).Nodup :=
      fun generatedAt => (loaded.nodup_taskIds_iff generatedAt).mpr htaken
    constructor
    · exact hdistinct
    · intro table cursor revision generatedAt snapshot hbuild
      apply exists_publish
      obtain ⟨_, -, hsnapshot⟩ := ControlPlane.bind_eq_ok.mp hbuild
      rw [← Except.ok.inj hsnapshot]
      exact hdistinct generatedAt

/-! ## A goal with an issue named GOAL -/

def keyedGoal (status : GoalStatus) : GoalRow where
  project := observedScope.project
  id := js "g1"
  title := js "Goal"
  status := status
  version := 1
  createdAt := 0
  updatedAt := 0

def keyedIssue : IssueRow where
  project := observedScope.project
  id := js "i1"
  goalId := js "g1"
  issueKey := gateKey
  revision := 1
  title := js "Issue"
  status := .draft
  version := 1
  createdAt := 0
  updatedAt := 0

def goalTables (status : GoalStatus) : AuthoritativeTables :=
  { AuthoritativeTables.empty with goals := [keyedGoal status] }

def keyedTables : AuthoritativeTables :=
  { goalTables .approved with issues := [keyedIssue] }

theorem Written.goalMoves {source target : GoalStatus} (h : Written (goalTables source))
    (hedge : ∃ transition ∈ goalTransitions, transition.source = source ∧
      transition.target = target) : Written (goalTables target) := by
  apply h.tail
  refine .updateGoal (fun row => { row with status := target }) ?_
  intro row hrow
  rw [List.mem_singleton.mp hrow]
  exact ⟨rfl, rfl, .inr hedge⟩

theorem written_keyedTables : Written keyedTables := by
  have hdraft : Written (goalTables .draft) :=
    .single (.createGoal (keyedGoal .draft) (by decide) rfl)
  have hclarifying : Written (goalTables .clarifying) := hdraft.goalMoves (by decide)
  have hplanning : Written (goalTables .planning) := hclarifying.goalMoves (by decide)
  have happroved : Written (goalTables .approved) := hplanning.goalMoves (by decide)
  apply happroved.tail
  exact .createIssue keyedIssue (by decide) ⟨keyedGoal .approved, by decide, rfl, rfl⟩ (by decide)
    (by decide) rfl

def keyedFacts : LoadedFacts observedScope :=
  .ofTables keyedTables observedScope written_keyedTables

/-- An approved goal with a drafted issue named `GOAL` cannot be published. -/
theorem not_publishable : ¬ Publishable plainRuntime observedScope keyedFacts.facts := by
  intro h
  have hids : ((snapshotTasks plainRuntime keyedFacts.facts 0).map (·.id)) =
      [js "g1:GOAL", js "g1:GOAL"] := by
    decide +kernel
  have hdistinct := h.distinct 0
  rw [hids] at hdistinct
  exact absurd hdistinct (by decide)

end DevHarness.Workbench
