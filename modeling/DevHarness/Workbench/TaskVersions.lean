import DevHarness.Workbench.Staleness

/-!
# The versions of tasks

The version of a task adds up the versions of the issue, of its latest run and of its latest job.
Every row counts its own updates.  When a younger row becomes the latest one the sum starts again
from the younger row's count.
-/

namespace DevHarness.Workbench

open JsText

variable {α : Type}

section Latest

variable {timestamp : α → ℤ} {x x' y latest : α} {rows before after : List α}

theorem latestBy_nil : latestBy timestamp ([] : List α) = none :=
  rfl

theorem latestBy_cons : latestBy timestamp (x :: rows) =
    match latestBy timestamp rows with
    | none => some x
    | some latest => if timestamp latest ≤ timestamp x then some x else some latest := by
  unfold latestBy
  rw [List.insertionSort_cons]
  cases hsorted : rows.insertionSort fun left right => timestamp right ≤ timestamp left with
  | nil => rfl
  | cons head tail =>
      rw [List.orderedInsert_cons, List.head?_cons]
      by_cases hle : timestamp head ≤ timestamp x
      · rw [if_pos hle]
        simp [hle]
      · rw [if_neg hle]
        simp [hle]

theorem latestBy_cons_of_some (hrest : latestBy timestamp rows = some latest) :
    latestBy timestamp (x :: rows) =
      if timestamp latest ≤ timestamp x then some x else some latest := by
  rw [latestBy_cons, hrest]

theorem latestBy_eq_none : latestBy timestamp rows = none ↔ rows = [] := by
  cases rows with
  | nil => simp [latestBy_nil]
  | cons x rows =>
      rw [latestBy_cons]
      split
      · simp
      · split <;> simp

theorem exists_latestBy (hy : y ∈ rows) : ∃ latest, latestBy timestamp rows = some latest := by
  apply Option.ne_none_iff_exists'.mp
  intro hnone
  rw [latestBy_eq_none.mp hnone] at hy
  exact List.not_mem_nil hy

theorem le_latestBy (hlatest : latestBy timestamp rows = some latest) (hy : y ∈ rows) :
    timestamp y ≤ timestamp latest := by
  induction rows generalizing latest with
  | nil => exact absurd hy List.not_mem_nil
  | cons x rows ih =>
      cases hrest : latestBy timestamp rows with
      | none =>
          rw [latestBy_cons, hrest] at hlatest
          rw [latestBy_eq_none.mp hrest, List.mem_singleton] at hy
          rw [hy, ← Option.some.inj hlatest]
      | some other =>
          rw [latestBy_cons_of_some hrest] at hlatest
          by_cases hle : timestamp other ≤ timestamp x
          · rw [if_pos hle] at hlatest
            rw [← Option.some.inj hlatest]
            rcases List.mem_cons.mp hy with rfl | htail
            · exact le_rfl
            · exact (ih hrest htail).trans hle
          · rw [if_neg hle] at hlatest
            rw [← Option.some.inj hlatest]
            rcases List.mem_cons.mp hy with rfl | htail
            · omega
            · exact ih hrest htail

theorem mem_of_latestBy (hlatest : latestBy timestamp rows = some latest) : latest ∈ rows := by
  have hmem : latest ∈ rows.insertionSort fun left right => timestamp right ≤ timestamp left :=
    List.mem_of_mem_head? (by rw [← latestBy, hlatest]; rfl)
  exact (List.perm_insertionSort _ rows).mem_iff.mp hmem

theorem latestBy_insert : latestBy timestamp (before ++ x :: after) = some x ∨
    latestBy timestamp (before ++ x :: after) = latestBy timestamp (before ++ after) := by
  induction before with
  | nil =>
      rw [List.nil_append, List.nil_append, latestBy_cons]
      split
      · exact .inl rfl
      · next latest hlatest =>
        rw [hlatest]
        split
        · exact .inl rfl
        · exact .inr rfl
  | cons head before ih =>
      rw [List.cons_append, List.cons_append]
      rcases ih with hnew | hsame
      · rw [latestBy_cons_of_some hnew]
        by_cases hle : timestamp x ≤ timestamp head
        · -- The head is behind nothing that the new row is not behind.
          rw [if_pos hle]
          right
          rw [latestBy_cons]
          split
          · rfl
          · next latest hlatest =>
            have hmem : latest ∈ before ++ x :: after := by
              have hold := mem_of_latestBy hlatest
              simp only [List.mem_append, List.mem_cons] at hold ⊢
              tauto
            have hlatestLe := (le_latestBy hnew hmem).trans hle
            rw [if_pos hlatestLe]
        · rw [if_neg hle]
          exact .inl rfl
      · right
        rw [latestBy_cons, hsame, ← latestBy_cons]

theorem latestBy_replace (hforward : timestamp x < timestamp x') :
    latestBy timestamp (before ++ x' :: after) = some x' ∨
      latestBy timestamp (before ++ x' :: after) = latestBy timestamp (before ++ x :: after) := by
  induction before with
  | nil =>
      rw [List.nil_append, List.nil_append, latestBy_cons, latestBy_cons]
      split
      · exact .inl rfl
      · next latest hlatest =>
        by_cases hle : timestamp latest ≤ timestamp x'
        · rw [if_pos hle]
          exact .inl rfl
        · rw [if_neg hle, if_neg fun hold => hle (hold.trans hforward.le)]
          exact .inr rfl
  | cons head before ih =>
      rw [List.cons_append, List.cons_append]
      rcases ih with hnew | hsame
      · rw [latestBy_cons_of_some hnew]
        by_cases hle : timestamp x' ≤ timestamp head
        · rw [if_pos hle]
          right
          have hx : x ∈ before ++ x :: after := by simp
          obtain ⟨latest, hlatest⟩ : ∃ latest, latestBy timestamp (before ++ x :: after) =
              some latest := exists_latestBy hx
          rw [latestBy_cons_of_some hlatest]
          have hlatestLe : timestamp latest ≤ timestamp x' := by
            have hold := mem_of_latestBy hlatest
            simp only [List.mem_append, List.mem_cons] at hold
            rcases hold with hbefore | rfl | hafter
            · exact le_latestBy hnew (List.mem_append_left _ hbefore)
            · exact hforward.le
            · exact le_latestBy hnew (List.mem_append_right _ (List.mem_cons_of_mem _ hafter))
          rw [if_pos (hlatestLe.trans hle)]
        · rw [if_neg hle]
          exact .inl rfl
      · right
        rw [latestBy_cons, hsame, ← latestBy_cons]

end Latest

/-! ## What a version is made of -/

/-- An issue, with the facts that a snapshot is built from. -/
structure IssueState where
  issue : IssueProjectionFact
  facts : WorkbenchProjectionFacts

namespace IssueState

def runs (state : IssueState) : List RunProjectionFact :=
  state.facts.runs.filter fun run => run.issueId = state.issue.id

def jobs (state : IssueState) : List SchedulerJobProjectionFact :=
  state.facts.schedulerJobs.filter fun job => job.issueId = state.issue.id

def latestRun (state : IssueState) : Option RunProjectionFact :=
  latestBy (·.updatedAt) state.runs

def latestJob (state : IssueState) : Option SchedulerJobProjectionFact :=
  latestBy (·.updatedAt) state.jobs

def participants (state : IssueState) :
    IssueProjectionFact × Option RunProjectionFact × Option SchedulerJobProjectionFact :=
  (state.issue, state.latestRun, state.latestJob)

def taskVersion (runtime : Runtime) (generatedAt : ℤ) (state : IssueState) : ℕ :=
  (issueTask runtime state.issue state.facts generatedAt).version

end IssueState

theorem taskVersion_eq (runtime : Runtime) (generatedAt : ℤ) (state : IssueState) :
    state.taskVersion runtime generatedAt = state.issue.version +
      (state.latestRun.map (·.version)).getD 0 + (state.latestJob.map (·.version)).getD 0 :=
  rfl

section Rows

/-- A row is added, with version 1, or it is written, with the next version and a later
time. -/
inductive RowUpdate (version : α → ℕ) (updatedAt : α → ℤ) (row : α) : List α → List α → Prop
  | created (before after : List α) (hversion : version row = 1) :
      RowUpdate version updatedAt row (before ++ after) (before ++ row :: after)
  | written (before after : List α) (earlier : α) (hversion : version row = version earlier + 1)
      (hforward : updatedAt earlier < updatedAt row) :
      RowUpdate version updatedAt row (before ++ earlier :: after) (before ++ row :: after)

/-- Where the row that is written becomes the latest one, its version is larger than that of the row
that was the latest. -/
def Outranks (version : α → ℕ) (updatedAt : α → ℤ) (row : α) (old new : List α) : Prop :=
  latestBy updatedAt new = some row → latestBy updatedAt old ≠ some row →
    ∀ latest, latestBy updatedAt old = some latest → version latest < version row

end Rows

/-- An update of the issue, of one of its runs, or of one of its jobs, as the row is after it. -/
inductive TaskUpdate
  | issue
  | run (row : RunProjectionFact)
  | job (row : SchedulerJobProjectionFact)

/-- The update turns one state into another.  Facts that the version does not depend on may change
in any way. -/
def TaskUpdate.Applies (old new : IssueState) : TaskUpdate → Prop
  | .issue =>
    new.issue.id = old.issue.id ∧ new.issue.version = old.issue.version + 1 ∧
      old.issue.updatedAt < new.issue.updatedAt ∧ new.runs = old.runs ∧ new.jobs = old.jobs
  | .run row =>
    RowUpdate (·.version) (·.updatedAt) row old.runs new.runs ∧ new.issue = old.issue ∧
      new.jobs = old.jobs
  | .job row =>
    RowUpdate (·.version) (·.updatedAt) row old.jobs new.jobs ∧ new.issue = old.issue ∧
      new.runs = old.runs

/-- An update with the states before and after it. -/
structure UpdateStep where
  old : IssueState
  update : TaskUpdate
  new : IssueState

/-- No younger run, and no younger job, takes over with a version that is not larger. -/
def UpdateStep.Outranks (step : UpdateStep) : Prop :=
  match step.update with
  | .issue => True
  | .run row => Workbench.Outranks (·.version) (·.updatedAt) row step.old.runs step.new.runs
  | .job row => Workbench.Outranks (·.version) (·.updatedAt) row step.old.jobs step.new.jobs

inductive TaskHistory : List UpdateStep → List IssueState → Prop
  | start (state : IssueState) : TaskHistory [] [state]
  | updated {steps : List UpdateStep} {past : List IssueState} {old new : IssueState}
      (update : TaskUpdate) (hhistory : TaskHistory steps (old :: past))
      (happlies : update.Applies old new) :
      TaskHistory (⟨old, update, new⟩ :: steps) (new :: old :: past)

/-- Whenever the issue row, its latest run or its latest job is not what it was, the version of the
task is larger, whatever the snapshots' times. -/
def VersionsRise (runtime : Runtime) (states : List IssueState) : Prop :=
  states.Pairwise fun later earlier => later.participants ≠ earlier.participants →
    ∀ time time', earlier.taskVersion runtime time < later.taskVersion runtime time'

section Versions

variable {runtime : Runtime} {old new : IssueState} {update : TaskUpdate} {steps : List UpdateStep}
  {states : List IssueState} {before after : List α} {updatedAt : α → ℤ} {version : α → ℕ} {row : α}

theorem latestRun_congr (h : new.runs = old.runs) : new.latestRun = old.latestRun := by
  rw [IssueState.latestRun, IssueState.latestRun, h]

theorem latestJob_congr (h : new.jobs = old.jobs) : new.latestJob = old.latestJob := by
  rw [IssueState.latestJob, IssueState.latestJob, h]

theorem taskVersion_congr {state state' : IssueState} (h : state.participants = state'.participants)
    (time time' : ℤ) : state.taskVersion runtime time = state'.taskVersion runtime time' := by
  simp only [IssueState.participants, Prod.mk.injEq] at h
  rw [taskVersion_eq, taskVersion_eq, h.1, h.2.1, h.2.2]

section

variable (h : RowUpdate version updatedAt row before after)

include h

theorem RowUpdate.latest :
    latestBy updatedAt after = some row ∨ latestBy updatedAt after = latestBy updatedAt before := by
  cases h with
  | created => exact latestBy_insert
  | written _ _ _ _ hforward => exact latestBy_replace hforward

theorem RowUpdate.pos : 0 < version row := by
  cases h with
  | created _ _ hversion => omega
  | written _ _ _ hversion _ => omega

theorem RowUpdate.outranks_iff :
    Outranks version updatedAt row before after ↔
      (latestBy updatedAt after ≠ latestBy updatedAt before →
        ((latestBy updatedAt before).map version).getD 0 <
          ((latestBy updatedAt after).map version).getD 0) := by
  unfold Outranks
  rcases h.latest with hnew | hsame
  · rw [hnew, Option.map_some, Option.getD_some]
    cases hold : latestBy updatedAt before with
    | none =>
        have hpos := h.pos
        simp [hpos]
    | some latest =>
        simp only [Option.map_some, Option.getD_some, Option.some.injEq, forall_const, forall_eq',
          ne_eq, eq_comm]
  · rw [hsame]
    simp only [ne_eq, not_true_eq_false, IsEmpty.forall_iff, iff_true]
    intro hlatest hne
    exact absurd hlatest hne

end

/-- A step raises the version when it changes what the version is made of, exactly when no younger
row takes over with a version that is not larger. -/
theorem outranks_iff (runtime : Runtime) (happlies : update.Applies old new) :
    UpdateStep.Outranks ⟨old, update, new⟩ ↔
      (new.participants ≠ old.participants →
        ∀ time time', old.taskVersion runtime time < new.taskVersion runtime time') := by
  cases update with
  | issue =>
      obtain ⟨-, hversion, -, hruns, hjobs⟩ := happlies
      have hrun := latestRun_congr hruns
      have hjob := latestJob_congr hjobs
      refine ⟨fun _ _ time time' => ?_, fun _ => trivial⟩
      rw [taskVersion_eq, taskVersion_eq, hversion, hrun, hjob]
      omega
  | run row =>
      obtain ⟨hrow, hissue, hjobs⟩ := happlies
      have hjob := latestJob_congr hjobs
      refine hrow.outranks_iff.trans ?_
      simp only [taskVersion_eq, IssueState.participants, hissue, hjob, ne_eq, Prod.mk.injEq,
        true_and, and_true, forall_const]
      change (_ → ((old.latestRun).map _).getD 0 < ((new.latestRun).map _).getD 0) ↔ _
      apply imp_congr Iff.rfl
      omega
  | job row =>
      obtain ⟨hrow, hissue, hruns⟩ := happlies
      have hrun := latestRun_congr hruns
      refine hrow.outranks_iff.trans ?_
      simp only [taskVersion_eq, IssueState.participants, hissue, hrun, ne_eq, Prod.mk.injEq,
        true_and, forall_const]
      change (_ → ((old.latestJob).map _).getD 0 < ((new.latestJob).map _).getD 0) ↔ _
      apply imp_congr Iff.rfl
      omega

/-- The versions of a task rise, over any updates, exactly when no younger run or job ever takes over
with a version that is not larger. -/
theorem versionsRise_iff_outranks (hhistory : TaskHistory steps states) :
    VersionsRise runtime states ↔ ∀ step ∈ steps, step.Outranks := by
  induction hhistory with
  | start state => simp [VersionsRise]
  | @updated steps past old new update _ happlies ih =>
      rw [List.forall_mem_cons, ← ih, outranks_iff runtime happlies]
      constructor
      · intro h
        obtain ⟨hnew, hrest⟩ := List.pairwise_cons.mp h
        exact ⟨hnew old List.mem_cons_self, hrest⟩
      · rintro ⟨hstep, hrest⟩
        apply List.Pairwise.cons _ hrest
        intro earlier hearlier hne time time'
        by_cases hsame : new.participants = old.participants
        · -- Nothing has changed since the state before.
          rcases List.mem_cons.mp hearlier with rfl | hpast
          · exact absurd hsame hne
          · rw [taskVersion_congr hsame time' time']
            rw [hsame] at hne
            exact (List.pairwise_cons.mp hrest).1 earlier hpast hne time time'
        · rcases List.mem_cons.mp hearlier with rfl | hpast
          · exact hstep hsame time time'
          · have hlt := hstep hsame time time'
            by_cases hearlierSame : old.participants = earlier.participants
            · rw [← taskVersion_congr hearlierSame time time]
              exact hlt
            · exact ((List.pairwise_cons.mp hrest).1 earlier hpast hearlierSame time time).trans hlt

end Versions

/-! ## A second attempt -/

def readyIssue : IssueProjectionFact where
  id := js "issue"
  goalId := js "goal"
  issueKey := js "ISSUE-1"
  title := js "title"
  status := .ready
  version := 1
  createdAt := 0
  updatedAt := 0

def queuedRun (attempt : ℕ) : RunProjectionFact where
  id := js (toString attempt)
  issueId := js "issue"
  status := .queued
  version := 1
  startedAt := none
  finishedAt := none
  updatedAt := 1000 * attempt

def attempted (attempts : ℕ) : IssueState where
  issue := readyIssue
  facts :=
    { goals := []
      issues := [readyIssue]
      dependencies := []
      runs := (List.range attempts).map fun attempt => queuedRun (attempt + 1)
      schedulerJobs := []
      nodes := []
      leases := []
      controls := []
      evidenceCounts := []
      deliveryEvidence := [] }

theorem applies_firstAttempt :
    (TaskUpdate.run (queuedRun 1)).Applies (attempted 0) (attempted 1) := by
  refine ⟨?_, rfl, rfl⟩
  have hruns : (attempted 1).runs = [queuedRun 1] := by decide +kernel
  rw [hruns]
  exact .created [] [] rfl

theorem versionsRise_firstAttempt : VersionsRise plainRuntime [attempted 1, attempted 0] := by
  apply (versionsRise_iff_outranks (.updated _ (.start (attempted 0)) applies_firstAttempt)).mpr
  rw [List.forall_mem_cons]
  refine ⟨?_, fun step hstep => absurd hstep List.not_mem_nil⟩
  intro _ _ latest hlatest
  have hnone : latestBy (·.updatedAt) (attempted 0).runs = none := by decide +kernel
  rw [hnone] at hlatest
  exact absurd hlatest (Option.some_ne_none latest).symm

/-- A second attempt begins with the version that the first one began with. -/
theorem not_versionsRise : ¬ ∀ (runtime : Runtime) (steps : List UpdateStep)
    (states : List IssueState), TaskHistory steps states → VersionsRise runtime states := by
  intro h
  have hsecond : (TaskUpdate.run (queuedRun 2)).Applies (attempted 1) (attempted 2) := by
    refine ⟨?_, rfl, rfl⟩
    have hfirst : (attempted 1).runs = [queuedRun 1] ++ [] := by decide +kernel
    have hruns : (attempted 2).runs = [queuedRun 1] ++ queuedRun 2 :: [] := by decide +kernel
    rw [hruns, hfirst]
    exact .created _ _ rfl
  have hhistory : TaskHistory _ [attempted 2, attempted 1, attempted 0] :=
    .updated _ (.updated _ (.start (attempted 0)) applies_firstAttempt) hsecond
  have hrise := h plainRuntime _ _ hhistory
  have hne : (attempted 2).participants ≠ (attempted 1).participants := by decide +kernel
  have hlt := (List.pairwise_cons.mp hrise).1 (attempted 1) List.mem_cons_self hne 0 0
  revert hlt
  decide +kernel

end DevHarness.Workbench
