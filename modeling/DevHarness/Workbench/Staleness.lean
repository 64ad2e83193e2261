import DevHarness.Workbench.ProjectorOutline

/-!
# Stale projectors

A projector that has loaded its facts and is overtaken publishes all the same: the revision
of a publish is taken when it is stored.  Newer revisions come from newer facts in the runs
in which no projector is overtaken.
-/

namespace DevHarness.Workbench

open JsText Interleave Program

/-- Newer revisions have seen all that older ones have, in all runs whose steps meet
`cond`; and the revision that is stored is the newest. -/
structure NewerProjections (runtime : Runtime) (tables : AuthoritativeTables)
    (cond : ProjectorCondition) : Prop where
  newer : ∀ {c}, Run (projectorSystem runtime) cond (.ofTables tables) c → ∀ scope,
    (publications scope c.now.past).Pairwise (Newer c.now.past)
  stored : ∀ {c}, Run (projectorSystem runtime) cond (.ofTables tables) c → ∀ scope,
    (ProjectionTable.readState c.now.state.projections scope).map (·.revision) =
      (publications scope c.now.past).head?.map (·.revision)

/-- A process has been overtaken on a scope: after it had loaded its facts, another process
published the scope that had loaded later, with an update in between. -/
def Overtaken (scope : WorkbenchProjectionScope) (pid : ℕ) (past : List ProjectorEvent) : Prop :=
  ∃ before before' p, loadedAt pid past = some before ∧
    p ∈ publications scope past ∧ p ∉ publications scope before ∧
    loadedAt p.pid past = some before' ∧ ¬ updates before' <:+ updates before

/-- No process that has been overtaken publishes, unless what it publishes is stored
already. -/
def PublishesInTurn : ProjectorCondition :=
  fun m attempt =>
    match attempt with
    | .perform pid (.publish input) =>
      (ProjectionTable.readState m.state.projections input.scope).map (·.digest) =
          some input.digest ∨
        ¬ Overtaken input.scope pid m.past
    | _ => True

section Runs

variable {runtime : Runtime} {cond : ProjectorCondition} {order : TableOrder cond}
  {tables : AuthoritativeTables} {c c' : ProjectorConfig} {scope : WorkbenchProjectionScope}
  {pid : ℕ} {p : Publication} {past : List ProjectorEvent} {q : Publication}

theorem invariant_initial : ProjectorInvariant order runtime
    { state := .ofTables tables, past := [] } where
  provenance := by
    intro scope state hread
    cases hread
  loaded := by
    intro earlier hearlier scope p hp
    rw [List.suffix_nil.mp hearlier] at hp
    cases hp
  revisions := fun _ => rfl

theorem sound_of_run (order : TableOrder cond)
    (hrun : Run (projectorSystem runtime) cond (.ofTables tables) c) :
    (projectorOutline runtime order).Sound c :=
  Outline.sound_of_run entries invariant_initial hrun

theorem publication_of_step (hinv : ProjectorInvariant order runtime c.now)
    {command : ProjectionCommand} {outside : Outside}
    {resp : Except ControlPlane.Thrown command.Answer}
    (hexec : execProjection outside command c.now.state = some (resp, c'.now.state))
    (hp : published scope (.performed pid command resp) = some p)
    (hnew : (publications scope c.now.past).head?.map (·.revision) ≠ some p.revision) :
    p.pid = pid ∧ (∃ input, command = .publish input ∧ input.scope = scope ∧
      (ProjectionTable.readState c.now.state.projections scope).map (·.digest) ≠
        some input.digest) ∧
      p.revision = ((publications scope c.now.past).head?.map (·.revision)).getD 0 + 1 := by
  cases command with
  | publish input =>
      simp only [execProjection, answering, Option.some.injEq] at hexec
      split at hexec
      · obtain ⟨rfl, -⟩ := Prod.mk.inj hexec
        cases hp
      · obtain ⟨hanswer, -⟩ := Prod.mk.inj hexec
        obtain ⟨next, hnext⟩ : ∃ next,
            (ProjectionTable.publish c.now.state.projections input).2 = next := ⟨_, rfl⟩
        cases resp with
        | error error => cases hp
        | ok state =>
            have hpublished := ProjectionTable.published_of_publish (Prod.ext hanswer hnext)
            simp only [published] at hp
            split at hp
            · next hscope =>
              obtain rfl := Option.some.inj hp
              subst hscope
              rw [← hinv.revisions input.scope] at hnew ⊢
              cases hpublished with
              | advanced row hrow hdigest =>
                  exfalso
                  apply hnew
                  rw [ProjectionTable.readState, hrow]
                  rfl
              | created hdigest =>
                  refine ⟨rfl, ⟨input, rfl, rfl, ?_⟩, ?_⟩
                  · rw [ProjectionTable.readState, Option.map_map]
                    exact hdigest
                  · rw [ProjectionTable.readState, Option.map_map]
                    rfl
            · cases hp
  | _ => cases hp

theorem performed_of_published {e : ProjectorEvent} (hp : published scope e = some p) :
    ∃ pid command resp, e = .performed pid command resp := by
  cases e with
  | performed pid command resp => exact ⟨pid, command, resp, rfl⟩
  | _ => cases hp

theorem loaded_of_publish (hsound : (projectorOutline runtime order).Sound c)
    (hstep : Step (projectorSystem runtime) cond c c') {input : PublishInput}
    {resp : Except ControlPlane.Thrown WorkbenchProjectionState}
    (hpast : c'.now.past = .performed pid (.publish input) resp :: c.now.past) :
    ∃ before, loadedAt pid c.now.past = some before := by
  have hpromise := Outline.promise_of_performed hsound hstep hpast
  exact Option.isSome_iff_exists.mp hpromise.1

theorem revision_le_head (h : (publications scope past).Pairwise (Newer past))
    (hq : q ∈ publications scope past) :
    q.revision ≤ ((publications scope past).head?.map (·.revision)).getD 0 := by
  cases hlist : publications scope past with
  | nil =>
      rw [hlist] at hq
      exact absurd hq List.not_mem_nil
  | cons head rest =>
      rw [hlist] at hq h
      rcases List.mem_cons.mp hq with rfl | hrest
      · exact le_rfl
      · have hnewer := (List.pairwise_cons.mp h).1 q hrest
        exact hnewer.revision.le

/-- What a process that has not been overtaken publishes is newer than all that has been
published. -/
theorem seen_of_inTurn {before : List ProjectorEvent} (hloads : LoadsFirst past)
    (hbefore : loadedAt pid past = some before) (hturn : ¬ Overtaken scope pid past)
    (hq : q ∈ publications scope past) :
    ∃ before', loadedAt q.pid past = some before' ∧ updates before' <:+ updates before := by
  obtain ⟨before', hbefore'⟩ := hloads.loaded hq
  refine ⟨before', hbefore', ?_⟩
  by_cases hearly : q ∈ publications scope before
  · have hsuffix := suffix_of_loadedAt hbefore
    obtain ⟨before'', hbefore''⟩ := (hloads.of_suffix hsuffix).loaded hearly
    -- `q` was published before this process loaded its facts.
    have hsame := loadedAt_of_suffix hsuffix hbefore''
    rw [hbefore'] at hsame
    obtain rfl := Option.some.inj hsame
    exact updates_suffix (suffix_of_loadedAt hbefore'')
  · by_contra hunseen
    exact hturn ⟨before, before', q, hbefore, hq, hearly, hbefore', hunseen⟩

theorem pairwise_newer (hrun : Run (projectorSystem runtime) PublishesInTurn (.ofTables tables) c)
    (scope : WorkbenchProjectionScope) :
    (publications scope c.now.past).Pairwise (Newer c.now.past) := by
  induction hrun with
  | refl => exact List.Pairwise.nil
  | @tail d c' hrun hstep ih =>
      have hsound := sound_of_run (TableOrder.any PublishesInTurn) hrun
      obtain ⟨e, hpast⟩ := hstep.past
      have hsuffix : d.now.past <:+ c'.now.past := by
        rw [hpast]
        exact List.suffix_cons e _
      have hold : (publications scope d.now.past).Pairwise (Newer c'.now.past) :=
        ih.imp fun hnewer => hnewer.of_suffix hsuffix
      rw [hpast]
      rcases publications_cons scope e d.now.past with hsame | ⟨p, hp, hnew, hadded⟩
      · rw [hsame, ← hpast]
        exact hold
      · rw [hadded, ← hpast]
        refine List.pairwise_cons.mpr ⟨fun q hq => ?_, hold⟩
        obtain ⟨pid, command, resp, he⟩ := performed_of_published hp
        rw [he] at hp hpast
        obtain ⟨hturn, -, outside, hexec⟩ := hstep.exec_of_performed hpast
        obtain ⟨rfl, ⟨input, rfl, rfl, hdigest⟩, hrevision⟩ :=
          publication_of_step hsound.inv hexec hp hnew
        have hnot := hturn.resolve_left hdigest
        obtain ⟨before, hbefore⟩ := loaded_of_publish hsound hstep hpast
        obtain ⟨before', hbefore', hseen⟩ := seen_of_inTurn hsound.inv.loaded hbefore hnot hq
        refine ⟨?_, before', before, loadedAt_of_suffix hsuffix hbefore',
          loadedAt_of_suffix hsuffix hbefore, hseen⟩
        have hle := revision_le_head ih hq
        omega

/-- In every run in which no projector that has been overtaken publishes, newer revisions
come from newer facts. -/
theorem newerProjections_of_inTurn (runtime : Runtime) (tables : AuthoritativeTables) :
    NewerProjections runtime tables PublishesInTurn where
  newer := fun hrun => pairwise_newer hrun
  stored := fun hrun => (sound_of_run (TableOrder.any PublishesInTurn) hrun).inv.revisions

end Runs

/-! ## A projector that is overtaken -/

/-- The arithmetic of integers, the order of units, and a hash that tells the dependencies
of tasks and the versions of their reviewers apart. -/
def plainRuntime : Runtime where
  parse := fun _ => none
  toLowerCase := fun text => text.map foldCase
  toLowerCase_of_lower := fun _ h => map_foldCase_of_lower h
  isFinite := fun _ => true
  add := fun a _ => a
  div := fun a _ => a
  less := fun _ _ => false
  localeCompare := fun a b => compare (units a) (units b)
  dayKey := fun date => js (toString (date / 86400000))
  semanticHash := fun _ tasks => tasks.flatMap fun task =>
    task.detail.dependency ++ ((task.deliveryEvidence.bind (·.latestReview)).map
      (·.reviewerVersion)).getD []

def observedScope : WorkbenchProjectionScope where
  scopeId := js "workbench"
  organizationId := js "organization"
  projectId := js "project"

def goalAt (version : ℕ) : GoalRow where
  project := observedScope.project
  id := js "goal"
  title := js "title"
  status := .planning
  version := version
  createdAt := 1000
  updatedAt := 1000 * version

def AuthoritativeTables.empty : AuthoritativeTables where
  goals := []
  issues := []
  issueDependencies := []
  runs := []
  schedulerJobs := []
  executionNodes := []
  executionLeases := []
  executionControls := []
  evidence := []
  artifactObjects := []
  reviews := []
  deliveryCandidates := []
  pushReceipts := []
  pullRequestReceipts := []
  landingReceipts := []
  issuePlanRevisions := []
  outboxEvents := []

def tablesAt (version : ℕ) : AuthoritativeTables :=
  { AuthoritativeTables.empty with goals := [goalAt version] }

def projection (runner : ℕ) : ProjectCall where
  runner := runner
  scope := observedScope
  force := false
  triggerFirst := false

def undisturbed : Outside where
  failure := none
  clock := 0

/-- The first projector loads version 1, the second loads and publishes version 2, and then
the first publishes. -/
def overtaking : List (Action ProjectCall Outside AuthoritativeTables) :=
  [.spawn (projection 0)] ++ List.replicate 5 (.perform 0 undisturbed) ++
    [.change (tablesAt 2), .spawn (projection 1)] ++
    List.replicate 7 (.perform 1 undisturbed) ++ List.replicate 2 (.perform 0 undisturbed)

/-- What is seen of a run: the publications, and how many updates the two projectors have
seen. -/
structure StalenessView where
  publications : List Publication
  seen : List (Option ℕ)
  deriving DecidableEq

def stalenessView (c : ProjectorConfig) : StalenessView where
  publications := Workbench.publications observedScope c.now.past
  seen := [(loadedAt 0 c.now.past).map fun before => (updates before).length,
    (loadedAt 1 c.now.past).map fun before => (updates before).length]

/-- Revision 2 has not seen the update that revision 1 has seen. -/
theorem not_newerProjections :
    ¬ NewerProjections plainRuntime (tablesAt 1) fun _ _ => True := by
  intro hclaim
  have hexec : (execute (projectorSystem plainRuntime) (Config.initial (.ofTables (tablesAt 1)))
      overtaking).map stalenessView = some
        { publications := [⟨0, 2⟩, ⟨1, 1⟩]
          seen := [some 0, some 1] } := by
    decide +kernel
  obtain ⟨c, hc, hview⟩ := Option.map_eq_some_iff.mp hexec
  simp only [stalenessView, StalenessView.mk.injEq, List.cons.injEq, and_true] at hview
  obtain ⟨hpublications, hfirst, hsecond⟩ := hview
  obtain ⟨before, hbefore, hseen⟩ := Option.map_eq_some_iff.mp hfirst
  obtain ⟨before', hbefore', hseen'⟩ := Option.map_eq_some_iff.mp hsecond
  have hpairwise := hclaim.newer (reached_of_execute hc) observedScope
  rw [hpublications] at hpairwise
  have hnewer := (List.pairwise_cons.mp hpairwise).1 ⟨1, 1⟩ (List.mem_singleton_self _)
  obtain ⟨older, newer, holder, hnewer', hsuffix⟩ := hnewer.seen
  rw [hbefore'] at holder
  rw [hbefore] at hnewer'
  obtain rfl := Option.some.inj holder
  obtain rfl := Option.some.inj hnewer'
  have hle := hsuffix.length_le
  omega

end DevHarness.Workbench
