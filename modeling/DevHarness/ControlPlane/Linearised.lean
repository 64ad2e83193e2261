import DevHarness.ControlPlane.PlanHistory
import DevHarness.ControlPlane.TerminalGoals

/-!
# Revisions and decisions of issue plans

A revision is checked against the plan that was read, and appended against the latest
plan by its identifier alone.  A decision keeps the identifier, so it goes unnoticed
when it is committed in between; where none is, revisions and decisions of a goal are
linearised.
-/

namespace DevHarness.ControlPlane

open JsText Interleave Program

variable {services : ControlServices} {backend : IssuePlanBackend} {store : ControlStore}
  {c c' : ControlConfig}

/-- No decision comes between a read of a plan and the append that follows it: where
a plan is appended after `previous`, none was committed on `previous` since the
process read it. -/
def DecisionsApart (backend : IssuePlanBackend)
    (m : Moment ControlStore ControlCommand ControlCommand.Answer Thrown ControlCall
      ControlResult Empty) : Attempt ControlCommand ControlCall Empty → Prop
  | .perform pid (.appendIssuePlan plan previous) =>
    (m.state.getLatestIssuePlan backend plan.scope).map (·.id) = previous →
      m.past.Pairwise fun later earlier => earlier.pid? = some pid →
        ∀ read, planRead? earlier = some read → some read.id = previous →
          decidedOn? later ≠ some read.id
  | _ => True

/-- One step, as revisions and decisions should be: a revision is of the latest plan,
a draft at the expected version; what a call has read of the plan that it appends after
is what that plan is; and a decision is on the latest plan. -/
structure Linearised (backend : IssuePlanBackend) (c c' : ControlConfig) : Prop where
  revised : ∀ pid command plan previous answer,
    .spawned pid (.revise command) ∈ c.now.past →
    c'.now.past = .performed pid (.appendIssuePlan plan previous) (.ok answer) :: c.now.past →
    ∃ row, c.now.state.getLatestIssuePlan backend command.scope = some row ∧
      row.id = command.planId ∧ row.status = .draft ∧
      (row.version : ℤ) = command.expectedVersion
  unbypassed : ∀ pid plan previous answer,
    c'.now.past = .performed pid (.appendIssuePlan plan previous) (.ok answer) :: c.now.past →
    ∀ e ∈ eventsOf pid c.now.past, ∀ read, planRead? e = some read →
      some read.id = previous →
      c.now.state.getLatestIssuePlan backend plan.scope = some read
  decided : ∀ pid input answer,
    c'.now.past = .performed pid (.commitApproval input) (.ok answer) :: c.now.past →
    c'.now.state.decisions ≠ c.now.state.decisions →
    ∃ row, c.now.state.getLatestIssuePlan backend input.current.scope = some row ∧
      row.id = input.current.id ∧ row.version = input.expectedVersion

section Step

variable
  {cond : Moment ControlStore ControlCommand ControlCommand.Answer Thrown ControlCall ControlResult Empty → Attempt ControlCommand ControlCall Empty → Prop}
  {previous : Option JsString} {call : ControlCall} {pid : ℕ} {plan : IssuePlan}

theorem appends_of_performed {answer : IssuePlan}
    (hperformed : Performed services backend c c' pid (.appendIssuePlan plan previous) (.ok answer)
      call) : Appends c.now.state backend plan previous := by
  obtain ⟨outside, hexec⟩ := hperformed.exec
  rcases appendIssuePlan_cases (Option.some.inj hexec) with ⟨error, herror, -⟩ | ⟨happends, -⟩
  · cases herror
  · exact happends

theorem of_getIssuePlan_mem {scope : GoalScope} {planId : JsString}
    (hrun : Run (controlPlane services backend) cond store c)
    (h : .performed pid (.getIssuePlan scope planId) (.ok (some plan)) ∈ c.now.past) :
    plan.id = planId ∧ plan.scope = scope := by
  obtain ⟨c₀, c₁, call, -, hperformed, -, -, -⟩ := performed_of_mem hrun h
  obtain ⟨outside, hexec⟩ := hperformed.exec
  obtain ⟨hfound, -⟩ := Prod.mk.inj (Option.some.inj hexec)
  obtain ⟨hmem, hid⟩ := mem_of_getIssuePlan (Except.ok.inj hfound)
  exact ⟨hid, (mem_plansOf.mp hmem).2⟩

/-- A plan that was read and not decided on since is the latest plan, when an append
after it succeeds. -/
theorem latest_eq_of_read {answer read : IssuePlan} {e : ControlEvent} (hfair : PlansFair store)
    (hrun : Run (controlPlane services backend) cond store c)
    (hperformed : Performed services backend c c' pid (.appendIssuePlan plan previous) (.ok answer)
      call)
    (hapart : DecisionsApart backend c.now (.perform pid (.appendIssuePlan plan previous)))
    (he : e ∈ eventsOf pid c.now.past) (hread : planRead? e = some read)
    (hprevious : some read.id = previous) :
    c.now.state.getLatestIssuePlan backend plan.scope = some read := by
  have happends := appends_of_performed hperformed
  have hkept := plansKept_of_run hfair hrun
  obtain ⟨hmem, hpid⟩ := mem_eventsOf.mp he
  obtain ⟨recent, older, hpast⟩ := List.append_of_mem hmem
  have hpairwise := hapart happends.previous
  rw [hpast] at hpairwise
  have hundecided : ∀ later ∈ recent, decidedOn? later ≠ some read.id := by
    intro later hlater
    exact (List.pairwise_append.mp hpairwise).2.2 later hlater e List.mem_cons_self hpid read
      hread hprevious
  have hrow : read ∈ c.now.state.issuePlans := by
    rcases plansUnlessDecided_of_run hrun recent older e read hpast hread with
      hrow | ⟨later, hlater, hdecided⟩
    · exact hrow
    · exact absurd hdecided (hundecided later hlater)
  have hlatest := happends.previous
  rw [← hprevious] at hlatest
  obtain ⟨row, hfound, hid⟩ := Option.map_eq_some_iff.mp hlatest
  have hmem' := (mem_plansOf.mp (mem_of_getLatestIssuePlan hfound)).1
  rw [hfound, hkept.distinct.eq_of_id_eq hmem' hrow hid]

end Step

/-- Where decisions stay apart from the appends that read before them, the revisions
and decisions of issue plans are linearised, and the plans of every goal are a
chain. -/
theorem linearised_of_decisionsApart (hfair : PlansFair store)
    (hrun : Run (controlPlane services backend) (DecisionsApart backend) store c)
    (hstep : Step (controlPlane services backend) (DecisionsApart backend) c c') :
    (∀ scope, Chained (c'.now.state.plansOf scope)) ∧ Linearised backend c c' := by
  refine ⟨(plansKept_of_run hfair (hrun.tail hstep)).chained, ?_, ?_, ?_⟩
  · intro pid command plan previous answer hspawned hpast
    obtain ⟨⟨call, hperformed⟩, hapart⟩ := performed_of_past hrun hstep hpast
    obtain rfl := spawned_unique_of_run hrun hspawned hperformed.spawned
    obtain ⟨-, hscope, current, hread, hprevious, hversion, hstatus⟩ :=
      drafted_of_reaches_revise (reaches_tagged_iff.mp hperformed.reaches)
    have hevent := mem_exchangesOf.mp hread
    have hlatest := latest_eq_of_read hfair hrun hperformed hapart
      (mem_eventsOf.mpr ⟨hevent, rfl⟩) rfl hprevious.symm
    rw [hscope] at hlatest
    exact ⟨current, hlatest, (of_getIssuePlan_mem hrun hevent).1, hstatus, hversion⟩
  · intro pid plan previous answer hpast e he read hread hprevious
    obtain ⟨⟨call, hperformed⟩, hapart⟩ := performed_of_past hrun hstep hpast
    exact latest_eq_of_read hfair hrun hperformed hapart he hread hprevious
  · intro pid input answer hpast hchanged
    obtain ⟨⟨call, hperformed⟩, -⟩ := performed_of_past hrun hstep hpast
    obtain ⟨outside, hexec⟩ := hperformed.exec
    rcases commitApproval_cases (Option.some.inj hexec) with hstate | ⟨hdecidable, -, -⟩
    · rw [hstate] at hchanged
      exact absurd rfl hchanged
    · exact latest_of_decidable ((plansKept_of_run hfair hrun).chained _) hdecidable

/-! ## Revising and deciding -/

def sampleIssue (title : String) : Json :=
  .object
    [(js "key", .string (js "A-1")),
      (js "title", .string (js title)),
      (js "goal", .string (js "the goal")),
      (js "requirementRefs", .array [.string (js "r1")]),
      (js "acceptance", .array [.object
        [(js "criterionRef", .string (js "c1")),
          (js "statement", .string (js "It works"))]]),
      (js "nonGoals", .array []),
      (js "dependencyCandidates", .array []),
      (js "expectedFiles", .array []),
      (js "conflictResources", .object
        [(js "directories", .array []),
          (js "publicInterfaces", .array []),
          (js "databaseObjects", .array []),
          (js "sharedConfigurations", .array []),
          (js "landingOrder", .array [])]),
      (js "developmentPrompt", .string (js <| "Implement the goal for r1, so that c1 " ++
        "holds: It works. Then run npm test until the whole suite passes.")),
      (js "verify", .array [.string (js "npm test")]),
      (js "completionEvidence", .array [.object
        [(js "kind", .string (js "test")),
          (js "description", .string (js "The suite passes")),
          (js "required", .bool true)]])]

def sampleDraftPlan : IssuePlan :=
  { sampleIssuePlan with
    status := .draft
    version := 1
    issues := [
      { key := js "A-1"
        title := js "Title"
        goal := js "the goal"
        requirementRefs := []
        acceptance := []
        nonGoals := []
        dependencyCandidates := []
        expectedFiles := []
        conflictResources :=
          { directories := []
            publicInterfaces := []
            databaseObjects := []
            sharedConfigurations := []
            landingOrder := [] }
        developmentPrompt := js "prompt"
        verify := [js "npm test"]
        completionEvidence := [] }] }

def sampleDraftStore : ControlStore :=
  { sampleStore with issuePlans := [sampleDraftPlan] }

def sampleRevise (expectedVersion : ℤ) : ReviseCommand where
  scope := sampleScope
  planId := js "issue-plan"
  expectedVersion := expectedVersion
  actorId := js "actor"
  reason := js "smaller steps"
  requestId := js "request"
  issues := .array [sampleIssue "Title"]
  modelOverrides := []

def sampleDecide (decision : IssuePlanApprovalDecision) : IssuePlanApprovalCommand where
  scope := sampleScope
  target := { type := js "issue_plan", id := js "issue-plan" }
  expectedVersion := 1
  actorId := js "reviewer"
  reason := js "too large"
  requestId := js "request"
  idempotencyKey := js "decide-1"
  policyRevision := issuePlanApprovalPolicyRevision
  decision := decision
  affectedItemIds := [js "A-1"]
  payload := .object []

theorem sampleDraftStore_fair : PlansFair sampleDraftStore :=
  plansFair_of_single rfl rfl rfl

def decisionsApart (m : Moment ControlStore ControlCommand ControlCommand.Answer Thrown
    ControlCall ControlResult Empty) : Attempt ControlCommand ControlCall Empty → Bool
  | .perform pid (.appendIssuePlan _ previous) =>
    decide (m.past.Pairwise fun later earlier =>
      (decide (earlier.pid? = some pid) && (planRead? earlier).any fun read =>
        decide (some read.id = previous) && decide (decidedOn? later = some read.id)) = false)
  | _ => true

theorem decisionsApart_sound (m : Moment ControlStore ControlCommand ControlCommand.Answer Thrown
    ControlCall ControlResult Empty) (attempt : Attempt ControlCommand ControlCall Empty)
    (h : decisionsApart m attempt = true) : DecisionsApart backend m attempt := by
  unfold DecisionsApart
  split
  · intro _
    refine List.Pairwise.imp ?_ (of_decide_eq_true h)
    intro later earlier hno hpid read hread hprevious hdecided
    simp [hpid, hread, hprevious.symm, hdecided] at hno
  · trivial

/-- A revision after changes were requested. -/
theorem linearised_of_decisionsApart_revise : ∃ (c c' : ControlConfig),
    c.now.state.decisions.length = 1 ∧ c'.now.state.issuePlans.length = 2 ∧
      (∀ scope, Chained (c'.now.state.plansOf scope)) ∧ Linearised .postgres c c' := by
  let before : List (Action ControlCall ControlStore.Outside Empty) :=
    .spawn (.approve (sampleDecide .requestChanges)) :: samplePerforms 0 0 10 ++
      .spawn (.revise (sampleRevise 2)) :: samplePerforms 1 20 5
  let append : Action ControlCall ControlStore.Outside Empty :=
    .perform 1 (sampleGranting (js "passed") (.object []) 30).1
  let sys := controlPlane sampleServices .postgres
  have hrun : ((executeWhile sys decisionsApart (Config.initial sampleDraftStore) before).bind
      fun c => (executeWhile sys decisionsApart c [append]).map fun c' => (c, c')).any
      (fun x => x.1.now.state.decisions.length = 1 ∧ x.2.now.state.issuePlans.length = 2) =
        true := by
    decide +kernel
  obtain ⟨d, d', hbefore, hafter, hchecks⟩ := exists_of_any_pair hrun
  obtain ⟨hdecisions, hplans⟩ := of_decide_eq_true hchecks
  exact ⟨d, d', hdecisions, hplans, linearised_of_decisionsApart sampleDraftStore_fair
    (run_of_executeWhile decisionsApart_sound hbefore)
    (step_of_executeWhile decisionsApart_sound hafter)⟩

def isAppend (pid : ℕ) : ControlEvent → Bool
  | .performed pid' (.appendIssuePlan _ _) (.ok _) => pid' = pid
  | _ => false

variable {e : ControlEvent} {pid : ℕ}

theorem exists_of_isAppend (h : isAppend pid e = true) :
    ∃ plan previous answer, e = .performed pid (.appendIssuePlan plan previous) (.ok answer) := by
  unfold isAppend at h
  split at h
  · next pid' plan previous answer =>
    obtain rfl := of_decide_eq_true h
    exact ⟨plan, previous, answer, rfl⟩
  · cases h

def isRevision (pid : ℕ) (scope : GoalScope) : ControlEvent → Bool
  | .spawned pid' (.revise command) => pid' = pid ∧ command.scope = scope
  | _ => false

theorem exists_of_isRevision {scope : GoalScope} (h : isRevision pid scope e = true) :
    ∃ command, e = .spawned pid (.revise command) ∧ command.scope = scope := by
  unfold isRevision at h
  split at h
  · next pid' command =>
    obtain ⟨rfl, hscope⟩ := of_decide_eq_true h
    exact ⟨command, rfl, hscope⟩
  · cases h

/-- A plan is rejected between the read of a revision and its append. -/
theorem not_linearised : ¬ ∀ (services : ControlServices) (backend : IssuePlanBackend)
    (store : ControlStore) (c c' : ControlConfig), PlansFair store →
    Reached (controlPlane services backend) store c →
    Step (controlPlane services backend) (fun _ _ => True) c c' → Linearised backend c c' := by
  intro hall
  let before : List (Action ControlCall ControlStore.Outside Empty) :=
    .spawn (.revise (sampleRevise 1)) :: samplePerforms 0 0 5 ++
      .spawn (.approve (sampleDecide .reject)) :: samplePerforms 1 20 10
  let append : Action ControlCall ControlStore.Outside Empty :=
    .perform 0 (sampleGranting (js "passed") (.object []) 40).1
  let sys := controlPlane sampleServices .postgres
  have hrun : ((execute sys (Config.initial sampleDraftStore) before).bind fun c =>
      (step sys c append).map fun c' => (c, c')).any
      (fun x => x.1.now.past.any (isRevision 0 sampleScope) &&
        x.2.now.past.head?.any (isAppend 0) &&
        (x.1.now.state.getLatestIssuePlan .postgres sampleScope).all
          (fun row => row.status ≠ .draft)) = true := by
    decide +kernel
  obtain ⟨d, d', hbefore, hafter, hchecks⟩ := exists_of_any_pair hrun
  simp only [Bool.and_eq_true] at hchecks
  obtain ⟨⟨hrevision, happend⟩, hrejected⟩ := hchecks
  have hstep := step_sound hafter
  obtain ⟨e, hpast⟩ := hstep.past
  rw [hpast, List.head?_cons, Option.any_some] at happend
  obtain ⟨plan, previous, answer, rfl⟩ := exists_of_isAppend happend
  obtain ⟨e', hmem, hrevises⟩ := List.any_eq_true.mp hrevision
  obtain ⟨command, rfl, hscope⟩ := exists_of_isRevision hrevises
  have hlinearised := hall sampleServices .postgres sampleDraftStore d d' sampleDraftStore_fair
    (reached_of_execute hbefore) hstep
  obtain ⟨row, hrow, -, hstatus, -⟩ :=
    hlinearised.revised 0 command plan previous answer hmem hpast
  rw [← hscope, hrow, Option.all_some] at hrejected
  exact of_decide_eq_true hrejected hstatus

end DevHarness.ControlPlane
