import DevHarness.ControlPlane.Calls

/-!
# What a write does

For each write of the repositories, everything that it can come to: it leaves the
store alone, or its guards hold and it changes its table.
-/

namespace DevHarness.ControlPlane

open JsText Interleave

section Writes

variable {store store' : ControlStore} {backend : IssuePlanBackend} {plan : IssuePlan}
  {record : GapRemediationRecord}

/-! ## Goals -/

theorem commitCreate_cases {input : CommitGoalCreate} {answer : Except Thrown GoalWorkspaceReceipt}
    (h : store.commitCreate input = (answer, store')) :
    store' = store ∨
      (∀ row ∈ store.goals.rows, row.id ≠ input.goal.id) ∧
        store' = { store with
          goals := store.goals.insertNew input.goal
          createReceipts := ⟨input.idempotency, input.receipt⟩ :: store.createReceipts } := by
  unfold ControlStore.commitCreate at h
  split at h
  · exact .inl (Prod.mk.inj h).2.symm
  · exact .inl (Prod.mk.inj h).2.symm
  · split at h
    · exact .inl (Prod.mk.inj h).2.symm
    · next hnew =>
      exact .inr ⟨fun row hrow hid => hnew ⟨row, hrow, hid⟩, (Prod.mk.inj h).2.symm⟩

def updatedRow (input : CommitGoalUpdate) (row : GoalContract) : GoalContract :=
  { row with
    title := input.next.title
    problemStatement := input.next.problemStatement
    desiredOutcome := input.next.desiredOutcome
    acceptanceCriteria := input.next.acceptanceCriteria
    nonGoals := input.next.nonGoals
    constraints := input.next.constraints
    version := row.version + 1
    updatedAt := input.next.updatedAt }

theorem commitUpdate_cases {input : CommitGoalUpdate} {answer : Except Thrown GoalWorkspaceReceipt}
    (h : store.commitUpdate input = (answer, store')) :
    store' = store ∨
      ControlStore.replay store.updateReceipts input.idempotency = .ok none ∧
        (∃ goal, store.getGoal input.next.scope = some goal ∧
          goal.version = input.expectedVersion) ∧
        store' = { store with
          goals := store.goals.updateWhere (fun row => row.id = input.next.id)
            (updatedRow input) (fun _ => rfl)
          updateReceipts := ⟨input.idempotency, input.receipt⟩ :: store.updateReceipts } := by
  unfold ControlStore.commitUpdate at h
  split at h
  · exact .inl (Prod.mk.inj h).2.symm
  · exact .inl (Prod.mk.inj h).2.symm
  · next hreplay =>
    split at h
    · exact .inl (Prod.mk.inj h).2.symm
    · next goal hgoal =>
      split at h
      · exact .inl (Prod.mk.inj h).2.symm
      · next hversion =>
        exact .inr ⟨hreplay, ⟨goal, hgoal, not_not.mp hversion⟩, (Prod.mk.inj h).2.symm⟩

def movedRow (input : CommitGoalTransition) (row : GoalContract) : GoalContract :=
  { row with
    status := input.nextState
    version := row.version + 1
    updatedAt := max input.occurredAt row.createdAt }

theorem commitTransition_cases {input : CommitGoalTransition}
    {answer : Except Thrown GoalTransitionReceipt}
    (h : store.commitTransition input = (answer, store')) :
    store' = store ∨
      (∃ goal, store.getGoal input.current = some goal ∧
          goal.version = input.expectedVersion) ∧
        store' = { store with
          goals := store.goals.updateWhere (fun row => row.id = input.current.goalId)
            (movedRow input) (fun _ => rfl)
          transitionReceipts :=
            ⟨input.idempotency, input.receipt⟩ :: store.transitionReceipts } := by
  unfold ControlStore.commitTransition at h
  split at h
  · exact .inl (Prod.mk.inj h).2.symm
  · exact .inl (Prod.mk.inj h).2.symm
  · split at h
    · exact .inl (Prod.mk.inj h).2.symm
    · next goal hgoal =>
      split at h
      · exact .inl (Prod.mk.inj h).2.symm
      · next hversion =>
        exact .inr ⟨⟨goal, hgoal, not_not.mp hversion⟩, (Prod.mk.inj h).2.symm⟩

def completedRow (input : AcceptDeliveryReport) (row : GoalContract) : GoalContract :=
  { row with
    status := .completed
    version := row.version + 1
    updatedAt := input.accepted.generatedAt }

/-- When an acceptance completes its goal: the report is the latest, and the goal
is being verified at the expected version. -/
structure Completes (store : ControlStore) (input : AcceptDeliveryReport)
    (goal : GoalContract) : Prop where
  latest : (store.listDeliveryReports input.current.scope).getLast?.map (·.id) =
    some input.current.id
  found : store.getGoal input.current.scope = some goal
  verifying : goal.status = .verifying
  expected : (goal.version : ℤ) = input.expectedGoalVersion
  fits : store.reportFits input.accepted = true

theorem acceptDeliveryReport_cases {input : AcceptDeliveryReport}
    {answer : Except Thrown AcceptedDelivery}
    (h : store.acceptDeliveryReport input = (answer, store')) :
    store' = store ∨
      ∃ goal lookup, Completes store input goal ∧
        store' = { store with
          deliveryReports := store.deliveryReports.insertNew input.accepted
          goals := store.goals.updateWhere (fun row => row.id = input.current.goalId)
            (completedRow input) (fun _ => rfl)
          acceptances := ⟨lookup, input.accepted.id⟩ :: store.acceptances } := by
  unfold ControlStore.acceptDeliveryReport at h
  split at h
  · exact .inl (Prod.mk.inj h).2.symm
  · split at h
    · exact .inl (Prod.mk.inj h).2.symm
    · simp only at h
      split at h
      · exact .inl (Prod.mk.inj h).2.symm
      · split at h
        · exact .inl (Prod.mk.inj h).2.symm
        · exact .inl (Prod.mk.inj h).2.symm
      · unfold ControlStore.completeGoal at h
        simp only at h
        split at h
        · next latest goal hlatest hgoal =>
          split at h
          · exact .inl (Prod.mk.inj h).2.symm
          · next hcurrent =>
            split at h
            · exact .inl (Prod.mk.inj h).2.symm
            · next hfits =>
              simp only [not_or, not_not] at hcurrent
              refine .inr ⟨goal, _, ⟨?_, hgoal, hcurrent.2.1, hcurrent.2.2, ?_⟩,
                (Prod.mk.inj h).2.symm⟩
              · rw [hlatest, Option.map_some, hcurrent.1]
              · exact Bool.eq_true_of_not_eq_false hfits
        · exact .inl (Prod.mk.inj h).2.symm

/-! ## Issue plans -/

/-- When a plan is appended: after the latest one, with the next revision. -/
structure Appends (store : ControlStore) (backend : IssuePlanBackend) (plan : IssuePlan)
    (expectedPreviousPlanId : Option JsString) : Prop where
  previous : (store.getLatestIssuePlan backend plan.scope).map (·.id) = expectedPreviousPlanId
  revision : plan.revision =
    ((store.getLatestIssuePlan backend plan.scope).map (·.revision)).getD 0 + 1
  unused : backend = .postgres → ∀ row ∈ store.issuePlans, row.id ≠ plan.id

theorem appendIssuePlan_cases {expectedPreviousPlanId : Option JsString}
    {answer : Except Thrown IssuePlan}
    (h : store.appendIssuePlan backend plan expectedPreviousPlanId = (answer, store')) :
    (∃ error, answer = .error error ∧ store' = store) ∨
      Appends store backend plan expectedPreviousPlanId ∧ answer = .ok plan ∧
        store' = { store with issuePlans := store.issuePlans ++ [plan] } := by
  unfold ControlStore.appendIssuePlan at h
  simp only at h
  split at h
  · exact .inl ⟨_, (Prod.mk.inj h).1.symm, (Prod.mk.inj h).2.symm⟩
  · split at h
    · exact .inl ⟨_, (Prod.mk.inj h).1.symm, (Prod.mk.inj h).2.symm⟩
    · next hlatest =>
      split at h
      · exact .inl ⟨_, (Prod.mk.inj h).1.symm, (Prod.mk.inj h).2.symm⟩
      · next hid =>
        simp only [not_or, not_not] at hlatest
        refine .inr ⟨⟨hlatest.1, hlatest.2, ?_⟩, (Prod.mk.inj h).1.symm, (Prod.mk.inj h).2.symm⟩
        intro hbackend row hrow heq
        exact hid ⟨hbackend, row, hrow, heq⟩

theorem appendIssuePlan_of_appends {previous : Option JsString}
    (hgoal : ∃ goal, store.getGoal plan.scope = some goal)
    (h : Appends store backend plan previous) :
    store.appendIssuePlan backend plan previous =
      (.ok plan, { store with issuePlans := store.issuePlans ++ [plan] }) := by
  obtain ⟨goal, hgoal⟩ := hgoal
  have hunused : ¬ (backend = .postgres ∧ ∃ row ∈ store.issuePlans, row.id = plan.id) := by
    rintro ⟨hbackend, row, hrow, hid⟩
    exact h.unused hbackend row hrow hid
  unfold ControlStore.appendIssuePlan
  simp only [hgoal, reduceCtorEq, and_false, if_false, h.previous, h.revision, ne_eq,
    not_true_eq_false, or_self, hunused]

def decidedRows (backend : IssuePlanBackend) (input : CommitIssuePlanApproval)
    (rows : List IssuePlan) : List IssuePlan :=
  rows.map fun row =>
    if row.scope = input.current.scope ∧ row.id = input.current.id then
      ControlStore.decidedRow backend input.next row
    else row

theorem commitApproval_cases {input : CommitIssuePlanApproval}
    {answer : Except Thrown IssuePlanApprovalReceipt}
    (h : store.commitApproval backend input = (answer, store')) :
    store' = store ∨
      store.decidable backend input = true ∧ answer = .ok input.receipt ∧
        store' = { store with
          issuePlans := decidedRows backend input store.issuePlans
          decisions := input.decision :: store.decisions
          approvalReceipts :=
            ⟨input.idempotency, input.receipt⟩ :: store.approvalReceipts } := by
  unfold ControlStore.commitApproval at h
  split at h
  · exact .inl (Prod.mk.inj h).2.symm
  · exact .inl (Prod.mk.inj h).2.symm
  · split at h
    · exact .inl (Prod.mk.inj h).2.symm
    · next hdecidable =>
      exact .inr ⟨Bool.eq_true_of_not_eq_false hdecidable, (Prod.mk.inj h).1.symm,
        (Prod.mk.inj h).2.symm⟩

/-! ## Verifications and reports -/

theorem appendPlan_cases {plan : AcceptanceVerificationPlan}
    {answer : Except Thrown AcceptanceVerificationPlan}
    (h : store.appendPlan plan = (answer, store')) :
    store' = store ∨
      store' = { store with verificationPlans := store.verificationPlans.insertNew plan } := by
  unfold ControlStore.appendPlan at h
  split at h
  · exact .inl (Prod.mk.inj h).2.symm
  · exact .inr (Prod.mk.inj h).2.symm

theorem appendVerification_cases {verification : GoalVerification}
    {answer : Except Thrown GoalVerification}
    (h : store.appendVerification verification = (answer, store')) :
    (∃ error, answer = .error error ∧ store' = store) ∨
      (∀ row ∈ store.verifications.rows, row.id ≠ verification.id ∧
        ¬ (row.scope = verification.scope ∧ row.revision = verification.revision)) ∧
      answer = .ok verification ∧
      ∃ hbound, store' = { store with
        verifications := store.verifications.insertNew verification
        gapReportsBound := hbound } := by
  unfold ControlStore.appendVerification at h
  split at h
  · exact .inl ⟨_, (Prod.mk.inj h).1.symm, (Prod.mk.inj h).2.symm⟩
  · next hnew =>
    refine .inr ⟨?_, (Prod.mk.inj h).1.symm, _, (Prod.mk.inj h).2.symm⟩
    intro row hrow
    exact ⟨fun hid => hnew ⟨row, hrow, .inl hid⟩, fun hsame => hnew ⟨row, hrow, .inr hsame⟩⟩

theorem appendGapReport_cases {report : VerificationGapReport}
    {answer : Except Thrown VerificationGapReport}
    (h : store.appendGapReport report = (answer, store')) :
    store' = store ∨
      ∃ hbound, store' = { store with
        gapReports := store.gapReports.insertNew report
        gapReportsBound := hbound } := by
  unfold ControlStore.appendGapReport at h
  split at h
  · exact .inl (Prod.mk.inj h).2.symm
  · split at h
    · split at h
      · split at h
        · exact .inl (Prod.mk.inj h).2.symm
        · exact .inl (Prod.mk.inj h).2.symm
      · exact .inr ⟨_, (Prod.mk.inj h).2.symm⟩
    · exact .inl (Prod.mk.inj h).2.symm

theorem saveGapRemediation_cases {answer : Except Thrown GapRemediationReceipt}
    (h : store.saveGapRemediation record = (answer, store')) :
    store' = store ∨ store' = { store with remediations := record :: store.remediations } := by
  unfold ControlStore.saveGapRemediation at h
  split at h
  · exact .inl (Prod.mk.inj h).2.symm
  · split at h
    · exact .inl (Prod.mk.inj h).2.symm
    · split at h
      · split at h
        · exact .inl (Prod.mk.inj h).2.symm
        · exact .inl (Prod.mk.inj h).2.symm
      · exact .inr (Prod.mk.inj h).2.symm

theorem mem_of_findGapRemediation {lookup : GapRemediationLookup} {saved : GapRemediationRecord}
    (h : store.findGapRemediation lookup = some saved) :
    saved ∈ store.remediations ∧ saved.lookup = lookup := by
  have hlookup := List.find?_some h
  exact ⟨List.mem_of_find?_eq_some h, of_decide_eq_true hlookup⟩

/-- The receipt that is answered is the one that was to be kept, or one that is kept
for the same request. -/
theorem saveGapRemediation_ok {receipt : GapRemediationReceipt}
    (h : store.saveGapRemediation record = (.ok receipt, store')) :
    receipt = record.receipt ∨
      ∃ saved ∈ store.remediations, saved.lookup = record.lookup ∧
        saved.requestHash = record.requestHash ∧ receipt = saved.receipt := by
  unfold ControlStore.saveGapRemediation at h
  split at h
  · cases (Prod.mk.inj h).1
  · split at h
    · cases (Prod.mk.inj h).1
    · split at h
      · next saved hsaved =>
        split at h
        · next hhash =>
          obtain rfl := Except.ok.inj (Prod.mk.inj h).1
          obtain ⟨hmem, hlookup⟩ := mem_of_findGapRemediation hsaved
          exact .inr ⟨saved, hmem, hlookup, hhash, rfl⟩
        · cases (Prod.mk.inj h).1
      · exact .inl (Except.ok.inj (Prod.mk.inj h).1).symm

theorem appendDeliveryReport_cases {report : DeliveryReport}
    {answer : Except Thrown DeliveryReport}
    (h : store.appendDeliveryReport report = (answer, store')) :
    (∃ error, answer = .error error ∧ store' = store) ∨
      store.reportFits report = true ∧ answer = .ok report ∧
        store' = { store with deliveryReports := store.deliveryReports.insertNew report } := by
  unfold ControlStore.appendDeliveryReport at h
  split at h
  · next hfits => exact .inr ⟨hfits, (Prod.mk.inj h).1.symm, (Prod.mk.inj h).2.symm⟩
  · exact .inl ⟨_, (Prod.mk.inj h).1.symm, (Prod.mk.inj h).2.symm⟩

/-! ## Frames -/

variable {outside : ControlStore.Outside} {command : ControlCommand}
  {answer : Except Thrown command.Answer}

def writesGoals (command : ControlCommand) : Bool :=
  command.write? ∈ [some .create, some .update, some .transition, some .acceptance]

def writesPlans (command : ControlCommand) : Bool :=
  command.write? ∈ [some .issuePlan, some .approval]

def writesReports (command : ControlCommand) : Bool :=
  command.write? ∈ [some .deliveryReport, some .acceptance]

structure Frame (command : ControlCommand) (store store' : ControlStore) : Prop where
  goals : writesGoals command = false → store'.goals = store.goals
  issuePlans : writesPlans command = false → store'.issuePlans = store.issuePlans
  verifications : command.write? ≠ some .verification →
    store'.verifications = store.verifications
  gapReports : command.write? ≠ some .gapReport → store'.gapReports = store.gapReports
  remediations : command.write? ≠ some .remediation → store'.remediations = store.remediations
  deliveryReports : writesReports command = false →
    store'.deliveryReports = store.deliveryReports
  generatedIds : command ≠ .newId → store'.generatedIds = store.generatedIds

theorem Frame.refl : Frame command store store :=
  ⟨fun _ => rfl, fun _ => rfl, fun _ => rfl, fun _ => rfl, fun _ => rfl, fun _ => rfl,
    fun _ => rfl⟩

theorem frame_of_exec (h : ControlStore.exec backend outside command store =
    some (answer, store')) : Frame command store store' := by
  by_cases hwrite : command.write? = none
  · by_cases hid : command = .newId
    · subst hid
      obtain ⟨id, -, -, rfl⟩ := newId_cases h
      exact ⟨fun _ => rfl, fun _ => rfl, fun _ => rfl, fun _ => rfl, fun _ => rfl,
        fun _ => rfl, fun hne => absurd rfl hne⟩
    · rw [eq_of_exec hwrite hid h]
      exact .refl
  · cases command with
    | commitCreate input =>
        rcases commitCreate_cases (Option.some.inj h) with rfl | ⟨-, rfl⟩
        · exact .refl
        · exact ⟨nofun, fun _ => rfl, fun _ => rfl, fun _ => rfl, fun _ => rfl, fun _ => rfl,
            fun _ => rfl⟩
    | commitUpdate input =>
        rcases commitUpdate_cases (Option.some.inj h) with rfl | ⟨-, -, rfl⟩
        · exact .refl
        · exact ⟨nofun, fun _ => rfl, fun _ => rfl, fun _ => rfl, fun _ => rfl, fun _ => rfl,
            fun _ => rfl⟩
    | commitTransition input =>
        rcases commitTransition_cases (Option.some.inj h) with rfl | ⟨-, rfl⟩
        · exact .refl
        · exact ⟨nofun, fun _ => rfl, fun _ => rfl, fun _ => rfl, fun _ => rfl, fun _ => rfl,
            fun _ => rfl⟩
    | acceptDeliveryReport input =>
        rcases acceptDeliveryReport_cases (Option.some.inj h) with rfl | ⟨_, _, -, rfl⟩
        · exact .refl
        · exact ⟨nofun, fun _ => rfl, fun _ => rfl, fun _ => rfl, fun _ => rfl, nofun,
            fun _ => rfl⟩
    | appendIssuePlan plan previous =>
        rcases appendIssuePlan_cases (Option.some.inj h) with ⟨_, -, rfl⟩ | ⟨-, -, rfl⟩
        · exact .refl
        · exact ⟨fun _ => rfl, nofun, fun _ => rfl, fun _ => rfl, fun _ => rfl, fun _ => rfl,
            fun _ => rfl⟩
    | commitApproval input =>
        rcases commitApproval_cases (Option.some.inj h) with rfl | ⟨-, -, rfl⟩
        · exact .refl
        · exact ⟨fun _ => rfl, nofun, fun _ => rfl, fun _ => rfl, fun _ => rfl, fun _ => rfl,
            fun _ => rfl⟩
    | appendPlan plan =>
        rcases appendPlan_cases (Option.some.inj h) with rfl | rfl
        · exact .refl
        · exact ⟨fun _ => rfl, fun _ => rfl, fun _ => rfl, fun _ => rfl, fun _ => rfl,
            fun _ => rfl, fun _ => rfl⟩
    | appendVerification verification =>
        rcases appendVerification_cases (Option.some.inj h) with ⟨_, -, rfl⟩ | ⟨-, -, _, rfl⟩
        · exact .refl
        · exact ⟨fun _ => rfl, fun _ => rfl, fun hne => absurd rfl hne, fun _ => rfl,
            fun _ => rfl, fun _ => rfl, fun _ => rfl⟩
    | appendGapReport report =>
        rcases appendGapReport_cases (Option.some.inj h) with rfl | ⟨_, rfl⟩
        · exact .refl
        · exact ⟨fun _ => rfl, fun _ => rfl, fun _ => rfl, fun hne => absurd rfl hne,
            fun _ => rfl, fun _ => rfl, fun _ => rfl⟩
    | saveGapRemediation record =>
        rcases saveGapRemediation_cases (Option.some.inj h) with rfl | rfl
        · exact .refl
        · exact ⟨fun _ => rfl, fun _ => rfl, fun _ => rfl, fun _ => rfl,
            fun hne => absurd rfl hne, fun _ => rfl, fun _ => rfl⟩
    | appendDeliveryReport report =>
        rcases appendDeliveryReport_cases (Option.some.inj h) with ⟨_, -, rfl⟩ | ⟨-, -, rfl⟩
        · exact .refl
        · exact ⟨fun _ => rfl, fun _ => rfl, fun _ => rfl, fun _ => rfl, fun _ => rfl, nofun,
            fun _ => rfl⟩
    | _ => exact absurd rfl hwrite

end Writes

end DevHarness.ControlPlane
