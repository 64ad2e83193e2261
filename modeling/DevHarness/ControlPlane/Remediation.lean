import DevHarness.ControlPlane.PlanHistory

/-!
# Confirming a remediation

What a confirmation has done when it saves or returns a receipt, and a confirmation
that runs alone: where the failed plan or a compiled remediation of it is the latest
plan, it succeeds.
-/

namespace DevHarness.ControlPlane

open JsText Interleave Program

variable {service : IssuePlanService} {hash : ConfirmedRequest → JsString}
  {command : ConfirmCommand} {report : VerificationGapReport}
  {ex : List (Exchange ControlCommand ControlCommand.Answer Thrown)}

def requestOf (command : ConfirmCommand) (report : VerificationGapReport) (reason : JsString) :
    ConfirmedRequest where
  reportId := report.id
  actorId := command.actorId
  reason := reason
  draft := command.draft

def lookupOf (command : ConfirmCommand) (report : VerificationGapReport) (key : JsString) :
    GapRemediationLookup where
  organizationId := command.scope.organizationId
  reportId := report.id
  actorId := command.actorId
  idempotencyKey := key

/-! ## What a confirmation has done -/

theorem remediation_of_ends {plan : RemediationPlan}
    (h : Ends (remediate service command report) ex (.ok plan)) :
    (∃ latest, ⟨.getLatestIssuePlan command.scope, .ok latest⟩ ∈ ex ∧
        recovery report latest = some plan) ∨
      ∃ drafted previous appended,
        ⟨.appendIssuePlan drafted previous, .ok appended⟩ ∈ ex ∧
          plan = remediationPlanOf appended := by
  obtain ⟨found, ex₁, rfl, h₁⟩ := ends_request_bind_iff.mp h
  obtain ⟨latest, ex₂, rfl, h₂⟩ := ends_request_bind_iff.mp h₁
  cases found with
  | none =>
      obtain ⟨-, herror⟩ := ends_throw_iff.mp h₂
      cases herror
  | some previous =>
      simp only at h₂
      split at h₂
      · next recovered hrecovered =>
        obtain ⟨-, hplan⟩ := ends_pure_iff.mp h₂
        obtain rfl := Except.ok.inj hplan
        exact .inl ⟨latest, by simp, hrecovered⟩
      · split at h₂
        · obtain ⟨-, herror⟩ := ends_throw_iff.mp h₂
          cases herror
        · rcases ends_handle_ok h₂ with h₃ | ⟨error, ex₃, ex₄, rfl, -, h₃⟩
          · obtain ⟨appended, ex₃, ex₄, rfl, h₄, h₅⟩ := ends_bind_ok_iff.mp h₃
            obtain ⟨rfl, hplan⟩ := ends_pure_iff.mp h₅
            obtain rfl := Except.ok.inj hplan
            obtain ⟨-, ex₅, rfl, h₆⟩ := ends_request_bind_iff.mp h₄
            obtain ⟨issues, -, h₇⟩ := ends_done_bind_iff.mp h₆
            obtain ⟨read, ex₆, rfl, h₈⟩ := ends_request_bind_iff.mp h₇
            obtain ⟨plannerRunId, -, h₉⟩ := ends_done_bind_iff.mp h₈
            obtain ⟨built, ex₇, ex₈, rfl, -, h₁₀⟩ := ends_bind_ok_iff.mp h₉
            obtain rfl := ends_request_iff.mp h₁₀
            have hlast : ⟨.appendIssuePlan built (read.map (·.id)), .ok appended⟩ ∈
                ex₇ ++ [(⟨.appendIssuePlan built (read.map (·.id)), .ok appended⟩ :
                  Exchange ControlCommand ControlCommand.Answer Thrown)] := by simp
            exact .inr ⟨built, read.map (·.id), appended, by simp [hlast], rfl⟩
          · obtain ⟨raced, ex₅, rfl, h₄⟩ := ends_request_bind_iff.mp h₃
            split at h₄
            · next recovered hrecovered =>
              obtain ⟨-, hplan⟩ := ends_pure_iff.mp h₄
              obtain rfl := Except.ok.inj hplan
              exact .inl ⟨raced, by simp, hrecovered⟩
            · obtain ⟨-, herror⟩ := ends_throw_iff.mp h₄
              cases herror

/-- What a confirmation knows of the receipt that it saves. -/
structure Saves (service : IssuePlanService) (hash : ConfirmedRequest → JsString)
    (command : ConfirmCommand) (ex : List (Exchange ControlCommand ControlCommand.Answer Thrown))
    (record : GapRemediationRecord) (report : VerificationGapReport)
    (checked : JsString × JsString) : Prop where
  checks : checkConfirmation command = .ok checked
  found : ⟨.getGapReport command.scope command.reportId, .ok (some report)⟩ ∈ ex
  lookup : record.lookup = lookupOf command report checked.2
  requestHash : record.requestHash = hash (requestOf command report checked.1)
  plan : ∃ ex', (∀ x ∈ ex', x ∈ ex) ∧
    Ends (remediate service command report) ex' (.ok record.receipt.plan)
  remediates : remediates report record.receipt.plan = true

theorem saves_of_reaches {record : GapRemediationRecord}
    (h : Reaches (confirm service hash command) ex (.saveGapRemediation record)) :
    ∃ report checked, Saves service hash command ex record report checked := by
  obtain ⟨-, ex₁, rfl, h₁⟩ := reaches_behind h (fun hsave => by cases hsave)
  obtain ⟨checked, hchecked, h₂⟩ := reaches_done_bind_iff.mp h₁
  obtain ⟨answer, ex₂, rfl, h₃⟩ := reaches_behind h₂ (fun hsave => by cases hsave)
  cases answer with
  | none => exact absurd h₃ not_reaches_throw
  | some report =>
      obtain ⟨replay, ex₃, rfl, h₄⟩ := reaches_behind h₃ (fun hsave => by cases hsave)
      cases replay with
      | some saved =>
          simp only at h₄
          split at h₄
          · exact absurd h₄ not_reaches_throw
          · exact absurd h₄ not_reaches_pure
      | none =>
          have hplans : Only (Writes [.issuePlan]) (remediate service command report) :=
            only_remediate List.mem_cons_self
          obtain ⟨plan, ex₄, ex₅, rfl, hends, h₅⟩ := reaches_bind_of_only hplans
            (by simp [Writes, ControlCommand.write?]) h₄
          obtain ⟨_, hrequired, h₆⟩ := reaches_done_bind_iff.mp h₅
          obtain ⟨recordedAt, ex₆, rfl, h₇⟩ := reaches_behind h₆ (fun hsave => by cases hsave)
          obtain ⟨rfl, hcommand⟩ := reaches_request_iff.mp h₇
          injection hcommand with hrecord
          subst hrecord
          refine ⟨report, checked, hchecked, by simp, rfl, rfl, ⟨ex₄, ?_, hends⟩,
            require_eq_ok.mp hrequired⟩
          intro x hx
          simp [hx]

/-- A receipt that is returned was kept for the same request, or is what saving one
has answered. -/
theorem receipt_of_ends {receipt : GapRemediationReceipt}
    (h : Ends (confirm service hash command) ex (.ok receipt)) :
    (∃ report checked saved, checkConfirmation command = .ok checked ∧
        ⟨.getGapReport command.scope command.reportId, .ok (some report)⟩ ∈ ex ∧
        ⟨.findGapRemediation (lookupOf command report checked.2), .ok (some saved)⟩ ∈ ex ∧
        saved.requestHash = hash (requestOf command report checked.1) ∧
        receipt = saved.receipt) ∨
      ∃ record, ⟨.saveGapRemediation record, .ok receipt⟩ ∈ ex := by
  obtain ⟨-, ex₁, rfl, h₁⟩ := ends_request_bind_iff.mp h
  obtain ⟨checked, hchecked, h₂⟩ := ends_done_bind_iff.mp h₁
  obtain ⟨answer, ex₂, rfl, h₃⟩ := ends_request_bind_iff.mp h₂
  cases answer with
  | none =>
      obtain ⟨-, herror⟩ := ends_throw_iff.mp h₃
      cases herror
  | some report =>
      obtain ⟨replay, ex₃, rfl, h₄⟩ := ends_request_bind_iff.mp h₃
      cases replay with
      | some saved =>
          simp only at h₄
          split at h₄
          · obtain ⟨-, herror⟩ := ends_throw_iff.mp h₄
            cases herror
          · next hhash =>
            obtain ⟨-, hreceipt⟩ := ends_pure_iff.mp h₄
            obtain rfl := Except.ok.inj hreceipt
            exact .inl ⟨report, checked, saved, hchecked, by simp, by simp [lookupOf],
              not_not.mp hhash, rfl⟩
      | none =>
          obtain ⟨plan, ex₄, ex₅, rfl, -, h₅⟩ := ends_bind_ok_iff.mp h₄
          obtain ⟨-, -, h₆⟩ := ends_done_bind_iff.mp h₅
          obtain ⟨recordedAt, ex₆, rfl, h₇⟩ := ends_request_bind_iff.mp h₆
          obtain rfl := ends_request_iff.mp h₇
          refine .inr ⟨_, .tail _ (.tail _ (.tail _ (List.mem_append_right _ (.tail _ (.head _)))))⟩

/-! ## Where a report can be remediated -/

/-- A plan that was drafted for a report, and compiles. -/
structure RemediatedBy (report : VerificationGapReport) (plan : IssuePlan) : Prop where
  previous : plan.previousPlanId = some report.issuePlanId
  run : plan.plannerRunId = gapPlannerRunId report.id
  adapter : plan.plannerConfiguration.adapter = js "goal-verifier-gap"
  draft : plan.status = .draft
  valid : plan.compilation.valid = true

/-- Where a report stands to be remediated: its failed plan is the latest and nothing
was drafted for it, or the only plan that was is a compiled draft and the latest. -/
structure Remediable (backend : IssuePlanBackend) (scope : GoalScope)
    (report : VerificationGapReport) (failed : IssuePlan) (store : ControlStore) : Prop where
  fair : PlansFair store
  goal : ∃ goal, store.getGoal scope = some goal
  found : store.getGapReport scope report.id = some report
  mem : failed ∈ store.plansOf scope
  ofReport : failed.id = report.issuePlanId
  undrafted : failed.plannerRunId ≠ gapPlannerRunId report.id
  latest : store.getLatestIssuePlan backend scope = some failed ∧
      (∀ row ∈ store.issuePlans, row.plannerRunId ≠ gapPlannerRunId report.id) ∨
    ∃ plan, store.getLatestIssuePlan backend scope = some plan ∧ RemediatedBy report plan ∧
      ∀ row ∈ store.issuePlans, row.plannerRunId = gapPlannerRunId report.id → row = plan

section Alone

variable {backend : IssuePlanBackend} {store store' : ControlStore} {failed : IssuePlan}
  {scope : GoalScope}

/-- The run of a remediation is a text that the service takes as it is. -/
def Named (report : VerificationGapReport) : Prop :=
  nonBlank (gapPlannerRunId report.id) (js "plannerRunId") 200 =
    .ok (gapPlannerRunId report.id)

theorem Remediable.getIssuePlan_eq (h : Remediable backend scope report failed store) :
    store.getIssuePlan scope report.issuePlanId = some failed := by
  have hexists : (store.getIssuePlan scope report.issuePlanId).isSome := by
    unfold ControlStore.getIssuePlan
    rw [List.find?_isSome]
    exact ⟨failed, h.mem, by simp [h.ofReport]⟩
  obtain ⟨found, hfound⟩ := Option.isSome_iff_exists.mp hexists
  obtain ⟨hmem, hid⟩ := mem_of_getIssuePlan hfound
  rw [hfound, h.fair.distinct.eq_of_id_eq (mem_plansOf.mp hmem).1 (mem_plansOf.mp h.mem).1
    (hid.trans h.ofReport.symm)]

theorem mapIndexed_routeOf_nil (issues : List IssueDraft) :
    mapIndexed (fun _ issue => routeOf [] issue) issues =
      .ok (issues.map recommendModelRoute) := by
  have hfrom : ∀ index, mapIndexedFrom (fun _ issue => routeOf [] issue) index issues =
      .ok (issues.map recommendModelRoute) := by
    induction issues with
    | nil => exact fun _ => rfl
    | cons issue issues ih =>
        intro index
        have hrest := ih (index + 1)
        unfold mapIndexedFrom
        rw [hrest]
        rfl
  exact hfrom 0

theorem createDraft_of_alone {draft : CreateDraftCommand} {issues : List IssueDraft}
    {result : Except Thrown IssuePlan} {latest : IssuePlan}
    (hgoal : ∃ goal, store.getGoal draft.scope = some goal)
    (hlatest : store.getLatestIssuePlan backend draft.scope = some latest)
    (hissues : validateIssuePlanDraft draft.draft = .ok issues)
    (hrun : ∃ plannerRunId, nonBlank draft.plannerRunId (js "plannerRunId") 200 =
      .ok plannerRunId)
    (h : Alone (execGranting backend) (createDraft service draft) store result store') :
    ∃ plan ids, result = .ok plan ∧
      store' = { store with generatedIds := ids, issuePlans := store.issuePlans ++ [plan] } ∧
      plan.scope = draft.scope ∧ plan.previousPlanId = some latest.id ∧ plan.status = .draft ∧
      plan.compilation = compileIssuePlan
        { requirements := draft.source.requirements
          acceptanceCriterionIds := draft.source.acceptanceCriterionIds
          issues := issues } := by
  obtain ⟨plannerRunId, hplannerRunId⟩ := hrun
  obtain ⟨outside, answer, s₁, hexec₁, h₁⟩ := alone_request_bind_iff.mp h
  obtain ⟨hanswer, hstore₁⟩ := Prod.mk.inj (Option.some.inj hexec₁)
  rw [outside.2] at hanswer
  subst hanswer
  subst hstore₁
  simp only [hissues] at h₁
  have h₂ := alone_ok_bind_iff.mp h₁
  obtain ⟨outside₂, answer₂, s₂, hexec₂, h₃⟩ := alone_request_bind_iff.mp h₂
  obtain ⟨rfl, rfl⟩ := Prod.mk.inj (Option.some.inj hexec₂)
  simp only [hlatest, hplannerRunId] at h₃
  have h₄ := alone_ok_bind_iff.mp h₃
  obtain ⟨r₅, s₅, hbuild, h₅⟩ := alone_bind_iff.mp h₄
  unfold build at hbuild
  simp only [mapIndexed_routeOf_nil] at hbuild
  obtain ⟨outside₆, answer₆, s₆, hexec₆, h₆⟩ :=
    alone_request_bind_iff.mp (alone_ok_bind_iff.mp hbuild)
  obtain ⟨now, rfl, hclock⟩ := clock_of_exec hexec₆
  rw [hclock] at h₆
  obtain ⟨outside₇, answer₇, s₇, hexec₇, h₇⟩ := alone_request_bind_iff.mp h₆
  obtain ⟨id, rfl, hunused, rfl⟩ := newId_cases hexec₇
  obtain ⟨rfl, rfl⟩ := alone_done_iff.mp h₇
  obtain ⟨outside₈, hexec₈⟩ := alone_request_iff.mp h₅
  have happend := Option.some.inj hexec₈
  rw [appendIssuePlan_of_appends hgoal ⟨?_, ?_, ?_⟩] at happend
  · obtain ⟨rfl, rfl⟩ := Prod.mk.inj happend
    exact ⟨_, _, rfl, rfl, rfl, rfl, rfl, rfl⟩
  · change (store.getLatestIssuePlan backend draft.scope).map (·.id) = _
    rw [hlatest]
  · change _ = ((store.getLatestIssuePlan backend draft.scope).map (·.revision)).getD 0 + 1
    rw [hlatest]
    rfl
  · intro _
    exact (not_mem_of_usesId hunused).2

theorem saveGapRemediation_of_new {record : GapRemediationRecord}
    (hfound : store.getGapReport scope report.id = some report)
    (hlookup : record.lookup = lookupOf command report record.lookup.idempotencyKey)
    (hscope : command.scope = scope)
    (hallowed : ControlStore.remediationAllowed record.lookup = true)
    (hrow : ∃ row ∈ store.issuePlans, row.id = record.receipt.plan.id ∧ row.scope = scope)
    (hnew : store.findGapRemediation record.lookup = none) :
    store.saveGapRemediation record =
      (.ok record.receipt, { store with remediations := record :: store.remediations }) := by
  obtain ⟨hget, hreport⟩ := Option.filter_eq_some_iff.mp hfound
  have hreportScope : report.scope = scope := of_decide_eq_true hreport
  have horganization : report.organizationId = command.scope.organizationId := by
    rw [hscope, ← hreportScope]
    rfl
  have hreportId : record.lookup.reportId = report.id := by rw [hlookup]; rfl
  have hlookupOrganization : record.lookup.organizationId = command.scope.organizationId := by
    rw [hlookup]
    rfl
  unfold ControlStore.saveGapRemediation
  rw [hreportId, hget, Option.filter_some_pos (by simp [horganization, hlookupOrganization])]
  simp only [hallowed, hreportScope, hrow, hnew, not_true_eq_false, or_self, reduceCtorEq,
    if_false]

theorem remediate_of_alone {issues : List IssueDraft} {result : Except Thrown RemediationPlan}
    (hreport : Remediable backend scope report failed store) (hnamed : Named report)
    (hscope : command.scope = scope)
    (hissues : validateIssuePlanDraft command.draft = .ok issues)
    (hcompiles : (compileIssuePlan
      { requirements := failed.source.requirements
        acceptanceCriterionIds := failed.source.acceptanceCriterionIds
        issues := issues }).valid = true)
    (h : Alone (execGranting backend) (remediate service command report) store result store') :
    ∃ plan ids plans, result = .ok plan ∧ remediates report plan = true ∧
      (∃ row ∈ plans, row.id = plan.id ∧ row.scope = scope) ∧
      store' = { store with generatedIds := ids, issuePlans := plans } := by
  subst hscope
  obtain ⟨outside₁, answer₁, s₁, hexec₁, h₁⟩ := alone_request_bind_iff.mp h
  obtain ⟨hanswer₁, hs₁⟩ := Prod.mk.inj (Option.some.inj hexec₁)
  subst hs₁
  subst hanswer₁
  obtain ⟨outside₂, answer₂, s₂, hexec₂, h₂⟩ := alone_request_bind_iff.mp h₁
  obtain ⟨hanswer₂, hs₂⟩ := Prod.mk.inj (Option.some.inj hexec₂)
  subst hs₂
  subst hanswer₂
  simp only [hreport.getIssuePlan_eq] at h₂
  rcases hreport.latest with ⟨hlatest, hundrafted⟩ | ⟨plan, hlatest, hdrafted, -⟩
  · -- The failed plan is the latest: nothing is recovered, and a plan is drafted.
    have hmem := (mem_plansOf.mp hreport.mem).1
    have hrecovery : recovery report (some failed) = none := by
      simp [recovery, hundrafted failed hmem]
    simp only [hlatest, hrecovery, Option.map_some, ne_eq, not_true_eq_false, if_false] at h₂
    obtain ⟨r₃, s₃, h₃, hresult⟩ := alone_handle_iff.mp h₂
    obtain ⟨r₄, s₄, h₄, h₅⟩ := alone_bind_iff.mp h₃
    have hrun : ∃ plannerRunId,
        nonBlank (remediationDraft command report failed).plannerRunId (js "plannerRunId") 200 =
          .ok plannerRunId := ⟨_, hnamed⟩
    obtain ⟨plan, ids, rfl, rfl, hscope, hprevious, hdraft, hcompilation⟩ :=
      createDraft_of_alone hreport.goal hlatest hissues hrun h₄
    obtain ⟨rfl, rfl⟩ := alone_done_iff.mp h₅
    obtain ⟨rfl, rfl⟩ := hresult
    refine ⟨_, ids, store.issuePlans ++ [plan], rfl, ?_, ⟨plan, by simp, rfl, hscope⟩, rfl⟩
    have hvalid : plan.compilation.valid = true := by
      rw [hcompilation]
      exact hcompiles
    simp [remediates, remediationPlanOf, hprevious, hdraft, hvalid, hreport.ofReport]
  · -- The compiled draft that was drafted before is recovered.
    have hrecovery : recovery report (some plan) = some (remediationPlanOf plan) := by
      simp [recovery, hdrafted.previous, hdrafted.run, hdrafted.adapter]
    simp only [hlatest, hrecovery] at h₂
    obtain ⟨rfl, rfl⟩ := alone_done_iff.mp h₂
    have hmem := mem_plansOf.mp (mem_of_getLatestIssuePlan hlatest)
    refine ⟨_, store'.generatedIds, store'.issuePlans, rfl, ?_, ⟨plan, hmem.1, rfl, hmem.2⟩, rfl⟩
    simp [remediates, remediationPlanOf, hdrafted.previous, hdrafted.draft, hdrafted.valid]

structure Confirmable (hash : ConfirmedRequest → JsString) (command : ConfirmCommand)
    (scope : GoalScope) (report : VerificationGapReport) (failed : IssuePlan)
    (store : ControlStore) : Prop where
  scope : command.scope = scope
  reportId : command.reportId = report.id
  checks : ∃ checked, checkConfirmation command = .ok checked ∧
    ControlStore.remediationAllowed (lookupOf command report checked.2) = true ∧
    ∀ saved, store.findGapRemediation (lookupOf command report checked.2) = some saved →
      saved.requestHash = hash (requestOf command report checked.1)
  compiles : ∃ issues, validateIssuePlanDraft command.draft = .ok issues ∧
    (compileIssuePlan
      { requirements := failed.source.requirements
        acceptanceCriterionIds := failed.source.acceptanceCriterionIds
        issues := issues }).valid = true

theorem confirm_of_alone {result : Except Thrown GapRemediationReceipt}
    (hreport : Remediable backend scope report failed store) (hnamed : Named report)
    (hcommand : Confirmable hash command scope report failed store)
    (h : Alone (execGranting backend) (confirm service hash command) store result store') :
    ∃ receipt, result = .ok receipt := by
  obtain ⟨rfl, hreportId, ⟨checked, hchecked, hallowed, hkey⟩, issues, hissues, hcompiles⟩ :=
    hcommand
  obtain ⟨outside₁, answer₁, s₁, hexec₁, h₁⟩ := alone_request_bind_iff.mp h
  obtain ⟨hanswer₁, hs₁⟩ := Prod.mk.inj (Option.some.inj hexec₁)
  rw [outside₁.2] at hanswer₁
  subst hanswer₁
  subst hs₁
  simp only [hchecked] at h₁
  obtain ⟨outside₂, answer₂, s₂, hexec₂, h₂⟩ :=
    alone_request_bind_iff.mp (alone_ok_bind_iff.mp h₁)
  obtain ⟨hanswer₂, hs₂⟩ := Prod.mk.inj (Option.some.inj hexec₂)
  subst hs₂
  subst hanswer₂
  rw [hreportId] at h₂
  simp only [hreport.found] at h₂
  obtain ⟨outside₃, answer₃, s₃, hexec₃, h₃⟩ := alone_request_bind_iff.mp h₂
  obtain ⟨hanswer₃, hs₃⟩ := Prod.mk.inj (Option.some.inj hexec₃)
  subst hs₃
  subst hanswer₃
  simp only at h₃
  split at h₃
  · next saved hsaved =>
    have hsame := hkey saved hsaved
    split at h₃
    · next hne => exact absurd hsame hne
    · obtain ⟨rfl, -⟩ := alone_done_iff.mp h₃
      exact ⟨saved.receipt, rfl⟩
  · next hnone =>
    obtain ⟨r₄, s₄, h₄, h₅⟩ := alone_bind_iff.mp h₃
    obtain ⟨plan, ids, plans, rfl, hremediates, hrow, rfl⟩ :=
      remediate_of_alone hreport hnamed rfl hissues hcompiles h₄
    simp only [hremediates] at h₅
    obtain ⟨outside₆, answer₆, s₆, hexec₆, h₆⟩ :=
      alone_request_bind_iff.mp (alone_ok_bind_iff.mp h₅)
    obtain ⟨now, rfl, hclock⟩ := clock_of_exec hexec₆
    rw [hclock] at h₆
    obtain ⟨outside₇, hexec₇⟩ := alone_request_iff.mp h₆
    have hsave := Option.some.inj hexec₇
    have hkept := hsave.symm.trans
      (saveGapRemediation_of_new hreport.found rfl rfl hallowed hrow hnone)
    obtain ⟨rfl, -⟩ := Prod.mk.inj hkept
    exact ⟨_, rfl⟩

end Alone

end DevHarness.ControlPlane
