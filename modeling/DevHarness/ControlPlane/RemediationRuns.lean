import DevHarness.ControlPlane.Linearised
import DevHarness.ControlPlane.Remediation

/-!
# Remediations over a run

A later confirmation recovers the plan of an earlier one by the run that drafted it,
whatever the plan says, and a plan is appended before its compilation is checked.
Where what is recovered was drafted from the same issues and what is appended
compiles, a report is remediated once, by the draft that was confirmed.
-/

namespace DevHarness.ControlPlane

open JsText Interleave Program

variable {services : ControlServices} {backend : IssuePlanBackend} {store : ControlStore}
  {scope : GoalScope} {report : VerificationGapReport} {failed : IssuePlan}
  {c c' : ControlConfig}

/-- Calls that write no plan, and confirmations for one report. -/
def RemediatesOnly (scope : GoalScope) (report : VerificationGapReport) (call : ControlCall) :
    Prop :=
  (∃ command, call = .confirm command ∧ command.scope = scope ∧
      command.reportId = report.id) ∨
    (Write.issuePlan ∉ call.writes ∧ Write.approval ∉ call.writes)

/-- The runs in which no other writer appends or decides on plans. -/
def NoOtherPlanner (scope : GoalScope) (report : VerificationGapReport)
    (_ : Moment ControlStore ControlCommand ControlCommand.Answer Thrown ControlCall
      ControlResult Empty) : Attempt ControlCommand ControlCall Empty → Prop
  | .spawn _ started => RemediatesOnly scope report started
  | _ => True

/-- Remediations that stay bound to their drafts: what a confirmation appends comes
after the failed plan and compiles, and a plan of the report that a confirmation finds
as the latest has the issues of its own draft. -/
def RemediationsBound (backend : IssuePlanBackend) (scope : GoalScope)
    (report : VerificationGapReport)
    (m : Moment ControlStore ControlCommand ControlCommand.Answer Thrown ControlCall
      ControlResult Empty) : Attempt ControlCommand ControlCall Empty → Prop
  | .spawn _ started => RemediatesOnly scope report started
  | .perform _ (.appendIssuePlan plan previous) =>
    (m.state.getLatestIssuePlan backend plan.scope).map (·.id) = previous →
      previous = some report.issuePlanId ∧
        (compileIssuePlan
          { requirements := plan.source.requirements
            acceptanceCriterionIds := plan.source.acceptanceCriterionIds
            issues := plan.issues }).valid = true
  | .perform pid (.getLatestIssuePlan latestScope) =>
    ∀ command, .spawned pid (.confirm command) ∈ m.past →
      ∀ plan, m.state.getLatestIssuePlan backend latestScope = some plan →
        plan.plannerRunId = gapPlannerRunId report.id →
        validateIssuePlanDraft command.draft = .ok plan.issues
  | _ => True

section Stays

variable {store' : ControlStore} {outside : ControlStore.Outside} {command : ControlCommand}
  {answer : Except Thrown command.Answer}

theorem getGapReport_of_exec {reportId : JsString}
    (h : ControlStore.exec backend outside command store = some (answer, store'))
    (hfound : store.getGapReport scope reportId = some report) :
    store'.getGapReport scope reportId = some report := by
  have hkeep : ∀ table : Sql.Table VerificationGapReport.id,
      (table.get reportId = store.gapReports.get reportId ∨
        ∃ row, table.get reportId = some row ∧ store.gapReports.get reportId = none) →
      store'.gapReports = table → store'.getGapReport scope reportId = some report := by
    intro table htable hreports
    obtain ⟨hget, -⟩ := Option.filter_eq_some_iff.mp hfound
    unfold ControlStore.getGapReport at hfound ⊢
    rw [hreports]
    rcases htable with hsame | ⟨row, -, hnone⟩
    · rw [hsame, hfound]
    · rw [hnone] at hget
      cases hget
  by_cases hwrite : command.write? = some .gapReport
  · cases command with
    | appendGapReport row =>
        rcases appendGapReport_cases (Option.some.inj h) with rfl | ⟨_, rfl⟩
        · exact hfound
        · refine hkeep (store.gapReports.insertNew row) ?_ rfl
          rw [Sql.Table.get_insertNew]
          split
          · next hkey => exact .inr ⟨row, rfl, hkey.2⟩
          · exact .inl rfl
    | _ => cases hwrite
  · exact hkeep store.gapReports (.inl rfl) ((frame_of_exec h).gapReports hwrite)

end Stays

section

variable
  (hrun : Run (controlPlane services backend) (RemediationsBound backend scope report) store c)

include hrun

theorem remediatesOnly_of_spawned {pid : ℕ} {call : ControlCall}
    (h : .spawned pid call ∈ c.now.past) : RemediatesOnly scope report call := by
  obtain ⟨m, hcond⟩ := cond_of_spawned hrun h
  exact hcond

theorem plansGrow_of_step
    (hstep : Step (controlPlane services backend) (RemediationsBound backend scope report) c c') :
    c'.now.state.issuePlans = c.now.state.issuePlans ∨
      ∃ pid plan previous call, Performed services backend c c' pid
          (.appendIssuePlan plan previous) (.ok plan) call ∧
        Appends c.now.state backend plan previous ∧
        c'.now.state.issuePlans = c.now.state.issuePlans ++ [plan] ∧
        RemediationsBound backend scope report c.now
          (.perform pid (.appendIssuePlan plan previous)) := by
  rcases performed_of_step hrun hstep with
    ⟨hstate, -⟩ | ⟨pid, command, answer, call, hperformed, hcond⟩
  · exact .inl (by rw [hstate])
  · obtain ⟨outside, hexec⟩ := hperformed.exec
    cases plansMove_of_exec hexec with
    | same _ _ hplans => exact .inl hplans
    | appended plan previous happends hplans =>
        exact .inr ⟨pid, plan, previous, call, hperformed, happends, hplans, hcond⟩
    | decided input _ _ =>
        have hwrite : Write.approval ∈ call.writes := hperformed.mem_writes rfl
        rcases remediatesOnly_of_spawned hrun hperformed.spawned with
          ⟨command, rfl, -, -⟩ | ⟨-, hnone⟩
        · simp [ControlCall.writes] at hwrite
        · exact absurd hwrite hnone

theorem mem_plans_of_steps {row : IssuePlan}
    (hsteps : Relation.ReflTransGen (Step (controlPlane services backend) (RemediationsBound
      backend scope report)) c c') (h : row ∈ c.now.state.issuePlans) :
    row ∈ c'.now.state.issuePlans := by
  induction hsteps with
  | refl => exact h
  | tail hprefix hstep ih =>
      rcases plansGrow_of_step (hrun.trans hprefix) hstep with
        hsame | ⟨_, plan, _, _, -, -, hplans, -⟩
      · rw [hsame]
        exact ih
      · rw [hplans]
        exact List.mem_append_left _ ih

end

variable {found : VerificationGapReport} {receipt : GapRemediationReceipt} {e : ControlEvent}
  {draft : Json}

section

variable
  (hrun : Run (controlPlane services backend) (RemediationsBound backend scope report) store c)

include hrun

theorem getGapReport_of_steps {reportId : JsString}
    (hsteps : Relation.ReflTransGen (Step (controlPlane services backend) (RemediationsBound
      backend scope report)) c c') (h : c.now.state.getGapReport scope reportId = some found) :
    c'.now.state.getGapReport scope reportId = some found := by
  induction hsteps with
  | refl => exact h
  | tail hprefix hstep ih =>
      rcases performed_of_step (hrun.trans hprefix) hstep with
        ⟨hstate, -⟩ | ⟨pid, command, answer, call, hperformed, -⟩
      · rw [hstate]
        exact ih
      · obtain ⟨outside, hexec⟩ := hperformed.exec
        exact getGapReport_of_exec hexec ih

theorem found_eq {pid : ℕ} (hreport : c.now.state.getGapReport scope report.id = some report)
    (h : .performed pid (.getGapReport scope report.id) (.ok (some found)) ∈ c.now.past) :
    found = report := by
  obtain ⟨c₀, c₁, started, hrun₀, hperformed, -, hstep, hsince⟩ := performed_of_mem hrun h
  obtain ⟨outside, hexec⟩ := hperformed.exec
  obtain ⟨hread, -⟩ := Prod.mk.inj (Option.some.inj hexec)
  have hlater := getGapReport_of_steps hrun₀ (hsince.head hstep) (Except.ok.inj hread)
  rw [hreport] at hlater
  exact (Option.some.inj hlater).symm

end

/-! ## One remediation -/

theorem remediatedBy_of_performed {pid : ℕ} {plan : IssuePlan} {previous : Option JsString}
    {answer : Except Thrown IssuePlan} {started : ControlCall} (hnamed : Named report)
    (hrun : Run (controlPlane services backend) (RemediationsBound backend scope report) store c)
    (hreport : c.now.state.getGapReport scope report.id = some report)
    (hperformed : Performed services backend c c' pid (.appendIssuePlan plan previous) answer
      started)
    (hprevious : previous = some report.issuePlanId)
    (hcompiles : (compileIssuePlan
      { requirements := plan.source.requirements
        acceptanceCriterionIds := plan.source.acceptanceCriterionIds
        issues := plan.issues }).valid = true) :
    RemediatedBy report plan ∧ plan.scope = scope ∧
      ∃ command, started = .confirm command ∧
        validateIssuePlanDraft command.draft = .ok plan.issues := by
  have hwrite : Write.issuePlan ∈ started.writes := hperformed.mem_writes rfl
  rcases remediatesOnly_of_spawned hrun hperformed.spawned with
    ⟨command, rfl, rfl, hreportId⟩ | ⟨hnone, -⟩
  · obtain ⟨read, ex₁, ex₂, hex, hread, hremediate⟩ :=
      drafts_of_reaches_confirm (reaches_tagged_iff.mp hperformed.reaches)
    obtain ⟨found, latest, ex₃, rfl, -, -, hdraft⟩ := drafts_of_reaches_remediate hremediate
    have hdrafted := (drafted_of_reaches_createDraft hdraft).1
    -- The report that was read is the one that is remediated.
    have hmem : ⟨.getGapReport command.scope command.reportId, .ok (some read)⟩ ∈
        exchangesOf pid c.now.past := by
      rw [hex]
      exact List.mem_append_left _ hread
    have hevent := mem_exchangesOf.mp hmem
    rw [hreportId] at hevent
    obtain rfl := found_eq hrun hreport hevent
    have hplanner : plan.plannerRunId = gapPlannerRunId read.id :=
      (Except.ok.inj (hnamed.symm.trans hdrafted.plannerRunId)).symm
    refine ⟨⟨?_, hplanner, ?_, hdrafted.status, ?_⟩, hdrafted.scope, command, rfl,
      hdrafted.issues⟩
    · rw [hdrafted.drafted.previous, hprevious]
    · rw [hdrafted.plannerConfiguration]
      rfl
    · rw [hdrafted.compilation]
      exact hcompiles
  · exact absurd hwrite hnone

theorem Remediable.step (hnamed : Named report)
    (hkept : PlansKept c') (h : Remediable backend scope report failed c.now.state)
    (hrun : Run (controlPlane services backend) (RemediationsBound backend scope report) store c)
    (hstep : Step (controlPlane services backend) (RemediationsBound backend scope report) c c') :
    Remediable backend scope report failed c'.now.state := by
  have hgoal : ∃ goal, c'.now.state.getGoal scope = some goal := by
    obtain ⟨goal, hgoal⟩ := h.goal
    rcases performed_of_step hrun hstep with
      ⟨hstate, -⟩ | ⟨pid, command, answer, started, hperformed, -⟩
    · exact ⟨goal, by rw [hstate, hgoal]⟩
    · obtain ⟨outside, hexec⟩ := hperformed.exec
      obtain ⟨goal', hgoal', -⟩ := getGoal_of_exec hexec hgoal
      exact ⟨goal', hgoal'⟩
  have hfound : c'.now.state.getGapReport scope report.id = some report :=
    getGapReport_of_steps hrun (.single hstep) h.found
  have hfair : PlansFair c'.now.state := ⟨hkept.distinct, hkept.chained⟩
  have hmem : failed ∈ c'.now.state.plansOf scope := by
    have hrow := mem_plans_of_steps hrun (.single hstep) (mem_plansOf.mp h.mem).1
    exact mem_plansOf.mpr ⟨hrow, (mem_plansOf.mp h.mem).2⟩
  rcases plansGrow_of_step hrun hstep with
    hsame | ⟨pid, plan, previous, started, hperformed, happends, hplans, hbound⟩
  · refine ⟨hfair, hgoal, hfound, hmem, h.ofReport, h.undrafted, ?_⟩
    rw [getLatestIssuePlan_congr (plansOf_congr hsame), hsame]
    exact h.latest
  · obtain ⟨hprevious, hcompiles⟩ := hbound happends.previous
    obtain ⟨hremediated, hscope, -⟩ :=
      remediatedBy_of_performed hnamed hrun h.found hperformed hprevious hcompiles
    subst hscope
    -- The failed plan was still the latest, so that nothing had been drafted.
    have hlatest := happends.previous
    rw [hprevious] at hlatest
    have hundrafted : ∀ row ∈ c.now.state.issuePlans,
        row.plannerRunId ≠ gapPlannerRunId report.id := by
      rcases h.latest with ⟨-, hundrafted⟩ | ⟨drafted, hdrafted, hremediated', honly⟩
      · exact hundrafted
      · rw [hdrafted, Option.map_some] at hlatest
        have hdraftedMem := mem_plansOf.mp (mem_of_getLatestIssuePlan hdrafted)
        have hsame : drafted = failed := by
          refine h.fair.distinct.eq_of_id_eq hdraftedMem.1 (mem_plansOf.mp h.mem).1 ?_
          rw [h.ofReport]
          exact Option.some.inj hlatest
        exact absurd (hsame ▸ hremediated'.run) h.undrafted
    refine ⟨hfair, hgoal, hfound, hmem, h.ofReport, h.undrafted, .inr ⟨plan, ?_, hremediated, ?_⟩⟩
    · rw [getLatestIssuePlan_eq (hfair.chained _)]
      unfold ControlStore.plansOf
      rw [hplans, List.filter_append, List.filter_cons_of_pos (by simp), List.filter_nil,
        List.getLast?_append_of_ne_nil _ (by simp), List.getLast?_singleton]
    · intro row hrow hplanner
      rw [hplans] at hrow
      rcases List.mem_append.mp hrow with hold | hnew
      · exact absurd hplanner (hundrafted row hold)
      · exact List.mem_singleton.mp hnew

theorem remediable_of_run (hnamed : Named report)
    (hreport : Remediable backend scope report failed store)
    (hrun : Run (controlPlane services backend) (RemediationsBound backend scope report) store c) :
    Remediable backend scope report failed c.now.state := by
  induction hrun with
  | refl => exact hreport
  | tail hprefix hstep ih =>
      exact ih.step hnamed (plansKept_of_run hreport.fair (.tail hprefix hstep)) hprefix hstep

/-! ## Receipts -/

/-- A receipt names a stored plan that has the issues of a draft. -/
def BoundTo (store : ControlStore) (receipt : GapRemediationReceipt) (draft : Json) : Prop :=
  ∃ row ∈ store.issuePlans, row.id = receipt.plan.id ∧
    validateIssuePlanDraft draft = .ok row.issues

section

variable (hnamed : Named report) (hreport : Remediable backend scope report failed store)
  (hrun : Run (controlPlane services backend) (RemediationsBound backend scope report) store c)

include hnamed hreport hrun

/-- A plan that was recovered or appended by a confirmation has the issues of its
draft. -/
theorem boundTo_of_remediation {pid : ℕ} {command : ConfirmCommand} {plan : RemediationPlan}
    (hspawned : .spawned pid (.confirm command) ∈ c.now.past)
    (hplan : (∃ latest, .performed pid (.getLatestIssuePlan command.scope) (.ok latest) ∈
      c.now.past ∧ recovery report latest = some plan) ∨ ∃ drafted previous appended, .performed
      pid (.appendIssuePlan drafted previous) (.ok appended) ∈ c.now.past ∧ plan =
      remediationPlanOf appended) (hreceipt : receipt.plan = plan) :
    BoundTo c.now.state receipt command.draft := by
  rcases hplan with ⟨latest, hread, hrecovery⟩ | ⟨drafted, previous, appended, happend, rfl⟩
  · -- What was recovered had been read as the latest plan, with the issues of the draft.
    obtain ⟨c₀, c₁, started, hrun₀, hperformed, hbound, hstep, hsince⟩ :=
      performed_of_mem hrun hread
    have hsteps := hsince.head hstep
    obtain ⟨outside, hexec⟩ := hperformed.exec
    obtain ⟨hlatest, -⟩ := Prod.mk.inj (Option.some.inj hexec)
    obtain ⟨row, hrow, hplan⟩ := Option.map_eq_some_iff.mp hrecovery
    obtain ⟨hrow', hrecovered⟩ := Option.filter_eq_some_iff.mp hrow
    obtain ⟨-, hplanner, -⟩ := of_decide_eq_true hrecovered
    have hfound : c₀.now.state.getLatestIssuePlan backend command.scope = some row :=
      (Except.ok.inj hlatest).trans hrow'
    have hcall := spawned_unique_of_run hrun hspawned
      (mem_past_of_steps hsteps hperformed.spawned)
    have hspawned₀ : .spawned pid (.confirm command) ∈ c₀.now.past := by
      rw [hcall]
      exact hperformed.spawned
    have hissues := hbound command hspawned₀ row hfound hplanner
    have hmem := (mem_plansOf.mp (mem_of_getLatestIssuePlan hfound)).1
    refine ⟨row, mem_plans_of_steps hrun₀ hsteps hmem, ?_, hissues⟩
    rw [hreceipt, ← hplan]
    rfl
  · -- What was appended was drafted from the draft.
    obtain ⟨c₀, c₁, started, hrun₀, hperformed, hbound, hstep, hsince⟩ :=
      performed_of_mem hrun happend
    obtain ⟨outside, hexec⟩ := hperformed.exec
    rcases appendIssuePlan_cases (Option.some.inj hexec) with
      ⟨error, herror, -⟩ | ⟨happends, hanswer, hstate⟩
    · cases herror
    · obtain rfl := Except.ok.inj hanswer
      obtain ⟨hprevious, hcompiles⟩ := hbound happends.previous
      obtain ⟨-, -, command', rfl, hissues⟩ := remediatedBy_of_performed hnamed hrun₀
        (remediable_of_run hnamed hreport hrun₀).found hperformed hprevious hcompiles
      have hcall := spawned_unique_of_run hrun hspawned
        (mem_past_of_steps (hsince.head hstep) hperformed.spawned)
      obtain rfl : command = command' := by injection hcall
      refine ⟨appended, mem_plans_of_steps (.tail hrun₀ hstep) hsince ?_, ?_, hissues⟩
      · rw [hstate]
        exact List.mem_append_right _ (List.mem_singleton_self _)
      · rw [hreceipt]
        rfl

theorem boundTo_of_saved {pid : ℕ} {command : ConfirmCommand} {record : GapRemediationRecord}
    {answer : Except Thrown GapRemediationReceipt}
    (hspawned : .spawned pid (.confirm command) ∈ c.now.past)
    (hsaved : .performed pid (.saveGapRemediation record) answer ∈ c.now.past) :
    BoundTo c.now.state record.receipt command.draft ∧
      ∃ checked, checkConfirmation command = .ok checked ∧
        record.lookup = lookupOf command report checked.2 ∧
        record.requestHash = services.confirmHash (requestOf command report checked.1) := by
  obtain ⟨c₀, c₁, started, hrun₀, hperformed, -, hstep, hsince⟩ := performed_of_mem hrun hsaved
  have hpast : ∀ {e : ControlEvent}, e ∈ c₀.now.past → e ∈ c.now.past :=
    fun he => mem_past_of_steps (hsince.head hstep) he
  obtain rfl := spawned_unique_of_run hrun (hpast hperformed.spawned) hspawned
  obtain ⟨found, checked, hsaves⟩ :=
    saves_of_reaches (reaches_tagged_iff.mp hperformed.reaches)
  have hfound : found = report := by
    have hevent := mem_exchangesOf.mp hsaves.found
    rcases remediatesOnly_of_spawned hrun hspawned with
      ⟨command', hcommand, hscope, hreportId⟩ | ⟨hnone, -⟩
    · injection hcommand with hcommand
      subst hcommand
      rw [hscope, hreportId] at hevent
      exact found_eq hrun₀ (remediable_of_run hnamed hreport hrun₀).found hevent
    · simp [ControlCall.writes] at hnone
  subst hfound
  obtain ⟨ex', hsub, hends⟩ := hsaves.plan
  refine ⟨boundTo_of_remediation hnamed hreport hrun hspawned ?_ rfl, checked, hsaves.checks,
    hsaves.lookup, hsaves.requestHash⟩
  rcases remediation_of_ends hends with
    ⟨latest, hread, hrecovery⟩ | ⟨drafted, previous, appended, happend, hplan⟩
  · exact .inl ⟨latest, hpast (mem_exchangesOf.mp (hsub _ hread)), hrecovery⟩
  · exact .inr ⟨drafted, previous, appended, hpast (mem_exchangesOf.mp (hsub _ happend)), hplan⟩

end

theorem exists_saved_of_mem {record : GapRemediationRecord}
    (hrun : Run (controlPlane services backend) (RemediationsBound backend scope report) store c)
    (hunsaved : ∀ record ∈ store.remediations, record.lookup.reportId ≠ report.id)
    (hmem : record ∈ c.now.state.remediations) (hreportId : record.lookup.reportId = report.id) :
    ∃ pid command answer, .spawned pid (.confirm command) ∈ c.now.past ∧
      .performed pid (.saveGapRemediation record) answer ∈ c.now.past := by
  induction hrun with
  | refl => exact absurd hreportId (hunsaved record hmem)
  | @tail d e hprefix hstep ih =>
      obtain ⟨event, hpast⟩ := hstep.past
      have hold : record ∈ d.now.state.remediations →
          ∃ pid command answer, .spawned pid (.confirm command) ∈ e.now.past ∧
            .performed pid (.saveGapRemediation record) answer ∈ e.now.past := by
        intro hrecord
        obtain ⟨pid, command, answer, hspawned, hsaved⟩ := ih hrecord
        rw [hpast]
        exact ⟨pid, command, answer, List.mem_cons_of_mem _ hspawned,
          List.mem_cons_of_mem _ hsaved⟩
      rcases performed_of_step hprefix hstep with
        ⟨hstate, -⟩ | ⟨pid, command, answer, started, hperformed, -⟩
      · rw [hstate] at hmem
        exact hold hmem
      · obtain ⟨outside, hexec⟩ := hperformed.exec
        by_cases hwrite : command.write? = some .remediation
        · cases command with
          | saveGapRemediation saved =>
              rcases saveGapRemediation_cases (Option.some.inj hexec) with hstate | hstate
              · rw [hstate] at hmem
                exact hold hmem
              · rw [hstate] at hmem
                rcases List.mem_cons.mp hmem with rfl | hrecord
                · have hwrites : Write.remediation ∈ started.writes := hperformed.mem_writes rfl
                  cases started with
                  | confirm confirmation =>
                      refine ⟨pid, confirmation, answer, ?_, ?_⟩
                      · rw [hperformed.past]
                        exact List.mem_cons_of_mem _ hperformed.spawned
                      · rw [hperformed.past]
                        exact List.mem_cons_self
                  | _ => simp [ControlCall.writes] at hwrites
                · exact hold hrecord
          | _ => cases hwrite
        · rw [(frame_of_exec hexec).remediations hwrite] at hmem
          exact hold hmem

/-- Confirmations of a run whose requests have the same hash have drafts that validate
alike. -/
def HashesApart (services : ControlServices) (report : VerificationGapReport)
    (c : ControlConfig) : Prop :=
  ∀ pid pid' command command' checked checked',
    .spawned pid (.confirm command) ∈ c.now.past →
    .spawned pid' (.confirm command') ∈ c.now.past →
    checkConfirmation command = .ok checked → checkConfirmation command' = .ok checked' →
    services.confirmHash (requestOf command report checked.1) =
      services.confirmHash (requestOf command' report checked'.1) →
    validateIssuePlanDraft command.draft = validateIssuePlanDraft command'.draft

section

variable (hnamed : Named report) (hreport : Remediable backend scope report failed store)

include hnamed hreport

theorem boundTo_of_kept {pid : ℕ} {command : ConfirmCommand} {record : GapRemediationRecord}
    {checked : JsString × JsString}
    (hunsaved : ∀ record ∈ store.remediations, record.lookup.reportId ≠ report.id)
    (hrun : Run (controlPlane services backend) (RemediationsBound backend scope report) store c)
    (hhashes : HashesApart services report c)
    (hspawned : .spawned pid (.confirm command) ∈ c.now.past) {c₀ : ControlConfig}
    (hrun₀ : Run (controlPlane services backend) (RemediationsBound backend scope report) store
      c₀)
    (hsteps : Relation.ReflTransGen (Step (controlPlane services backend) (RemediationsBound
      backend scope report)) c₀ c) (hmem : record ∈ c₀.now.state.remediations)
    (hlookup : record.lookup = lookupOf command report checked.2)
    (hchecked : checkConfirmation command = .ok checked)
    (hhash : record.requestHash = services.confirmHash (requestOf command report checked.1)) :
    BoundTo c.now.state record.receipt command.draft := by
  have hreportId : record.lookup.reportId = report.id := by
    rw [hlookup]
    rfl
  obtain ⟨pid', command', answer, hspawned', hsaved⟩ :=
    exists_saved_of_mem hrun₀ hunsaved hmem hreportId
  have hspawned'' := mem_past_of_steps hsteps hspawned'
  obtain ⟨⟨row, hrow, hid, hissues⟩, checked', hchecked', -, hhash'⟩ :=
    boundTo_of_saved hnamed hreport hrun hspawned'' (mem_past_of_steps hsteps hsaved)
  refine ⟨row, hrow, hid, ?_⟩
  rw [← hissues]
  exact hhashes pid pid' command command' checked checked' hspawned hspawned'' hchecked
    hchecked' (hhash.symm.trans hhash')

theorem boundTo_of_returned {pid : ℕ} {command : ConfirmCommand}
    (hunsaved : ∀ record ∈ store.remediations, record.lookup.reportId ≠ report.id)
    (hrun : Run (controlPlane services backend) (RemediationsBound backend scope report) store c)
    (hhashes : HashesApart services report c)
    (hspawned : .spawned pid (.confirm command) ∈ c.now.past)
    (hreturned : .finished pid (.ok (.remediation receipt)) ∈ c.now.past) :
    BoundTo c.now.state receipt command.draft := by
  obtain ⟨ex, hends, hperformed⟩ := ends_of_finished hrun hspawned hreturned
  obtain ⟨receipt', hends', htag⟩ := ends_tagged_iff.mp hends
  obtain rfl : receipt' = receipt := by injection htag
  have hfound : ∀ found, .performed pid (.getGapReport command.scope command.reportId)
      (.ok (some found)) ∈ c.now.past → found = report := by
    intro found hevent
    rcases remediatesOnly_of_spawned hrun hspawned with
      ⟨command', hcommand, hscope, hreportId⟩ | ⟨hnone, -⟩
    · injection hcommand with hcommand
      subst hcommand
      rw [hscope, hreportId] at hevent
      exact found_eq hrun (remediable_of_run hnamed hreport hrun).found hevent
    · simp [ControlCall.writes] at hnone
  rcases receipt_of_ends hends' with
    ⟨found, checked, saved, hchecked, hread, hfind, hhash, rfl⟩ | ⟨record, hsave⟩
  · obtain rfl := hfound found (hperformed _ hread)
    obtain ⟨c₀, c₁, started, hrun₀, hstarted, -, hstep, hsince⟩ :=
      performed_of_mem hrun (hperformed _ hfind)
    obtain ⟨outside, hexec⟩ := hstarted.exec
    obtain ⟨hkept, -⟩ := Prod.mk.inj (Option.some.inj hexec)
    obtain ⟨hmem, hlookup⟩ := mem_of_findGapRemediation (Except.ok.inj hkept)
    exact boundTo_of_kept hnamed hreport hunsaved hrun hhashes hspawned hrun₀
      (hsince.head hstep) hmem hlookup hchecked hhash
  · have hevent := hperformed _ hsave
    obtain ⟨hbound, checked, hchecked, hlookup, hhash⟩ :=
      boundTo_of_saved hnamed hreport hrun hspawned hevent
    obtain ⟨c₀, c₁, started, hrun₀, hstarted, -, hstep, hsince⟩ :=
      performed_of_mem hrun hevent
    obtain ⟨outside, hexec⟩ := hstarted.exec
    rcases saveGapRemediation_ok (Option.some.inj hexec) with
      rfl | ⟨saved, hmem, hlookup', hhash', rfl⟩
    · exact hbound
    · exact boundTo_of_kept hnamed hreport hunsaved hrun hhashes hspawned hrun₀
        (hsince.head hstep) hmem (hlookup'.trans hlookup) hchecked (hhash'.trans hhash)

end

/-- One remediation of a report, bound to the draft that was confirmed: at most one
plan is drafted, receipts name a plan with the issues of their request's draft, and a
draft that compiles can still be confirmed. -/
structure RemediatedOnce (services : ControlServices) (backend : IssuePlanBackend)
    (scope : GoalScope) (report : VerificationGapReport) (failed : IssuePlan)
    (c : ControlConfig) : Prop where
  once : ∀ row ∈ c.now.state.issuePlans, ∀ row' ∈ c.now.state.issuePlans,
    row.plannerRunId = gapPlannerRunId report.id →
    row'.plannerRunId = gapPlannerRunId report.id → row = row'
  returned : ∀ pid command receipt, .spawned pid (.confirm command) ∈ c.now.past →
    .finished pid (.ok (.remediation receipt)) ∈ c.now.past →
    BoundTo c.now.state receipt command.draft
  stored : ∀ pid command record answer, .spawned pid (.confirm command) ∈ c.now.past →
    .performed pid (.saveGapRemediation record) (.ok answer) ∈ c.now.past →
    BoundTo c.now.state record.receipt command.draft
  confirmable : ∀ command result store',
    Confirmable services.confirmHash command scope report failed c.now.state →
    Alone (execGranting backend) (confirm services.issuePlans services.confirmHash command)
      c.now.state result store' →
    ∃ receipt, result = .ok receipt

/-- Where remediations stay bound to their drafts, a report is remediated once. -/
theorem remediatedOnce_of_bound (hnamed : Named report)
    (hreport : Remediable backend scope report failed store)
    (hunsaved : ∀ record ∈ store.remediations, record.lookup.reportId ≠ report.id)
    (hrun : Run (controlPlane services backend) (RemediationsBound backend scope report) store c)
    (hhashes : HashesApart services report c) :
    RemediatedOnce services backend scope report failed c := by
  have hnow := remediable_of_run hnamed hreport hrun
  constructor
  · intro row hrow row' hrow' hplanner hplanner'
    rcases hnow.latest with ⟨-, hundrafted⟩ | ⟨plan, -, -, honly⟩
    · exact absurd hplanner (hundrafted row hrow)
    · rw [honly row hrow hplanner, honly row' hrow' hplanner']
  · intro pid command receipt hspawned hreturned
    exact boundTo_of_returned hnamed hreport hunsaved hrun hhashes hspawned hreturned
  · intro pid command record answer hspawned hsaved
    exact (boundTo_of_saved hnamed hreport hrun hspawned hsaved).1
  · intro command result store' hcommand halone
    exact confirm_of_alone hnow hnamed hcommand halone

/-! ## Confirming a sample report -/

def sampleVerification : GoalVerification where
  id := js "verification"
  organizationId := js "org"
  projectId := js "project"
  goalId := js "goal"
  verificationPlanId := js "plan"
  issuePlanId := js "issue-plan"
  revision := 1
  previousVerificationId := none
  goalVersion := 3
  verdict := .failed
  deterministicResults := []
  verifierOutput :=
    { overallVerdict := .string (js "failed")
      criteria := []
      nonGoals := []
      constraints := []
      regressionRisks := [] }
  verifierIdentity := js "verifier"
  verifierVersion := js "1"
  sessionId := js "session"
  verifiedAt := 1
  version := 1

def sampleGapReport : VerificationGapReport where
  id := js "report"
  organizationId := js "org"
  projectId := js "project"
  goalId := js "goal"
  verificationId := js "verification"
  issuePlanId := js "issue-plan"
  failedCriterionRefs := [js "c1"]
  preservedEvidenceRefs := []
  gaps := [
    { sourceKind := .acceptanceCriterion
      sourceRef := js "c1"
      criterionRef := some (js "c1")
      currentEvidenceRefs := []
      gap := js "It does not work"
      impact := js "The criterion remains unproved"
      suggestedRemediation := js "Revise the plan" }]
  identified := by simp
  createdBy := js "actor"
  createdAt := 1
  version := 1

def sampleFailedPlan : IssuePlan :=
  { sampleIssuePlan with
    source := { sampleIssuePlan.source with
      requirements := [{ id := js "r1", acceptanceCriterionRefs := [js "c1"] }] } }

def sampleReportStore : ControlStore :=
  { sampleStore with
    issuePlans := [sampleFailedPlan]
    verifications := { rows := [sampleVerification], nodup := by decide }
    gapReports := { rows := [sampleGapReport], nodup := by decide }
    gapReportsBound := by
      intro report hreport
      obtain rfl := List.mem_singleton.mp hreport
      exact ⟨sampleVerification, List.mem_singleton_self _, rfl, rfl⟩ }

def sampleDraft (title : String) : Json :=
  .object
    [(js "schemaVersion", .string issuePlanDraftSchemaVersion),
      (js "issues", .array [sampleIssue title])]

def sampleConfirm (key title : String) : ConfirmCommand where
  scope := sampleScope
  reportId := js "report"
  actorId := js "actor"
  humanConfirmed := true
  reason := js key
  idempotencyKey := js key
  draft := sampleDraft title

theorem draft_sampleConfirm {key title : String} :
    (sampleConfirm key title).draft = sampleDraft title := rfl

theorem sampleReportStore_remediable : Remediable .postgres sampleScope sampleGapReport
    sampleFailedPlan sampleReportStore where
  fair := plansFair_of_single rfl rfl rfl
  goal := ⟨sampleGoal, rfl⟩
  found := rfl
  mem := List.mem_singleton_self _
  ofReport := rfl
  undrafted := by decide
  latest := .inl ⟨rfl, by decide⟩

theorem sampleGapReport_named : Named sampleGapReport := rfl

def startsOneOf (commands : List ConfirmCommand) : ControlEvent → Bool
  | .spawned _ (.confirm command) => command ∈ commands
  | _ => true

theorem hashesApart_of_startsOneOf {commands : List ConfirmCommand}
    (hstarts : c.now.past.all (startsOneOf commands) = true)
    (hcommands : ∀ command ∈ commands, ∀ command' ∈ commands, ∀ checked checked',
      checkConfirmation command = .ok checked → checkConfirmation command' = .ok checked' →
      services.confirmHash (requestOf command report checked.1) =
        services.confirmHash (requestOf command' report checked'.1) →
      validateIssuePlanDraft command.draft = validateIssuePlanDraft command'.draft) :
    HashesApart services report c := by
  have hmem : ∀ {pid command}, .spawned pid (.confirm command) ∈ c.now.past →
      command ∈ commands :=
    fun hspawned => of_decide_eq_true (List.all_eq_true.mp hstarts _ hspawned)
  intro pid pid' command command' checked checked' hspawned hspawned'
  exact hcommands command (hmem hspawned) command' (hmem hspawned') checked checked'

def startsAs (pid : ℕ) (command : ConfirmCommand) : ControlEvent → Bool
  | .spawned pid' (.confirm command') => pid' = pid ∧ command' = command
  | _ => false

theorem eq_of_startsAs {pid : ℕ} {command : ConfirmCommand} (h : startsAs pid command e = true) :
    e = .spawned pid (.confirm command) := by
  unfold startsAs at h
  split at h
  · obtain ⟨rfl, rfl⟩ := of_decide_eq_true h
    rfl
  · cases h

def validatesTo (draft : Json) (issues : List IssueDraft) : Bool :=
  match validateIssuePlanDraft draft with
  | .ok validated => validated = issues
  | .error _ => false

theorem validatesTo_iff {issues : List IssueDraft} :
    validatesTo draft issues = true ↔ validateIssuePlanDraft draft = .ok issues := by
  unfold validatesTo
  split
  · next validated hvalidated =>
    rw [decide_eq_true_eq, hvalidated]
    exact ⟨fun h => by rw [h], fun h => Except.ok.inj h⟩
  · next error herror =>
    rw [herror]
    exact ⟨nofun, nofun⟩

def remediationsBound (m : Moment ControlStore ControlCommand ControlCommand.Answer Thrown
    ControlCall ControlResult Empty) : Attempt ControlCommand ControlCall Empty → Bool
  | .spawn _ (.confirm command) => command.scope = sampleScope ∧ command.reportId = js "report"
  | .spawn _ _ => false
  | .perform _ (.appendIssuePlan plan previous) =>
    previous = some (js "issue-plan") ∧
      (compileIssuePlan
        { requirements := plan.source.requirements
          acceptanceCriterionIds := plan.source.acceptanceCriterionIds
          issues := plan.issues }).valid = true
  | .perform _ (.getLatestIssuePlan scope) => m.past.all fun e => match e with
    | .spawned _ (.confirm command) =>
      (m.state.getLatestIssuePlan .postgres scope).all fun plan =>
        plan.plannerRunId ≠ gapPlannerRunId (js "report") ||
          validatesTo command.draft plan.issues
    | _ => true
  | _ => true

theorem remediationsBound_sound (m : Moment ControlStore ControlCommand ControlCommand.Answer
    Thrown ControlCall ControlResult Empty) (attempt : Attempt ControlCommand ControlCall Empty)
    (h : remediationsBound m attempt = true) :
    RemediationsBound .postgres sampleScope sampleGapReport m attempt := by
  unfold RemediationsBound
  split
  · next pid started =>
    cases started with
    | confirm command =>
        obtain ⟨hscope, hreportId⟩ := of_decide_eq_true h
        exact .inl ⟨command, rfl, hscope, hreportId⟩
    | _ => cases h
  · exact fun _ => of_decide_eq_true h
  · intro command hspawned plan hlatest hplanner
    have hall := List.all_eq_true.mp h _ hspawned
    simp only [hlatest, Option.all_some, Bool.or_eq_true, decide_eq_true_eq] at hall
    exact validatesTo_iff.mp (hall.resolve_left fun hne => hne hplanner)
  · trivial

/-- A confirmation crashes after its plan was appended, and another one recovers the
plan with the same draft. -/
theorem remediatedOnce_of_bound_recovered : ∃ c : ControlConfig,
    c.now.state.issuePlans.length = 2 ∧ c.now.state.remediations.length = 1 ∧
      RemediatedOnce sampleServices .postgres sampleScope sampleGapReport sampleFailedPlan c := by
  let first := sampleConfirm "confirm-1" "First"
  let second := sampleConfirm "confirm-2" "First"
  let actions : List (Action ControlCall ControlStore.Outside Empty) :=
    .spawn (.confirm first) :: samplePerforms 0 0 10 ++
      .crash 0 :: .spawn (.confirm second) :: samplePerforms 1 20 7 ++ [.finish 1]
  let sys := controlPlane sampleServices .postgres
  have hrun : (executeWhile sys remediationsBound (Config.initial sampleReportStore) actions).any
      (fun c => c.now.state.issuePlans.length = 2 ∧ c.now.state.remediations.length = 1 ∧
        c.now.past.all (startsOneOf [first, second]) = true) = true := by
    decide +kernel
  obtain ⟨c, hactions, hchecks⟩ := (Option.any_eq_true _ _).mp hrun
  obtain ⟨hplans, hremediations, hstarts⟩ := of_decide_eq_true hchecks
  refine ⟨c, hplans, hremediations, remediatedOnce_of_bound sampleGapReport_named
    sampleReportStore_remediable (fun record h => absurd h List.not_mem_nil)
    (run_of_executeWhile remediationsBound_sound hactions)
    (hashesApart_of_startsOneOf hstarts ?_)⟩
  have hdraft : ∀ command ∈ [first, second], command.draft = sampleDraft "First" := by
    intro command hcommand
    rcases List.mem_cons.mp hcommand with rfl | hcommand
    · exact draft_sampleConfirm
    · obtain rfl := List.mem_singleton.mp hcommand
      exact draft_sampleConfirm
  intro command hcommand command' hcommand' _ _ _ _ _
  rw [hdraft command hcommand, hdraft command' hcommand']

def isUnbound (store : ControlStore) (pid : ℕ) (draft : Json) : ControlEvent → Bool
  | .finished pid' (.ok (.remediation receipt)) =>
    pid' = pid && store.issuePlans.all fun row =>
      row.id ≠ receipt.plan.id || !validatesTo draft row.issues
  | _ => false

def noOtherPlanner (_ : Moment ControlStore ControlCommand ControlCommand.Answer Thrown
    ControlCall ControlResult Empty) : Attempt ControlCommand ControlCall Empty → Bool
  | .spawn _ (.confirm command) => command.scope = sampleScope ∧ command.reportId = js "report"
  | .spawn _ _ => false
  | _ => true

theorem noOtherPlanner_sound (m : Moment ControlStore ControlCommand ControlCommand.Answer
    Thrown ControlCall ControlResult Empty) (attempt : Attempt ControlCommand ControlCall Empty)
    (h : noOtherPlanner m attempt = true) : NoOtherPlanner sampleScope sampleGapReport m attempt := by
  unfold NoOtherPlanner
  split
  · next pid started =>
    cases started with
    | confirm command =>
        obtain ⟨hscope, hreportId⟩ := of_decide_eq_true h
        exact .inl ⟨command, rfl, hscope, hreportId⟩
    | _ => cases h
  · trivial

theorem exists_receipt_of_isUnbound {pid : ℕ} (h : isUnbound store pid draft e = true) :
    ∃ receipt, e = .finished pid (.ok (.remediation receipt)) ∧ ¬ BoundTo store receipt draft := by
  unfold isUnbound at h
  split at h
  · next pid' receipt =>
    rw [Bool.and_eq_true] at h
    obtain ⟨hpid, hrows⟩ := h
    obtain rfl := of_decide_eq_true hpid
    refine ⟨receipt, rfl, ?_⟩
    rintro ⟨row, hrow, hid, hissues⟩
    have hrow' := List.all_eq_true.mp hrows row hrow
    rw [validatesTo_iff.mpr hissues] at hrow'
    simp [hid] at hrow'
  · cases h

/-- A confirmation crashes after its plan was appended, and another one answers that
plan for a draft of its own. -/
theorem not_remediatedOnce : ¬ ∀ (services : ControlServices) (backend : IssuePlanBackend)
    (store : ControlStore) (scope : GoalScope) (report : VerificationGapReport)
    (failed : IssuePlan) (c : ControlConfig), Named report →
    Remediable backend scope report failed store →
    (∀ record ∈ store.remediations, record.lookup.reportId ≠ report.id) →
    Run (controlPlane services backend) (NoOtherPlanner scope report) store c →
    HashesApart services report c → RemediatedOnce services backend scope report failed c := by
  intro hall
  let first := sampleConfirm "confirm-1" "First"
  let second := sampleConfirm "confirm-2" "Second"
  let actions : List (Action ControlCall ControlStore.Outside Empty) :=
    .spawn (.confirm first) :: samplePerforms 0 0 10 ++
      .crash 0 :: .spawn (.confirm second) :: samplePerforms 1 20 7 ++ [.finish 1]
  let sys := controlPlane sampleServices .postgres
  have hrun : (executeWhile sys noOtherPlanner (Config.initial sampleReportStore) actions).any
      (fun c => c.now.past.any (startsAs 1 second) = true ∧
        c.now.past.any (isUnbound c.now.state 1 (sampleDraft "Second")) = true ∧
        c.now.past.all (startsOneOf [first, second]) = true) = true := by
    decide +kernel
  obtain ⟨c, hactions, hchecks⟩ := (Option.any_eq_true _ _).mp hrun
  obtain ⟨hstarted, hunbound, hstarts⟩ := of_decide_eq_true hchecks
  have hreason : (checkConfirmation first).toOption.map Prod.fst = some (js "confirm-1") := by
    decide +kernel
  have hreason' : (checkConfirmation second).toOption.map Prod.fst = some (js "confirm-2") := by
    decide +kernel
  have hreasons : ∀ command ∈ [first, second], ∀ checked,
      checkConfirmation command = .ok checked →
      command = first ∧ checked.1 = js "confirm-1" ∨
        command = second ∧ checked.1 = js "confirm-2" := by
    intro command hcommand checked hchecked
    rcases List.mem_cons.mp hcommand with rfl | hcommand
    · rw [hchecked] at hreason
      exact .inl ⟨rfl, Option.some.inj hreason⟩
    · obtain rfl := List.mem_singleton.mp hcommand
      rw [hchecked] at hreason'
      exact .inr ⟨rfl, Option.some.inj hreason'⟩
  have hdiffer : js "confirm-1" ≠ js "confirm-2" := by decide
  have hapart : HashesApart sampleServices sampleGapReport c := by
    refine hashesApart_of_startsOneOf hstarts ?_
    intro command hcommand command' hcommand' checked checked' hchecked hchecked' hhash
    change checked.1 = checked'.1 at hhash
    rcases hreasons command hcommand checked hchecked with ⟨rfl, hfirst⟩ | ⟨rfl, hsecond⟩
    · rcases hreasons command' hcommand' checked' hchecked' with ⟨rfl, -⟩ | ⟨-, hsecond⟩
      · rfl
      · exact absurd (hfirst.symm.trans (hhash.trans hsecond)) hdiffer
    · rcases hreasons command' hcommand' checked' hchecked' with ⟨-, hfirst⟩ | ⟨rfl, -⟩
      · exact absurd (hfirst.symm.trans (hhash.symm.trans hsecond)) hdiffer
      · rfl
  have hremediated := hall sampleServices .postgres sampleReportStore sampleScope sampleGapReport
    sampleFailedPlan c sampleGapReport_named sampleReportStore_remediable
    (fun record h => absurd h List.not_mem_nil)
    (run_of_executeWhile noOtherPlanner_sound hactions) hapart
  obtain ⟨e, hmem, hstarted'⟩ := List.any_eq_true.mp hstarted
  obtain rfl := eq_of_startsAs hstarted'
  obtain ⟨e', hmem', hunbound'⟩ := List.any_eq_true.mp hunbound
  obtain ⟨receipt, rfl, hnot⟩ := exists_receipt_of_isUnbound hunbound'
  have hbound := hremediated.returned 1 second receipt hmem hmem'
  rw [draft_sampleConfirm] at hbound
  exact hnot hbound

end DevHarness.ControlPlane
