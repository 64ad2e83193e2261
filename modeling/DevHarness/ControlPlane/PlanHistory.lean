import DevHarness.ControlPlane.GoalHistory
import DevHarness.ControlPlane.PlanChain

/-!
# The history of issue plans

What a process did before it appends an issue plan or commits a decision on one, and
what follows over a run: the identifiers of plans stay distinct, the plans of a scope
stay a chain, and a plan that was read is still there, unless it has been decided on,
exactly as it was read.
-/

namespace DevHarness.ControlPlane

open JsText Interleave Program

variable {services : ControlServices} {backend : IssuePlanBackend} {store : ControlStore}
  {ex : List (Exchange ControlCommand ControlCommand.Answer Thrown)} {plan : IssuePlan}
  {previous : Option JsString}

/-! ## Before a plan is appended -/

/-- A plan as a call drafts it: under an identifier that was generated for it, and
after a plan that was read, or none. -/
structure Drafted (ex : List (Exchange ControlCommand ControlCommand.Answer Thrown))
    (plan : IssuePlan) (previous : Option JsString) : Prop where
  generated : ⟨.newId, .ok plan.id⟩ ∈ ex
  previous : plan.previousPlanId = previous

theorem Drafted.mono {ex' : List (Exchange ControlCommand ControlCommand.Answer Thrown)}
    {plan : IssuePlan} {previous : Option JsString} (h : Drafted ex plan previous)
    (hsub : ∀ x ∈ ex, x ∈ ex') : Drafted ex' plan previous :=
  ⟨hsub _ h.generated, h.previous⟩

section Reaches

variable {service : IssuePlanService} {input : BuildInput} {command : ConfirmCommand}
  {report : VerificationGapReport}

theorem plan_of_ends_build (h : Ends (build service input) ex (.ok plan)) :
    ∃ recommendations now id, ⟨.newId, .ok id⟩ ∈ ex ∧
      plan =
        { builtPlan service input recommendations now id with
          digest := service.planDigest (builtPlan service input recommendations now id) } := by
  obtain ⟨recommendations, -, h₁⟩ := ends_done_bind_iff.mp h
  obtain ⟨now, ex₁, rfl, h₂⟩ := ends_request_bind_iff.mp h₁
  obtain ⟨id, ex₂, rfl, h₃⟩ := ends_request_bind_iff.mp h₂
  obtain ⟨-, hplan⟩ := ends_pure_iff.mp h₃
  exact ⟨recommendations, now, id, by simp, Except.ok.inj hplan⟩

theorem drafted_of_reaches_build {previous' : Option JsString}
    (h : Reaches (build service input >>= fun plan => await (.appendIssuePlan plan previous')) ex
      (.appendIssuePlan plan previous)) (hinput : input.previous.map (·.id) = previous') :
    Drafted ex plan previous ∧ previous = previous' ∧
      ∃ recommendations now id, plan =
        { builtPlan service input recommendations now id with
          digest := service.planDigest (builtPlan service input recommendations now id) } := by
  have hbuild : Only (Writes []) (build service input) := only_build
  obtain ⟨built, ex₁, ex₂, rfl, hends, h₁⟩ :=
    reaches_bind_of_only hbuild (by simp [Writes, ControlCommand.write?]) h
  obtain ⟨rfl, hcommand⟩ := reaches_request_iff.mp h₁
  injection hcommand with hplan hprevious
  subst hplan
  subst hprevious
  obtain ⟨recommendations, now, id, hid, rfl⟩ := plan_of_ends_build hends
  refine ⟨⟨?_, hinput⟩, rfl, recommendations, now, id, rfl⟩
  rw [List.append_nil]
  exact hid

/-- A plan that was drafted from a command: what it was made of, and the latest plan
that was read before. -/
structure DraftedFrom (ex : List (Exchange ControlCommand ControlCommand.Answer Thrown))
    (command : CreateDraftCommand) (plan : IssuePlan) (previous : Option JsString) : Prop where
  drafted : Drafted ex plan previous
  scope : plan.scope = command.scope
  source : plan.source = command.source
  issues : validateIssuePlanDraft command.draft = .ok plan.issues
  plannerRunId : nonBlank command.plannerRunId (js "plannerRunId") 200 = .ok plan.plannerRunId
  plannerConfiguration : plan.plannerConfiguration = command.plannerConfiguration
  compilation : plan.compilation = compileIssuePlan
    { requirements := plan.source.requirements
      acceptanceCriterionIds := plan.source.acceptanceCriterionIds
      issues := plan.issues }
  status : plan.status = .draft

theorem drafted_of_reaches_createDraft {command : CreateDraftCommand}
    (h : Reaches (createDraft service command) ex (.appendIssuePlan plan previous)) :
    DraftedFrom ex command plan previous ∧
      ∃ read, ⟨.getLatestIssuePlan command.scope, .ok read⟩ ∈ ex ∧
        previous = read.map (·.id) := by
  obtain ⟨-, ex₁, rfl, h₁⟩ := reaches_behind h nofun
  obtain ⟨issues, hissues, h₂⟩ := reaches_done_bind_iff.mp h₁
  obtain ⟨read, ex₂, rfl, h₃⟩ := reaches_behind h₂ nofun
  obtain ⟨plannerRunId, hrun, h₄⟩ := reaches_done_bind_iff.mp h₃
  obtain ⟨hdrafted, rfl, recommendations, now, id, rfl⟩ := drafted_of_reaches_build h₄ rfl
  refine ⟨⟨hdrafted.mono fun x hx => ?_, rfl, rfl, hissues, hrun, rfl, rfl, rfl⟩,
    read, ?_, rfl⟩
  · exact List.mem_cons_of_mem _ (List.mem_cons_of_mem _ hx)
  · exact List.mem_cons_of_mem _ List.mem_cons_self

theorem currentDraft_eq_ok {expectedVersion : ℤ} {found latest : Option IssuePlan}
    {current : IssuePlan} (h : currentDraft expectedVersion found latest = .ok current) :
    found = some current ∧ latest.map (·.id) = some current.id ∧
      (current.version : ℤ) = expectedVersion ∧ current.status = .draft := by
  unfold currentDraft at h
  split at h
  · split at h
    · cases h
    · next hchecks =>
      obtain rfl := Except.ok.inj h
      simp only [not_or, not_not] at hchecks
      exact ⟨rfl, hchecks⟩
  · cases h

theorem drafted_of_reaches_revise {command : ReviseCommand}
    (h : Reaches (revise service command) ex (.appendIssuePlan plan previous)) :
    Drafted ex plan previous ∧ plan.scope = command.scope ∧
      ∃ current, ⟨.getIssuePlan command.scope command.planId, .ok (some current)⟩ ∈ ex ∧
        previous = some current.id ∧ (current.version : ℤ) = command.expectedVersion ∧
        current.status = .draft := by
  obtain ⟨-, ex₁, rfl, h₁⟩ := reaches_behind h nofun
  obtain ⟨-, -, h₂⟩ := reaches_done_bind_iff.mp h₁
  obtain ⟨-, -, h₃⟩ := reaches_done_bind_iff.mp h₂
  obtain ⟨-, -, h₄⟩ := reaches_done_bind_iff.mp h₃
  obtain ⟨found, ex₂, rfl, h₅⟩ := reaches_behind h₄ nofun
  obtain ⟨latest, ex₃, rfl, h₆⟩ := reaches_behind h₅ nofun
  obtain ⟨current, hcurrent, h₇⟩ := reaches_done_bind_iff.mp h₆
  obtain ⟨issues, -, h₈⟩ := reaches_done_bind_iff.mp h₇
  obtain ⟨-, -, h₉⟩ := reaches_done_bind_iff.mp h₈
  have hroutes : Only (Writes []) (Program.forEach (submittedRoute command.actorId)
      command.modelOverrides) := only_forEach only_submittedRoute _
  obtain ⟨submitted, ex₄, ex₅, rfl, -, h₁₀⟩ :=
    reaches_bind_of_only hroutes (by simp [Writes, ControlCommand.write?]) h₉
  obtain ⟨hdrafted, rfl, recommendations, now, id, rfl⟩ := drafted_of_reaches_build h₁₀ rfl
  obtain ⟨rfl, -, hversion, hstatus⟩ := currentDraft_eq_ok hcurrent
  refine ⟨hdrafted.mono fun x hx => ?_, rfl, current, ?_, rfl, hversion, hstatus⟩
  · simp [hx]
  · simp

theorem drafts_of_reaches_remediate
    (h : Reaches (remediate service command report) ex (.appendIssuePlan plan previous)) :
    ∃ found latest ex₁,
      ex = ⟨.getIssuePlan command.scope report.issuePlanId, .ok (some found)⟩ ::
        ⟨.getLatestIssuePlan command.scope, .ok latest⟩ :: ex₁ ∧
      recovery report latest = none ∧ latest.map (·.id) = some found.id ∧
      Reaches (createDraft service (remediationDraft command report found)) ex₁
        (.appendIssuePlan plan previous) := by
  obtain ⟨answer, ex₁, rfl, h₁⟩ := reaches_behind h nofun
  obtain ⟨latest, ex₂, rfl, h₂⟩ := reaches_behind h₁ nofun
  cases answer with
  | none => exact absurd h₂ not_reaches_throw
  | some found =>
      simp only at h₂
      split at h₂
      · exact absurd h₂ not_reaches_pure
      · next hrecovery =>
        split at h₂
        · exact absurd h₂ not_reaches_throw
        · next hlatest =>
          refine ⟨found, latest, ex₂, rfl, hrecovery, not_not.mp hlatest, ?_⟩
          rcases reaches_handle h₂ with h₃ | ⟨error, ex₃, ex₄, -, -, h₃⟩
          · rcases reaches_bind_iff.mp h₃ with h₄ | ⟨_, _, _, -, -, h₄⟩
            · exact h₄
            · exact absurd h₄ not_reaches_pure
          · -- The handler reads the latest plan and appends nothing.
            obtain ⟨raced, ex₅, -, h₄⟩ := reaches_behind h₃ nofun
            split at h₄
            · exact absurd h₄ not_reaches_pure
            · exact absurd h₄ not_reaches_throw

theorem drafts_of_reaches_confirm {hash : ConfirmedRequest → JsString}
    (h : Reaches (confirm service hash command) ex (.appendIssuePlan plan previous)) :
    ∃ report ex₁ ex₂, ex = ex₁ ++ ex₂ ∧
      ⟨.getGapReport command.scope command.reportId, .ok (some report)⟩ ∈ ex₁ ∧
      Reaches (remediate service command report) ex₂ (.appendIssuePlan plan previous) := by
  obtain ⟨-, ex₁, rfl, h₁⟩ := reaches_behind h nofun
  obtain ⟨checked, -, h₂⟩ := reaches_done_bind_iff.mp h₁
  obtain ⟨answer, ex₂, rfl, h₃⟩ := reaches_behind h₂ nofun
  cases answer with
  | none => exact absurd h₃ not_reaches_throw
  | some report =>
      obtain ⟨replay, ex₃, rfl, h₄⟩ := reaches_behind h₃ nofun
      cases replay with
      | some saved =>
          simp only at h₄
          split at h₄
          · exact absurd h₄ not_reaches_throw
          · exact absurd h₄ not_reaches_pure
      | none =>
          rcases reaches_bind_iff.mp h₄ with h₅ | ⟨remediation, ex₄, ex₅, -, -, h₅⟩
          · exact ⟨report, [_, _, _], ex₃, rfl, by simp, h₅⟩
          · obtain ⟨-, -, h₆⟩ := reaches_done_bind_iff.mp h₅
            obtain ⟨recordedAt, ex₆, -, h₇⟩ := reaches_behind h₆ nofun
            obtain ⟨-, hcommand⟩ := reaches_request_iff.mp h₇
            cases hcommand

theorem drafted_of_reaches {call : ControlCall}
    (h : Reaches (services.program call) ex (.appendIssuePlan plan previous)) :
    Drafted ex plan previous := by
  have hwrite : Write.issuePlan ∈ call.writes :=
    (only_program services call).of_reaches h _ rfl
  cases call with
  | createDraft command =>
      exact (drafted_of_reaches_createDraft (reaches_tagged_iff.mp h)).1.drafted
  | revise command => exact (drafted_of_reaches_revise (reaches_tagged_iff.mp h)).1
  | confirm command =>
      obtain ⟨report, ex₁, ex₂, rfl, -, hremediate⟩ :=
        drafts_of_reaches_confirm (reaches_tagged_iff.mp h)
      obtain ⟨found, latest, ex₃, rfl, -, -, hdraft⟩ := drafts_of_reaches_remediate hremediate
      refine (drafted_of_reaches_createDraft hdraft).1.drafted.mono fun x hx => ?_
      simp [hx]
  | _ => simp [ControlCall.writes] at hwrite

/-! ## One plan to a call -/

theorem not_appends_of_writes {writes : List Write} {command : ControlCommand}
    (hmem : Write.issuePlan ∉ writes) (h : Writes writes command) :
    ¬ command.write? = some .issuePlan :=
  fun hwrite => hmem (h _ hwrite)

theorem once_await {α : Type} {command : ControlCommand}
    {f : command.Answer → ControlProgram α} (h : ¬ command.write? = some .issuePlan)
    (hf : ∀ a, Once (fun command => command.write? = some .issuePlan) (f a)) :
    Once (fun command => command.write? = some .issuePlan) (await command >>= f) :=
  once_bind_right (only_request.mpr h) hf

theorem once_attempt {α β : Type} {r : Except Thrown α} {f : α → ControlProgram β}
    (hf : ∀ a, Once (fun command => command.write? = some .issuePlan) (f a)) :
    Once (fun command => command.write? = some .issuePlan) (attempt r >>= f) :=
  once_bind_right only_done hf

theorem once_build :
    Once (fun command => command.write? = some .issuePlan)
      (build service input >>= fun plan => await (.appendIssuePlan plan previous)) := by
  have hbuild : Only (Writes []) (build service input) := only_build
  exact once_bind_right (hbuild.mono fun _ => not_appends_of_writes List.not_mem_nil)
    fun _ => once_request

theorem once_createDraft {command : CreateDraftCommand} :
    Once (fun command => command.write? = some .issuePlan) (createDraft service command) :=
  once_await nofun fun _ => once_attempt fun _ => once_await nofun fun _ =>
    once_attempt fun _ => once_build

theorem once_revise {command : ReviseCommand} :
    Once (fun command => command.write? = some .issuePlan) (revise service command) := by
  have hroutes : Only (Writes []) (Program.forEach (submittedRoute command.actorId)
      command.modelOverrides) := only_forEach only_submittedRoute _
  exact once_await nofun fun _ => once_attempt fun _ => once_attempt fun _ =>
    once_attempt fun _ => once_await nofun fun _ => once_await nofun fun _ =>
      once_attempt fun _ => once_attempt fun _ => once_attempt fun _ =>
        once_bind_right (hroutes.mono fun _ => not_appends_of_writes List.not_mem_nil)
          fun _ => once_build

theorem once_remediate :
    Once (fun command => command.write? = some .issuePlan)
      (remediate service command report) := by
  refine once_await nofun fun found => once_await nofun fun latest => ?_
  split
  · exact trivial
  · split
    · exact trivial
    · split
      · exact trivial
      · refine once_handle (once_bind_left once_createDraft fun _ => trivial) fun _ => ?_
        refine only_request_bind_iff.mpr ⟨nofun, fun raced => ?_⟩
        split
        · exact trivial
        · exact trivial

theorem once_confirm {hash : ConfirmedRequest → JsString} :
    Once (fun command => command.write? = some .issuePlan) (confirm service hash command) := by
  refine once_await nofun fun _ => once_attempt fun _ => once_await nofun fun found => ?_
  split
  · exact trivial
  · refine once_await nofun fun replay => ?_
    split
    · split
      · exact trivial
      · exact trivial
    · refine once_bind_left once_remediate fun _ => ?_
      exact only_done_bind_iff.mpr fun _ _ => only_request_bind_iff.mpr
        ⟨nofun, fun _ => only_request.mpr nofun⟩

theorem once_program (services : ControlServices) (call : ControlCall) :
    Once (fun command => command.write? = some .issuePlan) (services.program call) := by
  by_cases hmem : Write.issuePlan ∈ call.writes
  · cases call with
    | createDraft command => exact once_bind_left once_createDraft fun _ => trivial
    | revise command => exact once_bind_left once_revise fun _ => trivial
    | confirm command => exact once_bind_left once_confirm fun _ => trivial
    | _ => simp [ControlCall.writes] at hmem
  · exact once_of_only ((only_program services call).mono fun _ => not_appends_of_writes hmem)

/-! ## Before a decision is committed -/

theorem read_of_reaches_commitApproval {command : IssuePlanApprovalCommand}
    {input : CommitIssuePlanApproval}
    (h : Reaches (approve service command) ex (.commitApproval input)) :
    ⟨.getIssuePlan command.scope command.target.id, .ok (some input.current)⟩ ∈ ex ∧
      input.next.content = input.current.content ∧ input.current.status = .draft ∧
      input.expectedVersion = input.current.version := by
  obtain ⟨-, ex₁, rfl, h₁⟩ := reaches_behind h nofun
  obtain ⟨checked, -, h₂⟩ := reaches_done_bind_iff.mp h₁
  obtain ⟨replay, ex₂, rfl, h₃⟩ := reaches_behind h₂ nofun
  cases replay with
  | some receipt => exact absurd h₃ not_reaches_pure
  | none =>
      obtain ⟨found, ex₃, rfl, h₄⟩ := reaches_behind h₃ nofun
      obtain ⟨latest, ex₄, rfl, h₅⟩ := reaches_behind h₄ nofun
      obtain ⟨current, hcurrent, h₆⟩ := reaches_done_bind_iff.mp h₅
      obtain ⟨-, -, h₇⟩ := reaches_done_bind_iff.mp h₆
      obtain ⟨occurredAt, ex₅, -, h₈⟩ := reaches_behind h₇ nofun
      obtain ⟨decisionId, ex₆, -, h₉⟩ := reaches_behind h₈ nofun
      obtain ⟨receiptId, ex₇, -, h₁₀⟩ := reaches_behind h₉ nofun
      obtain ⟨-, ex₈, -, h₁₁⟩ := reaches_behind h₁₀ nofun
      obtain ⟨-, ex₉, -, h₁₂⟩ := reaches_behind h₁₁ nofun
      obtain ⟨-, hcommand⟩ := reaches_request_iff.mp h₁₂
      injection hcommand with hinput
      obtain ⟨rfl, -, hversion, hstatus⟩ := currentDraft_eq_ok hcurrent
      have hexpected : command.expectedVersion.toNat = current.version := by omega
      rw [hinput]
      exact ⟨by simp [approvalOf], content_decidedPlan, hstatus, hexpected⟩

end Reaches

section Runs

variable
  {cond : Moment ControlStore ControlCommand ControlCommand.Answer Thrown ControlCall ControlResult Empty → Attempt ControlCommand ControlCall Empty → Prop}
  {c c' : ControlConfig} {store' : ControlStore} {outside : ControlStore.Outside}
  {command : ControlCommand} {answer : Except Thrown command.Answer} {pid : ℕ} {call : ControlCall}
  {input : CommitIssuePlanApproval}

/-- Every generated identifier is recorded, and was generated by one process. -/
structure IdsKept (c : ControlConfig) : Prop where
  recorded : ∀ pid id, .performed pid .newId (.ok id) ∈ c.now.past →
    id ∈ c.now.state.generatedIds
  once : ∀ pid pid' id, .performed pid .newId (.ok id) ∈ c.now.past →
    .performed pid' .newId (.ok id) ∈ c.now.past → pid = pid'

theorem not_mem_of_usesId {id : JsString} (h : store.usesId id = false) :
    id ∉ store.generatedIds ∧ ∀ row ∈ store.issuePlans, row.id ≠ id := by
  simp only [ControlStore.usesId, decide_eq_false_iff_not, not_or] at h
  refine ⟨h.1, fun row hrow hid => h.2.2.1 ?_⟩
  exact List.mem_map.mpr ⟨row, hrow, hid⟩

theorem IdsKept.step (h : IdsKept c) (hrun : Run (controlPlane services backend) cond store c)
    (hstep : Step (controlPlane services backend) cond c c') : IdsKept c' := by
  rcases performed_of_step hrun hstep with
    ⟨hstate, e, hpast, hexchange⟩ | ⟨pid₀, command, answer, call, hperformed, -⟩
  · have hold : ∀ {pid id}, .performed pid .newId (.ok id) ∈ c'.now.past →
        .performed pid .newId (.ok id) ∈ c.now.past := by
      intro pid id hmem
      rw [hpast] at hmem
      rcases List.mem_cons.mp hmem with heq | hmem
      · rw [← heq] at hexchange
        cases hexchange
      · exact hmem
    constructor
    · intro pid id hmem
      rw [hstate]
      exact h.recorded pid id (hold hmem)
    · intro pid pid' id hmem hmem'
      exact h.once pid pid' id (hold hmem) (hold hmem')
  · obtain ⟨outside, hexec⟩ := hperformed.exec
    have hpast := hperformed.past
    by_cases hnew : command = .newId
    · subst hnew
      obtain ⟨id₀, rfl, hunused, hstate⟩ := newId_cases hexec
      have hfresh := (not_mem_of_usesId hunused).1
      have hcases : ∀ {pid id}, .performed pid .newId (.ok id) ∈ c'.now.past →
          (pid = pid₀ ∧ id = id₀) ∨ .performed pid .newId (.ok id) ∈ c.now.past := by
        intro pid id hmem
        rw [hpast] at hmem
        rcases List.mem_cons.mp hmem with heq | hmem
        · injection heq with hpid _ hanswer
          exact .inl ⟨hpid, Except.ok.inj hanswer⟩
        · exact .inr hmem
      constructor
      · intro pid id hmem
        rw [hstate]
        rcases hcases hmem with ⟨-, rfl⟩ | hold
        · exact List.mem_cons_self
        · exact List.mem_cons_of_mem _ (h.recorded pid id hold)
      · intro pid pid' id hmem hmem'
        rcases hcases hmem with ⟨rfl, rfl⟩ | hold
        · rcases hcases hmem' with ⟨rfl, -⟩ | hold'
          · rfl
          · exact absurd (h.recorded pid' id hold') hfresh
        · rcases hcases hmem' with ⟨rfl, rfl⟩ | hold'
          · exact absurd (h.recorded pid id hold) hfresh
          · exact h.once pid pid' id hold hold'
    · have hids := (frame_of_exec hexec).generatedIds hnew
      have hold : ∀ {pid id}, .performed pid .newId (.ok id) ∈ c'.now.past →
          .performed pid .newId (.ok id) ∈ c.now.past := by
        intro pid id hmem
        rw [hpast] at hmem
        rcases List.mem_cons.mp hmem with heq | hmem
        · injection heq with _ hcommand _
          exact absurd hcommand.symm hnew
        · exact hmem
      constructor
      · intro pid id hmem
        rw [hids]
        exact h.recorded pid id (hold hmem)
      · intro pid pid' id hmem hmem'
        exact h.once pid pid' id (hold hmem) (hold hmem')

theorem idsKept_of_run (hrun : Run (controlPlane services backend) cond store c) : IdsKept c := by
  induction hrun with
  | refl =>
      constructor
      · intro pid id hmem
        exact absurd hmem List.not_mem_nil
      · intro pid pid' id hmem
        exact absurd hmem List.not_mem_nil
  | tail hprefix hstep ih => exact ih.step hprefix hstep

/-! ## The plans of a run -/

def planRead? : ControlEvent → Option IssuePlan
  | .performed _ (.getIssuePlan _ _) (.ok plan) => plan
  | .performed _ (.getLatestIssuePlan _) (.ok plan) => plan
  | _ => none

/-- The plan on which a decision has been committed; a replay commits nothing. -/
def decidedOn? : ControlEvent → Option JsString
  | .performed _ (.commitApproval input) (.ok receipt) =>
    if receipt = input.receipt then some input.current.id else none
  | _ => none

/-- What holds of the issue plans in a run: a plan with a generated identifier was
appended by the process that it was generated for, and what was read is still there. -/
structure PlansKept (c : ControlConfig) : Prop where
  appended : ∀ pid, ∀ row ∈ c.now.state.issuePlans,
    .performed pid .newId (.ok row.id) ∈ c.now.past →
      ∃ plan previous answer, .performed pid (.appendIssuePlan plan previous) answer ∈ c.now.past
  distinct : PlansDistinct c.now.state
  chained : ∀ scope, Chained (c.now.state.plansOf scope)
  remembered : ∀ e ∈ c.now.past, ∀ plan, planRead? e = some plan →
    ∃ row ∈ c.now.state.issuePlans, row.content = plan.content

theorem planRead?_of_exchange {e : ControlEvent} (h : e.exchange? = none) :
    planRead? e = none := by
  cases e with
  | performed => cases h
  | _ => rfl

/-- The rows of the plans after a command. -/
inductive PlansMove (backend : IssuePlanBackend) (store store' : ControlStore) :
    (command : ControlCommand) → Except Thrown command.Answer → Prop
  | same (command : ControlCommand) (answer : Except Thrown command.Answer)
      (hplans : store'.issuePlans = store.issuePlans) :
      PlansMove backend store store' command answer
  | appended (plan : IssuePlan) (previous : Option JsString)
      (happends : Appends store backend plan previous)
      (hplans : store'.issuePlans = store.issuePlans ++ [plan]) :
      PlansMove backend store store' (.appendIssuePlan plan previous) (.ok plan)
  | decided (input : CommitIssuePlanApproval)
      (hdecidable : store.decidable backend input = true)
      (hplans : store'.issuePlans = decidedRows backend input store.issuePlans) :
      PlansMove backend store store' (.commitApproval input) (.ok input.receipt)

section

variable (h : ControlStore.exec backend outside command store = some (answer, store'))

include h

theorem plansMove_of_exec : PlansMove backend store store' command answer := by
  by_cases hwrites : writesPlans command = false
  · exact .same _ _ ((frame_of_exec h).issuePlans hwrites)
  · cases command with
    | appendIssuePlan plan previous =>
        rcases appendIssuePlan_cases (Option.some.inj h) with ⟨_, -, rfl⟩ | ⟨happends, rfl, rfl⟩
        · exact .same _ _ rfl
        · exact .appended plan previous happends rfl
    | commitApproval input =>
        rcases commitApproval_cases (Option.some.inj h) with rfl | ⟨hdecidable, rfl, rfl⟩
        · exact .same _ _ rfl
        · exact .decided input hdecidable rfl
    | _ => exact absurd rfl hwrites

theorem mem_of_planRead? (hread : planRead? (.performed pid command answer) = some plan) :
    plan ∈ store.issuePlans ∧ store' = store := by
  cases command with
  | getIssuePlan scope planId =>
      obtain ⟨rfl, rfl⟩ := Prod.mk.inj (Option.some.inj h)
      exact ⟨(mem_plansOf.mp (mem_of_getIssuePlan hread).1).1, rfl⟩
  | getLatestIssuePlan scope =>
      obtain ⟨rfl, rfl⟩ := Prod.mk.inj (Option.some.inj h)
      exact ⟨(mem_plansOf.mp (mem_of_getLatestIssuePlan hread)).1, rfl⟩
  | _ => simp [planRead?] at hread

end

theorem plansOf_congr {scope : GoalScope} (h : store'.issuePlans = store.issuePlans) :
    store'.plansOf scope = store.plansOf scope := by
  unfold ControlStore.plansOf
  rw [h]

theorem PlansKept.same (h : PlansKept c)
    (hplans : c'.now.state.issuePlans = c.now.state.issuePlans)
    (hpast : ∀ e ∈ c.now.past, e ∈ c'.now.past)
    (hnew : ∀ pid id, .performed pid .newId (.ok id) ∈ c'.now.past →
      .performed pid .newId (.ok id) ∈ c.now.past ∨ ∀ row ∈ c.now.state.issuePlans, row.id ≠ id)
    (hread : ∀ e ∈ c'.now.past, ∀ plan, planRead? e = some plan →
      e ∈ c.now.past ∨ plan ∈ c.now.state.issuePlans) : PlansKept c' := by
  constructor
  · intro pid row hrow hmem
    rw [hplans] at hrow
    rcases hnew pid row.id hmem with hold | hunused
    · obtain ⟨plan, previous, answer, hevent⟩ := h.appended pid row hrow hold
      exact ⟨plan, previous, answer, hpast _ hevent⟩
    · exact absurd rfl (hunused row hrow)
  · unfold PlansDistinct
    rw [hplans]
    exact h.distinct
  · intro scope
    rw [plansOf_congr hplans]
    exact h.chained scope
  · intro e he plan hplan
    rw [hplans]
    rcases hread e he plan hplan with hold | hmem
    · exact h.remembered e hold plan hplan
    · exact ⟨plan, hmem, rfl⟩

section

variable (h : PlansKept c)

include h

theorem PlansKept.id_ne {answer : Except Thrown IssuePlan}
    (hperformed : Performed services backend c c' pid (.appendIssuePlan plan previous) answer
      call) : ∀ row ∈ c.now.state.issuePlans, row.id ≠ plan.id := by
  intro row hrow hid
  have hdrafted : Drafted (exchangesOf pid c.now.past) plan previous :=
    drafted_of_reaches hperformed.reaches
  have hgenerated := mem_exchangesOf.mp hdrafted.generated
  rw [← hid] at hgenerated
  obtain ⟨plan', previous', answer', hevent⟩ := h.appended pid row hrow hgenerated
  -- The process would have appended before.
  have hnone := (once_program services call).of_reaches hperformed.reaches rfl
  exact hnone ⟨.appendIssuePlan plan' previous', answer'⟩ (mem_exchangesOf.mpr hevent) rfl

theorem PlansKept.append (hids : IdsKept c)
    (hperformed : Performed services backend c c' pid (.appendIssuePlan plan previous) (.ok plan)
      call) (happends : Appends c.now.state backend plan previous)
    (hplans : c'.now.state.issuePlans = c.now.state.issuePlans ++ [plan]) : PlansKept c' := by
  have hdrafted : Drafted (exchangesOf pid c.now.past) plan previous :=
    drafted_of_reaches hperformed.reaches
  have hpast := hperformed.past
  have hold : ∀ {pid' id}, .performed pid' .newId (.ok id) ∈ c'.now.past →
      .performed pid' .newId (.ok id) ∈ c.now.past := by
    intro pid' id hmem
    rw [hpast] at hmem
    exact (List.mem_cons.mp hmem).resolve_left nofun
  constructor
  · intro pid' row hrow hmem
    rw [hpast]
    rw [hplans] at hrow
    rcases List.mem_append.mp hrow with hrow | hrow
    · obtain ⟨plan', previous', answer', hevent⟩ := h.appended pid' row hrow (hold hmem)
      exact ⟨plan', previous', answer', List.mem_cons_of_mem _ hevent⟩
    · obtain rfl := List.mem_singleton.mp hrow
      obtain rfl := hids.once pid' pid row.id (hold hmem)
        (mem_exchangesOf.mp hdrafted.generated)
      exact ⟨row, previous, .ok row, List.mem_cons_self⟩
  · unfold PlansDistinct
    rw [hplans, List.map_append, List.map_singleton]
    refine List.Nodup.append h.distinct (List.nodup_singleton _) ?_
    intro id hid hid'
    obtain ⟨row, hrow, rfl⟩ := List.mem_map.mp hid
    exact h.id_ne hperformed row hrow (List.mem_singleton.mp hid')
  · rw [← hdrafted.previous] at happends
    exact chained_append h.chained happends hplans
  · intro e he read hread
    rw [hpast] at he
    rw [hplans]
    rcases List.mem_cons.mp he with rfl | he
    · cases hread
    · obtain ⟨row, hrow, hcontent⟩ := h.remembered e he read hread
      exact ⟨row, List.mem_append_left _ hrow, hcontent⟩

theorem PlansKept.content_next {answer : Except Thrown IssuePlanApprovalReceipt}
    (hperformed : Performed services backend c c' pid (.commitApproval input) answer call) :
    ∀ row ∈ c.now.state.issuePlans, row.id = input.current.id →
      input.next.content = row.content := by
  intro row hrow hid
  have hwrite : Write.approval ∈ call.writes := hperformed.mem_writes rfl
  cases call with
  | approve command =>
      obtain ⟨hread, hnext, -⟩ :=
        read_of_reaches_commitApproval (reaches_tagged_iff.mp hperformed.reaches)
      obtain ⟨row', hrow', hcontent⟩ :=
        h.remembered _ (mem_exchangesOf.mp hread) input.current rfl
      have hsame : row = row' := by
        refine h.distinct.eq_of_id_eq hrow hrow' ?_
        rw [hid, id_eq_of_content_eq hcontent]
      rw [hnext, hsame, hcontent]
  | _ => simp [ControlCall.writes] at hwrite

theorem PlansKept.decide
    (hperformed : Performed services backend c c' pid (.commitApproval input) (.ok input.receipt)
      call) (hplans : c'.now.state.issuePlans = decidedRows backend input c.now.state.issuePlans) :
    PlansKept c' := by
  have hpast := hperformed.past
  have hnext := h.content_next hperformed
  let f : IssuePlan → IssuePlan := fun row =>
    if row.scope = input.current.scope ∧ row.id = input.current.id then
      ControlStore.decidedRow backend input.next row else row
  have hrows : c'.now.state.issuePlans = c.now.state.issuePlans.map f := hplans
  have hcontent : ∀ row ∈ c.now.state.issuePlans, (f row).content = row.content :=
    fun row hrow => content_of_mem_decidedRows hnext hrow
  constructor
  · intro pid' row' hrow' hmem
    rw [hrows] at hrow'
    obtain ⟨row, hrow, rfl⟩ := List.mem_map.mp hrow'
    rw [id_eq_of_content_eq (hcontent row hrow), hpast] at hmem
    obtain ⟨plan, previous, answer, hevent⟩ :=
      h.appended pid' row hrow ((List.mem_cons.mp hmem).resolve_left nofun)
    rw [hpast]
    exact ⟨plan, previous, answer, List.mem_cons_of_mem _ hevent⟩
  · have hidents : (c.now.state.issuePlans.map f).map (·.id) =
        c.now.state.issuePlans.map (·.id) := by
      rw [List.map_map]
      exact List.map_congr_left fun row hrow => id_eq_of_content_eq (hcontent row hrow)
    unfold PlansDistinct
    rw [hrows, hidents]
    exact h.distinct
  · exact chained_decide h.chained hnext hplans
  · intro e he read hread
    rw [hpast] at he
    rcases List.mem_cons.mp he with rfl | he
    · cases hread
    · obtain ⟨row, hrow, hsame⟩ := h.remembered e he read hread
      refine ⟨f row, ?_, (hcontent row hrow).trans hsame⟩
      rw [hrows]
      exact List.mem_map_of_mem hrow

theorem PlansKept.step (hrun : Run (controlPlane services backend) cond store c)
    (hstep : Step (controlPlane services backend) cond c c') : PlansKept c' := by
  rcases performed_of_step hrun hstep with
    ⟨hstate, e, hpast, hexchange⟩ | ⟨pid, command, answer, call, hperformed, -⟩
  · refine h.same (by rw [hstate]) (fun e' he' => ?_) (fun pid id hmem => ?_)
      fun e' he' plan hplan => ?_
    · rw [hpast]
      exact List.mem_cons_of_mem _ he'
    · rw [hpast] at hmem
      rcases List.mem_cons.mp hmem with heq | hold
      · rw [← heq] at hexchange
        cases hexchange
      · exact .inl hold
    · rw [hpast] at he'
      rcases List.mem_cons.mp he' with rfl | hold
      · rw [planRead?_of_exchange hexchange] at hplan
        cases hplan
      · exact .inl hold
  · obtain ⟨outside, hexec⟩ := hperformed.exec
    cases plansMove_of_exec hexec with
    | same _ _ hplans =>
        have hpast := hperformed.past
        refine h.same hplans (fun e' he' => ?_) (fun pid' id hmem => ?_)
          fun e' he' plan hplan => ?_
        · rw [hpast]
          exact List.mem_cons_of_mem _ he'
        · rw [hpast] at hmem
          rcases List.mem_cons.mp hmem with heq | hold
          · injection heq with _ hcommand hanswer
            subst hcommand
            obtain rfl := eq_of_heq hanswer
            obtain ⟨id', hid', hunused, -⟩ := newId_cases hexec
            obtain rfl := Except.ok.inj hid'
            exact .inr (not_mem_of_usesId hunused).2
          · exact .inl hold
        · rw [hpast] at he'
          rcases List.mem_cons.mp he' with rfl | hold
          · exact .inr (mem_of_planRead? hexec hplan).1
          · exact .inl hold
    | appended plan previous happends hplans =>
        exact h.append (idsKept_of_run hrun) hperformed happends hplans
    | decided input hdecidable hplans => exact h.decide hperformed hplans

end

/-- A store whose plans have identifiers of their own and are chained. -/
structure PlansFair (store : ControlStore) : Prop where
  distinct : PlansDistinct store
  chained : ∀ scope, Chained (store.plansOf scope)

theorem plansFair_of_single (hplans : store.issuePlans = [plan]) (hrevision : plan.revision = 1)
    (hprevious : plan.previousPlanId = none) : PlansFair store := by
  constructor
  · unfold PlansDistinct
    rw [hplans]
    exact List.nodup_singleton _
  · intro scope
    unfold ControlStore.plansOf
    rw [hplans]
    by_cases hscope : plan.scope = scope
    · rw [List.filter_cons_of_pos (by simp [hscope])]
      exact .snoc .nil hrevision hprevious
    · rw [List.filter_cons_of_neg (by simp [hscope])]
      exact .nil

theorem plansKept_of_run (hfair : PlansFair store)
    (hrun : Run (controlPlane services backend) cond store c) : PlansKept c := by
  induction hrun with
  | refl =>
      constructor
      · intro pid row _ hmem
        exact absurd hmem List.not_mem_nil
      · exact hfair.distinct
      · exact hfair.chained
      · intro e he
        exact absurd he List.not_mem_nil
  | tail hprefix hstep ih => exact ih.step hprefix hstep

/-- A plan that was read is a row as it was read, unless it has been decided on
since. -/
def PlansUnlessDecided (c : ControlConfig) : Prop :=
  ∀ recent older e plan, c.now.past = recent ++ e :: older → planRead? e = some plan →
    plan ∈ c.now.state.issuePlans ∨ ∃ e' ∈ recent, decidedOn? e' = some plan.id

theorem PlansUnlessDecided.step (h : PlansUnlessDecided c)
    (hrun : Run (controlPlane services backend) cond store c)
    (hstep : Step (controlPlane services backend) cond c c') : PlansUnlessDecided c' := by
  intro recent older e plan hpast hread
  rcases performed_of_step hrun hstep with
    ⟨hstate, e', hpast', hexchange⟩ | ⟨pid, command, answer, call, hperformed, -⟩
  · rw [hpast'] at hpast
    rw [hstate]
    match recent with
    | [] =>
        obtain ⟨rfl, -⟩ := List.cons.inj hpast
        rw [planRead?_of_exchange hexchange] at hread
        cases hread
    | e'' :: recent =>
        obtain ⟨-, hold⟩ := List.cons.inj hpast
        rcases h recent older e plan hold hread with hmem | ⟨d, hd, hdecided⟩
        · exact .inl hmem
        · exact .inr ⟨d, List.mem_cons_of_mem _ hd, hdecided⟩
  · obtain ⟨outside, hexec⟩ := hperformed.exec
    rw [hperformed.past] at hpast
    match recent with
    | [] =>
        obtain ⟨rfl, -⟩ := List.cons.inj hpast
        obtain ⟨hmem, hstate⟩ := mem_of_planRead? hexec hread
        rw [hstate]
        exact .inl hmem
    | e'' :: recent =>
        obtain ⟨rfl, hold⟩ := List.cons.inj hpast
        rcases h recent older e plan hold hread with hmem | ⟨d, hd, hdecided⟩
        · cases plansMove_of_exec hexec with
          | same _ _ hplans =>
              rw [hplans]
              exact .inl hmem
          | appended next previous _ hplans =>
              rw [hplans]
              exact .inl (List.mem_append_left _ hmem)
          | decided input _ hplans =>
              by_cases hid : plan.id = input.current.id
              · refine .inr ⟨_, List.mem_cons_self, ?_⟩
                simp [decidedOn?, hid]
              · rw [hplans, decidedRows]
                refine .inl (List.mem_map.mpr ⟨plan, hmem, ?_⟩)
                rw [if_neg (fun hboth => hid hboth.2)]
        · exact .inr ⟨d, List.mem_cons_of_mem _ hd, hdecided⟩

theorem plansUnlessDecided_of_run (hrun : Run (controlPlane services backend) cond store c) :
    PlansUnlessDecided c := by
  induction hrun with
  | refl =>
      intro recent older e plan hpast
      simp [Config.initial] at hpast
  | tail hprefix hstep ih => exact ih.step hprefix hstep

end Runs

end DevHarness.ControlPlane
