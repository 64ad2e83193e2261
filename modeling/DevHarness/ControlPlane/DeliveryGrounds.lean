import DevHarness.ControlPlane.PlanHistory

/-!
# What a delivery report rests on

A report is generated from reads of the goal and of its verifications, and a
verification from a read of the latest issue plan.  What was read stays in the past of
a run, and the rows that were read stay in the store.
-/

namespace DevHarness.ControlPlane

open JsText Interleave Program

variable {verification : GoalVerification}

section Reaches

variable {ex : List (Exchange ControlCommand ControlCommand.Answer Thrown)}
  {digest : DeliveryReport → JsString} {reads : GenerateReads} {command : GenerateCommand}
  {order : Equiv.Perm (Fin 3)}

structure RestsOn (ex : List (Exchange ControlCommand ControlCommand.Answer Thrown))
    (report : DeliveryReport) : Prop where
  goal : ⟨.getGoal report.scope, .ok (some report.goal)⟩ ∈ ex
  listed : ∃ verifications, ⟨.listVerifications report.scope, .ok verifications⟩ ∈ ex ∧
    verifications.getLast?.map (·.id) = some report.verificationId
  verification : ∃ id verification, ⟨.getVerification report.scope id,
      .ok (some verification)⟩ ∈ ex ∧ verification.id = report.verificationId ∧
    verification.issuePlanId = report.issuePlanId ∧ verification.verdict = .passed

theorem latestPassed_eq_ok (h : latestPassed reads = .ok verification) :
    reads.verification = some verification ∧
      reads.verifications.getLast?.map (·.id) = some verification.id ∧
      verification.verdict = .passed := by
  unfold latestPassed at h
  split at h
  · next found hfound =>
    rw [ite_error_eq_ok] at h
    obtain ⟨hfresh, hsame⟩ := h
    obtain rfl := Except.ok.inj hsame
    simp only [not_or, not_not] at hfresh
    exact ⟨hfound, hfresh.1, hfresh.2.1⟩
  · cases h

theorem reads_of_ends_generateRead {order : Equiv.Perm (Fin 6)}
    (h : Ends (readAll order GenerateReads.none (generateRead command)) ex (.ok reads)) :
    ⟨.getVerification command.scope command.verificationId, .ok reads.verification⟩ ∈ ex ∧
      ⟨.listVerifications command.scope, .ok reads.verifications⟩ ∈ ex ∧
      ⟨.getGoal command.scope, .ok reads.goal⟩ ∈ ex := by
  refine ⟨?_, ?_, ?_⟩
  · refine (mem_readAll_iff (g := GenerateReads.verification) 0 rfl (fun _ _ => rfl) ?_ h _).mpr rfl
    intro j hj ex' enter' hends
    fin_cases j <;> obtain ⟨answer, rfl, rfl⟩ := ends_read_iff.mp hends <;> simp_all
  · refine (mem_readAll_iff (g := GenerateReads.verifications) 1 rfl (fun _ _ => rfl) ?_ h
      _).mpr rfl
    intro j hj ex' enter' hends
    fin_cases j <;> obtain ⟨answer, rfl, rfl⟩ := ends_read_iff.mp hends <;> simp_all
  · refine (mem_readAll_iff (g := GenerateReads.goal) 2 rfl (fun _ _ => rfl) ?_ h _).mpr rfl
    intro j hj ex' enter' hends
    fin_cases j <;> obtain ⟨answer, rfl, rfl⟩ := ends_read_iff.mp hends <;> simp_all

theorem restsOn_of_reaches_generate {order : GenerateOrder} {report : DeliveryReport}
    (h : Reaches (generate digest order command) ex (.appendDeliveryReport report)) :
    RestsOn ex report := by
  have hnone : Writes [] (.appendDeliveryReport report) → False := by
    intro hwrites
    exact List.not_mem_nil (hwrites .deliveryReport rfl)
  obtain ⟨basis, ex₁, ex₂, rfl, hbasis, h₁⟩ :=
    reaches_bind_of_only only_reportBasis hnone h
  obtain ⟨parts, -, h₂⟩ := reaches_done_bind_iff.mp h₁
  obtain ⟨generatedAt, ex₃, rfl, h₃⟩ := reaches_behind h₂ nofun
  obtain ⟨id, ex₄, rfl, h₄⟩ := reaches_behind h₃ nofun
  obtain ⟨rfl, hcommand⟩ := reaches_request_iff.mp h₄
  injection hcommand with hreport
  obtain ⟨_, ex₅, rfl, hbasis₁⟩ := ends_request_bind_iff.mp hbasis
  obtain ⟨reads, ex₆, ex₇, rfl, hreads, hbasis₂⟩ := ends_bind_ok_iff.mp hbasis₁
  obtain ⟨goal, hgoal, hbasis₃⟩ := ends_done_bind_iff.mp hbasis₂
  obtain ⟨verification, hverification, hbasis₄⟩ := ends_done_bind_iff.mp hbasis₃
  obtain ⟨found, ex₈, rfl, hbasis₅⟩ := ends_request_bind_iff.mp hbasis₄
  obtain ⟨plan, -, hbasis₆⟩ := ends_done_bind_iff.mp hbasis₅
  obtain ⟨_, ex₉, ex₁₀, rfl, -, hbasis₇⟩ := ends_bind_ok_iff.mp hbasis₆
  obtain ⟨rfl, hresult⟩ := ends_pure_iff.mp hbasis₇
  obtain rfl := Except.ok.inj hresult
  obtain ⟨hread, hlisted, hgoalRead⟩ := reads_of_ends_generateRead hreads
  obtain ⟨hfound, hlatest, hpassed⟩ := latestPassed_eq_ok hverification
  have hgoal' : reads.goal = some goal := by
    split at hgoal
    · next hsome =>
      obtain rfl := Except.ok.inj hgoal
      exact hsome
    · cases hgoal
  rw [hfound] at hread
  rw [hgoal'] at hgoalRead
  have hstays : ∀ {x}, x ∈ ex₆ → x ∈ ⟨.authorize
      { actorId := command.actorId
        organizationId := command.scope.organizationId
        projectId := command.scope.projectId
        permission := .deliveryReportGenerate }, .ok ()⟩ ::
      (ex₆ ++ ⟨.getPlan command.scope verification.verificationPlanId, .ok found⟩ ::
        (ex₉ ++ [])) ++ [⟨.clock, .ok generatedAt⟩, ⟨.newId, .ok id⟩] := by
    intro x hx
    exact List.mem_append_left _ (List.mem_cons_of_mem _ (List.mem_append_left _ hx))
  rw [hreport]
  exact ⟨hstays hgoalRead, ⟨_, hstays hlisted, hlatest⟩,
    ⟨_, _, hstays hread, rfl, rfl, hpassed⟩⟩

theorem approved_of_reaches_verify {service : GoalVerificationService}
    {order : Equiv.Perm (Fin 5)} {command : VerifyCommand}
    (h : Reaches (verify service order command) ex (.appendVerification verification)) :
    ∃ plan, ⟨.getLatestIssuePlan verification.scope, .ok (some plan)⟩ ∈ ex ∧
      plan.id = verification.issuePlanId ∧ plan.status = .approved := by
  have hnone : Writes [] (.appendVerification verification) → False := by
    intro hwrites
    exact List.not_mem_nil (hwrites .verification rfl)
  obtain ⟨judgement, ex₁, ex₂, rfl, hjudge, h₁⟩ := reaches_bind_of_only only_judge hnone h
  obtain ⟨id, ex₃, rfl, h₂⟩ := reaches_behind h₁ nofun
  obtain ⟨verifiedAt, ex₄, rfl, h₃⟩ := reaches_behind h₂ nofun
  obtain ⟨-, hcommand⟩ := reaches_request_iff.mp h₃
  injection hcommand with hverification
  obtain ⟨raw, hjudged⟩ := judged_of_ends hjudge
  obtain ⟨plan, hread, hid, hstatus⟩ := hjudged.latest
  rw [hverification]
  exact ⟨plan, List.mem_append_left _ hread, hid, hstatus⟩

theorem reads_of_ends_acceptRead {command : AcceptCommand} {reads : AcceptReads}
    (h : Ends (readAll order AcceptReads.none (acceptRead command)) ex (.ok reads)) :
    ⟨.getDeliveryReport command.scope command.reportId, .ok reads.current⟩ ∈ ex ∧
      ⟨.listDeliveryReports command.scope, .ok reads.reports⟩ ∈ ex := by
  refine ⟨?_, ?_⟩
  · refine (mem_readAll_iff (g := AcceptReads.current) 0 rfl (fun _ _ => rfl) ?_ h _).mpr rfl
    intro j hj ex' enter' hends
    fin_cases j <;> obtain ⟨answer, rfl, rfl⟩ := ends_read_iff.mp hends <;> simp_all
  · refine (mem_readAll_iff (g := AcceptReads.reports) 1 rfl (fun _ _ => rfl) ?_ h _).mpr rfl
    intro j hj ex' enter' hends
    fin_cases j <;> obtain ⟨answer, rfl, rfl⟩ := ends_read_iff.mp hends <;> simp_all

/-- What is accepted was read, and is accepted as a report that was listed or as a copy
that rests on the same. -/
theorem read_of_reaches_accept {hash : AcceptCommand → JsString} {command : AcceptCommand}
    {input : AcceptDeliveryReport}
    (h : Reaches (accept digest hash order command) ex (.acceptDeliveryReport input)) :
    ⟨.getDeliveryReport command.scope command.reportId, .ok (some input.current)⟩ ∈ ex ∧
      ((∃ reports, ⟨.listDeliveryReports command.scope, .ok reports⟩ ∈ ex ∧
          input.accepted ∈ reports) ∨
        ∃ reason requestId id acceptedAt, input.accepted = withDigest digest
          (acceptedReport command input.current reason requestId id acceptedAt)) := by
  obtain ⟨_, ex₁, rfl, h₁⟩ := reaches_behind h nofun
  obtain ⟨reason, -, h₂⟩ := reaches_done_bind_iff.mp h₁
  obtain ⟨requestId, -, h₃⟩ := reaches_done_bind_iff.mp h₂
  obtain ⟨idempotencyKey, -, h₄⟩ := reaches_done_bind_iff.mp h₃
  obtain ⟨-, -, h₅⟩ := reaches_done_bind_iff.mp h₄
  have honly : Only (Writes []) (readAll order AcceptReads.none (acceptRead command)) := by
    refine only_readAll fun i => ?_
    fin_cases i <;> exact only_read (writes_of_none rfl)
  have hnone : Writes [] (.acceptDeliveryReport input) → False := by
    intro hwrites
    exact List.not_mem_nil (hwrites .acceptance rfl)
  obtain ⟨reads, ex₂, ex₃, rfl, hreads, h₆⟩ := reaches_bind_of_only honly hnone h₅
  obtain ⟨hcurrent, hlisted⟩ := reads_of_ends_acceptRead hreads
  have hstays : ∀ {x first}, x ∈ ex₂ → x ∈ first :: (ex₂ ++ ex₃) :=
    fun hx => List.mem_cons_of_mem _ (List.mem_append_left _ hx)
  split at h₆
  · next current latest hsuccessor =>
    obtain ⟨-, hcommand⟩ := reaches_request_iff.mp h₆
    injection hcommand with hinput
    unfold acceptedSuccessor at hsuccessor
    split at hsuccessor
    · next found last hfound hlast =>
      split at hsuccessor
      · obtain ⟨rfl, rfl⟩ := Prod.mk.inj (Option.some.inj hsuccessor)
        rw [hfound] at hcurrent
        rw [hinput]
        exact ⟨hstays hcurrent, .inl ⟨_, hstays hlisted, List.mem_of_getLast? hlast⟩⟩
      · cases hsuccessor
    · cases hsuccessor
  · obtain ⟨current, hacceptable, h₇⟩ := reaches_done_bind_iff.mp h₆
    obtain ⟨acceptedAt, ex₄, rfl, h₈⟩ := reaches_behind h₇ nofun
    obtain ⟨id, ex₅, rfl, h₉⟩ := reaches_behind h₈ nofun
    obtain ⟨-, hcommand⟩ := reaches_request_iff.mp h₉
    injection hcommand with hinput
    have hfound : reads.current = some current := by
      unfold acceptableReport at hacceptable
      split at hacceptable
      · next found goal hfound hgoal =>
        rw [ite_error_eq_ok] at hacceptable
        rw [hfound, Except.ok.inj hacceptable.2]
      · cases hacceptable
    rw [hfound] at hcurrent
    rw [hinput]
    exact ⟨hstays hcurrent, .inr ⟨reason, requestId, id, acceptedAt, rfl⟩⟩

end Reaches

section Runs

variable {services : ControlServices} {backend : IssuePlanBackend} {store store' : ControlStore}
  {cond : Moment ControlStore ControlCommand ControlCommand.Answer Thrown ControlCall ControlResult Empty → Attempt ControlCommand ControlCall Empty → Prop}
  {c c' : ControlConfig} {outside : ControlStore.Outside} {command : ControlCommand}
  {answer : Except Thrown command.Answer} {pid : ℕ} {scope : GoalScope} {id : JsString}
  {report : DeliveryReport} {call : ControlCall}

inductive VerificationsMove (store store' : ControlStore) :
    (command : ControlCommand) → Except Thrown command.Answer → Prop
  | same (command : ControlCommand) (answer : Except Thrown command.Answer)
      (hrows : store'.verifications = store.verifications) :
      VerificationsMove store store' command answer
  | appended (verification : GoalVerification)
      (hrows : store'.verifications = store.verifications.insertNew verification) :
      VerificationsMove store store' (.appendVerification verification) (.ok verification)

theorem verificationsMove_of_exec
    (h : ControlStore.exec backend outside command store = some (answer, store')) :
    VerificationsMove store store' command answer := by
  by_cases hwrite : command.write? = some .verification
  · cases command with
    | appendVerification verification =>
        rcases appendVerification_cases (Option.some.inj h) with
          ⟨_, -, rfl⟩ | ⟨-, rfl, _, rfl⟩
        · exact .same _ _ rfl
        · exact .appended verification rfl
    | _ => cases hwrite
  · exact .same _ _ ((frame_of_exec h).verifications hwrite)

/-- The delivery reports after a command. -/
inductive ReportsMove (store store' : ControlStore) :
    (command : ControlCommand) → Except Thrown command.Answer → Prop
  | same (command : ControlCommand) (answer : Except Thrown command.Answer)
      (hrows : store'.deliveryReports = store.deliveryReports) :
      ReportsMove store store' command answer
  | appended (report : DeliveryReport)
      (hrows : store'.deliveryReports = store.deliveryReports.insertNew report) :
      ReportsMove store store' (.appendDeliveryReport report) (.ok report)
  | accepted (input : AcceptDeliveryReport) (answer : Except Thrown AcceptedDelivery)
      (hfits : store.reportFits input.accepted = true)
      (hrows : store'.deliveryReports = store.deliveryReports.insertNew input.accepted) :
      ReportsMove store store' (.acceptDeliveryReport input) answer

theorem reportsMove_of_exec
    (h : ControlStore.exec backend outside command store = some (answer, store')) :
    ReportsMove store store' command answer := by
  by_cases hwrites : writesReports command = false
  · exact .same _ _ ((frame_of_exec h).deliveryReports hwrites)
  · cases command with
    | appendDeliveryReport report =>
        rcases appendDeliveryReport_cases (Option.some.inj h) with ⟨_, -, rfl⟩ | ⟨-, rfl, rfl⟩
        · exact .same _ _ rfl
        · exact .appended report rfl
    | acceptDeliveryReport input =>
        rcases acceptDeliveryReport_cases (Option.some.inj h) with
          rfl | ⟨_, _, hcompletes, rfl⟩
        · exact .same _ _ rfl
        · exact .accepted input answer hcompletes.fits rfl
    | _ => exact absurd rfl hwrites

section

variable (hrun : Run (controlPlane services backend) cond store c)

include hrun

theorem rows_of_step (hstep : Step (controlPlane services backend) cond c c') :
    (∀ row ∈ c.now.state.verifications.rows, row ∈ c'.now.state.verifications.rows) ∧
      ∀ row ∈ c.now.state.deliveryReports.rows, row ∈ c'.now.state.deliveryReports.rows := by
  rcases performed_of_step hrun hstep with
    ⟨hstate, -⟩ | ⟨pid, command, answer, call, hperformed, -⟩
  · rw [hstate]
    exact ⟨fun _ h => h, fun _ h => h⟩
  · obtain ⟨outside, hexec⟩ := hperformed.exec
    constructor
    · intro row hrow
      cases verificationsMove_of_exec hexec with
      | same _ _ hrows =>
          rw [hrows]
          exact hrow
      | appended verification hrows =>
          rw [hrows]
          exact Sql.Table.mem_insertNew hrow
    · intro row hrow
      cases reportsMove_of_exec hexec with
      | same _ _ hrows =>
          rw [hrows]
          exact hrow
      | appended report hrows =>
          rw [hrows]
          exact Sql.Table.mem_insertNew hrow
      | accepted input _ _ hrows =>
          rw [hrows]
          exact Sql.Table.mem_insertNew hrow

theorem rows_of_steps
    (hsteps : Relation.ReflTransGen (Step (controlPlane services backend) cond) c c') :
    (∀ row ∈ c.now.state.verifications.rows, row ∈ c'.now.state.verifications.rows) ∧
      ∀ row ∈ c.now.state.deliveryReports.rows, row ∈ c'.now.state.deliveryReports.rows := by
  induction hsteps with
  | refl => exact ⟨fun _ h => h, fun _ h => h⟩
  | tail hprefix hstep ih =>
      obtain ⟨hverifications, hreports⟩ := rows_of_step (hrun.trans hprefix) hstep
      exact ⟨fun row h => hverifications row (ih.1 row h), fun row h => hreports row (ih.2 row h)⟩

theorem verification_of_read
    (h : .performed pid (.getVerification scope id) (.ok (some verification)) ∈ c.now.past) :
    verification ∈ c.now.state.verifications.rows ∧ verification.scope = scope := by
  obtain ⟨c₀, c₁, call, hrun₀, hperformed, -, hstep, hsince⟩ := performed_of_mem hrun h
  obtain ⟨outside, hexec⟩ := hperformed.exec
  obtain ⟨hfound, -⟩ := Prod.mk.inj (Option.some.inj hexec)
  obtain ⟨hget, hscope⟩ := Option.filter_eq_some_iff.mp (Except.ok.inj hfound)
  exact ⟨(rows_of_steps hrun₀ (hsince.head hstep)).1 _ (Sql.Table.mem_of_get hget),
    of_decide_eq_true hscope⟩

theorem report_of_read
    (h : .performed pid (.getDeliveryReport scope id) (.ok (some report)) ∈ c.now.past) :
    report ∈ c.now.state.deliveryReports.rows := by
  obtain ⟨c₀, c₁, call, hrun₀, hperformed, -, hstep, hsince⟩ := performed_of_mem hrun h
  obtain ⟨outside, hexec⟩ := hperformed.exec
  obtain ⟨hfound, -⟩ := Prod.mk.inj (Option.some.inj hexec)
  have hget := (Option.filter_eq_some_iff.mp (Except.ok.inj hfound)).1
  exact (rows_of_steps hrun₀ (hsince.head hstep)).2 _ (Sql.Table.mem_of_get hget)

theorem report_of_listed {reports : List DeliveryReport}
    (h : .performed pid (.listDeliveryReports scope) (.ok reports) ∈ c.now.past)
    (hmem : report ∈ reports) : report ∈ c.now.state.deliveryReports.rows := by
  obtain ⟨c₀, c₁, call, hrun₀, hperformed, -, hstep, hsince⟩ := performed_of_mem hrun h
  obtain ⟨outside, hexec⟩ := hperformed.exec
  obtain ⟨hlisted, -⟩ := Prod.mk.inj (Option.some.inj hexec)
  have hrows : c₀.now.state.listDeliveryReports scope = reports := Except.ok.inj hlisted
  rw [← hrows] at hmem
  have hrow := (List.mem_filter.mp (Sql.mem_orderBy.mp hmem)).1
  exact (rows_of_steps hrun₀ (hsince.head hstep)).2 _ hrow

end

theorem RestsOn.mono {ex ex' : List (Exchange ControlCommand ControlCommand.Answer Thrown)}
    (h : RestsOn ex report) (hsub : ex ⊆ ex') : RestsOn ex' report := by
  obtain ⟨hgoal, ⟨listed, hlisted, hlatest⟩, id, verification, hread, hverification⟩ := h
  exact ⟨hsub hgoal, ⟨listed, hsub hlisted, hlatest⟩, id, verification, hsub hread,
    hverification⟩

/-- Reports rest on what a process has read, and verifications on an issue plan that
was read as the latest and approved. -/
structure DeliveriesGrounded (c : ControlConfig) : Prop where
  reports : ∀ row ∈ c.now.state.deliveryReports.rows, ∃ pid,
    RestsOn (exchangesOf pid c.now.past) row
  verifications : ∀ row ∈ c.now.state.verifications.rows, ∃ pid plan,
    .performed pid (.getLatestIssuePlan row.scope) (.ok (some plan)) ∈ c.now.past ∧
      plan.id = row.issuePlanId ∧ plan.status = .approved

theorem approved_of_performed {answer : Except Thrown GoalVerification}
    (hperformed : Performed services backend c c' pid (.appendVerification verification) answer
      call) :
    ∃ plan, .performed pid (.getLatestIssuePlan verification.scope) (.ok (some plan)) ∈
      c.now.past ∧ plan.id = verification.issuePlanId ∧ plan.status = .approved := by
  have hwrite : Write.verification ∈ call.writes := hperformed.mem_writes rfl
  cases call with
  | verify order command =>
      obtain ⟨plan, hread, hplan⟩ :=
        approved_of_reaches_verify (reaches_tagged_iff.mp hperformed.reaches)
      exact ⟨plan, mem_exchangesOf.mp hread, hplan⟩
  | _ => simp [ControlCall.writes] at hwrite

theorem restsOn_of_performed {answer : Except Thrown DeliveryReport}
    (hperformed : Performed services backend c c' pid (.appendDeliveryReport report) answer call) :
    RestsOn (exchangesOf pid c.now.past) report := by
  have hwrite : Write.deliveryReport ∈ call.writes := hperformed.mem_writes rfl
  cases call with
  | generate order command =>
      exact restsOn_of_reaches_generate (reaches_tagged_iff.mp hperformed.reaches)
  | _ => simp [ControlCall.writes] at hwrite

/-- The report that comes to be accepted is a row, and what it is accepted as is one
too or rests on the same. -/
theorem current_of_performed {input : AcceptDeliveryReport}
    {answer : Except Thrown AcceptedDelivery}
    (hrun : Run (controlPlane services backend) cond store c)
    (hperformed : Performed services backend c c' pid (.acceptDeliveryReport input) answer call) :
    input.current ∈ c.now.state.deliveryReports.rows ∧
      (input.accepted ∈ c.now.state.deliveryReports.rows ∨
        ∀ ex, RestsOn ex input.current → RestsOn ex input.accepted) := by
  have hwrite : Write.acceptance ∈ call.writes := hperformed.mem_writes rfl
  cases call with
  | accept order command =>
      obtain ⟨hread, hcopy⟩ := read_of_reaches_accept (reaches_tagged_iff.mp hperformed.reaches)
      refine ⟨report_of_read hrun (mem_exchangesOf.mp hread), ?_⟩
      rcases hcopy with ⟨reports, hlisted, hmem⟩ | ⟨reason, requestId, id, acceptedAt, hcopy⟩
      · exact .inl (report_of_listed hrun (mem_exchangesOf.mp hlisted) hmem)
      · right
        intro ex hrests
        rw [hcopy]
        exact ⟨hrests.goal, hrests.listed, hrests.verification⟩
  | _ => simp [ControlCall.writes] at hwrite

theorem DeliveriesGrounded.step (h : DeliveriesGrounded c)
    (hrun : Run (controlPlane services backend) cond store c)
    (hstep : Step (controlPlane services backend) cond c c') : DeliveriesGrounded c' := by
  obtain ⟨e, hpast⟩ := hstep.past
  have hmem : ∀ {e' : ControlEvent}, e' ∈ c.now.past → e' ∈ c'.now.past := by
    intro e' he'
    rw [hpast]
    exact List.mem_cons_of_mem _ he'
  have hsub : ∀ pid, exchangesOf pid c.now.past ⊆ exchangesOf pid c'.now.past := by
    intro pid x hx
    exact mem_exchangesOf.mpr (hmem (mem_exchangesOf.mp hx))
  have hreport : ∀ {row}, row ∈ c.now.state.deliveryReports.rows →
      ∃ pid, RestsOn (exchangesOf pid c'.now.past) row := by
    intro row hrow
    obtain ⟨pid, hrests⟩ := h.reports row hrow
    exact ⟨pid, hrests.mono (hsub pid)⟩
  have hverification : ∀ {row}, row ∈ c.now.state.verifications.rows → ∃ pid plan,
      .performed pid (.getLatestIssuePlan row.scope) (.ok (some plan)) ∈ c'.now.past ∧
        plan.id = row.issuePlanId ∧ plan.status = .approved := by
    intro row hrow
    obtain ⟨pid, plan, hread, hplan⟩ := h.verifications row hrow
    exact ⟨pid, plan, hmem hread, hplan⟩
  rcases performed_of_step hrun hstep with
    ⟨hstate, -⟩ | ⟨pid, command, answer, call, hperformed, -⟩
  · constructor
    · rw [hstate]
      exact fun row hrow => hreport hrow
    · rw [hstate]
      exact fun row hrow => hverification hrow
  · obtain ⟨outside, hexec⟩ := hperformed.exec
    constructor
    · intro row hrow
      cases reportsMove_of_exec hexec with
      | same _ _ hrows =>
          rw [hrows] at hrow
          exact hreport hrow
      | appended report hrows =>
          rw [hrows] at hrow
          rcases Sql.Table.of_mem_insertNew hrow with rfl | hold
          · exact ⟨pid, (restsOn_of_performed hperformed).mono (hsub pid)⟩
          · exact hreport hold
      | accepted input _ _ hrows =>
          rw [hrows] at hrow
          rcases Sql.Table.of_mem_insertNew hrow with rfl | hold
          · obtain ⟨hcurrent, hlisted | hcopy⟩ := current_of_performed hrun hperformed
            · exact hreport hlisted
            · obtain ⟨pid', hrests⟩ := hreport hcurrent
              exact ⟨pid', hcopy _ hrests⟩
          · exact hreport hold
    · intro row hrow
      cases verificationsMove_of_exec hexec with
      | same _ _ hrows =>
          rw [hrows] at hrow
          exact hverification hrow
      | appended verification hrows =>
          rw [hrows] at hrow
          rcases Sql.Table.of_mem_insertNew hrow with rfl | hold
          · obtain ⟨plan, hread, hplan⟩ := approved_of_performed hperformed
            exact ⟨pid, plan, hmem hread, hplan⟩
          · exact hverification hold

/-- A store in which no goal has been verified or reported on. -/
structure Undelivered (store : ControlStore) : Prop where
  reports : store.deliveryReports.rows = []
  verifications : store.verifications.rows = []

theorem deliveriesGrounded_of_run (hundelivered : Undelivered store)
    (hrun : Run (controlPlane services backend) cond store c) : DeliveriesGrounded c := by
  induction hrun with
  | refl =>
      constructor
      · intro row hrow
        have hnone : row ∈ store.deliveryReports.rows := hrow
        rw [hundelivered.reports] at hnone
        exact absurd hnone List.not_mem_nil
      · intro row hrow
        have hnone : row ∈ store.verifications.rows := hrow
        rw [hundelivered.verifications] at hnone
        exact absurd hnone List.not_mem_nil
  | tail hprefix hstep ih => exact ih.step hprefix hstep

end Runs

end DevHarness.ControlPlane
