import DevHarness.ControlPlane.DeliveryGrounds
import DevHarness.ControlPlane.Linearised
import DevHarness.ControlPlane.PlanVersions

/-!
# Completing a goal

An acceptance checks that its report is the latest and that the goal has the version
that the client names.  Where the client names the version of the report's snapshot,
and no verification and no issue plan came after those that the report names, the
report describes the goal that is completed.
-/

namespace DevHarness.ControlPlane

open JsText Interleave Program

variable {services : ControlServices} {backend : IssuePlanBackend} {store : ControlStore}
  {c c' : ControlConfig} {scope : GoalScope}

/-- Whether an event follows up on what an earlier one has read: the verification of a
report was the latest and another one is appended, or its issue plan was. -/
def supersedes (report : DeliveryReport) : ControlEvent → ControlEvent → Bool
  | .performed _ (.appendVerification verification) (.ok _),
      .performed _ (.listVerifications scope) (.ok listed) =>
    scope = report.scope ∧ verification.scope = report.scope ∧
      listed.getLast?.map (·.id) = some report.verificationId
  | .performed _ (.appendIssuePlan plan _) (.ok _),
      .performed _ (.getLatestIssuePlan scope) (.ok (some latest)) =>
    scope = report.scope ∧ plan.scope = report.scope ∧ latest.id = report.issuePlanId
  | _, _ => false

/-- Acceptances of reports that nothing has followed up on, for the version of their
snapshot. -/
def AcceptsFresh (m : Moment ControlStore ControlCommand ControlCommand.Answer Thrown ControlCall
    ControlResult Empty) : Attempt ControlCommand ControlCall Empty → Prop
  | .perform _ (.acceptDeliveryReport input) =>
    (∃ goal, Completes m.state input goal) →
      input.expectedGoalVersion = input.current.goal.version ∧
        m.past.Pairwise fun later earlier => supersedes input.current later earlier = false
  | _ => True

/-- A report describes a goal as it is: its snapshot is current, its verification is
the latest and passed, and its issue plan is the latest and approved. -/
structure Describes (backend : IssuePlanBackend) (store : ControlStore)
    (report : DeliveryReport) (goal : GoalContract) : Prop where
  version : report.goal.version = goal.version
  acceptanceCriteria : report.goal.acceptanceCriteria = goal.acceptanceCriteria
  nonGoals : report.goal.nonGoals = goal.nonGoals
  constraints : report.goal.constraints = goal.constraints
  verification : ∃ verification,
    (store.listVerifications report.scope).getLast? = some verification ∧
      verification.id = report.verificationId ∧ verification.verdict = .passed
  issuePlan : ∃ plan, store.getLatestIssuePlan backend report.scope = some plan ∧
    plan.id = report.issuePlanId ∧ plan.status = .approved

/-- An acceptance that moves a goal to completed is of a report that describes it. -/
def CompletesSoundly (backend : IssuePlanBackend) (c c' : ControlConfig) : Prop :=
  ∀ pid input answer goal goal',
    c'.now.past = .performed pid (.acceptDeliveryReport input) answer :: c.now.past →
    c.now.state.getGoal input.current.scope = some goal → goal.status ≠ .completed →
    c'.now.state.getGoal input.current.scope = some goal' → goal'.status = .completed →
    Describes backend c.now.state input.current goal

section Latest

variable
  {cond : Moment ControlStore ControlCommand ControlCommand.Answer Thrown ControlCall ControlResult
    Empty → Attempt ControlCommand ControlCall Empty → Prop}
  {e : ControlEvent} {report : DeliveryReport} {pid : ℕ}

def AppendsVerification (scope : GoalScope) (e : ControlEvent) : Prop :=
  ∃ pid verification answer,
    e = .performed pid (.appendVerification verification) (.ok answer) ∧
      verification.scope = scope

def AppendsIssuePlan (scope : GoalScope) (e : ControlEvent) : Prop :=
  ∃ pid plan previous answer, e = .performed pid (.appendIssuePlan plan previous) (.ok answer) ∧
    plan.scope = scope

theorem listVerifications_of_step (hrun : Run (controlPlane services backend) cond store c)
    (hstep : Step (controlPlane services backend) cond c c')
    (hpast : c'.now.past = e :: c.now.past) (hnone : ¬ AppendsVerification scope e) :
    c'.now.state.listVerifications scope = c.now.state.listVerifications scope := by
  rcases performed_of_step hrun hstep with
    ⟨hstate, -⟩ | ⟨pid, command, answer, call, hperformed, -⟩
  · rw [hstate]
  · obtain ⟨outside, hexec⟩ := hperformed.exec
    have he := (List.cons.inj (hpast.symm.trans hperformed.past)).1
    unfold ControlStore.listVerifications
    cases verificationsMove_of_exec hexec with
    | same _ _ hrows => rw [hrows]
    | appended verification hrows =>
        have hscope : verification.scope ≠ scope := by
          intro hsame
          exact hnone ⟨pid, verification, verification, he, hsame⟩
        rw [hrows]
        unfold Sql.Table.insertNew
        split
        · rfl
        · rw [List.filter_append, List.filter_cons_of_neg (by simp [hscope]), List.filter_nil,
            List.append_nil]

theorem latestIssuePlan_of_step (hfair : PlansFair store)
    (hrun : Run (controlPlane services backend) cond store c)
    (hstep : Step (controlPlane services backend) cond c c')
    (hpast : c'.now.past = e :: c.now.past) (hnone : ¬ AppendsIssuePlan scope e) :
    (c'.now.state.getLatestIssuePlan backend scope).map (·.id) =
      (c.now.state.getLatestIssuePlan backend scope).map (·.id) := by
  rcases performed_of_step hrun hstep with
    ⟨hstate, -⟩ | ⟨pid, command, answer, call, hperformed, -⟩
  · rw [hstate]
  · obtain ⟨outside, hexec⟩ := hperformed.exec
    have he := (List.cons.inj (hpast.symm.trans hperformed.past)).1
    cases plansMove_of_exec hexec with
    | same _ _ hplans => rw [getLatestIssuePlan_congr (plansOf_congr hplans)]
    | appended plan previous _ hplans =>
        have hscope : plan.scope ≠ scope := by
          intro hsame
          exact hnone ⟨pid, plan, previous, plan, he, hsame⟩
        have hsame : c'.now.state.plansOf scope = c.now.state.plansOf scope := by
          unfold ControlStore.plansOf
          rw [hplans, List.filter_append, List.filter_cons_of_neg (by simp [hscope]),
            List.filter_nil, List.append_nil]
        rw [getLatestIssuePlan_congr hsame]
    | decided input _ hplans =>
        have hkept := plansKept_of_run hfair hrun
        have hkept' := plansKept_of_run hfair (hrun.tail hstep)
        obtain ⟨f, hcontent, hplans'⟩ := plansOf_decide (hkept.content_next hperformed) hplans
        rw [getLatestIssuePlan_eq (hkept'.chained scope), hplans',
          getLatestIssuePlan_eq (hkept.chained scope), List.getLast?_map, Option.map_map]
        refine Option.map_congr fun row hrow => ?_
        exact id_eq_of_content_eq
          (hcontent row (mem_plansOf.mp (List.mem_of_getLast? hrow)).1)

/-- The verifications that were listed are those of the goal, unless one was appended
since. -/
theorem listed_of_pairwise {listed : List GoalVerification}
    (hrun : Run (controlPlane services backend) cond store c)
    (hread : .performed pid (.listVerifications report.scope) (.ok listed) ∈ c.now.past)
    (hlatest : listed.getLast?.map (·.id) = some report.verificationId)
    (hfresh : c.now.past.Pairwise fun later earlier => supersedes report later earlier = false) :
    c.now.state.listVerifications report.scope = listed := by
  obtain ⟨recent, older, hpast⟩ := List.append_of_mem hread
  rw [hpast] at hfresh
  have hnone : ∀ e ∈ recent, ¬ AppendsVerification report.scope e := by
    rintro e he ⟨pid', verification, answer, rfl, hscope⟩
    have hpair := (List.pairwise_append.mp hfresh).2.2 _ he _ List.mem_cons_self
    simp [supersedes, hscope, hlatest] at hpair
  obtain ⟨c₀, c₁, hrun₀, hstep, hpast₀, hpast₁, hsame⟩ := hrun.kept_since
    (f := fun state => state.listVerifications report.scope) hpast
    (fun d d' e hd hstep hpast hnot => listVerifications_of_step hd hstep hpast hnot) hnone
  rw [← hpast₀] at hpast₁
  obtain ⟨⟨call, hperformed⟩, -⟩ := performed_of_past hrun₀ hstep hpast₁
  obtain ⟨outside, hexec⟩ := hperformed.exec
  obtain ⟨hlisted, hstate⟩ := Prod.mk.inj (Option.some.inj hexec)
  rw [hsame, ← hstate]
  exact Except.ok.inj hlisted

/-- An approved issue plan that was read as the latest is the latest, unless one was
appended since. -/
theorem latest_of_pairwise {plan : IssuePlan} (hfair : PlansFair store)
    (hrun : Run (controlPlane services backend) cond store c)
    (hread : .performed pid (.getLatestIssuePlan report.scope) (.ok (some plan)) ∈ c.now.past)
    (hid : plan.id = report.issuePlanId) (happroved : plan.status = .approved)
    (hfresh : c.now.past.Pairwise fun later earlier => supersedes report later earlier = false) :
    c.now.state.getLatestIssuePlan backend report.scope = some plan := by
  obtain ⟨recent, older, hpast⟩ := List.append_of_mem hread
  have hfresh' := hfresh
  rw [hpast] at hfresh'
  have hnone : ∀ e ∈ recent, ¬ AppendsIssuePlan report.scope e := by
    rintro e he ⟨pid', appended, previous, answer, rfl, hscope⟩
    have hpair := (List.pairwise_append.mp hfresh').2.2 _ he _ List.mem_cons_self
    simp [supersedes, hscope, hid] at hpair
  obtain ⟨c₀, c₁, hrun₀, hstep, hpast₀, hpast₁, hsame⟩ := hrun.kept_since
    (f := fun state => (state.getLatestIssuePlan backend report.scope).map (·.id)) hpast
    (fun d d' e hd hstep hpast hnot => latestIssuePlan_of_step hfair hd hstep hpast hnot) hnone
  rw [← hpast₀] at hpast₁
  obtain ⟨⟨call, hperformed⟩, -⟩ := performed_of_past hrun₀ hstep hpast₁
  obtain ⟨outside, hexec⟩ := hperformed.exec
  obtain ⟨hfound, hstate⟩ := Prod.mk.inj (Option.some.inj hexec)
  rw [← hstate, Except.ok.inj hfound, Option.map_some] at hsame
  obtain ⟨row, hrow, hid'⟩ := Option.map_eq_some_iff.mp hsame
  have hmem := (mem_plansOf.mp (mem_of_getLatestIssuePlan hrow)).1
  -- The plan that was read is still a row, because it was approved.
  obtain ⟨c₂, c₃, call', hrun₂, hperformed', -, hstep', hsince⟩ := performed_of_mem hrun hread
  obtain ⟨outside', hexec'⟩ := hperformed'.exec
  have hplanRead : planRead? (.performed pid (.getLatestIssuePlan report.scope)
      (.ok (some plan)) : ControlEvent) = some plan := rfl
  obtain ⟨hmem₂, -⟩ := mem_of_planRead? hexec' hplanRead
  have hstays := approved_of_steps hfair hrun₂ (hsince.head hstep') hmem₂ happroved
  rw [hrow, (plansKept_of_run hfair hrun).distinct.eq_of_id_eq hmem hstays hid']

/-- What a report describes is in the store: the goal as it was or at a later version, a
verification that passed, and the issue plan that was verified, which is approved. -/
structure Backed (store : ControlStore) (report : DeliveryReport) : Prop where
  goal : ∃ goal, store.getGoal report.scope = some goal ∧ report.goal.version ≤ goal.version ∧
    (report.goal.version = goal.version → goal = report.goal)
  verification : ∃ verification ∈ store.verifications.rows, verification.scope = report.scope ∧
    verification.id = report.verificationId ∧ verification.issuePlanId = report.issuePlanId ∧
      verification.verdict = .passed
  issuePlan : ∃ plan ∈ store.issuePlans, plan.scope = report.scope ∧
    plan.id = report.issuePlanId ∧ plan.status = .approved

/-- Whatever clients do, a report stays backed. -/
theorem backed_of_run (hfair : PlansFair store) (hundelivered : Undelivered store)
    (hrun : Run (controlPlane services backend) cond store c)
    (hreport : report ∈ c.now.state.deliveryReports.rows) : Backed c.now.state report := by
  have hgrounded := deliveriesGrounded_of_run hundelivered hrun
  obtain ⟨pid, hrests⟩ := hgrounded.reports report hreport
  obtain ⟨id, verification, hread, hid, hissuePlan, hpassed⟩ := hrests.verification
  obtain ⟨hrow, hscope⟩ := verification_of_read hrun (mem_exchangesOf.mp hread)
  obtain ⟨pid', plan, hplan, hplanId, happroved⟩ := hgrounded.verifications verification hrow
  -- The plan that was read is still a row, because it was approved.
  obtain ⟨c₀, c₁, call, hrun₀, hperformed, -, hstep, hsince⟩ := performed_of_mem hrun hplan
  obtain ⟨outside, hexec⟩ := hperformed.exec
  obtain ⟨hfound, -⟩ := Prod.mk.inj (Option.some.inj hexec)
  obtain ⟨hmem, hplanScope⟩ := mem_plansOf.mp (mem_of_getLatestIssuePlan (Except.ok.inj hfound))
  have hstays := approved_of_steps hfair hrun₀ (hsince.head hstep) hmem happroved
  constructor
  · exact goalsRemembered_of_run hrun pid report.scope report.goal (mem_exchangesOf.mp hrests.goal)
  · exact ⟨verification, hrow, hscope, hid, hissuePlan, hpassed⟩
  · exact ⟨plan, hstays, hplanScope.trans hscope, hplanId.trans hissuePlan, happroved⟩

end Latest

/-! ## Completions -/

/-- Where acceptances are of reports that nothing has followed up on, whatever completes
a goal describes it. -/
theorem completesSoundly_of_fresh (hfair : PlansFair store) (hundelivered : Undelivered store)
    (hrun : Run (controlPlane services backend) AcceptsFresh store c)
    (hstep : Step (controlPlane services backend) AcceptsFresh c c') :
    CompletesSoundly backend c c' := by
  intro pid input answer goal goal' hpast hgoal hbefore hgoal' hafter
  obtain ⟨⟨call, hperformed⟩, hcond⟩ := performed_of_past hrun hstep hpast
  obtain ⟨outside, hexec⟩ := hperformed.exec
  rcases acceptDeliveryReport_cases (Option.some.inj hexec) with
    hsame | ⟨found, lookup, hcompletes, -⟩
  · rw [hsame, hgoal] at hgoal'
    obtain rfl := Option.some.inj hgoal'
    exact absurd hafter hbefore
  · obtain rfl : found = goal := Option.some.inj (hcompletes.found.symm.trans hgoal)
    obtain ⟨hversion, hfresh⟩ := hcond ⟨found, hcompletes⟩
    have hgrounded := deliveriesGrounded_of_run hundelivered hrun
    obtain ⟨pid', hrests⟩ := hgrounded.reports _ (current_of_performed hrun hperformed).1
    -- The snapshot has the version of the goal, so it is the goal.
    have hsnapshot : found = input.current.goal := by
      obtain ⟨now, hnow, -, hsame⟩ := goalsRemembered_of_run hrun pid' input.current.scope
        input.current.goal (mem_exchangesOf.mp hrests.goal)
      obtain rfl : now = found := Option.some.inj (hnow.symm.trans hgoal)
      apply hsame
      have hexpected := hcompletes.expected
      rw [hversion] at hexpected
      omega
    obtain ⟨id, verification, hread, hid, hissuePlan, hpassed⟩ := hrests.verification
    obtain ⟨hrow, hscope⟩ := verification_of_read hrun (mem_exchangesOf.mp hread)
    constructor
    · rw [hsnapshot]
    · rw [hsnapshot]
    · rw [hsnapshot]
    · rw [hsnapshot]
    · obtain ⟨listed, hlisted, hlatest⟩ := hrests.listed
      have hlist := listed_of_pairwise hrun (mem_exchangesOf.mp hlisted) hlatest hfresh
      rw [← hlist] at hlatest
      obtain ⟨last, hlast, hid'⟩ := Option.map_eq_some_iff.mp hlatest
      have hmem := (List.mem_filter.mp (Sql.mem_orderBy.mp (List.mem_of_getLast? hlast))).1
      have hsame : last = verification :=
        Sql.Table.eq_of_key_eq hmem hrow (hid'.trans hid.symm)
      exact ⟨last, hlast, hid', by rw [hsame, hpassed]⟩
    · obtain ⟨pid'', plan, hplan, hplanId, happroved⟩ := hgrounded.verifications _ hrow
      rw [hscope] at hplan
      have hreportId : plan.id = input.current.issuePlanId := hplanId.trans hissuePlan
      exact ⟨plan, latest_of_pairwise hfair hrun hplan hreportId happroved hfresh, hreportId,
        happroved⟩

/-! ## Accepting a sample report -/

/-- The ports of a goal that is verified as passed and has one completed issue. -/
def sampleDelivering (n : ℕ) : ControlStore.Outside
  | .listIssueRuns _ => .ok
    [{ issueId := js "issue"
       issueKey := js "A-1"
       runId := js "run"
       status := js "completed"
       artifactRefs := [js "log"]
       reviewIds := [js "review"]
       commitSha := some (js "commit")
       pullRequest := none }]
  | command => (sampleGranting (js "passed")
      (sampleOutput (.string (js "passed")) (.string (js "passed"))) n).1 command

/-- Perform the next `count` commands of a process on the ports of a delivery. -/
def sampleDelivers (pid start count : ℕ) : List (Action ControlCall ControlStore.Outside Empty) :=
  (List.range count).map fun i => .perform pid (sampleDelivering (start + i))

def sampleGenerate (verificationId : JsString) : GenerateCommand where
  scope := sampleScope
  verificationId := verificationId
  actorId := js "actor"
  knownRisks := .array []

def sampleAccept (reportId : JsString) (expectedGoalVersion : ℤ) : AcceptCommand where
  scope := sampleScope
  reportId := reportId
  actorId := js "reviewer"
  expectedGoalVersion := expectedGoalVersion
  reason := js "done"
  requestId := js "request"
  idempotencyKey := js "accept-1"

def sampleReporting : List (Action ControlCall ControlStore.Outside Empty) :=
  .spawn (.verify (.refl _) sampleVerify) :: sampleDelivers 0 0 14 ++
    .spawn (.generate ⟨.refl _, by decide⟩ (sampleGenerate (js "id" ++ [11]))) ::
      sampleDelivers 1 20 12

theorem sampleStore_fair : PlansFair sampleStore :=
  plansFair_of_single rfl rfl rfl

theorem sampleStore_undelivered : Undelivered sampleStore :=
  ⟨rfl, rfl⟩

/-- The report of a run in which a goal is verified and reported on. -/
theorem backed_of_run_reported : ∃ (c : ControlConfig) (report : DeliveryReport),
    report ∈ c.now.state.deliveryReports.rows ∧ Backed c.now.state report := by
  have hrun : ((execute (controlPlane sampleServices .postgres) (Config.initial sampleStore)
      sampleReporting).any fun c => !c.now.state.deliveryReports.rows.isEmpty) = true := by
    decide +kernel
  obtain ⟨c, hc, hsome⟩ := (Option.any_eq_true _ _).mp hrun
  obtain ⟨report, hreport⟩ := List.exists_mem_of_ne_nil _ (by simpa using hsome)
  exact ⟨c, report, hreport, backed_of_run sampleStore_fair sampleStore_undelivered
    (reached_of_execute hc) hreport⟩

def acceptsFresh (m : Moment ControlStore ControlCommand ControlCommand.Answer Thrown
    ControlCall ControlResult Empty) : Attempt ControlCommand ControlCall Empty → Bool
  | .perform _ (.acceptDeliveryReport input) =>
    input.expectedGoalVersion = input.current.goal.version ∧
      m.past.Pairwise fun later earlier => supersedes input.current later earlier = false
  | _ => true

theorem acceptsFresh_sound (m : Moment ControlStore ControlCommand ControlCommand.Answer Thrown
    ControlCall ControlResult Empty) (attempt : Attempt ControlCommand ControlCall Empty)
    (h : acceptsFresh m attempt = true) : AcceptsFresh m attempt := by
  unfold AcceptsFresh
  split
  · exact fun _ => of_decide_eq_true h
  · trivial

def completesSample (x : ControlConfig × ControlConfig) : Bool :=
  (x.1.now.state.getGoal sampleScope).any (fun goal => goal.status = .verifying) ∧
    (x.2.now.state.getGoal sampleScope).any (fun goal => goal.status = .completed)

/-- The report is accepted for the version of the goal that it describes. -/
theorem completesSoundly_of_fresh_accepted : ∃ (c c' : ControlConfig),
    completesSample (c, c') = true ∧ CompletesSoundly .postgres c c' := by
  let before : List (Action ControlCall ControlStore.Outside Empty) :=
    sampleReporting ++ .spawn (.accept (.refl _) (sampleAccept (js "id" ++ [30]) 3)) ::
      sampleDelivers 2 40 6
  let sys := controlPlane sampleServices .postgres
  have hrun : ((executeWhile sys acceptsFresh (Config.initial sampleStore) before).bind fun c =>
      (executeWhile sys acceptsFresh c (sampleDelivers 2 46 1)).map fun c' => (c, c')).any
      completesSample = true := by
    decide +kernel
  obtain ⟨d, d', hbefore, hafter, hcompletes⟩ := exists_of_any_pair hrun
  exact ⟨d, d', hcompletes, completesSoundly_of_fresh sampleStore_fair sampleStore_undelivered
    (run_of_executeWhile acceptsFresh_sound hbefore)
    (step_of_executeWhile acceptsFresh_sound hafter)⟩

def acceptance? : ControlEvent → Option AcceptDeliveryReport
  | .performed _ (.acceptDeliveryReport input) _ => some input
  | _ => none

theorem exists_of_acceptance? {e : ControlEvent} {input : AcceptDeliveryReport}
    (h : acceptance? e = some input) :
    ∃ pid answer, e = .performed pid (.acceptDeliveryReport input) answer := by
  unfold acceptance? at h
  split at h
  · next pid input' answer =>
    obtain rfl := Option.some.inj h
    exact ⟨pid, answer, rfl⟩
  · cases h

/-- The goal is edited after its report, and the report is accepted for the version
that the goal has then. -/
theorem not_completesSoundly : ¬ ∀ (services : ControlServices) (backend : IssuePlanBackend)
    (store : ControlStore) (c c' : ControlConfig), PlansFair store → Undelivered store →
    Reached (controlPlane services backend) store c →
    Step (controlPlane services backend) (fun _ _ => True) c c' →
    CompletesSoundly backend c c' := by
  intro hall
  let before : List (Action ControlCall ControlStore.Outside Empty) :=
    sampleReporting ++ .spawn (.update (sampleUpdate 3)) :: sampleDelivers 2 40 8 ++
      .spawn (.accept (.refl _) (sampleAccept (js "id" ++ [30]) 4)) :: sampleDelivers 3 60 6
  let sys := controlPlane sampleServices .postgres
  have hrun : ((execute sys (Config.initial sampleStore) before).bind fun c =>
      (step sys c (.perform 3 (sampleDelivering 66))).map fun c' => (c, c')).any
      (fun x => completesSample x && (x.2.now.past.head?.bind acceptance?).any fun input =>
        input.current.scope = sampleScope ∧
          (x.1.now.state.getGoal sampleScope).all
            (fun goal => input.current.goal.version ≠ goal.version)) = true := by
    decide +kernel
  obtain ⟨d, d', hbefore, hafter, hchecks⟩ := exists_of_any_pair hrun
  obtain ⟨hcompletes, hstale⟩ := Bool.and_eq_true_iff.mp hchecks
  have hstep := step_sound hafter
  obtain ⟨e, hpast⟩ := hstep.past
  obtain ⟨input, hinput, hversion⟩ := (Option.any_eq_true _ _).mp hstale
  rw [hpast, List.head?_cons, Option.bind_some] at hinput
  obtain ⟨pid, answer, rfl⟩ := exists_of_acceptance? hinput
  obtain ⟨hscope, hdiffers⟩ := of_decide_eq_true hversion
  obtain ⟨hverifying, hcompleted⟩ := of_decide_eq_true hcompletes
  obtain ⟨goal, hgoal, hstatus⟩ := (Option.any_eq_true _ _).mp hverifying
  obtain ⟨goal', hgoal', hstatus'⟩ := (Option.any_eq_true _ _).mp hcompleted
  have hbefore' : goal.status ≠ .completed := by
    rw [of_decide_eq_true hstatus]
    decide
  have hdescribes := hall sampleServices .postgres sampleStore d d' sampleStore_fair
    sampleStore_undelivered (reached_of_execute hbefore) hstep pid input answer goal goal' hpast
    (by rw [hscope]; exact hgoal) hbefore' (by rw [hscope]; exact hgoal')
    (of_decide_eq_true hstatus')
  rw [hgoal, Option.all_some] at hdiffers
  exact of_decide_eq_true hdiffers hdescribes.version

end DevHarness.ControlPlane
