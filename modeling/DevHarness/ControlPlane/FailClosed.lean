import Mathlib.Data.Fintype.Basic
import Mathlib.Tactic.FinCases
import DevHarness.ControlPlane.GoalVerification

/-!
# When a passed verdict is earned

A verification whose verdict is `passed` should rest on nothing but passed
entries, passed criteria, preserved non-goals and satisfied constraints.  The
verdicts are checked after `String(value)` but compared as they were received,
and a value that prints `failed` without being that string slips through.
-/

namespace DevHarness.ControlPlane

open JsText Interleave Program Sequence

section Entry

variable {command : VerifyCommand} {entry : AcceptanceVerificationEntry}
  {ex : List (Exchange ControlCommand ControlCommand.Answer Thrown)} {instructions : JsString}
  {answer : DeterministicVerifierAnswer}

/-- The recorded result of an entry against the exchanges of its round. -/
structure EntryOutcome (command : VerifyCommand) (entry : AcceptanceVerificationEntry)
    (ex : List (Exchange ControlCommand ControlCommand.Answer Thrown))
    (result : DeterministicVerificationResult) : Prop where
  entryId : result.entryId = entry.id
  allowed : result.status ∈ criterionVerdicts.map js
  evidence : result.status = js "passed" → result.evidenceRefs ≠ []
  manual : entry.strategy.isManual = true →
    (result.status = js "passed" ↔
      ∃ evidence ∈ command.manualEvidence, evidence.entryId = entry.id)
  referenced : entry.strategy.isManual = false → ∃ answer,
    ⟨.runDeterministic entry command.scope, .ok (some answer)⟩ ∈ ex ∧
      result.status = answer.status
  answered : ∀ answer, ⟨.runDeterministic entry command.scope, .ok (some answer)⟩ ∈ ex →
    result.status = answer.status
  own : ∀ entry' scope answer, ⟨.runDeterministic entry' scope, .ok (some answer)⟩ ∈ ex →
    entry' = entry

theorem only_manualResult :
    Only (fun cmd => (∃ request, cmd = .authorize request) ∨ cmd = .clock)
      (manualResult command entry instructions) := by
  unfold manualResult authorize
  split
  · refine only_bind (by simp) fun _ => only_bind only_done fun _ => only_bind ?_ fun _ => ?_
    · exact only_request.mpr (.inr rfl)
    · exact only_pure
  · exact only_pure

theorem status_of_ends_manualResult
    (h : Ends (manualResult command entry instructions) ex (.ok answer)) :
    (answer.status = js "passed" ↔
      ∃ evidence ∈ command.manualEvidence, evidence.entryId = entry.id) := by
  unfold manualResult at h
  split at h
  · next signed hsigned =>
    obtain ⟨_, _, _, -, -, h⟩ := ends_bind_ok_iff.mp h
    obtain ⟨_, _, _, -, -, h⟩ := ends_bind_ok_iff.mp h
    obtain ⟨signedAt, _, _, -, -, h⟩ := ends_bind_ok_iff.mp h
    obtain ⟨-, hanswer⟩ := ends_pure_iff.mp h
    obtain rfl := Except.ok.inj hanswer
    have hid := List.find?_some hsigned
    exact iff_of_true rfl ⟨signed, List.mem_of_find?_eq_some hsigned, by simpa using hid⟩
  · next hnone =>
    obtain ⟨-, hanswer⟩ := ends_pure_iff.mp h
    obtain rfl := Except.ok.inj hanswer
    have hstatus : js "needs_manual" ≠ js "passed" := by decide
    refine iff_of_false hstatus ?_
    rintro ⟨evidence, hevidence, hid⟩
    have hother := List.find?_eq_none.mp hnone evidence hevidence
    simp [hid] at hother

theorem only_durationOf {started : ℕ} :
    Only (fun cmd => cmd = .clock) (durationOf answer started) := by
  unfold durationOf
  split
  · exact only_pure
  · exact only_bind (only_request.mpr rfl) fun _ => only_pure

theorem outcome_of_ends_verifyEntry {result : DeterministicVerificationResult}
    (h : Ends (verifyEntry command entry) ex (.ok result)) :
    EntryOutcome command entry ex result := by
  obtain ⟨started, ex₁, _, rfl, hclock, h⟩ := ends_bind_ok_iff.mp h
  obtain ⟨answer, ex₂, _, rfl, hrun, h⟩ := ends_bind_ok_iff.mp h
  obtain ⟨_, ex₃, _, rfl, hvalid, h⟩ := ends_bind_ok_iff.mp h
  obtain ⟨durationMs, ex₄, ex₅, rfl, hduration, h⟩ := ends_bind_ok_iff.mp h
  obtain ⟨rfl, hresult⟩ := ends_pure_iff.mp h
  obtain rfl := Except.ok.inj hresult
  obtain ⟨rfl, hrequire⟩ := ends_done_iff.mp hvalid
  have hisValid := require_eq_ok.mp hrequire.symm
  simp only [DeterministicVerifierAnswer.isValid, decide_eq_true_eq] at hisValid
  obtain ⟨hallowed, -, hevidence⟩ := hisValid
  obtain rfl := ends_request_iff.mp hclock
  have hmem : ∀ {entry' scope answer'},
      (⟨.runDeterministic entry' scope, .ok (some answer')⟩ :
        Exchange ControlCommand ControlCommand.Answer Thrown) ∈
          [⟨.clock, .ok started⟩] ++ (ex₂ ++ ([] ++ (ex₄ ++ []))) →
      ⟨.runDeterministic entry' scope, .ok (some answer')⟩ ∈ ex₂ := by
    intro entry' scope answer' hx
    simp only [List.mem_append, List.mem_singleton, List.not_mem_nil, or_false, false_or] at hx
    rcases hx with hx | hx | hx
    · cases hx
    · exact hx
    · cases only_durationOf.of_mem hduration hx
  have hstays : ∀ {x}, x ∈ ex₂ →
      x ∈ [⟨.clock, .ok started⟩] ++ (ex₂ ++ ([] ++ (ex₄ ++ []))) := by
    intro x hx
    exact List.mem_append_right _ (List.mem_append_left _ hx)
  have hpassed : answer.status = js "passed" → answer.evidenceRefs.eraseDups ≠ [] := by
    intro hstatus hnil
    refine hevidence ⟨hstatus, ?_⟩
    rw [List.eq_nil_iff_forall_not_mem]
    intro ref href
    rw [← List.mem_eraseDups, hnil] at href
    exact List.not_mem_nil href
  unfold runEntry at hrun
  split at hrun
  · next instructions hstrategy =>
    have hmanual : entry.strategy.isManual = true := by rw [hstrategy]; rfl
    have hnone : ∀ {entry' scope answer'},
        (⟨.runDeterministic entry' scope, .ok (some answer')⟩ :
          Exchange ControlCommand ControlCommand.Answer Thrown) ∉ ex₂ := by
      intro entry' scope answer' hx
      rcases only_manualResult.of_mem hrun hx with ⟨_, hcmd⟩ | hcmd
      · cases hcmd
      · cases hcmd
    exact
      { entryId := rfl
        allowed := hallowed
        evidence := hpassed
        manual := fun _ => status_of_ends_manualResult hrun
        referenced := fun h => by rw [hmanual] at h; cases h
        answered := fun _ hx => absurd (hmem hx) hnone
        own := fun _ _ _ hx => absurd (hmem hx) hnone }
  · next type reference hstrategy =>
    have hmanual : entry.strategy.isManual = false := by rw [hstrategy]; rfl
    obtain ⟨received, _, _, rfl, hrequest, hwithin⟩ := ends_bind_ok_iff.mp hrun
    obtain rfl := ends_request_iff.mp hrequest
    obtain ⟨rfl, hanswer⟩ := ends_done_iff.mp hwithin
    have hreceived : received = some answer := by
      unfold within at hanswer
      split at hanswer
      · obtain rfl := Except.ok.inj hanswer
        rfl
      · cases hanswer
    subst hreceived
    exact
      { entryId := rfl
        allowed := hallowed
        evidence := hpassed
        manual := fun h => by rw [hmanual] at h; cases h
        referenced := fun _ => ⟨answer, hstays (by simp), rfl⟩
        answered := fun answer' hx => by
          have hx' := hmem hx
          simp only [List.append_nil, List.mem_singleton] at hx'
          injection hx' with _ hok
          rw [Option.some.inj (Except.ok.inj hok)]
        own := fun entry' scope answer' hx => by
          have hx' := hmem hx
          simp only [List.append_nil, List.mem_singleton] at hx'
          injection hx' with hcmd _
          injection hcmd }

/-- The commands of the loop over the entries. -/
def IsEntryCommand (cmd : ControlCommand) : Prop :=
  (∃ request, cmd = .authorize request) ∨ cmd = .clock ∨
    ∃ entry scope, cmd = .runDeterministic entry scope

theorem only_verifyEntry : Only IsEntryCommand (verifyEntry command entry) := by
  have hclock : IsEntryCommand .clock := .inr (.inl rfl)
  refine only_bind (only_request.mpr hclock) fun started => ?_
  refine only_bind ?_ fun answer => ?_
  · unfold runEntry
    split
    · refine Only.mono ?_ only_manualResult
      rintro cmd (hauthorize | rfl)
      · exact .inl hauthorize
      · exact hclock
    · exact only_bind (only_request.mpr (.inr (.inr ⟨_, _, rfl⟩))) fun _ => only_done
  refine only_bind only_done fun _ => only_bind ?_ fun _ => only_pure
  refine Only.mono ?_ only_durationOf
  rintro cmd rfl
  exact hclock

end Entry

section Judge

variable {service : GoalVerificationService} {order : Equiv.Perm (Fin 5)} {command : VerifyCommand}
  {judgement : Judgement} {ex : List (Exchange ControlCommand ControlCommand.Answer Thrown)}
  {reads : VerifyReads}

def IsVerifyRead (command : VerifyCommand) (cmd : ControlCommand) : Prop :=
  cmd = .getGoal command.scope ∨ cmd = .getPlan command.scope command.planId ∨
    cmd = .listPlans command.scope ∨ cmd = .listVerifications command.scope ∨
      cmd = .getLatestIssuePlan command.scope

theorem only_verifyRead (i : Fin 5) :
    Only (IsVerifyRead command) (verifyRead command i) := by
  unfold IsVerifyRead
  fin_cases i <;> exact only_read (by simp)

structure ReadBack (command : VerifyCommand)
    (ex : List (Exchange ControlCommand ControlCommand.Answer Thrown))
    (reads : VerifyReads) : Prop where
  goal : ∀ g, ⟨.getGoal command.scope, .ok g⟩ ∈ ex ↔ g = reads.goal
  plan : ∀ p, ⟨.getPlan command.scope command.planId, .ok p⟩ ∈ ex ↔ p = reads.plan
  previous : ∀ vs, ⟨.listVerifications command.scope, .ok vs⟩ ∈ ex ↔ vs = reads.previous
  latest : ∀ p, ⟨.getLatestIssuePlan command.scope, .ok p⟩ ∈ ex ↔ p = reads.latestIssuePlan

theorem readBack_of_ends
    (h : Ends (readAll order VerifyReads.none (verifyRead command)) ex (.ok reads)) :
    ReadBack command ex reads := by
  constructor
  · intro g
    refine mem_readAll_iff (g := VerifyReads.goal) 0 rfl (fun _ _ => rfl) ?_ h g
    intro j hj ex' enter' hends
    fin_cases j <;> obtain ⟨answer, rfl, rfl⟩ := ends_read_iff.mp hends <;> simp_all
  · intro p
    refine mem_readAll_iff (g := VerifyReads.plan) 1 rfl (fun _ _ => rfl) ?_ h p
    intro j hj ex' enter' hends
    fin_cases j <;> obtain ⟨answer, rfl, rfl⟩ := ends_read_iff.mp hends <;> simp_all
  · intro vs
    refine mem_readAll_iff (g := VerifyReads.previous) 3 rfl (fun _ _ => rfl) ?_ h vs
    intro j hj ex' enter' hends
    fin_cases j <;> obtain ⟨answer, rfl, rfl⟩ := ends_read_iff.mp hends <;> simp_all
  · intro p
    refine mem_readAll_iff (g := VerifyReads.latestIssuePlan) 4 rfl (fun _ _ => rfl) ?_ h p
    intro j hj ex' enter' hends
    fin_cases j <;> obtain ⟨answer, rfl, rfl⟩ := ends_read_iff.mp hends <;> simp_all

/-- The plan that passes the check is current: it is the compiled one of the goal
as it was read, and its issue plan is the latest and approved. -/
theorem eq_ok_of_checkCurrent {current : GoalContract × AcceptanceVerificationPlan}
    (h : checkCurrent command reads = .ok current) :
    reads.goal = some current.1 ∧ reads.plan = some current.2 ∧
      current.1.status = .verifying ∧ current.2.goalVersion = current.1.version ∧
      ∃ latest, reads.latestIssuePlan = some latest ∧ latest.id = current.2.issuePlanId ∧
        latest.status = .approved := by
  unfold checkCurrent at h
  split at h
  · next goal plan latest hgoal hplan hlatest =>
    rw [ite_error_eq_ok] at h
    obtain ⟨hfresh, hcurrent⟩ := h
    obtain rfl := Except.ok.inj hcurrent
    simp only [not_or, not_not, Bool.not_eq_false] at hfresh
    obtain ⟨hstatus, -, hversion, -, -, hid, hissue⟩ := hfresh
    exact ⟨hgoal, hplan, hstatus, hversion, latest, hlatest, hid, hissue⟩
  · cases h

/-- What `verify` has found out when it is about to append a verification. -/
structure Judged (command : VerifyCommand)
    (ex : List (Exchange ControlCommand ControlCommand.Answer Thrown)) (judgement : Judgement)
    (raw : Json) : Prop where
  goal : ∀ g, ⟨.getGoal command.scope, .ok g⟩ ∈ ex ↔ g = some judgement.goal
  plan : ∀ p, ⟨.getPlan command.scope command.planId, .ok p⟩ ∈ ex ↔ p = some judgement.plan
  previous : ⟨.listVerifications command.scope, .ok judgement.previous⟩ ∈ ex
  latest : ∃ latest, ⟨.getLatestIssuePlan command.scope, .ok (some latest)⟩ ∈ ex ∧
    latest.id = judgement.plan.issuePlanId ∧ latest.status = .approved
  verifying : judgement.goal.status = .verifying
  outcomes : List.Forall₂ (fun entry result => ∃ ex', ex' ⊆ ex ∧
    EntryOutcome command entry ex' result) judgement.plan.entries judgement.results
  ran : ∀ entry answer, ⟨.runDeterministic entry command.scope, .ok (some answer)⟩ ∈ ex →
    ∃ result ∈ judgement.results, result.status = answer.status
  answered : ∃ request, ⟨.verifyGoal request, .ok (some raw)⟩ ∈ ex
  only : ∀ request raw', ⟨.verifyGoal request, .ok (some raw')⟩ ∈ ex → raw' = raw
  output : validateGoalVerifierOutput raw judgement.goal = .ok judgement.output
  cites : citesEvidence judgement.results judgement.output = true

theorem eq_some_of_within {α : Type} {answer : Option α} {message : JsString} {a : α}
    (h : within answer message = .ok a) : answer = some a := by
  unfold within at h
  split at h
  · rw [Except.ok.inj h]
  · cases h

theorem judged_of_ends (h : Ends (judge service order command) ex (.ok judgement)) :
    ∃ raw, Judged command ex judgement raw := by
  obtain ⟨_, _, rfl, h₁⟩ := ends_request_bind_iff.mp h
  obtain ⟨reads, ex₁, _, rfl, hreads, h₂⟩ := ends_bind_ok_iff.mp h₁
  obtain ⟨current, hcurrent, h₃⟩ := ends_done_bind_iff.mp h₂
  obtain ⟨builders, _, rfl, h₄⟩ := ends_request_bind_iff.mp h₃
  obtain ⟨_, -, h₅⟩ := ends_done_bind_iff.mp h₄
  obtain ⟨_, -, h₆⟩ := ends_done_bind_iff.mp h₅
  obtain ⟨results, ex₂, _, rfl, hloop, h₇⟩ := ends_bind_ok_iff.mp h₆
  obtain ⟨_, -, h₈⟩ := ends_done_bind_iff.mp h₇
  obtain ⟨sessionId, _, rfl, h₉⟩ := ends_request_bind_iff.mp h₈
  obtain ⟨answer, _, rfl, h₁₀⟩ := ends_request_bind_iff.mp h₉
  obtain ⟨raw, hwithin, h₁₁⟩ := ends_done_bind_iff.mp h₁₀
  obtain ⟨output, houtput, h₁₂⟩ := ends_done_bind_iff.mp h₁₁
  obtain ⟨_, hcites, h₁₃⟩ := ends_done_bind_iff.mp h₁₂
  obtain ⟨rfl, hjudgement⟩ := ends_pure_iff.mp h₁₃
  obtain rfl := Except.ok.inj hjudgement
  obtain rfl := eq_some_of_within hwithin
  have hback := readBack_of_ends hreads
  obtain ⟨hgoal, hplan, hstatus, -, latest, hlatest, hissue, happroved⟩ :=
    eq_ok_of_checkCurrent hcurrent
  have hread : ∀ x ∈ ex₁, IsVerifyRead command x.cmd := fun x hx =>
    (only_readAll only_verifyRead).of_mem hreads hx
  have hentry : ∀ x ∈ ex₂, IsEntryCommand x.cmd := fun x hx =>
    (only_forEach (fun _ => only_verifyEntry) _).of_mem hloop hx
  refine ⟨raw, ?_⟩
  constructor
  · intro g
    have hloop : ∀ h, ⟨.getGoal command.scope, .ok h⟩ ∉ ex₂ := fun h hx => by
      simpa [IsEntryCommand] using hentry _ hx
    simp only [List.mem_cons, List.mem_append, Exchange.mk.injEq, reduceCtorEq, false_and,
      false_or, or_false, hloop, List.not_mem_nil]
    rw [hback.goal, hgoal]
  · intro p
    have hloop : ∀ h, ⟨.getPlan command.scope command.planId, .ok h⟩ ∉ ex₂ := fun h hx => by
      simpa [IsEntryCommand] using hentry _ hx
    simp only [List.mem_cons, List.mem_append, Exchange.mk.injEq, reduceCtorEq, false_and,
      false_or, or_false, hloop, List.not_mem_nil]
    rw [hback.plan, hplan]
  · exact List.mem_cons_of_mem _ (List.mem_append_left _ ((hback.previous _).mpr rfl))
  · exact ⟨latest, List.mem_cons_of_mem _ (List.mem_append_left _
      ((hback.latest _).mpr hlatest.symm)), hissue, happroved⟩
  · exact hstatus
  · refine (forall₂_of_ends_forEach hloop).imp ?_
    rintro entry result ⟨ex', hsub, hends⟩
    refine ⟨ex', fun x hx => ?_, outcome_of_ends_verifyEntry hends⟩
    exact List.mem_cons_of_mem _ (List.mem_append_right _
      (List.mem_cons_of_mem _ (List.mem_append_left _ (hsub hx))))
  · intro entry answer hx
    have hx₁ : ⟨.runDeterministic entry command.scope, .ok (some answer)⟩ ∉ ex₁ := fun hx => by
      simpa [IsVerifyRead] using hread _ hx
    simp only [List.mem_cons, List.mem_append, Exchange.mk.injEq, reduceCtorEq, false_and,
      false_or, or_false, hx₁, List.not_mem_nil] at hx
    obtain ⟨entry', -, result, hresult, ex', hx', hends⟩ := round_of_mem hloop hx
    have houtcome := outcome_of_ends_verifyEntry hends
    obtain rfl := houtcome.own entry command.scope answer hx'
    exact ⟨result, hresult, houtcome.answered answer hx'⟩
  · exact ⟨_, List.mem_cons_of_mem _ (List.mem_append_right _ (List.mem_cons_of_mem _
      (List.mem_append_right _ (List.mem_cons_of_mem _ List.mem_cons_self))))⟩
  · intro request raw' hx
    have hx₁ : ⟨.verifyGoal request, .ok (some raw')⟩ ∉ ex₁ := fun hx => by
      simpa [IsVerifyRead] using hread _ hx
    have hx₂ : ⟨.verifyGoal request, .ok (some raw')⟩ ∉ ex₂ := fun hx => by
      simpa [IsEntryCommand] using hentry _ hx
    simp only [List.mem_cons, List.mem_append, Exchange.mk.injEq, reduceCtorEq, false_and,
      false_or, or_false, hx₁, hx₂, List.not_mem_nil] at hx
    obtain ⟨hcmd, hok⟩ := hx
    injection hcmd with hrequest
    subst hrequest
    exact Option.some.inj (Except.ok.inj (eq_of_heq hok))
  · exact houtput
  · exact require_eq_ok.mp hcites

theorem ends_verify_iff {v : GoalVerification} :
    Ends (verify service order command) ex (.ok v) ↔
      ∃ judgement id verifiedAt ex', Ends (judge service order command) ex' (.ok judgement) ∧
        ex = ex' ++ [⟨.newId, .ok id⟩, ⟨.clock, .ok verifiedAt⟩,
          ⟨.appendVerification (verificationOf service command judgement id verifiedAt),
            .ok v⟩] := by
  unfold verify
  rw [ends_bind_ok_iff]
  constructor
  · rintro ⟨judgement, ex₁, ex₂, rfl, hjudge, h⟩
    obtain ⟨id, ex₃, rfl, h₁⟩ := ends_request_bind_iff.mp h
    obtain ⟨verifiedAt, ex₄, rfl, h₂⟩ := ends_request_bind_iff.mp h₁
    obtain rfl := ends_request_iff.mp h₂
    exact ⟨judgement, id, verifiedAt, ex₁, hjudge, rfl⟩
  · rintro ⟨judgement, id, verifiedAt, ex', hjudge, rfl⟩
    refine ⟨judgement, ex', _, rfl, hjudge, ends_request_bind_iff.mpr ⟨id, _, rfl, ?_⟩⟩
    exact ends_request_bind_iff.mpr ⟨verifiedAt, _, rfl, ends_request_iff.mpr rfl⟩

end Judge

/-! ## Fail-closed verdicts -/

/-- A verification of the plan in which nothing but what has passed counts. -/
structure FailClosed (goal : GoalContract) (plan : AcceptanceVerificationPlan)
    (v : GoalVerification) : Prop where
  entries : List.Forall₂ (fun entry result => result.entryId = entry.id ∧
    result.status = js "passed" ∧ result.evidenceRefs ≠ []) plan.entries v.deterministicResults
  criteriaCovered : (v.verifierOutput.criteria.map (·.criterionRef)).Perm
    (goal.acceptanceCriteria.map (·.id))
  nonGoalsCovered : (v.verifierOutput.nonGoals.map (·.statement)).Perm goal.nonGoals
  constraintsCovered : (v.verifierOutput.constraints.map (·.statement)).Perm goal.constraints
  criteria : ∀ criterion ∈ v.verifierOutput.criteria,
    criterion.verdict = .string (js "passed") ∧ criterion.evidenceRefs ≠ [] ∧
      ∀ ref ∈ criterion.evidenceRefs, ∃ result ∈ v.deterministicResults,
        ref ∈ result.evidenceRefs
  nonGoals : ∀ nonGoal ∈ v.verifierOutput.nonGoals, nonGoal.verdict = js "preserved"
  constraints : ∀ bound ∈ v.verifierOutput.constraints, bound.verdict = js "satisfied"
  overall : v.verifierOutput.overallVerdict = .string (js "passed")

/-- The overall verdict and those on the criteria were received as strings. -/
structure VerdictsAreStrings (raw : Json) : Prop where
  overall : (fieldOf raw "overallVerdict").isString = true
  criteria : ∀ item ∈ (fieldOf raw "criteria").items, (fieldOf item "verdict").isString = true

/-- Something that was received keeps the verdict from being `passed`. -/
inductive Blocked (command : VerifyCommand) (plan : AcceptanceVerificationPlan)
    (ex : List (Exchange ControlCommand ControlCommand.Answer Thrown)) (raw : Json) : Prop
  | unsigned (entry : AcceptanceVerificationEntry) (mem : entry ∈ plan.entries)
      (manual : entry.strategy.isManual = true)
      (none : ∀ evidence ∈ command.manualEvidence, evidence.entryId ≠ entry.id)
  | deterministic (entry : AcceptanceVerificationEntry) (answer : DeterministicVerifierAnswer)
      (answered : ⟨.runDeterministic entry command.scope, .ok (some answer)⟩ ∈ ex)
      (status : answer.status ≠ js "passed")
  | overall (word : JsString) (mem : word ∈ [js "failed", js "needs_manual"])
      (received : fieldOf raw "overallVerdict" = .string word)
  | criterion (item : Json) (mem : item ∈ (fieldOf raw "criteria").items) (word : JsString)
      (word_mem : word ∈ [js "failed", js "needs_manual"])
      (received : fieldOf item "verdict" = .string word)
  | nonGoal (item : Json) (mem : item ∈ (fieldOf raw "nonGoals").items)
      (printed : (fieldOf item "verdict").toText ≠ some (js "preserved"))
  | bound (item : Json) (mem : item ∈ (fieldOf raw "constraints").items)
      (printed : (fieldOf item "verdict").toText ≠ some (js "satisfied"))

section Verdict

variable {service : GoalVerificationService} {order : Equiv.Perm (Fin 5)}
  {command : VerifyCommand} {judgement : Judgement} {raw : Json}
  {ex : List (Exchange ControlCommand ControlCommand.Answer Thrown)}

/-- Of the three verdicts, the one that is neither `failed` nor `needs_manual` is
`passed`. -/
theorem passed_of_mem {s : JsString} (h : s ∈ criterionVerdicts.map js)
    (hfailed : s ≠ js "failed") (hmanual : s ≠ js "needs_manual") : s = js "passed" := by
  simp only [criterionVerdicts, List.map_cons, List.map_nil, List.mem_cons,
    List.not_mem_nil, or_false] at h
  rcases h with h | h | h
  · exact h
  · exact absurd h hfailed
  · exact absurd h hmanual

theorem eq_passed_of_prints {value : Json} (hprints : Prints criterionVerdicts value)
    (hstring : value.isString = true) (hfailed : value.isWord (js "failed") = false)
    (hmanual : value.isWord (js "needs_manual") = false) : value = .string (js "passed") := by
  obtain ⟨s, rfl⟩ := Json.isString_iff.mp hstring
  obtain ⟨word, hword, htext⟩ := hprints
  rw [Json.toText_string] at htext
  obtain rfl := Option.some.inj htext
  simp only [Json.isWord_string, decide_eq_false_iff_not] at hfailed hmanual
  rw [passed_of_mem (List.mem_map_of_mem hword) hfailed hmanual]

theorem derivedVerdict_eq_passed_iff_not_blocked (h : Judged command ex judgement raw) :
    derivedVerdict judgement.results judgement.output = .passed ↔
      ¬ Blocked command judgement.plan ex raw := by
  have hreflects := reflects_of_validateGoalVerifierOutput h.output
  rw [derivedVerdict_eq_passed_iff]
  constructor
  · rintro ⟨hresults, hoverall, hcriteria, hnonGoals, hconstraints⟩ hblocked
    cases hblocked with
    | unsigned entry mem manual none =>
        obtain ⟨result, hresult, ex', -, houtcome⟩ :=
          exists_right_of_forall₂ h.outcomes mem
        have hstatus := passed_of_mem houtcome.allowed (hresults result hresult).1
          (hresults result hresult).2
        obtain ⟨evidence, hevidence, hid⟩ := (houtcome.manual manual).mp hstatus
        exact none evidence hevidence hid
    | deterministic entry answer answered status =>
        obtain ⟨result, hresult, heq⟩ := h.ran entry answer answered
        obtain ⟨entry', -, ex', -, houtcome⟩ := exists_left_of_forall₂ h.outcomes hresult
        have hstatus := passed_of_mem houtcome.allowed (hresults result hresult).1
          (hresults result hresult).2
        rw [heq] at hstatus
        exact status hstatus
    | overall word mem received =>
        rw [hreflects.overall, received] at hoverall
        simp only [Json.isWord_string, decide_eq_false_iff_not] at hoverall
        simp only [List.mem_cons, List.not_mem_nil, or_false] at mem
        exact mem.elim hoverall.1 hoverall.2
    | criterion item mem word word_mem received =>
        obtain ⟨criterion, hcriterion, hitem⟩ :=
          exists_right_of_forall₂ hreflects.criteria mem
        have hword := hcriteria criterion hcriterion
        rw [hitem.received, received] at hword
        simp only [Json.isWord_string, decide_eq_false_iff_not] at hword
        simp only [List.mem_cons, List.not_mem_nil, or_false] at word_mem
        exact word_mem.elim hword.1 hword.2
    | nonGoal item mem printed =>
        obtain ⟨nonGoal, hnonGoal, hitem⟩ := exists_right_of_forall₂ hreflects.nonGoals mem
        have hword := hnonGoals nonGoal hnonGoal
        have hallowed := hitem.allowed
        simp only [nonGoalVerdicts, List.map_cons, List.map_nil, List.mem_cons,
          List.not_mem_nil, or_false] at hallowed
        rcases hallowed with heq | heq | heq
        · rw [← heq] at printed
          exact printed hitem.printed
        · exact hword.1 heq
        · exact hword.2 heq
    | bound item mem printed =>
        obtain ⟨bound, hbound, hitem⟩ := exists_right_of_forall₂ hreflects.constraints mem
        have hword := hconstraints bound hbound
        have hallowed := hitem.allowed
        simp only [constraintVerdicts, List.map_cons, List.map_nil, List.mem_cons,
          List.not_mem_nil, or_false] at hallowed
        rcases hallowed with heq | heq | heq
        · rw [← heq] at printed
          exact printed hitem.printed
        · exact hword.1 heq
        · exact hword.2 heq
  · intro hfree
    have hnot : ∀ {value : Json} {word : JsString}, (value = .string word → False) →
        value.isWord word = false := by
      intro value word hne
      by_contra htrue
      exact hne (Json.isWord_iff.mp (by simpa using htrue))
    refine ⟨?_, ?_, ?_, ?_, ?_⟩
    · intro result hresult
      obtain ⟨entry, hentry, ex', hsub, houtcome⟩ := exists_left_of_forall₂ h.outcomes hresult
      have hpassed : result.status = js "passed" := by
        by_cases hmanual : entry.strategy.isManual = true
        · rw [houtcome.manual hmanual]
          by_contra hnone
          refine hfree (.unsigned entry hentry hmanual fun evidence hevidence hid => ?_)
          exact hnone ⟨evidence, hevidence, hid⟩
        · obtain ⟨answer, hanswer, hstatus⟩ :=
            houtcome.referenced (Bool.not_eq_true _ ▸ hmanual)
          by_contra hne
          rw [hstatus] at hne
          exact hfree (.deterministic entry answer (hsub hanswer) hne)
      rw [hpassed]
      decide
    · rw [hreflects.overall]
      constructor
      · exact hnot fun heq => hfree (.overall _ (by simp) heq)
      · exact hnot fun heq => hfree (.overall _ (by simp) heq)
    · intro criterion hcriterion
      obtain ⟨item, hitem, hreflect⟩ := exists_left_of_forall₂ hreflects.criteria hcriterion
      rw [hreflect.received]
      constructor
      · exact hnot fun heq => hfree (.criterion item hitem _ (by simp) heq)
      · exact hnot fun heq => hfree (.criterion item hitem _ (by simp) heq)
    · intro nonGoal hnonGoal
      obtain ⟨item, hitem, hreflect⟩ := exists_left_of_forall₂ hreflects.nonGoals hnonGoal
      have heq : nonGoal.verdict = js "preserved" := by
        by_contra hne
        refine hfree (.nonGoal item hitem fun htext => hne ?_)
        rw [hreflect.printed] at htext
        exact Option.some.inj htext
      rw [heq]
      decide
    · intro bound hbound
      obtain ⟨item, hitem, hreflect⟩ := exists_left_of_forall₂ hreflects.constraints hbound
      have heq : bound.verdict = js "satisfied" := by
        by_contra hne
        refine hfree (.bound item hitem fun htext => hne ?_)
        rw [hreflect.printed] at htext
        exact Option.some.inj htext
      rw [heq]
      decide

/-- Exactly when `verify` is fail-closed: when it does not say `passed` for another
reason, or when the verdicts that it compares were strings. -/
theorem failClosed_iff {backend : IssuePlanBackend} {v : GoalVerification}
    {goal : GoalContract} {plan : AcceptanceVerificationPlan} {request : GoalVerifierRequest}
    (hends : Ends (verify service order command) ex (.ok v))
    (hanswers : ∀ x ∈ ex, x.AnsweredBy (ControlStore.exec backend))
    (hgoal : ⟨.getGoal command.scope, .ok (some goal)⟩ ∈ ex)
    (hplan : ⟨.getPlan command.scope command.planId, .ok (some plan)⟩ ∈ ex)
    (hraw : ⟨.verifyGoal request, .ok (some raw)⟩ ∈ ex) :
    (v.verdict = .passed → FailClosed goal plan v) ↔
      VerdictsAreStrings raw ∨ Blocked command plan ex raw := by
  obtain ⟨judgement, id, verifiedAt, ex', hjudge, rfl⟩ := ends_verify_iff.mp hends
  obtain ⟨raw', hjudged⟩ := judged_of_ends hjudge
  simp only [List.mem_append, List.mem_cons, Exchange.mk.injEq, reduceCtorEq, false_and,
    List.not_mem_nil, or_false] at hgoal hplan hraw
  obtain rfl := Option.some.inj ((hjudged.goal _).mp hgoal)
  obtain rfl := Option.some.inj ((hjudged.plan _).mp hplan)
  obtain rfl := hjudged.only request raw hraw
  have hv : v = verificationOf service command judgement id verifiedAt := by
    obtain ⟨outside, store, store', hexec⟩ := hanswers
      ⟨.appendVerification (verificationOf service command judgement id verifiedAt), .ok v⟩
      (by simp)
    have happend := Option.some.inj hexec
    simp only [ControlStore.appendVerification] at happend
    split at happend
    · cases (Prod.mk.inj happend).1
    · exact (Except.ok.inj (Prod.mk.inj happend).1).symm
  subst hv
  have hblocked : Blocked command judgement.plan (ex' ++ [⟨.newId, .ok id⟩,
      ⟨.clock, .ok verifiedAt⟩, ⟨.appendVerification (verificationOf service command judgement
        id verifiedAt), .ok (verificationOf service command judgement id verifiedAt)⟩]) raw ↔
      Blocked command judgement.plan ex' raw := by
    constructor
    · rintro (⟨e, h₁, h₂, h₃⟩ | ⟨e, a, h₁, h₂⟩ | ⟨w, h₁, h₂⟩ | ⟨i, h₁, w, h₂, h₃⟩ |
        ⟨i, h₁, h₂⟩ | ⟨i, h₁, h₂⟩)
      · exact .unsigned e h₁ h₂ h₃
      · exact .deterministic e a (by simpa using h₁) h₂
      · exact .overall w h₁ h₂
      · exact .criterion i h₁ w h₂ h₃
      · exact .nonGoal i h₁ h₂
      · exact .bound i h₁ h₂
    · rintro (⟨e, h₁, h₂, h₃⟩ | ⟨e, a, h₁, h₂⟩ | ⟨w, h₁, h₂⟩ | ⟨i, h₁, w, h₂, h₃⟩ |
        ⟨i, h₁, h₂⟩ | ⟨i, h₁, h₂⟩)
      · exact .unsigned e h₁ h₂ h₃
      · exact .deterministic e a (List.mem_append_left _ h₁) h₂
      · exact .overall w h₁ h₂
      · exact .criterion i h₁ w h₂ h₃
      · exact .nonGoal i h₁ h₂
      · exact .bound i h₁ h₂
  rw [hblocked]
  have hreflects := reflects_of_validateGoalVerifierOutput hjudged.output
  have hpassed := derivedVerdict_eq_passed_iff_not_blocked hjudged
  change (derivedVerdict judgement.results judgement.output = .passed → _) ↔ _
  constructor
  · intro hclosed
    by_contra hnot
    rw [not_or] at hnot
    have hearned := hclosed (hpassed.mpr hnot.2)
    refine hnot.1 ⟨?_, ?_⟩
    · rw [← hreflects.overall]
      have hoverall : judgement.output.overallVerdict = _ := hearned.overall
      rw [hoverall]
      rfl
    · intro item hitem
      obtain ⟨criterion, hcriterion, hreflect⟩ :=
        exists_right_of_forall₂ hreflects.criteria hitem
      rw [← hreflect.received, (hearned.criteria criterion hcriterion).1]
      rfl
  · rintro hor hverdict
    have hstrings := hor.resolve_right (hpassed.mp hverdict)
    have hfree := derivedVerdict_eq_passed_iff.mp hverdict
    obtain ⟨hresults, hoverall, hcriteria, hnonGoals, hconstraints⟩ := hfree
    have hcriterion : ∀ criterion ∈ judgement.output.criteria,
        criterion.verdict = .string (js "passed") := by
      intro criterion hmem
      obtain ⟨item, hitem, hreflect⟩ := exists_left_of_forall₂ hreflects.criteria hmem
      have hstring := hstrings.criteria item hitem
      rw [← hreflect.received] at hstring
      exact eq_passed_of_prints hreflect.printed hstring (hcriteria criterion hmem).1
        (hcriteria criterion hmem).2
    have hcites := hjudged.cites
    simp only [citesEvidence, decide_eq_true_eq] at hcites
    have hstatus : ∀ result ∈ judgement.results, result.status = js "passed" := by
      intro result hresult
      obtain ⟨entry, -, ex₁, -, houtcome⟩ := exists_left_of_forall₂ hjudged.outcomes hresult
      exact passed_of_mem houtcome.allowed (hresults result hresult).1
        (hresults result hresult).2
    constructor
    · have hboth := (List.forall₂_and_left _ _).mpr ⟨hstatus, hjudged.outcomes.flip⟩
      refine (hboth.imp ?_).flip
      rintro result entry ⟨hpassed, ex₁, -, houtcome⟩
      exact ⟨houtcome.entryId, hpassed, houtcome.evidence hpassed⟩
    · exact hreflects.criteriaCovered
    · exact hreflects.nonGoalsCovered
    · exact hreflects.constraintsCovered
    · intro criterion hmem
      have hverdict := hcriterion criterion hmem
      have hcite := hcites criterion hmem (by rw [hverdict]; simp)
      refine ⟨hverdict, hcite.1, fun ref href => ?_⟩
      exact List.mem_flatMap.mp (hcite.2 ref href)
    · intro nonGoal hmem
      obtain ⟨item, -, hreflect⟩ := exists_left_of_forall₂ hreflects.nonGoals hmem
      have hallowed := hreflect.allowed
      simp only [nonGoalVerdicts, List.map_cons, List.map_nil, List.mem_cons,
        List.not_mem_nil, or_false] at hallowed
      have hword := hnonGoals nonGoal hmem
      exact hallowed.resolve_right fun hother => hother.elim hword.1 hword.2
    · intro bound hmem
      obtain ⟨item, -, hreflect⟩ := exists_left_of_forall₂ hreflects.constraints hmem
      have hallowed := hreflect.allowed
      simp only [constraintVerdicts, List.map_cons, List.map_nil, List.mem_cons,
        List.not_mem_nil, or_false] at hallowed
      have hword := hconstraints bound hmem
      exact hallowed.resolve_right fun hother => hother.elim hword.1 hword.2
    · have hstring := hstrings.overall
      rw [← hreflects.overall] at hstring
      exact eq_passed_of_prints hreflects.overallPrinted hstring hoverall.1 hoverall.2

end Verdict

/-! ## A verifier that answers `["failed"]` -/

def sampleScope : GoalScope where
  organizationId := js "org"
  projectId := js "project"
  goalId := js "goal"

def sampleGoal : GoalContract where
  id := js "goal"
  organizationId := js "org"
  projectId := js "project"
  title := js "Title"
  problemStatement := js "Problem"
  desiredOutcome := js "Outcome"
  acceptanceCriteria := [{ id := js "c1", position := 1, statement := js "It works", version := 1 }]
  nonGoals := []
  constraints := []
  status := .verifying
  version := 3
  createdAt := 0
  updatedAt := 0

def sampleIssuePlan : IssuePlan where
  id := js "issue-plan"
  organizationId := js "org"
  projectId := js "project"
  goalId := js "goal"
  revision := 1
  previousPlanId := none
  status := .approved
  source :=
    { specRevisionId := js "spec"
      specRevisionVersion := 1
      specArtifactDigest := js "digest"
      requirements := []
      acceptanceCriterionIds := [js "c1"] }
  issues := []
  compilation :=
    { valid := true
      diagnostics := []
      requirements := { covered := [], uncovered := [] }
      acceptanceCriteria := { covered := [], uncovered := [] }
      topologicalOrder := [] }
  conflicts := []
  waves := []
  modelRecommendations := []
  plannerRunId := js "planner"
  plannerConfiguration := { adapter := js "adapter", modelProfile := js "profile" }
  digest := js "digest"
  generatedAt := 0
  version := 2
  createdAt := 0
  updatedAt := 0

def sampleEntry : AcceptanceVerificationEntry where
  id := js "entry"
  criterionRef := js "c1"
  environment := .test
  strategy := .referenced .command (js "npm test")
  successCondition := js "exit code 0"
  timeoutMs := 1000
  responsibleParty := js "team"

def samplePlan : AcceptanceVerificationPlan where
  id := js "plan"
  organizationId := js "org"
  projectId := js "project"
  goalId := js "goal"
  goalVersion := 3
  issuePlanId := js "issue-plan"
  issuePlanVersion := 2
  revision := 1
  previousPlanId := none
  entries := [sampleEntry]
  compilation := { valid := true, coveredCriterionRefs := [js "c1"] }
  digest := js "digest"
  compiledAt := 0
  version := 1

def sampleStore : ControlStore where
  goals := { rows := [sampleGoal], nodup := by decide }
  issuePlans := [sampleIssuePlan]
  decisions := []
  verificationPlans := { rows := [samplePlan], nodup := by decide }
  verifications := Sql.Table.empty _
  gapReports := Sql.Table.empty _
  remediations := []
  deliveryReports := Sql.Table.empty _
  createReceipts := []
  updateReceipts := []
  transitionReceipts := []
  approvalReceipts := []
  acceptances := []
  generatedIds := []
  gapReportsBound := by
    intro report hreport
    exact absurd hreport List.not_mem_nil

def sampleOutput (overall criterion : Json) : Json :=
  .object
    [(js "schemaVersion", .string goalVerifierOutputSchemaVersion),
      (js "overallVerdict", overall),
      (js "criteria", .array [.object
        [(js "criterionRef", .string (js "c1")),
          (js "verdict", criterion),
          (js "evidenceRefs", .array [.string (js "log")]),
          (js "rationale", .string (js "because"))]]),
      (js "nonGoals", .array []),
      (js "constraints", .array []),
      (js "regressionRisks", .array [])]

/-- The ports: the deterministic verifier answers `status`, the goal verifier
`output`. -/
def sampleOutside (status : JsString) (output : Json) : ControlStore.Outside
  | .clock => .ok 1
  | .newId => .ok (js "id")
  | .authorize _ => .ok ()
  | .listBuilders _ _ => .ok [js "builder"]
  | .runDeterministic _ _ => .ok (some
      { status := status
        evidenceRefs := [js "log"]
        summary := js "ran"
        durationMs := some 5
        manualApproval := none })
  | .verifyGoal _ => .ok (some output)
  | _ => .error databaseError

def sampleService : GoalVerificationService where
  configuredIdentity := js "verifier"
  configuredVersion := js "1"
  toLocaleLowerCase := id

def sampleVerify : VerifyCommand where
  scope := sampleScope
  planId := js "plan"
  actorId := js "actor"
  expectedGoalVersion := 3
  manualEvidence := []

def sampleAnswers (status : JsString) (output : Json) (command : ControlCommand) :
    Except Thrown command.Answer :=
  match ControlStore.exec .postgres (sampleOutside status output) command sampleStore with
  | some (answer, _) => answer
  | none => .error databaseError

theorem sampleAnswers_answered (status : JsString) (output : Json) (command : ControlCommand) :
    ∃ s', ControlStore.exec .postgres (sampleOutside status output) command sampleStore =
      some (sampleAnswers status output command, s') := by
  cases command <;> exact ⟨_, rfl⟩

/-- `verify` on the sample. -/
def sampleRun (status : JsString) (output : Json) :
    List (Exchange ControlCommand ControlCommand.Answer Thrown) ×
      Except Thrown GoalVerification :=
  answerWith (sampleAnswers status output) (verify sampleService (.refl _) sampleVerify)

theorem sampleRun_answered (status : JsString) (output : Json) :
    ∀ x ∈ (sampleRun status output).1, x.AnsweredBy (ControlStore.exec .postgres) := by
  intro x hx
  obtain ⟨s', hs'⟩ := sampleAnswers_answered status output x.cmd
  refine ⟨sampleOutside status output, sampleStore, s', ?_⟩
  rw [hs', answer_of_mem_answerWith (p := verify sampleService (.refl _) sampleVerify) hx]

theorem sampleRun_reads (status : JsString) (output : Json) (v : GoalVerification)
    (hok : (sampleRun status output).2 = .ok v) :
    ⟨.getGoal sampleScope, .ok (some sampleGoal)⟩ ∈ (sampleRun status output).1 ∧
      ⟨.getPlan sampleScope (js "plan"), .ok (some samplePlan)⟩ ∈ (sampleRun status output).1 ∧
      ∃ request, ⟨.verifyGoal request, .ok (some output)⟩ ∈ (sampleRun status output).1 := by
  have hends : Ends (verify sampleService (.refl _) sampleVerify) (sampleRun status output).1
      (.ok v) := by
    rw [← hok]
    exact ends_answerWith _ _
  have hanswer : ∀ x ∈ (sampleRun status output).1, x.answer = sampleAnswers status output x.cmd :=
    fun x hx => answer_of_mem_answerWith (p := verify sampleService (.refl _) sampleVerify) hx
  obtain ⟨judgement, id, verifiedAt, ex', hjudge, hex⟩ := ends_verify_iff.mp hends
  obtain ⟨raw, hjudged⟩ := judged_of_ends hjudge
  have hgoal := (hjudged.goal _).mpr rfl
  have hplan := (hjudged.plan _).mpr rfl
  obtain ⟨request, hraw⟩ := hjudged.answered
  have hgoal' := hanswer _ (hex ▸ List.mem_append_left _ hgoal)
  have hplan' := hanswer _ (hex ▸ List.mem_append_left _ hplan)
  have hraw' := hanswer _ (hex ▸ List.mem_append_left _ hraw)
  rw [hex]
  refine ⟨List.mem_append_left _ ?_, List.mem_append_left _ ?_, request,
    List.mem_append_left _ ?_⟩
  · have heq : some judgement.goal = some sampleGoal := Except.ok.inj hgoal'
    rw [heq] at hgoal
    exact hgoal
  · have heq : some judgement.plan = some samplePlan := Except.ok.inj hplan'
    rw [heq] at hplan
    exact hplan
  · have heq : some raw = some output := Except.ok.inj hraw'
    rw [heq] at hraw
    exact hraw

/-- On the sample, where all verdicts are received as strings, the verdict `passed`
is earned. -/
theorem failClosed_iff_sample : ∃ v, v.verdict = .passed ∧ FailClosed sampleGoal samplePlan v := by
  have hrun : (sampleRun (js "passed") (sampleOutput (.string (js "passed"))
      (.string (js "passed")))).2.toOption.any (fun v => v.verdict = .passed) = true := by
    decide +kernel
  obtain ⟨v, hok, hpassed⟩ := exists_of_any hrun
  obtain ⟨hgoal, hplan, request, hraw⟩ := sampleRun_reads _ _ v hok
  have hends := ends_answerWith (sampleAnswers (js "passed") (sampleOutput
    (.string (js "passed")) (.string (js "passed"))))
    (verify sampleService (.refl _) sampleVerify)
  have hclosed := failClosed_iff (hok ▸ hends) (sampleRun_answered _ _) hgoal hplan hraw
  have hverdict := of_decide_eq_true hpassed
  refine ⟨v, hverdict, hclosed.mpr (.inl ?_) hverdict⟩
  constructor
  · rfl
  · intro item hitem
    obtain rfl := List.mem_singleton.mp hitem
    rfl

/-- With the verdict `["failed"]` on a criterion the verification passes. -/
theorem not_failClosed : ¬ ∀ (service : GoalVerificationService) (order : Equiv.Perm (Fin 5))
    (command : VerifyCommand)
    (ex : List (Exchange ControlCommand ControlCommand.Answer Thrown)) (v : GoalVerification)
    (goal : GoalContract) (plan : AcceptanceVerificationPlan),
    Ends (verify service order command) ex (.ok v) →
    (∀ x ∈ ex, x.AnsweredBy (ControlStore.exec .postgres)) →
    ⟨.getGoal command.scope, .ok (some goal)⟩ ∈ ex →
    ⟨.getPlan command.scope command.planId, .ok (some plan)⟩ ∈ ex →
    v.verdict = .passed → FailClosed goal plan v := by
  intro hall
  have hrun : (sampleRun (js "passed") (sampleOutput (.string (js "passed"))
      (.array [.string (js "failed")]))).2.toOption.any (fun v => v.verdict = .passed ∧
        ∃ criterion ∈ v.verifierOutput.criteria, criterion.verdict.isString = false) = true := by
    decide +kernel
  obtain ⟨v, hok, hp⟩ := exists_of_any hrun
  obtain ⟨hverdict, criterion, hcriterion, hstring⟩ := of_decide_eq_true hp
  obtain ⟨hgoal, hplan, -⟩ := sampleRun_reads _ _ v hok
  have hends := ends_answerWith (sampleAnswers (js "passed") (sampleOutput
    (.string (js "passed")) (.array [.string (js "failed")])))
    (verify sampleService (.refl _) sampleVerify)
  have hclosed := hall sampleService (.refl _) sampleVerify _ v sampleGoal samplePlan
    (hok ▸ hends) (sampleRun_answered _ _) hgoal hplan hverdict
  rw [(hclosed.criteria criterion hcriterion).1] at hstring
  cases hstring

end DevHarness.ControlPlane
