import DevHarness.ControlPlane.GapRemediation
import DevHarness.ControlPlane.GapReport
import DevHarness.ControlPlane.GoalWorkspace
import DevHarness.ControlPlane.VerificationPlans

/-!
# The control plane as a system

The calls of all services, run as processes over one store.  Every call performs
reads and a few writes of its own; a table is left alone by the writes of the
others.
-/

namespace DevHarness.ControlPlane

open JsText Interleave Program

/-! ## Calls -/

/-- The calls; the order in which parallel reads are served is part of a call. -/
inductive ControlCall
  | create (command : CreateGoalCommand)
  | update (command : UpdateGoalCommand)
  | transition (command : GoalTransitionCommand)
  | createDraft (command : CreateDraftCommand)
  | revise (command : ReviseCommand)
  | approve (command : IssuePlanApprovalCommand)
  | compile (order : Equiv.Perm (Fin 5)) (command : CompilePlanCommand)
  | verify (order : Equiv.Perm (Fin 5)) (command : VerifyCommand)
  | createGapReport (order : Equiv.Perm (Fin 2)) (command : CreateGapReportCommand)
  | confirm (command : ConfirmCommand)
  | generate (order : GenerateOrder) (command : GenerateCommand)
  | accept (order : Equiv.Perm (Fin 3)) (command : AcceptCommand)

inductive ControlResult
  | goal (receipt : GoalWorkspaceReceipt)
  | transition (receipt : GoalTransitionReceipt)
  | plan (plan : IssuePlan)
  | approval (receipt : IssuePlanApprovalReceipt)
  | verificationPlan (plan : AcceptanceVerificationPlan)
  | verification (verification : GoalVerification)
  | gapReport (report : VerificationGapReport)
  | remediation (receipt : GapRemediationReceipt)
  | report (report : DeliveryReport)
  | delivery (delivery : AcceptedDelivery)

/-- The services, with the hashes and digests that they take. -/
structure ControlServices where
  goals : RequestHashes
  transitionHash : GoalTransitionCommand → JsString
  issuePlans : IssuePlanService
  verificationPlanDigest : AcceptanceVerificationPlan → JsString
  verifier : GoalVerificationService
  confirmHash : ConfirmedRequest → JsString
  reportDigest : DeliveryReport → JsString
  acceptHash : AcceptCommand → JsString

def tagged {α : Type} (p : ControlProgram α) (tag : α → ControlResult) :
    ControlProgram ControlResult := do
  let a ← p
  pure (tag a)

def ControlServices.program (services : ControlServices) :
    ControlCall → ControlProgram ControlResult
  | .create command => tagged (createGoal services.goals command) .goal
  | .update command => tagged (updateGoal services.goals command) .goal
  | .transition command => tagged (transition services.transitionHash command) .transition
  | .createDraft command => tagged (createDraft services.issuePlans command) .plan
  | .revise command => tagged (revise services.issuePlans command) .plan
  | .approve command => tagged (approve services.issuePlans command) .approval
  | .compile order command =>
    tagged (compilePlan services.verificationPlanDigest order command) .verificationPlan
  | .verify order command => tagged (verify services.verifier order command) .verification
  | .createGapReport order command => tagged (createGapReport order command) .gapReport
  | .confirm command =>
    tagged (confirm services.issuePlans services.confirmHash command) .remediation
  | .generate order command => tagged (generate services.reportDigest order command) .report
  | .accept order command =>
    tagged (accept services.reportDigest services.acceptHash order command) .delivery

def controlPlane (services : ControlServices) (backend : IssuePlanBackend) :
    System ControlStore ControlCommand ControlCommand.Answer Thrown ControlCall ControlResult
      ControlStore.Outside Empty where
  program := services.program
  exec := ControlStore.exec backend
  environment := fun env => env.elim

/-! ## Writes -/

inductive Write
  | create
  | update
  | transition
  | issuePlan
  | approval
  | verificationPlan
  | verification
  | gapReport
  | remediation
  | deliveryReport
  | acceptance
  deriving DecidableEq

def ControlCommand.write? : ControlCommand → Option Write
  | .commitCreate _ => some .create
  | .commitUpdate _ => some .update
  | .commitTransition _ => some .transition
  | .appendIssuePlan _ _ => some .issuePlan
  | .commitApproval _ => some .approval
  | .appendPlan _ => some .verificationPlan
  | .appendVerification _ => some .verification
  | .appendGapReport _ => some .gapReport
  | .saveGapRemediation _ => some .remediation
  | .appendDeliveryReport _ => some .deliveryReport
  | .acceptDeliveryReport _ => some .acceptance
  | _ => none

def ControlCall.writes : ControlCall → List Write
  | .create _ => [.create]
  | .update _ => [.update]
  | .transition _ => [.transition]
  | .createDraft _ => [.issuePlan]
  | .revise _ => [.issuePlan]
  | .approve _ => [.approval]
  | .compile _ _ => [.verificationPlan]
  | .verify _ _ => [.verification]
  | .createGapReport _ _ => [.gapReport]
  | .confirm _ => [.issuePlan, .remediation]
  | .generate _ _ => [.deliveryReport]
  | .accept _ _ => [.acceptance]

/-- The commands that write nothing but some of `writes`. -/
def Writes (writes : List Write) (command : ControlCommand) : Prop :=
  ∀ write, command.write? = some write → write ∈ writes

section Only

variable {writes : List Write} {α β : Type} {command : ControlCommand} {write : Write}
  {tag : α → ControlResult} {p : ControlProgram α}
  {ex : List (Exchange ControlCommand ControlCommand.Answer Thrown)} {service : IssuePlanService}
  {order : Equiv.Perm (Fin 5)} {digest : DeliveryReport → JsString}

theorem writes_of_none (h : command.write? = none) : Writes writes command := by
  intro write hwrite
  rw [h] at hwrite
  cases hwrite

theorem writes_of_mem (h : command.write? = some write) (hmem : write ∈ writes) :
    Writes writes command := by
  intro write' hwrite'
  obtain rfl := Option.some.inj (h.symm.trans hwrite')
  exact hmem

theorem only_await {f : command.Answer → ControlProgram α} (h : command.write? = none)
    (hf : ∀ a, Only (Writes writes) (f a)) : Only (Writes writes) (await command >>= f) :=
  only_request_bind_iff.mpr ⟨writes_of_none h, hf⟩

theorem only_attempt {r : Except Thrown α} {f : α → ControlProgram β}
    (hf : ∀ a, Only (Writes writes) (f a)) : Only (Writes writes) (attempt r >>= f) :=
  only_done_bind_iff.mpr fun a _ => hf a

theorem only_write (h : command.write? = some write) (hmem : write ∈ writes) :
    Only (Writes writes) (await command) :=
  only_request.mpr (writes_of_mem h hmem)

theorem only_tagged (h : Only (Writes writes) p) : Only (Writes writes) (tagged p tag) :=
  only_bind h fun _ => only_pure

theorem reaches_tagged_iff : Reaches (tagged p tag) ex command ↔ Reaches p ex command := by
  unfold tagged
  rw [reaches_bind_iff]
  constructor
  · rintro (h | ⟨a, ex₁, ex₂, -, -, h⟩)
    · exact h
    · exact absurd h not_reaches_pure
  · exact .inl

theorem ends_tagged_iff {result : ControlResult} :
    Ends (tagged p tag) ex (.ok result) ↔ ∃ a, Ends p ex (.ok a) ∧ tag a = result := by
  unfold tagged
  rw [ends_bind_ok_iff]
  constructor
  · rintro ⟨a, ex₁, ex₂, rfl, hp, hpure⟩
    obtain ⟨rfl, hresult⟩ := ends_pure_iff.mp hpure
    rw [List.append_nil]
    exact ⟨a, hp, (Except.ok.inj hresult).symm⟩
  · rintro ⟨a, hp, rfl⟩
    exact ⟨a, ex, [], (List.append_nil ex).symm, hp, ends_pure_iff.mpr ⟨rfl, rfl⟩⟩

theorem only_criteriaFrom (index : ℕ) (statements : List JsString) :
    Only (Writes writes) (criteriaFrom index statements) := by
  induction statements generalizing index with
  | nil => exact only_pure
  | cons statement statements ih =>
      exact only_await rfl fun _ => only_bind (ih (index + 1)) fun _ => only_pure

theorem only_createGoal {hashes : RequestHashes} {command : CreateGoalCommand} :
    Only (Writes [.create]) (createGoal hashes command) := by
  refine only_await rfl fun _ => only_attempt fun _ => only_attempt fun _ =>
    only_attempt fun _ => only_await rfl fun replay => ?_
  split
  · exact only_pure
  · exact only_await rfl fun _ => only_await rfl fun _ =>
      only_bind (only_criteriaFrom _ _) fun _ => only_await rfl fun _ => only_await rfl fun _ =>
        only_write rfl List.mem_cons_self

theorem only_updateGoal {hashes : RequestHashes} {command : UpdateGoalCommand} :
    Only (Writes [.update]) (updateGoal hashes command) := by
  refine only_await rfl fun _ => only_attempt fun _ => only_attempt fun _ =>
    only_attempt fun _ => only_attempt fun _ => only_await rfl fun replay => ?_
  split
  · exact only_pure
  · refine only_await rfl fun found => ?_
    split
    · exact only_throw
    · exact only_attempt fun _ => only_await rfl fun _ =>
        only_bind (only_criteriaFrom _ _) fun _ => only_await rfl fun _ =>
          only_await rfl fun _ => only_write rfl List.mem_cons_self

theorem only_concurrentReplay {stale : Bool} {lookup : IdempotencyLookup} :
    Only (Writes writes) (concurrentReplay stale lookup) := by
  unfold concurrentReplay
  split
  · exact only_request.mpr (writes_of_none rfl)
  · exact only_pure

theorem only_transition {hash : GoalTransitionCommand → JsString}
    {command : GoalTransitionCommand} :
    Only (Writes [.transition]) (transition hash command) := by
  refine only_attempt fun _ => only_attempt fun _ => only_await rfl fun _ =>
    only_await rfl fun replay => ?_
  split
  · exact only_pure
  · refine only_await rfl fun found => ?_
    split
    · exact only_throw
    · refine only_bind only_concurrentReplay fun concurrent => ?_
      split
      · exact only_pure
      · exact only_attempt fun _ => only_await rfl fun _ => only_await rfl fun _ =>
          only_await rfl fun _ => only_write rfl List.mem_cons_self

theorem only_build {input : BuildInput} : Only (Writes writes) (build service input) :=
  only_attempt fun _ => only_await rfl fun _ => only_await rfl fun _ => only_pure

theorem only_createDraft {command : CreateDraftCommand} (h : .issuePlan ∈ writes) :
    Only (Writes writes) (createDraft service command) :=
  only_await rfl fun _ => only_attempt fun _ => only_await rfl fun _ => only_attempt fun _ =>
    only_bind only_build fun _ => only_write rfl h

theorem only_submittedRoute {actorId : JsString} (submitted : SubmittedOverride) :
    Only (Writes writes) (submittedRoute actorId submitted) :=
  only_attempt fun _ => only_await rfl fun _ => only_pure

theorem only_revise {command : ReviseCommand} :
    Only (Writes [.issuePlan]) (revise service command) :=
  only_await rfl fun _ => only_attempt fun _ => only_attempt fun _ => only_attempt fun _ =>
    only_await rfl fun _ => only_await rfl fun _ => only_attempt fun _ => only_attempt fun _ =>
      only_attempt fun _ => only_bind (only_forEach only_submittedRoute _) fun _ =>
        only_bind only_build fun _ => only_write rfl List.mem_cons_self

theorem only_approve {command : IssuePlanApprovalCommand} :
    Only (Writes [.approval]) (approve service command) := by
  refine only_await rfl fun _ => only_attempt fun _ => only_await rfl fun replay => ?_
  split
  · exact only_pure
  · exact only_await rfl fun _ => only_await rfl fun _ => only_attempt fun _ =>
      only_attempt fun _ => only_await rfl fun _ => only_await rfl fun _ =>
        only_await rfl fun _ => only_await rfl fun _ => only_await rfl fun _ =>
          only_write rfl List.mem_cons_self

theorem only_compilePlan {digest : AcceptanceVerificationPlan → JsString}
    {command : CompilePlanCommand} :
    Only (Writes [.verificationPlan]) (compilePlan digest order command) := by
  refine only_await rfl fun _ => only_bind (only_readAll fun i => ?_) fun _ =>
    only_attempt fun _ => only_await rfl fun _ => only_await rfl fun _ =>
      only_attempt fun _ => only_write rfl List.mem_cons_self
  fin_cases i <;> exact only_read (writes_of_none rfl)

theorem writes_of_isEntryCommand (h : IsEntryCommand command) : Writes writes command := by
  rcases h with ⟨request, rfl⟩ | rfl | ⟨entry, scope, rfl⟩
  · exact writes_of_none rfl
  · exact writes_of_none rfl
  · exact writes_of_none rfl

theorem only_judge {service : GoalVerificationService} {command : VerifyCommand} :
    Only (Writes writes) (judge service order command) := by
  refine only_await rfl fun _ => only_bind (only_readAll fun i => ?_) fun _ =>
    only_attempt fun _ => only_await rfl fun _ => only_attempt fun _ => only_attempt fun _ =>
      only_bind (only_forEach (fun _ => only_verifyEntry.mono
        fun _ => writes_of_isEntryCommand) _) fun _ => only_attempt fun _ =>
        only_await rfl fun _ => only_await rfl fun _ => only_attempt fun _ =>
          only_attempt fun _ => only_attempt fun _ => only_pure
  fin_cases i <;> exact only_read (writes_of_none rfl)

theorem only_verify {service : GoalVerificationService} {command : VerifyCommand} :
    Only (Writes [.verification]) (verify service order command) :=
  only_bind only_judge fun _ => only_await rfl fun _ => only_await rfl fun _ =>
    only_write rfl List.mem_cons_self

theorem only_createGapReport {order : Equiv.Perm (Fin 2)} {command : CreateGapReportCommand} :
    Only (Writes [.gapReport]) (createGapReport order command) := by
  refine only_await rfl fun _ => only_await rfl fun existing => ?_
  split
  · exact only_pure
  · refine only_bind (only_readAll fun i => ?_) fun _ => only_attempt fun _ => ?_
    · fin_cases i <;> exact only_read (writes_of_none rfl)
    · unfold reportGaps
      split
      · exact only_throw
      · exact only_await rfl fun _ => only_await rfl fun _ =>
          only_write rfl List.mem_cons_self

theorem only_remediate {command : ConfirmCommand} {report : VerificationGapReport}
    (h : .issuePlan ∈ writes) : Only (Writes writes) (remediate service command report) := by
  refine only_await rfl fun found => only_await rfl fun latest => ?_
  split
  · exact only_throw
  · split
    · exact only_pure
    · split
      · exact only_throw
      · refine only_handle (only_bind (only_createDraft h) fun _ => only_pure) fun _ => ?_
        refine only_await rfl fun raced => ?_
        split
        · exact only_pure
        · exact only_throw

theorem only_confirm {hash : ConfirmedRequest → JsString} {command : ConfirmCommand} :
    Only (Writes [.issuePlan, .remediation]) (confirm service hash command) := by
  refine only_await rfl fun _ => only_attempt fun _ => only_await rfl fun found => ?_
  split
  · exact only_throw
  · refine only_await rfl fun replay => ?_
    split
    · split
      · exact only_throw
      · exact only_pure
    · exact only_bind (only_remediate (by simp)) fun _ => only_attempt fun _ =>
        only_await rfl fun _ => only_write rfl (by simp)

theorem only_reportBasis {order : GenerateOrder} {command : GenerateCommand} :
    Only (Writes writes) (reportBasis order command) := by
  refine only_await rfl fun _ => only_bind (only_readAll fun i => ?_) fun _ =>
    only_attempt fun _ => only_attempt fun _ => only_await rfl fun _ => only_attempt fun _ =>
      only_bind (only_await rfl fun _ => only_done) fun _ => only_pure
  fin_cases i <;> exact only_read (writes_of_none rfl)

theorem only_generate {order : GenerateOrder} {command : GenerateCommand} :
    Only (Writes [.deliveryReport]) (generate digest order command) :=
  only_bind only_reportBasis fun _ => only_attempt fun _ => only_await rfl fun _ =>
    only_await rfl fun _ => only_write rfl List.mem_cons_self

theorem only_accept {hash : AcceptCommand → JsString} {order : Equiv.Perm (Fin 3)}
    {command : AcceptCommand} : Only (Writes [.acceptance]) (accept digest hash order command) := by
  refine only_await rfl fun _ => only_attempt fun _ => only_attempt fun _ =>
    only_attempt fun _ => only_attempt fun _ => only_bind (only_readAll fun i => ?_) fun _ => ?_
  · fin_cases i <;> exact only_read (writes_of_none rfl)
  · split
    · exact only_write rfl List.mem_cons_self
    · exact only_attempt fun _ => only_await rfl fun _ => only_await rfl fun _ =>
        only_write rfl List.mem_cons_self

theorem only_program (services : ControlServices) (call : ControlCall) :
    Only (Writes call.writes) (services.program call) := by
  cases call with
  | create command => exact only_tagged only_createGoal
  | update command => exact only_tagged only_updateGoal
  | transition command => exact only_tagged only_transition
  | createDraft command => exact only_tagged (only_createDraft List.mem_cons_self)
  | revise command => exact only_tagged only_revise
  | approve command => exact only_tagged only_approve
  | compile order command => exact only_tagged only_compilePlan
  | verify order command => exact only_tagged only_verify
  | createGapReport order command => exact only_tagged only_createGapReport
  | confirm command => exact only_tagged only_confirm
  | generate order command => exact only_tagged only_generate
  | accept order command => exact only_tagged only_accept

end Only

section Frames

variable {backend : IssuePlanBackend} {outside : ControlStore.Outside}
  {command : ControlCommand} {answer : Except Thrown command.Answer}
  {store store' : ControlStore}

/-- A command that writes nothing and generates no identifier leaves the store
alone. -/
theorem eq_of_exec (hwrite : command.write? = none) (hne : command ≠ .newId)
    (h : ControlStore.exec backend outside command store = some (answer, store')) :
    store' = store := by
  cases command with
  | newId => exact absurd rfl hne
  | clock =>
      simp only [ControlStore.exec] at h
      split at h
      · exact (Prod.mk.inj (Option.some.inj h)).2.symm
      · cases h
  | commitCreate => cases hwrite
  | commitUpdate => cases hwrite
  | commitTransition => cases hwrite
  | appendIssuePlan => cases hwrite
  | commitApproval => cases hwrite
  | appendPlan => cases hwrite
  | appendVerification => cases hwrite
  | appendGapReport => cases hwrite
  | saveGapRemediation => cases hwrite
  | appendDeliveryReport => cases hwrite
  | acceptDeliveryReport => cases hwrite
  | _ => exact (Prod.mk.inj (Option.some.inj h)).2.symm

theorem newId_cases {answer : Except Thrown JsString}
    (h : ControlStore.exec backend outside .newId store = some (answer, store')) :
    ∃ id, answer = .ok id ∧ store.usesId id = false ∧
      store' = { store with generatedIds := id :: store.generatedIds } := by
  simp only [ControlStore.exec] at h
  split at h
  · next id _ =>
    split at h
    · cases h
    · next hunused =>
      obtain ⟨rfl, rfl⟩ := Prod.mk.inj (Option.some.inj h)
      exact ⟨id, rfl, Bool.eq_false_of_not_eq_true hunused, rfl⟩
  · cases h

end Frames

end DevHarness.ControlPlane
