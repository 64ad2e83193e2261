import DevHarness.ControlPlane.SpecRevisionDiff
import DevHarness.Interleave.Ending
import DevHarness.SpecApprovals.Outline

/-!
# Repeated deliveries of a decision

A decision is committed at most once, and what any delivery of it returns is the receipt
of that commit.  A delivery that has missed the commit when it looked for the receipt and
then reads the revision as the commit has left it fails instead; the others replay.
-/

namespace DevHarness.SpecApprovals

open JsText ControlPlane Interleave Program
open ControlStore (replay)

variable {requestHash : CanonicalApproval → JsString} {command : SpecApprovalCommand}
  {receipt : SpecApprovalReceipt} {pid : ℕ}

/-! ## What is claimed -/

/-- The revision is the newest of its goal, in the version and the status that the approver
saw. -/
def SeenLatest (store : SpecStore) (command : SpecApprovalCommand) : Prop :=
  ∃ row, Sql.Newest specNumbering (store.revisionsOf command.scope) row ∧
    row.id = command.target.id ∧ row.version = command.expectedVersion ∧
    row.status = command.decision.expectedStatus

def recorded (requestHash : CanonicalApproval → JsString) (store : SpecStore)
    (command : SpecApprovalCommand) : Option SpecApprovalReceipt :=
  match validateDecision requestHash command with
  | .ok (_, lookup) =>
    match store.findApprovalReceipt lookup with
    | .ok receipt => receipt
    | .error _ => none
  | .error _ => none

def SpecCommand.isRepository : SpecCommand → Bool
  | .findApprovalReceipt _ => true
  | .get _ _ => true
  | .getLatest _ => true
  | .commitApproval _ => true
  | _ => false

/-- A step from `c` to `c'` in which a delivery of `command` commits its decision. -/
def Commits (pid : ℕ) (command : SpecApprovalCommand) (c c' : SpecConfig) : Prop :=
  .spawned pid (.decide command) ∈ c.now.past ∧ c'.now.state ≠ c.now.state ∧
    ∃ input resp, c'.now.past = .performed pid (.commitApproval input) resp :: c.now.past

/-- Approvals are linearised in all runs whose steps meet `cond`. -/
structure ApprovalsLinearised (requestHash : CanonicalApproval → JsString)
    (goals : GoalScope → Option GoalContract) (cond : SpecCondition) : Prop where
  revisions : ∀ {c}, Run (specSystem requestHash) cond (.ofGoals goals) c → ∀ scope,
    Sql.Chain specNumbering (c.now.state.revisionsOf scope)
  settled : ∀ {c d}, Run (specSystem requestHash) cond (.ofGoals goals) c →
    Relation.ReflTransGen (Step (specSystem requestHash) cond) c d →
    ∀ row ∈ c.now.state.revisions, row.status.settled = true → row ∈ d.now.state.revisions
  commits : ∀ {c c' pid command}, Run (specSystem requestHash) cond (.ofGoals goals) c →
    Step (specSystem requestHash) cond c c' → Commits pid command c c' →
    SeenLatest c.now.state command
  once : ∀ {c c' d d' pid pid' command},
    Run (specSystem requestHash) cond (.ofGoals goals) c →
    Step (specSystem requestHash) cond c c' → Commits pid command c c' →
    Relation.ReflTransGen (Step (specSystem requestHash) cond) c' d →
    Step (specSystem requestHash) cond d d' → ¬ Commits pid' command d d'
  returned : ∀ {c pid command receipt},
    Run (specSystem requestHash) cond (.ofGoals goals) c →
    .spawned pid (.decide command) ∈ c.now.past →
    .finished pid (.ok (.approval receipt)) ∈ c.now.past →
    recorded requestHash c.now.state command = some receipt
  replayed : ∀ {c c' d pid command step resp receipt result},
    Run (specSystem requestHash) cond (.ofGoals goals) c →
    Step (specSystem requestHash) cond c c' →
    .spawned pid (.decide command) ∈ c.now.past → step.isRepository = true →
    c'.now.past = .performed pid step resp :: c.now.past →
    recorded requestHash c'.now.state command = some receipt →
    Relation.ReflTransGen (Step (specSystem requestHash) cond) c' d →
    .finished pid result ∈ d.now.past → result = .ok (.approval receipt)

/-- No delivery reads a revision after its decision has been committed. -/
def ReadsBeforeCommit (requestHash : CanonicalApproval → JsString) : SpecCondition :=
  fun m attempt =>
    match attempt with
    | .perform pid (.get _ _) => ∀ command, .spawned pid (.decide command) ∈ m.past →
      recorded requestHash m.state command = none
    | .perform pid (.getLatest _) => ∀ command, .spawned pid (.decide command) ∈ m.past →
      recorded requestHash m.state command = none
    | _ => True

section Recorded

variable {store next : SpecStore} {lookup : IdempotencyLookup} {input : CommitSpecApproval}

theorem recorded_eq_some_iff : recorded requestHash store command = some receipt ↔
    ∃ normalized lookup, validateDecision requestHash command = .ok (normalized, lookup) ∧
      store.findApprovalReceipt lookup = .ok (some receipt) := by
  unfold recorded
  split
  · next normalized lookup hvalidated =>
    constructor
    · intro h
      split at h
      · next found hfound => exact ⟨normalized, lookup, hvalidated, by rw [hfound, h]⟩
      · cases h
    · rintro ⟨normalized', lookup', heq, hfound⟩
      rw [hvalidated] at heq
      obtain ⟨-, rfl⟩ := Prod.mk.inj (Except.ok.inj heq)
      rw [hfound]
  · next hinvalid => simp [hinvalid]

theorem Evolves.recorded {later : SpecStore} (h : Evolves store later)
    (hrecorded : recorded requestHash store command = some receipt) :
    recorded requestHash later command = some receipt := by
  obtain ⟨normalized, lookup, hvalidated, hfound⟩ := recorded_eq_some_iff.mp hrecorded
  exact recorded_eq_some_iff.mpr ⟨normalized, lookup, hvalidated, h.findApprovalReceipt hfound⟩

theorem find?_of_not_claimed (h : store.claimed lookup = false) :
    (store.idempotency.find? fun record =>
      Decidable.decide (record.lookup.organizationId = lookup.organizationId ∧
        record.lookup.actorId = lookup.actorId ∧ record.lookup.key = lookup.key)) = none := by
  refine List.find?_eq_none.mpr fun record hrecord => ?_
  exact List.any_eq_false.mp h record hrecord

theorem findApprovalReceipt_of_not_claimed (h : store.claimed lookup = false) :
    store.findApprovalReceipt lookup = .ok none := by
  unfold SpecStore.findApprovalReceipt replay
  rw [find?_of_not_claimed h]

theorem findApprovalReceipt_of_recorded (hclaimed : store.claimed input.idempotency = false)
    (hok : store.recordApproval input = .ok next) :
    next.findApprovalReceipt input.idempotency = .ok (some input.receipt) := by
  obtain ⟨-, locked, -, -, -, -, -, rfl⟩ := recordApproval_eq_ok.mp hok
  simp only [SpecStore.findApprovalReceipt, replay, List.find?_append,
    find?_of_not_claimed hclaimed]
  simp

theorem findApprovalReceipt_of_commit (hcommit : store.commitApproval input = (.ok receipt, next)) :
    next.findApprovalReceipt input.idempotency = .ok (some receipt) := by
  unfold SpecStore.commitApproval at hcommit
  split at hcommit
  · split at hcommit
    · next found hfound =>
      obtain ⟨hreceipt, rfl⟩ := Prod.mk.inj hcommit
      rw [← Except.ok.inj hreceipt]
      exact hfound
    · cases (Prod.mk.inj hcommit).1
    · cases (Prod.mk.inj hcommit).1
  · next hclaimed =>
    split at hcommit
    · next store' hok =>
      obtain ⟨hreceipt, rfl⟩ := Prod.mk.inj hcommit
      rw [← Except.ok.inj hreceipt]
      exact findApprovalReceipt_of_recorded (Bool.eq_false_iff.mpr hclaimed) hok
    · cases (Prod.mk.inj hcommit).1

theorem commit_of_findApprovalReceipt {resp : Except Thrown SpecApprovalReceipt}
    (hcommit : store.commitApproval input = (resp, next))
    (hfound : next.findApprovalReceipt input.idempotency = .ok (some receipt)) :
    resp = .ok receipt := by
  unfold SpecStore.commitApproval at hcommit
  split at hcommit
  · split at hcommit
    · next found hfound' =>
      obtain ⟨rfl, rfl⟩ := Prod.mk.inj hcommit
      rw [hfound] at hfound'
      rw [Option.some.inj (Except.ok.inj hfound')]
    · next hfound' =>
      obtain ⟨-, rfl⟩ := Prod.mk.inj hcommit
      rw [hfound] at hfound'
      cases hfound'
    · next error hfound' =>
      obtain ⟨-, rfl⟩ := Prod.mk.inj hcommit
      rw [hfound] at hfound'
      cases hfound'
  · next hclaimed =>
    have hclaimed' := Bool.eq_false_iff.mpr hclaimed
    split at hcommit
    · next store' hok =>
      obtain ⟨rfl, rfl⟩ := Prod.mk.inj hcommit
      rw [findApprovalReceipt_of_recorded hclaimed' hok] at hfound
      rw [Option.some.inj (Except.ok.inj hfound)]
    · obtain ⟨-, rfl⟩ := Prod.mk.inj hcommit
      rw [findApprovalReceipt_of_not_claimed hclaimed'] at hfound
      cases hfound

end Recorded

/-! ## What a delivery returns -/

def approvalVerdict : Verdict SpecCommand SpecCommand.Answer Thrown SpecApprovalReceipt
  | .findApprovalReceipt _, .ok (some receipt) => some (.ok receipt)
  | .commitApproval _, answer => some answer
  | _, _ => none

section Deliveries

variable {ex : List (Exchange SpecCommand SpecCommand.Answer Thrown)}

theorem endsAt_decideCurrent {normalized : NormalizedApproval} {lookup : IdempotencyLookup} :
    EndsAt approvalVerdict (decideCurrent command normalized lookup) := by
  unfold decideCurrent
  refine endsAt_request_bind (fun _ => rfl) fun found => ?_
  split
  · exact endsAt_throw
  · refine endsAt_request_bind (fun _ => rfl) fun latest => ?_
    refine endsAt_done_bind fun _ _ => ?_
    refine endsAt_request_bind (fun _ => rfl) fun occurredAt => ?_
    refine endsAt_request_bind (fun _ => rfl) fun decisionId => ?_
    refine endsAt_request_bind (fun _ => rfl) fun receiptId => ?_
    refine endsAt_request_bind (fun _ => rfl) fun auditId => ?_
    refine endsAt_request_bind (fun _ => rfl) fun eventId => ?_
    exact endsAt_request fun answer r hr => (Option.some.inj hr).symm

theorem endsAt_decide : EndsAt approvalVerdict (decide requestHash command) := by
  unfold decide
  refine endsAt_request_bind (fun _ => rfl) fun _ => ?_
  refine endsAt_done_bind fun validated _ => ?_
  refine endsAt_request_bind_of ?_ (fun _ _ h => by cases h) fun replay => ?_
  · intro replay r hr
    cases replay with
    | none => cases hr
    | some receipt =>
        obtain rfl := Option.some.inj hr
        rfl
  · cases replay with
    | none => exact endsAt_decideCurrent
    | some receipt => exact endsAt_pure

theorem ends_decide_ok (h : Ends (decide requestHash command) ex (.ok receipt)) :
    ∃ normalized lookup, validateDecision requestHash command = .ok (normalized, lookup) ∧
      (⟨.findApprovalReceipt lookup, .ok (some receipt)⟩ ∈ ex ∨
        ∃ input, input.idempotency = lookup ∧ ⟨.commitApproval input, .ok receipt⟩ ∈ ex) := by
  unfold decide at h
  obtain ⟨-, ex₁, rfl, h⟩ := ends_request_bind_iff.mp h
  obtain ⟨⟨normalized, lookup⟩, hvalidated, h⟩ := ends_done_bind_iff.mp h
  refine ⟨normalized, lookup, hvalidated, ?_⟩
  obtain ⟨replay, ex₂, rfl, hrest⟩ := ends_request_bind_iff.mp h
  cases replay with
  | some found =>
      obtain ⟨rfl, hfound⟩ := ends_pure_iff.mp hrest
      left
      rw [Except.ok.inj hfound]
      exact List.mem_cons_of_mem _ List.mem_cons_self
  | none =>
      right
      change Ends (decideCurrent command normalized lookup) ex₂ (.ok receipt) at hrest
      unfold decideCurrent at hrest
      obtain ⟨found, ex₃, rfl, h₃⟩ := ends_request_bind_iff.mp hrest
      cases found with
      | none =>
          obtain ⟨-, herror⟩ := ends_throw_iff.mp h₃
          cases herror
      | some current =>
          obtain ⟨latest, ex₄, rfl, h₄⟩ := ends_request_bind_iff.mp h₃
          obtain ⟨-, -, h₅⟩ := ends_done_bind_iff.mp h₄
          obtain ⟨occurredAt, ex₅, rfl, h₆⟩ := ends_request_bind_iff.mp h₅
          obtain ⟨decisionId, ex₆, rfl, h₇⟩ := ends_request_bind_iff.mp h₆
          obtain ⟨receiptId, ex₇, rfl, h₈⟩ := ends_request_bind_iff.mp h₇
          obtain ⟨auditId, ex₈, rfl, h₉⟩ := ends_request_bind_iff.mp h₈
          obtain ⟨eventId, ex₉, rfl, hcommit⟩ := ends_request_bind_iff.mp h₉
          obtain rfl := ends_request_iff.mp hcommit
          exact ⟨approvalInput command normalized lookup current occurredAt
            ⟨decisionId, receiptId, auditId, eventId⟩, rfl, List.mem_of_getLast? rfl⟩

end Deliveries

variable {result : Except Thrown SpecResult}

section Runs

variable {goals : GoalScope → Option GoalContract} {cond : SpecCondition} {c c' d d' : SpecConfig}
  {pid' : ℕ} {step : SpecCommand} {resp : Except Thrown step.Answer}

section

variable (hrun : Run (specSystem requestHash) cond (.ofGoals goals) c)
  (hstep : Step (specSystem requestHash) cond c c')

include hrun hstep

theorem promise_of_step (hpast : c'.now.past = .performed pid step resp :: c.now.past) :
    SpecPromise requestHash pid c.now step ∧
      ∃ outside, execSpec outside step c.now.state = (resp, c'.now.state) := by
  obtain ⟨-, -, outside, hexec⟩ := hstep.exec_of_performed hpast
  have hpromise := Outline.promise_of_performed (sound_of_run hrun)
    (hstep.mono fun _ _ _ => trivial) hpast
  exact ⟨hpromise, outside, Option.some.inj hexec⟩

theorem commit_cases (hcommits : Commits pid command c c') :
    SeenLatest c.now.state command ∧ recorded requestHash c.now.state command = none ∧
      ∃ receipt, recorded requestHash c'.now.state command = some receipt := by
  obtain ⟨hspawned, hchanged, input, resp, hpast⟩ := hcommits
  obtain ⟨⟨command', hspawned', hmade⟩, outside, hexec⟩ := promise_of_step hrun hstep hpast
  obtain rfl : command = command' := by
    have hcall := spawned_unique_of_run hrun hspawned hspawned'
    injection hcall
  obtain ⟨normalized, hvalidated⟩ := hmade.lookup
  rcases execSpec_cases hexec with h | ⟨_, h, -⟩ | ⟨input', h, hclaimed, hok⟩
  · exact absurd h hchanged
  · cases h
  · injection h with hinput
    subst hinput
    obtain ⟨-, locked, hlock, ⟨hversion, hstatus⟩, -⟩ := recordApproval_eq_ok.mp hok
    obtain ⟨hid, hnewest⟩ := newest_of_lockLatest hlock
    refine ⟨⟨locked, ?_, ?_, ?_, ?_⟩, ?_, ?_⟩
    · rw [← hmade.scope]
      exact hnewest
    · rw [hid, hmade.id]
    · rw [hversion, hmade.version]
    · rw [hstatus, hmade.status]
    · rw [Option.eq_none_iff_forall_not_mem]
      intro found hfound
      obtain ⟨_, lookup, hvalidated', hfound'⟩ := recorded_eq_some_iff.mp hfound
      rw [hvalidated] at hvalidated'
      obtain ⟨-, rfl⟩ := Prod.mk.inj (Except.ok.inj hvalidated')
      rw [findApprovalReceipt_of_not_claimed hclaimed] at hfound'
      cases hfound'
    · exact ⟨input.receipt, recorded_eq_some_iff.mpr
        ⟨normalized, _, hvalidated, findApprovalReceipt_of_recorded hclaimed hok⟩⟩

theorem commits_once (hcommits : Commits pid command c c')
    (hsteps : Relation.ReflTransGen (Step (specSystem requestHash) cond) c' d)
    (hstep' : Step (specSystem requestHash) cond d d') : ¬ Commits pid' command d d' := by
  intro hagain
  obtain ⟨-, -, receipt, hrecorded⟩ := commit_cases hrun hstep hcommits
  have hrun' : Run (specSystem requestHash) cond (.ofGoals goals) d :=
    (hrun.tail hstep).trans hsteps
  obtain ⟨-, hnone, -⟩ := commit_cases hrun' hstep' hagain
  have hkept := (evolves_of_steps (hrun.tail hstep) hsteps).recorded hrecorded
  rw [hnone] at hkept
  cases hkept

end

theorem recorded_of_finished (hrun : Run (specSystem requestHash) cond (.ofGoals goals) c)
    (hspawned : .spawned pid (.decide command) ∈ c.now.past)
    (hfinished : .finished pid (.ok (.approval receipt)) ∈ c.now.past) :
    recorded requestHash c.now.state command = some receipt := by
  obtain ⟨ex, hends, hperformed⟩ := ends_of_finished hrun hspawned hfinished
  change Ends (decide requestHash command >>= fun receipt => pure (SpecResult.approval receipt))
    ex _ at hends
  obtain ⟨receipt', ex₁, ex₂, hex, hdecide, hpure⟩ := ends_bind_ok_iff.mp hends
  obtain ⟨rfl, hresult⟩ := ends_pure_iff.mp hpure
  injection hresult with hresult
  injection hresult with hreceipt
  subst hreceipt
  rw [List.append_nil] at hex
  subst hex
  obtain ⟨normalized, lookup, hvalidated, hanswered⟩ := ends_decide_ok hdecide
  refine recorded_eq_some_iff.mpr ⟨normalized, lookup, hvalidated, ?_⟩
  rcases hanswered with hfound | ⟨input, rfl, hcommitted⟩
  · obtain ⟨c₀, c₁, outside, -, hsince, hrun₁, hexec⟩ :=
      exec_of_mem hrun (hperformed _ hfound)
    obtain ⟨hanswer, hstate⟩ := Prod.mk.inj (Option.some.inj hexec)
    refine (evolves_of_steps hrun₁ hsince).findApprovalReceipt ?_
    rw [← hstate]
    exact hanswer
  · obtain ⟨c₀, c₁, outside, -, hsince, hrun₁, hexec⟩ :=
      exec_of_mem hrun (hperformed _ hcommitted)
    exact (evolves_of_steps hrun₁ hsince).findApprovalReceipt
      (findApprovalReceipt_of_commit (Option.some.inj hexec))

/-- A delivery that takes a step of the repository with its decision committed replays. -/
theorem replayed_of_step
    (hrun : Run (specSystem requestHash) (ReadsBeforeCommit requestHash) (.ofGoals goals) c)
    (hstep : Step (specSystem requestHash) (ReadsBeforeCommit requestHash) c c')
    (hspawned : .spawned pid (.decide command) ∈ c.now.past)
    (hrepository : step.isRepository = true)
    (hpast : c'.now.past = .performed pid step resp :: c.now.past)
    (hrecorded : recorded requestHash c'.now.state command = some receipt)
    (hsteps : Relation.ReflTransGen (Step (specSystem requestHash) (ReadsBeforeCommit requestHash))
      c' d) (hfinished : .finished pid result ∈ d.now.past) : result = .ok (.approval receipt) := by
  obtain ⟨hpromise, outside, hexec⟩ := promise_of_step hrun hstep hpast
  have hends : EndsAt (fun cmd answer => (approvalVerdict cmd answer).map fun r =>
      r.map SpecResult.approval) ((specSystem requestHash).program (.decide command)) :=
    endsAt_map endsAt_decide
  have hcond := (hstep.exec_of_performed hpast).1
  obtain ⟨normalized, lookup, hvalidated, hfound⟩ := recorded_eq_some_iff.mp hrecorded
  have hcommand : ∀ {command'}, .spawned pid (.decide command') ∈ c.now.past →
      command' = command := by
    intro command' hspawned'
    have hcall := spawned_unique_of_run hrun hspawned' hspawned
    injection hcall
  cases step with
  | findApprovalReceipt lookup' =>
      obtain ⟨command', hspawned', normalized', hvalidated'⟩ := hpromise
      obtain rfl := hcommand hspawned'
      rw [hvalidated] at hvalidated'
      obtain ⟨-, rfl⟩ := Prod.mk.inj (Except.ok.inj hvalidated')
      obtain ⟨hanswer, hstate⟩ := Prod.mk.inj hexec
      have hresp : resp = .ok (some receipt) := by
        rw [← hanswer, hstate]
        exact hfound
      subst hresp
      exact finished_of_verdict hrun hstep hpast hspawned hends rfl hsteps hfinished
  | commitApproval input =>
      obtain ⟨command', hspawned', hmade⟩ := hpromise
      obtain rfl := hcommand hspawned'
      obtain ⟨normalized', hvalidated'⟩ := hmade.lookup
      rw [hvalidated] at hvalidated'
      obtain ⟨-, hlookup⟩ := Prod.mk.inj (Except.ok.inj hvalidated')
      rw [hlookup] at hfound
      have hresp := commit_of_findApprovalReceipt hexec hfound
      subst hresp
      exact finished_of_verdict hrun hstep hpast hspawned hends rfl hsteps hfinished
  | get scope id =>
      obtain ⟨-, hstate⟩ := Prod.mk.inj hexec
      rw [← hstate, hcond command hspawned] at hrecorded
      cases hrecorded
  | getLatest scope =>
      obtain ⟨-, hstate⟩ := Prod.mk.inj hexec
      rw [← hstate, hcond command hspawned] at hrecorded
      cases hrecorded
  | _ => cases hrepository

/-- In every run in which no delivery reads a revision after its decision has been
committed, approvals are linearised. -/
theorem approvalsLinearised_of_readsBeforeCommit (requestHash : CanonicalApproval → JsString)
    (goals : GoalScope → Option GoalContract) :
    ApprovalsLinearised requestHash goals (ReadsBeforeCommit requestHash) where
  revisions := fun hrun => (sound_of_run hrun).inv.revisions
  settled := by
    intro c d hrun hsteps row hrow hsettled
    obtain ⟨row', hrow', hadvances⟩ := (evolves_of_steps hrun hsteps).revisions row hrow
    rw [hadvances.settled hsettled] at hrow'
    exact hrow'
  commits := fun hrun hstep hcommits => (commit_cases hrun hstep hcommits).1
  once := commits_once
  returned := recorded_of_finished
  replayed := replayed_of_step

end Runs

/-! ## Two deliveries at once -/

def plannedScope : GoalScope where
  organizationId := js "organization"
  projectId := js "project"
  goalId := js "goal"

def plannedGoal : GoalContract where
  id := js "goal"
  organizationId := js "organization"
  projectId := js "project"
  title := js "title"
  problemStatement := js "problem"
  desiredOutcome := js "outcome"
  acceptanceCriteria := []
  nonGoals := []
  constraints := []
  status := .planning
  version := 1
  createdAt := 0
  updatedAt := 0

def plannedGoals (scope : GoalScope) : Option GoalContract :=
  if scope = plannedScope then some plannedGoal else none

def generation : SpecGenerationCommand where
  scope := plannedScope
  actorId := js "planner"
  expectedGoalVersion := 1
  reason := js "first revision"

def submission : SpecApprovalCommand where
  scope := plannedScope
  target := { type := .specRevision, id := js "spec-1" }
  expectedVersion := 1
  actorId := js "author"
  reason := js "ready"
  requestId := js "request-1"
  idempotencyKey := js "submit-1"
  policyRevision := overdesignPolicyRevision
  decision := .submitForReview
  affectedItemIds := []
  helpfulExceptionElementIds := []
  scopeChanges := []

def reasonHash (canonical : CanonicalApproval) : JsString :=
  canonical.normalized.reason

def allowing (id : JsString) : Outside where
  denied := none
  draft :=
    { plannerRunId := js "planner-run"
      goalId := js "goal"
      sourceGoalVersion := 1
      output := (scopedBundle [js "Approval"]).toJson }
  artifact := ⟨js "artifact-1", js "digest-1", 1⟩
  clock := 1
  id := id

/-- A revision is generated; two deliveries of its submission look for a receipt; the first
commits. -/
def overlapping : List (Action SpecCall Outside GoalUpdate) :=
  [.spawn (.generate generation)] ++
    List.replicate 8 (.perform 0 (allowing (js "spec-1"))) ++
    [.spawn (.decide submission), .spawn (.decide submission)] ++
    List.replicate 2 (.perform 1 (allowing [])) ++ List.replicate 2 (.perform 2 (allowing [])) ++
    List.replicate 8 (.perform 1 (allowing (js "generated")))

def spawnedBy (pid : ℕ) (past : List (Event SpecCommand SpecCommand.Answer Thrown SpecCall
    SpecResult GoalUpdate)) : List SpecCall :=
  past.filterMap fun e => match e with
    | .spawned pid' spawned => if pid' = pid then some spawned else none
    | _ => none

def finishedBy (pid : ℕ) (past : List (Event SpecCommand SpecCommand.Answer Thrown SpecCall
    SpecResult GoalUpdate)) : List (Except Thrown SpecResult) :=
  past.filterMap fun e => match e with
    | .finished pid' result => if pid' = pid then some result else none
    | _ => none

variable {past : List (Event SpecCommand SpecCommand.Answer Thrown SpecCall SpecResult GoalUpdate)}

theorem mem_of_mem_spawnedBy {call : SpecCall} (hcall : call ∈ spawnedBy pid past) :
    .spawned pid call ∈ past := by
  obtain ⟨e, he, hmatch⟩ := List.mem_filterMap.mp hcall
  split at hmatch
  · next pid' call' =>
    by_cases hpid : pid' = pid
    · rw [if_pos hpid] at hmatch
      obtain rfl := Option.some.inj hmatch
      rw [← hpid]
      exact he
    · rw [if_neg hpid] at hmatch
      cases hmatch
  · cases hmatch

theorem mem_of_mem_finishedBy (hresult : result ∈ finishedBy pid past) :
    .finished pid result ∈ past := by
  obtain ⟨e, he, hmatch⟩ := List.mem_filterMap.mp hresult
  split at hmatch
  · next pid' result' =>
    by_cases hpid : pid' = pid
    · rw [if_pos hpid] at hmatch
      obtain rfl := Option.some.inj hmatch
      rw [← hpid]
      exact he
    · rw [if_neg hpid] at hmatch
      cases hmatch
  · cases hmatch

def readsNext (c : SpecConfig) : Bool :=
  match attempted c (.perform 2 (allowing []) : Action SpecCall Outside GoalUpdate) with
  | some (.perform _ (.get _ _)) => true
  | _ => false

theorem attempted_of_readsNext {c : SpecConfig} (h : readsNext c = true) :
    ∃ scope id, attempted c (.perform 2 (allowing []) : Action SpecCall Outside GoalUpdate) =
      some (.perform 2 (.get scope id)) := by
  unfold readsNext at h
  split at h
  · next pid scope id hattempt =>
    rw [hattempt]
    simp only [attempted] at hattempt
    split at hattempt
    · obtain ⟨hpid, -⟩ := Attempt.perform.inj (Option.some.inj hattempt)
      exact ⟨scope, id, by rw [hpid]⟩
    · cases hattempt
  · cases h

/-- What is seen of the second delivery: its call, whether it is about to read the
revision when a receipt has been recorded, and what it returns. -/
structure DeliveryView where
  calls : List SpecCall
  reads : Bool
  recorded : Bool
  returned : Option (List Bool)
  deriving DecidableEq

def deliveryView (c : SpecConfig) : DeliveryView where
  calls := spawnedBy 2 c.now.past
  reads := readsNext c
  recorded := (SpecApprovals.recorded reasonHash c.now.state submission).isSome
  returned := (execute (specSystem reasonHash) c
    [.perform 2 (allowing []), .perform 2 (allowing []), .finish 2]).map fun d =>
      (finishedBy 2 d.now.past).map fun result => match result with
        | .ok _ => true
        | .error _ => false

/-- The second delivery is refused: between its lookup and its reads the first one has
been committed. -/
theorem not_approvalsLinearised :
    ¬ ApprovalsLinearised reasonHash plannedGoals fun _ _ => True := by
  intro hclaim
  have hexec : (execute (specSystem reasonHash) (Config.initial (.ofGoals plannedGoals))
      overlapping).map deliveryView = some
        { calls := [.decide submission]
          reads := true
          recorded := true
          returned := some [false] } := by
    decide +kernel
  obtain ⟨c, hc, hview⟩ := Option.map_eq_some_iff.mp hexec
  simp only [deliveryView, DeliveryView.mk.injEq] at hview
  obtain ⟨hcalls, hreads, hrecorded, hreturned⟩ := hview
  have hspawned : .spawned 2 (.decide submission) ∈ c.now.past :=
    mem_of_mem_spawnedBy (by rw [hcalls]; exact List.mem_singleton_self _)
  obtain ⟨receipt, hreceipt⟩ := Option.isSome_iff_exists.mp hrecorded
  obtain ⟨d, hd, hfinished⟩ := Option.map_eq_some_iff.mp hreturned
  obtain ⟨result, hresult, hrefused⟩ := List.map_eq_singleton_iff.mp hfinished
  obtain ⟨scope, id, hattempt⟩ := attempted_of_readsNext hreads
  simp only [execute] at hd
  split at hd
  · next c' hstep =>
    obtain ⟨resp, hpast⟩ := past_of_step_perform hattempt hstep
    have hrest : execute (specSystem reasonHash) c' [.perform 2 (allowing []), .finish 2] =
        some d := hd
    obtain ⟨-, -, outside, hperformed⟩ := (step_sound hstep).exec_of_performed hpast
    have hrecorded' : SpecApprovals.recorded reasonHash c'.now.state submission = some receipt := by
      obtain ⟨-, hstate⟩ := Prod.mk.inj (Option.some.inj hperformed)
      rw [← hstate]
      exact hreceipt
    have hok := hclaim.replayed (reached_of_execute hc) (step_sound hstep) hspawned
      rfl hpast hrecorded' (execute_sound hrest)
      (mem_of_mem_finishedBy (by rw [hresult]; exact List.mem_singleton_self _))
    rw [hok] at hrefused
    cases hrefused
  · cases hd

end DevHarness.SpecApprovals
