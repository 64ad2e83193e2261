import DevHarness.ControlPlane.GoalHistory

/-!
# Terminal goals

A completed or cancelled goal is left alone by every call except an update: a
transition starts from a goal that it has read and that is not terminal, an
acceptance from one that is being verified, and an update checks the version only.
-/

namespace DevHarness.ControlPlane

open JsText Interleave Program

variable {services : ControlServices} {backend : IssuePlanBackend} {store : ControlStore}
  {ex : List (Exchange ControlCommand ControlCommand.Answer Thrown)}

theorem transitionState_eq_ok {currentState nextState : GoalStatus} {currentVersion : ℕ}
    {expectedVersion : ℤ} {guards : TransitionGuard → Option Bool}
    {result : StateTransitionResult}
    (h : transitionState currentState currentVersion expectedVersion nextState guards =
      .ok result) :
    currentState ∉ goalTerminalStates ∧ result.previousVersion = currentVersion := by
  unfold transitionState at h
  rw [ite_error_eq_ok, ite_error_eq_ok] at h
  obtain ⟨-, hlive, h⟩ := h
  refine ⟨hlive, ?_⟩
  split at h
  · cases h
  · split at h
    · cases h
    · obtain rfl := Except.ok.inj h
      rfl

/-- A transition is committed for a goal that was read, at its version, and that was
not terminal. -/
theorem read_of_reaches_commitTransition {hash : GoalTransitionCommand → JsString}
    {command : GoalTransitionCommand} {input : CommitGoalTransition}
    (h : Reaches (transition hash command) ex (.commitTransition input)) :
    ∃ goal, ⟨.getGoal command.scope, .ok (some goal)⟩ ∈ ex ∧ input.current = command.scope ∧
      input.expectedVersion = goal.version ∧ goal.status ∉ goalTerminalStates := by
  obtain ⟨-, -, h₁⟩ := reaches_done_bind_iff.mp h
  obtain ⟨-, -, h₂⟩ := reaches_done_bind_iff.mp h₁
  rcases reaches_request_bind_iff.mp h₂ with ⟨-, hcommand⟩ | ⟨-, ex₁, rfl, h₃⟩
  · cases hcommand
  rcases reaches_request_bind_iff.mp h₃ with ⟨-, hcommand⟩ | ⟨replay, ex₂, rfl, h₄⟩
  · cases hcommand
  cases replay with
  | some receipt => exact absurd h₄ not_reaches_pure
  | none =>
      rcases reaches_request_bind_iff.mp h₄ with ⟨-, hcommand⟩ | ⟨found, ex₃, rfl, h₅⟩
      · cases hcommand
      cases found with
      | none => exact absurd h₅ not_reaches_throw
      | some goal =>
          have hreplay : ∀ stale lookup, Only (Writes []) (concurrentReplay stale lookup) :=
            fun _ _ => only_concurrentReplay
          obtain ⟨concurrent, ex₄, ex₅, rfl, -, h₆⟩ :=
            reaches_bind_of_only (hreplay _ _) (by simp [Writes, ControlCommand.write?]) h₅
          refine ⟨goal, by simp, ?_⟩
          cases concurrent with
          | some receipt => exact absurd h₆ not_reaches_pure
          | none =>
              obtain ⟨result, hresult, h₇⟩ := reaches_done_bind_iff.mp h₆
              obtain ⟨hlive, hversion⟩ := transitionState_eq_ok hresult
              rcases reaches_request_bind_iff.mp h₇ with ⟨-, hcommand⟩ | ⟨_, _, -, h₈⟩
              · cases hcommand
              rcases reaches_request_bind_iff.mp h₈ with ⟨-, hcommand⟩ | ⟨_, _, -, h₉⟩
              · cases hcommand
              rcases reaches_request_bind_iff.mp h₉ with ⟨-, hcommand⟩ | ⟨_, _, -, h₁₀⟩
              · cases hcommand
              obtain ⟨-, hcommand⟩ := reaches_request_iff.mp h₁₀
              injection hcommand with hinput
              rw [hinput]
              exact ⟨rfl, hversion, hlive⟩

/-! ## When updates leave terminal goals alone -/

/-- No update is applied to a terminal goal: where it would be, because its key is
new and its version is the current one, the goal is still live. -/
def UpdatesLive (m : Moment ControlStore ControlCommand ControlCommand.Answer Thrown ControlCall
    ControlResult Empty) : Attempt ControlCommand ControlCall Empty → Prop
  | .perform _ (.commitUpdate input) =>
    ∀ goal, m.state.getGoal input.next.scope = some goal →
      goal.version = input.expectedVersion →
      ControlStore.replay m.state.updateReceipts input.idempotency = .ok none →
      goal.status ∉ goalTerminalStates
  | _ => True

variable {c c' : ControlConfig} {scope : GoalScope} {goal : GoalContract}

theorem getGoal_step_of_terminal (hrun : Run (controlPlane services backend) UpdatesLive store c)
    (hstep : Step (controlPlane services backend) UpdatesLive c c')
    (hgoal : c.now.state.getGoal scope = some goal) (hterminal : goal.status ∈ goalTerminalStates) :
    c'.now.state.getGoal scope = some goal := by
  rcases performed_of_step hrun hstep with
    ⟨hstate, -⟩ | ⟨pid, command, answer, call, hperformed, hcond⟩
  · rw [hstate]
    exact hgoal
  · obtain ⟨outside, hexec⟩ := hperformed.exec
    have hmove : GoalMove c.now.state scope command (c'.now.state.getGoal scope) :=
      goalMove_of_exec hexec
    generalize hg' : c'.now.state.getGoal scope = g' at hmove
    cases hmove with
    | same => exact hgoal
    | created input hnone =>
        rw [hnone] at hgoal
        cases hgoal
    | updated input found hreplay hfound hscope hversion =>
        subst hscope
        obtain rfl := Option.some.inj (hfound.symm.trans hgoal)
        exact absurd hterminal (hcond found hgoal hversion hreplay)
    | moved input found hfound hscope hversion =>
        -- The transition read the goal at this version, when it was not terminal.
        have hwrite : Write.transition ∈ call.writes := hperformed.mem_writes rfl
        cases call with
        | transition command =>
            obtain ⟨read, hread, hcurrent, hexpected, hlive⟩ :=
              read_of_reaches_commitTransition (reaches_tagged_iff.mp hperformed.reaches)
            have hscope' : command.scope = scope := hcurrent.symm.trans hscope
            rw [hscope'] at hread
            obtain ⟨now, hnow, -, hsame⟩ :=
              goalsRemembered_of_run hrun pid scope read (mem_exchangesOf.mp hread)
            obtain rfl := Option.some.inj (hfound.symm.trans hgoal)
            obtain rfl := Option.some.inj (hfound.symm.trans hnow)
            have hread' := hsame (hexpected.symm.trans hversion.symm)
            rw [hread'] at hterminal
            exact absurd hterminal hlive
        | _ => simp [ControlCall.writes] at hwrite
    | completed input found hcompletes hscope =>
        subst hscope
        obtain rfl := Option.some.inj (hcompletes.found.symm.trans hgoal)
        rw [hcompletes.verifying] at hterminal
        simp [goalTerminalStates] at hterminal

/-- Once a goal is completed or cancelled, nothing changes it. -/
theorem getGoal_eq_of_terminal (hrun : Run (controlPlane services backend) UpdatesLive store c)
    (hsince : Relation.ReflTransGen (Step (controlPlane services backend) UpdatesLive) c c')
    (hgoal : c.now.state.getGoal scope = some goal) (hterminal : goal.status ∈ goalTerminalStates) :
    c'.now.state.getGoal scope = some goal := by
  induction hsince with
  | refl => exact hgoal
  | tail hsteps hstep ih => exact getGoal_step_of_terminal (hrun.trans hsteps) hstep ih hterminal

/-! ## Cancelling and updating -/

def sampleServices : ControlServices where
  goals := { create := fun _ _ => js "create", update := fun _ _ => js "update" }
  transitionHash := fun _ => js "transition"
  issuePlans :=
    { planDigest := fun _ => js "digest"
      requestHash := fun _ => js "approval"
      toLowerCase := id }
  verificationPlanDigest := fun _ => js "digest"
  verifier := sampleService
  confirmHash := fun request => request.reason
  reportDigest := fun _ => js "digest"
  acceptHash := fun _ => js "accept"

/-- Perform the next `count` commands of a process; the identifiers are numbered
from `start` on. -/
def samplePerforms (pid start count : ℕ) :
    List (Action ControlCall ControlStore.Outside Empty) :=
  (List.range count).map fun i =>
    .perform pid (sampleGranting (js "passed") (.object []) (start + i)).1

def sampleCancel : GoalTransitionCommand where
  scope := sampleScope
  actorId := js "actor"
  requestId := js "request"
  idempotencyKey := js "cancel-1"
  expectedVersion := 3
  nextState := .cancelled
  reason := js "obsolete"
  guards := fun _ => none

def sampleUpdate (expectedVersion : ℤ) : UpdateGoalCommand where
  scope := sampleScope
  actorId := js "actor"
  requestId := js "request"
  idempotencyKey := js "update-1"
  reason := js "clarify"
  expectedVersion := expectedVersion
  draft := .object
    [(js "title", .string (js "Another title")),
      (js "problemStatement", .string (js "Problem")),
      (js "desiredOutcome", .string (js "Outcome")),
      (js "acceptanceCriteria", .array [.string (js "It works")]),
      (js "nonGoals", .array []),
      (js "constraints", .array [])]

def updatesLive (m : Moment ControlStore ControlCommand ControlCommand.Answer Thrown ControlCall
    ControlResult Empty) : Attempt ControlCommand ControlCall Empty → Bool
  | .perform _ (.commitUpdate input) =>
    (m.state.getGoal input.next.scope).all fun goal =>
      goal.version ≠ input.expectedVersion ∨ goal.status ∉ goalTerminalStates
  | _ => true

theorem updatesLive_sound (m : Moment ControlStore ControlCommand ControlCommand.Answer Thrown
    ControlCall ControlResult Empty) (attempt : Attempt ControlCommand ControlCall Empty)
    (h : updatesLive m attempt = true) : UpdatesLive m attempt := by
  unfold UpdatesLive
  split
  · next input =>
    intro goal hgoal hversion _
    simp only [updatesLive, hgoal, Option.all_some, decide_eq_true_eq] at h
    exact h.resolve_left fun hne => hne hversion
  · trivial

/-- An update that read the goal before it was cancelled is refused after. -/
theorem getGoal_eq_of_terminal_refused : ∃ (c c' : ControlConfig) (goal : GoalContract),
    c.now.state.getGoal sampleScope = some goal ∧ goal.status = .cancelled ∧
      c.now.past.length < c'.now.past.length ∧ c'.now.state.getGoal sampleScope = some goal := by
  let before : List (Action ControlCall ControlStore.Outside Empty) :=
    .spawn (.update (sampleUpdate 3)) :: samplePerforms 0 0 7 ++
      .spawn (.transition sampleCancel) :: samplePerforms 1 10 7
  let sys := controlPlane sampleServices .postgres
  have hrun : ((executeWhile sys updatesLive (Config.initial sampleStore) before).bind fun c =>
      (executeWhile sys updatesLive c (samplePerforms 0 20 1)).map fun c' => (c, c')).any
      (fun x => x.1.now.past.length < x.2.now.past.length ∧
        (x.1.now.state.getGoal sampleScope).any (fun goal => goal.status = .cancelled)) = true := by
    decide +kernel
  obtain ⟨d, d', hbefore, hafter, hchecks⟩ := exists_of_any_pair hrun
  obtain ⟨hlength, hcancelled⟩ := of_decide_eq_true hchecks
  obtain ⟨goal, hgoal, hstatus⟩ := (Option.any_eq_true _ _).mp hcancelled
  have hstatus' : goal.status = .cancelled := of_decide_eq_true hstatus
  refine ⟨d, d', goal, hgoal, hstatus', hlength, ?_⟩
  exact getGoal_eq_of_terminal (run_of_executeWhile updatesLive_sound hbefore)
    (executeWhile_sound updatesLive_sound hafter) hgoal (by simp [hstatus', goalTerminalStates])

/-- A cancelled goal is updated. -/
theorem not_getGoal_eq_of_terminal : ¬ ∀ (services : ControlServices)
    (backend : IssuePlanBackend) (store : ControlStore) (c c' : ControlConfig)
    (scope : GoalScope) (goal : GoalContract),
    Reached (controlPlane services backend) store c →
    Relation.ReflTransGen (Step (controlPlane services backend) fun _ _ => True) c c' →
    c.now.state.getGoal scope = some goal → goal.status ∈ goalTerminalStates →
    c'.now.state.getGoal scope = some goal := by
  intro hall
  let before : List (Action ControlCall ControlStore.Outside Empty) :=
    .spawn (.transition sampleCancel) :: samplePerforms 0 0 7
  let after : List (Action ControlCall ControlStore.Outside Empty) :=
    .spawn (.update (sampleUpdate 4)) :: samplePerforms 1 10 8
  let sys := controlPlane sampleServices .postgres
  have hrun : ((execute sys (Config.initial sampleStore) before).bind fun c =>
      (execute sys c after).map fun c' => (c, c')).any
      (fun x => (x.1.now.state.getGoal sampleScope).any (fun goal =>
        goal.status = .cancelled ∧ x.2.now.state.getGoal sampleScope ≠ some goal)) = true := by
    decide +kernel
  obtain ⟨d, d', hbefore, hafter, hchecks⟩ := exists_of_any_pair hrun
  obtain ⟨goal, hgoal, hgoals⟩ := (Option.any_eq_true _ _).mp hchecks
  obtain ⟨hstatus, hchanged⟩ := of_decide_eq_true hgoals
  refine hchanged (hall sampleServices .postgres sampleStore d d' sampleScope goal
    (reached_of_execute hbefore) (execute_sound hafter) hgoal ?_)
  simp [hstatus, goalTerminalStates]

end DevHarness.ControlPlane
