import DevHarness.ControlPlane.Writes

/-!
# The history of a goal

What one command does to the goal of a scope, and what follows for a goal that was
read earlier in a run: its version only grows, and while the version is the same
the goal is the same.
-/

namespace DevHarness.ControlPlane

open JsText Interleave Program

variable {store store' : ControlStore} {backend : IssuePlanBackend}
  {outside : ControlStore.Outside} {command : ControlCommand}
  {answer : Except Thrown command.Answer} {scope scope₀ : GoalScope}
  {goal goal₀ : GoalContract}

/-! ## One command -/

theorem getGoal_eq_some_iff :
    store.getGoal scope = some goal ↔ goal ∈ store.goals.rows ∧ goal.scope = scope := by
  unfold ControlStore.getGoal
  rw [Option.filter_eq_some_iff, Sql.Table.get_eq_some_iff, decide_eq_true_eq]
  constructor
  · rintro ⟨⟨hmem, -⟩, hscope⟩
    exact ⟨hmem, hscope⟩
  · rintro ⟨hmem, rfl⟩
    exact ⟨⟨hmem, rfl⟩, rfl⟩

theorem getGoal_of_updateWhere (f : GoalContract → GoalContract)
    (hkey : ∀ row, (f row).id = row.id) (hscope : ∀ row, (f row).scope = row.scope)
    (h₀ : store.getGoal scope₀ = some goal₀)
    (hgoals : store'.goals =
      store.goals.updateWhere (fun row => row.id = scope₀.goalId) f hkey) :
    store'.getGoal scope = if scope = scope₀ then some (f goal₀) else store.getGoal scope := by
  obtain ⟨hmem₀, hscope₀⟩ := getGoal_eq_some_iff.mp h₀
  have hget : store'.goals.get scope.goalId = (store.goals.get scope.goalId).map fun row =>
      if row.id = scope₀.goalId then f row else row := by
    rw [hgoals, Sql.Table.get_updateWhere]
    simp
  by_cases hsame : scope = scope₀
  · subst hsame
    rw [if_pos rfl, getGoal_eq_some_iff]
    have hfound : store.goals.get scope.goalId = some goal₀ := by
      rw [← hscope₀]
      exact Sql.Table.get_of_mem hmem₀
    rw [hfound, Option.map_some, if_pos (by rw [← hscope₀]; rfl)] at hget
    exact ⟨Sql.Table.mem_of_get hget, by rw [hscope, hscope₀]⟩
  · rw [if_neg hsame]
    unfold ControlStore.getGoal
    rw [hget]
    rcases hrow : store.goals.get scope.goalId with _ | row
    · rfl
    · by_cases hid : row.id = scope₀.goalId
      · -- The row is the one that is updated, and it is of the other scope.
        have hrow₀ : row = goal₀ := by
          refine Sql.Table.eq_of_key_eq (Sql.Table.mem_of_get hrow) hmem₀ ?_
          rw [hid, ← hscope₀]
          rfl
        have hne : goal₀.scope ≠ scope := fun heq => hsame (heq.symm.trans hscope₀)
        rw [Option.map_some, if_pos hid, hrow₀, Option.filter_some_neg (by simp [hscope, hne]),
          Option.filter_some_neg (by simp [hne])]
      · rw [Option.map_some, if_neg hid]

inductive GoalMove (store : ControlStore) (scope : GoalScope) :
    ControlCommand → Option GoalContract → Prop
  | same (command : ControlCommand) : GoalMove store scope command (store.getGoal scope)
  | created (input : CommitGoalCreate) (hnone : store.getGoal scope = none) :
      GoalMove store scope (.commitCreate input) (some input.goal)
  | updated (input : CommitGoalUpdate) (goal : GoalContract)
      (hreplay : ControlStore.replay store.updateReceipts input.idempotency = .ok none)
      (hgoal : store.getGoal scope = some goal) (hscope : input.next.scope = scope)
      (hversion : goal.version = input.expectedVersion) :
      GoalMove store scope (.commitUpdate input) (some (updatedRow input goal))
  | moved (input : CommitGoalTransition) (goal : GoalContract)
      (hgoal : store.getGoal scope = some goal) (hscope : input.current = scope)
      (hversion : goal.version = input.expectedVersion) :
      GoalMove store scope (.commitTransition input) (some (movedRow input goal))
  | completed (input : AcceptDeliveryReport) (goal : GoalContract)
      (hcompletes : Completes store input goal) (hscope : input.current.scope = scope) :
      GoalMove store scope (.acceptDeliveryReport input) (some (completedRow input goal))

theorem goalMove_of_goals_eq (h : store'.goals = store.goals) :
    GoalMove store scope command (store'.getGoal scope) := by
  have hsame : store'.getGoal scope = store.getGoal scope := by
    unfold ControlStore.getGoal
    rw [h]
  rw [hsame]
  exact .same command

theorem goalMove_of_insert {input : CommitGoalCreate}
    (hnew : ∀ row ∈ store.goals.rows, row.id ≠ input.goal.id)
    (hgoals : store'.goals = store.goals.insertNew input.goal) :
    GoalMove store scope (.commitCreate input) (store'.getGoal scope) := by
  have hfree : store.goals.get input.goal.id = none := by
    rcases hget : store.goals.get input.goal.id with _ | row
    · rfl
    · exact absurd (Sql.Table.key_of_get hget) (hnew row (Sql.Table.mem_of_get hget))
  by_cases hscope : input.goal.scope = scope
  · have hnone : store.getGoal scope = none := by
      unfold ControlStore.getGoal
      rw [← hscope]
      change (store.goals.get input.goal.id).filter _ = none
      rw [hfree]
      rfl
    have hsome : store'.getGoal scope = some input.goal := by
      unfold ControlStore.getGoal
      rw [hgoals, ← hscope]
      change ((store.goals.insertNew input.goal).get input.goal.id).filter _ = _
      rw [Sql.Table.get_insertNew, if_pos ⟨rfl, hfree⟩, Option.filter_some_pos (by simp)]
    rw [hsome]
    exact .created input hnone
  · have hsame : store'.getGoal scope = store.getGoal scope := by
      unfold ControlStore.getGoal
      rw [hgoals, Sql.Table.get_insertNew]
      split
      · next hkey =>
        rw [hkey.2, Option.filter_some_neg (by simp [hscope])]
        rfl
      · rfl
    rw [hsame]
    exact .same _

section

variable (h : ControlStore.exec backend outside command store = some (answer, store'))

include h

theorem goalMove_of_exec : GoalMove store scope command (store'.getGoal scope) := by
  by_cases hwrites : writesGoals command = false
  · exact goalMove_of_goals_eq ((frame_of_exec h).goals hwrites)
  · cases command with
    | commitCreate input =>
        rcases commitCreate_cases (Option.some.inj h) with rfl | ⟨hnew, rfl⟩
        · exact .same _
        · exact goalMove_of_insert hnew rfl
    | commitUpdate input =>
        rcases commitUpdate_cases (Option.some.inj h) with
          rfl | ⟨hreplay, ⟨goal, hgoal, hversion⟩, rfl⟩
        · exact .same _
        · rw [getGoal_of_updateWhere (updatedRow input) (fun _ => rfl) (fun _ => rfl)
            hgoal rfl]
          split
          · next hscope =>
            rw [hscope]
            exact .updated input goal hreplay hgoal rfl hversion
          · exact .same _
    | commitTransition input =>
        rcases commitTransition_cases (Option.some.inj h) with
          rfl | ⟨⟨goal, hgoal, hversion⟩, rfl⟩
        · exact .same _
        · rw [getGoal_of_updateWhere (movedRow input) (fun _ => rfl) (fun _ => rfl)
            hgoal rfl]
          split
          · next hscope =>
            rw [hscope]
            exact .moved input goal hgoal rfl hversion
          · exact .same _
    | acceptDeliveryReport input =>
        rcases acceptDeliveryReport_cases (Option.some.inj h) with
          rfl | ⟨goal, lookup, hcompletes, rfl⟩
        · exact .same _
        · rw [getGoal_of_updateWhere (completedRow input) (fun _ => rfl) (fun _ => rfl)
            hcompletes.found rfl]
          split
          · next hscope =>
            rw [hscope]
            exact .completed input goal hcompletes rfl
          · exact .same _
    | _ => exact absurd rfl hwrites

theorem getGoal_of_exec (hgoal : store.getGoal scope = some goal) :
    ∃ goal', store'.getGoal scope = some goal' ∧
      (goal' = goal ∨ goal'.version = goal.version + 1) := by
  have hmove : GoalMove store scope command (store'.getGoal scope) := goalMove_of_exec h
  generalize hg' : store'.getGoal scope = g' at hmove
  cases hmove with
  | same => exact ⟨goal, hgoal, .inl rfl⟩
  | created input hnone =>
      rw [hnone] at hgoal
      cases hgoal
  | updated input found _ hfound _ _ =>
      obtain rfl := Option.some.inj (hfound.symm.trans hgoal)
      exact ⟨_, rfl, .inr rfl⟩
  | moved input found hfound _ _ =>
      obtain rfl := Option.some.inj (hfound.symm.trans hgoal)
      exact ⟨_, rfl, .inr rfl⟩
  | completed input found hcompletes hscope =>
      subst hscope
      obtain rfl := Option.some.inj (hcompletes.found.symm.trans hgoal)
      exact ⟨_, rfl, .inr rfl⟩

end

section Runs

variable {services : ControlServices}
  {cond : Moment ControlStore ControlCommand ControlCommand.Answer Thrown ControlCall
    ControlResult Empty → Attempt ControlCommand ControlCall Empty → Prop}

abbrev ControlConfig :=
  Config ControlStore ControlCommand ControlCommand.Answer Thrown ControlCall ControlResult Empty

abbrev ControlEvent :=
  Event ControlCommand ControlCommand.Answer Thrown ControlCall ControlResult Empty

variable {c c' : ControlConfig} {pid : ℕ}

/-- A command that a process performs: its call, what it did before, and the
execution. -/
structure Performed (services : ControlServices) (backend : IssuePlanBackend)
    (c c' : ControlConfig) (pid : ℕ) (command : ControlCommand)
    (answer : Except Thrown command.Answer) (call : ControlCall) : Prop where
  past : c'.now.past = .performed pid command answer :: c.now.past
  exec : ∃ outside, ControlStore.exec backend outside command c.now.state =
    some (answer, c'.now.state)
  spawned : .spawned pid call ∈ c.now.past
  reaches : Reaches (services.program call) (exchangesOf pid c.now.past) command

section

variable (hrun : Run (controlPlane services backend) cond store c)

include hrun

theorem performed_of_step (hstep : Step (controlPlane services backend) cond c c') :
    (c'.now.state = c.now.state ∧
        ∃ e : ControlEvent, c'.now.past = e :: c.now.past ∧ e.exchange? = none) ∨
      ∃ pid command answer call, Performed services backend c c' pid command answer call ∧
        cond c.now (.perform pid command) := by
  cases hstep with
  | spawn call => exact .inl ⟨rfl, _, rfl, rfl⟩
  | perform pid command next outside answer state hproc hcond hexec =>
      obtain ⟨call, hcall, hpath⟩ := (tracked_of_run hrun).path pid _ hproc
      exact .inr ⟨pid, command, answer, call, ⟨rfl, ⟨outside, hexec⟩, hcall, next, hpath⟩, hcond⟩
  | finish => exact .inl ⟨rfl, _, rfl, rfl⟩
  | crash => exact .inl ⟨rfl, _, rfl, rfl⟩
  | change env => exact env.elim

theorem performed_of_past {answer : Except Thrown command.Answer}
    (hstep : Step (controlPlane services backend) cond c c')
    (hpast : c'.now.past = .performed pid command answer :: c.now.past) :
    (∃ call, Performed services backend c c' pid command answer call) ∧
      cond c.now (.perform pid command) := by
  obtain ⟨hcond, ⟨next, hproc⟩, outside, hexec⟩ := hstep.exec_of_performed hpast
  obtain ⟨call, hcall, hpath⟩ := (tracked_of_run hrun).path pid _ hproc
  exact ⟨⟨call, hpast, ⟨outside, hexec⟩, hcall, next, hpath⟩, hcond⟩

theorem performed_of_mem {answer : Except Thrown command.Answer}
    (h : .performed pid command answer ∈ c.now.past) :
    ∃ c₀ c₁ call, Run (controlPlane services backend) cond store c₀ ∧
      Performed services backend c₀ c₁ pid command answer call ∧
      cond c₀.now (.perform pid command) ∧
      Step (controlPlane services backend) cond c₀ c₁ ∧
      Relation.ReflTransGen (Step (controlPlane services backend) cond) c₁ c := by
  obtain ⟨recent, older, hpast⟩ := List.append_of_mem h
  obtain ⟨c₀, c₁, hrun₀, hstep, hsince, hpast₀, hpast₁⟩ := hrun.split hpast
  rw [← hpast₀] at hpast₁
  obtain ⟨⟨call, hperformed⟩, hcond⟩ := performed_of_past hrun₀ hstep hpast₁
  exact ⟨c₀, c₁, call, hrun₀, hperformed, hcond, hstep, hsince⟩

end

theorem Performed.mem_writes {command : ControlCommand} {answer : Except Thrown command.Answer}
    {call : ControlCall} {write : Write}
    (h : Performed services backend c c' pid command answer call)
    (hwrite : command.write? = some write) : write ∈ call.writes :=
  (only_program services call).of_reaches h.reaches write hwrite

/-- What was read of a goal still says what the goal is at that version. -/
def GoalsRemembered (c : ControlConfig) : Prop :=
  ∀ pid scope goal, .performed pid (.getGoal scope) (.ok (some goal)) ∈ c.now.past →
    ∃ goal', c.now.state.getGoal scope = some goal' ∧ goal.version ≤ goal'.version ∧
      (goal.version = goal'.version → goal' = goal)

theorem GoalsRemembered.step (h : GoalsRemembered c)
    (hrun : Run (controlPlane services backend) cond store c)
    (hstep : Step (controlPlane services backend) cond c c') : GoalsRemembered c' := by
  rcases performed_of_step hrun hstep with
    ⟨hstate, e, hpast, hexchange⟩ | ⟨pid, command, answer, call, hperformed, -⟩
  · intro pid scope goal hread
    rw [hpast] at hread
    rw [hstate]
    rcases List.mem_cons.mp hread with heq | hold
    · rw [← heq] at hexchange
      cases hexchange
    · exact h pid scope goal hold
  · obtain ⟨outside, hexec⟩ := hperformed.exec
    intro pid' scope goal hread
    rw [hperformed.past] at hread
    rcases List.mem_cons.mp hread with heq | hold
    · injection heq with _ hcommand hanswer
      subst hcommand
      obtain rfl := eq_of_heq hanswer
      obtain ⟨hfound, hstate⟩ := Prod.mk.inj (Option.some.inj hexec)
      rw [← hstate]
      exact ⟨goal, Except.ok.inj hfound, Nat.le_refl _, fun _ => rfl⟩
    · obtain ⟨goal₁, hgoal₁, hle, hsame⟩ := h pid' scope goal hold
      obtain ⟨goal₂, hgoal₂, hmove⟩ := getGoal_of_exec hexec hgoal₁
      rcases hmove with rfl | hversion
      · exact ⟨goal₂, hgoal₂, hle, hsame⟩
      · exact ⟨goal₂, hgoal₂, by omega, fun heq => by omega⟩

theorem goalsRemembered_of_run (hrun : Run (controlPlane services backend) cond store c) :
    GoalsRemembered c := by
  induction hrun with
  | refl =>
      intro pid scope goal hread
      exact absurd hread List.not_mem_nil
  | tail hprefix hstep ih => exact ih.step hprefix hstep

end Runs

end DevHarness.ControlPlane
