import DevHarness.Scheduler.Attempts

/-!
# Capacity

A node is given work while it has fewer active leases than it may have runs, so its
capacity is kept as long as every job that starts or runs has its lease.  Nothing gives a
lease back to a job that has lost it: a run whose lease lapses is found by the next listing,
and when the gateway reports that it still runs the job goes on without a lease, on a node
that takes another run in its place.
-/

namespace DevHarness.Scheduler

open JsText Interleave Program

/-- `state IN ('starting','running','reconciling')`. -/
def SchedulerJobState.placed (state : SchedulerJobState) : Prop :=
  state = .starting ∨ state = .running ∨ state = .reconciling

/-- The run has an active lease on the node. -/
def Holds (store : SchedulerStore) (runId nodeId : JsString) : Prop :=
  ∃ lease ∈ store.leases, lease.status = .active ∧ lease.runId = runId ∧ lease.nodeId = nodeId

def heldOn (store : SchedulerStore) (nodeId : JsString) : ℕ :=
  store.leases.countP fun lease =>
    decide (lease.status = .active) && decide (lease.nodeId = nodeId)

def placedOn (store : SchedulerStore) (nodeId : JsString) : ℕ :=
  store.jobs.rows.countP fun row =>
    decide (row.state ∈ [.starting, .running]) && decide (row.nodeId = some nodeId)

/-- Work that runs counts against the capacity of its node. -/
structure CapacityKept (store : SchedulerStore) : Prop where
  leased : ∀ ⦃jobId row⦄, store.jobs.get jobId = some row → row.state = .running →
    store.ActiveLease row.runId
  bounded : ∀ ⦃nodeId node⦄, store.nodes.get nodeId = some node →
    placedOn store nodeId ≤ node.maxConcurrentRuns

/-- In every state of every run under the condition. -/
def CapacityCounts (cond : SchedulerCondition) : Prop :=
  ∀ ⦃c⦄, Run schedulerSystem cond .empty c → CapacityKept c.now.state

/-- The lease is that of a job that starts or runs, or whose start a tick is about to
issue. -/
def NeededLease (m : SchedulerMoment) (lease : LeaseRow) : Prop :=
  lease.status = .active ∧ ∃ jobId row, m.state.jobs.get jobId = some row ∧
    row.runId = lease.runId ∧ (row.state.placed ∨
      (row.state = .claimed ∧ ∃ pid, standing pid jobId m.past = .leased))

/-- No lease is found to be over that is needed, no job that waits or is claimed is
reported to run, and no node registers with less capacity than it has leased. -/
def LeasesLast (m : SchedulerMoment) :
    Attempt SchedulerCommand TickCall SchedulerChange → Prop
  | .perform _ (.listForReconciliation now) =>
    ∀ lease ∈ m.state.leases, m.state.lapsed now lease = true → ¬ NeededLease m lease
  | .perform _ (.acquireLease input) =>
    ∀ lease ∈ m.state.leases, SchedulerStore.overdue input lease = true → ¬ NeededLease m lease
  | .perform _ (.reconcileExternal jobId external _) =>
    mappedState (external.getD SchedulerStore.unavailable).state = .running →
      ∀ row, m.state.jobs.get jobId = some row → ¬ row.state.beforeStart
  | .change (.registerNode node) => heldOn m.state node.id ≤ node.maxConcurrentRuns
  | _ => True

/-! ## What a command does to the leases -/

inductive LeaseEnds (s t : SchedulerStore) (lease : LeaseRow) : SchedulerCommand → Prop
  | lapsed {now : ℕ} (hlapsed : s.lapsed now lease = true) :
      LeaseEnds s t lease (.listForReconciliation now)
  | overdue {input : LeaseInput} (hoverdue : SchedulerStore.overdue input lease = true) :
      LeaseEnds s t lease (.acquireLease input)
  | released {command : SchedulerCommand} {jobId : JsString} {row : JobRow}
      (hrow : t.jobs.get jobId = some row) (hrun : row.runId = lease.runId)
      (hstate : row.state.terminal = true ∨ row.state = .retryWait) : LeaseEnds s t lease command

structure LeasesMove (s t : SchedulerStore) (command : SchedulerCommand) : Prop where
  kept : ∀ ⦃lease⦄, lease ∈ s.leases → lease.status = .active →
    Holds t lease.runId lease.nodeId ∨ LeaseEnds s t lease command
  counted : ∀ ⦃nodeId node⦄, s.nodes.get nodeId = some node →
    heldOn s nodeId ≤ node.maxConcurrentRuns → heldOn t nodeId ≤ node.maxConcurrentRuns

variable {command : SchedulerCommand} {outside : Outside} {jobId : JsString}

section Leases

variable {s t u : SchedulerStore} {q : LeaseRow → Bool} {status : LeaseStatus} {now : ℕ}
  {resp : Except Thrown SchedulerJob} {external : ExternalExecutionStatus}
  {phase code reason : JsString} {state : SchedulerJobState} {input : LeaseInput} {job : JobRow}

theorem Holds.activeLease {runId nodeId : JsString} (h : Holds s runId nodeId) :
    s.ActiveLease runId := by
  obtain ⟨lease, hlease, hactive, hrun, -⟩ := h
  exact ⟨lease, hlease, hrun, hactive⟩

theorem LeasesMove.of_map {f : LeaseRow → LeaseRow} (hleases : t.leases = s.leases.map f)
    (hrun : ∀ lease, (f lease).runId = lease.runId)
    (hnode : ∀ lease, (f lease).nodeId = lease.nodeId)
    (hstatus : ∀ lease, (f lease).status = .active → lease.status = .active)
    (hends : ∀ lease ∈ s.leases, lease.status = .active → (f lease).status = .active ∨
      LeaseEnds s t lease command) : LeasesMove s t command := by
  constructor
  · intro lease hlease hactive
    rcases hends lease hlease hactive with hstays | hover
    · refine .inl ⟨f lease, ?_, hstays, hrun lease, hnode lease⟩
      rw [hleases]
      exact List.mem_map_of_mem hlease
    · exact .inr hover
  · intro nodeId node _ hle
    refine le_trans ?_ hle
    rw [heldOn, heldOn, hleases, List.countP_map]
    apply List.countP_mono_left
    intro lease _ hcounted
    simp only [Function.comp_apply, Bool.and_eq_true, decide_eq_true_eq] at hcounted ⊢
    exact ⟨hstatus lease hcounted.1, (hnode lease).symm.trans hcounted.2⟩

theorem LeasesMove.of_eq (hleases : t.leases = s.leases) : LeasesMove s t command := by
  apply LeasesMove.of_map (f := id)
  · rw [hleases, List.map_id]
  · exact fun _ => rfl
  · exact fun _ => rfl
  · exact fun _ h => h
  · exact fun _ _ h => .inl h

theorem LeasesMove.of_endLeases
    (hleases : t.leases = (s.endLeases q status now).leases)
    (hends : ∀ lease ∈ s.leases, lease.status = .active → q lease = true →
      LeaseEnds s t lease command) : LeasesMove s t command := by
  apply LeasesMove.of_map hleases
  · intro lease
    split <;> rfl
  · intro lease
    split <;> rfl
  · intro lease
    split
    · next h => exact fun _ => h.1
    · exact fun h => h
  · intro lease hlease hactive
    by_cases hq : q lease = true
    · exact .inr (hends lease hlease hactive hq)
    · refine .inl ?_
      rw [if_neg fun h => hq h.2, hactive]

/-- The leases of a run are released as its job ends or is to be tried again. -/
def Releases (s t : SchedulerStore) : Prop :=
  t.leases = s.leases ∨ ∃ jobId row now, t.jobs.get jobId = some row ∧
    (row.state.terminal = true ∨ row.state = .retryWait) ∧
    t.leases = (s.releaseLeases row.runId now).leases

theorem Releases.move (h : Releases s t) : LeasesMove s t command := by
  rcases h with hsame | ⟨jobId, row, now, hrow, hstate, hleases⟩
  · exact .of_eq hsame
  · apply LeasesMove.of_endLeases hleases
    intro lease _ _ hrun
    exact .released hrow (of_decide_eq_true hrun).symm hstate

theorem releases_commitExternalState {jobId : JsString}
    (hexec : s.commitExternalState jobId external now = (resp, t)) : Releases s t := by
  rcases SchedulerStore.changeJob_cases hexec with ⟨-, rfl⟩ | ⟨row, hrow, -, -, hstore⟩
  · exact .inl rfl
  · by_cases hover : (row.observe external now).state.terminal = true
    · rw [if_pos hover] at hstore
      refine .inr ⟨jobId, row.observe external now, now, ?_, .inl hover, ?_⟩
      · rw [hstore, SchedulerStore.jobs_releaseLeases, SchedulerStore.jobs_runFollows]
        exact SchedulerStore.get_updateJob_self hrow
      · rw [hstore, SchedulerStore.releaseLeases, SchedulerStore.endLeases]
        simp only [SchedulerStore.leases_runFollows]
        rfl
    · rw [if_neg hover] at hstore
      left
      rw [hstore, SchedulerStore.leases_runFollows]
      rfl

theorem releases_concludeJob (hover : state.terminal = true)
    (hexec : s.concludeJob jobId state phase code reason now = (resp, t)) : Releases s t := by
  rcases SchedulerStore.changeJob_cases hexec with ⟨-, rfl⟩ | ⟨row, hrow, -, -, rfl⟩
  · exact .inl rfl
  · refine .inr ⟨jobId, row.conclude state phase code reason now, now, ?_, .inl hover, ?_⟩
    · rw [SchedulerStore.jobs_runFollows, SchedulerStore.jobs_releaseLeases]
      exact SchedulerStore.get_updateJob_self hrow
    · rw [SchedulerStore.leases_runFollows]
      rfl

theorem releases_handleStartFailure {input : StartFailureInput}
    (hexec : s.handleStartFailure input = (resp, t)) : Releases s t := by
  unfold SchedulerStore.handleStartFailure at hexec
  split at hexec
  · obtain ⟨-, rfl⟩ := Prod.mk.inj hexec
    exact .inl rfl
  · rcases SchedulerStore.changeJob_cases hexec with ⟨-, rfl⟩ | ⟨row, hrow, -, -, hstore⟩
    · exact .inl rfl
    · refine .inr ⟨input.jobId, row.failStart input.failureCode input.failureReason input.now,
        input.now, ?_, ?_, ?_⟩
      · have hjobs : t.jobs = (s.updateJob input.jobId
            (fun row => row.failStart input.failureCode input.failureReason input.now)
            fun row => row.scope_failStart _ _ _).jobs := by
          rw [hstore]
          split
          · rw [SchedulerStore.jobs_updateRunAndOutbox]
            rfl
          · rfl
        rw [hjobs]
        exact SchedulerStore.get_updateJob_self hrow
      · rw [JobRow.failStart]
        by_cases hmore : row.attempt < row.maxAttempts
        · simp only [if_pos hmore, or_true]
        · simp only [if_neg hmore]
          exact .inl rfl
      · rw [hstore]
        split
        · rw [SchedulerStore.leases_updateRunAndOutbox]
          rfl
        · rfl

theorem acquireLease_some {lease : LeaseRow} (hexec : s.acquireLease input = (some lease, t)) :
    lease = input.lease ∧
      ∃ node, s.nodes.get input.nodeId = some node ∧
        (s.endLeases (SchedulerStore.overdue input) .expired input.now).liveLeases input.now
          input.nodeId < node.maxConcurrentRuns ∧
        t = { s.endLeases (SchedulerStore.overdue input) .expired input.now with
          leases := (s.endLeases (SchedulerStore.overdue input) .expired input.now).leases ++
            [input.lease] } := by
  unfold SchedulerStore.acquireLease at hexec
  split at hexec
  · cases (Prod.mk.inj hexec).1
  · next node hnode =>
    split at hexec
    · cases (Prod.mk.inj hexec).1
    · split at hexec
      · cases (Prod.mk.inj hexec).1
      · split at hexec
        · cases (Prod.mk.inj hexec).1
        · unfold SchedulerStore.insertLease at hexec
          simp only at hexec
          split at hexec
          · cases (Prod.mk.inj hexec).1
          · split at hexec
            · cases (Prod.mk.inj hexec).1
            · next hroom =>
              obtain ⟨hlease, rfl⟩ := Prod.mk.inj hexec
              exact ⟨(Option.some.inj hlease).symm, node, hnode, not_le.mp hroom, rfl⟩

/-- Once the leases that are over have ended, those that are left on the node still run. -/
theorem heldOn_eq_liveLeases :
    heldOn (s.endLeases (SchedulerStore.overdue input) .expired input.now) input.nodeId =
      (s.endLeases (SchedulerStore.overdue input) .expired input.now).liveLeases input.now
        input.nodeId := by
  rw [heldOn, SchedulerStore.liveLeases, List.countP_eq_length_filter]
  congr 1
  apply List.filter_congr
  intro lease hlease
  have hlive : lease.status = .active → lease.nodeId = input.nodeId →
      input.now < lease.expiresAt := by
    obtain ⟨old, -, rfl⟩ := List.mem_map.mp hlease
    by_cases hover : old.status = .active ∧ SchedulerStore.overdue input old = true
    · rw [if_pos hover]
      intro hactive
      cases hactive
    · rw [if_neg hover]
      intro hactive hnode
      by_contra hlate
      apply hover
      simp [SchedulerStore.overdue, hactive, hnode, not_lt.mp hlate]
  by_cases hactive : lease.status = .active
  · by_cases hnode : lease.nodeId = input.nodeId
    · simp [hactive, hnode, hlive hactive hnode]
    · simp [hnode]
  · simp [hactive]

theorem heldOn_acquired (nodeId : JsString) :
    heldOn { s with leases := s.leases ++ [input.lease] } nodeId =
      heldOn s nodeId + if input.nodeId = nodeId then 1 else 0 := by
  rw [heldOn, heldOn, List.countP_append, List.countP_singleton]
  by_cases hid : input.nodeId = nodeId
  · simp [LeaseInput.lease, hid]
  · simp [LeaseInput.lease, hid]

theorem LeasesMove.acquireLease {found : Option LeaseRow}
    (hexec : s.acquireLease input = (found, t)) : LeasesMove s t (.acquireLease input) := by
  cases found with
  | none =>
      rcases SchedulerStore.acquireLease_cases hexec with ⟨-, rfl⟩ | ⟨⟨_, h⟩, -⟩
      · exact .of_eq rfl
      · cases h
  | some lease =>
      obtain ⟨rfl, node, hnode, hroom, rfl⟩ := acquireLease_some hexec
      have hended : LeasesMove s (s.endLeases (SchedulerStore.overdue input) .expired input.now)
          (.acquireLease input) := .of_endLeases rfl fun _ _ _ hq => .overdue hq
      constructor
      · intro lease hlease hactive
        rcases hended.kept hlease hactive with ⟨held, hmem, hheld⟩ | hends
        · exact .inl ⟨held, List.mem_append_left _ hmem, hheld⟩
        · cases hends with
          | overdue hoverdue => exact .inr (.overdue hoverdue)
          | released hrow hrun hstate => exact .inr (.released hrow hrun hstate)
      · intro nodeId other hother hle
        have hbefore := hended.counted hother hle
        rw [heldOn_acquired]
        by_cases hid : input.nodeId = nodeId
        · subst hid
          obtain rfl := Option.some.inj (hnode.symm.trans hother)
          rw [← heldOn_eq_liveLeases] at hroom
          rw [if_pos rfl]
          exact hroom
        · rw [if_neg hid]
          exact hbefore

theorem leasesMove_of_exec {resp : Except Thrown command.Answer}
    (hexec : execScheduler outside command s = (resp, t)) : LeasesMove s t command := by
  unfold execScheduler at hexec
  split at hexec
  · obtain ⟨-, rfl⟩ := Prod.mk.inj hexec
    exact .of_eq rfl
  · split at hexec
    case h_2 now =>
      obtain ⟨-, rfl⟩ := Prod.mk.inj hexec
      have hleases : (s.listForReconciliation now).2.leases =
        (s.endLeases (s.lapsed now) .expired now).leases := rfl
      exact .of_endLeases hleases fun _ _ _ hq => .lapsed hq
    case h_3 ownerId now expiresAt =>
      obtain ⟨-, rfl⟩ := Prod.mk.inj hexec
      have hleases : (s.heartbeatOwned ownerId now expiresAt).2.leases = s.leases.map _ := rfl
      apply LeasesMove.of_map hleases
      · intro lease
        split <;> rfl
      · intro lease
        split <;> rfl
      · intro lease
        split <;> exact id
      · intro lease _ hactive
        left
        split <;> exact hactive
    case h_7 input =>
      obtain ⟨-, rfl⟩ := Prod.mk.inj hexec
      exact .acquireLease rfl
    case h_4 now supervisorId =>
      obtain ⟨-, rfl⟩ := Prod.mk.inj hexec
      apply LeasesMove.of_eq
      unfold SchedulerStore.claimNext
      split <;> rfl
    case h_8 input =>
      rcases SchedulerStore.changeJob_cases hexec with ⟨-, rfl⟩ | ⟨row, -, -, -, rfl⟩
      · exact .of_eq rfl
      · exact .of_eq rfl
    case h_12 jobId external now => exact (releases_commitExternalState hexec).move
    case h_13 input => exact (releases_handleStartFailure hexec).move
    case h_16 jobId external now => exact (releases_commitExternalState hexec).move
    case h_17 jobId now => exact (releases_concludeJob rfl hexec).move
    case h_18 jobId now => exact (releases_concludeJob rfl hexec).move
    all_goals
      obtain ⟨-, rfl⟩ := Prod.mk.inj hexec
      exact .of_eq rfl

theorem nodes_updateRunAndOutbox {status : RunStatus} :
    (s.updateRunAndOutbox job status now).nodes = s.nodes := by
  unfold SchedulerStore.updateRunAndOutbox
  split
  · rfl
  · split <;> rfl

theorem nodes_runFollows : (s.runFollows job now).nodes = s.nodes := by
  unfold SchedulerStore.runFollows
  split
  · exact nodes_updateRunAndOutbox
  · rfl

theorem nodes_changeJob {jobId message : JsString} {allowed : JobRow → Bool} {f : JobRow → JobRow}
    {hscope : ∀ row, (f row).toJobScope = row.toJobScope}
    {andThen : JobRow → SchedulerStore → SchedulerStore}
    (hthen : ∀ row u, (andThen row u).nodes = u.nodes)
    (hexec : s.changeJob jobId allowed f hscope message andThen = (resp, t)) :
    t.nodes = s.nodes := by
  rcases SchedulerStore.changeJob_cases hexec with ⟨-, rfl⟩ | ⟨row, -, -, -, rfl⟩
  · rfl
  · exact hthen _ _

theorem nodes_commitExternalState {jobId : JsString}
    (hexec : s.commitExternalState jobId external now = (resp, t)) : t.nodes = s.nodes := by
  refine nodes_changeJob (fun row u => ?_) hexec
  split
  · exact nodes_runFollows
  · exact nodes_runFollows

theorem nodes_concludeJob (hexec : s.concludeJob jobId state phase code reason now = (resp, t)) :
    t.nodes = s.nodes := by
  refine nodes_changeJob (fun row u => ?_) hexec
  rw [nodes_runFollows]
  rfl

theorem nodes_handleStartFailure {input : StartFailureInput}
    (hexec : s.handleStartFailure input = (resp, t)) : t.nodes = s.nodes := by
  unfold SchedulerStore.handleStartFailure at hexec
  split at hexec
  · obtain ⟨-, rfl⟩ := Prod.mk.inj hexec
    rfl
  · refine nodes_changeJob (fun row u => ?_) hexec
    simp only
    split
    · exact nodes_updateRunAndOutbox
    · rfl

theorem node_of_exec {resp : Except Thrown command.Answer} {nodeId : JsString} {node : NodeRow}
    (hexec : execScheduler outside command s = (resp, t)) (hnode : t.nodes.get nodeId = some node) :
    ∃ old, s.nodes.get nodeId = some old ∧ node.maxConcurrentRuns = old.maxConcurrentRuns := by
  have hsame : t.nodes = s.nodes → ∃ old, s.nodes.get nodeId = some old ∧
      node.maxConcurrentRuns = old.maxConcurrentRuns := by
    intro hnodes
    rw [hnodes] at hnode
    exact ⟨node, hnode, rfl⟩
  unfold execScheduler at hexec
  split at hexec
  · obtain ⟨-, rfl⟩ := Prod.mk.inj hexec
    exact hsame rfl
  · split at hexec
    case h_2 now =>
      obtain ⟨-, rfl⟩ := Prod.mk.inj hexec
      have hget : (s.listForReconciliation now).2.nodes.get nodeId =
          (s.nodes.get nodeId).map fun node =>
            if decide (node.status ≠ .offline) && decide (node.offlineAfter ≤ now) then
              { node with status := .offline, version := node.version + 1 }
            else node := by
        rw [← Sql.Table.get_updateWhere]
        · rfl
        · exact fun _ => rfl
      rw [hget] at hnode
      obtain ⟨old, hold, rfl⟩ := Option.map_eq_some_iff.mp hnode
      refine ⟨old, hold, ?_⟩
      split <;> rfl
    case h_4 now supervisorId =>
      obtain ⟨-, rfl⟩ := Prod.mk.inj hexec
      apply hsame
      unfold SchedulerStore.claimNext
      split <;> rfl
    case h_7 input =>
      rcases hlease : s.acquireLease input with ⟨found, u⟩
      rw [hlease] at hexec
      obtain ⟨-, rfl⟩ := Prod.mk.inj hexec
      cases found with
      | none =>
          rcases SchedulerStore.acquireLease_cases hlease with ⟨-, rfl⟩ | ⟨⟨_, h⟩, -⟩
          · exact hsame rfl
          · cases h
      | some lease =>
          obtain ⟨-, _, -, -, rfl⟩ := acquireLease_some hlease
          exact hsame rfl
    case h_8 input => exact hsame (nodes_changeJob (fun _ _ => rfl) hexec)
    case h_12 jobId external now => exact hsame (nodes_commitExternalState hexec)
    case h_13 input => exact hsame (nodes_handleStartFailure hexec)
    case h_16 jobId external now => exact hsame (nodes_commitExternalState hexec)
    case h_17 jobId now => exact hsame (nodes_concludeJob hexec)
    case h_18 jobId now => exact hsame (nodes_concludeJob hexec)
    all_goals
      obtain ⟨-, rfl⟩ := Prod.mk.inj hexec
      exact hsame rfl

end Leases

/-! ## Every job that starts or runs has its lease -/

structure Covered (m : SchedulerMoment) : Prop where
  /-- A job that starts or runs has its lease, on its node. -/
  placed : ∀ ⦃jobId row⦄, m.state.jobs.get jobId = some row → row.state.placed →
    ∃ nodeId, row.nodeId = some nodeId ∧ Holds m.state row.runId nodeId
  /-- So has a job whose start is about to be issued. -/
  leased : ∀ ⦃pid jobId row input lease⦄, standing pid jobId m.past = .leased →
    m.state.jobs.get jobId = some row → row.state = .claimed →
    .performed pid (.acquireLease input) (.ok (some lease)) ∈ m.past →
    Holds m.state row.runId lease.nodeId
  counted : ∀ ⦃nodeId node⦄, m.state.nodes.get nodeId = some node →
    heldOn m.state nodeId ≤ node.maxConcurrentRuns

section Standings

variable {pid : ℕ} {past : List SchedulerEvent} {e : SchedulerEvent} {supervisorId : JsString}

theorem leased_cons (h : standing pid jobId (e :: past) = .leased) :
    standing pid jobId past = .leased ∨ (standing pid jobId past = .claimed ∧
      ∃ input lease, e = .performed pid (.acquireLease input) (.ok (some lease))) := by
  by_cases hpid : e.pid? = some pid
  · rw [standing_cons_self hpid] at h
    unfold Standing.after at h
    split at h
    case h_3 p input lease =>
      obtain rfl := Option.some.inj hpid
      by_cases hclaimed : standing p jobId past = .claimed
      · exact .inr ⟨hclaimed, input, lease, rfl⟩
      · rw [if_neg hclaimed] at h
        exact .inl h
    case h_7 =>
      cases hold : standing pid jobId past <;> rw [hold] at h <;> first | exact .inl rfl | cases h
    case h_8 =>
      cases hold : standing pid jobId past <;> rw [hold] at h <;> first | exact .inl rfl | cases h
    case h_11 => cases h
    case h_12 => cases h
    case h_13 => exact .inl h
    all_goals
      split at h
      · cases h
      · exact .inl h
  · rw [standing_cons_of_ne hpid] at h
    exact .inl h

theorem claimed_cons (h : standing pid jobId (e :: past) = .claimed) :
    standing pid jobId past = .claimed ∨ ∃ now supervisorId job, job.id = jobId ∧
      e = .performed pid (.claimNext now supervisorId) (.ok (some job)) := by
  by_cases hpid : e.pid? = some pid
  · by_cases htakes : Takes jobId e
    · unfold Takes at htakes
      split at htakes
      · next p now supervisorId job =>
        obtain rfl := Option.some.inj hpid
        exact .inr ⟨now, supervisorId, job, htakes, rfl⟩
      · rw [standing_cons_self hpid] at h
        simp only [Standing.after, if_pos htakes] at h
        cases h
      · exact htakes.elim
    · have hfades : (standing pid jobId past).Fades (standing pid jobId (e :: past)) :=
        standing_fades htakes
      rcases hfades with hsame | hnone | ⟨_, hleased⟩ | hstarted
      · exact .inl (hsame.symm.trans h)
      · rw [h] at hnone
        cases hnone
      · rw [h] at hleased
        cases hleased
      · rw [h] at hstarted
        left
        cases hold : standing pid jobId past <;> rw [hold] at hstarted <;>
          first | rfl | cases hstarted
  · rw [standing_cons_of_ne hpid] at h
    exact .inl h

theorem exists_claim_of_claimed (h : standing pid jobId past = .claimed) :
    ∃ now supervisorId job, job.id = jobId ∧
      .performed pid (.claimNext now supervisorId) (.ok (some job)) ∈ past := by
  induction past with
  | nil => cases h
  | cons e past ih =>
      rcases claimed_cons h with hbefore | ⟨now, supervisorId, job, hid, rfl⟩
      · obtain ⟨now, supervisorId, job, hid, hmem⟩ := ih hbefore
        exact ⟨now, supervisorId, job, hid, List.mem_cons_of_mem _ hmem⟩
      · exact ⟨now, supervisorId, job, hid, List.mem_cons_self⟩

theorem exists_lease_of_leased (h : standing pid jobId past = .leased) :
    ∃ input lease, .performed pid (.acquireLease input) (.ok (some lease)) ∈ past := by
  induction past with
  | nil => cases h
  | cons e past ih =>
      rcases leased_cons h with hbefore | ⟨-, input, lease, rfl⟩
      · obtain ⟨input, lease, hmem⟩ := ih hbefore
        exact ⟨input, lease, List.mem_cons_of_mem _ hmem⟩
      · exact ⟨input, lease, List.mem_cons_self⟩

theorem claim_of_lease {input : LeaseInput}
    (hcourse : StartCourse supervisorId (exchangesOf pid past) (.acquireLease input)) :
    (∀ ⦃now supervisorId job⦄, .performed pid (.claimNext now supervisorId) (.ok (some job)) ∈ past →
      job.runId = input.runId) ∧
    ∀ input' resp, .performed pid (.acquireLease input') resp ∉ past := by
  generalize hex : exchangesOf pid past = ex at hcourse
  cases hcourse with
  | @lease before between now job input hbefore hbetween hrun =>
      have hcases : ∀ {cmd : SchedulerCommand} {answer : Except Thrown cmd.Answer},
          .performed pid cmd answer ∈ past → Starts cmd →
          (⟨cmd, answer⟩ : SchedulerExchange) = ⟨.claimNext now supervisorId, .ok (some job)⟩ := by
        intro cmd answer hmem hstarts
        have hx : (⟨cmd, answer⟩ : SchedulerExchange) ∈ exchangesOf pid past :=
          mem_exchangesOf.mpr hmem
        rw [hex] at hx
        simp only [List.mem_append, List.mem_cons] at hx
        rcases hx with h | h | h
        · exact absurd hstarts (hbefore _ h)
        · exact h
        · exact absurd hstarts (hbetween _ h)
      constructor
      · intro claimedAt supervisor other hmem
        have hsame := hcases hmem nofun
        injection hsame with hcmd hanswer
        injection hcmd with hnow hsupervisor
        subst hnow hsupervisor
        rw [Option.some.inj (Except.ok.inj hanswer), hrun]
      · intro input' resp hmem
        cases (Exchange.mk.inj (hcases hmem nofun)).1

theorem lease_of_issue {input : StartIssuedInput}
    (hcourse : StartCourse supervisorId (exchangesOf pid past) (.markExternalStartIssued input)) :
    ∃ leaseInput, .performed pid (.acquireLease leaseInput) (.ok (some input.lease)) ∈ past := by
  generalize hex : exchangesOf pid past = ex at hcourse
  cases hcourse with
  | @issue before between now job leaseInput lease =>
      refine ⟨leaseInput, mem_past_of_exchanges hex ?_⟩
      simp only [startIssuedInput, List.mem_append, List.mem_cons, or_true, true_or]

end Standings

section Steps

variable {m : SchedulerMoment} {store : SchedulerStore} {q : ℕ}
  {resp : Except Thrown command.Answer} {row row' : JobRow} {nodeId : JsString}

theorem holds_of_needed (hruns : RunsUnique m.state) (hcond : LeasesLast m (.perform q command))
    (hexec : execScheduler outside command m.state = (resp, store))
    (hrow : m.state.jobs.get jobId = some row) (hrow' : store.jobs.get jobId = some row')
    (hneeded : row.state.placed ∨ (row.state = .claimed ∧ ∃ pid, standing pid jobId m.past =
      .leased)) (hstill : row'.state.placed ∨ row'.state = .claimed)
    (hholds : Holds m.state row.runId nodeId) : Holds store row'.runId nodeId := by
  have hscopes := scopesKept_of_exec hexec
  have hrun : row'.runId = row.runId := by
    obtain ⟨_, hget, hscope⟩ := hscopes.evolve hrow
    obtain rfl := Option.some.inj (hrow'.symm.trans hget)
    exact congrArg JobScope.runId hscope
  obtain ⟨lease, hlease, hactive, hleaseRun, rfl⟩ := hholds
  have hneeds : NeededLease m lease := ⟨hactive, jobId, row, hrow, hleaseRun.symm, hneeded⟩
  rcases (leasesMove_of_exec hexec).kept hlease hactive with hkept | hends
  · rw [hrun, ← hleaseRun]
    exact hkept
  · cases hends with
    | lapsed hlapsed => exact absurd hneeds (hcond lease hlease hlapsed)
    | overdue hoverdue => exact absurd hneeds (hcond lease hlease hoverdue)
    | @released _ id other hother hotherRun hstate =>
        have hsame : id = jobId := by
          apply hscopes.runsUnique hruns hother hrow'
          rw [hotherRun, hleaseRun, hrun]
        subst hsame
        obtain rfl := Option.some.inj (hother.symm.trans hrow')
        rcases hstill with (h | h | h) | h <;> rw [h] at hstate <;>
          rcases hstate with hstate | hstate <;> cases hstate

theorem placed_of_live {state : SchedulerJobState} (hlive : state.terminal = false)
    (hafter : ¬ state.beforeStart) : state.placed := by
  cases state with
  | pending => exact absurd (.inl (.inl rfl)) hafter
  | retryWait => exact absurd (.inl (.inr rfl)) hafter
  | claimed => exact absurd (.inr rfl) hafter
  | starting => exact .inl rfl
  | running => exact .inr (.inl rfl)
  | reconciling => exact .inr (.inr rfl)
  | _ => cases hlive

theorem mappedState_eq_running {state : ExternalExecutionState}
    (h : (mappedState state).placed) : mappedState state = .running := by
  cases state with
  | starting | running => rfl
  | _ => rcases h with h | h | h <;> cases h

/-- A row that starts or runs did so before, on the same node, or its start has just been
issued. -/
theorem RowChange.placed (h : RowChange command row row') (hplaced : row'.state.placed)
    (hstarted : ∀ external now, command = .markStarted row.id external now →
      ¬ row.state.beforeStart)
    (hreconciled : ∀ external now, command = .reconcileExternal row.id external now →
      mappedState (external.getD SchedulerStore.unavailable).state = .running →
        ¬ row.state.beforeStart) :
    (row.state.placed ∧ row'.nodeId = row.nodeId) ∨
      ∃ input, command = .markExternalStartIssued input ∧ row.id = input.jobId ∧
        row.state = .claimed ∧ row' = row.issue input.externalRunId input.lease input.now := by
  cases h with
  | kept => exact .inl ⟨hplaced, rfl⟩
  | flagged => exact .inl ⟨hplaced, rfl⟩
  | extended => exact .inl ⟨hplaced, rfl⟩
  | issued hid hclaimed => exact .inr ⟨_, rfl, hid, hclaimed, rfl⟩
  | started hlive => exact .inl ⟨placed_of_live hlive (hstarted _ _ rfl), rfl⟩
  | reconciled hlive =>
      have hrunning := mappedState_eq_running hplaced
      exact .inl ⟨placed_of_live hlive (hreconciled _ _ rfl hrunning), rfl⟩
  | failed =>
      simp only [JobRow.failStart] at hplaced
      split at hplaced <;> rcases hplaced with h | h | h <;> cases h
  | claimed => rcases hplaced with h | h | h <;> cases h
  | unclaimed => rcases hplaced with h | h | h <;> cases h
  | stopped => rcases hplaced with h | h | h <;> cases h
  | timedOut => rcases hplaced with h | h | h <;> cases h

theorem RowChange.of_claimed (h : RowChange command row row') (hclaimed : row'.state = .claimed) :
    row.state = .claimed ∨ row.state.waiting := by
  have hmapped : ∀ {state : ExternalExecutionState}, mappedState state ≠ .claimed := by
    intro state
    cases state <;> decide
  cases h with
  | kept => exact .inl hclaimed
  | flagged => exact .inl hclaimed
  | extended => exact .inl hclaimed
  | claimed hwaiting => exact .inr hwaiting
  | started => exact absurd hclaimed hmapped
  | reconciled => exact absurd hclaimed hmapped
  | failed =>
      simp only [JobRow.failStart] at hclaimed
      split at hclaimed <;> cases hclaimed
  | unclaimed => cases hclaimed
  | issued => cases hclaimed
  | stopped => cases hclaimed
  | timedOut => cases hclaimed

section Perform

variable (hcovered : Covered m) (hinv : SchedulerInv m)
  (hcourse : Starts command → ∃ supervisorId,
    StartCourse supervisorId (exchangesOf q m.past) command)
  (hpromise : SchedulerPromise q m command) (hcond : LeasesLast m (.perform q command))
  (hexec : execScheduler outside command m.state = (resp, store))

include hcovered hinv hcourse hpromise hcond hexec in
theorem Covered.placed_perform (hrow' : store.jobs.get jobId = some row')
    (hplaced : row'.state.placed) :
    ∃ nodeId, row'.nodeId = some nodeId ∧ Holds store row'.runId nodeId := by
  obtain ⟨row, hrow, -⟩ := (scopesKept_of_exec hexec).back hrow'
  obtain rfl := SchedulerStore.id_of_get hrow
  obtain ⟨_, hget, hchange⟩ := rowChange_of_exec hexec hrow
  obtain rfl := Option.some.inj (hrow'.symm.trans hget)
  have hstarted : ∀ external now, command = .markStarted row.id external now →
      ¬ row.state.beforeStart := by
    rintro external now rfl
    obtain ⟨externalRunId, hreturned⟩ := hpromise
    have hholds : (standing q row.id m.past).holds = true := by rw [hreturned]; rfl
    obtain ⟨old, hold, hallows⟩ := (hinv.job row.id).holder hholds
    obtain rfl := Option.some.inj (hrow.symm.trans hold)
    rw [hreturned] at hallows
    rintro (h | h)
    · exact hallows.1 h
    · exact hallows.2.1 h
  have hreconciled : ∀ external now, command = .reconcileExternal row.id external now →
      mappedState (external.getD SchedulerStore.unavailable).state = .running →
        ¬ row.state.beforeStart := by
    rintro external now rfl hrunning
    exact hcond hrunning row hrow
  rcases hchange.placed hplaced hstarted hreconciled with ⟨hbefore, hnode⟩ |
    ⟨input, rfl, hid, hclaimed, rfl⟩
  · obtain ⟨nodeId, hnodeId, hholds⟩ := hcovered.placed hrow hbefore
    refine ⟨nodeId, hnode.trans hnodeId, ?_⟩
    exact holds_of_needed hinv.runs hcond hexec hrow hrow' (.inl hbefore) (.inl hplaced) hholds
  · obtain ⟨supervisorId, hcourse⟩ := hcourse nofun
    obtain ⟨leaseInput, hmem⟩ := lease_of_issue hcourse
    have hleased : standing q row.id m.past = .leased := by
      rw [hid]
      exact hpromise
    have hholds := hcovered.leased hleased hrow hclaimed hmem
    refine ⟨input.lease.nodeId, rfl, ?_⟩
    exact holds_of_needed hinv.runs hcond hexec hrow hrow' (.inr ⟨hclaimed, q, hleased⟩)
      (.inl hplaced) hholds

include hcovered hinv hcourse hcond hexec in
theorem Covered.leased_perform {pid : ℕ} {input : LeaseInput} {lease : LeaseRow}
    (hleased : standing pid jobId m.past = .leased) (hrow' : store.jobs.get jobId = some row')
    (hclaimed : row'.state = .claimed)
    (hmem : .performed pid (.acquireLease input) (.ok (some lease)) ∈
      .performed q command resp :: m.past) : Holds store row'.runId lease.nodeId := by
  obtain ⟨row, hrow, -⟩ := (scopesKept_of_exec hexec).back hrow'
  obtain ⟨_, hget, hchange⟩ := rowChange_of_exec hexec hrow
  obtain rfl := Option.some.inj (hrow'.symm.trans hget)
  have hold : .performed pid (.acquireLease input) (.ok (some lease)) ∈ m.past := by
    rcases List.mem_cons.mp hmem with hevent | hold
    · injection hevent with hpid hcommand hresp
      subst hpid hcommand
      obtain ⟨supervisorId, hcourse⟩ := hcourse nofun
      obtain ⟨_, _, hearlier⟩ := exists_lease_of_leased hleased
      exact absurd hearlier ((claim_of_lease hcourse).2 _ _)
    · exact hold
  have hholds : (standing pid jobId m.past).holds = true := by rw [hleased]; rfl
  obtain ⟨old, hold', hallows⟩ := (hinv.job jobId).holder hholds
  obtain rfl := Option.some.inj (hrow.symm.trans hold')
  rw [hleased] at hallows
  have hrowClaimed : row.state = .claimed := (hchange.of_claimed hclaimed).resolve_right hallows.1
  have hheld := hcovered.leased hleased hrow hrowClaimed hold
  exact holds_of_needed hinv.runs hcond hexec hrow hrow' (.inr ⟨hrowClaimed, pid, hleased⟩)
    (.inr hclaimed) hheld

end Perform

theorem holds_of_acquireLease {input : LeaseInput} {found : Except Thrown (Option LeaseRow)}
    {lease : LeaseRow} (hattempts : AttemptInv m) (hcourse : ∃ supervisorId,
      StartCourse supervisorId (exchangesOf q m.past) (.acquireLease input))
    (hexec : execScheduler outside (.acquireLease input) m.state = (found, store))
    (hstanding : standing q jobId m.past = .claimed) (hrow' : store.jobs.get jobId = some row')
    (hmem : .performed q (.acquireLease input) (.ok (some lease)) ∈
      .performed q (.acquireLease input) found :: m.past) :
    Holds store row'.runId lease.nodeId := by
  obtain ⟨supervisorId, hcourse⟩ := hcourse
  obtain ⟨hclaims, hfirst⟩ := claim_of_lease hcourse
  have hevent := (List.mem_cons.mp hmem).resolve_right (hfirst _ _)
  injection hevent with _ _ hanswer
  subst hanswer
  obtain ⟨row, hrow, hscope⟩ := (scopesKept_of_exec hexec).back hrow'
  obtain ⟨now, supervisor, job, hid, hclaim⟩ := exists_claim_of_claimed hstanding
  have hjob := ((hattempts.known hrow).claimed hclaim (if_pos rfl) hid).1
  have hrun : row'.runId = input.runId := by
    rw [congrArg JobScope.runId hscope, ← hjob, hclaims hclaim]
  unfold execScheduler at hexec
  split at hexec
  · cases (Prod.mk.inj hexec).1
  · obtain ⟨hfound, hstore⟩ := Prod.mk.inj hexec
    have hacquired : m.state.acquireLease input = (some lease, store) := by
      rw [← hstore, ← Except.ok.inj hfound]
    obtain ⟨rfl, node, -, -, rfl⟩ := acquireLease_some hacquired
    exact ⟨input.lease, List.mem_append_right _ List.mem_cons_self, rfl, hrun.symm, rfl⟩

theorem Covered.perform (hcovered : Covered m) (hinv : SchedulerInv m) (hattempts : AttemptInv m)
    (hcourse : Starts command → ∃ supervisorId,
      StartCourse supervisorId (exchangesOf q m.past) command)
    (hpromise : SchedulerPromise q m command) (hcond : LeasesLast m (.perform q command))
    (hexec : execScheduler outside command m.state = (resp, store)) :
    Covered (m.push (.performed q command resp) store) := by
  constructor
  · intro jobId row' hrow' hplaced
    exact hcovered.placed_perform hinv hcourse hpromise hcond hexec hrow' hplaced
  · intro pid jobId row' input lease hleased hrow' hclaimed hmem
    rcases leased_cons hleased with hbefore | ⟨hstanding, input', lease', hevent⟩
    · exact hcovered.leased_perform hinv hcourse hcond hexec hbefore hrow' hclaimed hmem
    · injection hevent with hpid hcommand hresp
      subst hpid hcommand
      obtain ⟨supervisorId, hstarts⟩ := hcourse nofun
      have hinput : input = input' := by
        rcases List.mem_cons.mp hmem with hsame | hold
        · injection hsame with _ hinput _
          injection hinput
        · exact absurd hold ((claim_of_lease hstarts).2 _ _)
      subst hinput
      exact holds_of_acquireLease hattempts ⟨_, hstarts⟩ hexec hstanding hrow' hmem
  · intro nodeId node hnode
    rw [Moment.push_state] at hnode ⊢
    obtain ⟨old, hold, hmax⟩ := node_of_exec hexec hnode
    rw [hmax]
    exact (leasesMove_of_exec hexec).counted hold (hcovered.counted hold)

theorem Covered.frame {e : SchedulerEvent} (hcovered : Covered m)
    (hevent : ∀ pid command resp, e ≠ .performed pid command resp)
    (hleases : store.leases = m.state.leases)
    (hjobs : ∀ ⦃jobId row⦄, store.jobs.get jobId = some row →
      m.state.jobs.get jobId = some row ∨ row.state = .pending)
    (hnodes : ∀ ⦃nodeId node⦄, store.nodes.get nodeId = some node →
      heldOn m.state nodeId ≤ node.maxConcurrentRuns) : Covered (m.push e store) := by
  have hholds : ∀ {runId nodeId}, Holds m.state runId nodeId → Holds store runId nodeId := by
    rintro runId nodeId ⟨lease, hlease, hheld⟩
    rw [← hleases] at hlease
    exact ⟨lease, hlease, hheld⟩
  constructor
  · intro jobId row hrow hplaced
    rcases hjobs hrow with hold | hpending
    · obtain ⟨nodeId, hnode, hheld⟩ := hcovered.placed hold hplaced
      exact ⟨nodeId, hnode, hholds hheld⟩
    · rw [hpending] at hplaced
      rcases hplaced with h | h | h <;> cases h
  · intro pid jobId row input lease hleased hrow hclaimed hmem
    rcases leased_cons hleased with hbefore | ⟨-, _, _, h⟩
    · have hold := (List.mem_cons.mp hmem).resolve_left (hevent _ _ _).symm
      rcases hjobs hrow with hrow' | hpending
      · exact hholds (hcovered.leased hbefore hrow' hclaimed hold)
      · rw [hpending] at hclaimed
        cases hclaimed
    · exact absurd h (hevent _ _ _)
  · intro nodeId node hnode
    have hle := hnodes hnode
    rwa [heldOn, ← hleases] at hle

theorem nodes_admitJob {scope : JobScope} (hadmitted : m.state.admitJob scope = some store) :
    store.nodes = m.state.nodes := by
  unfold SchedulerStore.admitJob at hadmitted
  split at hadmitted
  · cases hadmitted
  · obtain rfl := Option.some.inj hadmitted
    rfl

theorem node_of_registerNode {s : SchedulerStore} {node other : NodeRow}
    (hnode : (s.registerNode node).nodes.get nodeId = some other) :
    s.nodes.get nodeId = some other ∨
      (nodeId = node.id ∧ other.maxConcurrentRuns = node.maxConcurrentRuns) := by
  unfold SchedulerStore.registerNode at hnode
  split at hnode
  · rw [Sql.Table.get_updateWhere] at hnode
    obtain ⟨old, hold, rfl⟩ := Option.map_eq_some_iff.mp hnode
    have hkey : old.id = nodeId := Sql.Table.key_of_get hold
    by_cases hid : old.id = node.id
    · rw [if_pos (decide_eq_true hid)]
      exact .inr ⟨hkey.symm.trans hid, rfl⟩
    · rw [if_neg (by simpa using hid)]
      exact .inl hold
  · rw [Sql.Table.get_insertNew] at hnode
    split at hnode
    · next hnew =>
      obtain rfl := Option.some.inj hnode
      exact .inr ⟨hnew.1.symm, rfl⟩
    · exact .inl hnode

theorem Covered.change {change : SchedulerChange} (hcovered : Covered m)
    (hcond : LeasesLast m (.change change)) (hchange : change.apply m.state = some store) :
    Covered (m.push (.changed change) store) := by
  have hevent : ∀ pid command resp,
      (.changed change : SchedulerEvent) ≠ .performed pid command resp :=
    fun _ _ _ h => by cases h
  cases change with
  | admitJob scope =>
      obtain ⟨-, new, rfl, hpending, -, hget⟩ := get_admitJob hchange
      have hleases := (SchedulerStore.admitJob_eq_some hchange).2.2.2.1
      refine hcovered.frame hevent hleases (fun jobId row hrow => ?_) fun nodeId node hnode => ?_
      · rw [hget] at hrow
        by_cases hid : jobId = new.id
        · rw [if_pos hid] at hrow
          obtain rfl := Option.some.inj hrow
          exact .inr hpending
        · rw [if_neg hid] at hrow
          exact .inl hrow
      · rw [nodes_admitJob hchange] at hnode
        exact hcovered.counted hnode
  | registerNode node =>
      obtain rfl := Option.some.inj hchange
      refine hcovered.frame hevent ?_ (fun _ _ hrow => .inl hrow) fun nodeId other hnode => ?_
      · rfl
      · rcases node_of_registerNode hnode with hold | ⟨rfl, hmax⟩
        · exact hcovered.counted hold
        · rw [hmax]
          exact hcond
  | setControl control =>
      obtain rfl := Option.some.inj hchange
      refine hcovered.frame hevent ?_ (fun _ _ hrow => .inl hrow) fun _ _ hnode => ?_
      · rfl
      · exact hcovered.counted hnode

end Steps

section Runs

variable {c c' : SchedulerConfig}

theorem Covered.step (hrun : Run schedulerSystem LeasesLast .empty c) (hcovered : Covered c.now)
    (hstep : Step schedulerSystem LeasesLast c c') : Covered c'.now := by
  have hsound := sound_of_run hrun
  cases hstep with
  | perform pid command next choice resp state hproc hcond hexec =>
      have hself := hsound.verified hproc c.now (Outline.Later.refl hsound.inv) trivial
      exact hcovered.perform hsound.inv (attemptInv_of_run hrun) (startCourse_of_proc hrun hproc)
        hself.1 hcond (Option.some.inj hexec)
  | change change state hcond hchange => exact hcovered.change hcond hchange
  | spawn call hcond =>
      exact hcovered.frame (fun _ _ _ h => by cases h) rfl (fun _ _ h => .inl h)
        fun _ _ hnode => hcovered.counted hnode
  | finish pid result hproc hcond =>
      exact hcovered.frame (fun _ _ _ h => by cases h) rfl (fun _ _ h => .inl h)
        fun _ _ hnode => hcovered.counted hnode
  | crash pid p hproc hcond =>
      exact hcovered.frame (fun _ _ _ h => by cases h) rfl (fun _ _ h => .inl h)
        fun _ _ hnode => hcovered.counted hnode

theorem covered_of_run (hrun : Run schedulerSystem LeasesLast .empty c) : Covered c.now := by
  induction hrun with
  | refl =>
      constructor
      · intro jobId row hrow
        cases hrow
      · intro pid jobId row input lease hleased
        cases hleased
      · intro nodeId node hnode
        cases hnode
  | tail hrun hstep ih => exact ih.step hrun hstep

theorem placedOn_le_heldOn {m : SchedulerMoment} (hcovered : Covered m)
    (hruns : RunsUnique m.state) (nodeId : JsString) :
    placedOn m.state nodeId ≤ heldOn m.state nodeId := by
  rw [placedOn, heldOn, List.countP_eq_length_filter, List.countP_eq_length_filter]
  have hnodup : ((m.state.jobs.rows.filter fun row =>
      decide (row.state ∈ [.starting, .running]) && decide (row.nodeId = some nodeId)).map
      fun row => row.runId).Nodup := by
    apply List.Nodup.map_on
    · intro row hrow row' hrow' hrun
      have hmem := (List.mem_filter.mp hrow).1
      have hmem' := (List.mem_filter.mp hrow').1
      have hid := hruns (Sql.Table.get_of_mem hmem) (Sql.Table.get_of_mem hmem') hrun
      exact Sql.Table.eq_of_key_eq hmem hmem' hid
    · exact m.state.jobs.nodup.of_map.filter _
  have hsub : ((m.state.jobs.rows.filter fun row =>
      decide (row.state ∈ [.starting, .running]) && decide (row.nodeId = some nodeId)).map
      fun row => row.runId) ⊆ (m.state.leases.filter fun lease =>
        decide (lease.status = .active) && decide (lease.nodeId = nodeId)).map LeaseRow.runId := by
    intro runId hmem
    obtain ⟨row, hrow, rfl⟩ := List.mem_map.mp hmem
    simp only [List.mem_filter, Bool.and_eq_true, decide_eq_true_eq, List.mem_cons,
      List.not_mem_nil, or_false] at hrow
    obtain ⟨hrow, hstate, hnode⟩ := hrow
    have hplaced : row.state.placed := by
      rcases hstate with h | h
      · exact .inl h
      · exact .inr (.inl h)
    obtain ⟨held, hheld, lease, hlease, hactive, hleaseRun, hleaseNode⟩ :=
      hcovered.placed (Sql.Table.get_of_mem hrow) hplaced
    obtain rfl := Option.some.inj (hnode.symm.trans hheld)
    refine List.mem_map.mpr ⟨lease, List.mem_filter.mpr ⟨hlease, ?_⟩, hleaseRun⟩
    simp [hactive, hleaseNode]
  have hle := List.Nodup.length_le_of_subset hnodup hsub
  rwa [List.length_map, List.length_map] at hle

/-- Work that runs is counted in every run whose steps all let the leases last. -/
theorem capacityCounts_of_leasesLast {cond : SchedulerCondition}
    (hlast : ∀ m attempt, cond m attempt → LeasesLast m attempt) : CapacityCounts cond := by
  intro c hrun
  have hcovered := covered_of_run (hrun.mono hlast)
  constructor
  · intro jobId row hrow hrunning
    obtain ⟨nodeId, -, hholds⟩ := hcovered.placed hrow (.inr (.inl hrunning))
    exact hholds.activeLease
  · intro nodeId node hnode
    exact (placedOn_le_heldOn hcovered (sound_of_run hrun).inv.runs nodeId).trans
      (hcovered.counted hnode)

theorem capacityCounts_leasesLast : CapacityCounts LeasesLast :=
  capacityCounts_of_leasesLast fun _ _ hlast => hlast

end Runs

def lateOutside : Outside :=
  { sampleOutside with
    clock := 40000
    inspected := some sampleOutside.started }

def secondScope : JobScope :=
  { sampleScope with
    id := js "job-2"
    runId := js "run-2" }

/-- A job is started; its lease lapses and it is reconciled as running; then a second job is
started on the same node. -/
def overfullSchedule : List (Action TickCall Outside SchedulerChange) :=
  [.change (.admitJob sampleScope), .change (.admitJob secondScope),
    .change (.registerNode sampleNode), .spawn (sampleTick "first")] ++
  List.replicate 12 (.perform 0 sampleOutside) ++ [.spawn (sampleTick "second")] ++
  List.replicate 4 (.perform 1 lateOutside) ++ [.spawn (sampleTick "third")] ++
  List.replicate 7 (.perform 2 lateOutside)

theorem not_capacityCounts : ¬ CapacityCounts fun _ _ => True := by
  intro hclaim
  have hview : (execute schedulerSystem (Config.initial .empty) overfullSchedule).map
      (fun c => (placedOn c.now.state (js "node"),
        (c.now.state.nodes.get (js "node")).map NodeRow.maxConcurrentRuns)) =
      some (2, some 1) := by
    decide +kernel
  obtain ⟨c, hc, hview⟩ := Option.map_eq_some_iff.mp hview
  obtain ⟨hplaced, hnode⟩ := Prod.mk.inj hview
  obtain ⟨node, hnode, hmax⟩ := Option.map_eq_some_iff.mp hnode
  have hbounded := (hclaim (reached_of_execute hc)).bounded hnode
  omega

end DevHarness.Scheduler
