import DevHarness.Interleave.Exchange
import DevHarness.Scheduler.Gateway
import DevHarness.Scheduler.Stranded

/-!
# Inspections that fail

`inspect` reads the output of the status command as if it were the output of the run:
a command that fails or is cut off is read as a failed run, and the job is settled and
loses its lease.  A job is left to be reconciled again exactly where the output makes
`parseStatus` throw or names a run in progress.
-/

namespace DevHarness.Scheduler

open JsText Interleave Program

variable {platform : Platform} {gateway : AutoDevCliExecutionGateway} {result : ProcessResult}
  {store store' : SchedulerStore} {job : SchedulerJob} {row : JobRow} {now : ℕ}
  {externalRunId : JsString} {external : ExternalExecutionStatus}
  {answer : Except Thrown SchedulerJob}

/-- The calls of a supervisor whose status command ends with `result`. -/
def execInspecting (platform : Platform) (gateway : AutoDevCliExecutionGateway)
    (result : ProcessResult) (outside : Outside) (command : SchedulerCommand)
    (store : SchedulerStore) : Option (Except Thrown command.Answer × SchedulerStore) :=
  match command with
  | .inspect externalRunId => some (gateway.inspect platform externalRunId result, store)
  | command => some (execScheduler outside command store)

def calm : Outside where
  failure := none
  clock := 0
  started := SchedulerStore.unavailable
  inspected := none

def isFinal (platform : Platform) (word : JsString) : Bool :=
  platform.toLowerCase word ∈ succeededWords ++ failedWords ++ cancelledWords ∨
    platform.toLowerCase word = []

/-- An output of the status command that does not settle a job: `parseStatus` throws, or
it came in time and names a status of a run in progress. -/
inductive Inconclusive (platform : Platform) (result : ProcessResult) : Prop
  | malformed (hparse : platform.parse result.stdout = none) (hexit : result.exitCode = 0)
  | unreadable (payload : Json) (hparse : platform.parse result.stdout = some payload)
      (hunreadable : Unreadable payload)
  | inProgress (payload : Json) (hparse : platform.parse result.stdout = some payload)
      (htimely : result.timedOut = false)
      (hword : isFinal platform (statusWord payload result.exitCode) = false)

/-- A job is left to be reconciled again: no lease is released, the job is not over, and
from its deadline on it is returned again at the latest. -/
structure LeftToReconcile (store store' : SchedulerStore) (jobId : JsString) : Prop where
  leases : store'.leases = store.leases
  live : ∃ row, store'.jobs.get jobId = some row ∧ row.state.terminal = false ∧
    ∀ later, row.deadlineAt ≤ later → Listed store' later jobId

/-! ## What a status makes of a job -/

section

variable (hrow : store.jobs.get job.id = some row)
  (hstate : row.state ∈ [.starting, .running, .reconciling])

include hrow hstate

theorem leftToReconcile_self : LeftToReconcile store store job.id := by
  have hlive : row.state.terminal = false := by
    revert hstate
    cases row.state <;> decide
  refine ⟨rfl, row, hrow, hlive, fun later hlater => ?_⟩
  rw [listed_iff_of_get hrow hlive hlater]
  exact .inr (.inr (.inr hstate))

theorem leftToReconcile_of_observed (hexternal : (mappedState external.state).terminal = false)
    (hexec : store.reconcileExternal job.id (some external) now = (answer, store')) :
    LeftToReconcile store store' job.id := by
  unfold SchedulerStore.reconcileExternal SchedulerStore.commitExternalState at hexec
  rcases SchedulerStore.changeJob_cases hexec with ⟨-, rfl⟩ | ⟨found, hfound, -, -, rfl⟩
  · exact leftToReconcile_self hrow hstate
  · have hobserved : (found.observe external now).state = mappedState external.state := rfl
    have hrunning : mappedState external.state = .running := by
      revert hexternal
      cases external.state <;> decide
    rw [Option.getD_some, hobserved, if_neg (by simp [hexternal])]
    have hget : ((store.updateJob job.id (fun row => row.observe external now)
        fun row => row.scope_observe external now).runFollows
        (found.observe external now) now).jobs.get job.id =
          some (found.observe external now) := by
      rw [SchedulerStore.jobs_runFollows, SchedulerStore.get_updateJob_self hfound]
    have hlive : (found.observe external now).state.terminal = false := by
      rw [hobserved, hexternal]
    refine ⟨by simp, _, hget, hlive, fun later hlater => ?_⟩
    rw [listed_iff_of_get hget hlive hlater, hobserved, hrunning]
    exact .inr (.inr (.inr (by decide)))

end

theorem not_leftToReconcile_of_observed (hrow : store.jobs.get job.id = some row)
    (hlive : row.state.terminal = false)
    (hexternal : (mappedState external.state).terminal = true)
    (hexec : store.reconcileExternal job.id (some external) now = (answer, store')) :
    ¬ LeftToReconcile store store' job.id := by
  rintro ⟨-, found, hfound, hnotOver, -⟩
  rcases SchedulerStore.commitExternalState_cases hexec with
    ⟨⟨thrown, herror⟩, -⟩ | ⟨row', hrow', -, -, hjobs, -⟩
  · unfold SchedulerStore.reconcileExternal SchedulerStore.commitExternalState
      SchedulerStore.changeJob at hexec
    simp only [hrow, hlive, Bool.not_false, if_true, herror] at hexec
    cases (Prod.mk.inj hexec).1
  · rw [hjobs, SchedulerStore.get_updateJob_self hrow'] at hfound
    obtain rfl := Option.some.inj hfound
    have hobserved : (row'.observe external now).state = mappedState external.state := rfl
    rw [Option.getD_some, hobserved, hexternal] at hnotOver
    cases hnotOver

theorem terminal_eq_false_iff {word : JsString} :
    (mappedState (externalState platform word)).terminal = false ↔
      isFinal platform word = false := by
  rw [← Bool.not_eq_true, ← Bool.not_eq_true, terminal_externalState_iff, isFinal,
    decide_eq_true_eq]

section

variable (hasks : gateway.asks externalRunId) (hfound : answersNotFound result = false)

include hasks hfound

theorem inspect_of_asks :
    gateway.inspect platform externalRunId result =
      (parseStatus platform externalRunId result []).map some := by
  obtain ⟨hidentifier, hcompleted, hnetwork⟩ := hasks
  simp [AutoDevCliExecutionGateway.inspect, hidentifier, hcompleted, hnetwork, hfound]

/-- An inspection throws, or answers a status that is not final, exactly on an
inconclusive output. -/
theorem inspect_inconclusive_iff :
    Inconclusive platform result ↔
      (∃ thrown, gateway.inspect platform externalRunId result = .error thrown) ∨
      ∃ external, gateway.inspect platform externalRunId result = .ok (some external) ∧
        (mappedState external.state).terminal = false := by
  rw [inspect_of_asks hasks hfound]
  rcases hparse : platform.parse result.stdout with _ | payload
  · by_cases hexit : result.exitCode = 0
    · have hthrows : parseStatus platform externalRunId result [] = .error malformedOutput := by
        simp [parseStatus, payloadOf, hparse, hexit, error_bind]
      rw [hthrows]
      exact ⟨fun _ => .inl ⟨_, rfl⟩, fun _ => .malformed hparse hexit⟩
    · rw [parseStatus_of_readable (payloadOf_of_failed hparse hexit) not_unreadable_empty,
        statusWord_empty hexit, externalState_failed]
      constructor
      · rintro (⟨-, hzero⟩ | ⟨payload, hsome, -⟩ | ⟨payload, hsome, -, -⟩)
        · exact absurd hzero hexit
        · rw [hparse] at hsome
          cases hsome
        · rw [hparse] at hsome
          cases hsome
      · rintro (⟨thrown, herror⟩ | ⟨external, hok, hlive⟩)
        · cases herror
        · obtain rfl := Option.some.inj (Except.ok.inj hok)
          simp [mappedState, SchedulerJobState.terminal] at hlive
  · by_cases hunreadable : Unreadable payload
    · rw [parseStatus_of_unreadable (payloadOf_of_parse hparse) hunreadable]
      exact ⟨fun _ => .inl ⟨_, rfl⟩, fun _ => .unreadable payload hparse hunreadable⟩
    · rw [parseStatus_of_readable (payloadOf_of_parse hparse) hunreadable]
      constructor
      · rintro (⟨hnone, -⟩ | ⟨payload', hsome, hnot⟩ | ⟨payload', hsome, htimely, hword⟩)
        · rw [hparse] at hnone
          cases hnone
        · obtain rfl := Option.some.inj (hparse.symm.trans hsome)
          exact absurd hnot hunreadable
        · obtain rfl := Option.some.inj (hparse.symm.trans hsome)
          refine .inr ⟨_, rfl, ?_⟩
          rw [htimely, if_neg Bool.false_ne_true]
          exact terminal_eq_false_iff.mpr hword
      · rintro (⟨thrown, herror⟩ | ⟨external, hok, hlive⟩)
        · cases herror
        · obtain rfl := Option.some.inj (Except.ok.inj hok)
          have htimely : result.timedOut = false := by
            by_contra hlate
            rw [Bool.not_eq_false] at hlate
            rw [hlate, if_pos rfl] at hlive
            cases hlive
          rw [htimely, if_neg Bool.false_ne_true] at hlive
          exact .inProgress payload hparse htimely (terminal_eq_false_iff.mp hlive)

end

theorem reconcile_eq (hstop : job.stopRequested = false) (hdeadline : now < job.deadlineAt)
    (hexternal : job.externalRunId = some externalRunId) :
    reconcile now job = await (.inspect externalRunId) >>= fun external =>
      await (.reconcileExternal job.id external now) >>= fun _ => pure () := by
  unfold reconcile inspectExternal
  rw [hstop, hexternal]
  simp only [Bool.false_eq_true, if_false, if_neg (Nat.not_le.mpr hdeadline)]

/-- A job whose run is found to be over is not left to be reconciled: nothing need fail
after the inspection. -/
theorem exists_alone_of_inspected (job : SchedulerJob) (hrow : store.jobs.get job.id = some row)
    (hlive : row.state.terminal = false) (hstop : job.stopRequested = false)
    (hdeadline : now < job.deadlineAt) (hexternal : job.externalRunId = some externalRunId)
    (hinspect : gateway.inspect platform externalRunId result = .ok (some external))
    (hfinal : (mappedState external.state).terminal = true) :
    ∃ answer store', Alone (execInspecting platform gateway result) (reconcile now job) store
      answer store' ∧ ¬ LeftToReconcile store store' job.id := by
  rcases hexec : store.reconcileExternal job.id (some external) now with ⟨answer, store'⟩
  refine ⟨answer.map fun _ => (), store', ?_,
    not_leftToReconcile_of_observed hrow hlive hfinal hexec⟩
  rw [reconcile_eq hstop hdeadline hexternal]
  refine alone_request_bind_iff.mpr ⟨calm, .ok (some external), store, ?_, ?_⟩
  · simp [execInspecting, hinspect]
  · refine alone_request_bind_iff.mpr ⟨calm, answer, store', ?_, ?_⟩
    · simp [execInspecting, execScheduler, calm, hexec]
    · cases answer with
      | ok settled => exact .done _ _
      | error thrown => exact ⟨rfl, rfl⟩

/-- An inspection leaves the job to be reconciled again exactly where the output of the
status command is inconclusive. -/
theorem leftToReconcile_iff_inconclusive (hrow : store.jobs.get job.id = some row)
    (hstate : row.state ∈ [.starting, .running, .reconciling])
    (hstop : job.stopRequested = false) (hdeadline : now < job.deadlineAt)
    (hexternal : job.externalRunId = some externalRunId)
    (hasks : gateway.asks externalRunId) (hfound : answersNotFound result = false) :
    (∀ answer store', Alone (execInspecting platform gateway result) (reconcile now job) store
        answer store' → LeftToReconcile store store' job.id) ↔
      Inconclusive platform result := by
  have hlive : row.state.terminal = false := by
    revert hstate
    cases row.state <;> decide
  rw [inspect_inconclusive_iff hasks hfound]
  constructor
  · intro hleft
    rcases hparse : parseStatus platform externalRunId result [] with thrown | external
    · left
      rw [inspect_of_asks hasks hfound, hparse]
      exact ⟨thrown, rfl⟩
    · have hinspect : gateway.inspect platform externalRunId result = .ok (some external) := by
        rw [inspect_of_asks hasks hfound, hparse]
        rfl
      refine .inr ⟨external, hinspect, ?_⟩
      by_contra hfinal
      rw [Bool.not_eq_false] at hfinal
      obtain ⟨answer, store', halone, hnot⟩ :=
        exists_alone_of_inspected job hrow hlive hstop hdeadline hexternal hinspect hfinal
      exact hnot (hleft answer store' halone)
  · intro hinspect answer store' halone
    rw [reconcile_eq hstop hdeadline hexternal] at halone
    obtain ⟨outside, inspected, store₁, hexec, hrest⟩ := alone_request_bind_iff.mp halone
    obtain ⟨hanswer, rfl⟩ := Prod.mk.inj (Option.some.inj hexec)
    rcases hinspect with ⟨thrown, herror⟩ | ⟨external, hok, hnotFinal⟩
    · rw [herror] at hanswer
      subst hanswer
      obtain ⟨-, rfl⟩ := hrest
      exact leftToReconcile_self hrow hstate
    · rw [hok] at hanswer
      subst hanswer
      obtain ⟨outside', committed, store₂, hexec', hrest'⟩ := alone_request_bind_iff.mp hrest
      have hstore : store' = store₂ := by
        cases committed with
        | ok settled => exact (alone_done_iff.mp hrest').2
        | error thrown => exact hrest'.2
      rw [hstore]
      have hcommit := Option.some.inj hexec'
      unfold execScheduler at hcommit
      split at hcommit
      · obtain ⟨-, rfl⟩ := Prod.mk.inj hcommit
        exact leftToReconcile_self hrow hstate
      · exact leftToReconcile_of_observed hrow hstate hnotFinal hcommit

/-! ## A status command that fails -/

/-- A platform whose `JSON.parse` knows the empty object only. -/
def samplePlatform : Platform where
  parse := fun s => if s = js "\x7b\x7d" then some (.object []) else none
  toLowerCase := fun s => s.map foldCase
  toLowerCase_of_lower := fun _ hs => map_foldCase_of_lower hs

def sampleGateway : AutoDevCliExecutionGateway where
  enforcesNetwork := true
  completed := fun _ => none

def launchedSchedule : List (Action TickCall Outside SchedulerChange) :=
  [.change (.admitJob sampleScope), .change (.registerNode sampleNode),
    .spawn (sampleTick "first")] ++ List.replicate 12 (.perform 0 sampleOutside)

/-- What decides whether a tick asks for the status of a job. -/
structure AskView where
  id : JsString
  state : SchedulerJobState
  externalRunId : Option JsString
  deadlineAt : ℕ
  stopped : Bool
  deriving DecidableEq

def askView (store : SchedulerStore) (row : JobRow) : AskView where
  id := row.id
  state := row.state
  externalRunId := row.externalRunId
  deadlineAt := row.deadlineAt
  stopped := store.stopRequested row.projectId

theorem exists_launchedJob : ∃ c row, Reached schedulerSystem .empty c ∧
    c.now.state.jobs.get (js "job") = some row ∧
    askView c.now.state row = ⟨js "job", .running, some (js "cp-run-a1"), 100000, false⟩ := by
  have hrun : (execute schedulerSystem (Config.initial .empty) launchedSchedule).map
      (fun c => (c.now.state.jobs.get (js "job")).map (askView c.now.state)) =
      some (some ⟨js "job", .running, some (js "cp-run-a1"), 100000, false⟩) := by
    decide +kernel
  obtain ⟨c, hc, hobserved⟩ := Option.map_eq_some_iff.mp hrun
  obtain ⟨row, hrow, hview⟩ := Option.map_eq_some_iff.mp hobserved
  exact ⟨c, row, reached_of_execute hc, hrow, hview⟩

def failedCommand : ProcessResult where
  exitCode := 1
  stdout := []
  stderr := []
  timedOut := false

/-- A job is settled because the status command has failed. -/
theorem not_leftToReconcile : ¬ ∀ (platform : Platform) (gateway : AutoDevCliExecutionGateway)
    (result : ProcessResult) (c : SchedulerConfig) (row : JobRow) (job : SchedulerJob)
    (externalRunId : JsString) (now : ℕ), Reached schedulerSystem .empty c →
    c.now.state.jobs.get job.id = some row → row.state ∈ [.starting, .running, .reconciling] →
    job = { row with stopRequested := c.now.state.stopRequested row.projectId } →
    job.stopRequested = false → now < job.deadlineAt → job.externalRunId = some externalRunId →
    gateway.asks externalRunId → answersNotFound result = false → result.exitCode ≠ 0 →
    ∀ answer store', Alone (execInspecting platform gateway result) (reconcile now job)
      c.now.state answer store' → LeftToReconcile c.now.state store' job.id := by
  intro hleft
  obtain ⟨c, row, hreached, hrow, hview⟩ := exists_launchedJob
  have hid : row.id = js "job" := congrArg AskView.id hview
  have hstate : row.state = .running := congrArg AskView.state hview
  have hexternal : row.externalRunId = some (js "cp-run-a1") :=
    congrArg AskView.externalRunId hview
  have hdeadline : row.deadlineAt = 100000 := congrArg AskView.deadlineAt hview
  have hstop : c.now.state.stopRequested row.projectId = false := congrArg AskView.stopped hview
  have hasks : sampleGateway.asks (js "cp-run-a1") := ⟨by decide, rfl, rfl⟩
  have hfound : answersNotFound failedCommand = false := by decide
  have hlive : row.state.terminal = false := by
    rw [hstate]
    rfl
  have hbefore : 2000 < row.deadlineAt := by
    rw [hdeadline]
    decide
  rw [← hid] at hrow
  have hinspect : ∃ external,
      sampleGateway.inspect samplePlatform (js "cp-run-a1") failedCommand = .ok (some external) ∧
        (mappedState external.state).terminal = true := by
    refine ⟨_, inspect_of_asks hasks hfound, ?_⟩
    decide
  obtain ⟨external, hinspect, hfinal⟩ := hinspect
  obtain ⟨answer, store', halone, hnot⟩ :=
    exists_alone_of_inspected { row with stopRequested := false } hrow hlive rfl hbefore
      hexternal hinspect hfinal
  refine hnot (hleft samplePlatform sampleGateway failedCommand c row
    { row with stopRequested := false } (js "cp-run-a1") 2000 hreached hrow (by simp [hstate])
    ?_ rfl hbefore hexternal hasks hfound (by decide) answer store' halone)
  rw [hstop]

/-- A status command that exits with 0 and whose output is cut off. -/
def truncatedCommand : ProcessResult where
  exitCode := 0
  stdout := js "\x7b"
  stderr := []
  timedOut := false

theorem leftToReconcile_iff_inconclusive_truncated : ∃ c row, Reached schedulerSystem .empty c ∧
    c.now.state.jobs.get (js "job") = some row ∧
    ∀ answer store', Alone (execInspecting samplePlatform sampleGateway truncatedCommand)
        (reconcile 2000 { row with stopRequested := false }) c.now.state answer store' →
      LeftToReconcile c.now.state store' row.id := by
  obtain ⟨c, row, hreached, hrow, hview⟩ := exists_launchedJob
  have hid : row.id = js "job" := congrArg AskView.id hview
  have hstate : row.state = .running := congrArg AskView.state hview
  have hexternal : row.externalRunId = some (js "cp-run-a1") :=
    congrArg AskView.externalRunId hview
  have hdeadline : row.deadlineAt = 100000 := congrArg AskView.deadlineAt hview
  have hbefore : 2000 < row.deadlineAt := by
    rw [hdeadline]
    decide
  have hrow' : c.now.state.jobs.get row.id = some row := by
    rw [hid]
    exact hrow
  refine ⟨c, row, hreached, hrow, ?_⟩
  exact Iff.mpr (leftToReconcile_iff_inconclusive hrow' (by simp [hstate]) rfl hbefore hexternal
    ⟨by decide, rfl, rfl⟩ (by decide)) (.malformed rfl rfl)

end DevHarness.Scheduler
