import DevHarness.Scheduler.Gateway

/-!
# Runs that have ended

What a gateway says of a run whose process has exited.  A status that is none of the
gateway's words counts as a run in progress, and most of the statuses of a run that has
failed are none of them.
-/

namespace DevHarness.Scheduler

open JsText

/-! ## The controller -/

/-- `ControllerResult`: what `run_one` returns. -/
structure ControllerResult where
  ok : Bool
  status : JsString
  message : JsString
  runId : JsString
  taskId : JsString
  promptPath : JsString

/-- `to_dict`, printed with sorted keys. -/
def ControllerResult.toDict (result : ControllerResult) : Json :=
  .object
    [(js "message", .string result.message), (js "ok", .bool result.ok),
      (js "prompt_path", .string result.promptPath), (js "run_id", .string result.runId),
      (js "status", .string result.status), (js "task_id", .string result.taskId)]

/-- How a call of the queue ends; `raised` has the type of the exception and its text. -/
inductive QueueAnswer
  | ok
  | refused (status message : JsString)
  | raised (error : JsString)

/-- `first or second`, for texts. -/
def orElse (first second : JsString) : JsString :=
  if first = [] then second else first

/-- A way out of `run_one`: what it returns, and the status that the run is marked with. -/
structure ControllerExit where
  result : ControllerResult
  marked : JsString

def ControllerExit.failure (status message runId taskId : JsString) : ControllerExit where
  result :=
    { ok := false
      status := status
      message := message
      runId := runId
      taskId := taskId
      promptPath := [] }
  marked := status

/-- `_fail`; `blocking` is the answer of the queue where the task is to be blocked. -/
def fail (status message runId taskId : JsString) (blocking : Option QueueAnswer) :
    ControllerExit :=
  match blocking with
  | none => .failure status message runId taskId
  | some .ok => .failure status message runId taskId
  | some (.refused answered reason) =>
    .failure (js "system_error") (message ++ js "; queue block/finalize failed (" ++
      orElse reason answered ++ js "); explicit manual reconcile required") runId taskId
  | some (.raised error) =>
    .failure (js "system_error") (message ++ js "; queue block/finalize raised " ++ error ++
      js "; explicit manual reconcile required") runId taskId

/-- `_ClaimLifecycle.settle_message`; `blocking` is the answer of the queue unless the
claim was finalized. -/
def settleMessage (detail runId taskId : JsString) (blocking : Option QueueAnswer) :
    ControllerExit :=
  let blockError :=
    match blocking with
    | some (.refused answered reason) => orElse reason answered
    | some (.raised error) => error
    | _ => []
  let settlement :=
    if blockError = [] then []
    else js "; queue settlement failed (" ++ blockError ++
      js "); explicit manual reconcile required"
  .failure (js "system_error") (js "claimed task lifecycle failed: " ++ detail ++ settlement)
    runId taskId

/-- `_release_claim_failure`: `release` is the answer of the queue where there is a claim,
and `blocking` its answer after a release that fails; `run_one` settles what is raised. -/
def releaseClaimFailure (status message runId taskId : JsString) (release : Option QueueAnswer)
    (blocking : QueueAnswer) : ControllerExit :=
  match release with
  | none => fail status message runId [] none
  | some .ok => .failure status message runId taskId
  | some (.refused answered reason) =>
    settleMessage (js "queue release failed (" ++ answered ++ js "): " ++
      orElse reason message) runId taskId (some blocking)
  | some (.raised error) => settleMessage error runId taskId (some blocking)

/-- A way out of a run that has failed: the record has the status of the result. -/
structure ControllerExit.Failed (exit : ControllerExit) : Prop where
  ok : exit.result.ok = false
  marked : exit.marked = exit.result.status

theorem failed_fail (status message runId taskId : JsString) (blocking : Option QueueAnswer) :
    (fail status message runId taskId blocking).Failed := by
  unfold fail
  split <;> exact ⟨rfl, rfl⟩

theorem failed_releaseClaimFailure (status message runId taskId : JsString)
    (release : Option QueueAnswer) (blocking : QueueAnswer) :
    (releaseClaimFailure status message runId taskId release blocking).Failed := by
  unfold releaseClaimFailure
  split
  · exact failed_fail _ _ _ _ _
  · exact ⟨rfl, rfl⟩
  · exact ⟨rfl, rfl⟩
  · exact ⟨rfl, rfl⟩

/-- `status_summary`, printed with sorted keys; the rest of the record is as it is. -/
def statusSummary (runId projectId status updatedAt nextAction : JsString)
    (currentTask summary : Json) : Json :=
  .object
    [(js "current_task", currentTask), (js "next_action", .string nextAction),
      (js "project_id", .string projectId), (js "run_id", .string runId),
      (js "status", .string status), (js "summary", summary),
      (js "updated_at", .string updatedAt)]

/-! ## Endings -/

variable {platform : Platform} {word : JsString}

/-- The end of a run: what `run_one` has returned, unless it raised or was killed, what the
process has written, and the status in the record of the run.  What is on the standard
output, where it is JSON at all, is the result. -/
structure RunEnding (platform : Platform) where
  result : Option ControllerResult
  output : ProcessResult
  printed : platform.parse output.stdout = none ∨
    ∃ controlled, result = some controlled ∧
      platform.parse output.stdout = some controlled.toDict
  recorded : JsString

/-- The run has ended ok with status done. -/
def RunEnding.Done (ending : RunEnding platform) : Prop :=
  ∃ result, ending.result = some result ∧ result.ok = true ∧ result.status = js "done"

/-- The run is reported as one that has ended, and as a success if it is done. -/
def Finished (ending : RunEnding platform) (status : ExternalExecutionStatus) : Prop :=
  status.state ∈ [.succeeded, .failed, .cancelled] ∧
    (status.state = .succeeded ↔ ending.Done)

def Reports (ending : RunEnding platform) (report : ProcessResult) : Prop :=
  report.exitCode = 0 ∧ report.timedOut = false ∧
    ∃ runId projectId updatedAt nextAction currentTask summary,
      platform.parse report.stdout = some (statusSummary runId projectId ending.recorded
        updatedAt nextAction currentTask summary)

inductive StatusSource
  | process
  | inspection

/-- The statuses that a gateway produces once the process has exited, the evidence has been
captured and the workspace cleaned up. -/
inductive Produced (ending : RunEnding platform) (externalRunId : JsString)
    (secrets : List JsString) : StatusSource → ExternalExecutionStatus → Prop
  | completed : Produced ending externalRunId secrets .process
      (completedStatus platform externalRunId ending.output (.ok ()) true secrets)
  | started {status} (hstarted : startedStatus platform externalRunId ending.output (.ok ()) true
      secrets = .ok status) : Produced ending externalRunId secrets .process status
  | remembered {gateway : AutoDevCliExecutionGateway} {report status}
      (hknown : gateway.completed externalRunId =
        some (completedStatus platform externalRunId ending.output (.ok ()) true secrets))
      (hinspect : gateway.inspect platform externalRunId report = .ok (some status)) :
      Produced ending externalRunId secrets .process status
  | inspected {gateway : AutoDevCliExecutionGateway} {report status}
      (hasks : gateway.asks externalRunId) (hreports : Reports ending report)
      (hinspect : gateway.inspect platform externalRunId report = .ok (some status)) :
      Produced ending externalRunId secrets .inspection status

def endsRun (platform : Platform) (word : JsString) : Prop :=
  platform.toLowerCase word ∈ failedWords ++ cancelledWords

inductive Classified (ending : RunEnding platform) : StatusSource → Prop
  | done {result} (hdone : ending.Done) (htimely : ending.output.timedOut = false)
      (hprinted : platform.parse ending.output.stdout = some result) :
      Classified ending .process
  | silent (hnot : ¬ ending.Done) (hsilent : platform.parse ending.output.stdout = none) :
      Classified ending .process
  | late (hnot : ¬ ending.Done) (hlate : ending.output.timedOut = true) :
      Classified ending .process
  | failure {result} (hnot : ¬ ending.Done) (hresult : ending.result = some result)
      (hword : endsRun platform result.status) : Classified ending .process
  | recordedDone (hdone : ending.Done)
      (hword : platform.toLowerCase ending.recorded ∈ succeededWords) :
      Classified ending .inspection
  | recordedFailure (hnot : ¬ ending.Done) (hword : endsRun platform ending.recorded) :
      Classified ending .inspection

/-! ## States -/

theorem externalState_eq_succeeded_iff :
    externalState platform word = .succeeded ↔ platform.toLowerCase word ∈ succeededWords := by
  unfold externalState
  by_cases hsucceeded : platform.toLowerCase word ∈ succeededWords
  · simp [hsucceeded]
  · simp only [hsucceeded, if_false, iff_false]
    split_ifs <;> nofun

theorem externalState_ended_iff :
    externalState platform word ∈ [ExternalExecutionState.failed, .cancelled] ↔
      endsRun platform word := by
  have hdisjoint : ∀ text ∈ failedWords ++ cancelledWords, text ∉ succeededWords := by decide
  unfold externalState endsRun
  by_cases hends : platform.toLowerCase word ∈ failedWords ++ cancelledWords
  · have hsucceeded := hdisjoint _ hends
    simp only [hends, iff_true, hsucceeded, if_false]
    by_cases hfailed : platform.toLowerCase word ∈ failedWords
    · simp [hfailed]
    · have hcancelled : platform.toLowerCase word ∈ cancelledWords :=
        (List.mem_append.mp hends).resolve_left hfailed
      simp [hfailed, hcancelled]
  · simp only [List.mem_append, not_or] at hends
    simp only [hends.1, hends.2, List.mem_append, or_self, if_false, iff_false]
    split_ifs <;> simp

variable {ending : RunEnding platform} {externalRunId : JsString} {secrets : List JsString}
  {status : ExternalExecutionStatus} {source : StatusSource}

theorem Produced.eq_completed (h : Produced ending externalRunId secrets .process status) :
    status = completedStatus platform externalRunId ending.output (.ok ()) true secrets := by
  cases h with
  | completed => rfl
  | started hstarted =>
      have hparse : parseStatus platform externalRunId ending.output secrets = .ok status :=
        hstarted
      simp [completedStatus, ok_bind, hparse]
  | remembered hknown hinspect =>
      unfold AutoDevCliExecutionGateway.inspect at hinspect
      rw [hknown] at hinspect
      split at hinspect
      · cases hinspect
      · exact (Option.some.inj (Except.ok.inj hinspect)).symm

theorem Produced.state_of_silent (h : Produced ending externalRunId secrets .process status)
    (hsilent : platform.parse ending.output.stdout = none) : status.state = .failed := by
  rw [h.eq_completed]
  by_cases hexit : ending.output.exitCode = 0
  · have hthrows : parseStatus platform externalRunId ending.output secrets =
        .error malformedOutput := by
      simp [parseStatus, payloadOf, hsilent, hexit, error_bind]
    simp [completedStatus, ok_bind, hthrows]
  · have hread : parseStatus platform externalRunId ending.output secrets = _ :=
      parseStatus_of_readable (payloadOf_of_failed hsilent hexit) not_unreadable_empty
    rw [statusWord_empty hexit, externalState_failed, ite_self] at hread
    simp [completedStatus, ok_bind, hread]

theorem not_unreadable_toDict (result : ControllerResult) : ¬ Unreadable result.toDict := by
  rintro (hnull | ⟨name, hname, value, hget, hnone⟩)
  · cases hnull
  · simp only [List.mem_cons, List.not_mem_nil, or_false] at hname
    rcases hname with rfl | rfl | rfl
    · obtain rfl : Json.string result.status = value := Option.some.inj hget
      simp at hnone
    · obtain rfl : Json.string result.message = value := Option.some.inj hget
      simp at hnone
    · cases hget

/-- A run that has printed its result is reported by the status of the result, unless it
was killed. -/
theorem Produced.state_of_printed {result : ControllerResult}
    (h : Produced ending externalRunId secrets .process status)
    (hprinted : platform.parse ending.output.stdout = some result.toDict) :
    status.state = if ending.output.timedOut then .failed
      else externalState platform result.status := by
  have hword : statusWord result.toDict ending.output.exitCode = result.status := by
    have hget : result.toDict.get (js "status") = some (.string result.status) := rfl
    simp [statusWord, fieldText, hget]
  have hread : parseStatus platform externalRunId ending.output secrets = _ :=
    parseStatus_of_readable (payloadOf_of_parse hprinted) (not_unreadable_toDict result)
  rw [hword] at hread
  rw [h.eq_completed]
  simp [completedStatus, ok_bind, hread]

theorem Produced.state_of_inspection
    (h : Produced ending externalRunId secrets .inspection status) :
    status.state = externalState platform ending.recorded := by
  cases h with
  | @inspected gateway report _ hasks hreports hinspect =>
      obtain ⟨hidentifier, hcompleted, hnetwork⟩ := hasks
      obtain ⟨hexit, htimely, runId, projectId, updatedAt, nextAction, currentTask, summary,
        hparse⟩ := hreports
      let payload := statusSummary runId projectId ending.recorded updatedAt nextAction
        currentTask summary
      have hstatus : payload.get (js "status") = some (.string ending.recorded) := rfl
      have hreadable : ¬ Unreadable payload := by
        rintro (hnull | ⟨name, hname, value, hget, hnone⟩)
        · exact Json.noConfusion hnull
        · simp only [List.mem_cons, List.not_mem_nil, or_false] at hname
          rcases hname with rfl | rfl | rfl
          · obtain rfl := Option.some.inj (hstatus.symm.trans hget)
            simp at hnone
          · cases hget
          · cases hget
      have hword : statusWord payload report.exitCode = ending.recorded := by
        simp [statusWord, fieldText, hstatus]
      have hfound : answersNotFound report = false := by
        simp [answersNotFound, hexit]
      simp only [AutoDevCliExecutionGateway.inspect, hidentifier, hcompleted, hnetwork, hfound,
        parseStatus_of_readable (payloadOf_of_parse hparse) hreadable, htimely] at hinspect
      obtain rfl := Option.some.inj (Except.ok.inj hinspect)
      exact congrArg (externalState platform) hword

/-! ## Reports -/

/-- A state and a status of the run agree exactly on what the word of the status says. -/
theorem finished_iff_of_state (hstate : status.state = externalState platform word) :
    Finished ending status ↔
      (ending.Done ∧ platform.toLowerCase word ∈ succeededWords) ∨
        (¬ ending.Done ∧ endsRun platform word) := by
  unfold Finished
  rw [hstate, externalState_eq_succeeded_iff, ← externalState_ended_iff]
  have hsplit : externalState platform word ∈
        [ExternalExecutionState.succeeded, .failed, .cancelled] ↔
      platform.toLowerCase word ∈ succeededWords ∨
        externalState platform word ∈ [ExternalExecutionState.failed, .cancelled] := by
    rw [← externalState_eq_succeeded_iff, List.mem_cons]
  have hnotBoth : platform.toLowerCase word ∈ succeededWords →
      externalState platform word ∉ [ExternalExecutionState.failed, .cancelled] := by
    rw [← externalState_eq_succeeded_iff]
    intro hsucceeded
    rw [hsucceeded]
    decide
  rw [hsplit]
  tauto

theorem finished_iff_of_failed (hstate : status.state = .failed) :
    Finished ending status ↔ ¬ ending.Done := by
  unfold Finished
  simp [hstate]

/-- A failure that is printed in time is reported as one exactly by its status, be it by the
process or by an inspection. -/
theorem finished_iff_of_failed_exit {exit : ControllerExit} (hexit : exit.Failed)
    (hresult : ending.result = some exit.result) (hrecorded : ending.recorded = exit.marked)
    (hprinted : platform.parse ending.output.stdout = some exit.result.toDict)
    (htimely : ending.output.timedOut = false)
    (hproduced : Produced ending externalRunId secrets source status) :
    Finished ending status ↔ endsRun platform exit.result.status := by
  have hnot : ¬ ending.Done := by
    rintro ⟨result, hresult', hok, -⟩
    obtain rfl := Option.some.inj (hresult.symm.trans hresult')
    rw [hexit.ok] at hok
    cases hok
  have hstate : status.state = externalState platform exit.result.status := by
    cases source with
    | process => simpa [htimely] using hproduced.state_of_printed hprinted
    | inspection => rw [hproduced.state_of_inspection, hrecorded, hexit.marked]
  rw [finished_iff_of_state hstate]
  simp [hnot]

/-- The statuses of a run that has ended say so, and how, exactly where the ending is
classified. -/
theorem finished_iff_classified (hproduced : Produced ending externalRunId secrets source status) :
    Finished ending status ↔ Classified ending source := by
  cases source with
  | inspection =>
      rw [finished_iff_of_state hproduced.state_of_inspection]
      constructor
      · rintro (⟨hdone, hword⟩ | ⟨hnot, hword⟩)
        · exact .recordedDone hdone hword
        · exact .recordedFailure hnot hword
      · rintro (_ | _ | _ | _ | ⟨hdone, hword⟩ | ⟨hnot, hword⟩)
        · exact .inl ⟨hdone, hword⟩
        · exact .inr ⟨hnot, hword⟩
  | process =>
      rcases ending.printed with hsilent | ⟨result, hresult, hprinted⟩
      · rw [finished_iff_of_failed (hproduced.state_of_silent hsilent)]
        constructor
        · intro hnot
          exact .silent hnot hsilent
        · rintro (⟨-, -, hprinted⟩ | ⟨hnot, -⟩ | ⟨hnot, -⟩ | ⟨hnot, -, -⟩)
          · rw [hsilent] at hprinted
            cases hprinted
          · exact hnot
          · exact hnot
          · exact hnot
      · have hstate := hproduced.state_of_printed hprinted
        by_cases hlate : ending.output.timedOut = true
        · rw [if_pos hlate] at hstate
          rw [finished_iff_of_failed hstate]
          constructor
          · intro hnot
            exact .late hnot hlate
          · rintro (⟨-, htimely, -⟩ | ⟨hnot, -⟩ | ⟨hnot, -⟩ | ⟨hnot, -, -⟩)
            · rw [hlate] at htimely
              cases htimely
            · exact hnot
            · exact hnot
            · exact hnot
        · rw [if_neg hlate] at hstate
          rw [finished_iff_of_state hstate]
          constructor
          · rintro (⟨hdone, -⟩ | ⟨hnot, hword⟩)
            · exact .done hdone (Bool.eq_false_iff.mpr hlate) hprinted
            · exact .failure hnot hresult hword
          · rintro (⟨hdone, -, -⟩ | ⟨-, hsilent⟩ | ⟨-, hlate'⟩ | ⟨hnot, hresult', hword⟩)
            · left
              obtain ⟨result', hresult', -, hstatus⟩ := id hdone
              obtain rfl := Option.some.inj (hresult.symm.trans hresult')
              refine ⟨hdone, ?_⟩
              rw [hstatus, toLowerCase_word (by decide)]
              decide
            · rw [hprinted] at hsilent
              cases hsilent
            · exact absurd hlate' hlate
            · obtain rfl := Option.some.inj (hresult.symm.trans hresult')
              exact .inr ⟨hnot, hword⟩

/-! ## A run whose verification fails -/

/-- `json.dumps` with an indent of two, for texts that need no escapes. -/
def ControllerResult.dumps (result : ControllerResult) : JsString :=
  js "\x7b\n  \"message\": \"" ++ result.message ++
  js "\",\n  \"ok\": " ++ js (toString result.ok) ++
  js ",\n  \"prompt_path\": \"" ++ result.promptPath ++
  js "\",\n  \"run_id\": \"" ++ result.runId ++
  js "\",\n  \"status\": \"" ++ result.status ++
  js "\",\n  \"task_id\": \"" ++ result.taskId ++ js "\"\n\x7d\n"

/-- A platform whose `JSON.parse` knows one result. -/
def platformOf (result : ControllerResult) : Platform where
  parse := fun s => if s = result.dumps then some result.toDict else none
  toLowerCase := fun s => s.map foldCase
  toLowerCase_of_lower := fun _ hs => map_foldCase_of_lower hs

theorem parse_dumps (result : ControllerResult) :
    (platformOf result).parse result.dumps = some result.toDict := by
  simp only [platformOf, if_true]

/-- The end of a `run-one` that returns `result`, as `main` reports it. -/
def endingOf (result : ControllerResult) (marked : JsString) :
    RunEnding (platformOf result) where
  result := some result
  output :=
    { exitCode := if result.ok then 0 else 1
      stdout := result.dumps
      stderr := []
      timedOut := false }
  printed := .inr ⟨result, rfl, parse_dumps result⟩
  recorded := marked

def verifyFailed : ControllerExit :=
  fail (js "verify_failed") (js "verify failed; summary=None") (js "cp-run-a1") (js "task")
    (some .ok)

/-- A run whose verification has failed is reported as running. -/
theorem not_finished : ¬ ∀ (platform : Platform) (ending : RunEnding platform)
    (externalRunId : JsString) (secrets : List JsString) (source : StatusSource)
    (status : ExternalExecutionStatus), Produced ending externalRunId secrets source status →
    Finished ending status := by
  intro hall
  have hcompleted : Produced (endingOf verifyFailed.result verifyFailed.marked)
      (js "cp-run-a1") [] .process _ := .completed
  have hstate := hcompleted.state_of_printed (parse_dumps verifyFailed.result)
  have hrunning : externalState (platformOf verifyFailed.result) verifyFailed.result.status =
      .running := by
    decide
  obtain ⟨hended, -⟩ := hall _ _ _ _ _ _ hcompleted
  rw [hstate, hrunning] at hended
  simp [endingOf] at hended

def doneResult : ControllerResult where
  ok := true
  status := js "done"
  message := js "builder done; verify passed"
  runId := js "cp-run-a1"
  taskId := js "task"
  promptPath := []

theorem finished_iff_classified_done :
    Finished (endingOf doneResult (js "done"))
      (completedStatus (platformOf doneResult) (js "cp-run-a1")
        (endingOf doneResult (js "done")).output (.ok ()) true []) := by
  have hdone : (endingOf doneResult (js "done")).Done := ⟨doneResult, rfl, rfl, rfl⟩
  exact (finished_iff_classified .completed).mpr (.done hdone rfl (parse_dumps doneResult))

end DevHarness.Scheduler
