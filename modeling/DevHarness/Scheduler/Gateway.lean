import DevHarness.Scheduler.Repository
import DevHarness.Text.Patterns

/-!
# The execution gateway

`AutoDevCliExecutionGateway`: how the output of a process becomes the status of an
external execution, for a run that has ended and for a run that is asked about.
-/

namespace DevHarness.Scheduler

open JsText

/-- The first pattern of `redact`: `bearer\s+` and eight or more units of a token, which
are replaced. -/
def bearerToken (s : JsString) : Option (JsString × ℕ) :=
  (splitWord (js "bearer") s).bind fun (word, rest) =>
    let space := rest.takeWhile isWhiteSpace
    let token := (rest.dropWhile isWhiteSpace).takeWhile fun u =>
      isLetterOrDigit u || u ∈ js "-._~+/"
    if space = [] ∨ token.length < 8 then none
    else some (word ++ space ++ js "[REDACTED]", word.length + space.length + token.length)

/-- The second pattern of `redact`: a name of a secret, a sign and a value, which is
replaced. -/
def assignedSecret (s : JsString) : Option (JsString × ℕ) :=
  let names := ["token", "secret", "password", "apikey", "api_key", "api-key"]
  (names.findSome? fun name => splitWord (js name) s).bind fun (name, rest) =>
    let space := rest.takeWhile isWhiteSpace
    match rest.dropWhile isWhiteSpace with
    | [] => none
    | sign :: rest =>
      let space' := rest.takeWhile isWhiteSpace
      let value := (rest.dropWhile isWhiteSpace).takeWhile fun u =>
        !isWhiteSpace u && u ∉ js ",;"
      if sign ∉ js "=:" ∨ value = [] then none
      else
        let kept := name ++ space ++ [sign] ++ space'
        some (kept ++ js "[REDACTED]", kept.length + value.length)

def redact (value : JsString) (secrets : List JsString) : JsString :=
  let result := (secrets.filter fun item => item ≠ []).foldl
    (fun result secret => replaceAll (constant secret (js "[REDACTED]")) 0 result) value
  replaceAll assignedSecret 0 (replaceAll bearerToken 0 result)

/-! ## Statuses -/

def succeededWords : List JsString :=
  ["done", "completed", "succeeded", "loop_complete"].map js

def failedWords : List JsString :=
  ["failed", "error", "blocked", "system_error"].map js

def cancelledWords : List JsString :=
  ["cancelled", "canceled", "stopped"].map js

def startingWords : List JsString :=
  ["created", "starting"].map js

def externalState (platform : Platform) (value : JsString) : ExternalExecutionState :=
  let status := platform.toLowerCase value
  if status ∈ succeededWords then .succeeded
  else if status ∈ failedWords then .failed
  else if status ∈ cancelledWords then .cancelled
  else if status ∈ startingWords then .starting
  else if status ≠ [] then .running
  else .unknown

/-- `ProcessResult`; a process that was killed has no code of its own and exits with 1. -/
structure ProcessResult where
  exitCode : ℤ
  stdout : JsString
  stderr : JsString
  timedOut : Bool

/-- A `TypeError`: of a property of `null`, or of an object that has no text. -/
def typeError : Thrown := .error (js "TypeError")

def malformedOutput : Thrown :=
  .error (js "AutoDev returned malformed machine-readable output")

/-- `payload[name] ?? fallback`. -/
def readOr (payload : Json) (name : String) (fallback : JsString) : Except Thrown Json :=
  match payload with
  | .null => .error typeError
  | _ =>
    match payload.get (js name) with
    | none => .ok (.string fallback)
    | some .null => .ok (.string fallback)
    | some value => .ok value

/-- `String(value)`. -/
def textOf (value : Json) : Except Thrown JsString :=
  match value.toText with
  | some text => .ok text
  | none => .error typeError

/-- `JSON.parse(result.stdout)`; an unreadable output counts as an empty object when the
process has failed. -/
def payloadOf (platform : Platform) (result : ProcessResult) : Except Thrown Json :=
  match platform.parse result.stdout with
  | some payload => .ok payload
  | none => if result.exitCode = 0 then .error malformedOutput else .ok (.object [])

def defaultStatus (exitCode : ℤ) : JsString :=
  if exitCode = 0 then js "running" else js "failed"

def parseStatus (platform : Platform) (externalRunId : JsString) (result : ProcessResult)
    (secretValues : List JsString) : Except Thrown ExternalExecutionStatus := do
  let payload ← payloadOf platform result
  let status ← readOr payload "status" (defaultStatus result.exitCode) >>= textOf
  let message ← readOr payload "message" result.stderr >>= textOf
  let phase ← readOr payload "phase" status >>= textOf
  pure
    { externalRunId := externalRunId
      state := if result.timedOut then .failed else externalState platform status
      phase := phase
      message := some (redact message secretValues) }

/-- What `launchProcess` keeps of a process that has closed: what its output says, unless
the evidence could not be captured or the workspace not be cleaned up. -/
def completedStatus (platform : Platform) (externalRunId : JsString) (result : ProcessResult)
    (captured : Except Thrown Unit) (cleaned : Bool) (secrets : List JsString) :
    ExternalExecutionStatus :=
  if cleaned = false then
    { externalRunId := externalRunId
      state := .failed
      phase := js "cleanup"
      message := some (js "Execution workspace cleanup failed") }
  else
    match captured >>= fun _ => parseStatus platform externalRunId result secrets with
    | .ok status => status
    | .error thrown =>
      let message :=
        match thrown with
        | .error message => message
        | .other => js "Execution evidence failed"
      { externalRunId := externalRunId
        state := .failed
        phase := js "evidence"
        message := some (redact message secrets) }

/-- What `start` answers for a process that a custom runner has run to its end. -/
def startedStatus (platform : Platform) (externalRunId : JsString) (result : ProcessResult)
    (captured : Except Thrown Unit) (cleaned : Bool) (secrets : List JsString) :
    Except Thrown ExternalExecutionStatus :=
  if cleaned = false then .error (.error (js "Execution workspace cleanup failed"))
  else captured >>= fun _ => parseStatus platform externalRunId result secrets

/-- `IDENTIFIER_PATTERN`. -/
def isIdentifier : JsString → Bool
  | [] => false
  | u :: rest => isLetterOrDigit u && rest.length ≤ 127 &&
      rest.all fun v => isLetterOrDigit v || v ∈ js "_.-"

/-- `/not found|no AutoDev runs/i` on the error output of a failed command. -/
def answersNotFound (result : ProcessResult) : Bool :=
  result.exitCode ≠ 0 ∧
    (hasWord (js "not found") result.stderr ∨ hasWord (js "no autodev runs") result.stderr)

/-- A gateway: whether its runner enforces a network boundary, and the statuses of the
runs that it has seen to their end. -/
structure AutoDevCliExecutionGateway where
  enforcesNetwork : Bool
  completed : JsString → Option ExternalExecutionStatus

def AutoDevCliExecutionGateway.asks (gateway : AutoDevCliExecutionGateway)
    (externalRunId : JsString) : Prop :=
  isIdentifier externalRunId = true ∧ gateway.completed externalRunId = none ∧
    gateway.enforcesNetwork = true

/-- `inspect`, where the status command ends with `result`. -/
def AutoDevCliExecutionGateway.inspect (gateway : AutoDevCliExecutionGateway)
    (platform : Platform) (externalRunId : JsString) (result : ProcessResult) :
    Except Thrown (Option ExternalExecutionStatus) :=
  if isIdentifier externalRunId = false then
    .error (.error (js "External run id is invalid"))
  else
    match gateway.completed externalRunId with
    | some status => .ok (some status)
    | none =>
      if gateway.enforcesNetwork = false then
        .error (.error (js "A network enforcement boundary is required"))
      else if answersNotFound result then .ok none
      else (parseStatus platform externalRunId result []).map some

/-! ## What the output says -/

/-- The text of a field: `String(payload[name] ?? fallback)`. -/
def fieldText (payload : Json) (name : String) (fallback : JsString) : JsString :=
  match payload.get (js name) with
  | none => fallback
  | some .null => fallback
  | some value => value.toText.getD []

/-- A payload from which `parseStatus` cannot make texts: `null`, or a field with an object
that has none. -/
def Unreadable (payload : Json) : Prop :=
  payload = .null ∨ ∃ name ∈ ["status", "message", "phase"], ∃ value,
    payload.get (js name) = some value ∧ value.toText = none

def statusWord (payload : Json) (exitCode : ℤ) : JsString :=
  fieldText payload "status" (defaultStatus exitCode)

variable {α β : Type} {f : α → Except Thrown β} {payload : Json} {platform : Platform}

theorem ok_bind {a : α} : (Except.ok a : Except Thrown α) >>= f = f a := rfl

theorem error_bind {thrown : Thrown} :
    (Except.error thrown : Except Thrown α) >>= f = .error thrown := rfl

section Fields

variable {name : String}

theorem textOf_readOr (fallback : JsString) (hpayload : payload ≠ .null)
    (htext : ∀ value, payload.get (js name) = some value → value.toText ≠ none) :
    readOr payload name fallback >>= textOf = .ok (fieldText payload name fallback) := by
  have hread : readOr payload name fallback = match payload.get (js name) with
      | none => .ok (.string fallback)
      | some .null => .ok (.string fallback)
      | some value => .ok value := by
    cases payload with
    | null => exact absurd rfl hpayload
    | _ => rfl
  rw [hread]
  unfold fieldText
  split
  · simp [textOf, bind, Except.bind]
  · simp [textOf, bind, Except.bind]
  · next value hvalue hget =>
    obtain ⟨text, hsome⟩ := Option.ne_none_iff_exists'.mp (htext value hget)
    simp [textOf, bind, Except.bind, hsome]

theorem textOf_readOr_error {value : Json} {fallback : JsString} (hget : payload.get (js name) = some value)
    (htext : value.toText = none) :
    readOr payload name fallback >>= textOf = .error typeError := by
  have hread : readOr payload name fallback = .ok value := by
    unfold readOr
    cases payload with
    | object properties =>
        simp only [hget]
        cases value with
        | null => simp [Json.toText] at htext
        | _ => rfl
    | _ => cases hget
  simp [hread, textOf, bind, Except.bind, htext]

theorem textOf_readOr_cases (payload : Json) (name : String) (fallback : JsString) :
    readOr payload name fallback >>= textOf = .ok (fieldText payload name fallback) ∨
      readOr payload name fallback >>= textOf = .error typeError := by
  by_cases hpayload : payload = .null
  · right
    rw [hpayload]
    rfl
  · by_cases htext : ∀ value, payload.get (js name) = some value → value.toText ≠ none
    · exact .inl (textOf_readOr fallback hpayload htext)
    · push Not at htext
      obtain ⟨value, hget, hnone⟩ := htext
      exact .inr (textOf_readOr_error hget hnone)

end Fields

section ParseStatus

variable {externalRunId : JsString} {result : ProcessResult} {secrets : List JsString}

theorem payloadOf_of_parse (hparse : platform.parse result.stdout = some payload) :
    payloadOf platform result = .ok payload := by
  simp [payloadOf, hparse]

theorem payloadOf_of_failed (hparse : platform.parse result.stdout = none)
    (hexit : result.exitCode ≠ 0) : payloadOf platform result = .ok (.object []) := by
  simp [payloadOf, hparse, hexit]

theorem not_unreadable_empty : ¬ Unreadable (.object []) := by
  rintro (hnull | ⟨name, -, value, hget, -⟩)
  · cases hnull
  · cases hget

theorem statusWord_empty {exitCode : ℤ} (hexit : exitCode ≠ 0) :
    statusWord (.object []) exitCode = js "failed" := by
  change defaultStatus exitCode = js "failed"
  rw [defaultStatus, if_neg hexit]

theorem parseStatus_of_readable (hpayloadOf : payloadOf platform result = .ok payload)
    (hreadable : ¬ Unreadable payload) :
    parseStatus platform externalRunId result secrets = .ok
      { externalRunId := externalRunId
        state := if result.timedOut then .failed
          else externalState platform (statusWord payload result.exitCode)
        phase := fieldText payload "phase" (statusWord payload result.exitCode)
        message := some (redact (fieldText payload "message" result.stderr) secrets) } := by
  have hpayload : payload ≠ .null := fun hnull => hreadable (.inl hnull)
  have htext : ∀ name ∈ ["status", "message", "phase"], ∀ value,
      payload.get (js name) = some value → value.toText ≠ none := by
    intro name hname value hget hnone
    exact hreadable (.inr ⟨name, hname, value, hget, hnone⟩)
  have hstatus := textOf_readOr (defaultStatus result.exitCode) hpayload (htext "status" (by simp))
  have hmessage := textOf_readOr result.stderr hpayload (htext "message" (by simp))
  have hphase := textOf_readOr (statusWord payload result.exitCode) hpayload
    (htext "phase" (by simp))
  unfold parseStatus
  rw [hpayloadOf, ok_bind, hstatus, ok_bind, hmessage, ok_bind, ← statusWord, hphase, ok_bind]
  rfl

theorem parseStatus_of_unreadable (hpayloadOf : payloadOf platform result = .ok payload)
    (hunreadable : Unreadable payload) :
    parseStatus platform externalRunId result secrets = .error typeError := by
  unfold parseStatus
  rw [hpayloadOf, ok_bind]
  rcases hunreadable with rfl | ⟨name, hname, value, hget, hnone⟩
  · rfl
  · have hstatus : name = "status" → readOr payload "status" (defaultStatus result.exitCode) >>=
        textOf = .error typeError := by
      rintro rfl
      exact textOf_readOr_error hget hnone
    have hmessage : name = "message" → readOr payload "message" result.stderr >>= textOf =
        .error typeError := by
      rintro rfl
      exact textOf_readOr_error hget hnone
    have hphase : name = "phase" → ∀ fallback, readOr payload "phase" fallback >>= textOf =
        .error typeError := by
      rintro rfl fallback
      exact textOf_readOr_error hget hnone
    rcases textOf_readOr_cases payload "status" (defaultStatus result.exitCode) with hok | herror
    · rw [hok, ok_bind]
      rcases textOf_readOr_cases payload "message" result.stderr with hok' | herror'
      · rw [hok', ok_bind, hphase, error_bind]
        simp only [List.mem_cons, List.not_mem_nil, or_false] at hname
        rcases hname with rfl | rfl | rfl
        · rw [hstatus rfl] at hok
          cases hok
        · rw [hmessage rfl] at hok'
          cases hok'
        · rfl
      · rw [herror', error_bind]
    · rw [herror, error_bind]

end ParseStatus

variable {word : JsString}

theorem toLowerCase_word (h : ∀ u ∈ word, u = 0x5F ∨ (0x61 ≤ u ∧ u ≤ 0x7A)) :
    platform.toLowerCase word = word :=
  platform.toLowerCase_of_lower word h

theorem externalState_failed : externalState platform (js "failed") = .failed := by
  unfold externalState
  rw [toLowerCase_word (by decide)]
  decide

theorem terminal_externalState_iff : (mappedState (externalState platform word)).terminal = true ↔
    platform.toLowerCase word ∈ succeededWords ++ failedWords ++ cancelledWords ∨
      platform.toLowerCase word = [] := by
  unfold externalState
  simp only [List.mem_append]
  by_cases hsucceeded : platform.toLowerCase word ∈ succeededWords
  · simp [hsucceeded, mappedState, SchedulerJobState.terminal]
  · by_cases hfailed : platform.toLowerCase word ∈ failedWords
    · simp [hsucceeded, hfailed, mappedState, SchedulerJobState.terminal]
    · by_cases hcancelled : platform.toLowerCase word ∈ cancelledWords
      · simp [hsucceeded, hfailed, hcancelled, mappedState, SchedulerJobState.terminal]
      · by_cases hstarting : platform.toLowerCase word ∈ startingWords
        · have hne : platform.toLowerCase word ≠ [] := by
            intro hnil
            rw [hnil] at hstarting
            revert hstarting
            decide
          simp [hsucceeded, hfailed, hcancelled, hstarting, hne, mappedState,
            SchedulerJobState.terminal]
        · by_cases hnil : platform.toLowerCase word = []
          · rw [hnil]
            decide
          · simp [hsucceeded, hfailed, hcancelled, hstarting, hnil, mappedState,
              SchedulerJobState.terminal]

end DevHarness.Scheduler
