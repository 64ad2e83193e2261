import DevHarness.Clarifications.Model
import DevHarness.Interleave.Outline

/-!
# The clarification history service

`generate` and `answer` as routines that suspend at every await.  Both read the timeline
of the goal, and later append what they have made of it; what happens in between is up
to the others.
-/

namespace DevHarness.Clarifications

open JsText ControlPlane Interleave Program

structure Identity where
  scope : GoalScope
  actorId : JsString

structure GenerateClarificationsCommand extends Identity where
  expectedGoalVersion : ℕ
  reason : JsString

structure AnswerClarificationCommand extends Identity where
  threadId : JsString
  expectedQuestionRevision : ℕ
  expectedGoalVersion : ℕ
  answer : JsString
  reason : JsString

inductive Permission
  | goalRead
  | goalWrite

/-! ## Commands -/

inductive ClarificationCommand
  | authorize (identity : Identity) (permission : Permission)
  | getGoal (scope : GoalScope)
  | getTimeline (scope : GoalScope)
  | plan (goal : GoalContract)
  | clock
  | idGenerator
  | appendRound (input : AppendClarificationRound)
  | appendAnswer (input : AppendClarificationAnswer)

def ClarificationCommand.Answer : ClarificationCommand → Type
  | .authorize _ _ => Unit
  | .getGoal _ => Option GoalContract
  | .getTimeline _ => ClarificationTimeline
  | .plan _ => ClarificationDraft
  | .clock => ℤ
  | .idGenerator => JsString
  | .appendRound _ => ClarificationGenerationReceipt
  | .appendAnswer _ => ClarificationAnswerReceipt

/-- How an await fails: before anything has happened, or after what it does was done. -/
inductive Failure
  | refused (error : Thrown)
  | unanswered (error : Thrown)

/-- What does not depend on the store. -/
structure Outside where
  failure : Option Failure
  draft : ClarificationDraft
  clock : ℤ
  id : JsString

def perform (outside : Outside) : (command : ClarificationCommand) → ClarificationStore →
    Except Thrown command.Answer × ClarificationStore
  | .authorize _ _, store => (.ok (), store)
  | .getGoal scope, store => (.ok (store.goals scope), store)
  | .getTimeline scope, store => (.ok (store.getTimeline scope), store)
  | .plan _, store => (.ok outside.draft, store)
  | .clock, store => (.ok outside.clock, store)
  | .idGenerator, store => (.ok outside.id, store)
  | .appendRound input, store =>
    store.commit ⟨input.round, input.questions⟩ (store.appendRound input)
  | .appendAnswer input, store =>
    store.commit ⟨input.question, input.decision⟩ (store.appendAnswer input)

def execClarification (outside : Outside) (command : ClarificationCommand)
    (store : ClarificationStore) : Except Thrown command.Answer × ClarificationStore :=
  match outside.failure with
  | none => perform outside command store
  | some (.refused error) => (.error error, store)
  | some (.unanswered error) => (.error error, (perform outside command store).2)

abbrev ClarificationProgram :=
  Program ClarificationCommand ClarificationCommand.Answer Thrown

abbrev await (command : ClarificationCommand) : ClarificationProgram command.Answer :=
  request command

/-! ## Routines -/

def text (value : JsString) (name : String) (maximum : ℕ) :
    ClarificationProgram JsString :=
  if (trim value).length < 1 ∨ maximum < value.length then
    throw (clarificationValidationError (js name ++ js " is required and bounded"))
  else pure (trim value)

def positive (value : ℕ) (name : String) : ClarificationProgram Unit :=
  if value < 1 then
    throw (clarificationValidationError (js name ++ js " must be a positive integer"))
  else pure ()

/-- `if (!ok) throw error`. -/
def check (ok : Bool) (error : Thrown) : ClarificationProgram Unit :=
  if ok then pure () else throw error

def goalOf (scope : GoalScope) : ClarificationProgram GoalContract := do
  let goal ← await (.getGoal scope)
  match goal with
  | some goal => pure goal
  | none => throw clarificationNotFound

/-- The round after `previous`. -/
def nextRound (command : GenerateClarificationsCommand) (goal : GoalContract)
    (planned : ClarificationDraft) (previous : Option ClarificationRound) (reason : JsString)
    (createdAt : ℤ) (id : JsString) : ClarificationRound where
  scope := command.scope
  id := id
  roundNumber := (previous.map (·.roundNumber)).getD 0 + 1
  previousRoundId := previous.map (·.id)
  regeneratedFromRoundId := previous.map (·.id)
  sourceGoalVersion := goal.version
  plannerRunId := planned.plannerRunId
  knownFacts := planned.knownFacts
  uncertainties := planned.uncertainties
  actorId := command.actorId
  reason := reason
  createdAt := createdAt

def openQuestion (round : ClarificationRound) (question : PlannerClarificationQuestion)
    (id threadId : JsString) : ClarificationQuestionRevision where
  scope := round.scope
  id := id
  plannerQuestionId := question.id
  prompt := question.prompt
  rationale := question.rationale
  blockingLevel := question.blockingLevel
  answerType := question.answerType
  suggestedOptions := question.suggestedOptions
  roundId := round.id
  threadId := threadId
  revision := 1
  previousClarificationId := none
  status := .opened
  answer := none
  sourceGoalVersion := round.sourceGoalVersion
  actorId := round.actorId
  reason := round.reason
  createdAt := round.createdAt

def newQuestion (round : ClarificationRound) (question : PlannerClarificationQuestion) :
    ClarificationProgram ClarificationQuestionRevision := do
  let id ← await .idGenerator
  let threadId ← await .idGenerator
  pure (openQuestion round question id threadId)

def generate (command : GenerateClarificationsCommand) :
    ClarificationProgram ClarificationGenerationReceipt := do
  let _ ← await (.authorize command.toIdentity .goalWrite)
  positive command.expectedGoalVersion "expectedGoalVersion"
  let reason ← text command.reason "reason" 4000
  let goal ← goalOf command.scope
  check (goal.version = command.expectedGoalVersion) versionConflict
  let before ← await (.getTimeline command.scope)
  let previous := before.rounds.getLast?
  let planned ← await (.plan goal)
  check (planned.sourceGoalVersion = goal.version ∧ planned.goalId = goal.id)
    clarificationExpired
  let createdAt ← await .clock
  let id ← await .idGenerator
  let round := nextRound command goal planned previous reason createdAt id
  let questions ← forEach (newQuestion round) planned.questions
  await (.appendRound
    { expectedGoalVersion := goal.version
      expectedPreviousRoundId := previous.map (·.id)
      round := round
      questions := questions })

/-- The revision that answers `current`. -/
def answerRevision (command : AnswerClarificationCommand)
    (current : ClarificationQuestionRevision) (answer reason : JsString) (createdAt : ℤ)
    (id : JsString) : ClarificationQuestionRevision :=
  { current with
    id := id
    revision := current.revision + 1
    previousClarificationId := some current.id
    status := .answered
    answer := some answer
    actorId := command.actorId
    reason := reason
    createdAt := createdAt }

/-- The decision on `question` after `prior`. -/
def answerDecision (command : AnswerClarificationCommand)
    (question : ClarificationQuestionRevision) (prior : Option HumanDecision)
    (answer reason : JsString) (createdAt : ℤ) (id : JsString) : HumanDecision where
  scope := command.scope
  id := id
  decisionKey := command.threadId
  revision := (prior.map (·.revision)).getD 0 + 1
  previousDecisionId := prior.map (·.id)
  subjectId := question.id
  subjectVersion := question.revision
  outcome := answer
  actorId := command.actorId
  reason := reason
  createdAt := createdAt

/-- What answers `current` in the version of `goal`. -/
def answerInput (command : AnswerClarificationCommand) (goal : GoalContract)
    (current : ClarificationQuestionRevision) (prior : Option HumanDecision)
    (answer reason : JsString) (createdAt : ℤ) (id decisionId : JsString) :
    AppendClarificationAnswer :=
  let question := answerRevision command current answer reason createdAt id
  { expectedGoalVersion := goal.version
    expectedQuestionRevision := current.revision
    expectedQuestionId := current.id
    question := question
    decision := answerDecision command question prior answer reason createdAt decisionId }

def ClarificationTimeline.current (timeline : ClarificationTimeline) (threadId : JsString) :
    Option ClarificationQuestionRevision :=
  (timeline.questions.filter fun question => question.threadId = threadId).getLast?

def ClarificationTimeline.priorDecision (timeline : ClarificationTimeline)
    (threadId : JsString) : Option HumanDecision :=
  (timeline.decisions.filter fun decision => decision.decisionKey = threadId).getLast?

def answerCurrent (command : AnswerClarificationCommand) (answer reason : JsString)
    (goal : GoalContract) (timeline : ClarificationTimeline)
    (current : ClarificationQuestionRevision) :
    ClarificationProgram ClarificationAnswerReceipt := do
  check (current.revision = command.expectedQuestionRevision) versionConflict
  check (some current.roundId = timeline.rounds.getLast?.map (·.id) ∧
    current.sourceGoalVersion = goal.version) clarificationExpired
  let createdAt ← await .clock
  let id ← await .idGenerator
  let prior := timeline.priorDecision command.threadId
  let decisionId ← await .idGenerator
  await (.appendAnswer
    (answerInput command goal current prior answer reason createdAt id decisionId))

def answer (command : AnswerClarificationCommand) :
    ClarificationProgram ClarificationAnswerReceipt := do
  let _ ← await (.authorize command.toIdentity .goalWrite)
  positive command.expectedQuestionRevision "expectedQuestionRevision"
  positive command.expectedGoalVersion "expectedGoalVersion"
  let answer ← text command.answer "answer" 10000
  let reason ← text command.reason "reason" 4000
  let goal ← goalOf command.scope
  check (goal.version = command.expectedGoalVersion) versionConflict
  let timeline ← await (.getTimeline command.scope)
  match timeline.current command.threadId with
  | none => throw clarificationNotFound
  | some current => answerCurrent command answer reason goal timeline current

/-! ## The system -/

inductive ClarificationCall
  | generate (command : GenerateClarificationsCommand)
  | answer (command : AnswerClarificationCommand)

def ClarificationCall.program : ClarificationCall → ClarificationProgram Unit
  | .generate command => do
    let _ ← Clarifications.generate command
    pure ()
  | .answer command => do
    let _ ← Clarifications.answer command
    pure ()

/-- A goal is created or updated. -/
structure GoalUpdate where
  scope : GoalScope
  goal : GoalContract

def GoalUpdate.apply (update : GoalUpdate) (store : ClarificationStore) : ClarificationStore :=
  { store with
    goals := fun scope => if scope = update.scope then some update.goal else store.goals scope }

def clarificationSystem : System ClarificationStore ClarificationCommand
    ClarificationCommand.Answer Thrown ClarificationCall Unit Outside GoalUpdate where
  program := ClarificationCall.program
  exec := fun outside command store => some (execClarification outside command store)
  environment := fun update store => some (update.apply store)

def ClarificationStore.ofGoals (goals : GoalScope → Option GoalContract) :
    ClarificationStore where
  goals := goals
  rounds := []
  questions := []
  decisions := []

abbrev ClarificationConfig := Config ClarificationStore ClarificationCommand
  ClarificationCommand.Answer Thrown ClarificationCall Unit GoalUpdate

abbrev ClarificationMoment := Moment ClarificationStore ClarificationCommand
  ClarificationCommand.Answer Thrown ClarificationCall Unit GoalUpdate

section Exec

variable {outside : Outside} {store store' : ClarificationStore}

theorem execClarification_cases {command : ClarificationCommand}
    {resp : Except Thrown command.Answer}
    (hexec : execClarification outside command store = (resp, store')) :
    store' = store ∨
      (∃ input, command = .appendRound input ∧ store.appendRound input = .ok store') ∨
      ∃ input, command = .appendAnswer input ∧ store.appendAnswer input = .ok store' := by
  have hcommit : ∀ {α : Type} (receipt : α) (outcome : Except Thrown ClarificationStore),
      (store.commit receipt outcome).2 = store ∨ outcome = .ok (store.commit receipt outcome).2 := by
    intro α receipt outcome
    cases outcome with
    | ok next => exact .inr rfl
    | error error => exact .inl rfl
  have hperform : (perform outside command store).2 = store ∨
      (∃ input, command = .appendRound input ∧
        store.appendRound input = .ok (perform outside command store).2) ∨
      ∃ input, command = .appendAnswer input ∧
        store.appendAnswer input = .ok (perform outside command store).2 := by
    cases command with
    | appendRound input =>
        rcases hcommit (⟨input.round, input.questions⟩ : ClarificationGenerationReceipt)
          (store.appendRound input) with h | h
        · exact .inl h
        · exact .inr (.inl ⟨input, rfl, h⟩)
    | appendAnswer input =>
        rcases hcommit (⟨input.question, input.decision⟩ : ClarificationAnswerReceipt)
          (store.appendAnswer input) with h | h
        · exact .inl h
        · exact .inr (.inr ⟨input, rfl, h⟩)
    | _ => exact .inl rfl
  unfold execClarification at hexec
  split at hexec
  · rw [hexec] at hperform
    exact hperform
  · exact .inl (Prod.mk.inj hexec).2.symm
  · rw [← (Prod.mk.inj hexec).2]
    exact hperform

end Exec

end DevHarness.Clarifications
