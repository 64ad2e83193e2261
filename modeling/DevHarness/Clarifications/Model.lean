import Mathlib.Data.List.Lex
import DevHarness.ControlPlane.Repository
import DevHarness.Sql.Chain

/-!
# Clarification rounds, questions and decisions

The append-only history of a goal's clarifications and its Postgres repository: the
timeline that is read, and the two transactions that append to it.  A question is a
thread of revisions, an open one and then the answers; every answer has a decision in a
thread of its own.
-/

namespace DevHarness.Clarifications

open JsText ControlPlane
open ControlStore (btrim)

inductive KnownFactBasis
  | goalContract
  | humanAnswer

structure PlannerKnownFact where
  id : JsString
  fact : JsString
  basis : KnownFactBasis

structure PlannerUncertainty where
  id : JsString
  statement : JsString
  impact : JsString

inductive BlockingLevel
  | blocker
  | high
  | medium
  | low

inductive AnswerType
  | singleChoice
  | multipleChoice
  | boolean
  | text
  | number

structure PlannerClarificationQuestion where
  id : JsString
  prompt : JsString
  rationale : JsString
  blockingLevel : BlockingLevel
  answerType : AnswerType
  suggestedOptions : List JsString

structure ClarificationDraft where
  plannerRunId : JsString
  goalId : JsString
  sourceGoalVersion : ℕ
  knownFacts : List PlannerKnownFact
  uncertainties : List PlannerUncertainty
  questions : List PlannerClarificationQuestion

structure ClarificationRound where
  scope : GoalScope
  id : JsString
  roundNumber : ℕ
  previousRoundId : Option JsString
  regeneratedFromRoundId : Option JsString
  sourceGoalVersion : ℕ
  plannerRunId : JsString
  knownFacts : List PlannerKnownFact
  uncertainties : List PlannerUncertainty
  actorId : JsString
  reason : JsString
  createdAt : ℤ

inductive QuestionStatus
  | opened
  | answered

structure ClarificationQuestionRevision where
  scope : GoalScope
  id : JsString
  plannerQuestionId : JsString
  prompt : JsString
  rationale : JsString
  blockingLevel : BlockingLevel
  answerType : AnswerType
  suggestedOptions : List JsString
  roundId : JsString
  threadId : JsString
  revision : ℕ
  previousClarificationId : Option JsString
  status : QuestionStatus
  answer : Option JsString
  sourceGoalVersion : ℕ
  actorId : JsString
  reason : JsString
  createdAt : ℤ

/-- A decision of the subject type `clarification`. -/
structure HumanDecision where
  scope : GoalScope
  id : JsString
  decisionKey : JsString
  revision : ℕ
  previousDecisionId : Option JsString
  subjectId : JsString
  subjectVersion : ℕ
  outcome : JsString
  actorId : JsString
  reason : JsString
  createdAt : ℤ

/-- The tables, each in the order in which its rows were inserted. -/
structure ClarificationStore where
  goals : GoalScope → Option GoalContract
  rounds : List ClarificationRound
  questions : List ClarificationQuestionRevision
  decisions : List HumanDecision

def roundNumbering : Sql.Numbering ClarificationRound JsString where
  number := ClarificationRound.roundNumber
  id := ClarificationRound.id
  previous := ClarificationRound.previousRoundId

def questionNumbering : Sql.Numbering ClarificationQuestionRevision JsString where
  number := ClarificationQuestionRevision.revision
  id := ClarificationQuestionRevision.id
  previous := ClarificationQuestionRevision.previousClarificationId

def decisionNumbering : Sql.Numbering HumanDecision JsString where
  number := HumanDecision.revision
  id := HumanDecision.id
  previous := HumanDecision.previousDecisionId

def clarificationValidationError (message : JsString) : Thrown where
  name := js "ClarificationValidationError"
  message := message

def clarificationNotFound : Thrown where
  name := js "ClarificationNotFoundError"
  message := js "Clarification was not found in the authorized scope"

def clarificationExpired : Thrown where
  name := js "ClarificationExpiredError"
  message := js "Clarification no longer belongs to the current Goal version or round"

def hasNoNul (value : JsString) : Bool :=
  decide (∀ u ∈ value, u ≠ 0)

/-- `char_length(btrim(value)) BETWEEN 1 AND maximum`, of a text that can be stored. -/
def storableText (maximum : ℕ) (value : JsString) : Bool :=
  hasNoNul value && decide (1 ≤ (codePoints (btrim value)).length) &&
    decide ((codePoints (btrim value)).length ≤ maximum)

/-- The checks on `clarification_rounds`. -/
def roundAllowed (round : ClarificationRound) : Bool :=
  decide (0 < round.sourceGoalVersion) && storableText 200 round.actorId &&
    storableText 4000 round.reason && hasNoNul round.plannerRunId &&
    (round.knownFacts.all fun known => hasNoNul known.id && hasNoNul known.fact) &&
    (round.uncertainties.all fun uncertainty =>
      hasNoNul uncertainty.id && hasNoNul uncertainty.statement &&
        hasNoNul uncertainty.impact) &&
    (decide (round.roundNumber = 1) && round.previousRoundId.isNone &&
        round.regeneratedFromRoundId.isNone ||
      decide (1 < round.roundNumber) && round.previousRoundId.isSome &&
        round.regeneratedFromRoundId.isSome)

/-- The checks on `clarifications`. -/
def questionAllowed (question : ClarificationQuestionRevision) : Bool :=
  decide (0 < question.sourceGoalVersion) &&
    (decide (question.revision = 1) && question.previousClarificationId.isNone ||
      decide (1 < question.revision) && question.previousClarificationId.isSome) &&
    storableText 4000 question.prompt &&
    (match question.status, question.answer with
      | .opened, none => true
      | .answered, some answer => storableText 10000 answer
      | _, _ => false) &&
    storableText 64 question.plannerQuestionId && storableText 4000 question.rationale &&
    question.suggestedOptions.all hasNoNul &&
    storableText 200 question.actorId && storableText 4000 question.reason

/-- The checks on `decisions`. -/
def decisionAllowed (decision : HumanDecision) : Bool :=
  decide (0 < decision.subjectVersion) &&
    (decide (decision.revision = 1) && decision.previousDecisionId.isNone ||
      decide (1 < decision.revision) && decision.previousDecisionId.isSome) &&
    storableText 4000 decision.outcome && storableText 200 decision.actorId &&
    storableText 4000 decision.reason

/-! ## Reading -/

structure ClarificationTimeline where
  rounds : List ClarificationRound
  questions : List ClarificationQuestionRevision
  decisions : List HumanDecision

/-- A `uuid` column is ordered by its digits. -/
def uuidOrder (id : JsString) : List ℕ :=
  id.map UInt16.toNat

/-- `ORDER BY created_at, thread_id, revision`. -/
def questionOrder : ClarificationQuestionRevision → ClarificationQuestionRevision → Bool :=
  Sql.thenBy ClarificationQuestionRevision.createdAt
    (Sql.thenBy (fun question => uuidOrder question.threadId)
      (Sql.byKey ClarificationQuestionRevision.revision))

/-- `ORDER BY created_at, decision_key, revision`. -/
def decisionOrder : HumanDecision → HumanDecision → Bool :=
  Sql.thenBy HumanDecision.createdAt
    (Sql.thenBy (fun decision => uuidOrder decision.decisionKey) (Sql.byKey HumanDecision.revision))

namespace ClarificationStore

variable (store : ClarificationStore)

def roundsOf (scope : GoalScope) : List ClarificationRound :=
  store.rounds.filter fun round => round.scope = scope

def questionsOf (scope : GoalScope) : List ClarificationQuestionRevision :=
  store.questions.filter fun question => question.scope = scope

def decisionsOf (scope : GoalScope) : List HumanDecision :=
  store.decisions.filter fun decision => decision.scope = scope

def threadOf (scope : GoalScope) (threadId : JsString) : List ClarificationQuestionRevision :=
  (store.questionsOf scope).filter fun question => question.threadId = threadId

def verdictsOf (scope : GoalScope) (decisionKey : JsString) : List HumanDecision :=
  (store.decisionsOf scope).filter fun decision => decision.decisionKey = decisionKey

def getTimeline (scope : GoalScope) : ClarificationTimeline where
  rounds := Sql.orderBy (Sql.ascending roundNumbering) (store.roundsOf scope)
  questions := Sql.orderBy questionOrder (store.questionsOf scope)
  decisions := Sql.orderBy decisionOrder (store.decisionsOf scope)

def goalVersion (scope : GoalScope) : Option ℕ :=
  (store.goals scope).map fun goal => goal.version

/-- `ORDER BY round_number DESC LIMIT 1`. -/
def latestRound (scope : GoalScope) : Option ClarificationRound :=
  Sql.first (Sql.descending roundNumbering) (store.roundsOf scope)

/-- `ORDER BY revision DESC LIMIT 1`. -/
def latestQuestion (scope : GoalScope) (threadId : JsString) :
    Option ClarificationQuestionRevision :=
  Sql.first (Sql.descending questionNumbering) (store.threadOf scope threadId)

/-! ## Appending -/

/-- `INSERT INTO clarification_rounds`, with its primary key and
`clarification_rounds_goal_number_uidx`. -/
def insertRound (round : ClarificationRound) : Except Thrown ClarificationStore :=
  if roundAllowed round = false then .error databaseError
  else if ∃ row ∈ store.rounds, row.id = round.id ∨
      row.scope = round.scope ∧ row.roundNumber = round.roundNumber then
    .error versionConflict
  else .ok { store with rounds := store.rounds ++ [round] }

/-- `INSERT INTO clarifications`, with its primary key and
`clarifications_goal_thread_revision_uidx`. -/
def insertQuestion (question : ClarificationQuestionRevision) :
    Except Thrown ClarificationStore :=
  if questionAllowed question = false then .error databaseError
  else if ∃ row ∈ store.questions, row.id = question.id ∨
      row.scope = question.scope ∧ row.threadId = question.threadId ∧
        row.revision = question.revision then
    .error versionConflict
  else .ok { store with questions := store.questions ++ [question] }

/-- `INSERT INTO decisions`, with its primary key and
`decisions_goal_key_revision_uidx`. -/
def insertDecision (decision : HumanDecision) : Except Thrown ClarificationStore :=
  if decisionAllowed decision = false then .error databaseError
  else if ∃ row ∈ store.decisions, row.id = decision.id ∨
      row.scope = decision.scope ∧ row.decisionKey = decision.decisionKey ∧
        row.revision = decision.revision then
    .error versionConflict
  else .ok { store with decisions := store.decisions ++ [decision] }

end ClarificationStore

structure AppendClarificationRound where
  expectedGoalVersion : ℕ
  expectedPreviousRoundId : Option JsString
  round : ClarificationRound
  questions : List ClarificationQuestionRevision

structure AppendClarificationAnswer where
  expectedGoalVersion : ℕ
  expectedQuestionRevision : ℕ
  expectedQuestionId : JsString
  question : ClarificationQuestionRevision
  decision : HumanDecision

structure ClarificationGenerationReceipt where
  round : ClarificationRound
  questions : List ClarificationQuestionRevision

structure ClarificationAnswerReceipt where
  question : ClarificationQuestionRevision
  decision : HumanDecision

namespace ClarificationStore

variable (store : ClarificationStore)

/-- The `for` loop over the questions of a round. -/
def insertQuestions : ClarificationStore → List ClarificationQuestionRevision →
    Except Thrown ClarificationStore
  | store, [] => .ok store
  | store, question :: questions => do
    let next ← store.insertQuestion question
    insertQuestions next questions

/-- The statements of `appendRound` between `BEGIN` and `COMMIT`. -/
def appendRound (input : AppendClarificationRound) : Except Thrown ClarificationStore :=
  let scope := input.round.scope
  if store.goalVersion scope ≠ some input.expectedGoalVersion then .error clarificationExpired
  else if (store.latestRound scope).map (·.id) ≠ input.expectedPreviousRoundId then
    .error versionConflict
  else do
    let next ← store.insertRound input.round
    insertQuestions next input.questions

/-- The statements of `appendAnswer` between `BEGIN` and `COMMIT`. -/
def appendAnswer (input : AppendClarificationAnswer) : Except Thrown ClarificationStore :=
  let scope := input.question.scope
  if store.goalVersion scope ≠ some input.expectedGoalVersion then .error clarificationExpired
  else
    match store.latestQuestion scope input.question.threadId with
    | none => .error clarificationNotFound
    | some row =>
      if row.id ≠ input.expectedQuestionId ∨ row.revision ≠ input.expectedQuestionRevision then
        .error versionConflict
      else if some row.roundId ≠ (store.latestRound scope).map (·.id) ∨
          row.sourceGoalVersion ≠ input.expectedGoalVersion then
        .error clarificationExpired
      else do
        let next ← store.insertQuestion input.question
        next.insertDecision input.decision

def commit {α : Type} (receipt : α) (outcome : Except Thrown ClarificationStore) :
    Except Thrown α × ClarificationStore :=
  match outcome with
  | .ok next => (.ok receipt, next)
  | .error error => (.error error, store)

end ClarificationStore

section Inserts

variable {store next : ClarificationStore}

theorem insertRound_eq_ok {round : ClarificationRound} :
    store.insertRound round = .ok next ↔
      (roundAllowed round = true ∧ (∀ row ∈ store.rounds, row.id ≠ round.id ∧
        ¬ (row.scope = round.scope ∧ row.roundNumber = round.roundNumber))) ∧
      next = { store with rounds := store.rounds ++ [round] } := by
  unfold ClarificationStore.insertRound
  split
  · next h => simp [h]
  · next h =>
    split
    · next hdup =>
      obtain ⟨row, hrow, hkey⟩ := hdup
      simp only [reduceCtorEq, false_iff]
      rintro ⟨⟨-, hnew⟩, -⟩
      obtain ⟨hid, hnumber⟩ := hnew row hrow
      exact hkey.elim hid hnumber
    · next hdup =>
      simp only [not_exists, not_and, not_or] at hdup
      simp only [Except.ok.injEq]
      constructor
      · rintro rfl
        exact ⟨⟨by simpa using h, fun row hrow =>
          ⟨(hdup row hrow).1, fun hkey => (hdup row hrow).2 hkey.1 hkey.2⟩⟩, rfl⟩
      · rintro ⟨-, rfl⟩
        rfl

theorem insertQuestion_eq_ok {question : ClarificationQuestionRevision} :
    store.insertQuestion question = .ok next ↔
      (questionAllowed question = true ∧ (∀ row ∈ store.questions, row.id ≠ question.id ∧
        ¬ (row.scope = question.scope ∧ row.threadId = question.threadId ∧
          row.revision = question.revision))) ∧
      next = { store with questions := store.questions ++ [question] } := by
  unfold ClarificationStore.insertQuestion
  split
  · next h => simp [h]
  · next h =>
    split
    · next hdup =>
      obtain ⟨row, hrow, hkey⟩ := hdup
      simp only [reduceCtorEq, false_iff]
      rintro ⟨⟨-, hnew⟩, -⟩
      obtain ⟨hid, hrevision⟩ := hnew row hrow
      exact hkey.elim hid hrevision
    · next hdup =>
      simp only [not_exists, not_and, not_or] at hdup
      simp only [Except.ok.injEq]
      constructor
      · rintro rfl
        exact ⟨⟨by simpa using h, fun row hrow =>
          ⟨(hdup row hrow).1, fun hkey => (hdup row hrow).2 hkey.1 hkey.2.1 hkey.2.2⟩⟩, rfl⟩
      · rintro ⟨-, rfl⟩
        rfl

theorem insertDecision_eq_ok {decision : HumanDecision} :
    store.insertDecision decision = .ok next ↔
      (decisionAllowed decision = true ∧ (∀ row ∈ store.decisions, row.id ≠ decision.id ∧
        ¬ (row.scope = decision.scope ∧ row.decisionKey = decision.decisionKey ∧
          row.revision = decision.revision))) ∧
      next = { store with decisions := store.decisions ++ [decision] } := by
  unfold ClarificationStore.insertDecision
  split
  · next h => simp [h]
  · next h =>
    split
    · next hdup =>
      obtain ⟨row, hrow, hkey⟩ := hdup
      simp only [reduceCtorEq, false_iff]
      rintro ⟨⟨-, hnew⟩, -⟩
      obtain ⟨hid, hrevision⟩ := hnew row hrow
      exact hkey.elim hid hrevision
    · next hdup =>
      simp only [not_exists, not_and, not_or] at hdup
      simp only [Except.ok.injEq]
      constructor
      · rintro rfl
        exact ⟨⟨by simpa using h, fun row hrow =>
          ⟨(hdup row hrow).1, fun hkey => (hdup row hrow).2 hkey.1 hkey.2.1 hkey.2.2⟩⟩, rfl⟩
      · rintro ⟨-, rfl⟩
        rfl

end Inserts

end DevHarness.Clarifications
