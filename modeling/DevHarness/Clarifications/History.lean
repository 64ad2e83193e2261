import DevHarness.Clarifications.Service

/-!
# Linear histories

What the tables hold whatever the clock says: rounds, revisions and decisions are chains,
every question belongs to a round of its goal, and the decisions on a question go with
its revisions after the first.
-/

namespace DevHarness.Clarifications

open JsText ControlPlane

structure Paired (decision : HumanDecision) (question : ClarificationQuestionRevision) :
    Prop where
  subjectId : decision.subjectId = question.id
  subjectVersion : decision.subjectVersion = question.revision
  createdAt : decision.createdAt = question.createdAt

/-- The question was asked in a round of its goal, at the goal version of the round. -/
def AskedIn (question : ClarificationQuestionRevision) (round : ClarificationRound) : Prop :=
  round.scope = question.scope ∧ round.id = question.roundId ∧
    round.sourceGoalVersion = question.sourceGoalVersion

structure History (store : ClarificationStore) : Prop where
  roundIds : (store.rounds.map (·.id)).Nodup
  questionIds : (store.questions.map (·.id)).Nodup
  rounds : ∀ scope, Sql.Chain roundNumbering (store.roundsOf scope)
  threads : ∀ scope threadId, Sql.Chain questionNumbering (store.threadOf scope threadId)
  verdicts : ∀ scope threadId, Sql.Chain decisionNumbering (store.verdictsOf scope threadId)
  paired : ∀ scope threadId,
    List.Forall₂ Paired (store.verdictsOf scope threadId) (store.threadOf scope threadId).tail
  asked : ∀ question ∈ store.questions, ∃ round ∈ store.rounds, AskedIn question round
  allowed : ∀ question ∈ store.questions, questionAllowed question = true

/-- Rows are only added. -/
structure Evolves (store later : ClarificationStore) : Prop where
  rounds : store.rounds <+: later.rounds
  questions : store.questions <+: later.questions
  decisions : store.decisions <+: later.decisions

section Rows

variable {store later : ClarificationStore} {scope : GoalScope} {threadId : JsString}
  {round : ClarificationRound} {question : ClarificationQuestionRevision}
  {decision : HumanDecision}

theorem mem_roundsOf : round ∈ store.roundsOf scope ↔
    round ∈ store.rounds ∧ round.scope = scope := by
  simp [ClarificationStore.roundsOf]

theorem mem_threadOf : question ∈ store.threadOf scope threadId ↔
    question ∈ store.questions ∧ question.scope = scope ∧ question.threadId = threadId := by
  simp only [ClarificationStore.threadOf, ClarificationStore.questionsOf, List.mem_filter,
    decide_eq_true_eq, and_assoc]

theorem mem_verdictsOf : decision ∈ store.verdictsOf scope threadId ↔
    decision ∈ store.decisions ∧ decision.scope = scope ∧ decision.decisionKey = threadId := by
  simp only [ClarificationStore.verdictsOf, ClarificationStore.decisionsOf, List.mem_filter,
    decide_eq_true_eq, and_assoc]

theorem roundsOf_append (hrounds : later.rounds = store.rounds ++ [round]) :
    later.roundsOf scope =
      store.roundsOf scope ++ if round.scope = scope then [round] else [] := by
  simp only [ClarificationStore.roundsOf, hrounds, List.filter_append]
  by_cases h : round.scope = scope
  · simp [h]
  · simp [h]

theorem threadOf_append (hquestions : later.questions = store.questions ++ [question]) :
    later.threadOf scope threadId = store.threadOf scope threadId ++
      if question.scope = scope ∧ question.threadId = threadId then [question] else [] := by
  simp only [ClarificationStore.threadOf, ClarificationStore.questionsOf, hquestions,
    List.filter_append, List.filter_filter]
  by_cases hscope : question.scope = scope
  · by_cases hthread : question.threadId = threadId
    · simp [hscope, hthread]
    · simp [hscope, hthread]
  · simp [hscope]

theorem verdictsOf_append (hdecisions : later.decisions = store.decisions ++ [decision]) :
    later.verdictsOf scope threadId = store.verdictsOf scope threadId ++
      if decision.scope = scope ∧ decision.decisionKey = threadId then [decision] else [] := by
  simp only [ClarificationStore.verdictsOf, ClarificationStore.decisionsOf, hdecisions,
    List.filter_append, List.filter_filter]
  by_cases hscope : decision.scope = scope
  · by_cases hkey : decision.decisionKey = threadId
    · simp [hscope, hkey]
    · simp [hscope, hkey]
  · simp [hscope]

theorem Evolves.refl (store : ClarificationStore) : Evolves store store :=
  ⟨List.prefix_rfl, List.prefix_rfl, List.prefix_rfl⟩

theorem Evolves.trans {latest : ClarificationStore} (h : Evolves store later)
    (h' : Evolves later latest) : Evolves store latest :=
  ⟨h.rounds.trans h'.rounds, h.questions.trans h'.questions, h.decisions.trans h'.decisions⟩

theorem Evolves.threadOf (h : Evolves store later) :
    store.threadOf scope threadId <+: later.threadOf scope threadId :=
  (h.questions.filter _).filter _

theorem Evolves.verdictsOf (h : Evolves store later) :
    store.verdictsOf scope threadId <+: later.verdictsOf scope threadId :=
  (h.decisions.filter _).filter _

section

variable (h : History store)

include h

theorem History.latestRound : store.latestRound scope = (store.roundsOf scope).getLast? :=
  (h.rounds scope).first_descending

theorem History.latestQuestion :
    store.latestQuestion scope threadId = (store.threadOf scope threadId).getLast? :=
  (h.threads scope threadId).first_descending

theorem History.timeline_rounds : (store.getTimeline scope).rounds = store.roundsOf scope :=
  (h.rounds scope).orderBy_ascending

theorem History.eq_of_roundId {round' : ClarificationRound} (hround : round ∈ store.rounds)
    (hround' : round' ∈ store.rounds) (hid : round.id = round'.id) : round = round' :=
  List.inj_on_of_nodup_map h.roundIds hround hround' hid

theorem History.eq_of_questionId {question' : ClarificationQuestionRevision}
    (hquestion : question ∈ store.questions) (hquestion' : question' ∈ store.questions)
    (hid : question.id = question'.id) : question = question' :=
  List.inj_on_of_nodup_map h.questionIds hquestion hquestion' hid

theorem History.length_verdictsOf :
    (store.verdictsOf scope threadId).length = (store.threadOf scope threadId).length - 1 := by
  rw [(h.paired scope threadId).length_eq, List.length_tail]

end

end Rows

section Inserts

variable {store next : ClarificationStore} {question : ClarificationQuestionRevision}

theorem nodup_snoc {Row Id : Type} {id : Row → Id} {rows : List Row} {row : Row}
    (hrows : (rows.map id).Nodup) (hnew : ∀ old ∈ rows, id old ≠ id row) :
    ((rows ++ [row]).map id).Nodup := by
  rw [List.map_append, List.map_singleton, List.nodup_append]
  refine ⟨hrows, List.nodup_singleton _, ?_⟩
  intro a ha b hb
  obtain ⟨old, hold, rfl⟩ := List.mem_map.mp ha
  rw [List.mem_singleton.mp hb]
  exact hnew old hold

structure FollowsRound (store : ClarificationStore) (round : ClarificationRound) : Prop where
  number : round.roundNumber =
    (((store.roundsOf round.scope).getLast?).map (·.roundNumber)).getD 0 + 1
  previous : round.previousRoundId = ((store.roundsOf round.scope).getLast?).map (·.id)

theorem History.insertRound {round : ClarificationRound} (h : History store)
    (hinsert : store.insertRound round = .ok next) (hfollows : FollowsRound store round) :
    History next := by
  obtain ⟨⟨-, hnew⟩, rfl⟩ := insertRound_eq_ok.mp hinsert
  constructor
  case roundIds => exact nodup_snoc h.roundIds fun row hrow => (hnew row hrow).1
  case questionIds => exact h.questionIds
  case rounds =>
    intro scope
    rw [@roundsOf_append store _ _ _ rfl]
    by_cases hscope : round.scope = scope
    · subst hscope
      rw [if_pos rfl]
      exact (h.rounds round.scope).append hfollows.number hfollows.previous
    · rw [if_neg hscope, List.append_nil]
      exact h.rounds scope
  case threads => exact h.threads
  case verdicts => exact h.verdicts
  case paired => exact h.paired
  case asked =>
    intro question hquestion
    obtain ⟨row, hrow, hasked⟩ := h.asked question hquestion
    exact ⟨row, List.mem_append_left _ hrow, hasked⟩
  case allowed => exact h.allowed

structure Opens (store : ClarificationStore) (question : ClarificationQuestionRevision) :
    Prop where
  revision : question.revision = 1
  previous : question.previousClarificationId = none
  asked : ∃ round ∈ store.rounds, AskedIn question round

theorem History.threadOf_eq_nil (h : History store) (hrevision : question.revision = 1)
    (hnew : ∀ row ∈ store.questions, ¬ (row.scope = question.scope ∧ row.threadId =
      question.threadId ∧ row.revision = question.revision)) :
    store.threadOf question.scope question.threadId = [] := by
  by_contra hne
  obtain ⟨row, hrow, hone⟩ := (h.threads _ _).exists_number_one hne
  obtain ⟨hmem, hscope, hthread⟩ := mem_threadOf.mp hrow
  exact hnew row hmem ⟨hscope, hthread, hone.trans hrevision.symm⟩

theorem History.openQuestion (h : History store)
    (hinsert : store.insertQuestion question = .ok next) (hopens : Opens store question) :
    History next := by
  obtain ⟨⟨hallowed, hnew⟩, rfl⟩ := insertQuestion_eq_ok.mp hinsert
  have hempty := h.threadOf_eq_nil hopens.revision fun row hrow => (hnew row hrow).2
  constructor
  case roundIds => exact h.roundIds
  case questionIds => exact nodup_snoc h.questionIds fun row hrow => (hnew row hrow).1
  case rounds => exact h.rounds
  case threads =>
    intro scope threadId
    rw [@threadOf_append store _ _ _ _ rfl]
    split
    · next hthread =>
      obtain ⟨rfl, rfl⟩ := hthread
      rw [hempty]
      exact .singleton hopens.revision hopens.previous
    · rw [List.append_nil]
      exact h.threads scope threadId
  case verdicts => exact h.verdicts
  case paired =>
    intro scope threadId
    have hpaired := h.paired scope threadId
    rw [@threadOf_append store _ _ _ _ rfl]
    split
    · next hthread =>
      obtain ⟨rfl, rfl⟩ := hthread
      rw [hempty] at hpaired ⊢
      exact hpaired
    · rw [List.append_nil]
      exact hpaired
  case asked =>
    intro row hrow
    rcases List.mem_append.mp hrow with hold | hself
    · exact h.asked row hold
    · rw [List.mem_singleton.mp hself]
      exact hopens.asked
  case allowed =>
    intro row hrow
    rcases List.mem_append.mp hrow with hold | hself
    · exact h.allowed row hold
    · rw [List.mem_singleton.mp hself]
      exact hallowed

/-- A revision that goes on from the last one of its thread, with its decision. -/
structure Follows (store : ClarificationStore) (current question : ClarificationQuestionRevision)
    (decision : HumanDecision) : Prop where
  last : (store.threadOf question.scope question.threadId).getLast? = some current
  revision : question.revision = current.revision + 1
  previous : question.previousClarificationId = some current.id
  roundId : question.roundId = current.roundId
  sourceGoalVersion : question.sourceGoalVersion = current.sourceGoalVersion
  scope : decision.scope = question.scope
  decisionKey : decision.decisionKey = question.threadId
  paired : Paired decision question
  decisionRevision : decision.revision =
    (((store.verdictsOf question.scope question.threadId).getLast?).map (·.revision)).getD 0 + 1
  previousDecision : decision.previousDecisionId =
    ((store.verdictsOf question.scope question.threadId).getLast?).map (·.id)

theorem History.answerQuestion {mid : ClarificationStore}
    {current question : ClarificationQuestionRevision} {decision : HumanDecision}
    (h : History store) (hquestion : store.insertQuestion question = .ok mid)
    (hdecision : mid.insertDecision decision = .ok next)
    (hfollows : Follows store current question decision) : History next := by
  obtain ⟨⟨hallowed, hnew⟩, rfl⟩ := insertQuestion_eq_ok.mp hquestion
  obtain ⟨-, rfl⟩ := insertDecision_eq_ok.mp hdecision
  have hcurrent := hfollows.last
  have hmem := mem_threadOf.mp (List.mem_of_getLast? hcurrent)
  have hkey : ∀ {scope threadId}, (decision.scope = scope ∧ decision.decisionKey = threadId) ↔
      (question.scope = scope ∧ question.threadId = threadId) := by
    intro scope threadId
    rw [hfollows.scope, hfollows.decisionKey]
  constructor
  case roundIds => exact h.roundIds
  case questionIds => exact nodup_snoc h.questionIds fun row hrow => (hnew row hrow).1
  case rounds => exact h.rounds
  case threads =>
    intro scope threadId
    rw [@threadOf_append store _ _ _ _ rfl]
    split
    · next hthread =>
      obtain ⟨rfl, rfl⟩ := hthread
      refine (h.threads _ _).append ?_ ?_
      · rw [hcurrent]
        exact hfollows.revision
      · rw [hcurrent]
        exact hfollows.previous
    · rw [List.append_nil]
      exact h.threads scope threadId
  case verdicts =>
    intro scope threadId
    rw [@verdictsOf_append store _ _ _ _ rfl]
    split
    · next hthread =>
      obtain ⟨rfl, rfl⟩ := hkey.mp hthread
      exact (h.verdicts _ _).append hfollows.decisionRevision hfollows.previousDecision
    · rw [List.append_nil]
      exact h.verdicts scope threadId
  case paired =>
    intro scope threadId
    rw [@verdictsOf_append store _ _ _ _ rfl, @threadOf_append store _ _ _ _ rfl]
    simp only [hkey]
    split
    · next hthread =>
      obtain ⟨rfl, rfl⟩ := hthread
      have hne : store.threadOf question.scope question.threadId ≠ [] :=
        List.ne_nil_of_mem (List.mem_of_getLast? hcurrent)
      rw [List.tail_append_of_ne_nil hne]
      exact List.rel_append (h.paired _ _) (.cons hfollows.paired .nil)
    · rw [List.append_nil, List.append_nil]
      exact h.paired scope threadId
  case asked =>
    intro row hrow
    rcases List.mem_append.mp hrow with hold | hself
    · exact h.asked row hold
    · rw [List.mem_singleton.mp hself]
      obtain ⟨round, hround, hscope, hid, hversion⟩ := h.asked current hmem.1
      refine ⟨round, hround, ?_, ?_, ?_⟩
      · rw [hscope, hmem.2.1]
      · rw [hid, hfollows.roundId]
      · rw [hversion, hfollows.sourceGoalVersion]
  case allowed =>
    intro row hrow
    rcases List.mem_append.mp hrow with hold | hself
    · exact h.allowed row hold
    · rw [List.mem_singleton.mp hself]
      exact hallowed

end Inserts

end DevHarness.Clarifications
