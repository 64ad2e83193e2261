import DevHarness.Clarifications.Outline
import DevHarness.Interleave.Exchange

/-!
# Answers to the newest revision

The history is linear whatever the clock says.  That the newest revision can be answered
needs more: `answer` takes the revision that is stamped last for the newest one, so the
clock must not go back within a thread, and a decision holds less than a clarification.
-/

namespace DevHarness.Clarifications

open JsText ControlPlane Interleave Program

/-! ## What is claimed -/

/-- Rounds, revisions and decisions are numbered 1, 2, 3, …, each with its
predecessor. -/
structure Linear (store : ClarificationStore) : Prop where
  rounds : ∀ scope, Sql.Chain roundNumbering (store.roundsOf scope)
  threads : ∀ scope threadId, Sql.Chain questionNumbering (store.threadOf scope threadId)
  verdicts : ∀ scope threadId, Sql.Chain decisionNumbering (store.verdictsOf scope threadId)

/-- The newest revision of a question of the newest round, with the goal at the version
of the round. -/
structure AtNewest (store : ClarificationStore) (scope : GoalScope) (threadId : JsString)
    (round : ClarificationRound) (question : ClarificationQuestionRevision) : Prop where
  newestRound : Sql.Newest roundNumbering (store.roundsOf scope) round
  version : store.goalVersion scope = some round.sourceGoalVersion
  inRound : question.roundId = round.id
  newestQuestion : Sql.Newest questionNumbering (store.threadOf scope threadId) question

/-- The answer goes on from the newest revision of a question of the newest round. -/
def AnswersNewest (store : ClarificationStore) (input : AppendClarificationAnswer) : Prop :=
  ∃ round question,
    AtNewest store input.question.scope input.question.threadId round question ∧
      input.question.revision = question.revision + 1 ∧
      input.question.previousClarificationId = some question.id

def AnswerClarificationCommand.bounded (command : AnswerClarificationCommand) : Bool :=
  decide (1 ≤ (trim command.answer).length) && decide (command.answer.length ≤ 10000) &&
    decide (1 ≤ (trim command.reason).length) && decide (command.reason.length ≤ 4000)

/-- What the tables ask of them: a decision holds an outcome of at most 4000
characters. -/
def AnswerClarificationCommand.storable (command : AnswerClarificationCommand) : Bool :=
  storableText 4000 (trim command.answer) && storableText 200 command.actorId &&
    storableText 4000 (trim command.reason)

/-- Nothing fails, and the generated identifiers are new. -/
def Quiet (choice : ℕ → Outside) (store : ClarificationStore) : Prop :=
  ∀ n, (choice n).failure = none ∧ (∀ row ∈ store.questions, row.id ≠ (choice n).id) ∧
    ∀ row ∈ store.decisions, row.id ≠ (choice n).id

/-- Run on its own, the answer is recorded. -/
def Accepted (store : ClarificationStore) (choice : ℕ → Outside)
    (command : AnswerClarificationCommand) : Prop :=
  ∃ receipt next, runAlone clarificationSystem.exec choice 0 (answer command) store =
      some (.ok receipt, next) ∧
    receipt.question ∈ next.questions ∧ receipt.decision ∈ next.decisions

/-- Of the bounded answers to the newest revision of a question of the newest round,
exactly those with `accepts` are accepted. -/
def Answerable (accepts : AnswerClarificationCommand → Prop) (store : ClarificationStore) :
    Prop :=
  ∀ {round question choice} {command : AnswerClarificationCommand},
    AtNewest store command.scope command.threadId round question →
    command.expectedQuestionRevision = question.revision →
    command.expectedGoalVersion = round.sourceGoalVersion →
    command.bounded = true → Quiet choice store →
    (Accepted store choice command ↔ accepts command)

abbrev ClarificationCondition :=
  ClarificationMoment → Attempt ClarificationCommand ClarificationCall GoalUpdate → Prop

/-- The history is linear and answerable in all runs whose steps meet `cond`. -/
structure LinearAndAnswerable (goals : GoalScope → Option GoalContract)
    (cond : ClarificationCondition) (accepts : AnswerClarificationCommand → Prop) : Prop where
  linear : ∀ {c}, Run clarificationSystem cond (.ofGoals goals) c → Linear c.now.state
  commits : ∀ {c c' pid input resp}, Run clarificationSystem cond (.ofGoals goals) c →
    Step clarificationSystem cond c c' →
    c'.now.past = .performed pid (.appendAnswer input) resp :: c.now.past →
    c'.now.state ≠ c.now.state → AnswersNewest c.now.state input
  answerable : ∀ {c}, Run clarificationSystem cond (.ofGoals goals) c →
    Answerable accepts c.now.state

/-- An answer is stamped no earlier than the revisions of its thread. -/
def ClockKept : ClarificationCondition := fun m attempt =>
  match attempt with
  | .perform _ (.appendAnswer input) =>
    ∀ row ∈ m.state.threadOf input.question.scope input.question.threadId,
      row.createdAt ≤ input.question.createdAt
  | _ => True

variable {goals : GoalScope → Option GoalContract} {c : ClarificationConfig}
  {store next : ClarificationStore} {question : ClarificationQuestionRevision}

section Commits

variable {cond : ClarificationCondition} {c' : ClarificationConfig}
  {input : AppendClarificationAnswer}

theorem sound_of_run (hrun : Run clarificationSystem cond (.ofGoals goals) c) :
    clarificationOutline.Sound c :=
  sound_of_reached (hrun.mono fun _ _ _ => trivial)

theorem History.linear (h : History store) : Linear store :=
  ⟨h.rounds, h.threads, h.verdicts⟩

theorem atNewest_of_appendAnswer (h : History store) (hok : store.appendAnswer input = .ok next) :
    ∃ round question, question.id = input.expectedQuestionId ∧
      AtNewest store input.question.scope input.question.threadId round question := by
  obtain ⟨hversion, row, hrow, ⟨hid, -⟩, ⟨hround, hrowVersion⟩, -⟩ := appendAnswer_eq_ok.mp hok
  rw [h.latestQuestion] at hrow
  rw [h.latestRound] at hround
  obtain ⟨round, hlast, hroundId⟩ := Option.map_eq_some_iff.mp hround.symm
  have hroundMem := (mem_roundsOf.mp (List.mem_of_getLast? hlast)).1
  have hrowMem := (mem_threadOf.mp (List.mem_of_getLast? hrow)).1
  obtain ⟨asked, hasked, -, haskedId, haskedVersion⟩ := h.asked row hrowMem
  have hsame := h.eq_of_roundId hroundMem hasked (hroundId.trans haskedId.symm)
  refine ⟨round, row, hid, ?_, ?_, hroundId.symm, ?_⟩
  · exact (h.rounds _).newest_iff.mpr hlast
  · rw [hversion, hsame, haskedVersion, hrowVersion]
  · exact (h.threads _ _).newest_iff.mpr hrow

theorem answersNewest_of_step {pid : ℕ} {resp : Except Thrown ClarificationAnswerReceipt}
    (hrun : Run clarificationSystem cond (.ofGoals goals) c)
    (hstep : Step clarificationSystem cond c c')
    (hpast : c'.now.past = .performed pid (.appendAnswer input) resp :: c.now.past)
    (hchanged : c'.now.state ≠ c.now.state) : AnswersNewest c.now.state input := by
  have hsound := sound_of_run hrun
  obtain ⟨-, ⟨routine, hproc⟩, outside, hexec⟩ := hstep.exec_of_performed hpast
  obtain ⟨earlier, current, ⟨hearlier, hevolves⟩, hmade⟩ :=
    (hsound.verified hproc c.now (Outline.Later.refl hsound.inv) trivial).1
  rcases execClarification_cases (Option.some.inj hexec) with h | ⟨_, h, -⟩ | ⟨_, h, hok⟩
  · exact absurd h hchanged
  · cases h
  · injection h with hinput
    subst hinput
    have hfollows := follows_of_answerMade hearlier hsound.inv hevolves hmade hok
    obtain ⟨round, question, -, hnewest⟩ := atNewest_of_appendAnswer hsound.inv hok
    have hlast := (hsound.inv.threads _ _).newest_iff.mp hnewest.newestQuestion
    obtain rfl := Option.some.inj (hlast.symm.trans hfollows.last)
    exact ⟨round, question, hnewest, hfollows.revision, hfollows.previous⟩

end Commits

/-! ## Threads in the order of the clock -/

/-- No revision is stamped earlier than one before it. -/
def ClockSorted (store : ClarificationStore) : Prop :=
  ∀ scope threadId, (store.threadOf scope threadId).Pairwise fun a b => a.createdAt ≤ b.createdAt

section Clock

theorem clockSorted_append (h : ClockSorted store)
    (hquestions : next.questions = store.questions ++ [question])
    (hlast : ∀ row ∈ store.threadOf question.scope question.threadId, row.createdAt ≤
      question.createdAt) : ClockSorted next := by
  intro scope threadId
  rw [threadOf_append hquestions]
  split
  · next hthread =>
    obtain ⟨rfl, rfl⟩ := hthread
    refine List.pairwise_append.mpr ⟨h _ _, List.pairwise_singleton _ _, ?_⟩
    intro row hrow added hadded
    rw [List.mem_singleton.mp hadded]
    exact hlast row hrow
  · rw [List.append_nil]
    exact h scope threadId

theorem clockSorted_exec {outside : Outside} {command : ClarificationCommand} {pid : ℕ}
    {m : ClarificationMoment} {resp : Except Thrown command.Answer} (hhistory : History m.state)
    (h : ClockSorted m.state) (hpromise : ClarificationPromise m command)
    (hcond : ClockKept m (.perform pid command))
    (hexec : execClarification outside command m.state = (resp, next)) : ClockSorted next := by
  rcases execClarification_cases hexec with rfl | ⟨input, rfl, hok⟩ | ⟨input, rfl, hok⟩
  · exact h
  · obtain ⟨earlier, ⟨hearlier, hevolves⟩, hmade⟩ := hpromise
    refine (appendRound_rule hearlier hhistory hevolves hmade hok h ?_).2
    intro s s' question hs hopens hsorted hinsert
    obtain ⟨⟨-, hnew⟩, rfl⟩ := insertQuestion_eq_ok.mp hinsert
    have hempty := hs.threadOf_eq_nil hopens.revision fun row hrow => (hnew row hrow).2
    refine clockSorted_append hsorted rfl fun row hrow => ?_
    rw [hempty] at hrow
    exact absurd hrow List.not_mem_nil
  · obtain ⟨-, row, -, -, -, mid, hquestion, hdecision⟩ := appendAnswer_eq_ok.mp hok
    obtain ⟨-, rfl⟩ := insertQuestion_eq_ok.mp hquestion
    obtain ⟨-, rfl⟩ := insertDecision_eq_ok.mp hdecision
    exact clockSorted_append h rfl hcond

theorem clockSorted_of_run (hrun : Run clarificationSystem ClockKept (.ofGoals goals) c) :
    ClockSorted c.now.state := by
  induction hrun with
  | refl => exact fun _ _ => List.Pairwise.nil
  | @tail d e hprefix hstep ih =>
      have hsound := sound_of_run hprefix
      cases hstep with
      | spawn call hcond => exact ih
      | perform pid command routine outside resp state hproc hcond hexec =>
          have hpromise :=
            (hsound.verified hproc d.now (Outline.Later.refl hsound.inv) trivial).1
          exact clockSorted_exec hsound.inv ih hpromise hcond (Option.some.inj hexec)
      | finish pid result hproc hcond => exact ih
      | crash pid p hproc hcond => exact ih
      | change update state hcond henv =>
          obtain rfl := Option.some.inj henv
          exact ih

/-- In a thread that is in the order of the clock, the current revision is the last. -/
theorem current_of_sorted {scope : GoalScope} {threadId : JsString} (hhistory : History store)
    (h : ClockSorted store) (hlast : (store.threadOf scope threadId).getLast? = some question) :
    (store.getTimeline scope).current threadId = some question := by
  have hmem := List.mem_of_getLast? hlast
  obtain ⟨hquestion, hthread⟩ := List.mem_filter.mp hmem
  obtain ⟨current, hcurrent⟩ : ∃ current,
      (store.getTimeline scope).current threadId = some current :=
    Sql.exists_last_of_orderBy hquestion hthread
  obtain ⟨hcurrentMem, hcurrentThread, hcurrentLast⟩ :=
    Sql.last_of_orderBy questionOrders hcurrent
  have hcurrentIn := mem_of_current hcurrent
  have hat : current.createdAt ≤ question.createdAt := by
    have hrel := (h scope threadId).rel_getLast_of_rel_getLast_getLast hcurrentIn le_rfl
    rw [List.getLast?_eq_some_getLast (List.ne_nil_of_mem hmem)] at hlast
    rw [← Option.some.inj hlast]
    exact hrel
  have hrevision : question.revision ≤ current.revision := by
    rcases Sql.thenBy_eq_true.mp (hcurrentLast question hquestion hthread) with
      hlt | ⟨-, hrest⟩
    · omega
    · have hthreads : question.threadId = current.threadId := by
        simp only [decide_eq_true_eq] at hthread hcurrentThread
        rw [hthread, hcurrentThread]
      rcases Sql.thenBy_eq_true.mp hrest with hlt | ⟨-, hle⟩
      · rw [hthreads] at hlt
        exact absurd hlt (lt_irrefl _)
      · simpa [Sql.byKey] using hle
  have heq := (hhistory.threads scope threadId).eq_of_number_le hcurrentIn hlast hrevision
  rw [← heq]
  exact hcurrent

end Clock

section Acceptance

variable {command : AnswerClarificationCommand} {round : ClarificationRound} {choice : ℕ → Outside}
  {goal : GoalContract} {answer reason id decisionId : JsString} {createdAt : ℤ}

theorem storableText_mono {maximum maximum' : ℕ} {value : JsString} (hle : maximum ≤ maximum')
    (h : storableText maximum value = true) : storableText maximum' value = true := by
  simp only [storableText, Bool.and_eq_true, decide_eq_true_eq] at h ⊢
  exact ⟨h.1, h.2.trans hle⟩

/-- A question that could be stored can be stored with its answer when the texts of the
answer can. -/
theorem questionAllowed_answerRevision (hallowed : questionAllowed question = true)
    (hanswer : storableText 4000 answer = true) (hactor : storableText 200 command.actorId = true)
    (hreason : storableText 4000 reason = true) :
    questionAllowed (answerRevision command question answer reason createdAt id) = true := by
  have hlong := storableText_mono (by omega : 4000 ≤ 10000) hanswer
  simp only [questionAllowed, Bool.and_eq_true, Bool.or_eq_true, decide_eq_true_eq] at hallowed
  obtain ⟨⟨⟨⟨⟨⟨⟨⟨hversion, hchain⟩, hprompt⟩, -⟩, hid⟩, hrationale⟩, hoptions⟩, -⟩, -⟩ := hallowed
  have hrevision : 1 < question.revision + 1 := by
    rcases hchain with ⟨h, -⟩ | ⟨h, -⟩
    · omega
    · omega
  simp [questionAllowed, answerRevision, hversion, hprompt, hid, hrationale, hoptions, hlong,
    hactor, hreason, hrevision]

theorem decisionAllowed_answerDecision {prior : Option HumanDecision}
    {revision : ClarificationQuestionRevision} (hrevision : 0 < revision.revision)
    (hprior : ∀ decision, prior = some decision → 0 < decision.revision) :
    decisionAllowed (answerDecision command revision prior answer reason createdAt decisionId) =
      (storableText 4000 answer && storableText 200 command.actorId &&
        storableText 4000 reason) := by
  cases prior with
  | none => simp [decisionAllowed, answerDecision, hrevision]
  | some decision =>
      have hpos := hprior decision rfl
      have hnext : 1 < decision.revision + 1 := by omega
      simp [decisionAllowed, answerDecision, hrevision, hnext]

theorem appendAnswer_newest_iff (h : History store)
    (hnewest : AtNewest store command.scope command.threadId round question)
    (hgoal : store.goals command.scope = some goal)
    (hid : ∀ row ∈ store.questions, row.id ≠ id)
    (hdecisionId : ∀ row ∈ store.decisions, row.id ≠ decisionId) :
    (∃ next, store.appendAnswer (answerInput command goal question
        (store.verdictsOf command.scope command.threadId).getLast? answer reason createdAt id
        decisionId) = .ok next) ↔
      storableText 4000 answer = true ∧ storableText 200 command.actorId = true ∧
        storableText 4000 reason = true := by
  have hlast := (h.threads _ _).newest_iff.mp hnewest.newestQuestion
  have hlastRound := (h.rounds _).newest_iff.mp hnewest.newestRound
  obtain ⟨hmem, hscope, hthread⟩ := mem_threadOf.mp hnewest.newestQuestion.mem
  have hversion : goal.version = round.sourceGoalVersion := by
    have heq := hnewest.version
    rw [ClarificationStore.goalVersion, hgoal, Option.map_some] at heq
    exact Option.some.inj heq
  have hquestionVersion : question.sourceGoalVersion = round.sourceGoalVersion := by
    obtain ⟨asked, hasked, -, haskedId, haskedVersion⟩ := h.asked question hmem
    have hround := (mem_roundsOf.mp hnewest.newestRound.mem).1
    rw [← haskedVersion,
      h.eq_of_roundId hasked hround (haskedId.trans hnewest.inRound)]
  have hprior : ∀ decision, (store.verdictsOf command.scope command.threadId).getLast? =
      some decision → 0 < decision.revision := fun decision hdecision =>
    (h.verdicts _ _).number_pos (List.mem_of_getLast? hdecision)
  constructor
  · rintro ⟨next, hok⟩
    obtain ⟨-, row, -, -, -, mid, -, hdecision⟩ := appendAnswer_eq_ok.mp hok
    obtain ⟨⟨hallowed, -⟩, -⟩ := insertDecision_eq_ok.mp hdecision
    simp only [answerInput] at hallowed
    rw [decisionAllowed_answerDecision (Nat.succ_pos _) hprior] at hallowed
    simpa only [Bool.and_eq_true, and_assoc] using hallowed
  · rintro ⟨hanswer, hactor, hreason⟩
    have hallowed : questionAllowed (answerRevision command question answer reason createdAt id) =
        true := questionAllowed_answerRevision (h.allowed question hmem) hanswer hactor hreason
    have hdecisionAllowed : decisionAllowed (answerDecision command
        (answerRevision command question answer reason createdAt id)
        (store.verdictsOf command.scope command.threadId).getLast? answer reason createdAt
        decisionId) = true := by
      rw [decisionAllowed_answerDecision (Nat.succ_pos _) hprior, hanswer, hactor, hreason]
      rfl
    -- no revision of the thread and no decision on it is numbered like the new ones
    have hnewRevision : ∀ row ∈ store.questions, ¬ (row.scope = question.scope ∧
        row.threadId = question.threadId ∧ row.revision = question.revision + 1) := by
      rintro row hrow ⟨hrowScope, hrowThread, hrowRevision⟩
      have hle := hnewest.newestQuestion.largest row
        (mem_threadOf.mpr ⟨hrow, hrowScope.trans hscope, hrowThread.trans hthread⟩)
      change row.revision ≤ question.revision at hle
      omega
    have hnewDecision : ∀ row ∈ store.decisions, ¬ (row.scope = command.scope ∧
        row.decisionKey = command.threadId ∧ row.revision =
          (((store.verdictsOf command.scope command.threadId).getLast?).map
            (·.revision)).getD 0 + 1) := by
      rintro row hrow ⟨hrowScope, hrowKey, hrowRevision⟩
      have hle := (h.verdicts command.scope command.threadId).number_le_length
        (mem_verdictsOf.mpr ⟨hrow, hrowScope, hrowKey⟩)
      have hnext := (h.verdicts command.scope command.threadId).number_next
      change row.revision ≤ _ at hle
      change ((((store.verdictsOf command.scope command.threadId).getLast?).map
        (·.revision)).getD 0) = _ at hnext
      omega
    refine ⟨_, appendAnswer_eq_ok.mpr ⟨?_, question, ?_, ⟨rfl, rfl⟩, ⟨?_, ?_⟩, _,
      insertQuestion_eq_ok.mpr ⟨⟨hallowed, fun row hrow => ⟨hid row hrow, ?_⟩⟩, rfl⟩,
      insertDecision_eq_ok.mpr ⟨⟨hdecisionAllowed, fun row hrow =>
        ⟨hdecisionId row hrow, ?_⟩⟩, rfl⟩⟩⟩
    · change store.goalVersion question.scope = some goal.version
      rw [hscope, hnewest.version, hversion]
    · change store.latestQuestion question.scope question.threadId = some question
      rw [hscope, hthread, h.latestQuestion, hlast]
    · change some question.roundId = (store.latestRound question.scope).map (·.id)
      rw [hscope, h.latestRound, hlastRound, Option.map_some, hnewest.inRound]
    · rw [hquestionVersion]
      exact hversion.symm
    · exact hnewRevision row hrow
    · exact hnewDecision row hrow

theorem exec_of_quiet {n : ℕ} (hquiet : Quiet choice store) (command : ClarificationCommand) :
    clarificationSystem.exec (choice n) command store =
      some (perform (choice n) command store) := by
  simp only [clarificationSystem, execClarification, (hquiet n).1]

theorem runAlone_answer (hquiet : Quiet choice store) (hbounded : command.bounded = true)
    (hgoal : store.goals command.scope = some goal)
    (hgoalVersion : goal.version = command.expectedGoalVersion)
    (hversion : 1 ≤ command.expectedGoalVersion)
    (hrevision : 1 ≤ command.expectedQuestionRevision)
    (hcurrent : (store.getTimeline command.scope).current command.threadId = some question)
    (hexpected : question.revision = command.expectedQuestionRevision)
    (hround : some question.roundId =
      (store.getTimeline command.scope).rounds.getLast?.map (·.id))
    (hquestionVersion : question.sourceGoalVersion = goal.version) :
    ∃ input, input = answerInput command goal question
        ((store.getTimeline command.scope).priorDecision command.threadId) (trim command.answer)
        (trim command.reason) (choice 3).clock (choice 4).id (choice 5).id ∧
      runAlone clarificationSystem.exec choice 0 (Clarifications.answer command) store =
        some (store.commit ⟨input.question, input.decision⟩ (store.appendAnswer input)) := by
  simp only [AnswerClarificationCommand.bounded, Bool.and_eq_true, decide_eq_true_eq] at hbounded
  obtain ⟨⟨⟨hanswer, hanswerMax⟩, hreason⟩, hreasonMax⟩ := hbounded
  refine ⟨_, rfl, ?_⟩
  have hpositive : ∀ {value : ℕ} (name : String), 1 ≤ value →
      positive value name = pure () := fun name h => if_neg (by omega)
  have htext : ∀ {value : JsString} {maximum : ℕ} (name : String), 1 ≤ (trim value).length →
      value.length ≤ maximum → text value name maximum = pure (trim value) :=
    fun name h h' => if_neg (by omega)
  have hcheck : ∀ {ok : Bool} (error : Thrown), ok = true → check ok error = pure () :=
    fun error h => if_pos h
  unfold Clarifications.answer
  rw [runAlone_request_bind (exec_of_quiet hquiet _), hpositive _ hrevision, runAlone_pure_bind,
    hpositive _ hversion, runAlone_pure_bind, htext _ hanswer hanswerMax, runAlone_pure_bind,
    htext _ hreason hreasonMax, runAlone_pure_bind]
  have hgoalOf : ∀ {f : GoalContract → ClarificationProgram ClarificationAnswerReceipt},
      runAlone clarificationSystem.exec choice 1 (goalOf command.scope >>= f) store =
        runAlone clarificationSystem.exec choice 2 (f goal) store := by
    intro f
    have hread : clarificationSystem.exec (choice 1) (.getGoal command.scope) store =
        some (.ok (some goal), store) := by
      rw [exec_of_quiet hquiet, perform, hgoal]
    change runAlone clarificationSystem.exec choice 1 (.call (.getGoal command.scope) _) store = _
    rw [runAlone, hread]
    rfl
  rw [hgoalOf, hcheck _ (decide_eq_true hgoalVersion), runAlone_pure_bind,
    runAlone_request_bind (exec_of_quiet hquiet _)]
  simp only [hcurrent, answerCurrent]
  rw [hcheck _ (decide_eq_true hexpected), runAlone_pure_bind,
    hcheck _ (decide_eq_true ⟨hround, hquestionVersion⟩), runAlone_pure_bind,
    runAlone_request_bind (exec_of_quiet hquiet _), runAlone_request_bind (exec_of_quiet hquiet _)]
  exact (runAlone_request_bind (exec_of_quiet hquiet _)).trans
    (runAlone_request (exec_of_quiet hquiet _))

/-- On a linear history with sorted threads, an answer to the newest revision is accepted
exactly when its texts can be stored. -/
theorem answerable_of_sorted (h : History store) (hsorted : ClockSorted store) :
    Answerable (fun command => command.storable = true) store := by
  intro round question choice command hnewest hrevision hversion hbounded hquiet
  have hlast := (h.threads _ _).newest_iff.mp hnewest.newestQuestion
  have hlastRound := (h.rounds _).newest_iff.mp hnewest.newestRound
  have hmem := (mem_threadOf.mp hnewest.newestQuestion.mem).1
  obtain ⟨goal, hgoal, hgoalVersion⟩ := Option.map_eq_some_iff.mp hnewest.version
  have hcurrent := current_of_sorted h hsorted hlast
  obtain ⟨asked, hasked, -, haskedId, haskedVersion⟩ := h.asked question hmem
  have hsame : asked = round := h.eq_of_roundId hasked (mem_roundsOf.mp hnewest.newestRound.mem).1
    (haskedId.trans hnewest.inRound)
  have hquestionVersion : question.sourceGoalVersion = round.sourceGoalVersion := by
    rw [← haskedVersion, hsame]
  have hpositive : 0 < question.sourceGoalVersion := by
    have hallowed := h.allowed question hmem
    simp only [questionAllowed, Bool.and_eq_true, decide_eq_true_eq] at hallowed
    exact hallowed.1.1.1.1.1.1.1.1
  have hnumber : 0 < question.revision :=
    (h.threads _ _).number_pos hnewest.newestQuestion.mem
  obtain ⟨input, hinput, hrun⟩ := runAlone_answer hquiet hbounded hgoal
    (hgoalVersion.trans hversion.symm) (by omega) (by omega) hcurrent hrevision.symm
    (by rw [h.timeline_rounds, hlastRound, Option.map_some, hnewest.inRound])
    (hquestionVersion.trans hgoalVersion.symm)
  rw [priorDecision_of_last h hcurrent hlast] at hinput
  have hiff := @appendAnswer_newest_iff _ _ _ _ _ (trim command.answer)
    (trim command.reason) _ _ (choice 3).clock h hnewest hgoal
    (hquiet 4).2.1 (hquiet 5).2.2
  rw [← hinput] at hiff
  have hstorable : command.storable = true ↔ storableText 4000 (trim command.answer) = true ∧
      storableText 200 command.actorId = true ∧ storableText 4000 (trim command.reason) = true := by
    simp only [AnswerClarificationCommand.storable, Bool.and_eq_true, and_assoc]
  refine Iff.trans ?_ (hiff.trans hstorable.symm)
  constructor
  · rintro ⟨receipt, next, haccepted, -⟩
    rw [hrun] at haccepted
    cases hok : store.appendAnswer input with
    | ok next' => exact ⟨next', rfl⟩
    | error error =>
        rw [hok] at haccepted
        cases (Prod.mk.inj (Option.some.inj haccepted)).1
  · rintro ⟨next, hok⟩
    rw [hok] at hrun
    refine ⟨_, next, hrun, ?_, ?_⟩
    all_goals
      obtain ⟨-, row, -, -, -, mid, hinsert, hdecision⟩ := appendAnswer_eq_ok.mp hok
      obtain ⟨-, rfl⟩ := insertQuestion_eq_ok.mp hinsert
      obtain ⟨-, rfl⟩ := insertDecision_eq_ok.mp hdecision
      exact List.mem_append_right _ (List.mem_singleton_self _)

end Acceptance

/-- In every run in which the clock does not go back within a thread, the history is
linear, and an answer to the newest revision of a question of the newest round is accepted
exactly when its texts can be stored. -/
theorem linearAndAnswerable_of_clockKept (goals : GoalScope → Option GoalContract) :
    LinearAndAnswerable goals ClockKept fun command => command.storable = true where
  linear := fun hrun => (sound_of_run hrun).inv.linear
  commits := answersNewest_of_step
  answerable := fun hrun =>
    answerable_of_sorted (sound_of_run hrun).inv (clockSorted_of_run hrun)

/-! ## A clock that goes back -/

/-- A `uuid`, by its last digit. -/
def uuid (digit : ℕ) : JsString :=
  js "00000000-0000-4000-8000-00000000000" ++ js (toString digit)

def clarifiedScope : GoalScope where
  organizationId := uuid 1
  projectId := uuid 2
  goalId := uuid 3

def clarifiedGoal : GoalContract where
  id := uuid 3
  organizationId := uuid 1
  projectId := uuid 2
  title := js "Title"
  problemStatement := js "Problem"
  desiredOutcome := js "Outcome"
  acceptanceCriteria := []
  nonGoals := []
  constraints := []
  status := .draft
  version := 1
  createdAt := 0
  updatedAt := 0

def clarifiedGoals (scope : GoalScope) : Option GoalContract :=
  if scope = clarifiedScope then some clarifiedGoal else none

def clarifyingIdentity : Identity where
  scope := clarifiedScope
  actorId := js "client"

def firstRound : GenerateClarificationsCommand where
  toIdentity := clarifyingIdentity
  expectedGoalVersion := 1
  reason := js "first round"

def answerTo (revision : ℕ) : AnswerClarificationCommand where
  toIdentity := clarifyingIdentity
  threadId := uuid 6
  expectedQuestionRevision := revision
  expectedGoalVersion := 1
  answer := js "yes"
  reason := js "asked"

def draftedRound : ClarificationDraft where
  plannerRunId := js "planner-run"
  goalId := uuid 3
  sourceGoalVersion := 1
  knownFacts := []
  uncertainties := []
  questions := [{
    id := js "q1"
    prompt := js "Which one?"
    rationale := js "It matters"
    blockingLevel := .blocker
    answerType := .text
    suggestedOptions := [] }]

def calmly (clock : ℤ) (id : JsString) : Outside where
  failure := none
  draft := draftedRound
  clock := clock
  id := id

/-- A round is generated at 100; its question is answered when the clock says 50. -/
def backwards : List (Action ClarificationCall Outside GoalUpdate) :=
  [.spawn (.generate firstRound)] ++
    List.replicate 5 (.perform 0 (calmly 100 (uuid 4))) ++
    [.perform 0 (calmly 100 (uuid 4)), .perform 0 (calmly 100 (uuid 5)),
      .perform 0 (calmly 100 (uuid 6)), .perform 0 (calmly 100 []),
      .spawn (.answer (answerTo 1))] ++
    List.replicate 4 (.perform 1 (calmly 50 [])) ++
    [.perform 1 (calmly 50 (uuid 7)), .perform 1 (calmly 50 (uuid 8)), .perform 1 (calmly 50 [])]

/-- What is seen of the goal's history, and what an answer to its second revision comes
to. -/
structure AnswerView where
  rounds : List (JsString × ℕ)
  thread : List (ℕ × JsString × ℤ)
  version : Option ℕ
  quiet : Bool
  outcome : Option (Option Thrown)
  deriving DecidableEq

def answerView (c : ClarificationConfig) : AnswerView where
  rounds := (c.now.state.roundsOf clarifiedScope).map fun round =>
    (round.id, round.sourceGoalVersion)
  thread := (c.now.state.threadOf clarifiedScope (uuid 6)).map fun question =>
    (question.revision, question.roundId, question.createdAt)
  version := c.now.state.goalVersion clarifiedScope
  quiet := (c.now.state.questions.all fun row => decide (row.id ≠ uuid 9)) &&
    c.now.state.decisions.all fun row => decide (row.id ≠ uuid 9)
  outcome := (runAlone clarificationSystem.exec (fun _ => calmly 200 (uuid 9)) 0
    (answer (answerTo 2)) c.now.state).map fun ended =>
      match ended.1 with
      | .ok _ => none
      | .error error => some error

/-- The newest revision, answered when the clock had gone back, is refused an answer: the
timeline lists the first revision after it. -/
theorem not_linearAndAnswerable :
    ¬ LinearAndAnswerable clarifiedGoals (fun _ _ => True) fun _ => True := by
  intro hclaim
  have hexec : (execute clarificationSystem (Config.initial (.ofGoals clarifiedGoals))
      backwards).map answerView = some
        { rounds := [(uuid 4, 1)]
          thread := [(1, uuid 4, 100), (2, uuid 4, 50)]
          version := some 1
          quiet := true
          outcome := some (some versionConflict) } := by
    decide +kernel
  obtain ⟨c, hc, hview⟩ := Option.map_eq_some_iff.mp hexec
  simp only [answerView, AnswerView.mk.injEq] at hview
  obtain ⟨hrounds, hthread, hversion, hquiet, houtcome⟩ := hview
  have hrun := reached_of_execute hc
  obtain ⟨round, hround, hroundIs⟩ := List.map_eq_singleton_iff.mp hrounds
  obtain ⟨hroundId, hroundVersion⟩ := Prod.mk.inj hroundIs
  obtain ⟨opened, rest, hsplit, -, hrest⟩ := List.map_eq_cons_iff.mp hthread
  obtain ⟨question, rfl, hquestionIs⟩ := List.map_eq_singleton_iff.mp hrest
  obtain ⟨hrevision, hquestionRound, -⟩ : question.revision = 2 ∧ question.roundId = uuid 4 ∧
      question.createdAt = 50 := by simpa using hquestionIs
  have hlinear := hclaim.linear hrun
  have hnewest : AtNewest c.now.state clarifiedScope (uuid 6) round question := by
    refine ⟨?_, ?_, ?_, ?_⟩
    · rw [(hlinear.rounds clarifiedScope).newest_iff, hround]
      rfl
    · rw [hversion, hroundVersion]
    · rw [hquestionRound, hroundId]
    · rw [(hlinear.threads clarifiedScope (uuid 6)).newest_iff, hsplit]
      rfl
  simp only [Bool.and_eq_true, List.all_eq_true, decide_eq_true_eq] at hquiet
  have hanswerable : Answerable (fun _ => True) c.now.state := hclaim.answerable hrun
  have hbounded : (answerTo 2).bounded = true := by decide +kernel
  have haccepted : Accepted c.now.state (fun _ => calmly 200 (uuid 9)) (answerTo 2) :=
    (hanswerable hnewest hrevision.symm hroundVersion.symm hbounded
      fun _ => ⟨rfl, hquiet⟩).mpr trivial
  obtain ⟨receipt, next, hok, -⟩ := haccepted
  rw [hok] at houtcome
  cases houtcome

end DevHarness.Clarifications
