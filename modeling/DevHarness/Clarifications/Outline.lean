import DevHarness.Clarifications.Linear

/-!
# The proof outline of the clarification history

What a caller makes sure of before it appends: that what it appends was made from a
timeline of an earlier moment.  From that promise every commit keeps the history linear,
in any interleaving and whatever the clock says.
-/

namespace DevHarness.Clarifications

open JsText ControlPlane Interleave Program

/-! ## What was made from a timeline -/

/-- The round was made from the timeline of `store`. -/
structure RoundMade (store : ClarificationStore) (input : AppendClarificationRound) : Prop where
  expected : input.expectedPreviousRoundId =
    ((store.getTimeline input.round.scope).rounds.getLast?).map (·.id)
  number : input.round.roundNumber =
    (((store.getTimeline input.round.scope).rounds.getLast?).map (·.roundNumber)).getD 0 + 1
  previous : input.round.previousRoundId =
    ((store.getTimeline input.round.scope).rounds.getLast?).map (·.id)
  questions : ∀ question ∈ input.questions, AskedIn question input.round ∧
    question.revision = 1 ∧ question.previousClarificationId = none

/-- The answer to `current` was made from the timeline of `store`. -/
structure AnswerMade (store : ClarificationStore) (input : AppendClarificationAnswer)
    (current : ClarificationQuestionRevision) : Prop where
  last : (store.getTimeline input.question.scope).current input.question.threadId =
    some current
  expected : input.expectedQuestionId = current.id
  revision : input.question.revision = current.revision + 1
  previous : input.question.previousClarificationId = some current.id
  roundId : input.question.roundId = current.roundId
  sourceGoalVersion : input.question.sourceGoalVersion = current.sourceGoalVersion
  scope : input.decision.scope = input.question.scope
  decisionKey : input.decision.decisionKey = input.question.threadId
  paired : Paired input.decision input.question
  decisionRevision : input.decision.revision =
    (((store.getTimeline input.question.scope).priorDecision
      input.question.threadId).map (·.revision)).getD 0 + 1
  previousDecision : input.decision.previousDecisionId =
    ((store.getTimeline input.question.scope).priorDecision
      input.question.threadId).map (·.id)

variable {store : ClarificationStore} {goal : GoalContract} {createdAt : ℤ}

theorem roundMade_nextRound {command : GenerateClarificationsCommand}
    {planned : ClarificationDraft} {reason id : JsString}
    {questions : List ClarificationQuestionRevision}
    (hquestions : ∀ question ∈ questions, ∃ draft questionId threadId, question = openQuestion
      (nextRound command goal planned (store.getTimeline command.scope).rounds.getLast? reason
      createdAt id) draft questionId threadId) :
    RoundMade store
      { expectedGoalVersion := goal.version
        expectedPreviousRoundId :=
          ((store.getTimeline command.scope).rounds.getLast?).map (·.id)
        round := nextRound command goal planned
          (store.getTimeline command.scope).rounds.getLast? reason createdAt id
        questions := questions } := by
  refine ⟨rfl, rfl, rfl, ?_⟩
  intro question hquestion
  obtain ⟨draft, questionId, threadId, rfl⟩ := hquestions question hquestion
  exact ⟨⟨rfl, rfl, rfl⟩, rfl, rfl⟩

theorem answerMade_answerInput {command : AnswerClarificationCommand} {answer reason : JsString}
    {id decisionId : JsString} {current : ClarificationQuestionRevision}
    (hcurrent : (store.getTimeline command.scope).current command.threadId = some current) :
    AnswerMade store
      (answerInput command goal current
        ((store.getTimeline command.scope).priorDecision command.threadId)
        answer reason createdAt id decisionId) current := by
  obtain ⟨-, hscope, hthread⟩ := mem_threadOf.mp (mem_of_current hcurrent)
  constructor
  case last =>
    rw [← hscope, ← hthread] at hcurrent
    exact hcurrent
  case expected => rfl
  case revision => rfl
  case previous => rfl
  case roundId => rfl
  case sourceGoalVersion => rfl
  case scope => exact hscope.symm
  case decisionKey => exact hthread.symm
  case paired => exact ⟨rfl, rfl, rfl⟩
  case decisionRevision =>
    rw [← hscope, ← hthread]
    rfl
  case previousDecision =>
    rw [← hscope, ← hthread]
    rfl

section Commits

variable {store earlier next : ClarificationStore} {input : AppendClarificationRound}
  {current : ClarificationQuestionRevision}

theorem evolves_insertQuestion {question : ClarificationQuestionRevision}
    (hinsert : store.insertQuestion question = .ok next) : Evolves store next := by
  obtain ⟨-, rfl⟩ := insertQuestion_eq_ok.mp hinsert
  exact ⟨List.prefix_rfl, List.prefix_append _ _, List.prefix_rfl⟩

section

variable (hearlier : History earlier) (h : History store) (hevolves : Evolves earlier store)

include hearlier h hevolves

theorem getLast?_of_roundMade (hmade : RoundMade earlier input)
    (hlatest : (store.latestRound input.round.scope).map (·.id) = input.expectedPreviousRoundId) :
    (store.roundsOf input.round.scope).getLast? =
      (earlier.getTimeline input.round.scope).rounds.getLast? := by
  rw [h.latestRound, hmade.expected, hearlier.timeline_rounds] at hlatest
  rw [hearlier.timeline_rounds]
  cases hlast : (store.roundsOf input.round.scope).getLast? with
  | none =>
      rw [hlast, Option.map_none] at hlatest
      exact (Option.map_eq_none_iff.mp hlatest.symm).symm
  | some round =>
      rw [hlast, Option.map_some] at hlatest
      obtain ⟨round', hround', hid⟩ := Option.map_eq_some_iff.mp hlatest.symm
      have hmem := (mem_roundsOf.mp (List.mem_of_getLast? hlast)).1
      have hmem' := (mem_roundsOf.mp (List.mem_of_getLast? hround')).1
      rw [hround', h.eq_of_roundId hmem (hevolves.rounds.subset hmem') hid.symm]

section

variable (hmade : RoundMade earlier input) (hok : store.appendRound input = .ok next)

include hmade hok

theorem appendRound_rule {P : ClarificationStore → Prop}
    (hround : P { store with rounds := store.rounds ++ [input.round] })
    (hopen : ∀ s s' question, History s → Opens s question → P s → s.insertQuestion question = .ok
      s' → P s') : History next ∧ P next := by
  obtain ⟨-, hlatest, mid, hinsertRound, hquestions⟩ := appendRound_eq_ok.mp hok
  have hlast := getLast?_of_roundMade hearlier h hevolves hmade hlatest
  have hmid : History mid := by
    refine h.insertRound hinsertRound ⟨?_, ?_⟩
    · rw [hlast]
      exact hmade.number
    · rw [hlast]
      exact hmade.previous
  obtain ⟨-, rfl⟩ := insertRound_eq_ok.mp hinsertRound
  have hkeep := insertQuestions_keeps (P := fun s => (History s ∧ input.round ∈ s.rounds) ∧ P s)
    ?_ ⟨⟨hmid, List.mem_append_right _ (List.mem_singleton_self _)⟩, hround⟩ hquestions
  · exact ⟨hkeep.1.1, hkeep.2⟩
  · rintro s s' question hquestion ⟨⟨hs, hmem⟩, hP⟩ hinsert
    obtain ⟨hasked, hrevision, hprevious⟩ := hmade.questions question hquestion
    have hopens : Opens s question := ⟨hrevision, hprevious, input.round, hmem, hasked⟩
    have hadded := (evolves_insertQuestion hinsert).rounds.subset hmem
    exact ⟨⟨hs.openQuestion hinsert hopens, hadded⟩, hopen s s' question hs hopens hP hinsert⟩

theorem history_appendRound : History next ∧ Evolves store next := by
  refine appendRound_rule hearlier h hevolves hmade hok ?_ ?_
  · exact ⟨List.prefix_append _ _, List.prefix_rfl, List.prefix_rfl⟩
  · intro s s' question _ _ hevolved hinsert
    exact hevolved.trans (evolves_insertQuestion hinsert)

end

/-- The revision that an answer is appended to is the last one, and the one that was
read. -/
theorem follows_of_answerMade {input : AppendClarificationAnswer}
    (hmade : AnswerMade earlier input current) (hok : store.appendAnswer input = .ok next) :
    Follows store current input.question input.decision := by
  obtain ⟨-, row, hrow, ⟨hid, -⟩, -⟩ := appendAnswer_eq_ok.mp hok
  have hcurrent := mem_of_current hmade.last
  rw [h.latestQuestion] at hrow
  have hrowMem := mem_threadOf.mp (List.mem_of_getLast? hrow)
  have hcurrentMem := (mem_threadOf.mp hcurrent).1
  have heq : row = current :=
    h.eq_of_questionId hrowMem.1 (hevolves.questions.subset hcurrentMem)
      (hid.trans hmade.expected)
  subst heq
  obtain ⟨hthread, hverdicts⟩ := threadOf_settled hearlier h hevolves hcurrent hrow
  have hprior := priorDecision_of_last hearlier hmade.last (by rw [hthread, hrow])
  rw [hverdicts] at hprior
  constructor
  case last => exact hrow
  case revision => exact hmade.revision
  case previous => exact hmade.previous
  case roundId => exact hmade.roundId
  case sourceGoalVersion => exact hmade.sourceGoalVersion
  case scope => exact hmade.scope
  case decisionKey => exact hmade.decisionKey
  case paired => exact hmade.paired
  case decisionRevision =>
    rw [← hprior]
    exact hmade.decisionRevision
  case previousDecision =>
    rw [← hprior]
    exact hmade.previousDecision

theorem history_appendAnswer {input : AppendClarificationAnswer}
    (hmade : AnswerMade earlier input current) (hok : store.appendAnswer input = .ok next) :
    History next ∧ Evolves store next := by
  have hfollows := follows_of_answerMade hearlier h hevolves hmade hok
  obtain ⟨-, row, -, -, -, mid, hquestion, hdecision⟩ := appendAnswer_eq_ok.mp hok
  refine ⟨h.answerQuestion hquestion hdecision hfollows, ?_⟩
  obtain ⟨-, rfl⟩ := insertDecision_eq_ok.mp hdecision
  have hadded := evolves_insertQuestion hquestion
  exact ⟨hadded.rounds, hadded.questions, hadded.decisions.trans (List.prefix_append _ _)⟩

end

end Commits

/-! ## The outline -/

/-- A timeline that was read when the store was `earlier`. -/
def ReadAt (earlier : ClarificationStore) (m : ClarificationMoment) : Prop :=
  History earlier ∧ Evolves earlier m.state

def ClarificationPromise (m : ClarificationMoment) : ClarificationCommand → Prop
  | .appendRound input => ∃ earlier, ReadAt earlier m ∧ RoundMade earlier input
  | .appendAnswer input => ∃ earlier current, ReadAt earlier m ∧ AnswerMade earlier input current
  | _ => True

theorem exec_keeps {outside : Outside} {m : ClarificationMoment} {command : ClarificationCommand}
    {resp : Except Thrown command.Answer} {next : ClarificationStore} (h : History m.state)
    (hpromise : ClarificationPromise m command)
    (hexec : execClarification outside command m.state = (resp, next)) :
    History next ∧ Evolves m.state next := by
  rcases execClarification_cases hexec with rfl | ⟨input, rfl, hok⟩ | ⟨input, rfl, hok⟩
  · exact ⟨h, .refl _⟩
  · obtain ⟨earlier, ⟨hearlier, hevolves⟩, hmade⟩ := hpromise
    exact history_appendRound hearlier h hevolves hmade hok
  · obtain ⟨earlier, current, ⟨hearlier, hevolves⟩, hmade⟩ := hpromise
    exact history_appendAnswer hearlier h hevolves hmade hok

theorem History.update (h : History store) (update : GoalUpdate) : History (update.apply store) :=
  ⟨h.roundIds, h.questionIds, h.rounds, h.threads, h.verdicts, h.paired, h.asked, h.allowed⟩

def clarificationOutline : Outline clarificationSystem where
  cond := fun _ _ => True
  inv := fun m => History m.state
  evolves := Evolves
  promise := fun _ => ClarificationPromise
  evolves_refl := .refl
  evolves_trans := .trans
  spawn := fun h _ _ => h
  perform := fun h _ hpromise hexec => exec_keeps h hpromise (Option.some.inj hexec)
  finish := fun h _ => h
  crash := fun h _ => h
  change := by
    intro m update state h _ henv
    obtain rfl := Option.some.inj henv
    exact ⟨h.update update, List.prefix_rfl, List.prefix_rfl, List.prefix_rfl⟩

section Entries

variable {pid : ℕ} {m m' : ClarificationMoment} {α : Type} {f : Unit → ClarificationProgram α}
  {name : String} {scope : GoalScope}

theorem ReadAt.onward {earlier : ClarificationStore} (h : ReadAt earlier m)
    (honward : clarificationOutline.Onward m m') : ReadAt earlier m' :=
  ⟨h.1, h.2.trans honward.evolves⟩

theorem ensures_check_bind {ok : Bool} {error : Thrown}
    (hf : ok = true → clarificationOutline.ensures pid (f ()) (fun _ _ => True) m) :
    clarificationOutline.ensures pid (check ok error >>= f) (fun _ _ => True) m := by
  unfold check
  split
  · next hok => exact Outline.ensures_bind (Outline.ensures_pure (hf hok))
  · exact Outline.ensures_bind Outline.ensures_throw

theorem ensures_positive_bind {value : ℕ}
    (hf : clarificationOutline.ensures pid (f ()) (fun _ _ => True) m) :
    clarificationOutline.ensures pid (positive value name >>= f) (fun _ _ => True) m := by
  unfold positive
  split
  · exact Outline.ensures_bind Outline.ensures_throw
  · exact Outline.ensures_bind (Outline.ensures_pure hf)

theorem ensures_text_bind {value : JsString} {maximum : ℕ} {f : JsString → ClarificationProgram α}
    (hf : ∀ s, clarificationOutline.ensures pid (f s) (fun _ _ => True) m) :
    clarificationOutline.ensures pid (text value name maximum >>= f) (fun _ _ => True) m := by
  unfold text
  split
  · exact Outline.ensures_bind Outline.ensures_throw
  · exact Outline.ensures_bind (Outline.ensures_pure (hf _))

theorem ensures_goalOf_bind {f : GoalContract → ClarificationProgram α}
    (hf : ∀ goal m', clarificationOutline.Onward m m' → clarificationOutline.ensures pid (f goal)
      (fun _ _ => True) m') :
    clarificationOutline.ensures pid (goalOf scope >>= f) (fun _ _ => True) m := by
  refine Outline.ensures_bind (Outline.ensures_bind (Outline.ensures_mono
    (Outline.ensures_request_onward fun _ _ => trivial) ?_))
  intro goal m' honward
  cases goal with
  | none => exact Outline.ensures_throw
  | some goal => exact Outline.ensures_pure (hf goal m' honward)

theorem ensures_getTimeline_bind {f : ClarificationTimeline → ClarificationProgram α}
    (hf : ∀ earlier m', ReadAt earlier m' → clarificationOutline.ensures pid (f
      (earlier.getTimeline scope)) (fun _ _ => True) m') :
    clarificationOutline.ensures pid (await (.getTimeline scope) >>= f) (fun _ _ => True) m := by
  refine Outline.ensures_bind (Outline.ensures_request fun m' hlater _ => ⟨trivial, ?_⟩)
  intro outside answer state hexec hinv hevolves
  have hperform := Option.some.inj hexec
  unfold execClarification at hperform
  split at hperform
  · obtain ⟨hanswer, hstate⟩ := Prod.mk.inj hperform
    obtain rfl := Except.ok.inj hanswer
    exact hf m'.state _ ⟨hlater.inv, hevolves⟩
  · cases (Prod.mk.inj hperform).1
  · cases (Prod.mk.inj hperform).1

theorem ensures_questions {round : ClarificationRound}
    {drafts : List PlannerClarificationQuestion} :
    clarificationOutline.ensures pid (forEach (newQuestion round) drafts)
      (fun questions m' => clarificationOutline.Onward m m' ∧
        ∀ question ∈ questions, ∃ draft id threadId,
          question = openQuestion round draft id threadId) m := by
  induction drafts generalizing m with
  | nil => exact Outline.ensures_pure ⟨.refl m, fun _ h => absurd h List.not_mem_nil⟩
  | cons draft drafts ih =>
      refine Outline.ensures_bind (Outline.ensures_bind (Outline.ensures_mono
        (Outline.ensures_request_onward fun _ _ => trivial) fun id m₁ h₁ => ?_))
      refine Outline.ensures_bind (Outline.ensures_mono
        (Outline.ensures_request_onward fun _ _ => trivial) fun threadId m₂ h₂ => Outline.ensures_pure ?_)
      refine Outline.ensures_bind (Outline.ensures_mono ih fun questions m₃ h₃ =>
        Outline.ensures_pure ?_)
      refine ⟨h₁.trans (h₂.trans h₃.1), fun question hquestion => ?_⟩
      rcases List.mem_cons.mp hquestion with rfl | hold
      · exact ⟨draft, id, threadId, rfl⟩
      · exact h₃.2 question hold

theorem ensures_generate {command : GenerateClarificationsCommand} :
    clarificationOutline.ensures pid (generate command) (fun _ _ => True) m := by
  unfold generate
  refine Outline.ensures_onward_bind (fun _ _ => trivial) fun _ _ _ => ?_
  refine ensures_positive_bind (ensures_text_bind fun reason => ?_)
  refine ensures_goalOf_bind fun goal _ _ => ensures_check_bind fun _ => ?_
  refine ensures_getTimeline_bind fun earlier m₁ hread₁ => ?_
  refine Outline.ensures_onward_bind (fun _ _ => trivial) fun planned m₂ h₂ => ?_
  refine ensures_check_bind fun _ => ?_
  refine Outline.ensures_onward_bind (fun _ _ => trivial) fun createdAt m₃ h₃ => ?_
  refine Outline.ensures_onward_bind (fun _ _ => trivial) fun id m₄ h₄ => ?_
  refine Outline.ensures_bind (Outline.ensures_mono ensures_questions ?_)
  rintro questions m₅ ⟨h₅, hquestions⟩
  refine Outline.ensures_request fun m₆ h₆ _ => ⟨?_, fun _ _ _ _ _ _ => trivial⟩
  have hread := (((((hread₁.onward h₂).onward h₃).onward h₄).onward h₅).onward h₆.onward)
  exact ⟨earlier, hread, roundMade_nextRound hquestions⟩

theorem ensures_answer {command : AnswerClarificationCommand} :
    clarificationOutline.ensures pid (answer command) (fun _ _ => True) m := by
  unfold answer
  refine Outline.ensures_onward_bind (fun _ _ => trivial) fun _ _ _ => ?_
  refine ensures_positive_bind (ensures_positive_bind (ensures_text_bind fun answer => ?_))
  refine ensures_text_bind fun reason => ?_
  refine ensures_goalOf_bind fun goal _ _ => ensures_check_bind fun _ => ?_
  refine ensures_getTimeline_bind fun earlier m₁ hread₁ => ?_
  split
  · exact Outline.ensures_throw
  · next current hcurrent =>
    unfold answerCurrent
    refine ensures_check_bind fun _ => ensures_check_bind fun _ => ?_
    refine Outline.ensures_onward_bind (fun _ _ => trivial) fun createdAt m₂ h₂ => ?_
    refine Outline.ensures_onward_bind (fun _ _ => trivial) fun id m₃ h₃ => ?_
    refine Outline.ensures_onward_bind (fun _ _ => trivial) fun decisionId m₄ h₄ => ?_
    refine Outline.ensures_request fun m₅ h₅ _ => ⟨?_, fun _ _ _ _ _ _ => trivial⟩
    have hread := (((hread₁.onward h₂).onward h₃).onward h₄).onward h₅.onward
    exact ⟨earlier, current, hread, answerMade_answerInput hcurrent⟩

theorem clarificationOutline_entries : clarificationOutline.Entries := by
  intro pid call m _ _
  have hcall : clarificationOutline.ensures pid call.program (fun _ _ => True) m := by
    cases call with
    | generate command =>
        exact Outline.ensures_bind (Outline.ensures_mono ensures_generate
          fun _ _ _ => Outline.ensures_pure trivial)
    | answer command =>
        exact Outline.ensures_bind (Outline.ensures_mono ensures_answer
          fun _ _ _ => Outline.ensures_pure trivial)
  exact Outline.wp_of_ensures hcall

end Entries

theorem history_ofGoals (goals : GoalScope → Option GoalContract) :
    History (.ofGoals goals) where
  roundIds := List.nodup_nil
  questionIds := List.nodup_nil
  rounds := fun _ => .nil
  threads := fun _ _ => .nil
  verdicts := fun _ _ => .nil
  paired := fun _ _ => .nil
  asked := fun _ h => absurd h List.not_mem_nil
  allowed := fun _ h => absurd h List.not_mem_nil

theorem sound_of_reached {goals : GoalScope → Option GoalContract} {c : ClarificationConfig}
    (hrun : Reached clarificationSystem (.ofGoals goals) c) : clarificationOutline.Sound c :=
  Outline.sound_of_run clarificationOutline_entries (history_ofGoals goals) hrun

end DevHarness.Clarifications
