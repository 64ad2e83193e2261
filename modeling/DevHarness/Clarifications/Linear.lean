import DevHarness.Clarifications.History

/-!
# What is appended goes on from the last row

A timeline that was read earlier may be out of date when its reader appends.  The
transactions compare identifiers; here it is shown that those comparisons make the rows
that were read the last ones at the commit, although the timeline takes revisions and
decisions in the order of their clock readings.
-/

namespace DevHarness.Clarifications

open JsText ControlPlane Interleave

section Related

variable {α β : Type} {R : α → β → Prop} {as : List α} {bs : List β} {a : α}

theorem exists_of_forall₂ (h : List.Forall₂ R as bs) (ha : a ∈ as) : ∃ b ∈ bs, R a b := by
  induction h with
  | nil => exact absurd ha List.not_mem_nil
  | @cons a' b' as bs hab _ ih =>
      rcases List.mem_cons.mp ha with rfl | hold
      · exact ⟨b', List.mem_cons_self, hab⟩
      · obtain ⟨b, hb, hR⟩ := ih hold
        exact ⟨b, List.mem_cons_of_mem _ hb, hR⟩

theorem getLast?_of_forall₂ (h : List.Forall₂ R as bs) {b : β} (ha : as.getLast? = some a)
    (hb : bs.getLast? = some b) : R a b := by
  induction h with
  | nil => cases ha
  | @cons a' b' as bs hab hrest ih =>
      cases hrest with
      | nil =>
          obtain rfl : a' = a := by simpa using ha
          obtain rfl : b' = b := by simpa using hb
          exact hab
      | @cons a₁ b₁ as bs hab₁ hrest =>
          rw [List.getLast?_cons_cons] at ha hb
          exact ih ha hb

end Related

section Settled

variable {store earlier : ClarificationStore} {scope : GoalScope} {threadId : JsString}
  {current : ClarificationQuestionRevision}

theorem threadOf_settled (hearlier : History earlier) (h : History store)
    (hevolves : Evolves earlier store) (hmem : current ∈ earlier.threadOf scope threadId)
    (hlast : (store.threadOf scope threadId).getLast? = some current) :
    earlier.threadOf scope threadId = store.threadOf scope threadId ∧
      earlier.verdictsOf scope threadId = store.verdictsOf scope threadId := by
  have hthread := (h.threads scope threadId).eq_of_isPrefix hevolves.threadOf hmem hlast
  refine ⟨hthread, hevolves.verdictsOf.eq_of_length ?_⟩
  rw [hearlier.length_verdictsOf, h.length_verdictsOf, hthread]

theorem mem_of_current (hcurrent : (store.getTimeline scope).current threadId = some current) :
    current ∈ store.threadOf scope threadId := by
  have hmem := List.mem_filter.mp (List.mem_of_getLast? hcurrent)
  exact List.mem_filter.mpr ⟨Sql.mem_orderBy.mp hmem.1, hmem.2⟩

theorem questionOrders : Sql.Orders questionOrder :=
  Sql.orders_thenBy _ (Sql.orders_thenBy _ (Sql.orders_byKey _))

theorem decisionOrders : Sql.Orders decisionOrder :=
  Sql.orders_thenBy _ (Sql.orders_thenBy _ (Sql.orders_byKey _))

theorem createdAt_le_current
    (hcurrent : (store.getTimeline scope).current threadId = some current)
    {question : ClarificationQuestionRevision} (hmem : question ∈ store.threadOf scope threadId) :
    question.createdAt ≤ current.createdAt := by
  obtain ⟨-, -, hlast⟩ := Sql.last_of_orderBy questionOrders hcurrent
  obtain ⟨hquestion, hthread⟩ := List.mem_filter.mp hmem
  rcases Sql.thenBy_eq_true.mp (hlast question hquestion hthread) with hlt | ⟨heq, -⟩
  · exact le_of_lt hlt
  · exact le_of_eq heq

theorem priorDecision_of_last (h : History store)
    (hcurrent : (store.getTimeline scope).current threadId = some current)
    (hlast : (store.threadOf scope threadId).getLast? = some current) :
    (store.getTimeline scope).priorDecision threadId =
      (store.verdictsOf scope threadId).getLast? := by
  cases hverdict : (store.verdictsOf scope threadId).getLast? with
  | none =>
      have hnil := List.getLast?_eq_none_iff.mp hverdict
      have hempty : ((store.getTimeline scope).decisions.filter fun decision =>
          decision.decisionKey = threadId) = [] := by
        refine List.filter_eq_nil_iff.mpr fun decision hdecision hkey => ?_
        have hmem : decision ∈ store.verdictsOf scope threadId :=
          List.mem_filter.mpr ⟨Sql.mem_orderBy.mp hdecision, hkey⟩
        rw [hnil] at hmem
        exact absurd hmem List.not_mem_nil
      simp only [ClarificationTimeline.priorDecision, hempty, List.getLast?_nil]
  | some verdict =>
      have hmem := List.mem_of_getLast? hverdict
      obtain ⟨hdecisions, hkey⟩ := List.mem_filter.mp hmem
      obtain ⟨prior, hprior⟩ : ∃ prior,
          (store.getTimeline scope).priorDecision threadId = some prior :=
        Sql.exists_last_of_orderBy hdecisions hkey
      obtain ⟨hpriorMem, hpriorKey, hpriorLast⟩ := Sql.last_of_orderBy decisionOrders hprior
      have hpriorVerdict : prior ∈ store.verdictsOf scope threadId :=
        List.mem_filter.mpr ⟨hpriorMem, hpriorKey⟩
      -- the last decision was recorded with the current revision, which is stamped last
      have hpaired := h.paired scope threadId
      have htail : (store.threadOf scope threadId).tail.getLast? = some current := by
        have hlength := hpaired.length_eq
        have hpos := List.length_pos_of_mem hmem
        rw [List.getLast?_tail, if_neg, hlast]
        rw [hlength, List.length_tail] at hpos
        omega
      have hverdictAt := (getLast?_of_forall₂ hpaired hverdict htail).createdAt
      obtain ⟨question, hquestion, hquestionPaired⟩ := exists_of_forall₂ hpaired hpriorVerdict
      have hpriorAt : prior.createdAt ≤ verdict.createdAt := by
        rw [hquestionPaired.createdAt, hverdictAt]
        exact createdAt_le_current hcurrent (List.mem_of_mem_tail hquestion)
      have hrevision : verdict.revision ≤ prior.revision := by
        rcases Sql.thenBy_eq_true.mp (hpriorLast verdict hdecisions hkey) with hlt | ⟨-, hrest⟩
        · omega
        · have hkeys : verdict.decisionKey = prior.decisionKey := by
            simp only [decide_eq_true_eq] at hkey hpriorKey
            rw [hkey, hpriorKey]
          rcases Sql.thenBy_eq_true.mp hrest with hlt | ⟨-, hle⟩
          · rw [hkeys] at hlt
            exact absurd hlt (lt_irrefl _)
          · simpa [Sql.byKey] using hle
      have heq := (h.verdicts scope threadId).eq_of_number_le hpriorVerdict hverdict hrevision
      rw [← heq]
      exact hprior

end Settled

section Transactions

variable {store next : ClarificationStore}

theorem appendRound_eq_ok {input : AppendClarificationRound} :
    store.appendRound input = .ok next ↔
      store.goalVersion input.round.scope = some input.expectedGoalVersion ∧
      (store.latestRound input.round.scope).map (·.id) = input.expectedPreviousRoundId ∧
      ∃ mid, store.insertRound input.round = .ok mid ∧
        mid.insertQuestions input.questions = .ok next := by
  unfold ClarificationStore.appendRound
  dsimp only
  split
  · next h =>
    simp only [reduceCtorEq, false_iff]
    exact fun hall => h hall.1
  · next hversion =>
    split
    · next h =>
      simp only [reduceCtorEq, false_iff]
      exact fun hall => h hall.2.1
    · next hlatest =>
      have hversion' := not_not.mp hversion
      have hlatest' := not_not.mp hlatest
      cases hinsert : store.insertRound input.round with
      | error error => simp [hversion', hlatest', bind, Except.bind]
      | ok mid => simp [hversion', hlatest', bind, Except.bind]

theorem appendAnswer_eq_ok {input : AppendClarificationAnswer} :
    store.appendAnswer input = .ok next ↔
      store.goalVersion input.question.scope = some input.expectedGoalVersion ∧
      ∃ row, store.latestQuestion input.question.scope input.question.threadId = some row ∧
        (row.id = input.expectedQuestionId ∧ row.revision = input.expectedQuestionRevision) ∧
        (some row.roundId = (store.latestRound input.question.scope).map (·.id) ∧
          row.sourceGoalVersion = input.expectedGoalVersion) ∧
        ∃ mid, store.insertQuestion input.question = .ok mid ∧
          mid.insertDecision input.decision = .ok next := by
  unfold ClarificationStore.appendAnswer
  dsimp only
  split
  · next h =>
    simp only [reduceCtorEq, false_iff]
    exact fun hall => h hall.1
  · next hversion =>
    have hversion' := not_not.mp hversion
    cases hlatest : store.latestQuestion input.question.scope input.question.threadId with
    | none => simp
    | some row =>
      simp only [hversion', true_and, Option.some.injEq, exists_eq_left']
      split
      · next h =>
        simp only [reduceCtorEq, false_iff]
        exact fun hall => h.elim (absurd hall.1.1) (absurd hall.1.2)
      · next hrow =>
        split
        · next h =>
          simp only [reduceCtorEq, false_iff]
          exact fun hall => h.elim (absurd hall.2.1.1) (absurd hall.2.1.2)
        · next hround =>
          simp only [not_or, not_not] at hrow hround
          cases hinsert : store.insertQuestion input.question with
          | error error => simp [bind, Except.bind]
          | ok mid => simp [hrow, hround, bind, Except.bind]

theorem insertQuestions_keeps {P : ClarificationStore → Prop}
    {questions : List ClarificationQuestionRevision}
    (hstep : ∀ store next, ∀ question ∈ questions, P store →
      store.insertQuestion question = .ok next → P next)
    (hstore : P store) (hinsert : store.insertQuestions questions = .ok next) : P next := by
  induction questions generalizing store with
  | nil =>
      obtain rfl := Except.ok.inj hinsert
      exact hstore
  | cons question questions ih =>
      simp only [ClarificationStore.insertQuestions] at hinsert
      cases hfirst : store.insertQuestion question with
      | error error =>
          rw [hfirst] at hinsert
          cases hinsert
      | ok mid =>
          rw [hfirst] at hinsert
          exact ih (fun store next q hq => hstep store next q (List.mem_cons_of_mem _ hq))
            (hstep store mid question List.mem_cons_self hstore hfirst) hinsert

end Transactions

end DevHarness.Clarifications
