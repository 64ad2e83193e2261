import DevHarness.Landings.Ledger

/-!
# The states of a landing

A row moves from prepared to integrated to finalised, or from prepared to abandoned.  An abandoned
row is never written again, but two operations do not look for its state.
-/

namespace DevHarness.Landings

open PyText Sequence

/-! ## What a write may change -/

inductive StateMoves : LandingState → LandingState → Prop
  | stays (state : LandingState) : StateMoves state state
  | integrates : StateMoves .prepared .integrated
  | finalizes : StateMoves .integrated .queueFinalized
  | abandons : StateMoves .prepared .abandoned

structure SameLanding (row row' : Landing) : Prop where
  taskId : row'.taskId = row.taskId
  runId : row'.runId = row.runId
  integrationBranch : row'.integrationBranch = row.integrationBranch
  queueClaim : row'.queueClaim = row.queueClaim
  pushRequired : row'.pushRequired = row.pushRequired

structure Writes (row row' : Landing) : Prop where
  same : SameLanding row row'
  state : StateMoves row.state row'.state
  refs : row.state ≠ .prepared →
    row'.expectedRef = row.expectedRef ∧ row'.candidateSha = row.candidateSha
  version : row'.version = row.version + 1
  open_ : row.state ≠ .abandoned

/-- What an operation that succeeds has written. -/
inductive Outcome (ledger ledger' : Ledger) : Prop
  | nothing (h : ledger'.row? = ledger.row?)
  | inserted (row : Landing) (hnew : ledger.row? row.taskId row.runId = none)
      (hstate : row.state = .prepared) (hversion : row.version = 1)
      (h : ledger'.row? = (ledger.put row).row?)
  | updated (row row' : Landing) (hrow : ledger.row? row.taskId row.runId = some row)
      (hwrites : Writes row row') (h : ledger'.row? = (ledger.put row').row?)

variable {ledger ledger' : Ledger} {row : Landing} {taskId runId : PyString}

section Operations

variable {outside : Outside} {answer : Answer} {opened : Ledger} {record : Mapping}
  {currentRef : PyString} {state : LandingState} {ancestor : Bool}

theorem ensure_eq_ok {holds : Bool} {error : LandingError} :
    ensure holds error = .ok () ↔ holds = true := by
  cases holds <;> simp [ensure]

theorem row?_of_projectRow (h : ledger.projectRow outside = .ok ledger') :
    ledger'.row? = ledger.row? := by
  unfold Ledger.projectRow at h
  split at h
  · rw [← Except.ok.inj h]
  · split at h
    · rw [← Except.ok.inj h]
    · cases h

theorem row?_put_of_eq (h : ledger'.row? = ledger.row?) :
    (ledger'.put row).row? = (ledger.put row).row? := by
  funext taskId runId
  change (if _ then _ else ledger'.row? taskId runId) = (if _ then _ else ledger.row? taskId runId)
  rw [h]

theorem locked_eq_ok : ledger.locked taskId runId = .ok row ↔ ledger.row? taskId runId = some row := by
  unfold Ledger.locked
  cases ledger.row? taskId runId <;> simp

theorem row?_of_locked (hopened : ledger.projectRow outside = .ok opened)
    (h : opened.locked taskId runId = .ok row) : ledger.row? row.taskId row.runId = some row := by
  rw [locked_eq_ok, row?_of_projectRow hopened] at h
  obtain ⟨htask, hrun⟩ := ledger.keyed taskId runId row h
  rw [htask, hrun, h]

theorem Outcome.of_put {row' : Landing} (hopened : ledger.projectRow outside = .ok opened)
    (hrow : ledger.row? row.taskId row.runId = some row) (hwrites : Writes row row')
    (h : opened.put row' = ledger') : Outcome ledger ledger' :=
  .updated row row' hrow hwrites (by rw [← h, row?_put_of_eq (row?_of_projectRow hopened)])

theorem prepare_cases (h : prepare outside record ledger = .ok (ledger', answer)) :
    ∃ texts claim opened, recordTexts record = .ok texts ∧ claimOf record = .ok claim ∧
      ledger.projectRow outside = .ok opened ∧
      ((∃ row, ledger.row? texts.taskId texts.runId = some row ∧
          row.identity.same (recordIdentity record claim) = true ∧ ledger' = opened ∧
          answer = ⟨row, none⟩) ∨
        ledger.row? texts.taskId texts.runId = none ∧
          ∃ row : Landing, row.taskId = texts.taskId ∧ row.runId = texts.runId ∧
            row.state = .prepared ∧ row.version = 1 ∧ ledger' = opened.put row ∧
            answer.landing.taskId = texts.taskId ∧ answer.landing.runId = texts.runId) := by
  rw [prepare, bind_eq_ok] at h
  obtain ⟨texts, htexts, h⟩ := h
  obtain ⟨claim, hclaim, h⟩ := bind_eq_ok.mp h
  obtain ⟨opened, hopened, h⟩ := bind_eq_ok.mp h
  refine ⟨texts, claim, opened, htexts, hclaim, hopened, ?_⟩
  rw [row?_of_projectRow hopened] at h
  split at h
  · next row hrow =>
    split at h
    · next hsame =>
      obtain ⟨rfl, rfl⟩ := Prod.mk.inj (Except.ok.inj h)
      exact .inl ⟨row, hrow, hsame, rfl, rfl⟩
    · cases h
  · next hrow =>
    rw [insertLanding, bind_eq_ok] at h
    obtain ⟨detail, -, h⟩ := h
    obtain ⟨queueClaim, -, h⟩ := bind_eq_ok.mp h
    obtain ⟨stored, -, h⟩ := bind_eq_ok.mp h
    obtain ⟨rfl, rfl⟩ := Prod.mk.inj (Except.ok.inj h)
    exact .inr ⟨hrow, _, rfl, rfl, rfl, rfl, rfl, rfl, rfl⟩

theorem outcome_prepare (h : prepare outside record ledger = .ok (ledger', answer)) :
    Outcome ledger ledger' := by
  obtain ⟨texts, claim, opened, -, -, hopened, hcases⟩ := prepare_cases h
  rcases hcases with ⟨row, -, -, rfl, -⟩ | ⟨hnew, row, htask, hrun, hstate, hversion, rfl, -⟩
  · exact .nothing (row?_of_projectRow hopened)
  · refine .inserted row ?_ hstate hversion (row?_put_of_eq (row?_of_projectRow hopened))
    rw [htask, hrun, hnew]

theorem outcome_replacePrepared {previous : Bool}
    (h : replacePrepared outside record currentRef previous ledger = .ok (ledger', answer)) :
    Outcome ledger ledger' := by
  rw [replacePrepared, bind_eq_ok] at h
  obtain ⟨texts, -, h⟩ := h
  obtain ⟨current, -, h⟩ := bind_eq_ok.mp h
  obtain ⟨-, h⟩ := check_bind_eq_ok.mp h
  obtain ⟨-, h⟩ := check_bind_eq_ok.mp h
  obtain ⟨claim, -, h⟩ := bind_eq_ok.mp h
  obtain ⟨opened, hopened, h⟩ := bind_eq_ok.mp h
  obtain ⟨row, hlocked, h⟩ := bind_eq_ok.mp h
  obtain ⟨hprepared, h⟩ := check_bind_eq_ok.mp h
  obtain ⟨-, h⟩ := check_bind_eq_ok.mp h
  obtain ⟨-, h⟩ := check_bind_eq_ok.mp h
  obtain ⟨detail, -, h⟩ := bind_eq_ok.mp h
  obtain ⟨stored, -, h⟩ := bind_eq_ok.mp h
  obtain ⟨hput, -⟩ := Prod.mk.inj (Except.ok.inj h)
  have hstate : row.state = .prepared := of_decide_eq_true (ensure_eq_ok.mp hprepared)
  refine .of_put hopened (row?_of_locked hopened hlocked) ?_ hput
  exact
    { same := ⟨rfl, rfl, rfl, rfl, rfl⟩
      state := StateMoves.stays row.state
      refs := fun hne => absurd hstate hne
      version := rfl
      open_ := by
        rw [hstate]
        decide }

theorem outcome_writeEvidence {updates : Mapping}
    (hopened : ledger.projectRow outside = .ok opened)
    (hrow : ledger.row? row.taskId row.runId = some row) (hmoves : StateMoves row.state state)
    (hopen : row.state ≠ .abandoned)
    (h : writeEvidence outside updates state row opened = .ok (ledger', answer)) :
    Outcome ledger ledger' := by
  rw [writeEvidence, bind_eq_ok] at h
  obtain ⟨detail?, -, h⟩ := h
  split at h
  · obtain ⟨hput, -⟩ := Prod.mk.inj (Except.ok.inj h)
    refine .of_put hopened hrow ?_ hput
    exact ⟨⟨rfl, rfl, rfl, rfl, rfl⟩, hmoves, fun _ => ⟨rfl, rfl⟩, rfl, hopen⟩
  · obtain ⟨stored, -, h⟩ := bind_eq_ok.mp h
    obtain ⟨hput, -⟩ := Prod.mk.inj (Except.ok.inj h)
    refine .of_put hopened hrow ?_ hput
    exact ⟨⟨rfl, rfl, rfl, rfl, rfl⟩, hmoves, fun _ => ⟨rfl, rfl⟩, rfl, hopen⟩

theorem knownState_eq_ok {text : PyString} (h : knownState text = .ok state) :
    state ∈ landingStates ∧ text = state.text := by
  unfold knownState at h
  split at h
  · next known hfind =>
    obtain rfl := Except.ok.inj h
    have hname := List.find?_some hfind
    exact ⟨List.mem_of_find?_eq_some hfind, (of_decide_eq_true hname).symm⟩
  · cases h

theorem ne_abandoned_of_mem (h : state ∈ landingStates) : state ≠ .abandoned := by
  rintro rfl
  revert h
  decide

theorem stateMoves_of_stateIndex {state state' : LandingState} (h : state ∈ landingStates)
    (h' : state' ∈ landingStates)
    (hindex : stateIndex state'.text = (stateIndex state.text).map (· + 1)) :
    StateMoves state state' := by
  cases state with
  | prepared =>
      cases state' with
      | integrated => exact .integrates
      | _ => exact absurd hindex (by decide)
  | integrated =>
      cases state' with
      | queueFinalized => exact .finalizes
      | _ => exact absurd hindex (by decide)
  | queueFinalized => cases state' <;> exact absurd hindex (by decide)
  | abandoned => exact absurd rfl (ne_abandoned_of_mem h)

theorem outcome_advance {projectId expectedStatus newStatus : PyString} {changes : Option Mapping}
    (h : advance outside projectId taskId runId expectedStatus newStatus changes ledger =
      .ok (ledger', answer)) : Outcome ledger ledger' := by
  rw [advance, check_bind_eq_ok] at h
  obtain ⟨-, h⟩ := h
  obtain ⟨expected, hexpected, h⟩ := bind_eq_ok.mp h
  obtain ⟨new, hnew, h⟩ := bind_eq_ok.mp h
  obtain ⟨hindex, h⟩ := check_bind_eq_ok.mp h
  obtain ⟨-, h⟩ := check_bind_eq_ok.mp h
  obtain ⟨opened, hopened, h⟩ := bind_eq_ok.mp h
  obtain ⟨row, hlocked, h⟩ := bind_eq_ok.mp h
  obtain ⟨hstate, h⟩ := check_bind_eq_ok.mp h
  obtain ⟨hknown, hname⟩ := knownState_eq_ok hexpected
  obtain ⟨hknown', hname'⟩ := knownState_eq_ok hnew
  have hindex := of_decide_eq_true (ensure_eq_ok.mp hindex)
  rw [hname, hname'] at hindex
  have hstate : row.state = expected := of_decide_eq_true (ensure_eq_ok.mp hstate)
  have hmoves : StateMoves row.state new := hstate ▸ stateMoves_of_stateIndex hknown hknown' hindex
  have hopen : row.state ≠ .abandoned := hstate ▸ ne_abandoned_of_mem hknown
  exact outcome_writeEvidence hopened (row?_of_locked hopened hlocked) hmoves hopen h

theorem outcome_updateEvidence {projectId expectedStatus : PyString} {changes : Mapping}
    (h : updateEvidence outside projectId taskId runId expectedStatus changes ledger =
      .ok (ledger', answer)) : Outcome ledger ledger' := by
  rw [updateEvidence, check_bind_eq_ok] at h
  obtain ⟨-, h⟩ := h
  obtain ⟨expected, hexpected, h⟩ := bind_eq_ok.mp h
  obtain ⟨-, h⟩ := check_bind_eq_ok.mp h
  obtain ⟨opened, hopened, h⟩ := bind_eq_ok.mp h
  obtain ⟨row, hlocked, h⟩ := bind_eq_ok.mp h
  obtain ⟨hstate, h⟩ := check_bind_eq_ok.mp h
  have hstate : row.state = expected := of_decide_eq_true (ensure_eq_ok.mp hstate)
  have hopen : row.state ≠ .abandoned :=
    hstate ▸ ne_abandoned_of_mem (knownState_eq_ok hexpected).1
  exact outcome_writeEvidence hopened (row?_of_locked hopened hlocked) (.stays _) hopen h

section

variable
  (h : reconcileGitFact outside taskId runId currentRef ancestor ledger = .ok (ledger', answer))

include h

theorem reconcileGitFact_cases :
    ∃ current opened row, validateGitSha currentRef = .ok current ∧
      ledger.projectRow outside = .ok opened ∧ ledger.row? taskId runId = some row ∧
      (ledger' = opened ∧ row.state ≠ .abandoned ∨
        row.state = .prepared ∧ ledger' = opened.put
          { row with state := .integrated, version := row.version + 1, updatedAt := outside.now } ∨
        ledger' = opened ∧ row.state = .abandoned ∧ ancestor = true ∧
          answer.recoveryAction = some .finalizeQueue) := by
  rw [reconcileGitFact, bind_eq_ok] at h
  obtain ⟨current, hcurrent, h⟩ := h
  obtain ⟨opened, hopened, h⟩ := bind_eq_ok.mp h
  obtain ⟨row, hlocked, h⟩ := bind_eq_ok.mp h
  have hrow : ledger.row? taskId runId = some row := by
    rw [← row?_of_projectRow hopened]
    exact locked_eq_ok.mp hlocked
  refine ⟨current, opened, row, hcurrent, hopened, hrow, ?_⟩
  split at h
  · next hstate =>
    obtain ⟨rfl, -⟩ := Prod.mk.inj (Except.ok.inj h)
    exact .inl ⟨rfl, by rw [hstate]; decide⟩
  · split at h
    · next hstate =>
      obtain ⟨rfl, -⟩ := Prod.mk.inj (Except.ok.inj h)
      exact .inl ⟨rfl, by rw [hstate.1]; decide⟩
    · split at h
      · next hstate =>
        obtain ⟨rfl, -⟩ := Prod.mk.inj (Except.ok.inj h)
        exact .inl ⟨rfl, by rw [hstate.2]; decide⟩
      · split at h
        · cases h
        · next hancestor =>
          split at h
          · next hstate =>
            obtain ⟨rfl, -⟩ := Prod.mk.inj (Except.ok.inj h)
            exact .inr (.inl ⟨hstate, rfl⟩)
          · obtain ⟨rfl, rfl⟩ := Prod.mk.inj (Except.ok.inj h)
            by_cases habandoned : row.state = .abandoned
            · exact .inr (.inr ⟨rfl, habandoned, by simpa using hancestor, rfl⟩)
            · exact .inl ⟨rfl, habandoned⟩

theorem outcome_reconcileGitFact : Outcome ledger ledger' := by
  obtain ⟨current, opened, row, -, hopened, hrow, hcases⟩ := reconcileGitFact_cases h
  have hnothing := row?_of_projectRow hopened
  rcases hcases with ⟨rfl, -⟩ | ⟨hstate, hput⟩ | ⟨rfl, -⟩
  · exact .nothing hnothing
  · obtain ⟨htask, hrun⟩ := ledger.keyed taskId runId row hrow
    have hfound : ledger.row? row.taskId row.runId = some row := by rw [htask, hrun, hrow]
    refine .of_put hopened hfound ?_ hput.symm
    refine ⟨⟨rfl, rfl, rfl, rfl, rfl⟩, ?_, fun _ => ⟨rfl, rfl⟩, rfl, ?_⟩
    · rw [hstate]
      exact .integrates
    · rw [hstate]
      decide
  · exact .nothing hnothing

end

theorem outcome_abandonPrepared
    (h : abandonPrepared outside taskId runId currentRef ancestor ledger = .ok (ledger', answer)) :
    Outcome ledger ledger' := by
  rw [abandonPrepared, bind_eq_ok] at h
  obtain ⟨current, -, h⟩ := h
  obtain ⟨-, h⟩ := check_bind_eq_ok.mp h
  obtain ⟨opened, hopened, h⟩ := bind_eq_ok.mp h
  obtain ⟨row, hlocked, h⟩ := bind_eq_ok.mp h
  obtain ⟨hprepared, h⟩ := check_bind_eq_ok.mp h
  obtain ⟨-, h⟩ := check_bind_eq_ok.mp h
  obtain ⟨stored, -, h⟩ := bind_eq_ok.mp h
  obtain ⟨hput, -⟩ := Prod.mk.inj (Except.ok.inj h)
  have hstate : row.state = .prepared := of_decide_eq_true (ensure_eq_ok.mp hprepared)
  refine .of_put hopened (row?_of_locked hopened hlocked) ?_ hput
  refine ⟨⟨rfl, rfl, rfl, rfl, rfl⟩, ?_, fun _ => ⟨rfl, rfl⟩, rfl, ?_⟩
  · rw [hstate]
    exact .abandons
  · rw [hstate]
    decide

theorem outcome_of_perform {call : Call} (h : perform outside ledger call = .ok (ledger', answer)) :
    Outcome ledger ledger' := by
  cases call with
  | prepare record => exact outcome_prepare h
  | replacePrepared record currentRef previous => exact outcome_replacePrepared h
  | advance projectId taskId runId expectedStatus newStatus changes => exact outcome_advance h
  | updateEvidence projectId taskId runId expectedStatus changes => exact outcome_updateEvidence h
  | reconcileGitFact taskId runId currentRef ancestor => exact outcome_reconcileGitFact h
  | abandonPrepared taskId runId currentRef ancestor => exact outcome_abandonPrepared h

end Operations

/-! ## Runs -/

/-- `prepare` of an abandoned landing, under the identity that its row has. -/
def PreparesAbandoned (outside : Outside) (ledger : Ledger) (record : Mapping) : Prop :=
  ∃ texts claim opened row, recordTexts record = .ok texts ∧ claimOf record = .ok claim ∧
    ledger.projectRow outside = .ok opened ∧ ledger.row? texts.taskId texts.runId = some row ∧
    row.state = .abandoned ∧ row.identity.same (recordIdentity record claim) = true

/-- `reconcile_git_fact` of an abandoned landing, with a candidate that the ref contains. -/
def ReconcilesAbandoned (outside : Outside) (ledger : Ledger)
    (taskId runId currentRef : PyString) (candidateIsAncestor : Bool) : Prop :=
  ∃ current opened row, validateGitSha currentRef = .ok current ∧
    ledger.projectRow outside = .ok opened ∧ ledger.row? taskId runId = some row ∧
    row.state = .abandoned ∧ candidateIsAncestor = true

/-- The calls that treat an abandoned landing as a live one. -/
def Revives (ledger : Ledger) (step : Outside × Call) : Prop :=
  match step.2 with
  | .prepare record => PreparesAbandoned step.1 ledger record
  | .reconcileGitFact taskId runId currentRef ancestor =>
    ReconcilesAbandoned step.1 ledger taskId runId currentRef ancestor
  | _ => False

/-- One step of the ledger: each row stays, and is written at most once; a new row is prepared; and
nothing brings an abandoned landing back. -/
structure StepSafe (ledger : Ledger) (step : Outside × Call) : Prop where
  rows : ∀ taskId runId row, ledger.row? taskId runId = some row →
    ∃ row', (after ledger step).row? taskId runId = some row' ∧ (row' = row ∨ Writes row row')
  fresh : ∀ taskId runId row', ledger.row? taskId runId = none →
    (after ledger step).row? taskId runId = some row' → row'.state = .prepared ∧ row'.version = 1
  prepares : ∀ record ledger' answer row, step.2 = .prepare record →
    perform step.1 ledger step.2 = .ok (ledger', answer) →
    ledger.row? answer.landing.taskId answer.landing.runId = some row → row.state ≠ .abandoned
  reconciles : ∀ taskId runId currentRef ancestor ledger' answer row,
    step.2 = .reconcileGitFact taskId runId currentRef ancestor →
    perform step.1 ledger step.2 = .ok (ledger', answer) →
    ledger.row? taskId runId = some row → row.state = .abandoned →
    answer.recoveryAction ≠ some .finalizeQueue ∧ answer.recoveryAction ≠ some .resumePrepared ∧
      answer.recoveryAction ≠ some .retryPrepared

/-- What a landing is about, and how far it is, from one point of a run to a later one. -/
structure Later (row row' : Landing) : Prop where
  same : SameLanding row row'
  version : row.version ≤ row'.version
  abandoned : row.state = .abandoned → row' = row

structure LedgerSafe (ledger : Ledger) (steps : List (Outside × Call)) : Prop where
  each : ∀ earlier step later, steps = earlier ++ step :: later →
    StepSafe (afterAll ledger earlier) step
  later : ∀ earlier later taskId runId row, steps = earlier ++ later →
    (afterAll ledger earlier).row? taskId runId = some row →
    ∃ row', (afterAll ledger steps).row? taskId runId = some row' ∧ Later row row'

section Runs

variable {step : Outside × Call} {steps : List (Outside × Call)} {row' : Landing}

theorem row?_put_self : (ledger.put row).row? row.taskId row.runId = some row :=
  if_pos ⟨rfl, rfl⟩

theorem row?_put_of_ne (h : ¬ (taskId = row.taskId ∧ runId = row.runId)) :
    (ledger.put row).row? taskId runId = ledger.row? taskId runId :=
  if_neg h

theorem outcome_after (ledger : Ledger) (step : Outside × Call) :
    Outcome ledger (after ledger step) := by
  unfold after
  split
  · next h => exact outcome_of_perform h
  · exact .nothing rfl

theorem Outcome.rowAfter (h : Outcome ledger ledger') (hrow : ledger.row? taskId runId = some row) :
    ∃ row', ledger'.row? taskId runId = some row' ∧ (row' = row ∨ Writes row row') := by
  cases h with
  | nothing h => exact ⟨row, by rw [h, hrow], .inl rfl⟩
  | inserted new hnew _ _ h =>
      refine ⟨row, ?_, .inl rfl⟩
      rw [h, row?_put_of_ne, hrow]
      rintro ⟨rfl, rfl⟩
      rw [hnew] at hrow
      cases hrow
  | updated old new hold hwrites h =>
      rw [h]
      by_cases hkey : taskId = new.taskId ∧ runId = new.runId
      · obtain ⟨rfl, rfl⟩ := hkey
        rw [hwrites.same.taskId, hwrites.same.runId, hold] at hrow
        obtain rfl := Option.some.inj hrow
        exact ⟨new, row?_put_self, .inr hwrites⟩
      · exact ⟨row, by rw [row?_put_of_ne hkey, hrow], .inl rfl⟩

theorem Outcome.freshRow (h : Outcome ledger ledger') (hnone : ledger.row? taskId runId = none)
    (hrow' : ledger'.row? taskId runId = some row') : row'.state = .prepared ∧ row'.version = 1 := by
  cases h with
  | nothing h =>
      rw [h, hnone] at hrow'
      cases hrow'
  | inserted new _ hstate hversion h =>
      rw [h] at hrow'
      by_cases hkey : taskId = new.taskId ∧ runId = new.runId
      · obtain ⟨rfl, rfl⟩ := hkey
        rw [row?_put_self] at hrow'
        obtain rfl := Option.some.inj hrow'
        exact ⟨hstate, hversion⟩
      · rw [row?_put_of_ne hkey, hnone] at hrow'
        cases hrow'
  | updated old new hold hwrites h =>
      rw [h] at hrow'
      by_cases hkey : taskId = new.taskId ∧ runId = new.runId
      · rw [hkey.1, hkey.2, hwrites.same.taskId, hwrites.same.runId, hold] at hnone
        cases hnone
      · rw [row?_put_of_ne hkey, hnone] at hrow'
        cases hrow'

theorem Later.refl (row : Landing) : Later row row where
  same := ⟨rfl, rfl, rfl, rfl, rfl⟩
  version := le_rfl
  abandoned _ := rfl

theorem Later.trans {row'' : Landing} (h : Later row row') (h' : Later row' row'') :
    Later row row'' where
  same :=
    { taskId := h'.same.taskId.trans h.same.taskId
      runId := h'.same.runId.trans h.same.runId
      integrationBranch := h'.same.integrationBranch.trans h.same.integrationBranch
      queueClaim := h'.same.queueClaim.trans h.same.queueClaim
      pushRequired := h'.same.pushRequired.trans h.same.pushRequired }
  version := h.version.trans h'.version
  abandoned hstate := by
    obtain rfl := h.abandoned hstate
    exact h'.abandoned hstate

theorem Writes.later (h : Writes row row') : Later row row' where
  same := h.same
  version := by
    rw [h.version]
    omega
  abandoned hstate := absurd hstate h.open_

theorem later_afterAll (steps : List (Outside × Call)) (hrow : ledger.row? taskId runId = some row) :
    ∃ row', (afterAll ledger steps).row? taskId runId = some row' ∧ Later row row' := by
  induction steps generalizing ledger row with
  | nil => exact ⟨row, hrow, .refl row⟩
  | cons step steps ih =>
      obtain ⟨next, hnext, hstep⟩ := (outcome_after ledger step).rowAfter hrow
      obtain ⟨last, hlast, hlater⟩ := ih hnext
      refine ⟨last, hlast, ?_⟩
      rcases hstep with rfl | hwrites
      · exact hlater
      · exact hwrites.later.trans hlater

theorem afterAll_append (ledger : Ledger) (earlier later : List (Outside × Call)) :
    afterAll ledger (earlier ++ later) = afterAll (afterAll ledger earlier) later :=
  List.foldl_append

theorem stepSafe_iff : StepSafe ledger step ↔ ¬ Revives ledger step := by
  obtain ⟨outside, call⟩ := step
  constructor
  · intro hsafe hrevives
    cases call with
    | prepare record =>
        obtain ⟨texts, claim, opened, row, htexts, hclaim, hopened, hrow, hstate, hsame⟩ := hrevives
        have hperform : prepare outside record ledger = .ok (opened, ⟨row, none⟩) := by
          rw [prepare, htexts, ok_bind, hclaim, ok_bind, hopened, ok_bind,
            row?_of_projectRow hopened, hrow]
          exact if_pos hsame
        obtain ⟨htask, hrun⟩ := ledger.keyed _ _ row hrow
        refine hsafe.prepares record opened ⟨row, none⟩ row rfl hperform ?_ hstate
        rw [htask, hrun, hrow]
    | reconcileGitFact taskId runId currentRef ancestor =>
        obtain ⟨current, opened, row, hcurrent, hopened, hrow, hstate, rfl⟩ := hrevives
        have hlocked : opened.locked taskId runId = .ok row := by
          rw [locked_eq_ok, row?_of_projectRow hopened, hrow]
        have hperform : reconcileGitFact outside taskId runId currentRef true ledger =
            .ok (opened, ⟨row, some .finalizeQueue⟩) := by
          rw [reconcileGitFact, hcurrent, ok_bind, hopened, ok_bind, hlocked, ok_bind]
          simp [hstate]
        exact (hsafe.reconciles _ _ _ _ _ _ row rfl hperform hrow hstate).1 rfl
    | _ => exact hrevives
  · intro hrevives
    refine ⟨fun _ _ _ => (outcome_after ledger _).rowAfter, fun _ _ _ => (outcome_after ledger _).freshRow,
      ?_, ?_⟩
    · rintro record ledger' answer row hcall hperform hrow hstate
      obtain rfl : call = .prepare record := hcall
      obtain ⟨texts, claim, opened, htexts, hclaim, hopened, hcases⟩ := prepare_cases hperform
      rcases hcases with ⟨found, hfound, hsame, -, rfl⟩ | ⟨hnone, -, -, -, -, -, -, htask, hrun⟩
      · obtain ⟨htask, hrun⟩ := ledger.keyed _ _ found hfound
        rw [htask, hrun, hfound] at hrow
        obtain rfl := Option.some.inj hrow
        exact hrevives ⟨texts, claim, opened, found, htexts, hclaim, hopened, hfound, hstate, hsame⟩
      · rw [htask, hrun, hnone] at hrow
        cases hrow
    · rintro taskId runId currentRef ancestor ledger' answer row hcall hperform hrow hstate
      obtain rfl : call = .reconcileGitFact taskId runId currentRef ancestor := hcall
      obtain ⟨current, opened, found, hcurrent, hopened, hfound, hcases⟩ :=
        reconcileGitFact_cases hperform
      rw [hfound] at hrow
      obtain rfl := Option.some.inj hrow
      rcases hcases with ⟨-, hopen⟩ | ⟨hprepared, -⟩ | ⟨-, -, hancestor, -⟩
      · exact absurd hstate hopen
      · rw [hprepared] at hstate
        cases hstate
      · exact absurd ⟨current, opened, found, hcurrent, hopened, hfound, hstate, hancestor⟩ hrevives

/-- The ledger is a state machine in every run that does not treat an abandoned landing as a live
one, and in no other. -/
theorem ledgerSafe_iff : LedgerSafe ledger steps ↔
    ∀ earlier step later, steps = earlier ++ step :: later →
      ¬ Revives (afterAll ledger earlier) step := by
  constructor
  · intro hsafe earlier step later hsteps
    exact stepSafe_iff.mp (hsafe.each earlier step later hsteps)
  · intro hnone
    refine ⟨fun earlier step later hsteps => stepSafe_iff.mpr (hnone earlier step later hsteps), ?_⟩
    rintro earlier later taskId runId row rfl hrow
    rw [afterAll_append]
    exact later_afterAll later hrow

end Runs

/-- A database whose JSON columns give back what they are given. -/
def sampleOutside : Outside where
  projectKey := py "demo"
  identity := ⟨py "/repo", py "fp"⟩
  now := 0
  column := some

def shaOf (digit : ℕ) : PyString := List.replicate 40 digit

def sampleRecord : Mapping :=
  [(.str (py "task_id"), .str (py "T1")), (.str (py "run_id"), .str (py "R1")),
    (.str (py "integration_branch"), .str (py "main")),
    (.str (py "expected_ref"), .str (shaOf 0x61)), (.str (py "candidate_sha"), .str (shaOf 0x62)),
    (.str (py "queue_claim"), .dict [])]

/-- A landing is prepared, loses its branch to another ref, and is abandoned. -/
def abandonedRun : List (Outside × Call) :=
  [(sampleOutside, .prepare sampleRecord),
    (sampleOutside, .abandonPrepared (py "T1") (py "R1") (shaOf 0x63) false)]

def emptyLedger : Ledger where
  project := none
  row? _ _ := none
  keyed _ _ _ h := by cases h

/-- Once the ref contains the candidate after all, the queue is to be finalised. -/
theorem not_ledgerSafe_abandonedRun : ¬ LedgerSafe emptyLedger (abandonedRun ++
    [(sampleOutside, .reconcileGitFact (py "T1") (py "R1") (shaOf 0x63) true)]) := by
  intro hsafe
  have hstep := hsafe.each abandonedRun _ [] rfl
  obtain ⟨row, hrow, hstate⟩ : ∃ row, (afterAll emptyLedger abandonedRun).row? (py "T1") (py "R1") =
      some row ∧ row.state = .abandoned := ⟨_, rfl, rfl⟩
  obtain ⟨ledger', answer, hperform, hanswer⟩ : ∃ ledger' answer,
      perform sampleOutside (afterAll emptyLedger abandonedRun)
        (.reconcileGitFact (py "T1") (py "R1") (shaOf 0x63) true) = .ok (ledger', answer) ∧
      answer.recoveryAction = some .finalizeQueue := ⟨_, _, rfl, rfl⟩
  exact (hstep.reconciles _ _ _ _ _ _ row rfl hperform hrow hstate).1 hanswer

end DevHarness.Landings
