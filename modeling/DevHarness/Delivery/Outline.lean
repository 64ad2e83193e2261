import DevHarness.Interleave.Outline
import DevHarness.Delivery.Orchestrator

/-!
# What the orchestrator promises

The proof outline of the delivery orchestrator for one candidate that starts
verified and without a commit.  The invariant ties the stored snapshots to the
candidate row, a reviewed candidate to the review that was found for its
commit, and every stored operation key to the call that recorded it.

Before each command a call promises what that command may rely on: which move
of the candidate it asks for under which key, and, before it touches the
remote, that it holds the review and the policy decision for the commit that it
sends.
-/

namespace DevHarness.Delivery

open JsText Interleave

namespace DeliveryCall

def candidateId : DeliveryCall → JsString
  | .checkpoint candidateId _ => candidateId
  | .deliver candidateId _ => candidateId
  | .land candidateId _ _ => candidateId

def idempotencyKey : DeliveryCall → JsString
  | .checkpoint _ idempotencyKey => idempotencyKey
  | .deliver _ idempotencyKey => idempotencyKey
  | .land _ idempotencyKey _ => idempotencyKey

/-- A move of the candidate from one state to another under an operation key. -/
structure Move where
  source : DeliveryCandidateState
  target : DeliveryCandidateState
  operationKey : JsString

def moves : DeliveryCall → List Move
  | .checkpoint _ key => [⟨.verified, .committed, key⟩]
  | .deliver _ key =>
    [⟨.committed, .reviewed, key ++ js ":review"⟩,
      ⟨.reviewed, .localReady, key ++ js ":local"⟩,
      ⟨.reviewed, .branchPushed, key ++ js ":push"⟩,
      ⟨.branchPushed, .prOpen, key ++ js ":pr"⟩]
  | .land _ key _ =>
    [⟨.prOpen, .landing, key ++ js ":start"⟩, ⟨.landing, .landed, key ++ js ":landed"⟩]

def operationKeys (call : DeliveryCall) : List JsString :=
  call.idempotencyKey :: call.moves.map Move.operationKey

def gatesOpen : DeliveryCall → Prop
  | .land _ _ gates => gates.humanGateApproved = true ∧ gates.platformChecksPassed = true
  | _ => True

/-- `deliver` and `land` end by remembering their key. -/
def remembers : DeliveryCall → Bool
  | .checkpoint _ _ => false
  | _ => true

end DeliveryCall

/-! ## Facts about a moment -/

/-- The candidate that `snapshot` was read from is still about the same thing
and has kept the commit. -/
def StillCommitted (id : JsString) (snapshot : DeliveryCandidate) (sha : JsString)
    (store : DeliveryStore) : Prop :=
  ∃ row, store.candidates id = some row ∧
    snapshot.toCandidateScope = row.toCandidateScope ∧ row.commitSha = some sha

/-- `query` asks for reviews of exactly the run and the commit of `row`. -/
def ReviewQuery.Names (query : ReviewQuery) (row : CandidateRow) : Prop :=
  query.organizationId = row.organizationId ∧ query.projectId = row.projectId ∧
    query.issueId = row.issueId ∧ query.runId = row.runId ∧
    row.commitSha = some query.targetCommitSha

/-- Process `pid` has found an approved review of the candidate's commit. -/
def ReviewFound (id : JsString) (pid : ℕ) (m : DeliveryMoment) : Prop :=
  ∃ row query review, m.state.candidates id = some row ∧ query.Names row ∧
    query.selects review = true ∧
    .performed pid (.findApprovedReview query) (.ok (some review)) ∈ m.past

/-- Process `pid` has obtained a policy decision for the commit `sha` that
allows `effect`. -/
def Authorised (effect : DeliveryPolicyDecision → Prop) (sha : JsString) (pid : ℕ)
    (m : DeliveryMoment) : Prop :=
  ∃ target decision, target.commitSha = sha ∧ effect decision ∧
    .performed pid (.authorize target) (.ok decision) ∈ m.past

def DeliveryPolicyDecision.AllowsPush (decision : DeliveryPolicyDecision) : Prop :=
  decision.mode ≠ .pushDisabled ∧ decision.credential ≠ none

def DeliveryPolicyDecision.AllowsPullRequest (decision : DeliveryPolicyDecision) : Prop :=
  decision.mode = .pushAndOpenPr ∧ decision.credential ≠ none

/-- The candidate's commit is `sha`. -/
def CommitIs (id sha : JsString) (store : DeliveryStore) : Prop :=
  ∃ row, store.candidates id = some row ∧ row.commitSha = some sha

/-- Process `pid` was spawned for `call`, and the key of the call has passed the
check. -/
def Running (pid : ℕ) (call : DeliveryCall) (past : List DeliveryEvent) : Prop :=
  .spawned pid call ∈ past ∧ validOperationKey call.idempotencyKey = true

/-- The event stores a snapshot of candidate `id` under `key`, or finds one
there. -/
def Records (id key : JsString) : DeliveryEvent → Prop
  | .performed _ (.transition input) (.ok _) =>
    input.candidateId = id ∧ input.operationKey = key
  | .performed _ (.rememberOperation candidateId operationKey) (.ok _) =>
    candidateId = id ∧ operationKey = key
  | _ => False

/-- Process `pid`, running `call`, has recorded `key` of candidate `id`. -/
def RecordedBy (id key : JsString) (pid : ℕ) (call : DeliveryCall)
    (past : List DeliveryEvent) : Prop :=
  Running pid call past ∧ call.candidateId = id ∧ key ∈ call.operationKeys ∧
    ∃ e ∈ past, e.pid? = some pid ∧ Records id key e

/-! ## Invariant, evolution and promises -/

/-- What holds of candidate `id` at every moment. -/
structure DeliveryInv (id : JsString) (m : DeliveryMoment) : Prop where
  /-- The candidate exists, and has a commit exactly when it is past
  `verified`. -/
  candidate : ∃ row, m.state.candidates id = some row ∧ row.id = id ∧
    (row.state = .verified ↔ row.commitSha = none)
  /-- A stored snapshot is about the candidate and carries its commit. -/
  snapshot : ∀ {key snapshot}, m.state.operations id key = some snapshot →
    ∃ sha, snapshot.commitSha = some sha ∧ StillCommitted id snapshot sha m.state
  /-- Past `committed`, some call has found an approved review of the commit. -/
  reviewed : ∀ {row}, m.state.candidates id = some row → row.state ≠ .verified →
    row.state ≠ .committed → ∃ pid, ReviewFound id pid m
  /-- A stored key was recorded by a call to which it belongs. -/
  recorded : ∀ {key snapshot}, m.state.operations id key = some snapshot →
    ∃ pid call, RecordedBy id key pid call m.past

/-- The candidate stays about the same thing and keeps its commit. -/
def CandidateEvolves (id : JsString) (s s' : DeliveryStore) : Prop :=
  ∀ row, s.candidates id = some row →
    ∃ row', s'.candidates id = some row' ∧ row'.toCandidateScope = row.toCandidateScope ∧
      ∀ sha, row.commitSha = some sha → row'.commitSha = some sha

/-- What process `pid`, running `call`, makes sure of before a command. -/
def CallPromise (id : JsString) (call : DeliveryCall) (pid : ℕ) (m : DeliveryMoment) :
    DeliveryCommand → Prop
  | .findOperation candidateId operationKey =>
    candidateId = call.candidateId ∧ operationKey = call.idempotencyKey ∧
      eventsOf pid m.past = [.spawned pid call]
  | .transition input =>
    input.candidateId = call.candidateId ∧ call.gatesOpen ∧
      (∃ move ∈ call.moves, input.expectedStates = [move.source] ∧
        input.nextState = move.target ∧ input.operationKey = move.operationKey ∧
        (input.patch.commitSha = none ↔ move.source ≠ .verified)) ∧
      (call.candidateId = id → input.nextState ≠ .committed → ∃ pid', ReviewFound id pid' m)
  | .rememberOperation candidateId operationKey =>
    candidateId = call.candidateId ∧ operationKey = call.idempotencyKey ∧
      call.remembers = true ∧
      (call.candidateId = id → ∃ sha, CommitIs id sha m.state)
  | .pushBranch input =>
    call.candidateId = id → CommitIs id input.commitSha m.state ∧ ReviewFound id pid m ∧
      Authorised DeliveryPolicyDecision.AllowsPush input.commitSha pid m
  | .openPullRequest input =>
    call.candidateId = id → CommitIs id input.commitSha m.state ∧ ReviewFound id pid m ∧
      Authorised DeliveryPolicyDecision.AllowsPullRequest input.commitSha pid m
  | .mergePullRequest input =>
    call.gatesOpen ∧ (call.candidateId = id →
      CommitIs id input.expectedCommitSha m.state ∧ (∃ pid', ReviewFound id pid' m) ∧
      Authorised DeliveryPolicyDecision.AllowsPullRequest input.expectedCommitSha pid m)
  | _ => True

/-- A process keeps the promise of the call that it is running. -/
def DeliveryPromise (id : JsString) (pid : ℕ) (m : DeliveryMoment)
    (command : DeliveryCommand) : Prop :=
  ∃ call, Running pid call m.past ∧ CallPromise id call pid m command

theorem CandidateEvolves.refl (id : JsString) (s : DeliveryStore) : CandidateEvolves id s s :=
  fun row hrow => ⟨row, hrow, rfl, fun _ h => h⟩

theorem CandidateEvolves.trans {id : JsString} {s t u : DeliveryStore}
    (hst : CandidateEvolves id s t) (htu : CandidateEvolves id t u) :
    CandidateEvolves id s u := by
  intro row hrow
  obtain ⟨row', hrow', hscope, hsha⟩ := hst row hrow
  obtain ⟨row'', hrow'', hscope', hsha'⟩ := htu row' hrow'
  exact ⟨row'', hrow'', hscope'.trans hscope, fun sha h => hsha' sha (hsha sha h)⟩

section Evolution

variable {id sha : JsString} {s s' : DeliveryStore} {m m' : DeliveryMoment} {pid : ℕ}

theorem CommitIs.evolve (h : CommitIs id sha s) (hs : CandidateEvolves id s s') :
    CommitIs id sha s' := by
  obtain ⟨row, hrow, hsha⟩ := h
  obtain ⟨row', hrow', _, hkeep⟩ := hs row hrow
  exact ⟨row', hrow', hkeep sha hsha⟩

theorem StillCommitted.evolve {snapshot : DeliveryCandidate}
    (h : StillCommitted id snapshot sha s) (hs : CandidateEvolves id s s') :
    StillCommitted id snapshot sha s' := by
  obtain ⟨row, hrow, hscope, hsha⟩ := h
  obtain ⟨row', hrow', hscope', hkeep⟩ := hs row hrow
  exact ⟨row', hrow', hscope.trans hscope'.symm, hkeep sha hsha⟩

theorem StillCommitted.commitIs {snapshot : DeliveryCandidate}
    (h : StillCommitted id snapshot sha s) : CommitIs id sha s := by
  obtain ⟨row, hrow, _, hsha⟩ := h
  exact ⟨row, hrow, hsha⟩

theorem ReviewQuery.Names.evolve {query : ReviewQuery} {row row' : CandidateRow}
    (h : query.Names row) (hscope : row'.toCandidateScope = row.toCandidateScope)
    (hkeep : ∀ sha, row.commitSha = some sha → row'.commitSha = some sha) :
    query.Names row' := by
  obtain ⟨horg, hproject, hissue, hrun, hsha⟩ := h
  refine ⟨?_, ?_, ?_, ?_, hkeep _ hsha⟩
  · rw [horg, hscope]
  · rw [hproject, hscope]
  · rw [hissue, hscope]
  · rw [hrun, hscope]

theorem ReviewFound.evolve (h : ReviewFound id pid m)
    (hs : CandidateEvolves id m.state m'.state) (hpast : m.past ⊆ m'.past) :
    ReviewFound id pid m' := by
  obtain ⟨row, query, review, hrow, hnames, hselects, hmem⟩ := h
  obtain ⟨row', hrow', hscope, hkeep⟩ := hs row hrow
  exact ⟨row', query, review, hrow', hnames.evolve hscope hkeep, hselects, hpast hmem⟩

theorem Authorised.mono {effect : DeliveryPolicyDecision → Prop}
    (h : Authorised effect sha pid m) (hpast : m.past ⊆ m'.past) :
    Authorised effect sha pid m' := by
  obtain ⟨target, decision, htarget, heffect, hmem⟩ := h
  exact ⟨target, decision, htarget, heffect, hpast hmem⟩

theorem Running.mono {call : DeliveryCall} {past past' : List DeliveryEvent}
    (h : Running pid call past) (hpast : past ⊆ past') : Running pid call past' :=
  ⟨hpast h.1, h.2⟩

theorem RecordedBy.mono {key : JsString} {call : DeliveryCall} {past past' : List DeliveryEvent}
    (h : RecordedBy id key pid call past) (hpast : past ⊆ past') :
    RecordedBy id key pid call past' := by
  obtain ⟨hspawn, hid, hkey, e, he, hpid, hrecords⟩ := h
  exact ⟨hspawn.mono hpast, hid, hkey, e, hpast he, hpid, hrecords⟩

end Evolution

section Steps

variable {id : JsString} {m : DeliveryMoment} {store : DeliveryStore} {pid : ℕ}

/-- An event that leaves candidate `id` and its operation keys alone keeps the
invariant. -/
theorem DeliveryInv.frame (hinv : DeliveryInv id m) (e : DeliveryEvent)
    (hcandidates : store.candidates id = m.state.candidates id)
    (hoperations : store.operations id = m.state.operations id) :
    DeliveryInv id (m.push e store) ∧ CandidateEvolves id m.state store := by
  have hevolves : CandidateEvolves id m.state store := by
    intro row hrow
    exact ⟨row, by rw [hcandidates]; exact hrow, rfl, fun _ h => h⟩
  have hpast : m.past ⊆ (m.push e store).past := List.subset_cons_self _ _
  refine ⟨⟨?_, ?_, ?_, ?_⟩, hevolves⟩
  · obtain ⟨row, hrow, hid, hstate⟩ := hinv.candidate
    exact ⟨row, by rw [Moment.push_state, hcandidates]; exact hrow, hid, hstate⟩
  · intro key snapshot hop
    rw [Moment.push_state, hoperations] at hop
    obtain ⟨sha, hsha, hstill⟩ := hinv.snapshot hop
    exact ⟨sha, hsha, hstill.evolve hevolves⟩
  · intro row hrow hverified hcommitted
    rw [Moment.push_state, hcandidates] at hrow
    obtain ⟨pid', hfound⟩ := hinv.reviewed hrow hverified hcommitted
    exact ⟨pid', hfound.evolve hevolves hpast⟩
  · intro key snapshot hop
    rw [Moment.push_state, hoperations] at hop
    obtain ⟨pid', call, hby⟩ := hinv.recorded hop
    exact ⟨pid', call, hby.mono hpast⟩

/-- Storing a snapshot of the candidate, which carries its commit, under a key
of the call keeps the invariant; the candidate row may have evolved. -/
theorem DeliveryInv.record {e : DeliveryEvent} {call : DeliveryCall} {key sha : JsString}
    {row : CandidateRow} {snapshot : DeliveryCandidate} (hinv : DeliveryInv id m)
    (hevolves : CandidateEvolves id m.state store)
    (hrow : store.candidates id = some row)
    (hid : row.id = id) (hverified : row.state ≠ .verified) (hsha : row.commitSha = some sha)
    (hreviewed : row.state ≠ .committed → ∃ pid', ReviewFound id pid' m)
    (hscope : snapshot.toCandidateScope = row.toCandidateScope)
    (hsnapshot : snapshot.commitSha = some sha)
    (hoperations : ∀ {key' found}, store.operations id key' = some found →
      (key' = key ∧ found = snapshot) ∨ m.state.operations id key' = some found)
    (hspawn : Running pid call m.past) (hcall : call.candidateId = id)
    (hkey : key ∈ call.operationKeys) (hpid : e.pid? = some pid)
    (hrecords : Records id key e) :
    DeliveryInv id (m.push e store) := by
  have hpast : m.past ⊆ (m.push e store).past := List.subset_cons_self _ _
  have hstill : StillCommitted id snapshot sha store := ⟨row, hrow, hscope, hsha⟩
  constructor
  · refine ⟨row, hrow, hid, ?_⟩
    constructor
    · intro h
      exact absurd h hverified
    · intro h
      rw [hsha] at h
      cases h
  · intro key' found hop
    rcases hoperations hop with ⟨_, rfl⟩ | hold
    · exact ⟨sha, hsnapshot, hstill⟩
    · obtain ⟨sha', hsha', hstill'⟩ := hinv.snapshot hold
      exact ⟨sha', hsha', hstill'.evolve hevolves⟩
  · intro row' hrow' _ hcommitted
    have heq : row = row' := Option.some.inj (hrow.symm.trans hrow')
    obtain ⟨pid', hfound⟩ := hreviewed (heq ▸ hcommitted)
    exact ⟨pid', hfound.evolve hevolves hpast⟩
  · intro key' found hop
    rcases hoperations hop with ⟨rfl, _⟩ | hold
    · exact ⟨pid, call, hspawn.mono hpast, hcall, hkey, e, List.mem_cons_self, hpid, hrecords⟩
    · obtain ⟨pid', call', hby⟩ := hinv.recorded hold
      exact ⟨pid', call', hby.mono hpast⟩

theorem DeliveryCall.target_of_mem_moves {call : DeliveryCall} {move : DeliveryCall.Move}
    (hmove : move ∈ call.moves) :
    move.target ≠ .verified ∧ (move.source = .verified ↔ move.target = .committed) := by
  cases call with
  | checkpoint _ _ =>
      simp only [DeliveryCall.moves, List.mem_singleton] at hmove
      subst hmove
      simp
  | deliver _ _ =>
      simp only [DeliveryCall.moves, List.mem_cons, List.not_mem_nil, or_false] at hmove
      rcases hmove with rfl | rfl | rfl | rfl <;> simp
  | land _ _ _ =>
      simp only [DeliveryCall.moves, List.mem_cons, List.not_mem_nil, or_false] at hmove
      rcases hmove with rfl | rfl <;> simp

theorem DeliveryCall.operationKey_mem {call : DeliveryCall} {move : DeliveryCall.Move}
    (hmove : move ∈ call.moves) : move.operationKey ∈ call.operationKeys :=
  List.mem_cons_of_mem _ (List.mem_map_of_mem hmove)

/-- The commit of a candidate after a move: a move out of `verified` sets it,
any other move keeps it. -/
theorem advance_commitSha {row : CandidateRow} {input : TransitionInput}
    (hstate : row.state = .verified ↔ row.commitSha = none)
    (hpatch : input.patch.commitSha = none ↔ row.state ≠ .verified) :
    ∃ sha, (row.advance input).commitSha = some sha ∧
      ∀ old, row.commitSha = some old → old = sha := by
  by_cases hverified : row.state = .verified
  · have hnone := hstate.mp hverified
    cases hsha : input.patch.commitSha with
    | none => exact absurd hverified (hpatch.mp hsha)
    | some sha =>
        refine ⟨sha, by simp [CandidateRow.advance, hsha], ?_⟩
        intro old hold
        rw [hnone] at hold
        cases hold
  · have hnone := hpatch.mpr hverified
    cases hsha : row.commitSha with
    | none => exact absurd (hstate.mpr hsha) hverified
    | some sha =>
        refine ⟨sha, by simp [CandidateRow.advance, hnone, hsha], ?_⟩
        intro old hold
        exact (Option.some.inj hold).symm

theorem DeliveryInv.move {call : DeliveryCall} {input : TransitionInput}
    {row : CandidateRow} {next : DeliveryCandidate} (hinv : DeliveryInv id m)
    (hspawn : Running pid call m.past)
    (hpromise : CallPromise id call pid m (.transition input))
    (hrow : m.state.candidates input.candidateId = some row)
    (hsource : row.state ∈ input.expectedStates)
    (hread : readCandidate (applyTransition m.state input row) input.candidateId = some next) :
    DeliveryInv id (m.push (.performed pid (.transition input) (.ok next))
        (m.state.afterTransition input row next)) ∧
      CandidateEvolves id m.state (m.state.afterTransition input row next) := by
  obtain ⟨hcall, _, ⟨move, hmove, hexpected, hnext, hkey, hpatch⟩, hreview⟩ := hpromise
  by_cases hid : input.candidateId = id
  · subst hid
    obtain ⟨hverified, hcommitted⟩ := DeliveryCall.target_of_mem_moves hmove
    rw [hexpected, List.mem_singleton] at hsource
    rw [← hsource] at hpatch hcommitted
    obtain ⟨row₀, hrow₀, hrowid, hstate⟩ := hinv.candidate
    obtain rfl : row = row₀ := Option.some.inj (hrow.symm.trans hrow₀)
    obtain ⟨sha, hsha, hkeep⟩ := advance_commitSha hstate hpatch
    have hset : (m.state.afterTransition input row next).candidates input.candidateId =
        some (row.advance input) := setCandidate_self _ _ _
    have hevolves : CandidateEvolves input.candidateId m.state
        (m.state.afterTransition input row next) := by
      intro row' hrow'
      obtain rfl : row = row' := Option.some.inj (hrow.symm.trans hrow')
      refine ⟨row.advance input, hset, rfl, ?_⟩
      intro old hold
      rw [hsha, hkeep old hold]
    obtain ⟨row', hrow', hscope, hcommit, _, _⟩ := readCandidate_eq_some hread
    obtain rfl : row.advance input = row' := Option.some.inj (hset.symm.trans hrow')
    refine ⟨?_, hevolves⟩
    refine hinv.record hevolves hset hrowid ?_ hsha ?_ hscope (hcommit.trans hsha) ?_ hspawn
      hcall.symm ?_ rfl ⟨rfl, hkey⟩
    · change input.nextState ≠ .verified
      rw [hnext]
      exact hverified
    · intro h
      exact hreview hcall.symm h
    · intro key' found hop
      rcases setOperation_eq_some hop with ⟨_, hkey', hfound⟩ | hold
      · exact .inl ⟨hkey'.trans hkey, hfound⟩
      · exact .inr hold
    · exact DeliveryCall.operationKey_mem hmove
  · refine hinv.frame _ (setCandidate_of_ne (Ne.symm hid)) ?_
    funext key
    simp [DeliveryStore.afterTransition, setOperation, Ne.symm hid]

theorem DeliveryInv.remember {call : DeliveryCall} {candidateId key : JsString}
    {current : DeliveryCandidate} (hinv : DeliveryInv id m)
    (hspawn : Running pid call m.past)
    (hpromise : CallPromise id call pid m (.rememberOperation candidateId key))
    (hread : readCandidate m.state candidateId = some current)
    (hstore : store = { m.state with
      operations := setOperation m.state.operations candidateId key current }) :
    DeliveryInv id (m.push (.performed pid (.rememberOperation candidateId key) (.ok current))
        store) ∧
      CandidateEvolves id m.state store := by
  obtain ⟨hcall, hkey, _, hcommit⟩ := hpromise
  have hcandidates : store.candidates = m.state.candidates := by rw [hstore]
  by_cases hid : candidateId = id
  · subst hid
    obtain ⟨row, hrow, hrowid, hstate⟩ := hinv.candidate
    obtain ⟨sha, row', hrow', hsha⟩ := hcommit hcall.symm
    obtain rfl : row = row' := Option.some.inj (hrow.symm.trans hrow')
    obtain ⟨row'', hrow'', hscope, hsnapshot, _, _⟩ := readCandidate_eq_some hread
    obtain rfl : row = row'' := Option.some.inj (hrow.symm.trans hrow'')
    have hverified : row.state ≠ .verified := by
      intro h
      rw [hstate.mp h] at hsha
      cases hsha
    have hevolves : CandidateEvolves candidateId m.state store := by
      intro row' hrow'
      exact ⟨row', by rw [hcandidates]; exact hrow', rfl, fun _ h => h⟩
    refine ⟨?_, hevolves⟩
    refine hinv.record hevolves (by rw [hcandidates]; exact hrow) hrowid hverified hsha ?_
      hscope (hsnapshot.trans hsha) ?_ hspawn hcall.symm ?_ rfl ⟨rfl, rfl⟩
    · exact hinv.reviewed hrow hverified
    · intro key' found hop
      rw [hstore] at hop
      rcases setOperation_eq_some hop with ⟨_, hkey', hfound⟩ | hold
      · exact .inl ⟨hkey', hfound⟩
      · exact .inr hold
    · rw [hkey]
      exact List.mem_cons_self
  · refine hinv.frame _ (by rw [hcandidates]) ?_
    funext key'
    simp [hstore, setOperation, Ne.symm hid]

theorem DeliveryInv.perform {command : DeliveryCommand} {outside : Outside}
    {resp : Except String command.Answer} (hinv : DeliveryInv id m)
    (hpromise : DeliveryPromise id pid m command)
    (hexec : execDelivery outside command m.state = (resp, store)) :
    DeliveryInv id (m.push (.performed pid command resp) store) ∧
      CandidateEvolves id m.state store := by
  have hkeep : store = m.state → DeliveryInv id (m.push (.performed pid command resp) store) ∧
      CandidateEvolves id m.state store := by
    rintro rfl
    exact hinv.frame _ rfl rfl
  obtain ⟨call, hspawn, hpromise⟩ := hpromise
  unfold execDelivery at hexec
  split at hexec
  · exact hkeep (Prod.mk.inj hexec).2.symm
  · split at hexec
    case h_4 input =>
      rcases transition_cases hexec with ⟨_, _, _, hstore⟩ | ⟨_, _, hstore⟩ |
        ⟨row, next, _, hrow, _, hstate, hread, rfl, rfl⟩
      · exact hkeep hstore
      · exact hkeep hstore
      · exact hinv.move hspawn hpromise hrow hstate hread
    case h_5 candidateId key =>
      rcases rememberOperation_cases hexec with ⟨_, _, _, hstore⟩ | ⟨_, _, hstore⟩ |
        ⟨current, _, hread, rfl, hstore⟩
      · exact hkeep hstore
      · exact hkeep hstore
      · exact hinv.remember hspawn hpromise hread hstore
    all_goals exact hkeep (Prod.mk.inj hexec).2.symm

end Steps

/-- The outline for candidate `id`. -/
def deliveryOutline (id : JsString) : Outline deliverySystem where
  cond _ _ := True
  inv := DeliveryInv id
  evolves := CandidateEvolves id
  promise := DeliveryPromise id
  evolves_refl := CandidateEvolves.refl id
  evolves_trans := CandidateEvolves.trans
  spawn hinv _ _ := (hinv.frame _ rfl rfl).1
  perform hinv _ hpromise hexec := hinv.perform hpromise (Option.some.inj hexec)
  finish hinv _ := (hinv.frame _ rfl rfl).1
  crash hinv _ := (hinv.frame _ rfl rfl).1
  change := by
    intro m review store hinv _ henv
    obtain rfl := Option.some.inj henv
    refine hinv.frame _ ?_ ?_
    · simp only [saveReview]
      split <;> rfl
    · simp only [saveReview]
      split <;> rfl

end DevHarness.Delivery
