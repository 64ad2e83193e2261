import DevHarness.Interleave.Trail
import DevHarness.Delivery.Entries

/-!
# Delivery safety

For a candidate that starts verified and without a commit, over all runs of
concurrent `checkpoint`, `deliver` and `land` calls: the candidate follows one
of two paths of states, its commit is set once, the remote is touched only with
a reviewed and authorised commit, and landing takes both gates.
-/

namespace DevHarness.Delivery

open JsText Interleave

abbrev DeliveryStep : DeliveryConfig → DeliveryConfig → Prop :=
  Step deliverySystem fun _ _ => True

/-- The candidate exists, is verified and has no commit, and nothing has been
recorded for it. -/
structure FreshCandidate (store : DeliveryStore) (id : JsString) : Prop where
  candidate : ∃ row, store.candidates id = some row ∧ row.id = id ∧
    row.state = .verified ∧ row.commitSha = none
  operations : ∀ key, store.operations id key = none

variable {l : List DeliveryCandidateState} {store : DeliveryStore} {id : JsString}

theorem FreshCandidate.inv (hfresh : FreshCandidate store id) :
    DeliveryInv id { state := store, past := [] } := by
  obtain ⟨row, hrow, hid, hstate, hcommit⟩ := hfresh.candidate
  constructor
  · refine ⟨row, hrow, hid, ?_⟩
    simp [hstate, hcommit]
  · intro key snapshot hop
    rw [hfresh.operations key] at hop
    cases hop
  · intro row' hrow' hverified
    obtain rfl : row = row' := Option.some.inj (hrow.symm.trans hrow')
    exact absurd hstate hverified
  · intro key snapshot hop
    rw [hfresh.operations key] at hop
    cases hop

theorem sound_of_reached {c : DeliveryConfig} (hfresh : FreshCandidate store id)
    (hrun : Reached deliverySystem store c) : (deliveryOutline id).Sound c :=
  Outline.sound_of_run (o := deliveryOutline id) (deliveryOutline_entries id) hfresh.inv hrun

/-! ## The states of a candidate -/

/-- The state of candidate `id`. -/
def candidateState (id : JsString) (c : DeliveryConfig) : Option DeliveryCandidateState :=
  (c.now.state.candidates id).map fun row => row.state

/-- Some call moves a candidate from `source` to `target`. -/
def Advances (source target : DeliveryCandidateState) : Prop :=
  ∃ call : DeliveryCall, ∃ move ∈ call.moves, move.source = source ∧ move.target = target

theorem advances_iff {source target : DeliveryCandidateState} :
    Advances source target ↔
      (source, target) ∈ [(.verified, .committed), (.committed, .reviewed),
        (.reviewed, .localReady), (.reviewed, .branchPushed), (.branchPushed, .prOpen),
        (.prOpen, .landing), (.landing, (.landed : DeliveryCandidateState))] := by
  constructor
  · rintro ⟨call, move, hmove, rfl, rfl⟩
    cases call with
    | checkpoint _ _ =>
        simp only [DeliveryCall.moves, List.mem_singleton] at hmove
        simp [hmove]
    | deliver _ _ =>
        simp only [DeliveryCall.moves, List.mem_cons, List.not_mem_nil, or_false] at hmove
        rcases hmove with rfl | rfl | rfl | rfl <;> simp
    | land _ _ _ =>
        simp only [DeliveryCall.moves, List.mem_cons, List.not_mem_nil, or_false] at hmove
        rcases hmove with rfl | rfl <;> simp
  · intro hmem
    simp only [List.mem_cons, List.not_mem_nil, or_false, Prod.mk.injEq] at hmem
    rcases hmem with ⟨rfl, rfl⟩ | ⟨rfl, rfl⟩ | ⟨rfl, rfl⟩ | ⟨rfl, rfl⟩ | ⟨rfl, rfl⟩ |
      ⟨rfl, rfl⟩ | ⟨rfl, rfl⟩
    · exact ⟨.checkpoint [] [], by simp [DeliveryCall.moves]⟩
    · exact ⟨.deliver [] [], by simp [DeliveryCall.moves]⟩
    · exact ⟨.deliver [] [], by simp [DeliveryCall.moves]⟩
    · exact ⟨.deliver [] [], by simp [DeliveryCall.moves]⟩
    · exact ⟨.deliver [] [], by simp [DeliveryCall.moves]⟩
    · exact ⟨.land [] [] ⟨true, true⟩, by simp [DeliveryCall.moves]⟩
    · exact ⟨.land [] [] ⟨true, true⟩, by simp [DeliveryCall.moves]⟩

def localPath : List DeliveryCandidateState :=
  [.verified, .committed, .reviewed, .localReady]

def landingPath : List DeliveryCandidateState :=
  [.verified, .committed, .reviewed, .branchPushed, .prOpen, .landing, .landed]

theorem prefix_of_branchPushed (hpath : List.IsChain Advances (.branchPushed :: l)) :
    .branchPushed :: l <+: [.branchPushed, .prOpen, .landing, .landed] := by
  refine cons_prefix_of_isChain (b := .prOpen) ?_ ?_ hpath
  · intro c hc
    simpa using advances_iff.mp hc
  intro l hl
  refine cons_prefix_of_isChain (b := .landing) ?_ ?_ hl
  · intro c hc
    simpa using advances_iff.mp hc
  intro l hl
  refine cons_prefix_of_isChain (b := .landed) ?_ ?_ hl
  · intro c hc
    simpa using advances_iff.mp hc
  intro l hl
  rw [eq_nil_of_isChain (fun c hc => by simpa using advances_iff.mp hc) hl]

theorem prefix_of_reviewed (hpath : List.IsChain Advances (.reviewed :: l)) :
    .reviewed :: l <+: [.reviewed, .localReady] ∨
      .reviewed :: l <+: [.reviewed, .branchPushed, .prOpen, .landing, .landed] := by
  cases l with
  | nil => exact .inl ⟨_, rfl⟩
  | cons c l =>
      rw [List.isChain_cons_cons] at hpath
      have hnext : c = .localReady ∨ c = .branchPushed := by
        simpa using advances_iff.mp hpath.1
      rcases hnext with rfl | rfl
      · left
        rw [eq_nil_of_isChain (fun c hc => by simpa using advances_iff.mp hc) hpath.2]
      · right
        exact (List.prefix_cons_inj _).mpr (prefix_of_branchPushed hpath.2)

theorem prefix_of_verified (hpath : List.IsChain Advances (.verified :: l)) :
    ∃ path ∈ [localPath, landingPath], .verified :: l <+: path := by
  have hlift : ∀ {t : List DeliveryCandidateState},
      (∃ path ∈ [localPath, landingPath], t <+: path) ↔ t <+: localPath ∨ t <+: landingPath := by
    simp
  rw [hlift]
  cases l with
  | nil => exact .inl ⟨_, rfl⟩
  | cons c l =>
      rw [List.isChain_cons_cons] at hpath
      obtain rfl : c = .committed := by simpa using advances_iff.mp hpath.1
      cases l with
      | nil => exact .inl ⟨_, rfl⟩
      | cons d l =>
          rw [List.isChain_cons_cons] at hpath
          obtain rfl : d = .reviewed := by simpa using advances_iff.mp hpath.2.1
          rcases prefix_of_reviewed hpath.2.2 with h | h
          · exact .inl ((List.prefix_cons_inj _).mpr ((List.prefix_cons_inj _).mpr h))
          · exact .inr ((List.prefix_cons_inj _).mpr ((List.prefix_cons_inj _).mpr h))

section Steps

variable {c c' : DeliveryConfig}

/-- A step that changes the state of the candidate is a move of a call whose
gates are open. -/
theorem candidateState_step (hsound : (deliveryOutline id).Sound c) (hstep : DeliveryStep c c') :
    candidateState id c' = candidateState id c ∨
      ∃ pid call input resp, ∃ move ∈ call.moves,
        c'.now.past = .performed pid (.transition input) resp :: c.now.past ∧
        Running pid call c.now.past ∧ call.candidateId = id ∧ call.gatesOpen ∧
        candidateState id c = some move.source ∧ candidateState id c' = some move.target := by
  rcases Outline.step_cases hsound hstep with
    ⟨pid, command, outside, resp, ⟨call, hspawn, hpromise⟩, hexec, hpast⟩ |
    ⟨review, henv, _⟩ | ⟨hstate, _⟩
  · replace hexec := Option.some.inj hexec
    have hkeep : c'.now.state.candidates = c.now.state.candidates →
        candidateState id c' = candidateState id c := by
      intro h
      simp only [candidateState, h]
    unfold execDelivery at hexec
    split at hexec
    · exact .inl (hkeep (by rw [(Prod.mk.inj hexec).2]))
    · split at hexec
      case h_4 input =>
        rcases transition_cases hexec with ⟨_, _, _, h⟩ | ⟨_, _, h⟩ |
          ⟨row, next, _, hrow, _, hsource, _, rfl, h⟩
        · exact .inl (hkeep (by rw [h]))
        · exact .inl (hkeep (by rw [h]))
        · obtain ⟨hcall, hgates, ⟨move, hmove, hexpected, htarget, _⟩, _⟩ := hpromise
          by_cases hid : input.candidateId = id
          · rw [hexpected, List.mem_singleton] at hsource
            refine .inr ⟨pid, call, input, _, move, hmove, hpast, hspawn, ?_, hgates, ?_, ?_⟩
            · rw [← hcall, hid]
            · rw [hid] at hrow
              simp [candidateState, hrow, hsource]
            · simp [candidateState, h, DeliveryStore.afterTransition, applyTransition,
                hid, setCandidate_self, CandidateRow.advance, htarget]
          · refine .inl ?_
            simp only [candidateState, h, DeliveryStore.afterTransition, applyTransition]
            rw [setCandidate_of_ne (Ne.symm hid)]
      case h_5 candidateId key =>
        rcases rememberOperation_cases hexec with ⟨_, _, _, h⟩ | ⟨_, _, h⟩ | ⟨_, _, _, _, h⟩
        all_goals exact .inl (hkeep (by rw [h]))
      all_goals exact .inl (hkeep (by rw [(Prod.mk.inj hexec).2]))
  · left
    have henv := Option.some.inj henv
    simp only [candidateState, ← henv, saveReview]
    split <;> rfl
  · left
    simp only [candidateState, hstate]

theorem promise_of_step {pid : ℕ} {call : DeliveryCall} {command : DeliveryCommand}
    {resp : Except String command.Answer} (hsound : (deliveryOutline id).Sound c)
    (hstep : DeliveryStep c c') (hspawn : .spawned pid call ∈ c.now.past)
    (hpast : c'.now.past = .performed pid command resp :: c.now.past) :
    Running pid call c.now.past ∧ CallPromise id call pid c.now command := by
  obtain ⟨call', hspawn', hpromise⟩ := Outline.promise_of_performed hsound hstep hpast
  obtain rfl := hsound.spawned_unique hspawn hspawn'.1
  exact ⟨hspawn', hpromise⟩

end Steps

/-! ## Safety -/

/-- The states of candidate `id` along a run, without immediate repetitions. -/
def stateTrail (id : JsString) (configs : List DeliveryConfig) :
    List (Option DeliveryCandidateState) :=
  trail (candidateState id) configs

/-- What delivery never does wrong with candidate `id`, started from `store`. -/
structure DeliverySafe (store : DeliveryStore) (id : JsString) : Prop where
  /-- The state sequence is a prefix of one of the two paths. -/
  path : ∀ configs, List.IsChain DeliveryStep (Config.initial store :: configs) →
    ∃ path ∈ [localPath, landingPath],
      stateTrail id (Config.initial store :: configs) <+: path.map some
  /-- Each state is entered at most once. -/
  once : ∀ configs, List.IsChain DeliveryStep (Config.initial store :: configs) →
    (stateTrail id (Config.initial store :: configs)).Nodup
  /-- A commit, once set, stays. -/
  commit : ∀ {c c' sha}, Reached deliverySystem store c →
    Relation.ReflTransGen DeliveryStep c c' → CommitIs id sha c.now.state →
    CommitIs id sha c'.now.state
  /-- A push carries the candidate's commit, reviewed and authorised in the same
  call. -/
  push : ∀ {c c' pid call input resp}, Reached deliverySystem store c → DeliveryStep c c' →
    .spawned pid call ∈ c.now.past → call.candidateId = id →
    c'.now.past = .performed pid (.pushBranch input) resp :: c.now.past →
    CommitIs id input.commitSha c.now.state ∧ ReviewFound id pid c.now ∧
      Authorised DeliveryPolicyDecision.AllowsPush input.commitSha pid c.now
  /-- So does a pull request. -/
  pullRequest : ∀ {c c' pid call input resp}, Reached deliverySystem store c →
    DeliveryStep c c' → .spawned pid call ∈ c.now.past → call.candidateId = id →
    c'.now.past = .performed pid (.openPullRequest input) resp :: c.now.past →
    CommitIs id input.commitSha c.now.state ∧ ReviewFound id pid c.now ∧
      Authorised DeliveryPolicyDecision.AllowsPullRequest input.commitSha pid c.now
  /-- A merge carries the candidate's commit, for which some call has found the
  review, authorised in the same call. -/
  merge : ∀ {c c' pid call input resp}, Reached deliverySystem store c → DeliveryStep c c' →
    .spawned pid call ∈ c.now.past → call.candidateId = id →
    c'.now.past = .performed pid (.mergePullRequest input) resp :: c.now.past →
    CommitIs id input.expectedCommitSha c.now.state ∧
      (∃ pid', ReviewFound id pid' c.now) ∧
      Authorised DeliveryPolicyDecision.AllowsPullRequest input.expectedCommitSha pid c.now
  /-- `landed` is entered by a `land` call with both gates true. -/
  landed : ∀ {c c'}, Reached deliverySystem store c → DeliveryStep c c' →
    candidateState id c ≠ some .landed → candidateState id c' = some .landed →
    ∃ pid key input resp, .spawned pid (.land id key ⟨true, true⟩) ∈ c.now.past ∧
      c'.now.past = .performed pid (.transition input) resp :: c.now.past

section Safety

private theorem exists_states {s : DeliveryCandidateState}
    {t : List (Option DeliveryCandidateState)}
    (hpath : List.IsChain (fun a b => ∃ source target, a = some source ∧
      b = some target ∧ Advances source target) (some s :: t)) :
    ∃ states, t = List.map some states ∧ List.IsChain Advances (s :: states) := by
  induction t generalizing s with
  | nil => exact ⟨[], rfl, List.isChain_singleton s⟩
  | cons o t ih =>
      rw [List.isChain_cons_cons] at hpath
      obtain ⟨⟨source, target, hsource, rfl, hadvances⟩, hrest⟩ := hpath
      obtain rfl := Option.some.inj hsource
      obtain ⟨states, rfl, hchain⟩ := ih hrest
      exact ⟨target :: states, rfl, List.isChain_cons_cons.mpr ⟨hadvances, hchain⟩⟩

private theorem stateTrail_path (hfresh : FreshCandidate store id)
    {configs : List DeliveryConfig}
    (hchain : List.IsChain DeliveryStep (Config.initial store :: configs)) :
    ∃ path ∈ [localPath, landingPath], ∃ t, t <+: path ∧
      stateTrail id (Config.initial store :: configs) = t.map some := by
  have hstart : candidateState id (Config.initial store : DeliveryConfig) = some .verified := by
    obtain ⟨row, hrow, _, hstate, _⟩ := hfresh.candidate
    simp [candidateState, Config.initial, hrow, hstate]
  obtain ⟨t, ht, hpath⟩ := trail_isChain
    (R := fun a b => ∃ source target, a = some source ∧ b = some target ∧
      Advances source target) (f := candidateState id) hchain (by
      intro d d' hrun hstep
      rcases candidateState_step (sound_of_reached hfresh hrun) hstep with h |
        ⟨_, call, _, _, move, hmove, _, _, _, _, hsource, htarget⟩
      · exact .inl h.symm
      · exact .inr ⟨move.source, move.target, hsource, htarget, call, move, hmove, rfl, rfl⟩)
  rw [hstart] at ht hpath
  obtain ⟨states, hstates, hchain'⟩ := exists_states hpath
  obtain ⟨path, hmem, hprefix⟩ := prefix_of_verified hchain'
  refine ⟨path, hmem, _, hprefix, ?_⟩
  rw [stateTrail, ht, hstates, List.map_cons]

/-- Delivery is safe for every candidate that starts fresh, whatever the
callers, the outside answers and the crashes. -/
theorem deliveryOrchestrator_safe (hfresh : FreshCandidate store id) :
    DeliverySafe store id where
  path := by
    intro configs hchain
    obtain ⟨path, hmem, t, hprefix, ht⟩ := stateTrail_path hfresh hchain
    refine ⟨path, hmem, ?_⟩
    rw [ht]
    exact hprefix.map some
  once := by
    intro configs hchain
    obtain ⟨path, hmem, t, hprefix, ht⟩ := stateTrail_path hfresh hchain
    have hnodup : path.Nodup := by
      simp only [List.mem_cons, List.not_mem_nil, or_false] at hmem
      rcases hmem with rfl | rfl <;> decide
    rw [ht]
    exact (hnodup.sublist hprefix.sublist).map fun _ _ h => Option.some.inj h
  commit := by
    intro c c' sha hrun hsteps hcommit
    have hevolves := (Outline.steps_sound (deliveryOutline_entries id)
      (sound_of_reached hfresh hrun) hsteps).2
    exact hcommit.evolve hevolves
  push := by
    intro c c' pid call input resp hrun hstep hspawn hid hpast
    exact (promise_of_step (sound_of_reached hfresh hrun) hstep hspawn hpast).2 hid
  pullRequest := by
    intro c c' pid call input resp hrun hstep hspawn hid hpast
    exact (promise_of_step (sound_of_reached hfresh hrun) hstep hspawn hpast).2 hid
  merge := by
    intro c c' pid call input resp hrun hstep hspawn hid hpast
    exact (promise_of_step (sound_of_reached hfresh hrun) hstep hspawn hpast).2.2 hid
  landed := by
    intro c c' hrun hstep hbefore hafter
    rcases candidateState_step (sound_of_reached hfresh hrun) hstep with h |
      ⟨pid, call, input, resp, move, hmove, hpast, hspawn, hid, hgates, _, htarget⟩
    · exact absurd (h.symm.trans hafter) hbefore
    · have hlanded : move.target = .landed := Option.some.inj (htarget.symm.trans hafter)
      cases call with
      | checkpoint _ _ =>
          simp only [DeliveryCall.moves, List.mem_singleton] at hmove
          subst hmove
          cases hlanded
      | deliver _ _ =>
          simp only [DeliveryCall.moves, List.mem_cons, List.not_mem_nil, or_false] at hmove
          rcases hmove with rfl | rfl | rfl | rfl <;> cases hlanded
      | land candidateId key gates =>
          obtain ⟨hhuman, hplatform⟩ := hgates
          obtain rfl : candidateId = id := hid
          obtain rfl : gates = ⟨true, true⟩ := by
            cases gates
            simp_all
          exact ⟨pid, key, input, resp, hspawn.1, hpast⟩

end Safety

/-! ## A candidate that is landed -/

def sampleRow : CandidateRow :=
  { id := js "candidate"
    organizationId := js "org"
    projectId := js "project"
    repositoryId := js "repository"
    goalId := js "goal"
    issueId := js "issue"
    runId := js "run"
    worktreePath := js "/work/tree"
    baselineBranch := js "main"
    baselineSha := js "b0"
    branch := js "autodev/h-0001"
    commitMessage := js "feat: deliver"
    commitSha := none
    reviewId := none
    state := .verified
    version := 1 }

def sampleReview : ReviewRecord :=
  { id := js "review"
    organizationId := js "org"
    projectId := js "project"
    goalId := js "goal"
    issueId := js "issue"
    runId := js "run"
    idempotencyKey := js "review-0001"
    targetCommitSha := js "c0ffee"
    verdict := .approved
    builderIdentity := js "builder"
    reviewerIdentity := js "reviewer"
    reviewedAt := 1 }

def sampleStore : DeliveryStore :=
  { candidates := fun id => if id = js "candidate" then some sampleRow else none
    pushReceipts := []
    pullRequestReceipts := []
    landingReceipts := []
    operations := fun _ _ => none
    reviews := [] }

def sampleOutside : Outside :=
  { failure := none
    commit := ⟨js "c0ffee", js "one file"⟩
    decision := ⟨.pushAndOpenPr, some (js "credential"), [js "contents:write"]⟩
    lease := ⟨1⟩
    push := ⟨js "receipt", js "origin", js "autodev/h-0001", js "c0ffee", 2⟩
    pullRequest := ⟨js "17", js "https://git/17", js "autodev/h-0001", js "main"⟩
    landing := ⟨js "17", js "d00d", 3⟩ }

def landingSchedule : List (Action DeliveryCall Outside ReviewRecord) :=
  [.spawn (.checkpoint (js "candidate") (js "checkpoint-1"))] ++
    List.replicate 4 (.perform 0 sampleOutside) ++
    [.change sampleReview, .spawn (.deliver (js "candidate") (js "deliver-1"))] ++
    List.replicate 12 (.perform 1 sampleOutside) ++
    [.spawn (.land (js "candidate") (js "landing-1") ⟨true, true⟩)] ++
    List.replicate 9 (.perform 2 sampleOutside)

theorem sampleStore_fresh : FreshCandidate sampleStore (js "candidate") where
  candidate := ⟨sampleRow, rfl, rfl, rfl, rfl⟩
  operations _ := rfl

/-- Safety of a candidate that can indeed be landed. -/
theorem deliveryOrchestrator_safe_landing :
    (∃ c, Reached deliverySystem sampleStore c ∧
      candidateState (js "candidate") c = some .landed) ∧
    DeliverySafe sampleStore (js "candidate") := by
  refine ⟨?_, deliveryOrchestrator_safe sampleStore_fresh⟩
  have hrun : (execute deliverySystem (Config.initial sampleStore) landingSchedule).map
      (candidateState (js "candidate")) = some (some .landed) := by
    decide +kernel
  obtain ⟨c, hc, hstate⟩ := Option.map_eq_some_iff.mp hrun
  exact ⟨c, reached_of_execute hc, hstate⟩

end DevHarness.Delivery
