import DevHarness.Delivery.Outline

/-!
# The entry points keep their promises

The sequential part of the argument: `checkpoint`, `deliver` and `land`, each
followed from command to command.  Between two commands the others may have
moved the candidate on; what a call has learnt about the commit, the review and
the policy decision survives that.
-/

namespace DevHarness.Delivery

open JsText Interleave

section Entries

variable {id candidateId key sha : JsString} {pid : ℕ} {call : DeliveryCall} {m m' : DeliveryMoment}
  {candidate : DeliveryCandidate} {credential : CredentialLease} {gates : LandingGates}

/-- What a call carries with it once it has read the commit: that it was
spawned, and that the candidate in question has this commit. -/
structure Carries (id : JsString) (call : DeliveryCall) (pid : ℕ) (sha : JsString)
    (m : DeliveryMoment) : Prop where
  spawned : Running pid call m.past
  commit : call.candidateId = id → CommitIs id sha m.state

theorem Carries.some (h : Carries id call pid sha m) :
    call.candidateId = id → ∃ sha, CommitIs id sha m.state :=
  fun hid => ⟨sha, h.commit hid⟩

theorem Carries.onward (h : Carries id call pid sha m)
    (hon : (deliveryOutline id).Onward m m') : Carries id call pid sha m' :=
  ⟨h.spawned.mono hon.past, fun hid => (h.commit hid).evolve hon.evolves⟩

theorem ReviewFound.onward (h : ReviewFound id pid m)
    (hon : (deliveryOutline id).Onward m m') : ReviewFound id pid m' :=
  h.evolve hon.evolves hon.past

/-! ## Single commands -/

private theorem ensures_command {command : DeliveryCommand}
    (hspawn : Running pid call m.past)
    (hpromise : ∀ m', (deliveryOutline id).Onward m m' → CallPromise id call pid m' command) :
    (deliveryOutline id).ensures pid (await command)
      (fun _ m' => (deliveryOutline id).Onward m m') m := by
  refine Outline.ensures_request fun m' hlater _ => ?_
  refine ⟨⟨call, hspawn.mono hlater.onward.past, hpromise m' hlater.onward⟩, ?_⟩
  intro outside a store _ _ hevolves
  exact hlater.onward_push hevolves

section

variable (hspawn : Running pid call m.past)

include hspawn

theorem ensures_transition {input : TransitionInput}
    (hcall : input.candidateId = call.candidateId) (hgates : call.gatesOpen)
    (hmove : ∃ move ∈ call.moves, input.expectedStates = [move.source] ∧ input.nextState =
      move.target ∧ input.operationKey = move.operationKey ∧ (input.patch.commitSha = none ↔
      move.source ≠ .verified))
    (hreview : call.candidateId = id → input.nextState ≠ .committed → ∃ pid', ReviewFound id pid'
      m) :
    (deliveryOutline id).ensures pid (await (.transition input))
      (fun _ m' => (deliveryOutline id).Onward m m') m := by
  refine ensures_command hspawn fun m' hon => ?_
  refine ⟨hcall, hgates, hmove, fun hid hnext => ?_⟩
  obtain ⟨pid', hfound⟩ := hreview hid hnext
  exact ⟨pid', hfound.onward hon⟩

theorem ensures_rememberOperation (hremembers : call.remembers = true)
    (hcommit : call.candidateId = id → ∃ sha, CommitIs id sha m.state) :
    (deliveryOutline id).ensures pid
      (await (.rememberOperation call.candidateId call.idempotencyKey))
      (fun _ m' => (deliveryOutline id).Onward m m') m := by
  refine ensures_command hspawn fun m' hon => ?_
  refine ⟨rfl, rfl, hremembers, fun hid => ?_⟩
  obtain ⟨sha, hsha⟩ := hcommit hid
  exact ⟨sha, hsha.evolve hon.evolves⟩

theorem ensures_authorize {target : DeliveryTarget} :
    (deliveryOutline id).ensures pid (await (.authorize target))
      (fun decision m' => (deliveryOutline id).Onward m m' ∧
        ∀ effect : DeliveryPolicyDecision → Prop, effect decision →
          Authorised effect target.commitSha pid m') m := by
  refine Outline.ensures_request fun m' hlater _ => ?_
  refine ⟨⟨call, hspawn.mono hlater.onward.past, trivial⟩, ?_⟩
  intro outside decision store _ _ hevolves
  refine ⟨hlater.onward_push hevolves, fun effect heffect => ?_⟩
  exact ⟨target, decision, rfl, heffect, List.mem_cons_self⟩

theorem ensures_findApprovedReview {query : ReviewQuery} :
    (deliveryOutline id).ensures pid (await (.findApprovedReview query))
      (fun found m' => (deliveryOutline id).Onward m m' ∧
        ∀ review, found = some review → query.selects review = true ∧
          .performed pid (.findApprovedReview query) (.ok (some review)) ∈ m'.past) m := by
  refine Outline.ensures_request fun m' hlater _ => ?_
  refine ⟨⟨call, hspawn.mono hlater.onward.past, trivial⟩, ?_⟩
  intro outside found store hexec _ hevolves
  refine ⟨hlater.onward_push hevolves, ?_⟩
  rintro review rfl
  refine ⟨?_, List.mem_cons_self⟩
  have hexec := Option.some.inj hexec
  unfold execDelivery at hexec
  split at hexec
  · cases (Prod.mk.inj hexec).1
  · exact selects_of_findApprovedReview (Except.ok.inj (Prod.mk.inj hexec).1)

end

/-- A candidate as it was read: its commit is the commit of the candidate, it
has one past `verified`, and past `committed` a review of it has been found. -/
structure ReadAt (id : JsString) (candidate : DeliveryCandidate) (m : DeliveryMoment) :
    Prop where
  committed : ∀ {sha}, candidate.commitSha = some sha →
    StillCommitted id candidate sha m.state
  commit : candidate.state ≠ .verified → ∃ sha, candidate.commitSha = some sha
  reviewed : candidate.state ≠ .verified → candidate.state ≠ .committed →
    ∃ pid', ReviewFound id pid' m

theorem ensures_requiredCandidate (hspawn : Running pid call m.past) :
    (deliveryOutline id).ensures pid (requiredCandidate call.candidateId)
      (fun candidate m' => (deliveryOutline id).Onward m m' ∧
        (call.candidateId = id → ReadAt id candidate m')) m := by
  refine Outline.ensures_bind (Outline.ensures_request fun m' hlater _ => ?_)
  refine ⟨⟨call, hspawn.mono hlater.onward.past, trivial⟩, ?_⟩
  intro outside found store hexec hinv hevolves
  cases found with
  | none => exact Outline.ensures_throw
  | some candidate =>
      refine Outline.ensures_pure ⟨hlater.onward_push hevolves, ?_⟩
      intro hid
      have hread : readCandidate store id = some candidate := by
        have hexec := Option.some.inj hexec
        unfold execDelivery at hexec
        split at hexec
        · cases (Prod.mk.inj hexec).1
        · obtain ⟨hresp, rfl⟩ := Prod.mk.inj hexec
          rw [← hid]
          exact Except.ok.inj hresp
      obtain ⟨row, hrow, hscope, hcommit, hstate, _⟩ := readCandidate_eq_some hread
      obtain ⟨row', hrow', _, hverified⟩ := hinv.candidate
      obtain rfl : row = row' := Option.some.inj (hrow.symm.trans hrow')
      refine ⟨fun hsha => ⟨row, hrow, hscope, hcommit ▸ hsha⟩, ?_, ?_⟩
      · intro hne
        rw [hstate] at hne
        rw [hcommit]
        exact Option.ne_none_iff_exists'.mp (mt hverified.mpr hne)
      · rw [hstate]
        exact hinv.reviewed hrow

theorem ensures_replayOr {perform : DeliveryProgram DeliveryCandidate}
    (hown : eventsOf pid m.past = [.spawned pid call])
    (hperform : ∀ m', Running pid call m'.past →
      (deliveryOutline id).ensures pid perform (fun _ _ => True) m') :
    (deliveryOutline id).ensures pid
      (replayOr call.candidateId call.idempotencyKey perform) (fun _ _ => True) m := by
  have hspawn : .spawned pid call ∈ m.past := by
    have hmem : Event.spawned pid call ∈ eventsOf pid m.past := by
      rw [hown]
      exact List.mem_cons_self
    exact (mem_eventsOf.mp hmem).1
  unfold replayOr
  refine Outline.ensures_bind ?_
  unfold validateOperationKey
  split
  · next hvalid =>
    have hrunning : Running pid call m.past := ⟨hspawn, hvalid⟩
    refine Outline.ensures_pure (Outline.ensures_bind ?_)
    refine Outline.ensures_request fun m' hlater _ => ?_
    have hspawn' := hrunning.mono hlater.onward.past
    refine ⟨⟨call, hspawn', rfl, rfl, hlater.own.trans hown⟩, ?_⟩
    intro outside found store _ _ _
    cases found with
    | none => exact hperform _ (hspawn'.mono (List.subset_cons_self _ _))
    | some replay => exact Outline.ensures_pure trivial
  · exact Outline.ensures_throw

theorem ensures_checkpointCandidate
    (hspawn : Running pid (.checkpoint candidateId key) m.past) :
    (deliveryOutline id).ensures pid (checkpointCandidate candidateId key)
      (fun _ _ => True) m := by
  refine Outline.ensures_bind (Outline.ensures_mono (ensures_requiredCandidate hspawn) ?_)
  rintro candidate m₁ ⟨hon, _⟩
  have hspawn₁ := hspawn.mono hon.past
  split
  · exact Outline.ensures_throw
  · refine Outline.ensures_bind ?_
    refine Outline.ensures_mono (ensures_command hspawn₁ fun _ _ => trivial) ?_
    intro receipt m₂ hon₂
    refine Outline.ensures_mono (ensures_transition (hspawn₁.mono hon₂.past) rfl trivial ?_ ?_)
      fun _ _ _ => trivial
    · exact ⟨_, List.mem_singleton.mpr rfl, rfl, rfl, rfl, by simp⟩
    · intro _ hnext
      exact absurd rfl hnext

/-! ## `deliver` -/

theorem ensures_acceptReview {review : ReviewRecord}
    (hspawn : Running pid (.deliver candidateId key) m.past)
    (hreview : candidateId = id → ReviewFound id pid m) :
    (deliveryOutline id).ensures pid (acceptReview candidateId key candidate review)
      (fun _ m' => (deliveryOutline id).Onward m m') m := by
  unfold acceptReview
  split
  · refine ensures_transition hspawn rfl trivial ?_ fun hid _ => ⟨pid, hreview hid⟩
    exact ⟨_, List.mem_cons_self, rfl, rfl, rfl, by simp⟩
  · exact Outline.ensures_pure (.refl m)

section

variable (hcarries : Carries id (.deliver candidateId key) pid sha m)
  (hreview : candidateId = id → ReviewFound id pid m)

include hcarries hreview

theorem ensures_deliverLocally :
    (deliveryOutline id).ensures pid (deliverLocally candidateId key candidate)
      (fun _ _ => True) m := by
  unfold deliverLocally
  split
  · exact Outline.ensures_mono (ensures_rememberOperation hcarries.spawned rfl hcarries.some) fun _ _ _ => trivial
  · refine Outline.ensures_bind ?_
    refine Outline.ensures_mono (ensures_transition hcarries.spawned rfl trivial ?_
      fun hid _ => ⟨pid, hreview hid⟩) ?_
    · exact ⟨_, List.mem_cons_of_mem _ List.mem_cons_self, rfl, rfl, rfl, by simp⟩
    · intro next m₁ hon
      refine Outline.ensures_bind ?_
      have hcarries₁ := hcarries.onward hon
      refine Outline.ensures_mono
        (ensures_rememberOperation hcarries₁.spawned rfl hcarries₁.some) ?_
      intro _ _ _
      exact Outline.ensures_pure trivial

theorem ensures_pushReviewed (hauth : Authorised DeliveryPolicyDecision.AllowsPush sha pid m) :
    (deliveryOutline id).ensures pid (pushReviewed candidateId key candidate sha credential)
      (fun _ m' => (deliveryOutline id).Onward m m') m := by
  unfold pushReviewed
  split
  · refine Outline.ensures_bind (Outline.ensures_mono
      (ensures_command hcarries.spawned fun m' hon hid => ?_) ?_)
    · exact ⟨(hcarries.onward hon).commit hid, (hreview hid).onward hon, hauth.mono hon.past⟩
    · intro push m₁ hon
      refine Outline.ensures_mono (ensures_transition (hcarries.spawned.mono hon.past) rfl trivial ?_
        fun hid _ => ⟨pid, (hreview hid).onward hon⟩) fun _ _ hon' => hon.trans hon'
      exact ⟨_, List.mem_cons_of_mem _ (List.mem_cons_of_mem _ List.mem_cons_self), rfl, rfl,
        rfl, by simp⟩
  · exact Outline.ensures_pure (.refl m)

theorem ensures_openRequested {mode : PushMode}
    (hauth : mode = .pushAndOpenPr → Authorised DeliveryPolicyDecision.AllowsPullRequest sha pid
      m) :
    (deliveryOutline id).ensures pid
      (openRequested candidateId key candidate sha mode credential)
      (fun _ m' => (deliveryOutline id).Onward m m') m := by
  unfold openRequested
  split
  · next hmode =>
    refine Outline.ensures_bind (Outline.ensures_mono
      (ensures_command hcarries.spawned fun m' hon hid => ?_) ?_)
    · exact ⟨(hcarries.onward hon).commit hid, (hreview hid).onward hon,
        (hauth hmode.1).mono hon.past⟩
    · intro pullRequest m₁ hon
      refine Outline.ensures_bind ?_
      refine Outline.ensures_mono (ensures_transition (hcarries.spawned.mono hon.past) rfl trivial ?_
        fun hid _ => ⟨pid, (hreview hid).onward hon⟩) ?_
      · exact ⟨_, List.mem_cons_of_mem _ (List.mem_cons_of_mem _
          (List.mem_cons_of_mem _ List.mem_cons_self)), rfl, rfl, rfl, by simp⟩
      · intro _ _ hon'
        exact Outline.ensures_pure (hon.trans hon')
  · exact Outline.ensures_pure (.refl m)

end

theorem ensures_release (hspawn : Running pid call m.past) :
    (deliveryOutline id).ensures pid (await (.release credential))
      (fun _ m' => (deliveryOutline id).Onward m m') m :=
  ensures_command hspawn fun _ _ => trivial

theorem ensures_deliverRemotely {decision : DeliveryPolicyDecision}
    (hcarries : Carries id (.deliver candidateId key) pid sha m)
    (hreview : candidateId = id → ReviewFound id pid m) (hmode : decision.mode ≠ .pushDisabled)
    (hauth : ∀ effect : DeliveryPolicyDecision → Prop, effect decision → Authorised effect sha pid
      m) :
    (deliveryOutline id).ensures pid (deliverRemotely candidateId key candidate sha decision)
      (fun _ _ => True) m := by
  unfold deliverRemotely
  split
  · exact Outline.ensures_throw
  · next reference hcredential =>
    have hcredential' : decision.credential ≠ none := by
      rw [hcredential]
      exact Option.some_ne_none _
    refine Outline.ensures_bind (Outline.ensures_mono
      (ensures_command hcarries.spawned fun _ _ => trivial) ?_)
    intro credential m₁ hon₁
    have hcarries₁ := hcarries.onward hon₁
    have hreview₁ : candidateId = id → ReviewFound id pid m₁ :=
      fun hid => (hreview hid).onward hon₁
    refine Outline.ensures_bind ?_
    refine Outline.ensures_andFinally ?_ ?_
    · intro m' hon
      exact Outline.ensures_mono (ensures_release (hcarries₁.spawned.mono hon.past))
        fun _ _ _ => trivial
    · refine Outline.ensures_bind (Outline.ensures_mono
        (ensures_pushReviewed hcarries₁ hreview₁ ?_) ?_)
      · exact (hauth _ ⟨hmode, hcredential'⟩).mono hon₁.past
      · intro pushed m₂ hon₂
        have hcarries₂ := hcarries₁.onward hon₂
        refine Outline.ensures_mono (ensures_openRequested hcarries₂
          (fun hid => (hreview₁ hid).onward hon₂) ?_) ?_
        · intro hpr
          exact ((hauth _ ⟨hpr, hcredential'⟩).mono hon₁.past).mono hon₂.past
        · intro _ m₃ hon₃
          have hcarries₃ := hcarries₂.onward hon₃
          refine Outline.ensures_mono (ensures_release hcarries₃.spawned) ?_
          intro _ m₄ hon₄
          have hcarries₄ := hcarries₃.onward hon₄
          exact Outline.ensures_mono
            (ensures_rememberOperation hcarries₄.spawned rfl hcarries₄.some) fun _ _ _ => trivial

theorem ensures_deliverCommit (hspawn : Running pid (.deliver candidateId key) m.past)
    (hstill : candidateId = id → StillCommitted id candidate sha m.state) :
    (deliveryOutline id).ensures pid (deliverCommit candidateId key candidate sha)
      (fun _ _ => True) m := by
  have hcarries : Carries id (.deliver candidateId key) pid sha m :=
    ⟨hspawn, fun hid => (hstill hid).commitIs⟩
  unfold deliverCommit
  refine Outline.ensures_bind (Outline.ensures_mono (ensures_findApprovedReview hspawn) ?_)
  rintro found m₁ ⟨hon₁, hfound⟩
  have hcarries₁ := hcarries.onward hon₁
  cases found with
  | none => exact Outline.ensures_throw
  | some review =>
      obtain ⟨hselects, hmem⟩ := hfound review rfl
      have hreview : candidateId = id → ReviewFound id pid m₁ := by
        intro hid
        obtain ⟨row, hrow, hscope, hsha⟩ := (hstill hid).evolve hon₁.evolves
        refine ⟨row, _, review, hrow, ?_, hselects, hmem⟩
        simp only [ReviewQuery.Names, hsha, hscope, and_self]
      refine Outline.ensures_bind (Outline.ensures_mono
        (ensures_acceptReview hcarries₁.spawned hreview) ?_)
      intro accepted m₂ hon₂
      have hcarries₂ := hcarries₁.onward hon₂
      refine Outline.ensures_bind (Outline.ensures_mono
        (ensures_authorize hcarries₂.spawned) ?_)
      rintro decision m₃ ⟨hon₃, hauth⟩
      have hcarries₃ := hcarries₂.onward hon₃
      have hreview₃ : candidateId = id → ReviewFound id pid m₃ :=
        fun hid => ((hreview hid).onward hon₂).onward hon₃
      split
      · exact ensures_deliverLocally hcarries₃ hreview₃
      · next hmode => exact ensures_deliverRemotely hcarries₃ hreview₃ hmode hauth

theorem ensures_deliverCandidate
    (hspawn : Running pid (.deliver candidateId key) m.past) :
    (deliveryOutline id).ensures pid (deliverCandidate candidateId key)
      (fun _ _ => True) m := by
  refine Outline.ensures_bind (Outline.ensures_mono (ensures_requiredCandidate hspawn) ?_)
  rintro candidate m₁ ⟨hon, hread⟩
  have hspawn₁ := hspawn.mono hon.past
  split
  · next htruthy =>
    obtain ⟨sha, hsha, _⟩ := exists_of_truthy htruthy
    have hstill : candidateId = id → StillCommitted id candidate sha m₁.state :=
      fun hid => (hread hid).committed hsha
    split
    · exact Outline.ensures_mono (ensures_rememberOperation hspawn₁ rfl
        fun hid => ⟨sha, (hstill hid).commitIs⟩) fun _ _ _ => trivial
    · rw [hsha, Option.getD_some]
      exact ensures_deliverCommit hspawn₁ hstill
  · exact Outline.ensures_throw

/-! ## `land` -/

private theorem someReview_onward (hreview : candidateId = id → ∃ pid', ReviewFound id pid' m)
    (hon : (deliveryOutline id).Onward m m') :
    candidateId = id → ∃ pid', ReviewFound id pid' m' := by
  intro hid
  obtain ⟨pid', hfound⟩ := hreview hid
  exact ⟨pid', hfound.onward hon⟩

theorem ensures_startLanding (hspawn : Running pid (.land candidateId key gates) m.past)
    (hgates : (DeliveryCall.land candidateId key gates).gatesOpen)
    (hreview : candidateId = id → ∃ pid', ReviewFound id pid' m) :
    (deliveryOutline id).ensures pid (startLanding candidateId key candidate)
      (fun _ m' => (deliveryOutline id).Onward m m') m := by
  unfold startLanding
  split
  · refine ensures_transition hspawn rfl hgates ?_ fun hid _ => hreview hid
    exact ⟨_, List.mem_cons_self, rfl, rfl, rfl, by simp⟩
  · exact Outline.ensures_pure (.refl m)

section

variable (hcarries : Carries id (.land candidateId key gates) pid sha m)
  (hgates : (DeliveryCall.land candidateId key gates).gatesOpen)
  (hreview : candidateId = id → ∃ pid', ReviewFound id pid' m)

include hcarries hgates hreview

theorem ensures_mergeLanding {reference : JsString} {requiredScopes : List JsString}
    (hauth : Authorised DeliveryPolicyDecision.AllowsPullRequest sha pid m) :
    (deliveryOutline id).ensures pid
      (mergeLanding candidateId key candidate sha reference requiredScopes)
      (fun _ _ => True) m := by
  unfold mergeLanding
  refine Outline.ensures_bind (Outline.ensures_mono
    (ensures_command hcarries.spawned fun _ _ => trivial) ?_)
  intro credential m₁ hon₁
  have hcarries₁ := hcarries.onward hon₁
  refine Outline.ensures_bind (Outline.ensures_andFinally ?_ ?_)
  · intro m' hon
    exact Outline.ensures_mono (ensures_release (hcarries₁.spawned.mono hon.past))
      fun _ _ _ => trivial
  · refine Outline.ensures_bind (Outline.ensures_mono
      (ensures_command hcarries₁.spawned fun m' hon => ⟨hgates, fun hid => ?_⟩) ?_)
    · exact ⟨(hcarries₁.onward hon).commit hid, someReview_onward hreview (hon₁.trans hon) hid,
        (hauth.mono hon₁.past).mono hon.past⟩
    · intro landing m₂ hon₂
      have hcarries₂ := hcarries₁.onward hon₂
      refine Outline.ensures_mono (ensures_transition hcarries₂.spawned rfl hgates ?_
        fun hid _ => someReview_onward hreview (hon₁.trans hon₂) hid) ?_
      · exact ⟨_, List.mem_cons_of_mem _ List.mem_cons_self, rfl, rfl, rfl, by simp⟩
      · intro landed m₃ hon₃
        have hcarries₃ := hcarries₂.onward hon₃
        refine Outline.ensures_mono (ensures_release hcarries₃.spawned) ?_
        intro _ m₄ hon₄
        have hcarries₄ := hcarries₃.onward hon₄
        refine Outline.ensures_bind (Outline.ensures_mono
          (ensures_rememberOperation hcarries₄.spawned rfl hcarries₄.some) ?_)
        intro _ _ _
        exact Outline.ensures_pure trivial

theorem ensures_landCommit :
    (deliveryOutline id).ensures pid (landCommit candidateId key candidate sha)
      (fun _ _ => True) m := by
  unfold landCommit
  refine Outline.ensures_bind (Outline.ensures_mono (ensures_authorize hcarries.spawned) ?_)
  rintro decision m₁ ⟨hon₁, hauth⟩
  have hcarries₁ := hcarries.onward hon₁
  have hreview₁ := someReview_onward hreview hon₁
  split
  · next hmode hcredential =>
    have hpr := hauth DeliveryPolicyDecision.AllowsPullRequest
      ⟨hmode, by rw [hcredential]; exact Option.some_ne_none _⟩
    refine Outline.ensures_bind (Outline.ensures_mono
      (ensures_startLanding hcarries₁.spawned hgates hreview₁) ?_)
    intro started m₂ hon₂
    exact ensures_mergeLanding (hcarries₁.onward hon₂) hgates
      (someReview_onward hreview₁ hon₂) (hpr.mono hon₂.past)
  · exact Outline.ensures_throw

end

theorem ensures_landCandidate (hspawn : Running pid (.land candidateId key gates) m.past) :
    (deliveryOutline id).ensures pid (landCandidate candidateId key gates)
      (fun _ _ => True) m := by
  refine Outline.ensures_bind (Outline.ensures_mono (ensures_requiredCandidate hspawn) ?_)
  rintro candidate m₁ ⟨hon, hread⟩
  have hspawn₁ := hspawn.mono hon.past
  have hcommitted : truthy candidate.commitSha = true →
      Carries id (.land candidateId key gates) pid (candidate.commitSha.getD []) m₁ := by
    intro htruthy
    obtain ⟨sha, hsha, _⟩ := exists_of_truthy htruthy
    rw [hsha, Option.getD_some]
    exact ⟨hspawn₁, fun hid => ((hread hid).committed hsha).commitIs⟩
  split
  · next hlanded =>
    refine Outline.ensures_mono (ensures_rememberOperation hspawn₁ rfl ?_) fun _ _ _ => trivial
    intro hid
    have hverified : candidate.state ≠ .verified := by
      rw [hlanded]
      decide
    obtain ⟨sha, hsha⟩ := (hread hid).commit hverified
    exact ⟨sha, ((hread hid).committed hsha).commitIs⟩
  · next hlanded =>
    split
    · exact Outline.ensures_throw
    · next hhuman =>
      split
      · exact Outline.ensures_throw
      · next hplatform =>
        split
        · exact Outline.ensures_throw
        · next hopen =>
          simp only [not_or, Bool.not_eq_false] at hhuman hplatform hopen
          refine ensures_landCommit (hcommitted hopen.2.2) ⟨hhuman, hplatform⟩ ?_
          intro hid
          refine (hread hid).reviewed ?_ ?_
          · intro h
            simp [h] at hopen
          · intro h
            simp [h] at hopen

theorem deliveryOutline_entries (id : JsString) : (deliveryOutline id).Entries := by
  intro pid call m _ hown
  cases call with
  | checkpoint candidateId key =>
      exact Outline.wp_of_ensures
        (ensures_replayOr hown fun _ => ensures_checkpointCandidate)
  | deliver candidateId key =>
      exact Outline.wp_of_ensures
        (ensures_replayOr hown fun _ => ensures_deliverCandidate)
  | land candidateId key gates =>
      exact Outline.wp_of_ensures
        (ensures_replayOr hown fun _ => ensures_landCandidate)

end Entries

end DevHarness.Delivery
