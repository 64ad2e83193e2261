import DevHarness.SpecApprovals.History

/-!
# The proof outline of spec approvals

Every call keeps its promises, so in all runs the revisions of a goal are linear, settled
revisions stay as they are, and a decision is committed on the newest revision in the
version and status that its caller saw.
-/

namespace DevHarness.SpecApprovals

open JsText ControlPlane Interleave Program

/-- What `decide` commits for `command`. -/
structure DecisionMade (requestHash : CanonicalApproval → JsString)
    (command : SpecApprovalCommand) (input : CommitSpecApproval) : Prop where
  lookup : ∃ normalized, validateDecision requestHash command = .ok (normalized, input.idempotency)
  version : input.expectedVersion = command.expectedVersion
  status : input.current.status = command.decision.expectedStatus
  scope : input.current.scope = command.scope
  id : input.current.id = command.target.id
  next : input.next.id = input.current.id

def SpecPromise (requestHash : CanonicalApproval → JsString) (pid : ℕ) (m : SpecMoment) :
    SpecCommand → Prop
  | .append input => ∃ earlier, (History earlier ∧ Evolves earlier m.state) ∧
      RevisionMade earlier input
  | .findApprovalReceipt lookup => ∃ command, .spawned pid (.decide command) ∈ m.past ∧
      ∃ normalized, validateDecision requestHash command = .ok (normalized, lookup)
  | .commitApproval input => ∃ command, .spawned pid (.decide command) ∈ m.past ∧
      DecisionMade requestHash command input
  | _ => True

section Exec

variable {store next : SpecStore} {outside : Outside} {command : SpecCommand}
  {resp : Except Thrown command.Answer}

theorem execSpec_cases (hexec : execSpec outside command store = (resp, next)) :
    next = store ∨
      (∃ input, command = .append input ∧ store.append input = .ok next) ∨
      ∃ input, command = .commitApproval input ∧ store.claimed input.idempotency = false ∧
        store.recordApproval input = .ok next := by
  cases command with
  | append input =>
      simp only [execSpec] at hexec
      split at hexec
      · next store' hok =>
        rw [← (Prod.mk.inj hexec).2]
        exact .inr (.inl ⟨input, rfl, hok⟩)
      · exact .inl (Prod.mk.inj hexec).2.symm
  | commitApproval input =>
      simp only [execSpec, SpecStore.commitApproval] at hexec
      split at hexec
      · split at hexec <;> exact .inl (Prod.mk.inj hexec).2.symm
      · next hclaimed =>
        split at hexec
        · next store' hok =>
          rw [← (Prod.mk.inj hexec).2]
          exact .inr (.inr ⟨input, rfl, Bool.eq_false_iff.mpr hclaimed, hok⟩)
        · exact .inl (Prod.mk.inj hexec).2.symm
  | authorize actorId scope permission =>
      simp only [execSpec] at hexec
      split at hexec <;> exact .inl (Prod.mk.inj hexec).2.symm
  | _ => exact .inl (Prod.mk.inj hexec).2.symm

theorem expectedStatus_not_settled (decision : SpecApprovalDecision) :
    decision.expectedStatus.settled = false := by
  cases decision <;> rfl

theorem exec_keeps {requestHash : CanonicalApproval → JsString} {pid : ℕ} {m : SpecMoment}
    (h : History m.state) (hpromise : SpecPromise requestHash pid m command)
    (hexec : execSpec outside command m.state = (resp, next)) :
    History next ∧ Evolves m.state next := by
  rcases execSpec_cases hexec with rfl | ⟨input, rfl, hok⟩ | ⟨input, rfl, -, hok⟩
  · exact ⟨h, .refl _⟩
  · obtain ⟨earlier, ⟨hearlier, hevolves⟩, hmade⟩ := hpromise
    exact history_append hearlier h hevolves hmade hok
  · obtain ⟨command, -, hmade⟩ := hpromise
    refine history_recordApproval h hmade.next ?_ hok
    rw [hmade.status]
    exact expectedStatus_not_settled _

end Exec

/-! ## The outline -/

def specOutline (requestHash : CanonicalApproval → JsString) :
    Outline (specSystem requestHash) where
  cond := fun _ _ => True
  inv := fun m => History m.state
  evolves := Evolves
  promise := SpecPromise requestHash
  evolves_refl := .refl
  evolves_trans := .trans
  spawn := fun h _ _ => h
  perform := fun h _ hpromise hexec => exec_keeps h hpromise (Option.some.inj hexec)
  finish := fun h _ => h
  crash := fun h _ => h
  change := by
    intro m update state h _ henv
    obtain rfl := Option.some.inj henv
    exact ⟨⟨h.ids, h.revisions⟩, fun row hrow => ⟨row, hrow, .refl row⟩, List.prefix_rfl⟩

section Entries

variable {requestHash : CanonicalApproval → JsString} {pid : ℕ} {m : SpecMoment}
  {command : SpecApprovalCommand}

theorem ensures_generate {command : SpecGenerationCommand} :
    (specOutline requestHash).ensures pid (generate command) (fun _ _ => True) m := by
  unfold generate
  refine Outline.ensures_onward_bind (fun _ _ => trivial) fun _ _ _ => ?_
  refine Outline.ensures_done_bind fun _ _ => Outline.ensures_done_bind fun _ _ => ?_
  refine Outline.ensures_onward_bind (fun _ _ => trivial) fun found _ _ => ?_
  refine Outline.ensures_done_bind fun goal _ => ?_
  refine Outline.ensures_bind (Outline.ensures_request fun m₁ hlater₁ _ => ⟨trivial, ?_⟩)
  intro outside revisions state₁ hexec hinv hevolves₁
  obtain ⟨hrevisions, -⟩ := Prod.mk.inj (Option.some.inj hexec)
  obtain rfl := Except.ok.inj hrevisions
  refine Outline.ensures_onward_bind (fun _ _ => trivial) fun planned m₂ h₂ => ?_
  refine Outline.ensures_done_bind fun _ _ => Outline.ensures_done_bind fun content _ => ?_
  refine Outline.ensures_onward_bind (fun _ _ => trivial) fun occurredAt m₃ h₃ => ?_
  refine Outline.ensures_onward_bind (fun _ _ => trivial) fun artifact m₄ h₄ => ?_
  refine Outline.ensures_onward_bind (fun _ _ => trivial) fun id m₅ h₅ => ?_
  refine Outline.ensures_request fun m₆ h₆ _ => ⟨?_, fun _ _ _ _ _ _ => trivial⟩
  have honward := ((h₂.trans h₃).trans (h₄.trans h₅)).trans h₆.onward
  exact ⟨m₁.state, ⟨hlater₁.inv, hevolves₁.trans honward.evolves⟩, rfl, rfl, rfl⟩

theorem checkRevision_ok {normalized : NormalizedApproval} {current : SpecRevision}
    {latest : Option SpecRevision} {u : Unit}
    (h : checkRevision command normalized current latest = .ok u) :
    current.version = command.expectedVersion ∧
      current.status = command.decision.expectedStatus := by
  simp only [checkRevision, bind_eq_ok, require_eq_ok, decide_eq_true_eq] at h
  obtain ⟨-, -, -, hversion, -, hstatus, -⟩ := h
  exact ⟨hversion, hstatus⟩

theorem ensures_decide (hspawned : .spawned pid (.decide command) ∈ m.past) :
    (specOutline requestHash).ensures pid (decide requestHash command) (fun _ _ => True) m := by
  unfold decide
  refine Outline.ensures_onward_bind (fun _ _ => trivial) fun _ m₁ h₁ => ?_
  refine Outline.ensures_done_bind fun validated hvalidated => ?_
  obtain ⟨normalized, lookup⟩ := validated
  refine Outline.ensures_onward_bind (fun m' hlater => ?_) fun replay m₂ h₂ => ?_
  · exact ⟨command, hlater.mem (h₁.past hspawned), normalized, hvalidated⟩
  · split
    · exact Outline.ensures_pure trivial
    · unfold decideCurrent
      refine Outline.ensures_bind (Outline.ensures_request fun m₃ h₃ _ => ⟨trivial, ?_⟩)
      intro outside found state₃ hexec _ hevolves₃
      obtain ⟨hfound, -⟩ := Prod.mk.inj (Option.some.inj hexec)
      obtain rfl := Except.ok.inj hfound
      split
      · exact Outline.ensures_throw
      · next current hcurrent =>
        have hcurrentMem := List.mem_of_find?_eq_some hcurrent
        have hcurrentId := List.find?_some hcurrent
        simp only [decide_eq_true_eq] at hcurrentId
        have hscope := (mem_revisionsOf.mp (Sql.mem_orderBy.mp hcurrentMem)).2
        refine Outline.ensures_onward_bind (fun _ _ => trivial) fun latest m₄ h₄ => ?_
        refine Outline.ensures_done_bind fun _ hchecked => ?_
        obtain ⟨hversion, hstatus⟩ := checkRevision_ok hchecked
        refine Outline.ensures_onward_bind (fun _ _ => trivial) fun occurredAt m₅ h₅ => ?_
        refine Outline.ensures_onward_bind (fun _ _ => trivial) fun decisionId m₆ h₆ => ?_
        refine Outline.ensures_onward_bind (fun _ _ => trivial) fun receiptId m₇ h₇ => ?_
        refine Outline.ensures_onward_bind (fun _ _ => trivial) fun auditId m₈ h₈ => ?_
        refine Outline.ensures_onward_bind (fun _ _ => trivial) fun eventId m₉ h₉ => ?_
        refine Outline.ensures_request fun m' hlater _ => ⟨?_, fun _ _ _ _ _ _ => trivial⟩
        have honward := (h₁.trans h₂).trans (((h₃.onward_push hevolves₃).trans
          (h₄.trans h₅)).trans ((h₆.trans h₇).trans ((h₈.trans h₉).trans hlater.onward)))
        exact ⟨command, honward.past hspawned,
          ⟨normalized, hvalidated⟩, rfl, hstatus, hscope, hcurrentId, rfl⟩

theorem specOutline_entries : (specOutline requestHash).Entries := by
  intro pid call m _ hown
  have hspawned : .spawned pid call ∈ m.past := by
    have hmem : Event.spawned pid call ∈ eventsOf pid m.past := by
      rw [hown]
      exact List.mem_singleton_self _
    exact (mem_eventsOf.mp hmem).1
  have hcall : (specOutline requestHash).ensures pid (call.program requestHash)
      (fun _ _ => True) m := by
    cases call with
    | generate command =>
        exact Outline.ensures_bind (Outline.ensures_mono ensures_generate
          fun _ _ _ => Outline.ensures_pure trivial)
    | decide command =>
        exact Outline.ensures_bind (Outline.ensures_mono (ensures_decide hspawned)
          fun _ _ _ => Outline.ensures_pure trivial)
  exact Outline.wp_of_ensures hcall

end Entries

theorem history_ofGoals (goals : GoalScope → Option GoalContract) :
    History (.ofGoals goals) where
  ids := List.nodup_nil
  revisions := fun _ => .nil

variable {requestHash : CanonicalApproval → JsString} {goals : GoalScope → Option GoalContract}
  {cond : SpecCondition}

theorem sound_of_run {c : SpecConfig}
    (hrun : Run (specSystem requestHash) cond (.ofGoals goals) c) :
    (specOutline requestHash).Sound c :=
  Outline.sound_of_run specOutline_entries (history_ofGoals goals)
    (hrun.mono fun _ _ _ => trivial)

theorem evolves_of_steps {c d : SpecConfig}
    (hrun : Run (specSystem requestHash) cond (.ofGoals goals) c)
    (hsteps : Relation.ReflTransGen (Step (specSystem requestHash) cond) c d) :
    Evolves c.now.state d.now.state := by
  exact (Outline.steps_sound specOutline_entries (sound_of_run hrun)
    (steps_mono (fun _ _ _ => trivial) hsteps)).2

end DevHarness.SpecApprovals
