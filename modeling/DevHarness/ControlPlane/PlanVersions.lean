import DevHarness.ControlPlane.PlanHistory

/-!
# The versions of an issue plan

A decision raises the version of the plan that it is on, and is committed only where
the plan still has the version that was read.  So a plan is decided on as it was read,
as a draft, and an approved plan stays as it is.
-/

namespace DevHarness.ControlPlane

open JsText Interleave Program

variable {services : ControlServices} {backend : IssuePlanBackend} {store : ControlStore}
  {cond : Moment ControlStore ControlCommand ControlCommand.Answer Thrown ControlCall ControlResult
    Empty → Attempt ControlCommand ControlCall Empty → Prop}
  {c c' : ControlConfig} {row : IssuePlan} {input : CommitIssuePlanApproval}

/-- What was read of a plan still says what its row is at that version. -/
def PlansVersioned (c : ControlConfig) : Prop :=
  ∀ e ∈ c.now.past, ∀ plan, planRead? e = some plan →
    ∃ row ∈ c.now.state.issuePlans, row.id = plan.id ∧ plan.version ≤ row.version ∧
      (plan.version = row.version → row = plan)

theorem version_of_decidable (hdistinct : PlansDistinct store)
    (hchained : ∀ scope, Chained (store.plansOf scope)) (h : store.decidable backend input = true)
    (hrow : row ∈ store.issuePlans) (hid : row.id = input.current.id) :
    row.version = input.expectedVersion := by
  obtain ⟨latest, hlatest, hid', hversion⟩ := latest_of_decidable (hchained _) h
  have hmem : latest ∈ store.issuePlans := (mem_plansOf.mp (mem_of_getLatestIssuePlan hlatest)).1
  have hsame : row = latest := hdistinct.eq_of_id_eq hrow hmem (hid.trans hid'.symm)
  rw [hsame, hversion]

theorem version_decidedRow (h : store.decidable backend input = true)
    (hversion : row.version = input.expectedVersion) :
    (ControlStore.decidedRow backend input.next row).version = row.version + 1 := by
  cases backend with
  | memory =>
      have hnext : input.next.version = input.expectedVersion + 1 := by
        simp only [ControlStore.decidable] at h
        split at h
        · exact (of_decide_eq_true h).2.2
        · cases h
      change input.next.version = row.version + 1
      rw [hnext, hversion]
  | postgres => rfl

theorem PlansVersioned.draft_of_decidable {pid : ℕ}
    {answer : Except Thrown IssuePlanApprovalReceipt} {call : ControlCall} (h : PlansVersioned c)
    (hkept : PlansKept c)
    (hperformed : Performed services backend c c' pid (.commitApproval input) answer call)
    (hdecidable : c.now.state.decidable backend input = true)
    (hrow : row ∈ c.now.state.issuePlans) (hid : row.id = input.current.id) :
    row.status = .draft := by
  have hwrite : Write.approval ∈ call.writes := hperformed.mem_writes rfl
  cases call with
  | approve command =>
      obtain ⟨hread, -, hstatus, hexpected⟩ :=
        read_of_reaches_commitApproval (reaches_tagged_iff.mp hperformed.reaches)
      obtain ⟨row', hrow', hid', -, hsame⟩ :=
        h _ (mem_exchangesOf.mp hread) input.current rfl
      have hrows : row = row' := hkept.distinct.eq_of_id_eq hrow hrow' (hid.trans hid'.symm)
      have hversion := version_of_decidable hkept.distinct hkept.chained hdecidable hrow hid
      have hcurrent : row' = input.current := by
        apply hsame
        rw [← hrows, hversion, hexpected]
      rw [hrows, hcurrent]
      exact hstatus
  | _ => simp [ControlCall.writes] at hwrite

theorem PlansVersioned.step (h : PlansVersioned c) (hkept : PlansKept c)
    (hrun : Run (controlPlane services backend) cond store c)
    (hstep : Step (controlPlane services backend) cond c c') : PlansVersioned c' := by
  rcases performed_of_step hrun hstep with
    ⟨hstate, e', hpast, hexchange⟩ | ⟨pid, command, answer, call, hperformed, -⟩
  · intro e he plan hread
    rw [hpast] at he
    rw [hstate]
    rcases List.mem_cons.mp he with rfl | hold
    · rw [planRead?_of_exchange hexchange] at hread
      cases hread
    · exact h e hold plan hread
  · obtain ⟨outside, hexec⟩ := hperformed.exec
    intro e he plan hread
    rw [hperformed.past] at he
    rcases List.mem_cons.mp he with rfl | hold
    · obtain ⟨hmem, hstate⟩ := mem_of_planRead? hexec hread
      rw [hstate]
      exact ⟨plan, hmem, rfl, Nat.le_refl _, fun _ => rfl⟩
    · obtain ⟨row, hrow, hid, hle, hsame⟩ := h e hold plan hread
      cases plansMove_of_exec hexec with
      | same _ _ hplans =>
          rw [hplans]
          exact ⟨row, hrow, hid, hle, hsame⟩
      | appended next previous _ hplans =>
          rw [hplans]
          exact ⟨row, List.mem_append_left _ hrow, hid, hle, hsame⟩
      | decided input hdecidable hplans =>
          rw [hplans, decidedRows]
          refine ⟨_, List.mem_map_of_mem hrow, ?_⟩
          by_cases hdecided : row.scope = input.current.scope ∧ row.id = input.current.id
          · have hversion := version_of_decidable hkept.distinct hkept.chained hdecidable hrow
              hdecided.2
            have hnext := version_decidedRow hdecidable hversion
            have hcontent :
                (ControlStore.decidedRow backend input.next row).content = row.content :=
              content_decidedRow (hkept.content_next hperformed row hrow hdecided.2)
            have hid' := id_eq_of_content_eq hcontent
            rw [if_pos hdecided]
            exact ⟨hid'.trans hid, by omega, fun heq => by omega⟩
          · rw [if_neg hdecided]
            exact ⟨hid, hle, hsame⟩

section

variable (hfair : PlansFair store) (hrun : Run (controlPlane services backend) cond store c)

include hfair hrun

theorem plansVersioned_of_run : PlansVersioned c := by
  induction hrun with
  | refl =>
      intro e he
      exact absurd he List.not_mem_nil
  | tail hprefix hstep ih => exact ih.step (plansKept_of_run hfair hprefix) hprefix hstep

theorem approved_of_step (hstep : Step (controlPlane services backend) cond c c')
    (hrow : row ∈ c.now.state.issuePlans) (happroved : row.status = .approved) :
    row ∈ c'.now.state.issuePlans := by
  rcases performed_of_step hrun hstep with
    ⟨hstate, -⟩ | ⟨pid, command, answer, call, hperformed, -⟩
  · rw [hstate]
    exact hrow
  · obtain ⟨outside, hexec⟩ := hperformed.exec
    cases plansMove_of_exec hexec with
    | same _ _ hplans =>
        rw [hplans]
        exact hrow
    | appended next previous _ hplans =>
        rw [hplans]
        exact List.mem_append_left _ hrow
    | decided input hdecidable hplans =>
        have hnot : ¬ (row.scope = input.current.scope ∧ row.id = input.current.id) := by
          rintro ⟨-, hid⟩
          have hdraft := (plansVersioned_of_run hfair hrun).draft_of_decidable
            (plansKept_of_run hfair hrun) hperformed hdecidable hrow hid
          rw [happroved] at hdraft
          cases hdraft
        rw [hplans, decidedRows]
        refine List.mem_map.mpr ⟨row, hrow, ?_⟩
        rw [if_neg hnot]

theorem approved_of_steps
    (hsteps : Relation.ReflTransGen (Step (controlPlane services backend) cond) c c')
    (hrow : row ∈ c.now.state.issuePlans) (happroved : row.status = .approved) :
    row ∈ c'.now.state.issuePlans := by
  induction hsteps with
  | refl => exact hrow
  | tail hprefix hstep ih => exact approved_of_step hfair (hrun.trans hprefix) hstep ih happroved

end

end DevHarness.ControlPlane
