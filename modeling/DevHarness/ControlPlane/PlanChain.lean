import DevHarness.ControlPlane.Writes

/-!
# The chain of issue plans

The issue plans of a scope are numbered one after the other, and each refers to the
one before it.  What a decision changes of a plan is its status, its version and its
time, so the chain is left as it is; an append makes it longer by one.
-/

namespace DevHarness.ControlPlane

open JsText Interleave

/-! ## Chains -/

/-- Plans with the revisions 1, 2, 3, …, each but the first naming the one before it. -/
inductive Chained : List IssuePlan → Prop
  | nil : Chained []
  | snoc {plans : List IssuePlan} {plan : IssuePlan} (hplans : Chained plans)
      (hrevision : plan.revision = plans.length + 1)
      (hprevious : plan.previousPlanId = plans.getLast?.map (·.id)) : Chained (plans ++ [plan])

section Chained

variable {plans : List IssuePlan} {plan last : IssuePlan}

theorem Chained.revision_le_length (h : Chained plans) (hmem : plan ∈ plans) :
    plan.revision ≤ plans.length := by
  induction h with
  | nil => exact absurd hmem List.not_mem_nil
  | @snoc plans next hplans hrevision hprevious ih =>
      rw [List.length_append, List.length_singleton]
      rcases List.mem_append.mp hmem with hold | hnew
      · have hle := ih hold
        omega
      · rw [List.mem_singleton.mp hnew]
        omega

theorem Chained.revision_getLast? (h : Chained plans) :
    (plans.getLast?.map (·.revision)).getD 0 = plans.length := by
  cases h with
  | nil => rfl
  | snoc hplans hrevision hprevious => simp [hrevision]

theorem Chained.eq_getLast? (h : Chained plans) (hmem : plan ∈ plans)
    (hlast : plans.getLast? = some last) (hle : last.revision ≤ plan.revision) : plan = last := by
  cases h with
  | nil => cases hlast
  | @snoc plans next hplans hrevision hprevious =>
      rw [List.getLast?_append_of_ne_nil _ (by simp)] at hlast
      obtain rfl : next = last := by simpa using hlast
      rcases List.mem_append.mp hmem with hold | hnew
      · have hlt := hplans.revision_le_length hold
        omega
      · exact List.mem_singleton.mp hnew

theorem Chained.map {f : IssuePlan → IssuePlan} (h : Chained plans)
    (hid : ∀ plan ∈ plans, (f plan).id = plan.id)
    (hrevision : ∀ plan ∈ plans, (f plan).revision = plan.revision)
    (hprevious : ∀ plan ∈ plans, (f plan).previousPlanId = plan.previousPlanId) :
    Chained (plans.map f) := by
  induction h with
  | nil => exact .nil
  | @snoc plans next hplans hnext hlast ih =>
      have hmem : ∀ {plan}, plan ∈ plans → plan ∈ plans ++ [next] :=
        fun hplan => List.mem_append_left _ hplan
      have hself : next ∈ plans ++ [next] := List.mem_append_right _ (List.mem_singleton_self _)
      rw [List.map_append]
      refine .snoc (ih (fun plan hplan => hid plan (hmem hplan))
        (fun plan hplan => hrevision plan (hmem hplan))
        fun plan hplan => hprevious plan (hmem hplan)) ?_ ?_
      · rw [hrevision next hself, hnext, List.length_map]
      · rw [hprevious next hself, hlast, List.getLast?_map, Option.map_map]
        rcases hend : plans.getLast? with _ | plan
        · rfl
        · have hplan : plan ∈ plans := List.mem_of_getLast? hend
          simp [hid plan (hmem hplan)]

end Chained

/-! ## The latest plan -/

variable {store store' : ControlStore} {backend : IssuePlanBackend} {scope : GoalScope}
  {plan row : IssuePlan} {input : CommitIssuePlanApproval}

theorem mem_plansOf : plan ∈ store.plansOf scope ↔ plan ∈ store.issuePlans ∧ plan.scope = scope := by
  simp [ControlStore.plansOf]

theorem getLatestIssuePlan_congr (h : store'.plansOf scope = store.plansOf scope) :
    store'.getLatestIssuePlan backend scope = store.getLatestIssuePlan backend scope := by
  unfold ControlStore.getLatestIssuePlan
  rw [h]

theorem getLatestIssuePlan_eq (h : Chained (store.plansOf scope)) :
    store.getLatestIssuePlan backend scope = (store.plansOf scope).getLast? := by
  cases backend with
  | memory => rfl
  | postgres =>
      unfold ControlStore.getLatestIssuePlan
      generalize store.plansOf scope = plans at h ⊢
      cases h with
      | nil => rfl
      | @snoc plans plan hplans hrevision hprevious =>
          rw [List.getLast?_append_of_ne_nil _ (by simp), List.getLast?_singleton]
          refine Sql.first_append_singleton fun earlier hearlier => ?_
          have hle := hplans.revision_le_length hearlier
          have hne : earlier.revision ≠ plan.revision := by omega
          have hnlt : ¬ plan.revision < earlier.revision := by omega
          simp [hne, hnlt]

theorem mem_of_getLatestIssuePlan
    (h : store.getLatestIssuePlan backend scope = some plan) : plan ∈ store.plansOf scope := by
  cases backend with
  | memory => exact List.mem_of_getLast? h
  | postgres => exact Sql.mem_of_first h

theorem mem_of_getIssuePlan {planId : JsString} (h : store.getIssuePlan scope planId = some plan) :
    plan ∈ store.plansOf scope ∧ plan.id = planId := by
  have hid := List.find?_some h
  exact ⟨List.mem_of_find?_eq_some h, of_decide_eq_true hid⟩

/-- Where plans have an identifier of their own. -/
def PlansDistinct (store : ControlStore) : Prop :=
  (store.issuePlans.map (·.id)).Nodup

theorem PlansDistinct.eq_of_id_eq (h : PlansDistinct store) (hplan : plan ∈ store.issuePlans)
    (hrow : row ∈ store.issuePlans) (hid : plan.id = row.id) : plan = row :=
  List.inj_on_of_nodup_map h hplan hrow hid

def IssuePlan.content (plan : IssuePlan) : IssuePlan :=
  { plan with status := .draft, version := 0, updatedAt := 0 }

theorem content_decidedPlan {decision : IssuePlanApprovalDecision} {occurredAt : ℕ} :
    (decidedPlan plan decision occurredAt).content = plan.content := rfl

section

variable (h : plan.content = row.content)

include h

theorem id_eq_of_content_eq : plan.id = row.id := by
  have hfield := congrArg IssuePlan.id h
  exact hfield

theorem revision_eq_of_content_eq : plan.revision = row.revision := by
  have hfield := congrArg IssuePlan.revision h
  exact hfield

theorem previousPlanId_eq_of_content_eq : plan.previousPlanId = row.previousPlanId := by
  have hfield := congrArg IssuePlan.previousPlanId h
  exact hfield

theorem scope_eq_of_content_eq : plan.scope = row.scope := by
  have hfield := congrArg IssuePlan.scope h
  exact hfield

end

theorem content_decidedRow {next : IssuePlan} (h : next.content = row.content) :
    (ControlStore.decidedRow backend next row).content = row.content := by
  cases backend with
  | memory => exact h
  | postgres =>
      have hrow : (ControlStore.approvedRow row next).content =
          { next.content with digest := row.digest, createdAt := row.createdAt } := rfl
      change (ControlStore.approvedRow row next).content = row.content
      rw [hrow, h]
      rfl

theorem latest_of_decidable (hchained : Chained (store.plansOf input.current.scope))
    (h : store.decidable backend input = true) :
    ∃ row, store.getLatestIssuePlan backend input.current.scope = some row ∧
      row.id = input.current.id ∧ row.version = input.expectedVersion := by
  cases backend with
  | memory =>
      simp only [ControlStore.decidable] at h
      split at h
      · next row hlatest =>
        obtain ⟨hid, hversion, -⟩ := of_decide_eq_true h
        exact ⟨row, hlatest, hid, hversion⟩
      · cases h
  | postgres =>
      simp only [ControlStore.decidable] at h
      split at h
      · next row hfound =>
        obtain ⟨hnewest, hversion, -⟩ := of_decide_eq_true h
        obtain ⟨hmem, hid⟩ := mem_of_getIssuePlan hfound
        rw [getLatestIssuePlan_eq hchained]
        obtain ⟨last, hlast⟩ :
            ∃ last, (store.plansOf input.current.scope).getLast? = some last :=
          ⟨_, List.getLast?_eq_some_getLast (List.ne_nil_of_mem hmem)⟩
        have hle : last.revision ≤ row.revision := hnewest last (List.mem_of_getLast? hlast)
        have hsame : row = last := hchained.eq_getLast? hmem hlast hle
        exact ⟨last, hlast, by rw [← hsame, hid], by rw [← hsame, hversion]⟩
      · cases h

/-! ## What a command does to the chains -/

theorem chained_append (hchained : ∀ scope, Chained (store.plansOf scope))
    (happends : Appends store backend plan plan.previousPlanId)
    (hplans : store'.issuePlans = store.issuePlans ++ [plan]) :
    ∀ scope, Chained (store'.plansOf scope) := by
  intro scope
  have hlatest : store.getLatestIssuePlan backend plan.scope =
      (store.plansOf plan.scope).getLast? := getLatestIssuePlan_eq (hchained plan.scope)
  unfold ControlStore.plansOf
  rw [hplans, List.filter_append]
  by_cases hscope : plan.scope = scope
  · subst hscope
    rw [List.filter_cons_of_pos (by simp), List.filter_nil]
    refine .snoc (hchained plan.scope) ?_ ?_
    · have hrevision := happends.revision
      rw [hlatest, (hchained plan.scope).revision_getLast?] at hrevision
      exact hrevision
    · have hprevious := happends.previous
      rw [hlatest] at hprevious
      exact hprevious.symm
  · rw [List.filter_cons_of_neg (by simp [hscope]), List.filter_nil, List.append_nil]
    exact hchained scope

theorem content_of_mem_decidedRows {rows : List IssuePlan}
    (hnext : ∀ row ∈ rows, row.id = input.current.id → input.next.content = row.content)
    (hrow : row ∈ rows) :
    (if row.scope = input.current.scope ∧ row.id = input.current.id then
      ControlStore.decidedRow backend input.next row else row).content = row.content := by
  split
  · next h => exact content_decidedRow (hnext row hrow h.2)
  · rfl

theorem plansOf_decide
    (hnext : ∀ row ∈ store.issuePlans, row.id = input.current.id → input.next.content =
      row.content) (hplans : store'.issuePlans = decidedRows backend input store.issuePlans) :
    ∃ f : IssuePlan → IssuePlan, (∀ row ∈ store.issuePlans, (f row).content = row.content) ∧
      ∀ scope, store'.plansOf scope = (store.plansOf scope).map f := by
  let f : IssuePlan → IssuePlan := fun row =>
    if row.scope = input.current.scope ∧ row.id = input.current.id then
      ControlStore.decidedRow backend input.next row else row
  have hcontent : ∀ row ∈ store.issuePlans, (f row).content = row.content :=
    fun row hrow => content_of_mem_decidedRows hnext hrow
  refine ⟨f, hcontent, fun scope => ?_⟩
  unfold ControlStore.plansOf
  rw [hplans, decidedRows, List.filter_map]
  congr 1
  refine List.filter_congr fun row hrow => ?_
  have hscope := scope_eq_of_content_eq (hcontent row hrow)
  rw [Function.comp_apply, decide_eq_decide]
  change (f row).scope = scope ↔ row.scope = scope
  rw [hscope]

theorem chained_decide (hchained : ∀ scope, Chained (store.plansOf scope))
    (hnext : ∀ row ∈ store.issuePlans, row.id = input.current.id → input.next.content =
      row.content) (hplans : store'.issuePlans = decidedRows backend input store.issuePlans) :
    ∀ scope, Chained (store'.plansOf scope) := by
  intro scope
  obtain ⟨f, hcontent, hfilter⟩ := plansOf_decide hnext hplans
  rw [hfilter]
  refine (hchained scope).map ?_ ?_ ?_
  · exact fun row hrow => id_eq_of_content_eq (hcontent row (mem_plansOf.mp hrow).1)
  · exact fun row hrow => revision_eq_of_content_eq (hcontent row (mem_plansOf.mp hrow).1)
  · exact fun row hrow => previousPlanId_eq_of_content_eq (hcontent row (mem_plansOf.mp hrow).1)

end DevHarness.ControlPlane
