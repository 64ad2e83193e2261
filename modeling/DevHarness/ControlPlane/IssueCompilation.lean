import DevHarness.ControlPlane.IssuePlanBuild
import DevHarness.Sequence.CycleSearch
import DevHarness.Sequence.Indexed
import DevHarness.Sequence.Layers

/-!
# What the issue compiler accepts

A plan is valid when its references, its coverage and its dependencies are in order.  The order of a
valid plan goes through all issues, dependencies first, and a cycle that is reported is one.
-/

namespace DevHarness.ControlPlane

open JsText Sequence

/-! ## What is asked of a plan -/

def DependsOn (issues : List IssueDraft) (key dependency : JsString) : Prop :=
  ∃ issue ∈ issues, issue.key = key ∧ dependency ∈ issue.dependencyCandidates

namespace CompileInput

def Lists (input : CompileInput) (ref criterion : JsString) : Prop :=
  ∃ requirement ∈ input.requirements, requirement.id = ref ∧
    criterion ∈ requirement.acceptanceCriterionRefs

def LastLists (input : CompileInput) (ref criterion : JsString) : Prop :=
  ∃ before requirement after, input.requirements = before ++ requirement :: after ∧
    requirement.id = ref ∧ (∀ later ∈ after, later.id ≠ ref) ∧
    criterion ∈ requirement.acceptanceCriterionRefs

/-- What is asked of one issue, where `links` tells which criteria belong to a requirement. -/
structure IssueInOrder (input : CompileInput) (links : JsString → JsString → Prop)
    (issue : IssueDraft) : Prop where
  referenced : issue.requirementRefs ≠ [] ∨ issue.acceptance ≠ []
  requirements : ∀ ref ∈ issue.requirementRefs, ∃ requirement ∈ input.requirements,
    requirement.id = ref
  criteria : ∀ item ∈ issue.acceptance, item.criterionRef ∈ input.acceptanceCriterionIds
  linked : ∀ item ∈ issue.acceptance, ∃ ref ∈ issue.requirementRefs, links ref item.criterionRef
  dependenciesKnown : ∀ dependency ∈ issue.dependencyCandidates,
    dependency ∈ input.issues.map (·.key)
  dependenciesDistinct : issue.dependencyCandidates.Nodup
  notSelf : issue.key ∉ issue.dependencyCandidates

/-- What is asked of a plan. -/
structure InOrder (input : CompileInput) (links : JsString → JsString → Prop) : Prop where
  keysDistinct : (input.issues.map (·.key)).Nodup
  issues : ∀ issue ∈ input.issues, input.IssueInOrder links issue
  requirementsCovered : ∀ requirement ∈ input.requirements, ∃ issue ∈ input.issues,
    requirement.id ∈ issue.requirementRefs
  criteriaCovered : ∀ criterion ∈ input.acceptanceCriterionIds, ∃ issue ∈ input.issues,
    criterion ∈ issue.acceptance.map (·.criterionRef)
  acyclic : Acyclic (DependsOn input.issues)

end CompileInput

variable {issues : List IssueDraft} {key dependency : JsString}

section Dependencies

theorem mem_sorted {l : List JsString} {value : JsString} : value ∈ sorted l ↔ value ∈ l :=
  List.mem_insertionSort _

theorem isSome_dependenciesOf :
    (dependenciesOf issues key).isSome = true ↔ key ∈ issues.map (·.key) := by
  rw [dependenciesOf, Option.isSome_map, List.find?_isSome]
  simp [List.mem_map]

theorem dependsOn_of_mem_dependenciesOf
    (h : dependency ∈ (dependenciesOf issues key).getD []) : DependsOn issues key dependency := by
  cases hfound : issues.reverse.find? fun issue => issue.key = key with
  | none =>
      rw [dependenciesOf, hfound] at h
      cases h
  | some issue =>
      rw [dependenciesOf, hfound] at h
      refine ⟨issue, List.mem_reverse.mp (List.mem_of_find?_eq_some hfound), ?_, h⟩
      simpa using List.find?_some hfound

theorem dependenciesOf_of_nodup {issue : IssueDraft} (hnodup : (issues.map (·.key)).Nodup)
    (hissue : issue ∈ issues) :
    dependenciesOf issues issue.key = some issue.dependencyCandidates := by
  cases hfound : issues.reverse.find? fun other => other.key = issue.key with
  | none =>
      have hnot := List.find?_eq_none.mp hfound issue (List.mem_reverse.mpr hissue)
      simp at hnot
  | some other =>
      have hother := List.mem_reverse.mp (List.mem_of_find?_eq_some hfound)
      have hkey : other.key = issue.key := by simpa using List.find?_some hfound
      obtain rfl := List.inj_on_of_nodup_map hnodup hother hissue hkey
      rw [dependenciesOf, hfound]
      rfl

def nextOf (issues : List IssueDraft) (key : JsString) : List JsString :=
  sorted ((dependenciesOf issues key).getD [])

def isKnown (issues : List IssueDraft) (key : JsString) : Bool :=
  (dependenciesOf issues key).isSome

theorem visit_eq_search (fuel : ℕ) (key : JsString) (stack done : List JsString) :
    visit issues fuel key stack done =
      search (isKnown issues) (nextOf issues) fuel key stack done := by
  induction fuel generalizing key stack done with
  | zero => rfl
  | succ fuel ih =>
      rw [visit, search, nextOf]
      simp only [ih, isKnown, Bool.not_eq_true, Option.isSome_eq_false_iff]

theorem findCycle_eq : findCycle issues =
    match searchAll (isKnown issues) (nextOf issues) issues.length (sorted (issues.map (·.key))) with
    | .error cycle => cycle
    | .ok _ => [] := by
  have hvisit : visit issues issues.length =
      search (isKnown issues) (nextOf issues) issues.length := by
    funext key stack done
    exact visit_eq_search issues.length key stack done
  rw [searchAll, ← hvisit]
  exact Eq.refl (findCycle issues)

theorem dependsOn_of_leads (h : Leads (isKnown issues) (nextOf issues) key dependency) :
    DependsOn issues key dependency :=
  dependsOn_of_mem_dependenciesOf (mem_sorted.mp h.1)

theorem leads_of_dependsOn (hnodup : (issues.map (·.key)).Nodup)
    (hknown : dependency ∈ issues.map (·.key)) (h : DependsOn issues key dependency) :
    Leads (isKnown issues) (nextOf issues) key dependency := by
  obtain ⟨issue, hissue, rfl, hdependency⟩ := h
  refine ⟨mem_sorted.mpr ?_, isSome_dependenciesOf.mpr hknown⟩
  rw [dependenciesOf_of_nodup hnodup hissue]
  exact hdependency

theorem findCycle_cases :
    (findCycle issues = [] ∧ Acyclic (Leads (isKnown issues) (nextOf issues))) ∨
      IsCycle (Leads (isKnown issues) (nextOf issues)) (findCycle issues) := by
  have hlength : (issues.map (·.key)).length ≤ issues.length := (List.length_map _).le
  have hknown : ∀ key, isKnown issues key = true ↔ key ∈ issues.map (·.key) :=
    fun key => isSome_dependenciesOf
  have hiff : Acyclic (Leads (isKnown issues) (nextOf issues)) ↔ _ :=
    acyclic_iff_searchAll hknown hlength fun _ => mem_sorted
  have houtcome : Outcome (isKnown issues) (nextOf issues) _ [] _ :=
    outcome_searchAll hknown hlength fun _ => mem_sorted.mp
  rw [findCycle_eq]
  cases hresult : searchAll (isKnown issues) (nextOf issues) issues.length
      (sorted (issues.map (·.key))) with
  | error cycle =>
      rw [hresult] at houtcome
      exact Or.inr houtcome
  | ok done => exact Or.inl ⟨rfl, hiff.mpr ⟨done, hresult⟩⟩

theorem isCycle_findCycle (h : findCycle issues ≠ []) :
    IsCycle (DependsOn issues) (findCycle issues) := by
  rcases findCycle_cases with ⟨hnone, -⟩ | hcycle
  · exact absurd hnone h
  · exact hcycle.mono fun _ _ => dependsOn_of_leads

theorem findCycle_eq_nil_iff (hnodup : (issues.map (·.key)).Nodup)
    (hknown : ∀ issue ∈ issues, ∀ dependency ∈ issue.dependencyCandidates,
      dependency ∈ issues.map (·.key)) :
    findCycle issues = [] ↔ Acyclic (DependsOn issues) := by
  rcases (findCycle_cases : _ ∨ IsCycle _ (findCycle issues)) with ⟨hnone, hacyclic⟩ | hcycle
  · refine iff_of_true hnone (hacyclic.of_imp ?_)
    intro key dependency hdepends
    have hissue := hdepends
    obtain ⟨issue, hissue, -, hdependency⟩ := hissue
    exact leads_of_dependsOn hnodup (hknown issue hissue dependency hdependency) hdepends
  · exact iff_of_false hcycle.ne_nil (hcycle.mono fun _ _ => dependsOn_of_leads).not_acyclic

end Dependencies

section Order

theorem perm_sorted_keys (l : List JsString) : (sorted l).Perm l :=
  List.perm_insertionSort _ l

theorem sorted_eq_nil {l : List JsString} : sorted l = [] ↔ l = [] := by
  rw [← List.length_eq_zero_iff, (perm_sorted_keys l).length_eq, List.length_eq_zero_iff]

theorem orderLoop_eq (fuel : ℕ) (remaining : List (JsString × List JsString)) :
    orderLoop fuel remaining = (layers (fun _ _ => false) sorted fuel remaining).flatten := by
  induction fuel generalizing remaining with
  | zero => rfl
  | succ fuel ih =>
      rw [orderLoop, layers]
      by_cases hready : sorted (readyKeys remaining) = []
      · rw [if_pos hready]
        exact if_pos hready
      · rw [if_neg hready, greedy_of_free fun _ _ => rfl, List.flatten_cons, ← ih,
          ← eq_without (fun key => decide (key ∉ _)) fun _ => decide_eq_true_iff]
        exact if_neg hready

/-- The map `remaining` at the start. -/
def orderEntries (issues : List IssueDraft) : List (JsString × List JsString) :=
  (sorted (issues.map (·.key)).eraseDups).map fun key =>
    (key, (((dependenciesOf issues key).getD []).filter fun dependency =>
      dependency ∈ sorted (issues.map (·.key)).eraseDups).eraseDups)

theorem topologicalOrder_eq : topologicalOrder issues =
    (layers (fun _ _ => false) sorted (orderEntries issues).length (orderEntries issues)).flatten := by
  rw [topologicalOrder, orderLoop_eq, orderEntries, List.length_map]

theorem keys_orderEntries :
    (orderEntries issues).map Prod.fst = sorted (issues.map (·.key)).eraseDups := by
  rw [orderEntries, List.map_map]
  exact List.map_id _

theorem nodup_orderEntries : ((orderEntries issues).map Prod.fst).Nodup := by
  rw [keys_orderEntries, (perm_sorted_keys _).nodup_iff]
  exact nodup_eraseDups _

theorem waitsFor_orderEntries : WaitsFor (orderEntries issues) key dependency ↔
    key ∈ issues.map (·.key) ∧ dependency ∈ (dependenciesOf issues key).getD [] ∧
      dependency ∈ issues.map (·.key) := by
  constructor
  · rintro ⟨dependencies, hentry, hdependency⟩
    obtain ⟨other, hother, hsame⟩ := List.mem_map.mp hentry
    obtain ⟨rfl, rfl⟩ := Prod.mk.inj hsame
    rw [List.mem_eraseDups, List.mem_filter, decide_eq_true_eq, mem_sorted,
      List.mem_eraseDups] at hdependency
    rw [mem_sorted, List.mem_eraseDups] at hother
    exact ⟨hother, hdependency⟩
  · rintro ⟨hkey, hdependency, hknown⟩
    refine ⟨_, List.mem_map.mpr ⟨key, ?_, rfl⟩, ?_⟩
    · rw [mem_sorted, List.mem_eraseDups]
      exact hkey
    · rw [List.mem_eraseDups, List.mem_filter, decide_eq_true_eq, mem_sorted, List.mem_eraseDups]
      exact ⟨hdependency, hknown⟩

theorem acyclic_orderEntries (h : Acyclic (DependsOn issues)) :
    Acyclic (WaitsFor (orderEntries issues)) :=
  h.of_imp fun _ _ hwaits =>
    dependsOn_of_mem_dependenciesOf (waitsFor_orderEntries.mp hwaits).2.1

theorem known_orderEntries (h : WaitsFor (orderEntries issues) key dependency) :
    dependency ∈ (orderEntries issues).map Prod.fst := by
  rw [keys_orderEntries, mem_sorted, List.mem_eraseDups]
  exact (waitsFor_orderEntries.mp h).2.2

section

variable (hnodup : (issues.map (·.key)).Nodup) (hacyclic : Acyclic (DependsOn issues))

include hnodup hacyclic

theorem perm_topologicalOrder : (topologicalOrder issues).Perm (issues.map (·.key)) := by
  have hlayers : (topologicalOrder issues).Perm ((orderEntries issues).map Prod.fst) := by
    rw [topologicalOrder_eq]
    exact perm_flatten_layers perm_sorted_keys nodup_orderEntries (acyclic_orderEntries hacyclic)
      fun _ _ => known_orderEntries
  rw [keys_orderEntries, eraseDups_of_nodup hnodup] at hlayers
  exact hlayers.trans (perm_sorted_keys _)

theorem sublist_topologicalOrder {issue : IssueDraft} (hissue : issue ∈ issues)
    (hdependency : dependency ∈ issue.dependencyCandidates)
    (hknown : dependency ∈ issues.map (·.key)) :
    [dependency, issue.key].Sublist (topologicalOrder issues) := by
  rw [topologicalOrder_eq]
  apply sublist_flatten_layers perm_sorted_keys nodup_orderEntries
    (acyclic_orderEntries hacyclic) fun _ _ => known_orderEntries
  refine waitsFor_orderEntries.mpr ⟨List.mem_map_of_mem hissue, ?_, hknown⟩
  rw [dependenciesOf_of_nodup hnodup hissue]
  exact hdependency

end

end Order

namespace CompileInput

section Diagnostics

variable {input : CompileInput} {issue : IssueDraft} {path : JsString} {index : ℕ}
  {ref criterion : JsString} {found : IssueCompilationDiagnostic}

theorem mem_requirementIds {ref : JsString} :
    ref ∈ input.requirementIds ↔ ∃ requirement ∈ input.requirements, requirement.id = ref := by
  rw [requirementIds, List.mem_eraseDups, List.mem_map]

theorem mem_acceptanceIds {ref : JsString} :
    ref ∈ input.acceptanceIds ↔ ref ∈ input.acceptanceCriterionIds :=
  List.mem_eraseDups

theorem mem_permittedAcceptance {criterion : JsString} :
    criterion ∈ input.permittedAcceptance issue ↔
      ∃ ref ∈ issue.requirementRefs, input.LastLists ref criterion := by
  rw [permittedAcceptance, List.mem_flatMap]
  apply exists_congr
  intro ref
  apply and_congr_right
  intro _
  constructor
  · intro hcriterion
    obtain ⟨refs, hrefs, hmem⟩ : ∃ refs, (input.requirements.reverse.find? fun requirement =>
        requirement.id = ref).map (·.acceptanceCriterionRefs) = some refs ∧ criterion ∈ refs := by
      cases hfound : input.requirements.reverse.find? fun requirement => requirement.id = ref with
      | none =>
          rw [hfound] at hcriterion
          cases hcriterion
      | some requirement =>
          rw [hfound] at hcriterion
          exact ⟨_, rfl, hcriterion⟩
    obtain ⟨requirement, hfound, rfl⟩ := Option.map_eq_some_iff.mp hrefs
    obtain ⟨before, after, hsplit, hid, hlater⟩ := find?_reverse_eq_some_iff.mp hfound
    exact ⟨before, requirement, after, hsplit, of_decide_eq_true hid,
      fun later hmem => of_decide_eq_false (hlater later hmem), hmem⟩
  · rintro ⟨before, requirement, after, hsplit, hid, hlater, hcriterion⟩
    have hfound : input.requirements.reverse.find? (fun requirement => requirement.id = ref) =
        some requirement := find?_reverse_eq_some_iff.mpr
      ⟨before, after, hsplit, decide_eq_true hid,
        fun later hmem => decide_eq_false (hlater later hmem)⟩
    rw [hfound]
    exact hcriterion

/-! ### One issue -/

theorem requirementDiagnostics_eq_nil : input.requirementDiagnostics issue path = [] ↔
    ∀ ref ∈ issue.requirementRefs, ∃ requirement ∈ input.requirements, requirement.id = ref := by
  rw [requirementDiagnostics, List.filterMap_eq_nil_iff]
  refine Iff.trans ?_ forall_mem_zipIdx
  apply forall₂_congr
  intro entry _
  rw [← mem_requirementIds]
  simp

theorem acceptanceDiagnostics_eq_nil : input.acceptanceDiagnostics issue path = [] ↔
    ∀ item ∈ issue.acceptance, item.criterionRef ∈ input.acceptanceCriterionIds ∧
      ∃ ref ∈ issue.requirementRefs, input.LastLists ref item.criterionRef := by
  rw [acceptanceDiagnostics, List.filterMap_eq_nil_iff]
  refine Iff.trans ?_ forall_mem_zipIdx
  apply forall₂_congr
  intro entry _
  rw [← mem_acceptanceIds, ← mem_permittedAcceptance]
  by_cases hknown : entry.1.criterionRef ∈ input.acceptanceIds
  · by_cases hlinked : entry.1.criterionRef ∈ input.permittedAcceptance issue
    · simp [hknown, hlinked]
    · simp [hknown, hlinked]
  · simp [hknown]

theorem dependencyDiagnostics_eq_nil : input.dependencyDiagnostics issue path = [] ↔
    issue.dependencyCandidates.Nodup ∧ issue.key ∉ issue.dependencyCandidates ∧
      ∀ dependency ∈ issue.dependencyCandidates, dependency ∈ input.issues.map (·.key) := by
  have hdistinct : issue.dependencyCandidates.Nodup ↔ ∀ entry ∈ issue.dependencyCandidates.zipIdx,
      entry.1 ∉ issue.dependencyCandidates.take entry.2 := by
    have hiff := nodup_map_iff_zipIdx (f := id) (l := issue.dependencyCandidates)
    simpa only [List.map_id, id_eq] using hiff
  have hothers : (∀ entry ∈ issue.dependencyCandidates.zipIdx,
      entry.1 ≠ issue.key ∧ entry.1 ∈ input.issues.map (·.key)) ↔
      issue.key ∉ issue.dependencyCandidates ∧
        ∀ dependency ∈ issue.dependencyCandidates, dependency ∈ input.issues.map (·.key) := by
    rw [forall_mem_zipIdx (p := fun dependency =>
      dependency ≠ issue.key ∧ dependency ∈ input.issues.map (·.key)), forall₂_and]
    apply and_congr_left'
    exact ⟨fun h hmem => h _ hmem rfl, fun h dependency hmem hsame => h (hsame ▸ hmem)⟩
  rw [dependencyDiagnostics, List.flatMap_eq_nil_iff, hdistinct, ← hothers, ← forall₂_and]
  apply forall₂_congr
  intro entry _
  by_cases hself : entry.1 = issue.key
  · simp [hself]
  · simp [hself]

theorem issueDiagnostics_eq_nil : input.issueDiagnostics issue index = [] ↔
    issue.key ∉ (input.issues.take index).map (·.key) ∧ input.IssueInOrder input.LastLists issue := by
  simp only [issueDiagnostics, List.append_eq_nil_iff, requirementDiagnostics_eq_nil,
    acceptanceDiagnostics_eq_nil, dependencyDiagnostics_eq_nil]
  constructor
  · rintro ⟨⟨⟨⟨hkey, horphan⟩, hrequirements⟩, hacceptance⟩, hdistinct, hself, hknown⟩
    refine ⟨?_, ?_, hrequirements, fun item hitem => (hacceptance item hitem).1,
      fun item hitem => (hacceptance item hitem).2, hknown, hdistinct, hself⟩
    · simpa using hkey
    · by_contra hnone
      rw [not_or, not_not, not_not] at hnone
      rw [if_pos hnone] at horphan
      cases horphan
  · rintro ⟨hkey, hissue⟩
    refine ⟨⟨⟨⟨?_, ?_⟩, hissue.requirements⟩, ?_⟩, ?_⟩
    · rw [if_neg hkey]
    · rw [if_neg]
      rintro ⟨hnoRefs, hnoAcceptance⟩
      exact hissue.referenced.elim (· hnoRefs) (· hnoAcceptance)
    · exact fun item hitem => ⟨hissue.criteria item hitem, hissue.linked item hitem⟩
    · exact ⟨hissue.dependenciesDistinct, hissue.notSelf, hissue.dependenciesKnown⟩

/-! ### The whole plan -/

theorem uncoveredRequirements_eq_nil : input.uncoveredRequirements = [] ↔
    ∀ requirement ∈ input.requirements, ∃ issue ∈ input.issues,
      requirement.id ∈ issue.requirementRefs := by
  rw [uncoveredRequirements, sorted_eq_nil, List.filter_eq_nil_iff]
  constructor
  · intro h requirement hrequirement
    have hid : requirement.id ∈ input.requirementIds :=
      mem_requirementIds.mpr ⟨requirement, hrequirement, rfl⟩
    have hcovered : requirement.id ∈ input.coveredRequirements := by simpa using h _ hid
    rw [coveredRequirements, List.mem_eraseDups, List.mem_filter, List.mem_flatMap] at hcovered
    exact hcovered.1
  · intro h id hid
    obtain ⟨requirement, hrequirement, rfl⟩ := mem_requirementIds.mp hid
    have hcovered : requirement.id ∈ input.coveredRequirements := by
      rw [coveredRequirements, List.mem_eraseDups, List.mem_filter, List.mem_flatMap]
      exact ⟨h requirement hrequirement, decide_eq_true hid⟩
    simpa using hcovered

theorem uncoveredAcceptance_eq_nil : input.uncoveredAcceptance = [] ↔
    ∀ criterion ∈ input.acceptanceCriterionIds, ∃ issue ∈ input.issues,
      criterion ∈ issue.acceptance.map (·.criterionRef) := by
  rw [uncoveredAcceptance, sorted_eq_nil, List.filter_eq_nil_iff]
  constructor
  · intro h criterion hcriterion
    have hid := mem_acceptanceIds.mpr hcriterion
    have hcovered : criterion ∈ input.coveredAcceptance := by simpa using h _ hid
    rw [coveredAcceptance, List.mem_eraseDups, List.mem_filter, List.mem_flatMap] at hcovered
    exact hcovered.1
  · intro h criterion hid
    have hcovered : criterion ∈ input.coveredAcceptance := by
      rw [coveredAcceptance, List.mem_eraseDups, List.mem_filter, List.mem_flatMap]
      exact ⟨h criterion (mem_acceptanceIds.mp hid), decide_eq_true hid⟩
    simpa using hcovered

theorem coverageDiagnostics_eq_nil : input.coverageDiagnostics = [] ↔
    (∀ requirement ∈ input.requirements, ∃ issue ∈ input.issues,
      requirement.id ∈ issue.requirementRefs) ∧
    ∀ criterion ∈ input.acceptanceCriterionIds, ∃ issue ∈ input.issues,
      criterion ∈ issue.acceptance.map (·.criterionRef) := by
  rw [coverageDiagnostics, List.append_eq_nil_iff, List.map_eq_nil_iff, List.map_eq_nil_iff,
    uncoveredRequirements_eq_nil, uncoveredAcceptance_eq_nil]

theorem cycleDiagnostics_eq_nil : input.cycleDiagnostics = [] ↔ findCycle input.issues = [] := by
  by_cases hnone : findCycle input.issues = []
  · simp [cycleDiagnostics, hnone]
  · simp [cycleDiagnostics, hnone]

theorem issuesDiagnostics_eq_nil :
    (input.issues.zipIdx.flatMap fun (issue, index) => input.issueDiagnostics issue index) = [] ↔
      (input.issues.map (·.key)).Nodup ∧
        ∀ issue ∈ input.issues, input.IssueInOrder input.LastLists issue := by
  rw [List.flatMap_eq_nil_iff, nodup_map_iff_zipIdx,
    ← forall_mem_zipIdx (p := input.IssueInOrder input.LastLists), ← forall₂_and]
  apply forall₂_congr
  intro entry _
  exact issueDiagnostics_eq_nil

theorem valid_iff : (compileIssuePlan input).valid = true ↔ input.InOrder input.LastLists := by
  rw [compileIssuePlan, List.isEmpty_iff, List.append_eq_nil_iff, List.append_eq_nil_iff,
    issuesDiagnostics_eq_nil, coverageDiagnostics_eq_nil, cycleDiagnostics_eq_nil]
  constructor
  · rintro ⟨⟨⟨hkeys, hissues⟩, hrequirements, hcriteria⟩, hcycle⟩
    exact ⟨hkeys, hissues, hrequirements, hcriteria, (findCycle_eq_nil_iff hkeys fun issue hissue =>
      (hissues issue hissue).dependenciesKnown).mp hcycle⟩
  · intro h
    refine ⟨⟨⟨h.keysDistinct, h.issues⟩, h.requirementsCovered, h.criteriaCovered⟩, ?_⟩
    exact (findCycle_eq_nil_iff h.keysDistinct fun issue hissue =>
      (h.issues issue hissue).dependenciesKnown).mpr h.acyclic

theorem lists_of_lastLists (h : input.LastLists ref criterion) : input.Lists ref criterion := by
  obtain ⟨before, requirement, after, hsplit, hid, -, hcriterion⟩ := h
  refine ⟨requirement, ?_, hid, hcriterion⟩
  rw [hsplit]
  exact List.mem_append_right _ List.mem_cons_self

theorem lastLists_iff_lists (hdistinct : (input.requirements.map (·.id)).Nodup) :
    input.LastLists ref criterion ↔ input.Lists ref criterion := by
  refine ⟨lists_of_lastLists, ?_⟩
  rintro ⟨requirement, hrequirement, hid, hcriterion⟩
  obtain ⟨before, after, hsplit⟩ := List.append_of_mem hrequirement
  refine ⟨before, requirement, after, hsplit, hid, ?_, hcriterion⟩
  intro later hlater hsame
  rw [hsplit, List.map_append, List.map_cons] at hdistinct
  have hrest := (List.nodup_cons.mp hdistinct.of_append_right).1
  apply hrest
  rw [hid, ← hsame]
  exact List.mem_map_of_mem hlater

theorem InOrder.congr {links links' : JsString → JsString → Prop}
    (hlinks : ∀ ref criterion, links ref criterion → links' ref criterion)
    (h : input.InOrder links) : input.InOrder links' where
  keysDistinct := h.keysDistinct
  issues := by
    intro issue hissue
    have hissue := h.issues issue hissue
    refine { hissue with linked := ?_ }
    intro item hitem
    obtain ⟨ref, href, hlink⟩ := hissue.linked item hitem
    exact ⟨ref, href, hlinks _ _ hlink⟩
  requirementsCovered := h.requirementsCovered
  criteriaCovered := h.criteriaCovered
  acyclic := h.acyclic

/-! ### Cycles -/

theorem code_of_mem_requirementDiagnostics (h : found ∈ input.requirementDiagnostics issue path) :
    found.code ≠ .dependencyCycle := by
  obtain ⟨entry, -, hentry⟩ := List.mem_filterMap.mp h
  dsimp only at hentry
  split at hentry
  · cases hentry
  · obtain rfl := Option.some.inj hentry
    exact nofun

theorem code_of_mem_acceptanceDiagnostics (h : found ∈ input.acceptanceDiagnostics issue path) :
    found.code ≠ .dependencyCycle := by
  obtain ⟨entry, -, hentry⟩ := List.mem_filterMap.mp h
  dsimp only at hentry
  split at hentry
  · obtain rfl := Option.some.inj hentry
    exact nofun
  · split at hentry
    · obtain rfl := Option.some.inj hentry
      exact nofun
    · cases hentry

theorem code_of_mem_ite {p : Prop} [Decidable p] {found only : IssueCompilationDiagnostic}
    {others : List IssueCompilationDiagnostic} (h : found ∈ if p then [only] else others)
    (honly : only.code ≠ .dependencyCycle)
    (hothers : found ∈ others → found.code ≠ .dependencyCycle) :
    found.code ≠ .dependencyCycle := by
  by_cases hp : p
  · rw [if_pos hp, List.mem_singleton] at h
    rw [h]
    exact honly
  · rw [if_neg hp] at h
    exact hothers h

theorem code_of_mem_dependencyDiagnostics (h : found ∈ input.dependencyDiagnostics issue path) :
    found.code ≠ .dependencyCycle := by
  obtain ⟨entry, -, hentry⟩ := List.mem_flatMap.mp h
  rcases List.mem_append.mp hentry with hrepeated | hother
  · exact code_of_mem_ite hrepeated nofun nofun
  · exact code_of_mem_ite hother nofun fun hmissing => code_of_mem_ite hmissing nofun nofun

theorem code_of_mem_issueDiagnostics (h : found ∈ input.issueDiagnostics issue index) :
    found.code ≠ .dependencyCycle := by
  simp only [issueDiagnostics, List.mem_append] at h
  rcases h with (((hkey | horphan) | hrequirement) | hacceptance) | hdependency
  · exact code_of_mem_ite hkey nofun nofun
  · exact code_of_mem_ite horphan nofun nofun
  · exact code_of_mem_requirementDiagnostics hrequirement
  · exact code_of_mem_acceptanceDiagnostics hacceptance
  · exact code_of_mem_dependencyDiagnostics hdependency

theorem code_of_mem_coverageDiagnostics (h : found ∈ input.coverageDiagnostics) :
    found.code ≠ .dependencyCycle := by
  rcases List.mem_append.mp h with hrequirement | hcriterion
  · obtain ⟨id, -, rfl⟩ := List.mem_map.mp hrequirement
    exact nofun
  · obtain ⟨id, -, rfl⟩ := List.mem_map.mp hcriterion
    exact nofun

theorem isCycle_of_mem_diagnostics (h : found ∈ (compileIssuePlan input).diagnostics)
    (hcode : found.code = .dependencyCycle) :
    IsCycle (DependsOn input.issues) found.relatedIssueKeys := by
  rcases List.mem_append.mp h with hother | hcycle
  · rcases List.mem_append.mp hother with hissue | hcoverage
    · obtain ⟨entry, -, hentry⟩ := List.mem_flatMap.mp hissue
      exact absurd hcode (code_of_mem_issueDiagnostics hentry)
    · exact absurd hcode (code_of_mem_coverageDiagnostics hcoverage)
  · by_cases hnone : findCycle input.issues = []
    · rw [cycleDiagnostics_eq_nil.mpr hnone] at hcycle
      cases hcycle
    · rw [cycleDiagnostics, if_neg hnone, List.mem_singleton] at hcycle
      rw [hcycle]
      exact isCycle_findCycle hnone

end Diagnostics

end CompileInput

/-! ## What the compiler guarantees -/

/-- The compiler accepts the plans that are in order, where a requirement that is given several
times counts as it is given last. -/
theorem compileIssuePlan_correct (input : CompileInput) :
    ((compileIssuePlan input).valid = true ↔ input.InOrder input.LastLists) ∧
    ((input.requirements.map (·.id)).Nodup →
      ((compileIssuePlan input).valid = true ↔ input.InOrder input.Lists)) ∧
    ((compileIssuePlan input).valid = true →
      (compileIssuePlan input).topologicalOrder.Perm (input.issues.map (·.key)) ∧
      ∀ issue ∈ input.issues, ∀ dependency ∈ issue.dependencyCandidates,
        [dependency, issue.key].Sublist (compileIssuePlan input).topologicalOrder) ∧
    ∀ found ∈ (compileIssuePlan input).diagnostics, found.code = .dependencyCycle →
      IsCycle (DependsOn input.issues) found.relatedIssueKeys := by
  refine ⟨CompileInput.valid_iff, ?_, ?_, fun _ => CompileInput.isCycle_of_mem_diagnostics⟩
  · intro hdistinct
    rw [CompileInput.valid_iff]
    constructor
    · exact fun h => h.congr fun _ _ => CompileInput.lists_of_lastLists
    · exact fun h => h.congr fun _ _ => (CompileInput.lastLists_iff_lists hdistinct).mpr
  · intro hvalid
    have horder := CompileInput.valid_iff.mp hvalid
    have hknown := fun issue hissue => (horder.issues issue hissue).dependenciesKnown
    have hnone : findCycle input.issues = [] :=
      (findCycle_eq_nil_iff horder.keysDistinct hknown).mpr horder.acyclic
    rw [compileIssuePlan, if_pos hnone]
    refine ⟨perm_topologicalOrder horder.keysDistinct horder.acyclic, ?_⟩
    intro issue hissue dependency hdependency
    exact sublist_topologicalOrder horder.keysDistinct horder.acyclic hissue hdependency
      (hknown issue hissue dependency hdependency)

section Plans

def smallIssue (key : JsString) (dependencies : List JsString) : IssueDraft where
  key := key
  title := js "Sign in"
  goal := js "People sign in"
  requirementRefs := [js "R-1"]
  acceptance := [{ criterionRef := js "AC-1", statement := js "It works" }]
  nonGoals := []
  dependencyCandidates := dependencies
  expectedFiles := []
  conflictResources :=
    { directories := [], publicInterfaces := [], databaseObjects := [],
      sharedConfigurations := [], landingOrder := [] }
  developmentPrompt := js "Do it"
  verify := []
  completionEvidence := []

def requirementTwice : CompileInput where
  requirements :=
    [{ id := js "R-1", acceptanceCriterionRefs := [js "AC-1"] },
      { id := js "R-1", acceptanceCriterionRefs := [] }]
  acceptanceCriterionIds := [js "AC-1"]
  issues := [smallIssue (js "A") []]

def dependentIssues : CompileInput where
  requirements := [{ id := js "R-1", acceptanceCriterionRefs := [js "AC-1"] }]
  acceptanceCriterionIds := [js "AC-1"]
  issues := [smallIssue (js "A") [js "B"], smallIssue (js "B") []]

theorem compileIssuePlan_dependentIssues :
    (compileIssuePlan dependentIssues).topologicalOrder.Perm [js "A", js "B"] ∧
      [js "B", js "A"].Sublist (compileIssuePlan dependentIssues).topologicalOrder := by
  obtain ⟨hperm, hsublist⟩ :=
    (compileIssuePlan_correct dependentIssues).2.2.1 (by decide +kernel)
  exact ⟨hperm, hsublist _ List.mem_cons_self _ List.mem_cons_self⟩

/-- A criterion that only the first of two entries lists is not accepted. -/
theorem not_valid_iff_lists :
    ¬ ∀ input : CompileInput,
      (compileIssuePlan input).valid = true ↔ input.InOrder input.Lists := by
  intro h
  have hinvalid : ¬ (compileIssuePlan requirementTwice).valid = true := by decide +kernel
  apply hinvalid
  rw [h]
  constructor
  · decide +kernel
  · intro issue hissue
    obtain rfl := List.mem_singleton.mp hissue
    constructor
    · exact Or.inl (List.cons_ne_nil _ _)
    · decide +kernel
    · decide +kernel
    · intro item hitem
      obtain rfl := List.mem_singleton.mp hitem
      exact ⟨_, List.mem_cons_self, _, List.mem_cons_self, rfl, List.mem_cons_self⟩
    · decide +kernel
    · decide +kernel
    · decide +kernel
  · decide +kernel
  · decide +kernel
  · apply acyclic_of_rank fun _ => 0
    rintro key dependency ⟨issue, hissue, -, hdependency⟩
    obtain rfl := List.mem_singleton.mp hissue
    cases hdependency

end Plans

end DevHarness.ControlPlane
