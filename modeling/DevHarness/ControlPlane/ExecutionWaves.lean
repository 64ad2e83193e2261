import DevHarness.ControlPlane.IssuePlanBuild
import DevHarness.Sequence.Layers
import DevHarness.Text.Separated

/-!
# Execution waves

The schedule of the issues as the source computes it, with the order of `localeCompare` and the
texts under which conflicts are looked up.  On the keys of a plan it is the schedule that the issue
plan service records, and it is a schedule of the dependency graph by layers.
-/

namespace DevHarness.ControlPlane

open JsText Sequence

section Schedule

variable (localeCompare : JsString → JsString → Ordering) (toLowerCase : JsString → JsString)

/-- The issues in the order of `localeCompare`. -/
def byLocale (issues : List IssueDraft) : List IssueDraft :=
  issues.insertionSort fun left right => localeCompare left.key right.key ≠ .gt

/-- `analyzeIssueConflicts`, of a list in any order. -/
def issueConflicts (issues : List IssueDraft) : List IssueConflict :=
  analyzeIssueConflicts toLowerCase (byLocale localeCompare issues)

/-- The text under which a conflict is looked up: the keys with a NUL between them. -/
def conflictKey (left right : JsString) : JsString :=
  left ++ 0 :: right

/-- `hasConflict`. -/
def looksUpConflict (conflicts : List IssueConflict) (left right : JsString) : Bool :=
  match sorted [left, right] with
  | [first, second] =>
    decide (conflictKey first second ∈ conflicts.map fun conflict =>
      conflictKey conflict.left conflict.right)
  | _ => false

/-- The entries of `remaining`: each key with its known dependencies. -/
def knownDependencies (issues : List IssueDraft) : List (JsString × List JsString) :=
  issues.map fun issue =>
    (issue.key, (issue.dependencyCandidates.filter fun dependency =>
      dependency ∈ issues.map (·.key)).eraseDups)

/-- The loop of `scheduleExecutionWaves`, for as many rounds as there is fuel.  The first ready key
is always selected, so that the source never has to push it by itself. -/
def wavesWithin (fuel : ℕ) (issues : List IssueDraft) : List ExecutionWave :=
  let inOrder := byLocale localeCompare issues
  let conflicts := issueConflicts localeCompare toLowerCase inOrder
  (layers (looksUpConflict conflicts) sorted fuel (knownDependencies inOrder)).zipIdx.map
    fun (selected, index) =>
      { number := index + 1
        issueKeys := selected
        reasons := selected.map (waveReason inOrder (index + 1)) }

/-- The waves of `scheduleExecutionWaves`. -/
def executionWaves (issues : List IssueDraft) : List ExecutionWave :=
  wavesWithin localeCompare toLowerCase issues.length issues

end Schedule

/-! ## The order of the keys -/

/-- What is assumed of the keys: they are distinct, `localeCompare` agrees with the order of code
units on them, and they hold no NUL.  Validated keys hold only capital letters, digits and
hyphens. -/
structure ComparableKeys (localeCompare : JsString → JsString → Ordering)
    (issues : List IssueDraft) : Prop where
  distinct : (issues.map (·.key)).Nodup
  agree : ∀ left ∈ issues, ∀ right ∈ issues,
    localeCompare left.key right.key ≠ .gt ↔ left.key ≤ right.key
  separable : ∀ issue ∈ issues, 0 ∉ issue.key

section Order

variable {localeCompare : JsString → JsString → Ordering} {toLowerCase : JsString → JsString}
  {issues issues' : List IssueDraft} {conflicts : List IssueConflict} {left right : JsString}
  {conflict : IssueConflict}

theorem byLocale_eq_sortedIssues (h : ComparableKeys localeCompare issues) :
    byLocale localeCompare issues = sortedIssues issues := by
  have hsame := List.map_insertionSort
    (fun left right : IssueDraft => localeCompare left.key right.key ≠ .gt)
    (fun left right : IssueDraft => left.key ≤ right.key) id issues
    (fun left hleft right hright => h.agree left hleft right hright)
  rw [List.map_id, List.map_id] at hsame
  exact hsame

theorem perm_sortedIssues (issues : List IssueDraft) : (sortedIssues issues).Perm issues :=
  List.perm_insertionSort _ issues

theorem pairwise_sortedIssues (issues : List IssueDraft) :
    (sortedIssues issues).Pairwise fun left right => left.key ≤ right.key :=
  (List.pairwise_insertionSort _ issues)

section

variable (h : ComparableKeys localeCompare issues)

include h

theorem ComparableKeys.perm (hperm : issues'.Perm issues) :
    ComparableKeys localeCompare issues' where
  distinct := (hperm.map _).nodup_iff.mpr h.distinct
  agree := fun left hleft right hright =>
    h.agree left (hperm.subset hleft) right (hperm.subset hright)
  separable := fun issue hissue => h.separable issue (hperm.subset hissue)

theorem sortedIssues_congr (hperm : issues'.Perm issues) :
    sortedIssues issues' = sortedIssues issues := by
  have hmem : ∀ issue ∈ sortedIssues issues', issue ∈ issues := fun issue hissue =>
    hperm.subset ((perm_sortedIssues issues').subset hissue)
  have hmem' : ∀ issue ∈ sortedIssues issues, issue ∈ issues := fun issue hissue =>
    (perm_sortedIssues issues).subset hissue
  apply List.Perm.eq_of_pairwise _ (pairwise_sortedIssues issues') (pairwise_sortedIssues issues)
  · exact ((perm_sortedIssues issues').trans hperm).trans (perm_sortedIssues issues).symm
  · intro left right hleft hright hle hle'
    exact List.inj_on_of_nodup_map h.distinct (hmem left hleft) (hmem' right hright)
      (List.le_antisymm hle hle')

theorem byLocale_sortedIssues :
    byLocale localeCompare (sortedIssues issues) = sortedIssues issues := by
  have hperm := perm_sortedIssues issues
  rw [byLocale_eq_sortedIssues (h.perm hperm), sortedIssues_congr h hperm]

theorem issueConflicts_sortedIssues :
    issueConflicts localeCompare toLowerCase (sortedIssues issues) =
      issueConflicts localeCompare toLowerCase issues := by
  rw [issueConflicts, issueConflicts, byLocale_sortedIssues h, byLocale_eq_sortedIssues h]

end

/-! ## Conflicts -/

/-- The two keys are reported as conflicting. -/
def Conflicting (conflicts : List IssueConflict) (left right : JsString) : Prop :=
  ∃ conflict ∈ conflicts, (conflict.left = left ∧ conflict.right = right) ∨
    (conflict.left = right ∧ conflict.right = left)

theorem conflictFor_keys {left right : IssueDraft}
    (h : conflictFor toLowerCase left right = some conflict) :
    conflict.left = left.key ∧ conflict.right = right.key := by
  unfold conflictFor at h
  simp only at h
  split at h
  · cases h
  · obtain rfl := Option.some.inj h
    exact ⟨rfl, rfl⟩

/-- A conflict is reported of two issues, in the order in which they stand in the list. -/
theorem exists_of_mem_analyze (h : conflict ∈ analyzeIssueConflicts toLowerCase issues) :
    ∃ left right, List.Sublist [left, right] issues ∧ conflict.left = left.key ∧
      conflict.right = right.key := by
  induction issues with
  | nil => cases h
  | cons first rest ih =>
      rw [analyzeIssueConflicts, List.mem_append] at h
      rcases h with h | h
      · obtain ⟨other, hother, hconflict⟩ := List.mem_filterMap.mp h
        obtain ⟨hleft, hright⟩ := conflictFor_keys hconflict
        exact ⟨first, other, (List.singleton_sublist.mpr hother).cons_cons first, hleft, hright⟩
      · obtain ⟨left, right, hsublist, hkeys⟩ := ih h
        exact ⟨left, right, hsublist.cons first, hkeys⟩

/-- A conflict is one of two different issues of the list, in the order of their keys. -/
theorem conflict_ordered (h : ComparableKeys localeCompare issues)
    (hconflict : conflict ∈ issueConflicts localeCompare toLowerCase issues) :
    conflict.left ≤ conflict.right ∧ conflict.left ≠ conflict.right ∧ 0 ∉ conflict.left := by
  rw [issueConflicts, byLocale_eq_sortedIssues h] at hconflict
  obtain ⟨left, right, hsublist, hleft, hright⟩ := exists_of_mem_analyze hconflict
  have hordered := (pairwise_sortedIssues issues).sublist hsublist
  have hdistinct := (h.perm (perm_sortedIssues issues)).distinct.sublist (hsublist.map _)
  have hmem : left ∈ issues :=
    (perm_sortedIssues issues).subset (hsublist.subset List.mem_cons_self)
  rw [hleft, hright]
  refine ⟨?_, ?_, h.separable left hmem⟩
  · exact (List.pairwise_cons.mp hordered).1 right List.mem_cons_self
  · intro hsame
    exact (List.nodup_cons.mp hdistinct).1 (List.mem_singleton.mpr hsame)

theorem sorted_pair (left right : JsString) :
    sorted [left, right] = if left ≤ right then [left, right] else [right, left] :=
  rfl

/-- What is assumed of the conflicts that are looked up. -/
def OrderedConflicts (conflicts : List IssueConflict) : Prop :=
  ∀ conflict ∈ conflicts, conflict.left ≤ conflict.right ∧ conflict.left ≠ conflict.right ∧
    0 ∉ conflict.left

section

variable (h : OrderedConflicts conflicts)

include h

theorem mem_conflictKeys {first second : JsString} (hfirst : 0 ∉ first) :
    (conflictKey first second ∈ conflicts.map fun conflict =>
      conflictKey conflict.left conflict.right) ↔
      ∃ conflict ∈ conflicts, conflict.left = first ∧ conflict.right = second := by
  rw [List.mem_map]
  constructor
  · rintro ⟨conflict, hconflict, hkey⟩
    exact ⟨conflict, hconflict,
      append_separator_inj_left (h conflict hconflict).2.2 hfirst hkey⟩
  · rintro ⟨conflict, hconflict, rfl, rfl⟩
    exact ⟨conflict, hconflict, rfl⟩

theorem looksUpConflict_eq (hleft : 0 ∉ left) (hright : 0 ∉ right) :
    looksUpConflict conflicts left right = hasConflict conflicts left right := by
  unfold looksUpConflict hasConflict
  rw [sorted_pair, Bool.eq_iff_iff, List.any_eq_true]
  by_cases hle : left ≤ right
  · simp only [if_pos hle, decide_eq_true_eq, mem_conflictKeys h hleft]
  · simp only [if_neg hle, decide_eq_true_eq, mem_conflictKeys h hright]

theorem hasConflict_iff :
    hasConflict conflicts left right = true ↔ Conflicting conflicts left right := by
  unfold hasConflict
  simp only [List.any_eq_true, decide_eq_true_eq]
  by_cases hle : left ≤ right
  · simp only [if_pos hle]
    constructor
    · rintro ⟨conflict, hconflict, hkeys⟩
      exact ⟨conflict, hconflict, Or.inl hkeys⟩
    · rintro ⟨conflict, hconflict, hkeys | ⟨rfl, rfl⟩⟩
      · exact ⟨conflict, hconflict, hkeys⟩
      · obtain ⟨hordered, hne, -⟩ := h conflict hconflict
        exact absurd (List.le_antisymm hordered hle) hne
  · simp only [if_neg hle]
    constructor
    · rintro ⟨conflict, hconflict, hkeys⟩
      exact ⟨conflict, hconflict, Or.inr hkeys⟩
    · rintro ⟨conflict, hconflict, ⟨rfl, rfl⟩ | hkeys⟩
      · exact absurd (h conflict hconflict).1 hle
      · exact ⟨conflict, hconflict, hkeys⟩

end

end Order

/-! ## The property -/

def DependsOnKey (issues : List IssueDraft) (key dependency : JsString) : Prop :=
  ∃ issue ∈ issues, issue.key = key ∧ dependency ∈ issue.dependencyCandidates ∧
    dependency ∈ issues.map (·.key)

def waveKeys (waves : List ExecutionWave) : List JsString :=
  waves.flatMap (·.issueKeys)

structure SchedulesIssues (localeCompare : JsString → JsString → Ordering)
    (toLowerCase : JsString → JsString) (issues : List IssueDraft) : Prop where
  /-- The loop ends by itself. -/
  terminates : ∀ fuel ≥ issues.length, wavesWithin localeCompare toLowerCase fuel issues =
    executionWaves localeCompare toLowerCase issues
  partition : (waveKeys (executionWaves localeCompare toLowerCase issues)).Perm
    (issues.map (·.key))
  earlier : ∀ before wave after,
    executionWaves localeCompare toLowerCase issues = before ++ wave :: after →
      ∀ key ∈ wave.issueKeys, ∀ dependency, DependsOnKey issues key dependency →
        dependency ∈ waveKeys before
  independent : ∀ wave ∈ executionWaves localeCompare toLowerCase issues,
    ∀ left ∈ wave.issueKeys, ∀ right ∈ wave.issueKeys,
      ¬ Conflicting (issueConflicts localeCompare toLowerCase issues) left right
  maximal : ∀ before wave after,
    executionWaves localeCompare toLowerCase issues = before ++ wave :: after →
      ∀ issue ∈ issues, issue.key ∉ waveKeys before →
        (∀ dependency, DependsOnKey issues issue.key dependency → dependency ∈ waveKeys before) →
        issue.key ∈ wave.issueKeys ∨ ∃ other ∈ wave.issueKeys,
          Conflicting (issueConflicts localeCompare toLowerCase issues) other issue.key
  orderFree : ∀ issues', issues'.Perm issues →
    issueConflicts localeCompare toLowerCase issues' =
        issueConflicts localeCompare toLowerCase issues ∧
      executionWaves localeCompare toLowerCase issues' =
        executionWaves localeCompare toLowerCase issues

section Layers

variable {localeCompare : JsString → JsString → Ordering} {toLowerCase : JsString → JsString}
  {issues : List IssueDraft} {key dependency : JsString} {issues' : List IssueDraft}
  {left right : JsString} {before after : List ExecutionWave} {wave : ExecutionWave}

theorem map_fst_knownDependencies :
    (knownDependencies issues).map Prod.fst = issues.map (·.key) := by
  rw [knownDependencies, List.map_map]
  rfl

theorem waitsFor_knownDependencies :
    WaitsFor (knownDependencies issues) key dependency ↔ DependsOnKey issues key dependency := by
  constructor
  · rintro ⟨dependencies, hmem, hdependency⟩
    obtain ⟨issue, hissue, hentry⟩ := List.mem_map.mp hmem
    obtain ⟨rfl, rfl⟩ := Prod.mk.inj hentry
    rw [List.mem_eraseDups, List.mem_filter, decide_eq_true_eq] at hdependency
    exact ⟨issue, hissue, rfl, hdependency⟩
  · rintro ⟨issue, hissue, rfl, hdependency⟩
    refine ⟨_, List.mem_map.mpr ⟨issue, hissue, rfl⟩, ?_⟩
    rw [List.mem_eraseDups, List.mem_filter, decide_eq_true_eq]
    exact hdependency

theorem dependsOnKey_perm (hperm : issues'.Perm issues) :
    DependsOnKey issues' key dependency ↔ DependsOnKey issues key dependency := by
  unfold DependsOnKey
  simp only [hperm.mem_iff, (hperm.map _).mem_iff]

def issueLayers (localeCompare : JsString → JsString → Ordering)
    (toLowerCase : JsString → JsString) (fuel : ℕ) (issues : List IssueDraft) :
    List (List JsString) :=
  layers (looksUpConflict (issueConflicts localeCompare toLowerCase issues)) sorted fuel
    (knownDependencies (sortedIssues issues))

theorem map_issueKeys_wavesWithin (h : ComparableKeys localeCompare issues) (fuel : ℕ) :
    (wavesWithin localeCompare toLowerCase fuel issues).map (·.issueKeys) =
      issueLayers localeCompare toLowerCase fuel issues := by
  rw [wavesWithin, byLocale_eq_sortedIssues h, List.map_map]
  simp only [issueConflicts_sortedIssues h]
  exact List.zipIdx_map_fst 0 _

theorem perm_sorted (l : List JsString) : (sorted l).Perm l :=
  List.perm_insertionSort _ l

section

variable (h : ComparableKeys localeCompare issues)

include h

theorem nodup_knownDependencies :
    ((knownDependencies (sortedIssues issues)).map Prod.fst).Nodup := by
  rw [map_fst_knownDependencies]
  exact (h.perm (perm_sortedIssues issues)).distinct

theorem goodWave_issueLayers {before after : List (List JsString)} {wave : List JsString}
    (hsplit : issueLayers localeCompare toLowerCase issues.length issues = before ++ wave ::
      after) :
    GoodWave (looksUpConflict (issueConflicts localeCompare toLowerCase issues))
      (knownDependencies (sortedIssues issues)) before.flatten wave := by
  have hsplit' : layers (looksUpConflict (issueConflicts localeCompare toLowerCase issues)) sorted
      issues.length (without [] (knownDependencies (sortedIssues issues))) =
      before ++ wave :: after := by
    rw [without_nil]
    exact hsplit
  have hgood := goodWave_of_layers perm_sorted (nodup_knownDependencies h) issues.length hsplit'
  rwa [List.nil_append] at hgood

theorem ready_knownDependencies {done : List JsString} {key : JsString} :
    Ready (knownDependencies (sortedIssues issues)) done key ↔
      key ∉ done ∧ key ∈ issues.map (·.key) ∧
        ∀ dependency, DependsOnKey issues key dependency → dependency ∈ done := by
  have hperm := perm_sortedIssues issues
  apply and_congr_right
  intro _
  constructor
  · rintro ⟨dependencies, hmem, hdone⟩
    have hkey := List.mem_map_of_mem (f := Prod.fst) hmem
    rw [map_fst_knownDependencies, (hperm.map _).mem_iff] at hkey
    refine ⟨hkey, ?_⟩
    intro dependency hdepends
    rw [← dependsOnKey_perm hperm, ← waitsFor_knownDependencies] at hdepends
    obtain ⟨others, hothers, hdependency⟩ := hdepends
    have hsame := List.inj_on_of_nodup_map (nodup_knownDependencies h) hothers hmem rfl
    rw [(Prod.mk.inj hsame).2] at hdependency
    exact hdone dependency hdependency
  · rintro ⟨hkey, hdone⟩
    rw [← (hperm.map _).mem_iff, ← map_fst_knownDependencies] at hkey
    obtain ⟨⟨_, dependencies⟩, hmem, rfl⟩ := List.mem_map.mp hkey
    refine ⟨dependencies, hmem, ?_⟩
    intro dependency hdependency
    apply hdone
    rw [← dependsOnKey_perm hperm, ← waitsFor_knownDependencies]
    exact ⟨dependencies, hmem, hdependency⟩

theorem separable_keys {key : JsString} (hkey : key ∈ issues.map (·.key)) : 0 ∉ key := by
  obtain ⟨issue, hissue, rfl⟩ := List.mem_map.mp hkey
  exact h.separable issue hissue

theorem orderedConflicts : OrderedConflicts (issueConflicts localeCompare toLowerCase issues) :=
  fun _ hconflict => conflict_ordered h hconflict

theorem looksUpConflict_issues (hleft : left ∈ issues.map (·.key))
    (hright : right ∈ issues.map (·.key)) :
    looksUpConflict (issueConflicts localeCompare toLowerCase issues) left right = true ↔
      Conflicting (issueConflicts localeCompare toLowerCase issues) left right := by
  rw [looksUpConflict_eq (orderedConflicts h) (separable_keys h hleft) (separable_keys h hright)]
  exact hasConflict_iff (orderedConflicts h)

theorem not_conflicting_self (key : JsString) :
    ¬ Conflicting (issueConflicts localeCompare toLowerCase issues) key key := by
  rintro ⟨conflict, hconflict, ⟨hleft, hright⟩ | ⟨hleft, hright⟩⟩
  · exact (conflict_ordered h hconflict).2.1 (hleft.trans hright.symm)
  · exact (conflict_ordered h hconflict).2.1 (hleft.trans hright.symm)

end

theorem Conflicting.symm {conflicts : List IssueConflict} (h : Conflicting conflicts left right) :
    Conflicting conflicts right left := by
  obtain ⟨conflict, hconflict, hkeys⟩ := h
  exact ⟨conflict, hconflict, hkeys.symm⟩

/-! ## The main result -/

section

variable (h : ComparableKeys localeCompare issues)

include h

theorem goodWave_executionWaves
    (hsplit : executionWaves localeCompare toLowerCase issues = before ++ wave :: after) :
    GoodWave (looksUpConflict (issueConflicts localeCompare toLowerCase issues))
      (knownDependencies (sortedIssues issues)) (waveKeys before) wave.issueKeys := by
  have hlayers : issueLayers localeCompare toLowerCase issues.length issues =
      before.map (·.issueKeys) ++ wave.issueKeys :: after.map (·.issueKeys) := by
    rw [← map_issueKeys_wavesWithin h, ← List.map_cons, ← List.map_append, ← hsplit]
    rfl
  have hgood := goodWave_issueLayers h hlayers
  rwa [← List.flatMap_def] at hgood

theorem terminates_wavesWithin {fuel : ℕ} (hfuel : issues.length ≤ fuel) :
    wavesWithin localeCompare toLowerCase fuel issues =
      executionWaves localeCompare toLowerCase issues := by
  have hentries : (knownDependencies (sortedIssues issues)).length ≤ issues.length := by
    rw [knownDependencies, List.length_map, (perm_sortedIssues issues).length_eq]
  obtain ⟨extra, rfl⟩ := Nat.exists_eq_add_of_le hfuel
  unfold executionWaves wavesWithin
  simp only [byLocale_eq_sortedIssues h]
  rw [layers_add perm_sorted hentries]

theorem perm_waveKeys (hacyclic : Acyclic (DependsOnKey issues)) :
    (waveKeys (executionWaves localeCompare toLowerCase issues)).Perm (issues.map (·.key)) := by
  have hperm := perm_sortedIssues issues
  have hlength : (knownDependencies (sortedIssues issues)).length = issues.length := by
    rw [knownDependencies, List.length_map, hperm.length_eq]
  have hwaits : ∀ key dependency, WaitsFor (knownDependencies (sortedIssues issues)) key dependency →
      DependsOnKey issues key dependency := by
    intro key dependency hwaits
    rwa [waitsFor_knownDependencies, dependsOnKey_perm hperm] at hwaits
  have hall : (issueLayers localeCompare toLowerCase issues.length issues).flatten.Perm
      ((knownDependencies (sortedIssues issues)).map Prod.fst) := by
    rw [issueLayers, ← hlength]
    apply perm_flatten_layers perm_sorted (nodup_knownDependencies h) (hacyclic.of_imp hwaits)
    intro key dependency hdepends
    obtain ⟨-, -, -, -, hknown⟩ := hwaits key dependency hdepends
    rwa [map_fst_knownDependencies, (hperm.map _).mem_iff]
  rw [map_fst_knownDependencies] at hall
  rw [waveKeys, List.flatMap_def]
  exact ((List.Perm.of_eq (congrArg List.flatten (map_issueKeys_wavesWithin h _))).trans hall).trans
    (hperm.map _)

theorem independent_executionWaves
    (hsplit : executionWaves localeCompare toLowerCase issues = before ++ wave :: after)
    (hleft : left ∈ wave.issueKeys) (hright : right ∈ wave.issueKeys) :
    ¬ Conflicting (issueConflicts localeCompare toLowerCase issues) left right := by
  have hgood := goodWave_executionWaves h hsplit
  have hkeys : ∀ key ∈ wave.issueKeys, key ∈ issues.map (·.key) := fun key hkey =>
    ((ready_knownDependencies h).mp (hgood.ready key hkey)).2.1
  have hapart : wave.issueKeys.Pairwise fun prior key =>
      ¬ Conflicting (issueConflicts localeCompare toLowerCase issues) prior key := by
    apply hgood.apart.imp_of_mem
    intro prior key hprior hkey hfalse hconflict
    rw [← looksUpConflict_issues h (hkeys prior hprior) (hkeys key hkey), hfalse] at hconflict
    cases hconflict
  by_cases hsame : left = right
  · rw [hsame]
    exact not_conflicting_self h right
  · have hflipped : wave.issueKeys.Pairwise fun key prior =>
        ¬ Conflicting (issueConflicts localeCompare toLowerCase issues) prior key :=
      hapart.imp fun hnot hconflict => hnot hconflict.symm
    exact hapart.forall_of_forall_of_flip (fun key _ => not_conflicting_self h key) hflipped
      hleft hright

theorem orderFree_executionWaves (hperm : issues'.Perm issues) :
    issueConflicts localeCompare toLowerCase issues' =
        issueConflicts localeCompare toLowerCase issues ∧
      executionWaves localeCompare toLowerCase issues' =
        executionWaves localeCompare toLowerCase issues := by
  have hsame : byLocale localeCompare issues' = byLocale localeCompare issues := by
    rw [byLocale_eq_sortedIssues h, byLocale_eq_sortedIssues (h.perm hperm),
      sortedIssues_congr h hperm]
  constructor
  · rw [issueConflicts, issueConflicts, hsame]
  · unfold executionWaves wavesWithin
    rw [hsame, hperm.length_eq]

end

/-- Issues with acyclic dependencies are scheduled: each in one wave, after what it depends on and
with nothing that it conflicts with. -/
theorem schedulesIssues (h : ComparableKeys localeCompare issues)
    (hacyclic : Acyclic (DependsOnKey issues)) :
    SchedulesIssues localeCompare toLowerCase issues where
  terminates := fun fuel hfuel => terminates_wavesWithin h hfuel
  partition := perm_waveKeys h hacyclic
  earlier := by
    intro before wave after hsplit key hkey dependency hdepends
    have hready := (goodWave_executionWaves h hsplit).ready key hkey
    exact ((ready_knownDependencies h).mp hready).2.2 dependency hdepends
  independent := by
    intro wave hwave left hleft right hright
    obtain ⟨before, after, hsplit⟩ := List.append_of_mem hwave
    exact independent_executionWaves h hsplit hleft hright
  maximal := by
    intro before wave after hsplit issue hissue hleft hdone
    have hgood := goodWave_executionWaves h hsplit
    have hkey : issue.key ∈ issues.map (·.key) := List.mem_map_of_mem hissue
    have hready := (ready_knownDependencies h).mpr ⟨hleft, hkey, hdone⟩
    rcases hgood.maximal issue.key hready with hmem | ⟨other, hother, hconflict⟩
    · exact Or.inl hmem
    · have hotherKey := ((ready_knownDependencies h).mp (hgood.ready other hother)).2.1
      exact Or.inr ⟨other, hother, (looksUpConflict_issues h hotherKey hkey).mp hconflict⟩
  orderFree := fun issues' hperm => orderFree_executionWaves h hperm

end Layers

def plainIssue (key file : String) (dependencies : List String) : IssueDraft where
  key := js key
  title := []
  goal := []
  requirementRefs := []
  acceptance := []
  nonGoals := []
  dependencyCandidates := dependencies.map js
  expectedFiles := [js file]
  conflictResources :=
    { directories := []
      publicInterfaces := []
      databaseObjects := []
      sharedConfigurations := []
      landingOrder := [] }
  developmentPrompt := []
  verify := []
  completionEvidence := []

def threeIssues : List IssueDraft :=
  [plainIssue "C" "b.ts" ["A"], plainIssue "B" "b.ts" ["A"], plainIssue "A" "a.ts" []]

def byUnits (left right : JsString) : Ordering :=
  if left = right then .eq else if left ≤ right then .lt else .gt

theorem schedulesIssues_threeIssues : SchedulesIssues byUnits id threeIssues := by
  have hkeys : ComparableKeys byUnits threeIssues :=
    ⟨by decide, by decide, by decide⟩
  have hlower : ∀ issue ∈ threeIssues, ∀ dependency ∈ issue.dependencyCandidates,
      ((units dependency).sum : ℤ) < (units issue.key).sum := by decide
  apply schedulesIssues hkeys
  apply acyclic_of_rank fun key => ((units key).sum : ℤ)
  rintro _ dependency ⟨issue, hissue, rfl, hdependency, -⟩
  exact hlower issue hissue dependency hdependency

example : (executionWaves byUnits id threeIssues).map (·.issueKeys) =
    [[js "A"], [js "B"], [js "C"]] := by decide +kernel

end DevHarness.ControlPlane
