import DevHarness.ControlPlane.PlannerClarification
import DevHarness.ControlPlane.SpecArtifact
import DevHarness.ControlPlane.VerifierOutput

/-!
# Declared schemas

What the validators admit, against the closed schemas that are declared beside them.  A
value that is returned is accepted again, and is returned as it is.  It conforms to its
schema unless a word of an enumeration came as a list that prints that word, or a section
of the goal verifier has more items than declared.
-/

namespace DevHarness.ControlPlane

open JsText JsonSchema Sequence

variable {value item : Json} {maximum : ℕ} {list : List JsString} {words : List String} {α : Type}

section Spec

variable {minimum : ℕ} {s : JsString} {records : List α} {idOf : α → JsString} {encode : α → Json}
  {requirement : SpecRequirement} {component : SpecComponent} {element : SpecSolutionElement}

theorem BoundedText.again (h : BoundedText value maximum s) :
    BoundedText (.string s) maximum s := by
  obtain ⟨t, -, rfl, hne, hlen⟩ := h
  exact ⟨trim t, rfl, (trim_trim t).symm, hne, hlen⟩

theorem BoundedText.conforms (h : BoundedText value maximum s) :
    specText.conforms (.string s) = true := by
  obtain ⟨t, -, -, hne, -⟩ := h
  exact conforms_text_of_ne_nil hne

theorem BoundedTexts.again (h : BoundedTexts value minimum list) :
    BoundedTexts (textsJson list) minimum list := by
  obtain ⟨items, -, hminimum, hmaximum, hall, hnodup⟩ := h
  have hlength := hall.length_eq
  refine ⟨list.map .string, rfl, by simpa [← hlength] using hminimum,
    by simpa [← hlength] using hmaximum, ?_, hnodup⟩
  rw [List.forall₂_map_left_iff, List.forall₂_same]
  intro s hs
  obtain ⟨item, -, hitem⟩ := exists_left_of_forall₂ hall hs
  exact hitem.again

theorem BoundedTexts.conforms (h : BoundedTexts value minimum list) :
    specTexts.conforms (textsJson list) = true := by
  obtain ⟨items, -, -, -, hall, -⟩ := h
  refine conforms_list.mpr ⟨nofun, fun text htext => ?_⟩
  obtain ⟨s, hs, rfl⟩ := List.mem_map.mp htext
  obtain ⟨item, -, hitem⟩ := exists_left_of_forall₂ hall hs
  exact hitem.conforms

theorem hasKeys_object {fields : List (JsString × Json)} {keys : List String}
    (h : fields.map Prod.fst = keys.map js) : HasKeys (.object fields) keys :=
  ⟨fields, rfl, congrArg sorted h⟩

theorem conforms_oneOf_of_prints (h : Prints words value) :
    (oneOf (words.map js)).conforms value = true ↔ value.isString = true := by
  obtain ⟨word, hword, htext⟩ := h
  rw [conforms_oneOf_iff, Json.isString_iff]
  constructor
  · rintro ⟨s, -, rfl⟩
    exact ⟨s, rfl⟩
  · rintro ⟨s, rfl⟩
    rw [Json.toText_string] at htext
    exact ⟨s, List.mem_map.mpr ⟨word, hword, (Option.some.inj htext).symm⟩, rfl⟩

theorem CheckedRecords.again {Checked : Json → α → Prop}
    (h : CheckedRecords Checked idOf value records)
    (hagain : ∀ item record, Checked item record → Checked (encode record) record) :
    CheckedRecords Checked idOf (.array (records.map encode)) records := by
  obtain ⟨items, -, hall, hnodup⟩ := h
  refine ⟨_, rfl, ?_, hnodup⟩
  rw [List.forall₂_map_left_iff, List.forall₂_same]
  intro record hrecord
  obtain ⟨item, -, hitem⟩ := exists_left_of_forall₂ hall hrecord
  exact hagain item record hitem

theorem CheckedRecords.conforms {Checked : Json → α → Prop} {schema : JsonSchema}
    (h : CheckedRecords Checked idOf value records)
    (hconforms : ∀ item record, record ∈ records → Checked item record → schema.conforms (encode
      record) = true) :
    (JsonSchema.list schema none).conforms (.array (records.map encode)) = true := by
  obtain ⟨items, -, hall, -⟩ := h
  refine conforms_list.mpr ⟨nofun, fun encoded hencoded => ?_⟩
  obtain ⟨record, hrecord, rfl⟩ := List.mem_map.mp hencoded
  obtain ⟨item, -, hitem⟩ := exists_left_of_forall₂ hall hrecord
  exact hconforms item record hrecord hitem

theorem SpecRequirement.Checked.again (h : requirement.Checked item) :
    requirement.Checked requirement.toJson where
  keys := hasKeys_object rfl
  id := h.id.again
  statement := h.statement.again
  acceptanceCriterionRefs := h.acceptanceCriterionRefs.again

theorem SpecRequirement.Checked.conforms (h : requirement.Checked item) :
    requirementSchema.conforms requirement.toJson = true := by
  refine conforms_closedOf (by decide) ?_
  exact .cons ⟨rfl, h.id.conforms⟩ <| .cons ⟨rfl, h.statement.conforms⟩ <|
    .cons ⟨rfl, h.acceptanceCriterionRefs.conforms⟩ .nil

theorem SpecComponent.Checked.again (h : component.Checked item) :
    component.Checked component.toJson where
  keys := hasKeys_object rfl
  id := h.id.again
  name := h.name.again
  responsibility := h.responsibility.again
  requirementRefs := h.requirementRefs.again

theorem SpecComponent.Checked.conforms (h : component.Checked item) :
    componentSchema.conforms component.toJson = true := by
  refine conforms_closedOf (by decide) ?_
  exact .cons ⟨rfl, h.id.conforms⟩ <| .cons ⟨rfl, h.name.conforms⟩ <|
    .cons ⟨rfl, h.responsibility.conforms⟩ <| .cons ⟨rfl, h.requirementRefs.conforms⟩ .nil

theorem SpecSolutionElement.Checked.again (h : element.Checked item) :
    element.Checked element.toJson where
  keys := hasKeys_object rfl
  kind := ⟨rfl, h.kind.2⟩
  estimatedCost := ⟨rfl, h.estimatedCost.2⟩
  id := h.id.again
  title := h.title.again
  description := h.description.again
  acceptanceCriterionRefs := h.acceptanceCriterionRefs.again
  constraintRefs := h.constraintRefs.again
  removalImpact := h.removalImpact.again
  evidence := h.evidence.again

theorem SpecSolutionElement.Checked.conforms_iff (h : element.Checked item) :
    solutionElementSchema.conforms element.toJson = true ↔
      element.kind.isString = true ∧ element.estimatedCost.isString = true := by
  rw [← conforms_oneOf_of_prints h.kind.2, ← conforms_oneOf_of_prints h.estimatedCost.2]
  constructor
  · intro hconforms
    constructor
    · exact conforms_of_closedOf (p := ("kind", .oneOf (solutionElementKinds.map js))) hconforms
        (by simp) rfl
    · exact conforms_of_closedOf (p := ("estimatedCost", .oneOf (estimatedCosts.map js)))
        hconforms (by simp) rfl
  · rintro ⟨hkind, hcost⟩
    refine conforms_closedOf (by decide) ?_
    exact .cons ⟨rfl, h.id.conforms⟩ <| .cons ⟨rfl, h.title.conforms⟩ <|
      .cons ⟨rfl, hkind⟩ <| .cons ⟨rfl, h.description.conforms⟩ <|
      .cons ⟨rfl, h.acceptanceCriterionRefs.conforms⟩ <|
      .cons ⟨rfl, h.constraintRefs.conforms⟩ <| .cons ⟨rfl, hcost⟩ <|
      .cons ⟨rfl, h.removalImpact.conforms⟩ <| .cons ⟨rfl, h.evidence.conforms⟩ .nil

variable {bundle : SpecBundle}

theorem SpecBundle.Checked.again (h : bundle.Checked value) : bundle.Checked bundle.toJson where
  keys := hasKeys_object rfl
  schemaVersion := rfl
  proposal :=
    { keys := hasKeys_object rfl
      summary := h.proposal.summary.again
      value := h.proposal.value.again
      inScope := h.proposal.inScope.again
      outOfScope := h.proposal.outOfScope.again
      deliverySlices := h.proposal.deliverySlices.again }
  prd :=
    { keys := hasKeys_object rfl
      problem := h.prd.problem.again
      users := h.prd.users.again
      requirements := h.prd.requirements.again fun _ _ => SpecRequirement.Checked.again
      nonGoals := h.prd.nonGoals.again
      constraints := h.prd.constraints.again }
  architecture :=
    { keys := hasKeys_object rfl
      summary := h.architecture.summary.again
      components := h.architecture.components.again fun _ _ => SpecComponent.Checked.again
      decisions := h.architecture.decisions.again }
  migration :=
    { keys := hasKeys_object rfl
      required := rfl
      steps := h.migration.steps.again
      verification := h.migration.verification.again }
  rollback :=
    { keys := hasKeys_object rfl
      triggers := h.rollback.triggers.again
      steps := h.rollback.steps.again
      dataRecovery := h.rollback.dataRecovery.again }
  solutionElements := h.solutionElements.again fun _ _ => SpecSolutionElement.Checked.again
  references := h.references

theorem SpecProposal.Checked.conforms {proposal : SpecProposal} (h : proposal.Checked value) :
    proposalSchema.conforms proposal.toJson = true := by
  refine conforms_closedOf (by decide) ?_
  exact .cons ⟨rfl, h.summary.conforms⟩ <| .cons ⟨rfl, h.value.conforms⟩ <|
    .cons ⟨rfl, h.inScope.conforms⟩ <| .cons ⟨rfl, h.outOfScope.conforms⟩ <|
    .cons ⟨rfl, h.deliverySlices.conforms⟩ .nil

theorem SpecPrd.Checked.conforms {prd : SpecPrd} (h : prd.Checked value) :
    prdSchema.conforms prd.toJson = true := by
  have hrequirements :=
    h.requirements.conforms fun _ _ _ => SpecRequirement.Checked.conforms
  refine conforms_closedOf (by decide) ?_
  exact .cons ⟨rfl, h.problem.conforms⟩ <| .cons ⟨rfl, h.users.conforms⟩ <|
    .cons ⟨rfl, hrequirements⟩ <| .cons ⟨rfl, h.nonGoals.conforms⟩ <|
    .cons ⟨rfl, h.constraints.conforms⟩ .nil

theorem SpecArchitecture.Checked.conforms {architecture : SpecArchitecture}
    (h : architecture.Checked value) :
    architectureSchema.conforms architecture.toJson = true := by
  have hcomponents := h.components.conforms fun _ _ _ => SpecComponent.Checked.conforms
  refine conforms_closedOf (by decide) ?_
  exact .cons ⟨rfl, h.summary.conforms⟩ <| .cons ⟨rfl, hcomponents⟩ <|
    .cons ⟨rfl, h.decisions.conforms⟩ .nil

theorem SpecMigration.Checked.conforms {migration : SpecMigration}
    (h : migration.Checked value) : migrationSchema.conforms migration.toJson = true := by
  refine conforms_closedOf (by decide) ?_
  exact .cons ⟨rfl, conforms_boolean⟩ <| .cons ⟨rfl, h.steps.conforms⟩ <|
    .cons ⟨rfl, h.verification.conforms⟩ .nil

theorem SpecRollback.Checked.conforms {rollback : SpecRollback} (h : rollback.Checked value) :
    rollbackSchema.conforms rollback.toJson = true := by
  refine conforms_closedOf (by decide) ?_
  exact .cons ⟨rfl, h.triggers.conforms⟩ <| .cons ⟨rfl, h.steps.conforms⟩ <|
    .cons ⟨rfl, h.dataRecovery.conforms⟩ .nil

theorem SpecBundle.Checked.conforms_iff (h : bundle.Checked value) :
    specBundleOutputSchema.conforms bundle.toJson = true ↔
      ∀ element ∈ bundle.solutionElements,
        element.kind.isString = true ∧ element.estimatedCost.isString = true := by
  constructor
  · intro hconforms element helement
    have hlist : (JsonSchema.list solutionElementSchema none).conforms
        (.array (bundle.solutionElements.map SpecSolutionElement.toJson)) = true :=
      conforms_of_closedOf (p := ("solutionElements", .list solutionElementSchema none))
        hconforms (by simp) rfl
    obtain ⟨items, -, hall, -⟩ := h.solutionElements
    obtain ⟨item, -, hitem⟩ := exists_left_of_forall₂ hall helement
    exact hitem.conforms_iff.mp ((conforms_list.mp hlist).2 _ (List.mem_map_of_mem helement))
  · intro hstrings
    have helements := h.solutionElements.conforms fun item element helement hitem =>
      hitem.conforms_iff.mpr (hstrings element helement)
    have hversion : (JsonSchema.oneOf [specBundleSchemaVersion]).conforms
        (.string specBundleSchemaVersion) = true :=
      conforms_oneOf_iff.mpr ⟨_, List.mem_singleton_self _, rfl⟩
    refine conforms_closedOf (by decide) ?_
    exact .cons ⟨rfl, hversion⟩ <| .cons ⟨rfl, h.proposal.conforms⟩ <|
      .cons ⟨rfl, h.prd.conforms⟩ <| .cons ⟨rfl, h.architecture.conforms⟩ <|
      .cons ⟨rfl, h.migration.conforms⟩ <| .cons ⟨rfl, h.rollback.conforms⟩ <|
      .cons ⟨rfl, helements⟩ .nil

end Spec

/-! ## The goal verifier -/

/-- The texts of a list: distinct, and at most 500. -/
def VerifierTexts (value : Json) (list : List JsString) : Prop :=
  ∃ items, value = .array items ∧ items.length ≤ 500 ∧
    List.Forall₂ (fun item s => BoundedText item 1000 s) items list ∧ list.Nodup

/-- The word of a value: it prints one of `words` and is returned as it came. -/
def ReceivedWord (words : List String) (value word : Json) : Prop :=
  word = value ∧ Prints words word

structure CriterionVerdict.Checked (item : Json) (criterion : CriterionVerdict) : Prop where
  fields : HasFields item ["criterionRef", "verdict", "evidenceRefs", "rationale"]
  verdict : ReceivedWord criterionVerdicts (fieldOf item "verdict") criterion.verdict
  criterionRef : BoundedText (fieldOf item "criterionRef") 200 criterion.criterionRef
  evidenceRefs : VerifierTexts (fieldOf item "evidenceRefs") criterion.evidenceRefs
  rationale : BoundedText (fieldOf item "rationale") 8000 criterion.rationale

structure BoundaryVerdict.Checked (words : List String) (item : Json)
    (boundary : BoundaryVerdict) : Prop where
  fields : HasFields item ["statement", "verdict", "rationale"]
  verdict : boundary.Reflects words item
  statement : BoundedText (fieldOf item "statement") 2000 boundary.statement
  rationale : BoundedText (fieldOf item "rationale") 8000 boundary.rationale

structure RegressionRisk.Checked (item : Json) (risk : RegressionRisk) : Prop where
  fields : HasFields item ["severity", "description", "evidenceRefs"]
  severity : ReceivedWord riskSeverities (fieldOf item "severity") risk.severity
  description : BoundedText (fieldOf item "description") 8000 risk.description
  evidenceRefs : VerifierTexts (fieldOf item "evidenceRefs") risk.evidenceRefs

def SectionChecked {α : Type} (Checked : Json → α → Prop) (value : Json) (list : List α) : Prop :=
  ∃ items, value = .array items ∧ List.Forall₂ Checked items list

/-- What `validateGoalVerifierOutput` has checked of a value, and the output it has made
of it. -/
structure GoalVerifierOutput.Checked (value : Json) (goal : GoalContract)
    (output : GoalVerifierOutput) : Prop where
  fields : HasFields value
    ["schemaVersion", "overallVerdict", "criteria", "nonGoals", "constraints",
      "regressionRisks"]
  schemaVersion : fieldOf value "schemaVersion" = .string goalVerifierOutputSchemaVersion
  overallVerdict : ReceivedWord criterionVerdicts (fieldOf value "overallVerdict")
    output.overallVerdict
  criteria : SectionChecked CriterionVerdict.Checked (fieldOf value "criteria") output.criteria
  criteriaCovered : sorted (output.criteria.map (·.criterionRef)) =
    sorted (goal.acceptanceCriteria.map (·.id))
  nonGoals : SectionChecked (BoundaryVerdict.Checked nonGoalVerdicts)
    (fieldOf value "nonGoals") output.nonGoals
  nonGoalsCovered : sorted (output.nonGoals.map (·.statement)) = sorted goal.nonGoals
  constraints : SectionChecked (BoundaryVerdict.Checked constraintVerdicts)
    (fieldOf value "constraints") output.constraints
  constraintsCovered : sorted (output.constraints.map (·.statement)) = sorted goal.constraints
  regressionRisks : SectionChecked RegressionRisk.Checked (fieldOf value "regressionRisks")
    output.regressionRisks

section Verifier

variable {name : JsString} {keys : List String} {index : ℕ} {u : Unit} {goal : GoalContract}
  {output : GoalVerifierOutput} {part : String} {criterion : CriterionVerdict}
  {risk : RegressionRisk}

theorem verifierObject_eq_ok : verifierObject value name keys = .ok u ↔ HasFields value keys := by
  unfold verifierObject HasFields
  cases value with
  | object properties =>
      simp only [ite_error_eq_ok, not_or, not_exists, not_and, not_not, Json.object.injEq,
        exists_eq_left', and_true]
      exact and_comm
  | _ => simp

theorem verifierTexts_eq_ok : verifierTexts value name = .ok list ↔ VerifierTexts value list := by
  have hitem : ∀ index item s, verifierText item (itemName name index) 1000 = .ok s ↔
      BoundedText item 1000 s := fun _ _ _ => boundedText_iff
  unfold verifierTexts VerifierTexts
  cases value with
  | array items =>
      simp only [ite_error_eq_ok, not_lt, bind_eq_ok, require_eq_ok, decide_eq_true_eq,
        mapIndexed_eq_ok_iff hitem, Json.array.injEq, exists_eq_left']
      constructor
      · rintro ⟨hlength, result, hall, _, hnodup, h⟩
        obtain rfl := Except.ok.inj h
        exact ⟨hlength, hall, hnodup⟩
      · rintro ⟨hlength, hall, hnodup⟩
        exact ⟨hlength, list, hall, (), hnodup, rfl⟩
  | _ => simp

theorem sectionItems_eq_ok {items : List Json} :
    sectionItems value part = .ok items ↔ fieldOf value part = .array items := by
  unfold sectionItems
  split
  · next array harray => simp [harray]
  · next hnone =>
    constructor
    · nofun
    · intro harray
      exact absurd harray (hnone items)

theorem validateCriterion_eq_ok :
    validateCriterion index item = .ok criterion ↔ criterion.Checked item := by
  simp only [validateCriterion, bind_eq_ok, verifierObject_eq_ok, verifierText, boundedText_iff,
    verifierTexts_eq_ok, require_eq_ok]
  constructor
  · rintro ⟨_, hfields, allowed, hallows, _, rfl, ref, href, refs, hrefs, rationale, hrationale,
      h⟩
    obtain rfl := Except.ok.inj h
    exact ⟨hfields, ⟨rfl, prints_iff.mpr hallows⟩, href, hrefs, hrationale⟩
  · rintro ⟨hfields, ⟨hreceived, hprints⟩, href, hrefs, hrationale⟩
    rw [hreceived] at hprints
    refine ⟨(), hfields, true, prints_iff.mp hprints, (), rfl, _, href, _, hrefs, _, hrationale,
      ?_⟩
    rw [← hreceived]
    rfl

theorem validateBoundary_eq_ok {boundary : BoundaryVerdict} :
    validateBoundary part words index item = .ok boundary ↔ boundary.Checked words item := by
  simp only [validateBoundary, bind_eq_ok, verifierObject_eq_ok, verifierText, boundedText_iff,
    stringOf_eq_ok, require_eq_ok]
  constructor
  · rintro ⟨_, hfields, allowed, hallows, _, rfl, statement, hstatement, verdict, hverdict,
      rationale, hrationale, h⟩
    obtain rfl := Except.ok.inj h
    obtain ⟨word, hword, htext⟩ := prints_iff.mpr hallows
    rw [hverdict] at htext
    have hmem : verdict ∈ words.map js :=
      List.mem_map.mpr ⟨word, hword, (Option.some.inj htext).symm⟩
    exact ⟨hfields, ⟨hverdict, hmem⟩, hstatement, hrationale⟩
  · rintro ⟨hfields, ⟨hprinted, hallowed⟩, hstatement, hrationale⟩
    obtain ⟨word, hword, hjs⟩ := List.mem_map.mp hallowed
    have hprints : Prints words (fieldOf item "verdict") :=
      ⟨word, hword, by rw [hprinted, hjs]⟩
    exact ⟨(), hfields, true, prints_iff.mp hprints, (), rfl, _, hstatement, _, hprinted, _,
      hrationale, rfl⟩

theorem validateRegressionRisk_eq_ok :
    validateRegressionRisk index item = .ok risk ↔ risk.Checked item := by
  simp only [validateRegressionRisk, bind_eq_ok, verifierObject_eq_ok, verifierText,
    boundedText_iff, verifierTexts_eq_ok, require_eq_ok]
  constructor
  · rintro ⟨_, hfields, allowed, hallows, _, rfl, description, hdescription, refs, hrefs, h⟩
    obtain rfl := Except.ok.inj h
    exact ⟨hfields, ⟨rfl, prints_iff.mpr hallows⟩, hdescription, hrefs⟩
  · rintro ⟨hfields, ⟨hreceived, hprints⟩, hdescription, hrefs⟩
    rw [hreceived] at hprints
    refine ⟨(), hfields, true, prints_iff.mp hprints, (), rfl, _, hdescription, _, hrefs, ?_⟩
    rw [← hreceived]
    rfl

theorem boundary_eq_ok {items : List Json} {expected : List JsString}
    {verdicts : List BoundaryVerdict} : boundary part words items expected = .ok verdicts ↔
      List.Forall₂ (BoundaryVerdict.Checked words) items verdicts ∧
        sorted (verdicts.map (·.statement)) = sorted expected := by
  have hitem : ∀ index item verdict, validateBoundary part words index item = .ok verdict ↔
      verdict.Checked words item := fun _ _ _ => validateBoundary_eq_ok
  simp only [boundary, bind_eq_ok, require_eq_ok, decide_eq_true_eq, mapIndexed_eq_ok_iff hitem]
  constructor
  · rintro ⟨found, hall, _, hcovered, h⟩
    obtain rfl := Except.ok.inj h
    exact ⟨hall, hcovered⟩
  · rintro ⟨hall, hcovered⟩
    exact ⟨verdicts, hall, (), hcovered, rfl⟩

theorem validateGoalVerifierOutput_eq_ok :
    validateGoalVerifierOutput value goal = .ok output ↔ output.Checked value goal := by
  have hcriterion : ∀ index item criterion,
      validateCriterion index item = .ok criterion ↔ criterion.Checked item :=
    fun _ _ _ => validateCriterion_eq_ok
  have hrisk : ∀ index item risk,
      validateRegressionRisk index item = .ok risk ↔ risk.Checked item :=
    fun _ _ _ => validateRegressionRisk_eq_ok
  simp only [validateGoalVerifierOutput, bind_eq_ok, verifierObject_eq_ok, sectionItems_eq_ok,
    require_eq_ok, Json.isWord_iff, boundary_eq_ok, decide_eq_true_eq,
    mapIndexed_eq_ok_iff hcriterion, mapIndexed_eq_ok_iff hrisk]
  clear hcriterion hrisk
  constructor
  · rintro ⟨_, hfields, _, hversion, allowed, hallows, _, rfl, criterionItems, hcriterionItems,
      nonGoalItems, hnonGoalItems, constraintItems, hconstraintItems, riskItems, hriskItems,
      criteria, hcriteria, _, hcovered, nonGoals, ⟨hnonGoals, hnonGoalsCovered⟩, constraints,
      ⟨hconstraints, hconstraintsCovered⟩, risks, hrisks, h⟩
    obtain rfl := Except.ok.inj h
    exact
      { fields := hfields
        schemaVersion := hversion
        overallVerdict := ⟨rfl, prints_iff.mpr hallows⟩
        criteria := ⟨criterionItems, hcriterionItems, hcriteria⟩
        criteriaCovered := hcovered
        nonGoals := ⟨nonGoalItems, hnonGoalItems, hnonGoals⟩
        nonGoalsCovered := hnonGoalsCovered
        constraints := ⟨constraintItems, hconstraintItems, hconstraints⟩
        constraintsCovered := hconstraintsCovered
        regressionRisks := ⟨riskItems, hriskItems, hrisks⟩ }
  · rintro ⟨hfields, hversion, ⟨hreceived, hprints⟩,
      ⟨criterionItems, hcriterionItems, hcriteria⟩, hcovered,
      ⟨nonGoalItems, hnonGoalItems, hnonGoals⟩, hnonGoalsCovered,
      ⟨constraintItems, hconstraintItems, hconstraints⟩, hconstraintsCovered,
      ⟨riskItems, hriskItems, hrisks⟩⟩
    rw [hreceived] at hprints
    refine ⟨(), hfields, (), hversion, true, prints_iff.mp hprints, (), rfl, criterionItems,
      hcriterionItems, nonGoalItems, hnonGoalItems, constraintItems, hconstraintItems, riskItems,
      hriskItems, _, hcriteria, (), hcovered, _, ⟨hnonGoals, hnonGoalsCovered⟩, _,
      ⟨hconstraints, hconstraintsCovered⟩, _, hrisks, ?_⟩
    rw [← hreceived]
    rfl

theorem hasFields_object {fields : List (JsString × Json)}
    (h : fields.map Prod.fst = keys.map js) : HasFields (.object fields) keys := by
  refine ⟨fields, rfl, fun key hkey hnone => ?_, fun p hp => ?_⟩
  · have hmem : js key ∈ fields.map Prod.fst := h ▸ List.mem_map_of_mem hkey
    obtain ⟨p, hp, hname⟩ := List.mem_map.mp hmem
    rw [Json.property, Option.map_eq_none_iff, List.find?_eq_none] at hnone
    exact hnone p hp (decide_eq_true hname)
  · exact h ▸ List.mem_map_of_mem hp

theorem VerifierTexts.again (h : VerifierTexts value list) :
    VerifierTexts (.array (list.map .string)) list := by
  obtain ⟨items, -, hmaximum, hall, hnodup⟩ := h
  have hlength := hall.length_eq
  refine ⟨_, rfl, by simpa [← hlength] using hmaximum, ?_, hnodup⟩
  rw [List.forall₂_map_left_iff, List.forall₂_same]
  intro s hs
  obtain ⟨item, -, hitem⟩ := exists_left_of_forall₂ hall hs
  exact hitem.again

theorem VerifierTexts.conforms (h : VerifierTexts value list) :
    evidenceRefsSchema.conforms (.array (list.map .string)) = true := by
  obtain ⟨items, -, hmaximum, hall, -⟩ := h
  refine conforms_list.mpr ⟨?_, fun text htext => ?_⟩
  · rintro _ ⟨⟩
    simpa [← hall.length_eq] using hmaximum
  · obtain ⟨s, hs, rfl⟩ := List.mem_map.mp htext
    obtain ⟨item, -, hitem⟩ := exists_left_of_forall₂ hall hs
    exact hitem.conforms

theorem SectionChecked.again {Checked : Json → α → Prop} {list : List α} {encode : α → Json}
    (h : SectionChecked Checked value list)
    (hagain : ∀ item a, Checked item a → Checked (encode a) a) :
    SectionChecked Checked (.array (list.map encode)) list := by
  obtain ⟨items, -, hall⟩ := h
  refine ⟨_, rfl, ?_⟩
  rw [List.forall₂_map_left_iff, List.forall₂_same]
  intro a ha
  obtain ⟨item, -, hitem⟩ := exists_left_of_forall₂ hall ha
  exact hagain item a hitem

/-- A section conforms exactly if it is short enough and each of its items conforms. -/
theorem SectionChecked.conforms_iff {Checked : Json → α → Prop} {list : List α}
    {schema : JsonSchema} {Good : Json → Prop} (encode : α → Json) (maximum : ℕ)
    (h : SectionChecked Checked value list)
    (hitem : ∀ item a, Checked item a → (schema.conforms (encode a) = true ↔ Good item)) :
    (JsonSchema.list schema (some maximum)).conforms (.array (list.map encode)) = true ↔
      value.items.length ≤ maximum ∧ ∀ item ∈ value.items, Good item := by
  obtain ⟨items, rfl, hall⟩ := h
  have hitems : (Json.array items).items = items := rfl
  simp only [conforms_list, Option.some.injEq, forall_eq', List.length_map, hall.length_eq,
    hitems, List.forall_mem_map]
  constructor
  · rintro ⟨hlength, hconforms⟩
    refine ⟨hlength, fun item hmem => ?_⟩
    obtain ⟨a, ha, hchecked⟩ := exists_right_of_forall₂ hall hmem
    exact (hitem item a hchecked).mp (hconforms a ha)
  · rintro ⟨hlength, hgood⟩
    refine ⟨hlength, fun a ha => ?_⟩
    obtain ⟨item, hmem, hchecked⟩ := exists_left_of_forall₂ hall ha
    exact (hitem item a hchecked).mpr (hgood item hmem)

theorem CriterionVerdict.Checked.again (h : criterion.Checked item) :
    criterion.Checked criterion.toJson where
  fields := hasFields_object rfl
  verdict := ⟨rfl, h.verdict.2⟩
  criterionRef := h.criterionRef.again
  evidenceRefs := h.evidenceRefs.again
  rationale := h.rationale.again

theorem CriterionVerdict.Checked.conforms_iff (h : criterion.Checked item) :
    criterionSchema.conforms criterion.toJson = true ↔
      (fieldOf item "verdict").isString = true := by
  rw [← h.verdict.1, ← conforms_oneOf_of_prints h.verdict.2]
  constructor
  · intro hconforms
    exact conforms_of_closedOf (p := ("verdict", .oneOf (criterionVerdicts.map js))) hconforms
      (by simp) rfl
  · intro hverdict
    refine conforms_closedOf (by decide) ?_
    exact .cons ⟨rfl, h.criterionRef.conforms⟩ <| .cons ⟨rfl, hverdict⟩ <|
      .cons ⟨rfl, h.evidenceRefs.conforms⟩ <| .cons ⟨rfl, h.rationale.conforms⟩ .nil

theorem BoundaryVerdict.Checked.again {boundary : BoundaryVerdict}
    (h : boundary.Checked words item) : boundary.Checked words boundary.toJson where
  fields := hasFields_object rfl
  verdict := ⟨Json.toText_string, h.verdict.allowed⟩
  statement := h.statement.again
  rationale := h.rationale.again

theorem BoundaryVerdict.Checked.conforms {boundary : BoundaryVerdict}
    (h : boundary.Checked words item) :
    (boundarySchema words).conforms boundary.toJson = true := by
  have hverdict : (JsonSchema.oneOf (words.map js)).conforms (.string boundary.verdict) = true :=
    conforms_oneOf_iff.mpr ⟨_, h.verdict.allowed, rfl⟩
  have hnodup : [js "statement", js "verdict", js "rationale"].Nodup := by decide
  refine conforms_closedOf hnodup ?_
  exact .cons ⟨rfl, h.statement.conforms⟩ <| .cons ⟨rfl, hverdict⟩ <|
    .cons ⟨rfl, h.rationale.conforms⟩ .nil

theorem RegressionRisk.Checked.again (h : risk.Checked item) :
    risk.Checked risk.toJson where
  fields := hasFields_object rfl
  severity := ⟨rfl, h.severity.2⟩
  description := h.description.again
  evidenceRefs := h.evidenceRefs.again

theorem RegressionRisk.Checked.conforms_iff (h : risk.Checked item) :
    regressionRiskSchema.conforms risk.toJson = true ↔
      (fieldOf item "severity").isString = true := by
  rw [← h.severity.1, ← conforms_oneOf_of_prints h.severity.2]
  constructor
  · intro hconforms
    exact conforms_of_closedOf (p := ("severity", .oneOf (riskSeverities.map js))) hconforms
      (by simp) rfl
  · intro hseverity
    refine conforms_closedOf (by decide) ?_
    exact .cons ⟨rfl, hseverity⟩ <| .cons ⟨rfl, h.description.conforms⟩ <|
      .cons ⟨rfl, h.evidenceRefs.conforms⟩ .nil

theorem GoalVerifierOutput.Checked.again (h : output.Checked value goal) :
    output.Checked output.toJson goal where
  fields := hasFields_object rfl
  schemaVersion := rfl
  overallVerdict := ⟨rfl, h.overallVerdict.2⟩
  criteria := h.criteria.again fun _ _ => CriterionVerdict.Checked.again
  criteriaCovered := h.criteriaCovered
  nonGoals := h.nonGoals.again fun _ _ => BoundaryVerdict.Checked.again
  nonGoalsCovered := h.nonGoalsCovered
  constraints := h.constraints.again fun _ _ => BoundaryVerdict.Checked.again
  constraintsCovered := h.constraintsCovered
  regressionRisks := h.regressionRisks.again fun _ _ => RegressionRisk.Checked.again

/-- What the goal verifier is declared to return beyond what is checked: its words are
texts, and its sections are not too long. -/
structure VerifierDeclared (value : Json) : Prop where
  overallVerdict : (fieldOf value "overallVerdict").isString = true
  criteria : (fieldOf value "criteria").items.length ≤ 50 ∧
    ∀ item ∈ (fieldOf value "criteria").items, (fieldOf item "verdict").isString = true
  nonGoals : (fieldOf value "nonGoals").items.length ≤ 50
  constraints : (fieldOf value "constraints").items.length ≤ 50
  regressionRisks : (fieldOf value "regressionRisks").items.length ≤ 100 ∧
    ∀ item ∈ (fieldOf value "regressionRisks").items, (fieldOf item "severity").isString = true

theorem GoalVerifierOutput.Checked.conforms_iff (h : output.Checked value goal) :
    goalVerifierOutputSchema.conforms output.toJson = true ↔ VerifierDeclared value := by
  have hoverall : (JsonSchema.oneOf (criterionVerdicts.map js)).conforms
      output.overallVerdict = true ↔ (fieldOf value "overallVerdict").isString = true := by
    rw [← h.overallVerdict.1]
    exact conforms_oneOf_of_prints h.overallVerdict.2
  have hcriteria := h.criteria.conforms_iff CriterionVerdict.toJson 50
    fun _ _ => CriterionVerdict.Checked.conforms_iff
  have hboundary : ∀ {words : List String} (item : Json) (boundary : BoundaryVerdict),
      boundary.Checked words item →
      ((boundarySchema words).conforms boundary.toJson = true ↔ True) := fun _ _ hchecked =>
    iff_true_intro hchecked.conforms
  have hnonGoals := h.nonGoals.conforms_iff BoundaryVerdict.toJson 50 hboundary
  have hconstraints := h.constraints.conforms_iff BoundaryVerdict.toJson 50 hboundary
  have hrisks := h.regressionRisks.conforms_iff RegressionRisk.toJson 100
    fun _ _ => RegressionRisk.Checked.conforms_iff
  constructor
  · intro hconforms
    have hsection : ∀ (name : String) {schema : JsonSchema} {found : Json},
        (name, schema) ∈ [("schemaVersion", .oneOf [goalVerifierOutputSchemaVersion]),
          ("overallVerdict", .oneOf (criterionVerdicts.map js)),
          ("criteria", .list criterionSchema (some 50)),
          ("nonGoals", .list (boundarySchema nonGoalVerdicts) (some 50)),
          ("constraints", .list (boundarySchema constraintVerdicts) (some 50)),
          ("regressionRisks", .list regressionRiskSchema (some 100))] →
        output.toJson.get (js name) = some found → schema.conforms found = true :=
      fun _ _ _ hdeclared hfound => conforms_of_closedOf hconforms hdeclared hfound
    exact
      { overallVerdict := hoverall.mp (hsection "overallVerdict" (by simp) rfl)
        criteria := hcriteria.mp (hsection "criteria" (by simp) rfl)
        nonGoals := (hnonGoals.mp (hsection "nonGoals" (by simp) rfl)).1
        constraints := (hconstraints.mp (hsection "constraints" (by simp) rfl)).1
        regressionRisks := hrisks.mp (hsection "regressionRisks" (by simp) rfl) }
  · intro hdeclared
    have hversion : (JsonSchema.oneOf [goalVerifierOutputSchemaVersion]).conforms
        (.string goalVerifierOutputSchemaVersion) = true :=
      conforms_oneOf_iff.mpr ⟨_, List.mem_singleton_self _, rfl⟩
    refine conforms_closedOf (by decide) ?_
    exact .cons ⟨rfl, hversion⟩ <| .cons ⟨rfl, hoverall.mpr hdeclared.overallVerdict⟩ <|
      .cons ⟨rfl, hcriteria.mpr hdeclared.criteria⟩ <|
      .cons ⟨rfl, hnonGoals.mpr ⟨hdeclared.nonGoals, fun _ _ => trivial⟩⟩ <|
      .cons ⟨rfl, hconstraints.mpr ⟨hdeclared.constraints, fun _ _ => trivial⟩⟩ <|
      .cons ⟨rfl, hrisks.mpr hdeclared.regressionRisks⟩ .nil

end Verifier


section Planner

variable {schema : JsonSchema}

theorem conforms_closedOf_iff {properties : List (String × JsonSchema)}
    (h : HasFields value (properties.map Prod.fst)) :
    (closedOf properties).conforms value = true ↔
      ∀ p ∈ properties, p.2.conforms (fieldOf value p.1) = true := by
  obtain ⟨fields, rfl, hfields, hknown⟩ := h
  have hfieldOf : ∀ p ∈ properties,
      Json.property fields (js p.1) = some (fieldOf (.object fields) p.1) := by
    intro p hp
    obtain ⟨found, hfound⟩ :=
      Option.ne_none_iff_exists'.mp (hfields p.1 (List.mem_map_of_mem hp))
    simp [fieldOf, Json.get, hfound]
  constructor
  · intro hconforms p hp
    exact conforms_of_closedOf hconforms hp (hfieldOf p hp)
  · intro hall
    unfold closedOf
    rw [conforms_closed, Bool.and_eq_true, Bool.and_eq_true, conformsEach_iff, List.all_eq_true,
      List.all_eq_true]
    refine ⟨⟨?_, ?_⟩, ?_⟩
    · intro name hname
      obtain ⟨p, hp, rfl⟩ := List.mem_map.mp hname
      rw [hfieldOf p hp]
      rfl
    · intro field hfield
      simpa [Function.comp_def] using hknown field hfield
    · intro declared hdeclared found hfound
      obtain ⟨p, hp, rfl⟩ := List.mem_map.mp hdeclared
      obtain rfl := Option.some.inj ((hfieldOf p hp).symm.trans hfound)
      exact hall p hp

theorem conforms_text_of_isString (h : value.isString = true) :
    (JsonSchema.text 0).conforms value = true := by
  obtain ⟨s, rfl⟩ := Json.isString_iff.mp h
  exact conforms_text_zero

theorem FactChecked.conforms_iff
    (hschema : schema = closedOf [("id", identifierSchema), ("fact", boundedTextSchema), ("basis",
      .oneOf (knownFactBases.map js))]) (h : FactChecked item) :
    schema.conforms item = true ↔ (fieldOf item "basis").isString = true := by
  have hid : identifierSchema.conforms (fieldOf item "id") = true :=
    conforms_text_of_isString h.id
  have hfact : boundedTextSchema.conforms (fieldOf item "fact") = true :=
    conforms_text_of_isString h.fact
  rw [hschema, conforms_closedOf_iff h.fields]
  simp [hid, hfact, conforms_oneOf_of_prints h.basis]

theorem UncertaintyChecked.conforms
    (hschema : schema = closedOf [("id", identifierSchema), ("statement", boundedTextSchema),
      ("impact", boundedTextSchema)]) (h : UncertaintyChecked item) :
    schema.conforms item = true := by
  have hid : identifierSchema.conforms (fieldOf item "id") = true :=
    conforms_text_of_isString h.id
  have hstatement : boundedTextSchema.conforms (fieldOf item "statement") = true :=
    conforms_text_of_isString h.statement
  have himpact : boundedTextSchema.conforms (fieldOf item "impact") = true :=
    conforms_text_of_isString h.impact
  rw [hschema, conforms_closedOf_iff h.fields]
  simp [hid, hstatement, himpact]

theorem QuestionChecked.conforms_iff
    (hschema : schema = closedOf [("id", identifierSchema), ("prompt", boundedTextSchema),
      ("rationale", boundedTextSchema), ("blockingLevel", .oneOf (blockingLevels.map js)),
      ("answerType", .oneOf (answerTypes.map js)), ("suggestedOptions", .list (.text 0) none)])
    (h : QuestionChecked item) :
    schema.conforms item = true ↔ (fieldOf item "blockingLevel").isString = true ∧
      (fieldOf item "answerType").isString = true := by
  have hid : identifierSchema.conforms (fieldOf item "id") = true :=
    conforms_text_of_isString h.id
  have hprompt : boundedTextSchema.conforms (fieldOf item "prompt") = true :=
    conforms_text_of_isString h.prompt
  have hrationale : boundedTextSchema.conforms (fieldOf item "rationale") = true :=
    conforms_text_of_isString h.rationale
  have hoptions : (JsonSchema.list (.text 0) none).conforms
      (fieldOf item "suggestedOptions") = true := by
    obtain ⟨options, hoptions, hstrings⟩ := h.suggestedOptions
    rw [hoptions]
    exact conforms_list.mpr ⟨nofun, fun option hoption =>
      conforms_text_of_isString (hstrings option hoption)⟩
  rw [hschema, conforms_closedOf_iff h.fields]
  simp [hid, hprompt, hrationale, hoptions, conforms_oneOf_of_prints h.blockingLevel,
    conforms_oneOf_of_prints h.answerType]

theorem ListChecked.conforms_iff {Checked Good : Json → Prop} (h : ListChecked Checked value)
    (hitem : ∀ item, Checked item → (schema.conforms item = true ↔ Good item)) :
    (JsonSchema.list schema none).conforms value = true ↔ ∀ item ∈ value.items, Good item := by
  obtain ⟨items, rfl, hall⟩ := h
  rw [conforms_list]
  constructor
  · rintro ⟨-, hconforms⟩ item hmem
    exact (hitem item (hall item hmem)).mp (hconforms item hmem)
  · intro hgood
    exact ⟨nofun, fun item hmem => (hitem item (hall item hmem)).mpr (hgood item hmem)⟩

/-- What the planner is declared to return beyond what is checked: its words are texts. -/
structure PlannerDeclared (value : Json) : Prop where
  knownFacts : ∀ item ∈ (fieldOf value "knownFacts").items,
    (fieldOf item "basis").isString = true
  questions : ∀ item ∈ (fieldOf value "questions").items,
    (fieldOf item "blockingLevel").isString = true ∧
      (fieldOf item "answerType").isString = true

theorem PlannerChecked.conforms_iff (h : PlannerChecked value) :
    plannerClarificationOutputSchema.conforms value = true ↔ PlannerDeclared value := by
  have hversion : (JsonSchema.oneOf [plannerClarificationSchemaVersion]).conforms
      (fieldOf value "schemaVersion") = true :=
    conforms_oneOf_iff.mpr ⟨_, List.mem_singleton_self _, h.schemaVersion⟩
  have hfacts := h.knownFacts.conforms_iff fun _ => FactChecked.conforms_iff rfl
  have huncertainties := h.uncertainties.conforms_iff fun item hitem =>
    iff_true_intro (UncertaintyChecked.conforms rfl hitem)
  have hquestions := h.questions.conforms_iff fun _ => QuestionChecked.conforms_iff rfl
  rw [plannerClarificationOutputSchema, conforms_closedOf_iff h.fields]
  simp only [List.forall_mem_cons, List.not_mem_nil, false_implies, implies_true, and_true,
    hversion, hfacts, huncertainties, hquestions, true_and]
  exact ⟨fun ⟨hknown, hasked⟩ => ⟨hknown, hasked⟩, fun ⟨hknown, hasked⟩ => ⟨hknown, hasked⟩⟩

end Planner

/-- What is returned conforms to the schema and is accepted again, as it is. -/
def Admitted {ε α : Type} (schema : JsonSchema) (validate : Json → Except ε α) (encode : α → Json)
    (returned : α) : Prop :=
  schema.conforms (encode returned) = true ∧ validate (encode returned) = .ok returned

/-- What a spec bundle is declared to have beyond what is checked: its words are texts. -/
def SpecDeclared (value : Json) : Prop :=
  ∀ item ∈ (fieldOf value "solutionElements").items,
    (fieldOf item "kind").isString = true ∧ (fieldOf item "estimatedCost").isString = true

/-- Each validator admits what its schema declares exactly on the values whose words are
texts and, for the goal verifier, whose sections are no longer than declared. -/
theorem admitted_iff_declared (value : Json) (goal : GoalContract) :
    (∀ bundle, validateSpecBundle value = .ok bundle →
      (Admitted specBundleOutputSchema validateSpecBundle SpecBundle.toJson bundle ↔
        SpecDeclared value)) ∧
    (∀ output, validateGoalVerifierOutput value goal = .ok output →
      (Admitted goalVerifierOutputSchema (fun value => validateGoalVerifierOutput value goal)
          GoalVerifierOutput.toJson output ↔ VerifierDeclared value)) ∧
    (∀ returned, validatePlannerClarificationOutput value = .ok returned →
      (Admitted plannerClarificationOutputSchema validatePlannerClarificationOutput id returned ↔
        PlannerDeclared value)) := by
  refine ⟨?_, ?_, ?_⟩
  · intro bundle haccepted
    have hchecked := validateSpecBundle_eq_ok.mp haccepted
    have hagain := validateSpecBundle_eq_ok.mpr hchecked.again
    rw [Admitted, and_iff_left hagain, hchecked.conforms_iff]
    obtain ⟨items, hitems, hall, -⟩ := hchecked.solutionElements
    unfold SpecDeclared
    rw [hitems]
    constructor
    · intro hstrings item hitem
      obtain ⟨element, helement, hmade⟩ := exists_right_of_forall₂ hall hitem
      rw [← hmade.kind.1, ← hmade.estimatedCost.1]
      exact hstrings element helement
    · intro hdeclared element helement
      obtain ⟨item, hitem, hmade⟩ := exists_left_of_forall₂ hall helement
      rw [hmade.kind.1, hmade.estimatedCost.1]
      exact hdeclared item hitem
  · intro output haccepted
    have hchecked := validateGoalVerifierOutput_eq_ok.mp haccepted
    have hagain := validateGoalVerifierOutput_eq_ok.mpr hchecked.again
    rw [Admitted, and_iff_left hagain, hchecked.conforms_iff]
  · intro returned haccepted
    obtain ⟨rfl, hchecked⟩ := plannerChecked_of_validate haccepted
    exact (and_iff_left haccepted).trans hchecked.conforms_iff

/-! ## A word that comes as a list -/

def clarification (basis : Json) : Json :=
  .object
    [(js "schemaVersion", .string plannerClarificationSchemaVersion),
      (js "knownFacts", .array
        [.object
          [(js "id", .string (js "fact-1")), (js "fact", .string (js "There is a goal")),
            (js "basis", basis)]]),
      (js "uncertainties", .array []), (js "questions", .array [])]

def anyGoal : GoalContract where
  id := js "goal"
  organizationId := js "organization"
  projectId := js "project"
  title := js "title"
  problemStatement := js "problem"
  desiredOutcome := js "outcome"
  acceptanceCriteria := []
  nonGoals := []
  constraints := []
  status := .verifying
  version := 1
  createdAt := 0
  updatedAt := 0

/-- A list that prints a declared word is admitted. -/
theorem not_admitted : ¬ ∀ (value : Json) (goal : GoalContract),
    (∀ bundle, validateSpecBundle value = .ok bundle →
      Admitted specBundleOutputSchema validateSpecBundle SpecBundle.toJson bundle) ∧
    (∀ output, validateGoalVerifierOutput value goal = .ok output →
      Admitted goalVerifierOutputSchema (fun value => validateGoalVerifierOutput value goal)
        GoalVerifierOutput.toJson output) ∧
    (∀ returned, validatePlannerClarificationOutput value = .ok returned →
      Admitted plannerClarificationOutputSchema validatePlannerClarificationOutput id
        returned) := by
  intro hall
  let listed := clarification (.array [.string (js "goal_contract")])
  have haccepted : validatePlannerClarificationOutput listed = .ok listed := by
    decide +kernel
  obtain ⟨hconforms, -⟩ := (hall listed anyGoal).2.2 listed haccepted
  revert hconforms
  decide +kernel

theorem admitted_iff_declared_text :
    Admitted plannerClarificationOutputSchema validatePlannerClarificationOutput id
      (clarification (.string (js "goal_contract"))) := by
  have haccepted : validatePlannerClarificationOutput
      (clarification (.string (js "goal_contract"))) =
      .ok (clarification (.string (js "goal_contract"))) := by
    decide +kernel
  refine ((admitted_iff_declared _ anyGoal).2.2 _ haccepted).mpr ⟨?_, ?_⟩
  · decide +kernel
  · decide +kernel

end DevHarness.ControlPlane
