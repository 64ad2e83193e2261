import DevHarness.ControlPlane.Records
import DevHarness.ControlPlane.Validation
import DevHarness.Text.Schema

/-!
# The output of the goal verifier

`validateGoalVerifierOutput` turns whatever the verifier returned into a
`GoalVerifierOutput`, or throws, and `derivedVerdict` condenses it together with
the deterministic results.  Verdicts are checked after `String(value)`; those of
non-goals and constraints are stored as that text, the others as received.
-/

namespace DevHarness.ControlPlane

open JsText

def contractError (message : JsString) : Thrown where
  name := js "GoalVerifierContractError"
  message := message

def goalVerifierOutputSchemaVersion : JsString := js "goal-verifier-output.v1"

def verifierObject (value : Json) (name : JsString) (keys : List String) :
    Except Thrown Unit :=
  match value with
  | .object properties =>
    if (∃ p ∈ properties, p.1 ∉ keys.map js) ∨
        ∃ key ∈ keys, Json.property properties (js key) = none then
      .error (contractError (name ++ js " has an invalid shape"))
    else .ok ()
  | _ => .error (contractError (name ++ js " must be an object"))

def verifierText (value : Json) (name : JsString) (maximum : ℕ) : Except Thrown JsString :=
  boundedText contractError value name maximum

def verifierTexts (value : Json) (name : JsString) : Except Thrown (List JsString) :=
  match value with
  | .array items =>
    if 500 < items.length then
      .error (contractError (name ++ js " must be a bounded list"))
    else do
      let result ← mapIndexed
        (fun index item => verifierText item (itemName name index) 1000) items
      require (decide result.Nodup) (contractError (name ++ js " contains duplicates"))
      pure result
  | _ => .error (contractError (name ++ js " must be a bounded list"))

def criterionVerdicts : List String := ["passed", "failed", "needs_manual"]

def nonGoalVerdicts : List String := ["preserved", "violated", "unknown"]

def constraintVerdicts : List String := ["satisfied", "violated", "unknown"]

def riskSeverities : List String := ["low", "medium", "high", "critical"]

def validateCriterion (index : ℕ) (value : Json) : Except Thrown CriterionVerdict := do
  let name := itemName (js "criteria") index
  verifierObject value name ["criterionRef", "verdict", "evidenceRefs", "rationale"]
  let allowed ← allows criterionVerdicts (fieldOf value "verdict")
  require allowed (contractError (name ++ js ".verdict is invalid"))
  let criterionRef ← verifierText (fieldOf value "criterionRef") (name ++ js ".criterionRef") 200
  let evidenceRefs ← verifierTexts (fieldOf value "evidenceRefs") (name ++ js ".evidenceRefs")
  let rationale ← verifierText (fieldOf value "rationale") (name ++ js ".rationale") 8000
  pure
    { criterionRef := criterionRef
      verdict := fieldOf value "verdict"
      evidenceRefs := evidenceRefs
      rationale := rationale }

def validateBoundary (part : String) (words : List String) (index : ℕ) (value : Json) :
    Except Thrown BoundaryVerdict := do
  let name := itemName (js part) index
  verifierObject value name ["statement", "verdict", "rationale"]
  let allowed ← allows words (fieldOf value "verdict")
  require allowed (contractError (name ++ js ".verdict is invalid"))
  let statement ← verifierText (fieldOf value "statement") (name ++ js ".statement") 2000
  let verdict ← stringOf (fieldOf value "verdict")
  let rationale ← verifierText (fieldOf value "rationale") (name ++ js ".rationale") 8000
  pure { statement := statement, verdict := verdict, rationale := rationale }

def validateRegressionRisk (index : ℕ) (value : Json) : Except Thrown RegressionRisk := do
  let name := itemName (js "regressionRisks") index
  verifierObject value name ["severity", "description", "evidenceRefs"]
  let allowed ← allows riskSeverities (fieldOf value "severity")
  require allowed (contractError (name ++ js ".severity is invalid"))
  let description ← verifierText (fieldOf value "description") (name ++ js ".description") 8000
  let evidenceRefs ← verifierTexts (fieldOf value "evidenceRefs") (name ++ js ".evidenceRefs")
  pure
    { severity := fieldOf value "severity"
      description := description
      evidenceRefs := evidenceRefs }

def sectionItems (value : Json) (name : String) : Except Thrown (List Json) :=
  match fieldOf value name with
  | .array items => .ok items
  | _ => .error (contractError (js "Verifier sections must be arrays"))

def boundary (part : String) (words : List String) (items : List Json)
    (expected : List JsString) : Except Thrown (List BoundaryVerdict) := do
  let verdicts ← mapIndexed (validateBoundary part words) items
  require (decide (sorted (verdicts.map (·.statement)) = sorted expected))
    (contractError (js part ++ js " coverage is incomplete"))
  pure verdicts

def validateGoalVerifierOutput (value : Json) (goal : GoalContract) :
    Except Thrown GoalVerifierOutput := do
  verifierObject value (js "verifierOutput")
    ["schemaVersion", "overallVerdict", "criteria", "nonGoals", "constraints",
      "regressionRisks"]
  let invalid := contractError (js "Verifier schema version or verdict is invalid")
  require ((fieldOf value "schemaVersion").isWord goalVerifierOutputSchemaVersion) invalid
  let allowed ← allows criterionVerdicts (fieldOf value "overallVerdict")
  require allowed invalid
  let criterionItems ← sectionItems value "criteria"
  let nonGoalItems ← sectionItems value "nonGoals"
  let constraintItems ← sectionItems value "constraints"
  let riskItems ← sectionItems value "regressionRisks"
  let criteria ← mapIndexed validateCriterion criterionItems
  require
    (decide (sorted (criteria.map (·.criterionRef)) =
      sorted (goal.acceptanceCriteria.map (·.id))))
    (contractError (js "Verifier must return exactly one verdict per AcceptanceCriterion"))
  let nonGoals ← boundary "nonGoals" nonGoalVerdicts nonGoalItems goal.nonGoals
  let constraints ← boundary "constraints" constraintVerdicts constraintItems goal.constraints
  let regressionRisks ← mapIndexed validateRegressionRisk riskItems
  pure
    { overallVerdict := fieldOf value "overallVerdict"
      criteria := criteria
      nonGoals := nonGoals
      constraints := constraints
      regressionRisks := regressionRisks }

/-! ## The declared schema -/

def verifierTextSchema : JsonSchema := .text 1

def evidenceRefsSchema : JsonSchema := .list verifierTextSchema (some 500)

def criterionSchema : JsonSchema :=
  .closedOf
    [("criterionRef", verifierTextSchema), ("verdict", .oneOf (criterionVerdicts.map js)),
      ("evidenceRefs", evidenceRefsSchema), ("rationale", verifierTextSchema)]

def boundarySchema (words : List String) : JsonSchema :=
  .closedOf
    [("statement", verifierTextSchema), ("verdict", .oneOf (words.map js)),
      ("rationale", verifierTextSchema)]

def regressionRiskSchema : JsonSchema :=
  .closedOf
    [("severity", .oneOf (riskSeverities.map js)), ("description", verifierTextSchema),
      ("evidenceRefs", evidenceRefsSchema)]

def goalVerifierOutputSchema : JsonSchema :=
  .closedOf
    [("schemaVersion", .oneOf [goalVerifierOutputSchemaVersion]),
      ("overallVerdict", .oneOf (criterionVerdicts.map js)),
      ("criteria", .list criterionSchema (some 50)),
      ("nonGoals", .list (boundarySchema nonGoalVerdicts) (some 50)),
      ("constraints", .list (boundarySchema constraintVerdicts) (some 50)),
      ("regressionRisks", .list regressionRiskSchema (some 100))]

def CriterionVerdict.toJson (criterion : CriterionVerdict) : Json :=
  .object
    [(js "criterionRef", .string criterion.criterionRef), (js "verdict", criterion.verdict),
      (js "evidenceRefs", .array (criterion.evidenceRefs.map .string)),
      (js "rationale", .string criterion.rationale)]

def BoundaryVerdict.toJson (boundary : BoundaryVerdict) : Json :=
  .object
    [(js "statement", .string boundary.statement), (js "verdict", .string boundary.verdict),
      (js "rationale", .string boundary.rationale)]

def RegressionRisk.toJson (risk : RegressionRisk) : Json :=
  .object
    [(js "severity", risk.severity), (js "description", .string risk.description),
      (js "evidenceRefs", .array (risk.evidenceRefs.map .string))]

def GoalVerifierOutput.toJson (output : GoalVerifierOutput) : Json :=
  .object
    [(js "schemaVersion", .string goalVerifierOutputSchemaVersion),
      (js "overallVerdict", output.overallVerdict),
      (js "criteria", .array (output.criteria.map CriterionVerdict.toJson)),
      (js "nonGoals", .array (output.nonGoals.map BoundaryVerdict.toJson)),
      (js "constraints", .array (output.constraints.map BoundaryVerdict.toJson)),
      (js "regressionRisks", .array (output.regressionRisks.map RegressionRisk.toJson))]

def derivedVerdict (deterministic : List DeterministicVerificationResult)
    (output : GoalVerifierOutput) : CriterionVerificationVerdict :=
  if deterministic.any (fun result => result.status = js "failed") ||
      output.overallVerdict.isWord (js "failed") ||
      output.criteria.any (fun criterion => criterion.verdict.isWord (js "failed")) ||
      output.nonGoals.any (fun nonGoal => nonGoal.verdict = js "violated") ||
      output.constraints.any (fun bound => bound.verdict = js "violated") then
    .failed
  else if deterministic.any (fun result => result.status = js "needs_manual") ||
      output.overallVerdict.isWord (js "needs_manual") ||
      output.criteria.any (fun criterion => criterion.verdict.isWord (js "needs_manual")) ||
      output.nonGoals.any (fun nonGoal => nonGoal.verdict = js "unknown") ||
      output.constraints.any (fun bound => bound.verdict = js "unknown") then
    .needsManual
  else .passed

/-! ## What an accepted output is made of -/

/-- A verdict on a boundary is the text of the verdict that was received. -/
structure BoundaryVerdict.Reflects (words : List String) (item : Json)
    (boundary : BoundaryVerdict) : Prop where
  printed : (fieldOf item "verdict").toText = some boundary.verdict
  allowed : boundary.verdict ∈ words.map js

/-- A verdict on a criterion is the one that was received. -/
structure CriterionVerdict.Reflects (item : Json) (criterion : CriterionVerdict) : Prop where
  received : criterion.verdict = fieldOf item "verdict"
  printed : Prints criterionVerdicts criterion.verdict

/-- An accepted output, section by section, against what the verifier returned
and against the goal. -/
structure GoalVerifierOutput.Reflects (value : Json) (goal : GoalContract)
    (output : GoalVerifierOutput) : Prop where
  overall : output.overallVerdict = fieldOf value "overallVerdict"
  overallPrinted : Prints criterionVerdicts output.overallVerdict
  criteria : List.Forall₂ CriterionVerdict.Reflects (fieldOf value "criteria").items
    output.criteria
  criteriaCovered : (output.criteria.map (·.criterionRef)).Perm
    (goal.acceptanceCriteria.map (·.id))
  nonGoals : List.Forall₂ (BoundaryVerdict.Reflects nonGoalVerdicts)
    (fieldOf value "nonGoals").items output.nonGoals
  nonGoalsCovered : (output.nonGoals.map (·.statement)).Perm goal.nonGoals
  constraints : List.Forall₂ (BoundaryVerdict.Reflects constraintVerdicts)
    (fieldOf value "constraints").items output.constraints
  constraintsCovered : (output.constraints.map (·.statement)).Perm goal.constraints

section Accepted

variable {value : Json} {goal : GoalContract} {output : GoalVerifierOutput} {index : ℕ}
  {words : List String} {part : String} {items : List Json}

theorem reflects_of_validateCriterion {criterion : CriterionVerdict}
    (h : validateCriterion index value = .ok criterion) : criterion.Reflects value := by
  obtain ⟨_, -, h⟩ := bind_eq_ok.mp h
  obtain ⟨allowed, hallows, h⟩ := bind_eq_ok.mp h
  obtain ⟨_, hrequire, h⟩ := bind_eq_ok.mp h
  obtain ⟨criterionRef, -, h⟩ := bind_eq_ok.mp h
  obtain ⟨evidenceRefs, -, h⟩ := bind_eq_ok.mp h
  obtain ⟨rationale, -, h⟩ := bind_eq_ok.mp h
  obtain rfl := Except.ok.inj h
  exact ⟨rfl, prints_of_allows hallows hrequire⟩

theorem reflects_of_validateBoundary {boundary : BoundaryVerdict}
    (h : validateBoundary part words index value = .ok boundary) :
    boundary.Reflects words value := by
  obtain ⟨_, -, h⟩ := bind_eq_ok.mp h
  obtain ⟨allowed, hallows, h⟩ := bind_eq_ok.mp h
  obtain ⟨_, hrequire, h⟩ := bind_eq_ok.mp h
  obtain ⟨statement, -, h⟩ := bind_eq_ok.mp h
  obtain ⟨verdict, hverdict, h⟩ := bind_eq_ok.mp h
  obtain ⟨rationale, -, h⟩ := bind_eq_ok.mp h
  obtain rfl := Except.ok.inj h
  have hprinted := stringOf_eq_ok.mp hverdict
  obtain ⟨word, hword, htext⟩ := prints_of_allows hallows hrequire
  rw [hprinted] at htext
  exact ⟨hprinted, List.mem_map.mpr ⟨word, hword, (Option.some.inj htext).symm⟩⟩

theorem reflects_of_boundary {expected : List JsString} {verdicts : List BoundaryVerdict}
    (h : boundary part words items expected = .ok verdicts) :
    List.Forall₂ (BoundaryVerdict.Reflects words) items verdicts ∧
      (verdicts.map (·.statement)).Perm expected := by
  obtain ⟨mapped, hmapped, h⟩ := bind_eq_ok.mp h
  obtain ⟨_, hrequire, h⟩ := bind_eq_ok.mp h
  obtain rfl := Except.ok.inj h
  constructor
  · exact (forall₂_of_mapIndexed hmapped).imp fun item verdict ⟨_, hitem⟩ =>
      reflects_of_validateBoundary hitem
  · have hsorted := require_eq_ok.mp hrequire
    rw [decide_eq_true_eq] at hsorted
    exact perm_of_sorted_eq hsorted

theorem items_of_sectionItems {name : String} (h : sectionItems value name = .ok items) :
    (fieldOf value name).items = items := by
  unfold sectionItems at h
  split at h
  · next array harray =>
    rw [harray]
    exact Except.ok.inj h
  · cases h

theorem reflects_of_validateGoalVerifierOutput
    (h : validateGoalVerifierOutput value goal = .ok output) : output.Reflects value goal := by
  obtain ⟨_, -, h⟩ := bind_eq_ok.mp h
  obtain ⟨_, -, h⟩ := bind_eq_ok.mp h
  obtain ⟨allowed, hallows, h⟩ := bind_eq_ok.mp h
  obtain ⟨_, hrequire, h⟩ := bind_eq_ok.mp h
  obtain ⟨criterionItems, hcriterionItems, h⟩ := bind_eq_ok.mp h
  obtain ⟨nonGoalItems, hnonGoalItems, h⟩ := bind_eq_ok.mp h
  obtain ⟨constraintItems, hconstraintItems, h⟩ := bind_eq_ok.mp h
  obtain ⟨riskItems, -, h⟩ := bind_eq_ok.mp h
  obtain ⟨criteria, hcriteria, h⟩ := bind_eq_ok.mp h
  obtain ⟨_, hcovered, h⟩ := bind_eq_ok.mp h
  obtain ⟨nonGoals, hnonGoals, h⟩ := bind_eq_ok.mp h
  obtain ⟨constraints, hconstraints, h⟩ := bind_eq_ok.mp h
  obtain ⟨regressionRisks, -, h⟩ := bind_eq_ok.mp h
  obtain rfl := Except.ok.inj h
  have hsorted := require_eq_ok.mp hcovered
  rw [decide_eq_true_eq] at hsorted
  rw [← items_of_sectionItems hcriterionItems] at hcriteria
  rw [← items_of_sectionItems hnonGoalItems] at hnonGoals
  rw [← items_of_sectionItems hconstraintItems] at hconstraints
  exact
    { overall := rfl
      overallPrinted := prints_of_allows hallows hrequire
      criteria := (forall₂_of_mapIndexed hcriteria).imp fun item criterion ⟨_, hitem⟩ =>
        reflects_of_validateCriterion hitem
      criteriaCovered := perm_of_sorted_eq hsorted
      nonGoals := (reflects_of_boundary hnonGoals).1
      nonGoalsCovered := (reflects_of_boundary hnonGoals).2
      constraints := (reflects_of_boundary hconstraints).1
      constraintsCovered := (reflects_of_boundary hconstraints).2 }

/-- The verdict is `passed` when nothing speaks against it in the words that the
cascade looks for. -/
theorem derivedVerdict_eq_passed_iff {deterministic : List DeterministicVerificationResult} :
    derivedVerdict deterministic output = .passed ↔
      (∀ result ∈ deterministic,
        result.status ≠ js "failed" ∧ result.status ≠ js "needs_manual") ∧
      (output.overallVerdict.isWord (js "failed") = false ∧
        output.overallVerdict.isWord (js "needs_manual") = false) ∧
      (∀ criterion ∈ output.criteria, criterion.verdict.isWord (js "failed") = false ∧
        criterion.verdict.isWord (js "needs_manual") = false) ∧
      (∀ nonGoal ∈ output.nonGoals,
        nonGoal.verdict ≠ js "violated" ∧ nonGoal.verdict ≠ js "unknown") ∧
      ∀ bound ∈ output.constraints,
        bound.verdict ≠ js "violated" ∧ bound.verdict ≠ js "unknown" := by
  unfold derivedVerdict
  split
  · next hfailed =>
    simp only [Bool.or_eq_true, List.any_eq_true, decide_eq_true_eq] at hfailed
    grind
  · next hfailed =>
    simp only [Bool.or_eq_true, List.any_eq_true, decide_eq_true_eq, not_or, not_exists,
      not_and, Bool.not_eq_true] at hfailed
    split
    · next hmanual =>
      simp only [Bool.or_eq_true, List.any_eq_true, decide_eq_true_eq] at hmanual
      grind
    · next hmanual =>
      simp only [Bool.or_eq_true, List.any_eq_true, decide_eq_true_eq, not_or, not_exists,
        not_and, Bool.not_eq_true] at hmanual
      grind

end Accepted

end DevHarness.ControlPlane
