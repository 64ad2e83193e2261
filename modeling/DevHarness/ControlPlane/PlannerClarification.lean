import DevHarness.ControlPlane.Validation
import DevHarness.Text.Schema

/-!
# Clarifications of the planner

`validatePlannerClarificationOutput` collects the issues of an output and returns the
output itself when there are none.
-/

namespace DevHarness.ControlPlane

open JsText JsonSchema Sequence

def plannerClarificationSchemaVersion : JsString := js "planner-clarification.v1"

def knownFactBases : List String := ["goal_contract", "human_answer"]

def blockingLevels : List String := ["blocker", "high", "medium", "low"]

def answerTypes : List String := ["single_choice", "multiple_choice", "boolean", "text", "number"]

def identifierSchema : JsonSchema := .text 0

def boundedTextSchema : JsonSchema := .text 0

def plannerClarificationOutputSchema : JsonSchema :=
  closedOf
    [("schemaVersion", .oneOf [plannerClarificationSchemaVersion]),
      ("knownFacts", .list (closedOf
        [("id", identifierSchema), ("fact", boundedTextSchema),
          ("basis", .oneOf (knownFactBases.map js))]) none),
      ("uncertainties", .list (closedOf
        [("id", identifierSchema), ("statement", boundedTextSchema),
          ("impact", boundedTextSchema)]) none),
      ("questions", .list (closedOf
        [("id", identifierSchema), ("prompt", boundedTextSchema),
          ("rationale", boundedTextSchema), ("blockingLevel", .oneOf (blockingLevels.map js)),
          ("answerType", .oneOf (answerTypes.map js)),
          ("suggestedOptions", .list (.text 0) none)]) none)]

structure PlannerValidationIssue where
  path : JsString
  code : JsString
  deriving DecidableEq

/-- What validation throws: the issues of the output, or what `String` throws. -/
inductive PlannerThrown
  | invalid (issues : List PlannerValidationIssue)
  | thrown (error : Thrown)
  deriving DecidableEq

/-- One issue unless `ok`. -/
def issueUnless (ok : Bool) (path : JsString) (code : String) : List PlannerValidationIssue :=
  if ok then [] else [{ path := path, code := js code }]

/-- `inspectObject`, where the required fields are the allowed ones. -/
def inspectObject (value : Json) (path : JsString) (fields : List String) :
    List PlannerValidationIssue :=
  match value with
  | .object properties =>
    (fields.filter fun field => Json.property properties (js field) = none).map (fun field =>
      { path := memberName path (js field), code := js "required" }) ++
    (properties.filter fun p => p.1 ∉ fields.map js).map fun p =>
      { path := memberName path p.1, code := js "additional_property" }
  | _ => [{ path := path, code := js "type_object" }]

def inspectText (value : Json) (path : JsString) (maximum : ℕ) : List PlannerValidationIssue :=
  match value with
  | .string s => issueUnless (trim s ≠ [] && s.length ≤ maximum) path "bounded_string"
  | _ => issueUnless false path "bounded_string"

/-- `/^[a-z][a-z0-9_-]{0,63}$/`. -/
def isPlannerIdentifier : JsString → Bool
  | [] => false
  | u :: rest => (0x61 ≤ u ∧ u ≤ 0x7A) ∧ rest.length ≤ 63 ∧
      ∀ v ∈ rest, (0x61 ≤ v ∧ v ≤ 0x7A) ∨ (0x30 ≤ v ∧ v ≤ 0x39) ∨ v = 0x5F ∨ v = 0x2D

def inspectIdentifier (value : Json) (path : JsString) : List PlannerValidationIssue :=
  match value with
  | .string s => issueUnless (isPlannerIdentifier s) path "identifier"
  | _ => issueUnless false path "identifier"

def inspectArray (value : Json) (path : JsString) (maximum : ℕ) : List PlannerValidationIssue :=
  match value with
  | .array items => issueUnless (items.length ≤ maximum) path "max_items"
  | _ => issueUnless false path "type_array"

def idTexts (values : List Json) : List JsString :=
  values.filterMap fun value =>
    match value.get (js "id") with
    | some (.string id) => some id
    | _ => none

def inspectUniqueIds (values : List Json) (path : JsString) : List PlannerValidationIssue :=
  issueUnless (decide (idTexts values).Nodup) path "unique_ids"

/-- `set.has(String(value))`. -/
def inspectEnum (words : List String) (value : Json) (path : JsString) :
    Except Thrown (List PlannerValidationIssue) := do
  let allowed ← allows words value
  pure (issueUnless allowed path "enum")

def sameValueZero : Json → Json → Bool
  | .array _, _ => false
  | .object _, _ => false
  | a, b => a = b

def inspectFact (index : ℕ) (value : Json) : Except Thrown (List PlannerValidationIssue) :=
  let path := itemName (js "$.knownFacts") index
  let shape := inspectObject value path ["id", "fact", "basis"]
  match value with
  | .object _ => do
    let basis ← inspectEnum knownFactBases (fieldOf value "basis") (path ++ js ".basis")
    pure (shape ++ inspectIdentifier (fieldOf value "id") (path ++ js ".id") ++
      inspectText (fieldOf value "fact") (path ++ js ".fact") 4000 ++ basis)
  | _ => pure shape

def inspectUncertainty (index : ℕ) (value : Json) :
    Except Thrown (List PlannerValidationIssue) :=
  let path := itemName (js "$.uncertainties") index
  let shape := inspectObject value path ["id", "statement", "impact"]
  match value with
  | .object _ =>
    pure (shape ++ inspectIdentifier (fieldOf value "id") (path ++ js ".id") ++
      inspectText (fieldOf value "statement") (path ++ js ".statement") 4000 ++
      inspectText (fieldOf value "impact") (path ++ js ".impact") 4000)
  | _ => pure shape

def inspectOptions (value : Json) (path : JsString) : List PlannerValidationIssue :=
  inspectArray value path 12 ++
    (value.items.zipIdx.flatMap fun (option, index) =>
      inspectText option (itemName path index) 500) ++
    issueUnless (decide (value.items.Pairwise fun a b => sameValueZero a b = false)) path
      "unique_items"

def inspectQuestion (index : ℕ) (value : Json) : Except Thrown (List PlannerValidationIssue) :=
  let path := itemName (js "$.questions") index
  let shape := inspectObject value path
    ["id", "prompt", "rationale", "blockingLevel", "answerType", "suggestedOptions"]
  match value with
  | .object _ => do
    let level ← inspectEnum blockingLevels (fieldOf value "blockingLevel")
      (path ++ js ".blockingLevel")
    let answer ← inspectEnum answerTypes (fieldOf value "answerType") (path ++ js ".answerType")
    pure (shape ++ inspectIdentifier (fieldOf value "id") (path ++ js ".id") ++
      inspectText (fieldOf value "prompt") (path ++ js ".prompt") 4000 ++
      inspectText (fieldOf value "rationale") (path ++ js ".rationale") 4000 ++ level ++ answer ++
      inspectOptions (fieldOf value "suggestedOptions") (path ++ js ".suggestedOptions"))
  | _ => pure shape

def inspectSection (inspect : ℕ → Json → Except Thrown (List PlannerValidationIssue))
    (value : Json) (name : String) (maximum : ℕ) :
    Except Thrown (List PlannerValidationIssue) := do
  let path := js "$." ++ js name
  let list := fieldOf value name
  let items ← mapIndexed inspect list.items
  pure (inspectArray list path maximum ++ inspectUniqueIds list.items path ++ items.flatten)

def plannerIssues (value : Json) : Except Thrown (List PlannerValidationIssue) :=
  let shape := inspectObject value (js "$")
    ["schemaVersion", "knownFacts", "uncertainties", "questions"]
  match value with
  | .object _ => do
    let facts ← inspectSection inspectFact value "knownFacts" 50
    let uncertainties ← inspectSection inspectUncertainty value "uncertainties" 50
    let questions ← inspectSection inspectQuestion value "questions" 20
    pure (shape ++
      issueUnless ((fieldOf value "schemaVersion").isWord plannerClarificationSchemaVersion)
        (js "$.schemaVersion") "const" ++ facts ++ uncertainties ++ questions)
  | _ => pure shape

def validatePlannerClarificationOutput (value : Json) : Except PlannerThrown Json :=
  match plannerIssues value with
  | .error error => .error (.thrown error)
  | .ok [] => .ok value
  | .ok issues => .error (.invalid issues)

/-! ## What is accepted -/

structure FactChecked (value : Json) : Prop where
  fields : HasFields value ["id", "fact", "basis"]
  id : (fieldOf value "id").isString = true
  fact : (fieldOf value "fact").isString = true
  basis : Prints knownFactBases (fieldOf value "basis")

structure UncertaintyChecked (value : Json) : Prop where
  fields : HasFields value ["id", "statement", "impact"]
  id : (fieldOf value "id").isString = true
  statement : (fieldOf value "statement").isString = true
  impact : (fieldOf value "impact").isString = true

structure QuestionChecked (value : Json) : Prop where
  fields : HasFields value
    ["id", "prompt", "rationale", "blockingLevel", "answerType", "suggestedOptions"]
  id : (fieldOf value "id").isString = true
  prompt : (fieldOf value "prompt").isString = true
  rationale : (fieldOf value "rationale").isString = true
  blockingLevel : Prints blockingLevels (fieldOf value "blockingLevel")
  answerType : Prints answerTypes (fieldOf value "answerType")
  suggestedOptions : ∃ options, fieldOf value "suggestedOptions" = .array options ∧
    ∀ option ∈ options, option.isString = true

def ListChecked (Checked : Json → Prop) (value : Json) : Prop :=
  ∃ items, value = .array items ∧ ∀ item ∈ items, Checked item

/-- What an accepted output is made of. -/
structure PlannerChecked (value : Json) : Prop where
  fields : HasFields value ["schemaVersion", "knownFacts", "uncertainties", "questions"]
  schemaVersion : fieldOf value "schemaVersion" = .string plannerClarificationSchemaVersion
  knownFacts : ListChecked FactChecked (fieldOf value "knownFacts")
  uncertainties : ListChecked UncertaintyChecked (fieldOf value "uncertainties")
  questions : ListChecked QuestionChecked (fieldOf value "questions")

section Checks

variable {value : Json} {path : JsString} {fields words : List String} {maximum : ℕ} {index : ℕ}

theorem issueUnless_eq_nil {ok : Bool} {code : String} :
    issueUnless ok path code = [] ↔ ok = true := by
  unfold issueUnless
  by_cases hok : ok = true
  · simp [hok]
  · simp [hok]

theorem inspectObject_eq_nil : inspectObject value path fields = [] ↔ HasFields value fields := by
  unfold inspectObject HasFields
  cases value with
  | object properties =>
      simp only [List.append_eq_nil_iff, List.map_eq_nil_iff, List.filter_eq_nil_iff,
        decide_eq_true_eq, not_not, Json.object.injEq, exists_eq_left']
  | _ => simp

theorem isString_of_inspectText (h : inspectText value path maximum = []) :
    value.isString = true := by
  cases value with
  | string s => rfl
  | _ => simp [inspectText, issueUnless] at h

theorem isString_of_inspectIdentifier (h : inspectIdentifier value path = []) :
    value.isString = true := by
  cases value with
  | string s => rfl
  | _ => simp [inspectIdentifier, issueUnless] at h

theorem array_of_inspectArray (h : inspectArray value path maximum = []) :
    value = .array value.items := by
  cases value with
  | array items => rfl
  | _ => simp [inspectArray, issueUnless] at h

theorem inspectEnum_eq_ok_nil : inspectEnum words value path = .ok [] ↔ Prints words value := by
  rw [prints_iff]
  simp only [inspectEnum, bind_eq_ok]
  constructor
  · rintro ⟨allowed, hallows, h⟩
    rw [issueUnless_eq_nil.mp (Except.ok.inj h)] at hallows
    exact hallows
  · intro hallows
    exact ⟨true, hallows, rfl⟩

theorem strings_of_inspectOptions (h : inspectOptions value path = []) :
    ∃ options, value = .array options ∧ ∀ option ∈ options, option.isString = true := by
  simp only [inspectOptions, List.append_eq_nil_iff, List.flatMap_eq_nil_iff] at h
  obtain ⟨⟨harray, hoptions⟩, -⟩ := h
  refine ⟨value.items, array_of_inspectArray harray, ?_⟩
  intro option hoption
  obtain ⟨index, hindex, rfl⟩ := List.mem_iff_getElem.mp hoption
  have hmem : (value.items[index], index) ∈ value.items.zipIdx :=
    List.mk_mem_zipIdx_iff_getElem?.mpr (List.getElem?_eq_getElem hindex)
  exact isString_of_inspectText (hoptions _ hmem)

theorem factChecked_of_inspectFact (h : inspectFact index value = .ok []) : FactChecked value := by
  cases value with
  | object properties =>
      obtain ⟨basis, hbasis, h⟩ := bind_eq_ok.mp h
      have hnil := Except.ok.inj h
      simp only [List.append_eq_nil_iff, inspectObject_eq_nil] at hnil
      obtain ⟨⟨⟨hfields, hid⟩, hfact⟩, rfl⟩ := hnil
      exact ⟨hfields, isString_of_inspectIdentifier hid, isString_of_inspectText hfact,
        inspectEnum_eq_ok_nil.mp hbasis⟩
  | _ => cases h

theorem uncertaintyChecked_of_inspectUncertainty (h : inspectUncertainty index value = .ok []) :
    UncertaintyChecked value := by
  cases value with
  | object properties =>
      have hnil := Except.ok.inj h
      simp only [List.append_eq_nil_iff, inspectObject_eq_nil] at hnil
      obtain ⟨⟨⟨hfields, hid⟩, hstatement⟩, himpact⟩ := hnil
      exact ⟨hfields, isString_of_inspectIdentifier hid, isString_of_inspectText hstatement,
        isString_of_inspectText himpact⟩
  | _ => cases h

theorem questionChecked_of_inspectQuestion (h : inspectQuestion index value = .ok []) :
    QuestionChecked value := by
  cases value with
  | object properties =>
      obtain ⟨level, hlevel, h⟩ := bind_eq_ok.mp h
      obtain ⟨answer, hanswer, h⟩ := bind_eq_ok.mp h
      have hnil := Except.ok.inj h
      simp only [List.append_eq_nil_iff, inspectObject_eq_nil] at hnil
      obtain ⟨⟨⟨⟨⟨⟨hfields, hid⟩, hprompt⟩, hrationale⟩, rfl⟩, rfl⟩, hoptions⟩ := hnil
      exact ⟨hfields, isString_of_inspectIdentifier hid, isString_of_inspectText hprompt,
        isString_of_inspectText hrationale, inspectEnum_eq_ok_nil.mp hlevel,
        inspectEnum_eq_ok_nil.mp hanswer, strings_of_inspectOptions hoptions⟩
  | _ => cases h

theorem listChecked_of_inspectSection {name : String} {Checked : Json → Prop}
    {inspect : ℕ → Json → Except Thrown (List PlannerValidationIssue)}
    (hchecked : ∀ index item, inspect index item = .ok [] → Checked item)
    (h : inspectSection inspect value name maximum = .ok []) :
    ListChecked Checked (fieldOf value name) := by
  obtain ⟨issues, hissues, h⟩ := bind_eq_ok.mp h
  have hnil := Except.ok.inj h
  simp only [List.append_eq_nil_iff, List.flatten_eq_nil_iff] at hnil
  obtain ⟨⟨harray, -⟩, hnone⟩ := hnil
  refine ⟨_, array_of_inspectArray harray, fun item hitem => ?_⟩
  obtain ⟨found, hfound, index, hindex⟩ :=
    exists_right_of_forall₂ (forall₂_of_mapIndexed hissues) hitem
  rw [hnone found hfound] at hindex
  exact hchecked index item hindex

theorem plannerChecked_of_validate {returned : Json}
    (h : validatePlannerClarificationOutput value = .ok returned) :
    returned = value ∧ PlannerChecked value := by
  unfold validatePlannerClarificationOutput at h
  split at h
  · cases h
  · next hissues =>
    refine ⟨(Except.ok.inj h).symm, ?_⟩
    cases value with
    | object properties =>
        obtain ⟨facts, hfacts, hrest⟩ := bind_eq_ok.mp hissues
        obtain ⟨uncertainties, huncertainties, hrest⟩ := bind_eq_ok.mp hrest
        obtain ⟨questions, hquestions, hrest⟩ := bind_eq_ok.mp hrest
        have hnil := Except.ok.inj hrest
        simp only [List.append_eq_nil_iff, inspectObject_eq_nil, issueUnless_eq_nil,
          Json.isWord_iff] at hnil
        obtain ⟨⟨⟨⟨hfields, hversion⟩, rfl⟩, rfl⟩, rfl⟩ := hnil
        exact
          { fields := hfields
            schemaVersion := hversion
            knownFacts := listChecked_of_inspectSection
              (fun _ _ => factChecked_of_inspectFact) hfacts
            uncertainties := listChecked_of_inspectSection
              (fun _ _ => uncertaintyChecked_of_inspectUncertainty) huncertainties
            questions := listChecked_of_inspectSection
              (fun _ _ => questionChecked_of_inspectQuestion) hquestions }
    | _ => cases hissues
  · cases h

end Checks

end DevHarness.ControlPlane
