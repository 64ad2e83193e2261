import DevHarness.ControlPlane.Validation
import DevHarness.Text.Schema

/-!
# Spec bundles

`validateSpecBundle` and the closed schema declared beside it.  The kind and the cost of a
solution element are checked after `String(value)` and returned as received.
-/

namespace DevHarness.ControlPlane

open JsText JsonSchema

def specBundleSchemaVersion : JsString := js "spec-bundle.v1"

structure SpecProposal where
  summary : JsString
  value : JsString
  inScope : List JsString
  outOfScope : List JsString
  deliverySlices : List JsString
  deriving DecidableEq

structure SpecRequirement where
  id : JsString
  statement : JsString
  acceptanceCriterionRefs : List JsString
  deriving DecidableEq

structure SpecPrd where
  problem : JsString
  users : List JsString
  requirements : List SpecRequirement
  nonGoals : List JsString
  constraints : List JsString
  deriving DecidableEq

structure SpecComponent where
  id : JsString
  name : JsString
  responsibility : JsString
  requirementRefs : List JsString
  deriving DecidableEq

structure SpecArchitecture where
  summary : JsString
  components : List SpecComponent
  decisions : List JsString
  deriving DecidableEq

structure SpecMigration where
  required : Bool
  steps : List JsString
  verification : List JsString
  deriving DecidableEq

structure SpecRollback where
  triggers : List JsString
  steps : List JsString
  dataRecovery : JsString
  deriving DecidableEq

structure SpecSolutionElement where
  id : JsString
  title : JsString
  kind : Json
  description : JsString
  acceptanceCriterionRefs : List JsString
  constraintRefs : List JsString
  estimatedCost : Json
  removalImpact : JsString
  evidence : List JsString
  deriving DecidableEq

/-- A spec bundle of the version that is supported. -/
structure SpecBundle where
  proposal : SpecProposal
  prd : SpecPrd
  architecture : SpecArchitecture
  migration : SpecMigration
  rollback : SpecRollback
  solutionElements : List SpecSolutionElement
  deriving DecidableEq

/-! ## As JSON -/

def textsJson (list : List JsString) : Json :=
  .array (list.map .string)

def SpecProposal.toJson (proposal : SpecProposal) : Json :=
  .object
    [(js "summary", .string proposal.summary), (js "value", .string proposal.value),
      (js "inScope", textsJson proposal.inScope),
      (js "outOfScope", textsJson proposal.outOfScope),
      (js "deliverySlices", textsJson proposal.deliverySlices)]

def SpecRequirement.toJson (requirement : SpecRequirement) : Json :=
  .object
    [(js "id", .string requirement.id), (js "statement", .string requirement.statement),
      (js "acceptanceCriterionRefs", textsJson requirement.acceptanceCriterionRefs)]

def SpecPrd.toJson (prd : SpecPrd) : Json :=
  .object
    [(js "problem", .string prd.problem), (js "users", textsJson prd.users),
      (js "requirements", .array (prd.requirements.map SpecRequirement.toJson)),
      (js "nonGoals", textsJson prd.nonGoals), (js "constraints", textsJson prd.constraints)]

def SpecComponent.toJson (component : SpecComponent) : Json :=
  .object
    [(js "id", .string component.id), (js "name", .string component.name),
      (js "responsibility", .string component.responsibility),
      (js "requirementRefs", textsJson component.requirementRefs)]

def SpecArchitecture.toJson (architecture : SpecArchitecture) : Json :=
  .object
    [(js "summary", .string architecture.summary),
      (js "components", .array (architecture.components.map SpecComponent.toJson)),
      (js "decisions", textsJson architecture.decisions)]

def SpecMigration.toJson (migration : SpecMigration) : Json :=
  .object
    [(js "required", .bool migration.required), (js "steps", textsJson migration.steps),
      (js "verification", textsJson migration.verification)]

def SpecRollback.toJson (rollback : SpecRollback) : Json :=
  .object
    [(js "triggers", textsJson rollback.triggers), (js "steps", textsJson rollback.steps),
      (js "dataRecovery", .string rollback.dataRecovery)]

def SpecSolutionElement.toJson (element : SpecSolutionElement) : Json :=
  .object
    [(js "id", .string element.id), (js "title", .string element.title),
      (js "kind", element.kind), (js "description", .string element.description),
      (js "acceptanceCriterionRefs", textsJson element.acceptanceCriterionRefs),
      (js "constraintRefs", textsJson element.constraintRefs),
      (js "estimatedCost", element.estimatedCost),
      (js "removalImpact", .string element.removalImpact),
      (js "evidence", textsJson element.evidence)]

def SpecBundle.toJson (bundle : SpecBundle) : Json :=
  .object
    [(js "schemaVersion", .string specBundleSchemaVersion),
      (js "proposal", bundle.proposal.toJson), (js "prd", bundle.prd.toJson),
      (js "architecture", bundle.architecture.toJson),
      (js "migration", bundle.migration.toJson), (js "rollback", bundle.rollback.toJson),
      (js "solutionElements", .array (bundle.solutionElements.map SpecSolutionElement.toJson))]

/-! ## The schema -/

def specText : JsonSchema := .text 1

def specTexts : JsonSchema := .list specText none

def solutionElementKinds : List String := ["architecture", "migration", "product", "rollback"]

def estimatedCosts : List String := ["low", "medium", "high"]

def proposalSchema : JsonSchema :=
  closedOf
    [("summary", specText), ("value", specText), ("inScope", specTexts),
      ("outOfScope", specTexts), ("deliverySlices", specTexts)]

def requirementSchema : JsonSchema :=
  closedOf
    [("id", specText), ("statement", specText), ("acceptanceCriterionRefs", specTexts)]

def prdSchema : JsonSchema :=
  closedOf
    [("problem", specText), ("users", specTexts),
      ("requirements", .list requirementSchema none), ("nonGoals", specTexts),
      ("constraints", specTexts)]

def componentSchema : JsonSchema :=
  closedOf
    [("id", specText), ("name", specText), ("responsibility", specText),
      ("requirementRefs", specTexts)]

def architectureSchema : JsonSchema :=
  closedOf
    [("summary", specText), ("components", .list componentSchema none),
      ("decisions", specTexts)]

def migrationSchema : JsonSchema :=
  closedOf [("required", .boolean), ("steps", specTexts), ("verification", specTexts)]

def rollbackSchema : JsonSchema :=
  closedOf [("triggers", specTexts), ("steps", specTexts), ("dataRecovery", specText)]

def solutionElementSchema : JsonSchema :=
  closedOf
    [("id", specText), ("title", specText), ("kind", .oneOf (solutionElementKinds.map js)),
      ("description", specText), ("acceptanceCriterionRefs", specTexts),
      ("constraintRefs", specTexts), ("estimatedCost", .oneOf (estimatedCosts.map js)),
      ("removalImpact", specText), ("evidence", specTexts)]

def specBundleOutputSchema : JsonSchema :=
  closedOf
    [("schemaVersion", .oneOf [specBundleSchemaVersion]), ("proposal", proposalSchema),
      ("prd", prdSchema), ("architecture", architectureSchema), ("migration", migrationSchema),
      ("rollback", rollbackSchema), ("solutionElements", .list solutionElementSchema none)]

/-! ## Validation -/

def specBundleValidationError (message : JsString) : Thrown where
  name := js "SpecBundleValidationError"
  message := message

/-- `record` and `exactKeys`. -/
def exactRecord (value : Json) (path : JsString) (keys : List String) : Except Thrown Unit :=
  match value with
  | .object properties =>
    if sorted (properties.map Prod.fst) = sorted (keys.map js) then .ok ()
    else .error (specBundleValidationError (path ++ js " contains missing or unknown fields"))
  | _ => .error (specBundleValidationError (path ++ js " must be an object"))

/-- `boundedText`. -/
def specBoundedText (value : Json) (path : JsString) (maximum : ℕ) : Except Thrown JsString :=
  match value with
  | .string s =>
    if trim s = [] ∨ maximum < (trim s).length then
      .error (specBundleValidationError (path ++ js " must be non-blank and bounded"))
    else .ok (trim s)
  | _ => .error (specBundleValidationError (path ++ js " must be text"))

def specItems (value : Json) (path : JsString) : Except Thrown (List Json) :=
  match value with
  | .array items => .ok items
  | _ => .error (specBundleValidationError (path ++ js " must be a list"))

/-- `textList`: between `minimum` and 100 texts. -/
def textList (value : Json) (path : JsString) (minimum : ℕ) : Except Thrown (List JsString) := do
  let items ← specItems value path
  require (minimum ≤ items.length && items.length ≤ 100)
    (specBundleValidationError (path ++ js " has an invalid item count"))
  let normalized ← mapIndexed (fun index item => specBoundedText item (itemName path index) 4000)
    items
  require (decide normalized.Nodup)
    (specBundleValidationError (path ++ js " contains duplicates"))
  pure normalized

def ensureIds (ids : List JsString) (path : JsString) : Except Thrown Unit :=
  require (decide ids.Nodup) (specBundleValidationError (path ++ js " contains duplicate ids"))

/-- A word that is checked as `String(value)` and returned as received. -/
def specWord (words : List String) (value : Json) (path : JsString) : Except Thrown Json := do
  let allowed ← allows words value
  require allowed (specBundleValidationError (path ++ js " is invalid"))
  pure value

def validateRequirement (index : ℕ) (item : Json) : Except Thrown SpecRequirement := do
  let path := itemName (js "spec.prd.requirements") index
  exactRecord item path ["id", "statement", "acceptanceCriterionRefs"]
  let id ← specBoundedText (fieldOf item "id") (path ++ js ".id") 64
  let statement ← specBoundedText (fieldOf item "statement") (path ++ js ".statement") 4000
  let acceptanceCriterionRefs ←
    textList (fieldOf item "acceptanceCriterionRefs") (path ++ js ".acceptanceCriterionRefs") 1
  pure
    { id := id
      statement := statement
      acceptanceCriterionRefs := acceptanceCriterionRefs }

def validateComponent (index : ℕ) (item : Json) : Except Thrown SpecComponent := do
  let path := itemName (js "spec.architecture.components") index
  exactRecord item path ["id", "name", "responsibility", "requirementRefs"]
  let id ← specBoundedText (fieldOf item "id") (path ++ js ".id") 64
  let name ← specBoundedText (fieldOf item "name") (path ++ js ".name") 200
  let responsibility ←
    specBoundedText (fieldOf item "responsibility") (path ++ js ".responsibility") 4000
  let requirementRefs ←
    textList (fieldOf item "requirementRefs") (path ++ js ".requirementRefs") 1
  pure
    { id := id
      name := name
      responsibility := responsibility
      requirementRefs := requirementRefs }

def validateSolutionElement (index : ℕ) (item : Json) : Except Thrown SpecSolutionElement := do
  let path := itemName (js "spec.solutionElements") index
  exactRecord item path
    ["id", "title", "kind", "description", "acceptanceCriterionRefs", "constraintRefs",
      "estimatedCost", "removalImpact", "evidence"]
  let kind ← specWord solutionElementKinds (fieldOf item "kind") (path ++ js ".kind")
  let estimatedCost ←
    specWord estimatedCosts (fieldOf item "estimatedCost") (path ++ js ".estimatedCost")
  let id ← specBoundedText (fieldOf item "id") (path ++ js ".id") 64
  let title ← specBoundedText (fieldOf item "title") (path ++ js ".title") 300
  let description ← specBoundedText (fieldOf item "description") (path ++ js ".description") 4000
  let acceptanceCriterionRefs ←
    textList (fieldOf item "acceptanceCriterionRefs") (path ++ js ".acceptanceCriterionRefs") 0
  let constraintRefs ← textList (fieldOf item "constraintRefs") (path ++ js ".constraintRefs") 0
  let removalImpact ←
    specBoundedText (fieldOf item "removalImpact") (path ++ js ".removalImpact") 4000
  let evidence ← textList (fieldOf item "evidence") (path ++ js ".evidence") 0
  pure
    { id := id
      title := title
      kind := kind
      description := description
      acceptanceCriterionRefs := acceptanceCriterionRefs
      constraintRefs := constraintRefs
      estimatedCost := estimatedCost
      removalImpact := removalImpact
      evidence := evidence }

def ensureReferences (requirements : List SpecRequirement) (components : List SpecComponent) :
    Except Thrown Unit :=
  match components.find? fun component =>
      component.requirementRefs.any fun id => id ∉ requirements.map (·.id) with
  | some component =>
    .error (specBundleValidationError
      (js "component " ++ component.id ++ js " references an unknown requirement"))
  | none => .ok ()

/-- `migration.required`, once the record has been checked. -/
def requiredFlag (value : Json) : Except Thrown Bool :=
  match value with
  | .bool required => .ok required
  | _ => .error (specBundleValidationError (js "spec.migration.required must be boolean"))

def validateProposal (proposal : Json) : Except Thrown SpecProposal := do
  let summary ← specBoundedText (fieldOf proposal "summary") (js "spec.proposal.summary") 20000
  let value ← specBoundedText (fieldOf proposal "value") (js "spec.proposal.value") 20000
  let inScope ← textList (fieldOf proposal "inScope") (js "spec.proposal.inScope") 1
  let outOfScope ← textList (fieldOf proposal "outOfScope") (js "spec.proposal.outOfScope") 0
  let deliverySlices ←
    textList (fieldOf proposal "deliverySlices") (js "spec.proposal.deliverySlices") 1
  pure
    { summary := summary
      value := value
      inScope := inScope
      outOfScope := outOfScope
      deliverySlices := deliverySlices }

def validatePrd (prd : Json) (requirements : List SpecRequirement) : Except Thrown SpecPrd := do
  let problem ← specBoundedText (fieldOf prd "problem") (js "spec.prd.problem") 20000
  let users ← textList (fieldOf prd "users") (js "spec.prd.users") 1
  let nonGoals ← textList (fieldOf prd "nonGoals") (js "spec.prd.nonGoals") 0
  let constraints ← textList (fieldOf prd "constraints") (js "spec.prd.constraints") 0
  pure
    { problem := problem
      users := users
      requirements := requirements
      nonGoals := nonGoals
      constraints := constraints }

def validateArchitecture (architecture : Json) (components : List SpecComponent) :
    Except Thrown SpecArchitecture := do
  let summary ←
    specBoundedText (fieldOf architecture "summary") (js "spec.architecture.summary") 20000
  let decisions ← textList (fieldOf architecture "decisions") (js "spec.architecture.decisions") 1
  pure { summary := summary, components := components, decisions := decisions }

def validateMigration (migration : Json) (required : Bool) : Except Thrown SpecMigration := do
  let minimum := if required then 1 else 0
  let steps ← textList (fieldOf migration "steps") (js "spec.migration.steps") minimum
  let verification ←
    textList (fieldOf migration "verification") (js "spec.migration.verification") minimum
  pure { required := required, steps := steps, verification := verification }

def validateRollback (rollback : Json) : Except Thrown SpecRollback := do
  let triggers ← textList (fieldOf rollback "triggers") (js "spec.rollback.triggers") 1
  let steps ← textList (fieldOf rollback "steps") (js "spec.rollback.steps") 1
  let dataRecovery ←
    specBoundedText (fieldOf rollback "dataRecovery") (js "spec.rollback.dataRecovery") 20000
  pure { triggers := triggers, steps := steps, dataRecovery := dataRecovery }

def validateSpecBundle (value : Json) : Except Thrown SpecBundle := do
  exactRecord value (js "spec")
    ["schemaVersion", "proposal", "prd", "architecture", "migration", "rollback",
      "solutionElements"]
  require ((fieldOf value "schemaVersion").isWord specBundleSchemaVersion)
    (specBundleValidationError (js "spec.schemaVersion is unsupported"))
  let proposalRecord := fieldOf value "proposal"
  exactRecord proposalRecord (js "spec.proposal")
    ["summary", "value", "inScope", "outOfScope", "deliverySlices"]
  let prdRecord := fieldOf value "prd"
  exactRecord prdRecord (js "spec.prd")
    ["problem", "users", "requirements", "nonGoals", "constraints"]
  let requirementItems ←
    specItems (fieldOf prdRecord "requirements") (js "spec.prd.requirements")
  let requirements ← mapIndexed validateRequirement requirementItems
  ensureIds (requirements.map (·.id)) (js "spec.prd.requirements")
  let architectureRecord := fieldOf value "architecture"
  exactRecord architectureRecord (js "spec.architecture") ["summary", "components", "decisions"]
  let componentItems ←
    specItems (fieldOf architectureRecord "components") (js "spec.architecture.components")
  let components ← mapIndexed validateComponent componentItems
  ensureIds (components.map (·.id)) (js "spec.architecture.components")
  let migrationRecord := fieldOf value "migration"
  exactRecord migrationRecord (js "spec.migration") ["required", "steps", "verification"]
  let required ← requiredFlag (fieldOf migrationRecord "required")
  let rollbackRecord := fieldOf value "rollback"
  exactRecord rollbackRecord (js "spec.rollback") ["triggers", "steps", "dataRecovery"]
  let elementItems ← specItems (fieldOf value "solutionElements") (js "spec.solutionElements")
  let solutionElements ← mapIndexed validateSolutionElement elementItems
  ensureIds (solutionElements.map (·.id)) (js "spec.solutionElements")
  ensureReferences requirements components
  let proposal ← validateProposal proposalRecord
  let prd ← validatePrd prdRecord requirements
  let architecture ← validateArchitecture architectureRecord components
  let migration ← validateMigration migrationRecord required
  let rollback ← validateRollback rollbackRecord
  pure
    { proposal := proposal
      prd := prd
      architecture := architecture
      migration := migration
      rollback := rollback
      solutionElements := solutionElements }

/-! ## What is accepted -/

/-- A record with exactly the given keys. -/
def HasKeys (value : Json) (keys : List String) : Prop :=
  ∃ properties, value = .object properties ∧
    sorted (properties.map Prod.fst) = sorted (keys.map js)

/-- The texts of a list: distinct, and between `minimum` and 100. -/
def BoundedTexts (value : Json) (minimum : ℕ) (list : List JsString) : Prop :=
  ∃ items, value = .array items ∧ minimum ≤ items.length ∧ items.length ≤ 100 ∧
    List.Forall₂ (fun item s => BoundedText item 4000 s) items list ∧ list.Nodup

structure SpecRequirement.Checked (item : Json) (requirement : SpecRequirement) : Prop where
  keys : HasKeys item ["id", "statement", "acceptanceCriterionRefs"]
  id : BoundedText (fieldOf item "id") 64 requirement.id
  statement : BoundedText (fieldOf item "statement") 4000 requirement.statement
  acceptanceCriterionRefs : BoundedTexts (fieldOf item "acceptanceCriterionRefs") 1
    requirement.acceptanceCriterionRefs

structure SpecComponent.Checked (item : Json) (component : SpecComponent) : Prop where
  keys : HasKeys item ["id", "name", "responsibility", "requirementRefs"]
  id : BoundedText (fieldOf item "id") 64 component.id
  name : BoundedText (fieldOf item "name") 200 component.name
  responsibility : BoundedText (fieldOf item "responsibility") 4000 component.responsibility
  requirementRefs : BoundedTexts (fieldOf item "requirementRefs") 1 component.requirementRefs

structure SpecSolutionElement.Checked (item : Json) (element : SpecSolutionElement) : Prop where
  keys : HasKeys item
    ["id", "title", "kind", "description", "acceptanceCriterionRefs", "constraintRefs",
      "estimatedCost", "removalImpact", "evidence"]
  kind : element.kind = fieldOf item "kind" ∧ Prints solutionElementKinds element.kind
  estimatedCost : element.estimatedCost = fieldOf item "estimatedCost" ∧
    Prints estimatedCosts element.estimatedCost
  id : BoundedText (fieldOf item "id") 64 element.id
  title : BoundedText (fieldOf item "title") 300 element.title
  description : BoundedText (fieldOf item "description") 4000 element.description
  acceptanceCriterionRefs : BoundedTexts (fieldOf item "acceptanceCriterionRefs") 0
    element.acceptanceCriterionRefs
  constraintRefs : BoundedTexts (fieldOf item "constraintRefs") 0 element.constraintRefs
  removalImpact : BoundedText (fieldOf item "removalImpact") 4000 element.removalImpact
  evidence : BoundedTexts (fieldOf item "evidence") 0 element.evidence

structure SpecProposal.Checked (item : Json) (proposal : SpecProposal) : Prop where
  keys : HasKeys item ["summary", "value", "inScope", "outOfScope", "deliverySlices"]
  summary : BoundedText (fieldOf item "summary") 20000 proposal.summary
  value : BoundedText (fieldOf item "value") 20000 proposal.value
  inScope : BoundedTexts (fieldOf item "inScope") 1 proposal.inScope
  outOfScope : BoundedTexts (fieldOf item "outOfScope") 0 proposal.outOfScope
  deliverySlices : BoundedTexts (fieldOf item "deliverySlices") 1 proposal.deliverySlices

def CheckedRecords {α : Type} (Checked : Json → α → Prop) (idOf : α → JsString) (value : Json)
    (records : List α) : Prop :=
  ∃ items, value = .array items ∧ List.Forall₂ Checked items records ∧
    (records.map idOf).Nodup

structure SpecPrd.Checked (value : Json) (prd : SpecPrd) : Prop where
  keys : HasKeys value ["problem", "users", "requirements", "nonGoals", "constraints"]
  problem : BoundedText (fieldOf value "problem") 20000 prd.problem
  users : BoundedTexts (fieldOf value "users") 1 prd.users
  requirements : CheckedRecords SpecRequirement.Checked SpecRequirement.id
    (fieldOf value "requirements") prd.requirements
  nonGoals : BoundedTexts (fieldOf value "nonGoals") 0 prd.nonGoals
  constraints : BoundedTexts (fieldOf value "constraints") 0 prd.constraints

structure SpecArchitecture.Checked (value : Json) (architecture : SpecArchitecture) : Prop where
  keys : HasKeys value ["summary", "components", "decisions"]
  summary : BoundedText (fieldOf value "summary") 20000 architecture.summary
  components : CheckedRecords SpecComponent.Checked SpecComponent.id
    (fieldOf value "components") architecture.components
  decisions : BoundedTexts (fieldOf value "decisions") 1 architecture.decisions

structure SpecMigration.Checked (value : Json) (migration : SpecMigration) : Prop where
  keys : HasKeys value ["required", "steps", "verification"]
  required : fieldOf value "required" = .bool migration.required
  steps : BoundedTexts (fieldOf value "steps") (if migration.required then 1 else 0)
    migration.steps
  verification : BoundedTexts (fieldOf value "verification")
    (if migration.required then 1 else 0) migration.verification

structure SpecRollback.Checked (value : Json) (rollback : SpecRollback) : Prop where
  keys : HasKeys value ["triggers", "steps", "dataRecovery"]
  triggers : BoundedTexts (fieldOf value "triggers") 1 rollback.triggers
  steps : BoundedTexts (fieldOf value "steps") 1 rollback.steps
  dataRecovery : BoundedText (fieldOf value "dataRecovery") 20000 rollback.dataRecovery

/-- What `validateSpecBundle` has checked of a value, and the bundle it has made of it. -/
structure SpecBundle.Checked (value : Json) (bundle : SpecBundle) : Prop where
  keys : HasKeys value
    ["schemaVersion", "proposal", "prd", "architecture", "migration", "rollback",
      "solutionElements"]
  schemaVersion : fieldOf value "schemaVersion" = .string specBundleSchemaVersion
  proposal : bundle.proposal.Checked (fieldOf value "proposal")
  prd : bundle.prd.Checked (fieldOf value "prd")
  architecture : bundle.architecture.Checked (fieldOf value "architecture")
  migration : bundle.migration.Checked (fieldOf value "migration")
  rollback : bundle.rollback.Checked (fieldOf value "rollback")
  solutionElements : CheckedRecords SpecSolutionElement.Checked SpecSolutionElement.id
    (fieldOf value "solutionElements") bundle.solutionElements
  references : ∀ component ∈ bundle.architecture.components, ∀ id ∈ component.requirementRefs,
    id ∈ bundle.prd.requirements.map (·.id)

section Checks

variable {value item : Json} {path s : JsString} {keys words : List String}
  {minimum maximum index : ℕ} {list : List JsString} {u : Unit}

theorem exactRecord_eq_ok : exactRecord value path keys = .ok u ↔ HasKeys value keys := by
  unfold exactRecord HasKeys
  cases value with
  | object properties =>
      by_cases hkeys : sorted (properties.map Prod.fst) = sorted (keys.map js)
      · simp [hkeys]
      · simp [hkeys]
  | _ => simp

theorem specBoundedText_eq_ok :
    specBoundedText value path maximum = .ok s ↔ BoundedText value maximum s := by
  unfold BoundedText
  cases value with
  | string t =>
      simp only [specBoundedText, ite_error_eq_ok, not_or, not_lt, Except.ok.injEq,
        Json.string.injEq]
      constructor
      · rintro ⟨⟨hne, hlen⟩, rfl⟩
        exact ⟨t, rfl, rfl, hne, hlen⟩
      · rintro ⟨t', rfl, rfl, hne, hlen⟩
        exact ⟨⟨hne, hlen⟩, rfl⟩
  | _ => simp [specBoundedText]

theorem specItems_eq_ok {items : List Json} :
    specItems value path = .ok items ↔ value = .array items := by
  unfold specItems
  cases value with
  | array items' => simp
  | _ => simp

theorem textList_eq_ok :
    textList value path minimum = .ok list ↔ BoundedTexts value minimum list := by
  have hitem : ∀ index item s, specBoundedText item (itemName path index) 4000 = .ok s ↔
      BoundedText item 4000 s := fun _ _ _ => specBoundedText_eq_ok
  simp only [textList, bind_eq_ok, specItems_eq_ok, require_eq_ok, Bool.and_eq_true,
    decide_eq_true_eq]
  constructor
  · rintro ⟨items, hvalue, _, ⟨hminimum, hmaximum⟩, normalized, hmap, _, hnodup, h⟩
    obtain rfl := Except.ok.inj h
    exact ⟨items, hvalue, hminimum, hmaximum, (mapIndexed_eq_ok_iff hitem).mp hmap, hnodup⟩
  · rintro ⟨items, hvalue, hminimum, hmaximum, hall, hnodup⟩
    exact ⟨items, hvalue, (), ⟨hminimum, hmaximum⟩, list, (mapIndexed_eq_ok_iff hitem).mpr hall, (), hnodup,
      rfl⟩

theorem ensureIds_eq_ok {ids : List JsString} : ensureIds ids path = .ok u ↔ ids.Nodup := by
  unfold ensureIds
  rw [require_eq_ok, decide_eq_true_eq]

theorem specWord_eq_ok {word : Json} : specWord words value path = .ok word ↔
    word = value ∧ Prints words word := by
  simp only [specWord, bind_eq_ok, require_eq_ok]
  constructor
  · rintro ⟨allowed, hallows, _, rfl, h⟩
    obtain rfl := Except.ok.inj h
    exact ⟨rfl, prints_iff.mpr hallows⟩
  · rintro ⟨rfl, hprints⟩
    exact ⟨true, prints_iff.mp hprints, (), rfl, rfl⟩

theorem requiredFlag_eq_ok {required : Bool} :
    requiredFlag value = .ok required ↔ value = .bool required := by
  unfold requiredFlag
  cases value with
  | bool b => simp
  | _ => simp

theorem ensureReferences_eq_ok {requirements : List SpecRequirement}
    {components : List SpecComponent} : ensureReferences requirements components = .ok u ↔
      ∀ component ∈ components, ∀ id ∈ component.requirementRefs,
        id ∈ requirements.map (·.id) := by
  unfold ensureReferences
  split
  · next component hfind =>
    have hany := List.find?_some hfind
    obtain ⟨id, hid, hunknown⟩ := List.any_eq_true.mp hany
    constructor
    · nofun
    · intro hall
      exact absurd (hall component (List.mem_of_find?_eq_some hfind) id hid)
        (of_decide_eq_true hunknown)
  · next hfind =>
    constructor
    · intro _ component hcomponent id hid
      have hnone := List.find?_eq_none.mp hfind component hcomponent
      by_contra hunknown
      exact hnone (List.any_eq_true.mpr ⟨id, hid, decide_eq_true hunknown⟩)
    · intro _
      rfl

theorem validateRequirement_eq_ok {requirement : SpecRequirement} :
    validateRequirement index item = .ok requirement ↔ requirement.Checked item := by
  simp only [validateRequirement, bind_eq_ok, exactRecord_eq_ok, specBoundedText_eq_ok,
    textList_eq_ok]
  constructor
  · rintro ⟨_, hkeys, id, hid, statement, hstatement, refs, hrefs, h⟩
    obtain rfl := Except.ok.inj h
    exact ⟨hkeys, hid, hstatement, hrefs⟩
  · rintro ⟨hkeys, hid, hstatement, hrefs⟩
    exact ⟨(), hkeys, _, hid, _, hstatement, _, hrefs, rfl⟩

theorem validateComponent_eq_ok {component : SpecComponent} :
    validateComponent index item = .ok component ↔ component.Checked item := by
  simp only [validateComponent, bind_eq_ok, exactRecord_eq_ok, specBoundedText_eq_ok,
    textList_eq_ok]
  constructor
  · rintro ⟨_, hkeys, id, hid, name, hname, responsibility, hresponsibility, refs, hrefs, h⟩
    obtain rfl := Except.ok.inj h
    exact ⟨hkeys, hid, hname, hresponsibility, hrefs⟩
  · rintro ⟨hkeys, hid, hname, hresponsibility, hrefs⟩
    exact ⟨(), hkeys, _, hid, _, hname, _, hresponsibility, _, hrefs, rfl⟩

theorem validateSolutionElement_eq_ok {element : SpecSolutionElement} :
    validateSolutionElement index item = .ok element ↔ element.Checked item := by
  simp only [validateSolutionElement, bind_eq_ok, exactRecord_eq_ok, specBoundedText_eq_ok,
    textList_eq_ok, specWord_eq_ok]
  constructor
  · rintro ⟨_, hkeys, kind, hkind, cost, hcost, id, hid, title, htitle, description,
      hdescription, refs, hrefs, constraints, hconstraints, impact, himpact, evidence,
      hevidence, h⟩
    obtain rfl := Except.ok.inj h
    exact ⟨hkeys, hkind, hcost, hid, htitle, hdescription, hrefs, hconstraints, himpact,
      hevidence⟩
  · rintro ⟨hkeys, hkind, hcost, hid, htitle, hdescription, hrefs, hconstraints, himpact,
      hevidence⟩
    exact ⟨(), hkeys, _, hkind, _, hcost, _, hid, _, htitle, _, hdescription, _, hrefs, _,
      hconstraints, _, himpact, _, hevidence, rfl⟩

theorem validateSpecBundle_eq_ok {bundle : SpecBundle} :
    validateSpecBundle value = .ok bundle ↔ bundle.Checked value := by
  have hrequirement : ∀ index item requirement,
      validateRequirement index item = .ok requirement ↔ requirement.Checked item :=
    fun _ _ _ => validateRequirement_eq_ok
  have hcomponent : ∀ index item component,
      validateComponent index item = .ok component ↔ component.Checked item :=
    fun _ _ _ => validateComponent_eq_ok
  have helement : ∀ index item element,
      validateSolutionElement index item = .ok element ↔ element.Checked item :=
    fun _ _ _ => validateSolutionElement_eq_ok
  simp only [validateSpecBundle, validateProposal, validatePrd, validateArchitecture,
    validateMigration, validateRollback, bind_eq_ok, exactRecord_eq_ok, specBoundedText_eq_ok,
    textList_eq_ok, specItems_eq_ok, ensureIds_eq_ok, requiredFlag_eq_ok, ensureReferences_eq_ok,
    require_eq_ok, Json.isWord_iff, mapIndexed_eq_ok_iff hrequirement,
    mapIndexed_eq_ok_iff hcomponent, mapIndexed_eq_ok_iff helement]
  clear hrequirement hcomponent helement
  constructor
  · rintro ⟨_, hkeys, _, hversion, _, hproposalKeys, _, hprdKeys, requirementItems,
      hrequirementItems, requirements, hrequirement, _, hrequirementIds, _, harchitectureKeys,
      componentItems, hcomponentItems, components, hcomponent, _, hcomponentIds, _,
      hmigrationKeys, required, hrequired, _, hrollbackKeys, elementItems, helementItems,
      elements, helement, _, helementIds, _, hreferences, proposal, hproposal, prd, hprd,
      architecture, harchitecture, migration, hmigration, rollback, hrollback, h⟩
    obtain rfl := Except.ok.inj h
    obtain ⟨summary, hsummary, worth, hworth, inScope, hinScope, outOfScope, houtOfScope,
      slices, hslices, h⟩ := hproposal
    obtain rfl := Except.ok.inj h
    obtain ⟨problem, hproblem, users, husers, nonGoals, hnonGoals, constraints, hconstraints,
      h⟩ := hprd
    obtain rfl := Except.ok.inj h
    obtain ⟨overview, hoverview, decisions, hdecisions, h⟩ := harchitecture
    obtain rfl := Except.ok.inj h
    obtain ⟨steps, hsteps, verification, hverification, h⟩ := hmigration
    obtain rfl := Except.ok.inj h
    obtain ⟨triggers, htriggers, undo, hundo, recovery, hrecovery, h⟩ := hrollback
    obtain rfl := Except.ok.inj h
    exact
      { keys := hkeys
        schemaVersion := hversion
        proposal := ⟨hproposalKeys, hsummary, hworth, hinScope, houtOfScope, hslices⟩
        prd := ⟨hprdKeys, hproblem, husers,
          ⟨requirementItems, hrequirementItems, hrequirement, hrequirementIds⟩, hnonGoals,
          hconstraints⟩
        architecture := ⟨harchitectureKeys, hoverview,
          ⟨componentItems, hcomponentItems, hcomponent, hcomponentIds⟩, hdecisions⟩
        migration := ⟨hmigrationKeys, hrequired, hsteps, hverification⟩
        rollback := ⟨hrollbackKeys, htriggers, hundo, hrecovery⟩
        solutionElements := ⟨elementItems, helementItems, helement, helementIds⟩
        references := hreferences }
  · rintro ⟨hkeys, hversion, hproposal, hprd, harchitecture, hmigration, hrollback,
      ⟨elementItems, helementItems, helement, helementIds⟩, hreferences⟩
    obtain ⟨requirementItems, hrequirementItems, hrequirement, hrequirementIds⟩ :=
      hprd.requirements
    obtain ⟨componentItems, hcomponentItems, hcomponent, hcomponentIds⟩ :=
      harchitecture.components
    exact ⟨(), hkeys, (), hversion, (), hproposal.keys, (), hprd.keys, requirementItems,
      hrequirementItems, _, hrequirement, (), hrequirementIds, (), harchitecture.keys,
      componentItems, hcomponentItems, _, hcomponent, (), hcomponentIds, (), hmigration.keys, _,
      hmigration.required, (), hrollback.keys, elementItems, helementItems, _, helement, (),
      helementIds, (), hreferences,
      _, ⟨_, hproposal.summary, _, hproposal.value, _, hproposal.inScope, _,
        hproposal.outOfScope, _, hproposal.deliverySlices, rfl⟩,
      _, ⟨_, hprd.problem, _, hprd.users, _, hprd.nonGoals, _, hprd.constraints, rfl⟩,
      _, ⟨_, harchitecture.summary, _, harchitecture.decisions, rfl⟩,
      _, ⟨_, hmigration.steps, _, hmigration.verification, rfl⟩,
      _, ⟨_, hrollback.triggers, _, hrollback.steps, _, hrollback.dataRecovery, rfl⟩, rfl⟩

end Checks

end DevHarness.ControlPlane
