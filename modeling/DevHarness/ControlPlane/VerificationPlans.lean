import DevHarness.ControlPlane.GoalVerification
import DevHarness.ControlPlane.IssuePlanBuild

/-!
# The verification plan service

`AcceptanceVerificationPlanService.compile` as a program, with the validation of
the draft: every criterion of the goal is covered by one entry, and every
reference of an entry is in the catalog.
-/

namespace DevHarness.ControlPlane

open JsText Interleave

def verificationPlanValidationError (message : JsString) : Thrown where
  name := js "AcceptanceVerificationPlanValidationError"
  message := message

def verificationPlanDraftSchemaVersion : JsString :=
  js "acceptance-verification-plan-draft.v1"

def planText (value : Json) (name : JsString) (maximum : ℕ) : Except Thrown JsString :=
  boundedText verificationPlanValidationError value name maximum

def environments : List (String × VerificationEnvironment) :=
  [("development", .development), ("test", .test), ("staging", .staging),
    ("production", .production)]

def environmentOf (value : Json) : Option VerificationEnvironment :=
  (environments.find? fun entry => value.isWord (js entry.1)).map Prod.snd

def referenceKinds : List (String × ReferenceKind) :=
  [("command", .command), ("query", .query), ("artifact", .artifact)]

/-- The kind that `String(type)` names. -/
def referenceKindOf (text : JsString) : Option ReferenceKind :=
  (referenceKinds.find? fun entry => text = js entry.1).map Prod.snd

/-- What `String` makes of a property that may be missing. -/
def stringOfProperty (value : Json) (name : String) : Except Thrown JsString :=
  match value.get (js name) with
  | some property => stringOf property
  | none => .ok (js "undefined")

def validateStrategy (value : Json) (name : JsString) : Except Thrown VerificationStrategy :=
  match value with
  | .object _ =>
    if (fieldOf value "type").isWord (js "manual") then do
      closedObject verificationPlanValidationError value name
        ["type", "instructions", "requiredRole"]
      require ((fieldOf value "requiredRole").isWord (js "approver"))
        (verificationPlanValidationError (name ++ js ".requiredRole must be approver"))
      let instructions ←
        planText (fieldOf value "instructions") (memberName name (js "instructions")) 4000
      pure (.manual instructions)
    else do
      let type ← stringOfProperty value "type"
      match referenceKindOf type with
      | some kind => do
        closedObject verificationPlanValidationError value name ["type", "reference"]
        let reference ←
          planText (fieldOf value "reference") (memberName name (js "reference")) 1000
        pure (.referenced kind reference)
      | none => .error (verificationPlanValidationError (name ++ js ".type is invalid"))
  | _ => .error (verificationPlanValidationError (name ++ js " is invalid"))

/-- `/^[a-z][a-z0-9-]*$/`. -/
def isEntryId (id : JsString) : Bool :=
  match id with
  | [] => false
  | first :: rest =>
    (0x61 ≤ first ∧ first ≤ 0x7A) ∧
      ∀ u ∈ rest, (0x61 ≤ u ∧ u ≤ 0x7A) ∨ (0x30 ≤ u ∧ u ≤ 0x39) ∨ u = 0x2D

/-- `/^(looks? good|seems? (fine|done)|done)$/i`. -/
def isVague (condition : JsString) : Bool :=
  condition.map asciiUpper ∈
    ["LOOK GOOD", "LOOKS GOOD", "SEEM FINE", "SEEMS FINE", "SEEM DONE", "SEEMS DONE",
      "DONE"].map js

def timeoutOf (value : Json) : Option ℕ :=
  match value with
  | .number (.safeInteger n _) => if 1 ≤ n ∧ n ≤ 86400000 then some n.toNat else none
  | _ => none

def validateEntry (index : ℕ) (value : Json) : Except Thrown AcceptanceVerificationEntry := do
  let name := itemName (js "entries") index
  let part (field : String) : JsString := memberName name (js field)
  closedObject verificationPlanValidationError value name
    ["id", "criterionRef", "environment", "strategy", "successCondition", "timeoutMs",
      "responsibleParty"]
  let id ← planText (fieldOf value "id") (part "id") 100
  require (isEntryId id) (verificationPlanValidationError (name ++ js ".id is invalid"))
  match environmentOf (fieldOf value "environment") with
  | none => .error (verificationPlanValidationError (name ++ js ".environment is invalid"))
  | some environment => do
    let successCondition ←
      planText (fieldOf value "successCondition") (part "successCondition") 2000
    require (!isVague successCondition)
      (verificationPlanValidationError (name ++ js ".successCondition must be deterministic"))
    match timeoutOf (fieldOf value "timeoutMs") with
    | none => .error (verificationPlanValidationError (name ++ js ".timeoutMs is invalid"))
    | some timeoutMs => do
      let criterionRef ← planText (fieldOf value "criterionRef") (part "criterionRef") 200
      let strategy ← validateStrategy (fieldOf value "strategy") (part "strategy")
      let responsibleParty ←
        planText (fieldOf value "responsibleParty") (part "responsibleParty") 200
      pure
        { id := id
          criterionRef := criterionRef
          environment := environment
          strategy := strategy
          successCondition := successCondition
          timeoutMs := timeoutMs
          responsibleParty := responsibleParty }

def validateAcceptanceVerificationPlanDraft (value : Json) :
    Except Thrown (List AcceptanceVerificationEntry) := do
  closedObject verificationPlanValidationError value (js "verificationPlan")
    ["schemaVersion", "entries"]
  require ((fieldOf value "schemaVersion").isWord verificationPlanDraftSchemaVersion)
    (verificationPlanValidationError
      (js "schemaVersion must be " ++ verificationPlanDraftSchemaVersion))
  let unbounded := verificationPlanValidationError (js "entries must be non-empty and bounded")
  match fieldOf value "entries" with
  | .array items => do
    require (decide (1 ≤ items.length ∧ items.length ≤ 50)) unbounded
    let entries ← mapIndexed validateEntry items
    require (decide (entries.map (·.id)).Nodup)
      (verificationPlanValidationError (js "entry IDs must be unique"))
    pure entries
  | _ => .error unbounded

/-! ## The service -/

structure CompilePlanCommand where
  scope : GoalScope
  issuePlanId : JsString
  expectedGoalVersion : ℤ
  expectedIssuePlanVersion : ℤ
  actorId : JsString
  draft : Json

structure CompileReads where
  goal : Option GoalContract
  issuePlan : Option IssuePlan
  latestIssuePlan : Option IssuePlan
  plans : List AcceptanceVerificationPlan
  references : VerificationReferenceCatalog

def CompileReads.none : CompileReads where
  goal := .none
  issuePlan := .none
  latestIssuePlan := .none
  plans := []
  references := { command := [], query := [], artifact := [] }

def compileRead (command : CompilePlanCommand) :
    Fin 5 → ControlProgram (CompileReads → CompileReads)
  | 0 => .read (.getGoal command.scope) fun found reads => { reads with goal := found }
  | 1 => .read (.getIssuePlan command.scope command.issuePlanId) fun found reads =>
      { reads with issuePlan := found }
  | 2 => .read (.getLatestIssuePlan command.scope) fun found reads =>
      { reads with latestIssuePlan := found }
  | 3 => .read (.listPlans command.scope) fun found reads => { reads with plans := found }
  | 4 => .read (.listReferences command.scope) fun found reads =>
      { reads with references := found }

def checkEligible (command : CompilePlanCommand) (reads : CompileReads) :
    Except Thrown (GoalContract × IssuePlan) :=
  let stale :=
    plainError (js "Goal or Issue plan is stale or not eligible for verification")
  match reads.goal, reads.issuePlan with
  | some goal, some issuePlan =>
    if goal.status ≠ .verifying ∨ (goal.version : ℤ) ≠ command.expectedGoalVersion ∨
        (issuePlan.version : ℤ) ≠ command.expectedIssuePlanVersion ∨
        reads.latestIssuePlan.map (·.id) ≠ some issuePlan.id ∨
        issuePlan.status ≠ .approved ∨ issuePlan.compilation.valid = false then
      .error stale
    else .ok (goal, issuePlan)
  | _, _ => .error stale

def VerificationReferenceCatalog.of (catalog : VerificationReferenceCatalog) :
    ReferenceKind → List JsString
  | .command => catalog.command
  | .query => catalog.query
  | .artifact => catalog.artifact

def ReferenceKind.name : ReferenceKind → String
  | .command => "command"
  | .query => "query"
  | .artifact => "artifact"

def knowsReference (catalog : VerificationReferenceCatalog)
    (entry : AcceptanceVerificationEntry) : Except Thrown Unit :=
  match entry.strategy with
  | .manual _ => .ok ()
  | .referenced kind reference =>
    require (decide (reference ∈ catalog.of kind))
      (verificationPlanValidationError
        (js ("unknown " ++ kind.name ++ " reference ") ++ reference))

def compiledPlan (command : CompilePlanCommand) (goal : GoalContract) (issuePlan : IssuePlan)
    (plans : List AcceptanceVerificationPlan) (entries : List AcceptanceVerificationEntry)
    (id : JsString) (compiledAt : ℕ) : AcceptanceVerificationPlan :=
  let previous := plans.getLast?
  { id := id
    organizationId := command.scope.organizationId
    projectId := command.scope.projectId
    goalId := command.scope.goalId
    goalVersion := goal.version
    issuePlanId := issuePlan.id
    issuePlanVersion := issuePlan.version
    revision := (previous.map (·.revision)).getD 0 + 1
    previousPlanId := previous.map (·.id)
    entries := entries
    compilation :=
      { valid := true
        coveredCriterionRefs := (goal.acceptanceCriteria.insertionSort fun left right =>
          left.position ≤ right.position).map (·.id) }
    digest := []
    compiledAt := compiledAt
    version := 1 }

def planEntries (command : CompilePlanCommand) (goal : GoalContract)
    (references : VerificationReferenceCatalog) :
    Except Thrown (List AcceptanceVerificationEntry) := do
  let entries ← validateAcceptanceVerificationPlanDraft command.draft
  require
    (decide (sorted (entries.map (·.criterionRef)) =
      sorted (goal.acceptanceCriteria.map (·.id))))
    (verificationPlanValidationError
      (js "every AcceptanceCriterion must be covered exactly once"))
  let _known ← mapIndexed (fun _ entry => knowsReference references entry) entries
  pure entries

/-- `compile`; the digest is a function of the rest of the plan. -/
def compilePlan (digest : AcceptanceVerificationPlan → JsString) (order : Equiv.Perm (Fin 5))
    (command : CompilePlanCommand) : ControlProgram AcceptanceVerificationPlan := do
  authorize command.actorId command.scope .goalVerify
  let reads ← Program.readAll order CompileReads.none (compileRead command)
  let eligible ← attempt (checkEligible command reads)
  let id ← await .newId
  let compiledAt ← await .clock
  let entries ← attempt (planEntries command eligible.1 reads.references)
  let plan := compiledPlan command eligible.1 eligible.2 reads.plans entries id compiledAt
  await (.appendPlan { plan with digest := digest plan })

end DevHarness.ControlPlane
