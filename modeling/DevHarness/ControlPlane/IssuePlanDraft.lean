import DevHarness.ControlPlane.Records
import DevHarness.ControlPlane.Validation

/-!
# Issue plan drafts

`validateIssuePlanDraft`: what a planner or a person submits becomes a list of
issues, or is refused with the path of what is wrong.
-/

namespace DevHarness.ControlPlane

open JsText

def issuePlanValidationError (message : JsString) : Thrown where
  name := js "IssuePlanValidationError"
  message := message

def issuePlanDraftSchemaVersion : JsString := js "issue-plan-draft.v1"

/-- `stringValue`. -/
def issueText (value : Json) (name : JsString) (maximum : ℕ) : Except Thrown JsString :=
  boundedText issuePlanValidationError value name maximum

/-- `stringArray`: distinct texts of at most 2000 units. -/
def issueTexts (value : Json) (name : JsString) (maximum : ℕ) : Except Thrown (List JsString) :=
  match value with
  | .array items =>
    if maximum < items.length then
      .error (issuePlanValidationError (name ++ js " must be a bounded string array"))
    else do
      let result ← mapIndexed (fun index item => issueText item (itemName name index) 2000) items
      require (decide result.Nodup)
        (issuePlanValidationError (name ++ js " must not contain duplicates"))
      pure result
  | _ => .error (issuePlanValidationError (name ++ js " must be a bounded string array"))

/-- `/^[A-Z][A-Z0-9-]*$/`. -/
def isIssueKey (key : JsString) : Bool :=
  match key with
  | [] => false
  | first :: rest =>
    (0x41 ≤ first ∧ first ≤ 0x5A) ∧
      ∀ u ∈ rest, (0x41 ≤ u ∧ u ≤ 0x5A) ∨ (0x30 ≤ u ∧ u ≤ 0x39) ∨ u = 0x2D

def validateAcceptance (name : JsString) (index : ℕ) (item : Json) :
    Except Thrown IssueAcceptance := do
  let path := itemName (memberName name (js "acceptance")) index
  closedObject issuePlanValidationError item path ["criterionRef", "statement"]
  let criterionRef ←
    issueText (fieldOf item "criterionRef") (memberName path (js "criterionRef")) 100
  let statement ← issueText (fieldOf item "statement") (memberName path (js "statement")) 4000
  pure { criterionRef := criterionRef, statement := statement }

/-- A list of a record, of at most `maximum` items; the message says `what` it
must be. -/
def boundedItems (value : Json) (name : JsString) (minimum maximum : ℕ) (what : String) :
    Except Thrown (List Json) :=
  match value with
  | .array items =>
    if items.length < minimum ∨ maximum < items.length then
      .error (issuePlanValidationError (name ++ js what))
    else .ok items
  | _ => .error (issuePlanValidationError (name ++ js what))

def validateConflictResources (value : Json) (name : JsString) :
    Except Thrown IssueConflictResources := do
  closedObject issuePlanValidationError value name
    ["directories", "publicInterfaces", "databaseObjects", "sharedConfigurations",
      "landingOrder"]
  let claims (part : String) : Except Thrown (List JsString) :=
    issueTexts (fieldOf value part) (memberName name (js part)) 100
  let directories ← claims "directories"
  let publicInterfaces ← claims "publicInterfaces"
  let databaseObjects ← claims "databaseObjects"
  let sharedConfigurations ← claims "sharedConfigurations"
  let landingOrder ← claims "landingOrder"
  pure
    { directories := directories
      publicInterfaces := publicInterfaces
      databaseObjects := databaseObjects
      sharedConfigurations := sharedConfigurations
      landingOrder := landingOrder }

def evidenceKinds : List (String × CompletionEvidenceKind) :=
  [("artifact", .artifact), ("test", .test), ("review", .review), ("commit", .commit),
    ("push", .push), ("audit", .audit)]

def evidenceKindOf (value : Json) : Option CompletionEvidenceKind :=
  (evidenceKinds.find? fun entry => value.isWord (js entry.1)).map Prod.snd

def validateEvidence (name : JsString) (index : ℕ) (item : Json) :
    Except Thrown CompletionEvidenceRequirement := do
  let path := itemName (memberName name (js "completionEvidence")) index
  closedObject issuePlanValidationError item path ["kind", "description", "required"]
  match evidenceKindOf (fieldOf item "kind"), fieldOf item "required" with
  | some kind, .bool required => do
    let description ←
      issueText (fieldOf item "description") (memberName path (js "description")) 2000
    pure { kind := kind, description := description, required := required }
  | _, _ => .error (issuePlanValidationError (path ++ js " is invalid"))

def requiredContext (goal : JsString) (requirementRefs : List JsString)
    (acceptance : List IssueAcceptance) (nonGoals expectedFiles : List JsString) :
    List JsString :=
  goal :: requirementRefs ++ acceptance.map (·.criterionRef) ++ acceptance.map (·.statement) ++
    nonGoals ++ expectedFiles

def validateIssue (index : ℕ) (value : Json) : Except Thrown IssueDraft := do
  let name := itemName (js "issues") index
  let part (field : String) : JsString := memberName name (js field)
  closedObject issuePlanValidationError value name
    ["key", "title", "goal", "requirementRefs", "acceptance", "nonGoals",
      "dependencyCandidates", "expectedFiles", "conflictResources", "developmentPrompt",
      "verify", "completionEvidence"]
  let key ← issueText (fieldOf value "key") (part "key") 64
  require (isIssueKey key) (issuePlanValidationError (name ++ js ".key has an invalid format"))
  let title ← issueText (fieldOf value "title") (part "title") 300
  let goal ← issueText (fieldOf value "goal") (part "goal") 4000
  let requirementRefs ←
    issueTexts (fieldOf value "requirementRefs") (part "requirementRefs") 100
  let acceptanceItems ← boundedItems (fieldOf value "acceptance") (part "acceptance") 0 200
    " must be a bounded array"
  let acceptance ← mapIndexed (validateAcceptance name) acceptanceItems
  require (decide (acceptance.map (·.criterionRef)).Nodup)
    (issuePlanValidationError (name ++ js ".acceptance contains duplicate criterion refs"))
  let nonGoals ← issueTexts (fieldOf value "nonGoals") (part "nonGoals") 100
  let dependencyCandidates ←
    issueTexts (fieldOf value "dependencyCandidates") (part "dependencyCandidates") 100
  let expectedFiles ← issueTexts (fieldOf value "expectedFiles") (part "expectedFiles") 500
  let conflictResources ←
    validateConflictResources (fieldOf value "conflictResources") (part "conflictResources")
  let developmentPrompt ←
    issueText (fieldOf value "developmentPrompt") (part "developmentPrompt") 40000
  require (decide (80 ≤ developmentPrompt.length))
    (issuePlanValidationError (name ++ js ".developmentPrompt is not self-contained"))
  require
    (decide (∀ context ∈ requiredContext goal requirementRefs acceptance nonGoals expectedFiles,
      context <:+: developmentPrompt))
    (issuePlanValidationError (name ++ js ".developmentPrompt omits required context"))
  let verify ← issueTexts (fieldOf value "verify") (part "verify") 50
  require (decide (verify ≠ [] ∧ ∀ command ∈ verify, command <:+: developmentPrompt))
    (issuePlanValidationError
      (name ++ js ".developmentPrompt must include verification commands"))
  let evidenceItems ← boundedItems (fieldOf value "completionEvidence")
    (part "completionEvidence") 1 50 " must be non-empty and bounded"
  let completionEvidence ← mapIndexed (validateEvidence name) evidenceItems
  require (completionEvidence.any (·.required))
    (issuePlanValidationError
      (name ++ js ".completionEvidence requires at least one mandatory item"))
  pure
    { key := key
      title := title
      goal := goal
      requirementRefs := requirementRefs
      acceptance := acceptance
      nonGoals := nonGoals
      dependencyCandidates := dependencyCandidates
      expectedFiles := expectedFiles
      conflictResources := conflictResources
      developmentPrompt := developmentPrompt
      verify := verify
      completionEvidence := completionEvidence }

def validateIssuePlanDraft (value : Json) : Except Thrown (List IssueDraft) := do
  closedObject issuePlanValidationError value (js "issuePlanDraft") ["schemaVersion", "issues"]
  require ((fieldOf value "schemaVersion").isWord issuePlanDraftSchemaVersion)
    (issuePlanValidationError (js "schemaVersion must be " ++ issuePlanDraftSchemaVersion))
  let items ← boundedItems (fieldOf value "issues") (js "issues") 1 100
    " must be non-empty and bounded"
  let issues ← mapIndexed validateIssue items
  require (decide (issues.map (·.key)).Nodup)
    (issuePlanValidationError (js "issue keys must be unique"))
  pure issues

end DevHarness.ControlPlane
