import DevHarness.ControlPlane.Records
import DevHarness.ControlPlane.Validation

/-!
# What the issue plan service computes

The compiler, the execution waves and the model router.  A JavaScript `Set` or
`Map` is the list of its entries in insertion order; issue keys hold only capital
letters, digits and hyphens, on which `localeCompare` and the order of code units
agree.
-/

namespace DevHarness.ControlPlane

open JsText

/-! ## The compiler -/

def diagnostic (code : IssueCompilationDiagnosticCode) (path message : JsString)
    (impact : String) (relatedIssueKeys : List JsString) : IssueCompilationDiagnostic where
  code := code
  path := path
  message := message
  impact := js impact
  relatedIssueKeys := relatedIssueKeys

def dependenciesOf (issues : List IssueDraft) (key : JsString) : Option (List JsString) :=
  (issues.reverse.find? fun issue => issue.key = key).map (·.dependencyCandidates)

/-- `visit` of `findCycle`: the keys that are done, or a cycle.  The stack holds
the keys that are being visited, no two of them equal, so that its depth is at most
the number of keys. -/
def visit (issues : List IssueDraft) :
    ℕ → JsString → List JsString → List JsString → Except (List JsString) (List JsString)
  | 0, _, _, done => .ok done
  | fuel + 1, key, stack, done => do
    let stack := stack ++ [key]
    let done ← (sorted ((dependenciesOf issues key).getD [])).foldlM
      (fun done dependency =>
        if (dependenciesOf issues dependency).isNone then .ok done
        else if dependency ∈ stack then
          .error (stack.drop (stack.idxOf dependency) ++ [dependency])
        else if dependency ∈ done then .ok done
        else visit issues fuel dependency stack done)
      done
    pure (key :: done)

def findCycle (issues : List IssueDraft) : List JsString :=
  match (sorted (issues.map (·.key))).foldlM
      (fun done key => if key ∈ done then .ok done else visit issues issues.length key [] done)
      ([] : List JsString) with
  | .error cycle => cycle
  | .ok _ => []

/-- The loop of `topologicalOrder`; each round with a ready key removes one. -/
def orderLoop : ℕ → List (JsString × List JsString) → List JsString
  | 0, _ => []
  | fuel + 1, remaining =>
    let ready := sorted ((remaining.filter fun entry => entry.2 = []).map Prod.fst)
    if ready = [] then []
    else
      ready ++ orderLoop fuel
        ((remaining.filter fun entry => entry.1 ∉ ready).map fun entry =>
          (entry.1, entry.2.filter fun dependency => dependency ∉ ready))

def topologicalOrder (issues : List IssueDraft) : List JsString :=
  let uniqueKeys := sorted (issues.map (·.key)).eraseDups
  orderLoop uniqueKeys.length (uniqueKeys.map fun key =>
    (key, (((dependenciesOf issues key).getD []).filter fun dependency =>
      dependency ∈ uniqueKeys).eraseDups))

structure CompileInput where
  requirements : List SourceRequirement
  acceptanceCriterionIds : List JsString
  issues : List IssueDraft

namespace CompileInput

variable (input : CompileInput)

def requirementIds : List JsString :=
  (input.requirements.map (·.id)).eraseDups

def acceptanceIds : List JsString :=
  input.acceptanceCriterionIds.eraseDups

def permittedAcceptance (issue : IssueDraft) : List JsString :=
  issue.requirementRefs.flatMap fun ref =>
    ((input.requirements.reverse.find? fun requirement => requirement.id = ref).map
      (·.acceptanceCriterionRefs)).getD []

def coveredRequirements : List JsString :=
  ((input.issues.flatMap (·.requirementRefs)).filter fun ref =>
    ref ∈ input.requirementIds).eraseDups

def coveredAcceptance : List JsString :=
  ((input.issues.flatMap fun issue => issue.acceptance.map (·.criterionRef)).filter fun ref =>
    ref ∈ input.acceptanceIds).eraseDups

def uncoveredRequirements : List JsString :=
  sorted (input.requirementIds.filter fun id => id ∉ input.coveredRequirements)

def uncoveredAcceptance : List JsString :=
  sorted (input.acceptanceIds.filter fun id => id ∉ input.coveredAcceptance)

def requirementDiagnostics (issue : IssueDraft) (path : JsString) :
    List IssueCompilationDiagnostic :=
  issue.requirementRefs.zipIdx.filterMap fun (ref, refIndex) =>
    if ref ∈ input.requirementIds then none
    else some (diagnostic .unknownRequirementRef
      (itemName (memberName path (js "requirementRefs")) refIndex)
      (js "Requirement " ++ ref ++ js " does not exist")
      "Approval would claim coverage for an unapproved requirement" [issue.key])

def acceptanceDiagnostics (issue : IssueDraft) (path : JsString) :
    List IssueCompilationDiagnostic :=
  issue.acceptance.zipIdx.filterMap fun (item, acceptanceIndex) =>
    let itemPath := itemName (memberName path (js "acceptance")) acceptanceIndex
    if item.criterionRef ∉ input.acceptanceIds then
      some (diagnostic .unknownAcceptanceRef (memberName itemPath (js "criterionRef"))
        (js "Acceptance criterion " ++ item.criterionRef ++ js " does not exist")
        "The completion proof would target an unknown criterion" [issue.key])
    else if item.criterionRef ∉ input.permittedAcceptance issue then
      some (diagnostic .acceptanceWithoutRequirement itemPath
        (js "Acceptance criterion " ++ item.criterionRef ++
          js " is not linked by the Issue requirements")
        "Bidirectional traceability is broken" [issue.key])
    else none

def dependencyDiagnostics (issue : IssueDraft) (path : JsString) :
    List IssueCompilationDiagnostic :=
  issue.dependencyCandidates.zipIdx.flatMap fun (dependency, dependencyIndex) =>
    let dependencyPath := itemName (memberName path (js "dependencyCandidates")) dependencyIndex
    (if dependency ∈ issue.dependencyCandidates.take dependencyIndex then
      [diagnostic .duplicateDependency dependencyPath
        (js "Dependency " ++ dependency ++ js " is repeated")
        "The graph contains an ambiguous duplicate edge" [issue.key, dependency]]
    else []) ++
    (if dependency = issue.key then
      [diagnostic .selfDependency dependencyPath
        (js "Issue " ++ issue.key ++ js " depends on itself")
        "The Issue can never become dependency-ready" [issue.key]]
    else if dependency ∉ input.issues.map (·.key) then
      [diagnostic .missingDependency dependencyPath
        (js "Dependency " ++ dependency ++ js " does not exist")
        "The Issue can never be safely scheduled" [issue.key, dependency]]
    else [])

def issueDiagnostics (issue : IssueDraft) (index : ℕ) : List IssueCompilationDiagnostic :=
  let path := itemName (js "issues") index
  (if issue.key ∈ (input.issues.take index).map (·.key) then
    [diagnostic .duplicateIssueKey (memberName path (js "key"))
      (js "Issue key " ++ issue.key ++ js " is duplicated")
      "The dependency graph cannot identify a unique delivery unit" [issue.key]]
  else []) ++
  (if issue.requirementRefs = [] ∧ issue.acceptance = [] then
    [diagnostic .orphanIssue path
      (js "Issue " ++ issue.key ++ js " has no traceability references")
      "The Issue cannot be justified by the approved specification" [issue.key]]
  else []) ++
  input.requirementDiagnostics issue path ++ input.acceptanceDiagnostics issue path ++
    input.dependencyDiagnostics issue path

def coverageDiagnostics : List IssueCompilationDiagnostic :=
  (input.uncoveredRequirements.map fun id =>
    diagnostic .uncoveredRequirement (memberName (js "requirements") id)
      (js "Requirement " ++ id ++ js " is not covered")
      "The approved PRD would not be fully implemented" []) ++
  input.uncoveredAcceptance.map fun id =>
    diagnostic .uncoveredAcceptance (memberName (js "acceptanceCriteria") id)
      (js "Acceptance criterion " ++ id ++ js " is not covered")
      "Goal verification would have no implementing Issue" []

def cycleDiagnostics : List IssueCompilationDiagnostic :=
  let cycle := findCycle input.issues
  if cycle = [] then []
  else
    [diagnostic .dependencyCycle (js "issues[*].dependencyCandidates")
      (js "Dependency cycle: " ++ join (js " -> ") cycle)
      "No Issue in the cycle can become dependency-ready" cycle]

end CompileInput

def compileIssuePlan (input : CompileInput) : IssueCompilationResult :=
  let diagnostics :=
    (input.issues.zipIdx.flatMap fun (issue, index) => input.issueDiagnostics issue index) ++
      input.coverageDiagnostics ++ input.cycleDiagnostics
  { valid := diagnostics.isEmpty
    diagnostics := diagnostics
    requirements :=
      { covered := sorted input.coveredRequirements
        uncovered := input.uncoveredRequirements }
    acceptanceCriteria :=
      { covered := sorted input.coveredAcceptance
        uncovered := input.uncoveredAcceptance }
    topologicalOrder := if findCycle input.issues = [] then topologicalOrder input.issues else [] }

/-! ## The execution waves -/

/-- `replace(/\/+/g, "/")`. -/
def collapseSlashes : JsString → JsString
  | [] => []
  | [u] => [u]
  | u :: v :: rest =>
    if u = 0x2F ∧ v = 0x2F then collapseSlashes (v :: rest) else u :: collapseSlashes (v :: rest)

def normalizedPath (value : JsString) : JsString :=
  let slashed := (trim value).map fun u => if u = 0x5C then 0x2F else u
  collapseSlashes (if js "./" <+: slashed then slashed.drop 2 else slashed)

def directory (value : JsString) : JsString :=
  let normalized := normalizedPath value
  let claimed :=
    if js "/**" <:+ normalized then normalized.take (normalized.length - 3) else normalized
  if js "/" <:+ claimed then claimed else claimed ++ js "/"

/-- `toLowerCase` is that of the platform. -/
def intersections (toLowerCase : JsString → JsString) (left right : List JsString) :
    List JsString :=
  let fold := fun value => toLowerCase (trim value)
  sorted ((left.map fold).filter fun value => value ∈ right.map fold).eraseDups

def directoryOverlaps (left right : IssueDraft) : List JsString :=
  let leftDirectories := left.conflictResources.directories.map directory
  let rightDirectories := right.conflictResources.directories.map directory
  ((leftDirectories.filter fun claimed =>
      (rightDirectories.any fun candidate => claimed <+: candidate ∨ candidate <+: claimed) ||
        right.expectedFiles.any fun file => claimed <+: normalizedPath file) ++
    rightDirectories.filter fun claimed =>
      left.expectedFiles.any fun file => claimed <+: normalizedPath file).eraseDups

/-- What two issues both claim of one kind. -/
structure SharedClaim where
  kind : ConflictResourceKind
  keyPrefix : String
  keys : List JsString
  reason : JsString

def sharedClaims (toLowerCase : JsString → JsString) (left right : IssueDraft) :
    List SharedClaim :=
  let files := intersections toLowerCase (left.expectedFiles.map normalizedPath)
    (right.expectedFiles.map normalizedPath)
  let directories := sorted (directoryOverlaps left right)
  let claim (kind : ConflictResourceKind) (name label : String)
      (claims : IssueConflictResources → List JsString) : SharedClaim :=
    let keys := intersections toLowerCase (claims left.conflictResources)
      (claims right.conflictResources)
    { kind := kind
      keyPrefix := name
      keys := keys
      reason := js "Both Issues claim the same " ++ js label ++ js ": " ++ join (js ", ") keys }
  [{ kind := .file
     keyPrefix := "file"
     keys := files
     reason := js "Both Issues expect to modify " ++ join (js ", ") files },
    { kind := .directory
      keyPrefix := "directory"
      keys := directories
      reason := js "Directory claims overlap at " ++ join (js ", ") directories },
    claim .publicInterface "public_interface" "public interface" (·.publicInterfaces),
    claim .databaseObject "database_object" "database object" (·.databaseObjects),
    claim .sharedConfiguration "shared_configuration" "shared configuration"
      (·.sharedConfigurations),
    claim .landingOrder "landing_order" "landing order key" (·.landingOrder)]

def conflictFor (toLowerCase : JsString → JsString) (left right : IssueDraft) :
    Option IssueConflict :=
  let claims := (sharedClaims toLowerCase left right).filter fun claim => claim.keys ≠ []
  if claims.isEmpty then none
  else some
    { left := left.key
      right := right.key
      resourceKinds := claims.map (·.kind)
      resourceKeys := sorted (claims.flatMap fun claim =>
        claim.keys.map fun key => js claim.keyPrefix ++ js ":" ++ key).eraseDups
      reasons := claims.map (·.reason) }

def sortedIssues (issues : List IssueDraft) : List IssueDraft :=
  issues.insertionSort fun left right => left.key ≤ right.key

def analyzeIssueConflicts (toLowerCase : JsString → JsString) :
    List IssueDraft → List IssueConflict
  | [] => []
  | left :: rest =>
    rest.filterMap (conflictFor toLowerCase left) ++ analyzeIssueConflicts toLowerCase rest

def hasConflict (conflicts : List IssueConflict) (left right : JsString) : Bool :=
  conflicts.any fun conflict =>
    conflict.left = (if left ≤ right then left else right) ∧
      conflict.right = (if left ≤ right then right else left)

def selectWave (conflicts : List IssueConflict) (ready : List JsString) : List JsString :=
  ready.foldl
    (fun selected key =>
      if selected.all fun prior => !hasConflict conflicts prior key then selected ++ [key]
      else selected)
    []

def waveReason (issues : List IssueDraft) (number : ℕ) (key : JsString) : JsString :=
  let dependencies :=
    ((issues.find? fun issue => issue.key = key).map (·.dependencyCandidates)).getD []
  if dependencies = [] then
    key ++ js " has no unmet dependencies and no Wave " ++ js (toString number) ++
      js " resource conflicts"
  else
    key ++ js " dependencies are complete and no Wave " ++ js (toString number) ++
      js " resource conflicts remain"

/-- The loop of `scheduleExecutionWaves`; each round with a ready key removes one. -/
def waveLoop (issues : List IssueDraft) (conflicts : List IssueConflict) :
    ℕ → ℕ → List (JsString × List JsString) → List ExecutionWave
  | 0, _, _ => []
  | fuel + 1, number, remaining =>
    let ready := sorted ((remaining.filter fun entry => entry.2 = []).map Prod.fst)
    if ready = [] then []
    else
      let selected := selectWave conflicts ready
      { number := number
        issueKeys := selected
        reasons := selected.map (waveReason issues number) } ::
      waveLoop issues conflicts fuel (number + 1)
        ((remaining.filter fun entry => entry.1 ∉ selected).map fun entry =>
          (entry.1, entry.2.filter fun dependency => dependency ∉ selected))

def scheduleExecutionWaves (toLowerCase : JsString → JsString) (issues : List IssueDraft) :
    List IssueConflict × List ExecutionWave :=
  let inOrder := sortedIssues issues
  let known := inOrder.map (·.key)
  let conflicts := analyzeIssueConflicts toLowerCase inOrder
  (conflicts, waveLoop inOrder conflicts inOrder.length 1
    (inOrder.map fun issue =>
      (issue.key, (issue.dependencyCandidates.filter fun dependency =>
        dependency ∈ known).eraseDups)))

/-! ## The model router -/

def modelRouterPolicyRevision : JsString := js "model-router.v1"

def asciiUpper (u : UInt16) : UInt16 :=
  if 0x61 ≤ u ∧ u ≤ 0x7A then u - 0x20 else u

/-- `/security|auth|credential|permission|migration|secret|token/i`. -/
def mentionsSecurity (text : JsString) : Bool :=
  ["SECURITY", "AUTH", "CREDENTIAL", "PERMISSION", "MIGRATION", "SECRET", "TOKEN"].any
    fun word => js word <:+: text.map asciiUpper

def routingFactors (issue : IssueDraft) : ModelRoutingFactors :=
  let resources := issue.conflictResources
  let riskyText := issue.title ++ js " " ++ issue.goal ++ js " " ++
    join (js " ") issue.requirementRefs
  let resourceRisk : Bool := resources.databaseObjects ≠ [] ∨
    resources.sharedConfigurations ≠ [] ∨ resources.landingOrder ≠ []
  let securityRisk := mentionsSecurity riskyText
  let publicRisk : Bool := resources.publicInterfaces ≠ []
  { risk :=
      if resourceRisk && (securityRisk || publicRisk) then .high
      else if resourceRisk || securityRisk || publicRisk then .medium
      else .low
    codeScope :=
      if 10 < issue.expectedFiles.length then .extensive
      else if 3 < issue.expectedFiles.length then .broad
      else .narrow
    domainComplexity :=
      if 2 < issue.requirementRefs.length ∨ 1 < issue.dependencyCandidates.length ∨
          1 < resources.publicInterfaces.length then .complex
      else .standard
    verificationDifficulty :=
      if 2 < issue.verify.length ∨ 3 < issue.acceptance.length ∨
          3 < issue.completionEvidence.length then .complex
      else .standard }

def Risk.name : Risk → String
  | .low => "low"
  | .medium => "medium"
  | .high => "high"

def CodeScope.name : CodeScope → String
  | .narrow => "narrow"
  | .broad => "broad"
  | .extensive => "extensive"

def Difficulty.name : Difficulty → String
  | .standard => "standard"
  | .complex => "complex"

def routeScore (factors : ModelRoutingFactors) : ℕ :=
  (match factors.risk with | .high => 4 | .medium => 2 | .low => 0) +
    (match factors.codeScope with | .extensive => 3 | .broad => 1 | .narrow => 0) +
    (if factors.domainComplexity = .complex then 2 else 0) +
    (if factors.verificationDifficulty = .complex then 2 else 0) +
    (if factors.risk = .high ∧ factors.codeScope = .extensive then 1 else 0)

def routeFor (score : ℕ) : CapabilityTier × ReasoningEffort :=
  if 8 ≤ score then (.frontier, .highest)
  else if 5 ≤ score then (.advancedCoding, .high)
  else if 2 ≤ score then (.generalCoding, .medium)
  else (.costOptimized, .low)

def recommendModelRoute (issue : IssueDraft) : ModelRecommendation :=
  let factors := routingFactors issue
  let score := routeScore factors
  { issueKey := issue.key
    capabilityTier := (routeFor score).1
    reasoningEffort := (routeFor score).2
    policyRevision := modelRouterPolicyRevision
    factors := factors
    reasons :=
      [js ("risk=" ++ factors.risk.name),
        js ("codeScope=" ++ factors.codeScope.name ++ " (" ++
          toString issue.expectedFiles.length ++ " expected files)"),
        js ("domainComplexity=" ++ factors.domainComplexity.name),
        js ("verificationDifficulty=" ++ factors.verificationDifficulty.name),
        js ("policy score=" ++ toString score)]
    routeOverride := none }

/-- The position of a tier in `capabilityTiers`. -/
def CapabilityTier.rank : CapabilityTier → ℕ
  | .costOptimized => 0
  | .generalCoding => 1
  | .advancedCoding => 2
  | .frontier => 3

/-- The position of an effort in `reasoningEfforts`. -/
def ReasoningEffort.rank : ReasoningEffort → ℕ
  | .low => 0
  | .medium => 1
  | .high => 2
  | .highest => 3

def overrideText (value : JsString) (name : String) : Except Thrown JsString :=
  if trim value = [] ∨ 4000 < (trim value).length then
    .error (plainError (js (name ++ " must be a non-blank bounded value")))
  else .ok (trim value)

def withModelRouteOverride (recommendation : ModelRecommendation)
    (replacement : ModelRouteOverride) : Except Thrown ModelRecommendation := do
  let actorId ← overrideText replacement.actorId "actorId"
  let reason ← overrideText replacement.reason "reason"
  require
    (decide (recommendation.factors.risk = .high →
      recommendation.capabilityTier.rank ≤ replacement.capabilityTier.rank ∧
        recommendation.reasoningEffort.rank ≤ replacement.reasoningEffort.rank))
    { name := js "ModelRouteUnavailableError"
      message := js "High-risk routes cannot be downgraded by override" }
  pure
    { recommendation with
      capabilityTier := replacement.capabilityTier
      reasoningEffort := replacement.reasoningEffort
      routeOverride := some { replacement with actorId := actorId, reason := reason } }

end DevHarness.ControlPlane
