import DevHarness.Interleave.System
import DevHarness.Delivery.Model

/-!
# The delivery orchestrator

The three entry points of the orchestrator, `checkpoint`, `deliver` and
`land`, as programs that suspend at every call of the repository, of the
policy service, of the credential broker and of Git.  What the outside world
answers is arbitrary, and every call may fail.
-/

namespace DevHarness.Delivery

open JsText Interleave

/-! ## Calls out of the orchestrator -/

inductive PushMode
  | pushDisabled
  | pushBranch
  | pushAndOpenPr
  deriving DecidableEq

structure CommitRequest where
  operationKey : JsString
  worktreePath : JsString
  branch : JsString
  baselineSha : JsString
  message : JsString

structure CommitReceipt where
  commitSha : JsString
  summary : JsString

structure DeliveryTarget where
  organizationId : JsString
  projectId : JsString
  repositoryId : JsString
  baselineBranch : JsString
  baselineSha : JsString
  branch : JsString
  commitSha : JsString

/-- What the policy service decides; a credential is named by its id. -/
structure DeliveryPolicyDecision where
  mode : PushMode
  credential : Option JsString
  requiredScopes : List JsString

/-- A credential lease; the number tells leases apart. -/
structure CredentialLease where
  lease : ℕ

structure PushRequest where
  operationKey : JsString
  worktreePath : JsString
  branch : JsString
  commitSha : JsString
  credential : CredentialLease

structure PullRequestRequest where
  operationKey : JsString
  repositoryId : JsString
  branch : JsString
  baselineBranch : JsString
  commitSha : JsString
  credential : CredentialLease

structure MergeRequest where
  operationKey : JsString
  repositoryId : JsString
  pullRequest : Option PullRequestReceipt
  expectedCommitSha : JsString
  credential : CredentialLease

inductive DeliveryCommand
  | findOperation (candidateId operationKey : JsString)
  | getCandidate (id : JsString)
  | createCommit (input : CommitRequest)
  | transition (input : TransitionInput)
  | rememberOperation (candidateId operationKey : JsString)
  | findApprovedReview (query : ReviewQuery)
  | authorize (target : DeliveryTarget)
  | acquire (credential : JsString) (requiredScopes : List JsString)
  | pushBranch (input : PushRequest)
  | openPullRequest (input : PullRequestRequest)
  | mergePullRequest (input : MergeRequest)
  | release (lease : CredentialLease)

/-- What each call answers when it does not fail. -/
abbrev DeliveryCommand.Answer : DeliveryCommand → Type
  | .findOperation _ _ => Option DeliveryCandidate
  | .getCandidate _ => Option DeliveryCandidate
  | .createCommit _ => CommitReceipt
  | .transition _ => DeliveryCandidate
  | .rememberOperation _ _ => DeliveryCandidate
  | .findApprovedReview _ => Option ReviewRecord
  | .authorize _ => DeliveryPolicyDecision
  | .acquire _ _ => CredentialLease
  | .pushBranch _ => PushReceipt
  | .openPullRequest _ => PullRequestReceipt
  | .mergePullRequest _ => LandingReceipt
  | .release _ => Unit

abbrev DeliveryProgram (α : Type) :=
  Program DeliveryCommand DeliveryCommand.Answer String α

abbrev await (command : DeliveryCommand) : DeliveryProgram command.Answer :=
  Program.request command

/-! ## The entry points -/

/-- `validateOperationKey`: 8 to 200 code units, none of them CR, LF or NUL. -/
def validOperationKey (value : JsString) : Bool :=
  !(decide (value.length < 8) || decide (200 < value.length) ||
    value.any fun unit => unit == 13 || unit == 10 || unit == 0)

def validateOperationKey (value : JsString) : DeliveryProgram Unit :=
  if validOperationKey value then pure ()
  else throw "Delivery idempotency key is invalid"

def requiredCandidate (id : JsString) : DeliveryProgram DeliveryCandidate := do
  match ← await (.getCandidate id) with
  | some candidate => pure candidate
  | none => throw "Delivery candidate was not found"

/-- The part of `checkpoint` after the replay check. -/
def checkpointCandidate (candidateId idempotencyKey : JsString) :
    DeliveryProgram DeliveryCandidate := do
  let candidate ← requiredCandidate candidateId
  if candidate.state ≠ .verified ∨ truthy candidate.commitSha then
    throw "Only a verified candidate without a commit can be checkpointed"
  else
    let receipt ← await (.createCommit
      { operationKey := candidate.id ++ js ":" ++ idempotencyKey ++ js ":commit"
        worktreePath := candidate.worktreePath
        branch := candidate.branch
        baselineSha := candidate.baselineSha
        message := candidate.commitMessage })
    await (.transition
      { candidateId := candidateId
        expectedVersion := candidate.version
        expectedStates := [.verified]
        nextState := .committed
        patch := { commitSha := some receipt.commitSha }
        operationKey := idempotencyKey })

/-- Every entry point first looks its key up and returns what is stored. -/
def replayOr (candidateId idempotencyKey : JsString)
    (perform : DeliveryProgram DeliveryCandidate) : DeliveryProgram DeliveryCandidate := do
  validateOperationKey idempotencyKey
  match ← await (.findOperation candidateId idempotencyKey) with
  | some replay => pure replay
  | none => perform

def checkpoint (candidateId idempotencyKey : JsString) : DeliveryProgram DeliveryCandidate :=
  replayOr candidateId idempotencyKey (checkpointCandidate candidateId idempotencyKey)

def deliveryTarget (candidate : DeliveryCandidate) (commitSha : JsString) : DeliveryTarget :=
  { organizationId := candidate.organizationId
    projectId := candidate.projectId
    repositoryId := candidate.repositoryId
    baselineBranch := candidate.baselineBranch
    baselineSha := candidate.baselineSha
    branch := candidate.branch
    commitSha := commitSha }

def acceptReview (candidateId idempotencyKey : JsString) (candidate : DeliveryCandidate)
    (review : ReviewRecord) : DeliveryProgram DeliveryCandidate :=
  if candidate.state = .committed then
    await (.transition
      { candidateId := candidateId
        expectedVersion := candidate.version
        expectedStates := [.committed]
        nextState := .reviewed
        patch := { reviewId := some review.id }
        operationKey := idempotencyKey ++ js ":review" })
  else
    pure candidate

/-- `push_disabled`: the candidate stays local. -/
def deliverLocally (candidateId idempotencyKey : JsString) (candidate : DeliveryCandidate) :
    DeliveryProgram DeliveryCandidate :=
  if candidate.state = .branchPushed then
    await (.rememberOperation candidateId idempotencyKey)
  else do
    let candidate ← await (.transition
      { candidateId := candidateId
        expectedVersion := candidate.version
        expectedStates := [.reviewed]
        nextState := .localReady
        operationKey := idempotencyKey ++ js ":local" })
    let _ ← await (.rememberOperation candidateId idempotencyKey)
    pure candidate

def pushReviewed (candidateId idempotencyKey : JsString) (candidate : DeliveryCandidate)
    (commitSha : JsString) (credential : CredentialLease) :
    DeliveryProgram DeliveryCandidate :=
  if candidate.state = .reviewed then do
    let push ← await (.pushBranch
      { operationKey := candidate.id ++ js ":" ++ idempotencyKey ++ js ":push"
        worktreePath := candidate.worktreePath
        branch := candidate.branch
        commitSha := commitSha
        credential := credential })
    await (.transition
      { candidateId := candidateId
        expectedVersion := candidate.version
        expectedStates := [.reviewed]
        nextState := .branchPushed
        patch := { pushReceipt := some push }
        operationKey := idempotencyKey ++ js ":push" })
  else
    pure candidate

def openRequested (candidateId idempotencyKey : JsString) (candidate : DeliveryCandidate)
    (commitSha : JsString) (mode : PushMode) (credential : CredentialLease) :
    DeliveryProgram Unit :=
  if mode = .pushAndOpenPr ∧ candidate.state = .branchPushed then do
    let pullRequest ← await (.openPullRequest
      { operationKey := candidate.id ++ js ":" ++ idempotencyKey ++ js ":pr"
        repositoryId := candidate.repositoryId
        branch := candidate.branch
        baselineBranch := candidate.baselineBranch
        commitSha := commitSha
        credential := credential })
    let _ ← await (.transition
      { candidateId := candidateId
        expectedVersion := candidate.version
        expectedStates := [.branchPushed]
        nextState := .prOpen
        patch := { pullRequest := some pullRequest }
        operationKey := idempotencyKey ++ js ":pr" })
    pure ()
  else
    pure ()

/-- The pushing part of `deliver`, under a credential that is released in any
case. -/
def deliverRemotely (candidateId idempotencyKey : JsString) (candidate : DeliveryCandidate)
    (commitSha : JsString) (decision : DeliveryPolicyDecision) :
    DeliveryProgram DeliveryCandidate :=
  match decision.credential with
  | none => throw "Push credential was not authorized"
  | some reference => do
    let credential ← await (.acquire reference decision.requiredScopes)
    Program.andFinally
      (do
        let candidate ← pushReviewed candidateId idempotencyKey candidate commitSha credential
        openRequested candidateId idempotencyKey candidate commitSha decision.mode credential)
      (await (.release credential))
    await (.rememberOperation candidateId idempotencyKey)

/-- The part of `deliver` for a candidate with a commit that is still to be
delivered. -/
def deliverCommit (candidateId idempotencyKey : JsString) (candidate : DeliveryCandidate)
    (commitSha : JsString) : DeliveryProgram DeliveryCandidate := do
  match ← await (.findApprovedReview
      { organizationId := candidate.organizationId
        projectId := candidate.projectId
        issueId := candidate.issueId
        runId := candidate.runId
        targetCommitSha := commitSha }) with
  | none => throw "Delivery requires an approved independent review for this commit"
  | some review =>
    let candidate ← acceptReview candidateId idempotencyKey candidate review
    let decision ← await (.authorize (deliveryTarget candidate commitSha))
    if decision.mode = .pushDisabled then
      deliverLocally candidateId idempotencyKey candidate
    else
      deliverRemotely candidateId idempotencyKey candidate commitSha decision

/-- The part of `deliver` after the replay check. -/
def deliverCandidate (candidateId idempotencyKey : JsString) :
    DeliveryProgram DeliveryCandidate := do
  let candidate ← requiredCandidate candidateId
  if truthy candidate.commitSha then
    if candidate.state = .localReady ∨ candidate.state = .prOpen then
      await (.rememberOperation candidateId idempotencyKey)
    else
      deliverCommit candidateId idempotencyKey candidate (candidate.commitSha.getD [])
  else
    throw "Delivery candidate has no commit"

def deliver (candidateId idempotencyKey : JsString) : DeliveryProgram DeliveryCandidate :=
  replayOr candidateId idempotencyKey (deliverCandidate candidateId idempotencyKey)

structure LandingGates where
  humanGateApproved : Bool
  platformChecksPassed : Bool
  deriving DecidableEq

/-- An open pull request enters landing; in any other state nothing happens. -/
def startLanding (candidateId idempotencyKey : JsString) (candidate : DeliveryCandidate) :
    DeliveryProgram DeliveryCandidate :=
  if candidate.state = .prOpen then
    await (.transition
      { candidateId := candidateId
        expectedVersion := candidate.version
        expectedStates := [.prOpen]
        nextState := .landing
        operationKey := idempotencyKey ++ js ":start" })
  else
    pure candidate

/-- The merging part of `land`, under a credential that is released in any
case. -/
def mergeLanding (candidateId idempotencyKey : JsString) (candidate : DeliveryCandidate)
    (commitSha reference : JsString) (requiredScopes : List JsString) :
    DeliveryProgram DeliveryCandidate := do
  let credential ← await (.acquire reference requiredScopes)
  let candidate ← Program.andFinally
    (do
      let landing ← await (.mergePullRequest
        { operationKey := candidate.id ++ js ":" ++ idempotencyKey ++ js ":landing"
          repositoryId := candidate.repositoryId
          pullRequest := candidate.pullRequest
          expectedCommitSha := commitSha
          credential := credential })
      await (.transition
        { candidateId := candidateId
          expectedVersion := candidate.version
          expectedStates := [.landing]
          nextState := .landed
          patch := { landing := some landing }
          operationKey := idempotencyKey ++ js ":landed" }))
    (await (.release credential))
  let _ ← await (.rememberOperation candidateId idempotencyKey)
  pure candidate

/-- The part of `land` for an open or recovering pull request. -/
def landCommit (candidateId idempotencyKey : JsString) (candidate : DeliveryCandidate)
    (commitSha : JsString) : DeliveryProgram DeliveryCandidate := do
  let decision ← await (.authorize (deliveryTarget candidate commitSha))
  match decision.mode, decision.credential with
  | .pushAndOpenPr, some reference =>
    let candidate ← startLanding candidateId idempotencyKey candidate
    mergeLanding candidateId idempotencyKey candidate commitSha reference
      decision.requiredScopes
  | _, _ => throw "Project policy does not allow PR Landing"

/-- The part of `land` after the replay check. -/
def landCandidate (candidateId idempotencyKey : JsString) (gates : LandingGates) :
    DeliveryProgram DeliveryCandidate := do
  let candidate ← requiredCandidate candidateId
  if candidate.state = .landed then
    await (.rememberOperation candidateId idempotencyKey)
  else if gates.humanGateApproved = false then
    throw "Landing requires an explicit human gate approval"
  else if gates.platformChecksPassed = false then
    throw "Landing requires all platform checks to pass"
  else if (candidate.state ≠ .prOpen ∧ candidate.state ≠ .landing) ∨
      candidate.pullRequest = none ∨ truthy candidate.commitSha = false then
    throw "Only an open or recovering pull request can enter Landing"
  else
    landCommit candidateId idempotencyKey candidate (candidate.commitSha.getD [])

def land (candidateId idempotencyKey : JsString) (gates : LandingGates) :
    DeliveryProgram DeliveryCandidate :=
  replayOr candidateId idempotencyKey (landCandidate candidateId idempotencyKey gates)

/-! ## The system -/

inductive DeliveryCall
  | checkpoint (candidateId idempotencyKey : JsString)
  | deliver (candidateId idempotencyKey : JsString)
  | land (candidateId idempotencyKey : JsString) (gates : LandingGates)
  deriving DecidableEq

def DeliveryCall.program : DeliveryCall → DeliveryProgram DeliveryCandidate
  | .checkpoint candidateId idempotencyKey => Delivery.checkpoint candidateId idempotencyKey
  | .deliver candidateId idempotencyKey => Delivery.deliver candidateId idempotencyKey
  | .land candidateId idempotencyKey gates => Delivery.land candidateId idempotencyKey gates

/-- What the world outside the repository answers, whatever is asked; with a
`failure`, the call fails and changes nothing. -/
structure Outside where
  failure : Option String
  commit : CommitReceipt
  decision : DeliveryPolicyDecision
  lease : CredentialLease
  push : PushReceipt
  pullRequest : PullRequestReceipt
  landing : LandingReceipt

def execDelivery (outside : Outside) (command : DeliveryCommand) (store : DeliveryStore) :
    Except String command.Answer × DeliveryStore :=
  match outside.failure with
  | some message => (.error message, store)
  | none =>
    match command with
    | .findOperation candidateId operationKey =>
      (.ok (findOperation store candidateId operationKey), store)
    | .getCandidate id => (.ok (readCandidate store id), store)
    | .createCommit _ => (.ok outside.commit, store)
    | .transition input => transition store input
    | .rememberOperation candidateId operationKey =>
      rememberOperation store candidateId operationKey
    | .findApprovedReview query => (.ok (findApprovedReview store query), store)
    | .authorize _ => (.ok outside.decision, store)
    | .acquire _ _ => (.ok outside.lease, store)
    | .pushBranch _ => (.ok outside.push, store)
    | .openPullRequest _ => (.ok outside.pullRequest, store)
    | .mergePullRequest _ => (.ok outside.landing, store)
    | .release _ => (.ok (), store)

abbrev deliverySystem : System DeliveryStore DeliveryCommand DeliveryCommand.Answer String
    DeliveryCall DeliveryCandidate Outside ReviewRecord where
  program := DeliveryCall.program
  exec outside command store := some (execDelivery outside command store)
  environment review store := some (saveReview store review)

abbrev DeliveryEvent :=
  Event DeliveryCommand DeliveryCommand.Answer String DeliveryCall DeliveryCandidate
    ReviewRecord

abbrev DeliveryMoment :=
  Moment DeliveryStore DeliveryCommand DeliveryCommand.Answer String DeliveryCall
    DeliveryCandidate ReviewRecord

abbrev DeliveryConfig :=
  Config DeliveryStore DeliveryCommand DeliveryCommand.Answer String DeliveryCall
    DeliveryCandidate ReviewRecord

end DevHarness.Delivery
