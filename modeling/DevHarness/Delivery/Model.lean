import DevHarness.Sql.Table
import DevHarness.Text.JsString

/-!
# Delivery candidates and their repository

The delivery domain and the Postgres delivery repository: candidate rows, the
receipt tables joined to them, and the operation receipts under which
`transition` and `rememberOperation` replay.  Each repository operation is one
transaction that locks the candidate row, hence one atomic step here.

The reviews table is the part of the evidence repository that delivery reads.
-/

namespace DevHarness.Delivery

open JsText

/-- `deliveryCandidateStates`. -/
inductive DeliveryCandidateState
  | verified
  | committed
  | reviewed
  | localReady
  | branchPushed
  | prOpen
  | landing
  | landed
  | failed
  deriving DecidableEq

def DeliveryCandidateState.text : DeliveryCandidateState → String
  | .verified => "verified"
  | .committed => "committed"
  | .reviewed => "reviewed"
  | .localReady => "local_ready"
  | .branchPushed => "branch_pushed"
  | .prOpen => "pr_open"
  | .landing => "landing"
  | .landed => "landed"
  | .failed => "failed"

structure PushReceipt where
  receiptId : JsString
  remoteName : JsString
  remoteBranch : JsString
  commitSha : JsString
  pushedAt : ℕ

structure PullRequestReceipt where
  externalId : JsString
  url : JsString
  headBranch : JsString
  baseBranch : JsString

structure LandingReceipt where
  externalId : JsString
  landingCommitSha : JsString
  landedAt : ℕ

/-- What a candidate is about; no operation changes it. -/
structure CandidateScope where
  id : JsString
  organizationId : JsString
  projectId : JsString
  repositoryId : JsString
  goalId : JsString
  issueId : JsString
  runId : JsString
  worktreePath : JsString
  baselineBranch : JsString
  baselineSha : JsString
  branch : JsString
  commitMessage : JsString
  deriving DecidableEq

/-- A row of `delivery_candidates`. -/
structure CandidateRow extends CandidateScope where
  commitSha : Option JsString
  reviewId : Option JsString
  state : DeliveryCandidateState
  version : ℕ
  deriving DecidableEq

/-- A candidate as the repository returns it: its row with the receipts joined
to it. -/
structure DeliveryCandidate extends CandidateRow where
  pushReceipt : Option PushReceipt
  pullRequest : Option PullRequestReceipt
  landing : Option LandingReceipt

structure ReceiptRow (Receipt : Type) where
  candidateId : JsString
  operationKey : JsString
  receipt : Receipt

inductive ReviewVerdict
  | approved
  | requestChanges
  | rejected
  deriving DecidableEq

/-- The columns of `reviews` by which delivery selects; `reviewedAt` is in
milliseconds. -/
structure ReviewRecord where
  id : JsString
  organizationId : JsString
  projectId : JsString
  goalId : JsString
  issueId : JsString
  runId : JsString
  idempotencyKey : JsString
  targetCommitSha : JsString
  verdict : ReviewVerdict
  builderIdentity : JsString
  reviewerIdentity : JsString
  reviewedAt : ℕ

/-- The tables that delivery reads and writes. -/
structure DeliveryStore where
  candidates : JsString → Option CandidateRow
  pushReceipts : List (ReceiptRow PushReceipt)
  pullRequestReceipts : List (ReceiptRow PullRequestReceipt)
  landingReceipts : List (ReceiptRow LandingReceipt)
  /-- `delivery_operation_receipts`: the snapshot under a candidate and an
  operation key. -/
  operations : JsString → JsString → Option DeliveryCandidate
  reviews : List ReviewRecord

/-! ## Reading -/

def joined {Receipt : Type} (id : JsString) (rows : List (ReceiptRow Receipt)) :
    Option Receipt :=
  (rows.find? fun row => row.candidateId = id).map fun row => row.receipt

/-- `mapCandidate`: a receipt with an empty text column is left out, and so is
an empty review id. -/
def mapCandidate (row : CandidateRow) (push : Option PushReceipt)
    (pr : Option PullRequestReceipt) (landing : Option LandingReceipt) : DeliveryCandidate :=
  { row with
    reviewId := row.reviewId.filter fun id => !id.isEmpty
    pushReceipt := push.filter fun r =>
      !r.receiptId.isEmpty && !r.remoteName.isEmpty && !r.remoteBranch.isEmpty &&
        !r.commitSha.isEmpty
    pullRequest := pr.filter fun r =>
      !r.externalId.isEmpty && !r.url.isEmpty && !r.headBranch.isEmpty &&
        !r.baseBranch.isEmpty
    landing := landing.filter fun r =>
      !r.externalId.isEmpty && !r.landingCommitSha.isEmpty }

def readCandidate (store : DeliveryStore) (id : JsString) : Option DeliveryCandidate :=
  (store.candidates id).map fun row =>
    mapCandidate row (joined id store.pushReceipts) (joined id store.pullRequestReceipts)
      (joined id store.landingReceipts)

def findOperation (store : DeliveryStore) (candidateId operationKey : JsString) :
    Option DeliveryCandidate :=
  store.operations candidateId operationKey

structure ReviewQuery where
  organizationId : JsString
  projectId : JsString
  issueId : JsString
  runId : JsString
  targetCommitSha : JsString

/-- The `WHERE` clause of `findApprovedReview`. -/
def ReviewQuery.selects (query : ReviewQuery) (review : ReviewRecord) : Bool :=
  decide (review.organizationId = query.organizationId) &&
    decide (review.projectId = query.projectId) &&
    decide (review.issueId = query.issueId) &&
    decide (review.runId = query.runId) &&
    decide (review.targetCommitSha = query.targetCommitSha) &&
    decide (review.verdict = .approved)

/-- `ORDER BY reviewed_at DESC, id DESC`: `left` comes no later than `right`. -/
def ReviewRecord.newerOrSame (left right : ReviewRecord) : Bool :=
  decide (right.reviewedAt < left.reviewedAt) ||
    (decide (right.reviewedAt = left.reviewedAt) && decide (right.id ≤ left.id))

/-- `findApprovedReview`, with `LIMIT 1`. -/
def findApprovedReview (store : DeliveryStore) (query : ReviewQuery) : Option ReviewRecord :=
  Sql.first ReviewRecord.newerOrSame (store.reviews.filter query.selects)

/-! ## Writing -/

structure DeliveryTransitionPatch where
  commitSha : Option JsString := none
  reviewId : Option JsString := none
  pushReceipt : Option PushReceipt := none
  pullRequest : Option PullRequestReceipt := none
  landing : Option LandingReceipt := none

structure TransitionInput where
  candidateId : JsString
  expectedVersion : ℕ
  expectedStates : List DeliveryCandidateState
  nextState : DeliveryCandidateState
  patch : DeliveryTransitionPatch := {}
  operationKey : JsString

/-- `INSERT … ON CONFLICT (candidate_id, operation_key) DO NOTHING`. -/
def insertReceipt {Receipt : Type} (candidateId operationKey : JsString)
    (receipt : Option Receipt) (rows : List (ReceiptRow Receipt)) : List (ReceiptRow Receipt) :=
  match receipt with
  | none => rows
  | some receipt =>
    if rows.any fun row => row.candidateId = candidateId ∧ row.operationKey = operationKey then
      rows
    else
      rows ++ [{ candidateId, operationKey, receipt }]

/-- The `UPDATE` of `transition`. -/
def CandidateRow.advance (row : CandidateRow) (input : TransitionInput) : CandidateRow :=
  { row with
    state := input.nextState
    commitSha := input.patch.commitSha.or row.commitSha
    reviewId := input.patch.reviewId.or row.reviewId
    version := row.version + 1 }

def setCandidate (candidates : JsString → Option CandidateRow) (id : JsString)
    (row : CandidateRow) : JsString → Option CandidateRow :=
  fun other => if other = id then some row else candidates other

def setOperation (operations : JsString → JsString → Option DeliveryCandidate)
    (candidateId operationKey : JsString) (snapshot : DeliveryCandidate) :
    JsString → JsString → Option DeliveryCandidate :=
  fun id key => if id = candidateId ∧ key = operationKey then some snapshot
    else operations id key

def applyTransition (store : DeliveryStore) (input : TransitionInput) (row : CandidateRow) :
    DeliveryStore :=
  { store with
    candidates := setCandidate store.candidates input.candidateId (row.advance input)
    pushReceipts := insertReceipt input.candidateId input.operationKey
      input.patch.pushReceipt store.pushReceipts
    pullRequestReceipts := insertReceipt input.candidateId input.operationKey
      input.patch.pullRequest store.pullRequestReceipts
    landingReceipts := insertReceipt input.candidateId input.operationKey
      input.patch.landing store.landingReceipts }

/-- `transition`: an operation key that is known replays its snapshot;
otherwise version and state are checked before anything is written. -/
def transition (store : DeliveryStore) (input : TransitionInput) :
    Except String DeliveryCandidate × DeliveryStore :=
  match store.operations input.candidateId input.operationKey with
  | some snapshot => (.ok snapshot, store)
  | none =>
    match store.candidates input.candidateId with
    | none => (.error "Delivery candidate was not found", store)
    | some row =>
      if row.version ≠ input.expectedVersion then
        (.error "Delivery candidate version conflict", store)
      else if row.state ∉ input.expectedStates then
        (.error ("Delivery transition from " ++ row.state.text ++ " is not allowed"), store)
      else
        let written := applyTransition store input row
        match readCandidate written input.candidateId with
        | none => (.error "Delivery candidate disappeared after transition", store)
        | some next =>
          (.ok next, { written with
            operations := setOperation store.operations input.candidateId
              input.operationKey next })

def rememberOperation (store : DeliveryStore) (candidateId operationKey : JsString) :
    Except String DeliveryCandidate × DeliveryStore :=
  match store.operations candidateId operationKey with
  | some snapshot => (.ok snapshot, store)
  | none =>
    match readCandidate store candidateId with
    | none => (.error "Delivery candidate was not found", store)
    | some current =>
      (.ok current, { store with
        operations := setOperation store.operations candidateId operationKey current })

/-- `INSERT INTO reviews … ON CONFLICT (organization_id, run_id,
idempotency_key) DO NOTHING`. -/
def saveReview (store : DeliveryStore) (review : ReviewRecord) : DeliveryStore :=
  if store.reviews.any fun other =>
      other.organizationId = review.organizationId ∧ other.runId = review.runId ∧
        other.idempotencyKey = review.idempotencyKey then
    store
  else
    { store with reviews := store.reviews ++ [review] }

/-! ## What the operations do -/

variable {store : DeliveryStore} {id : JsString} {row : CandidateRow}
  {resp : Except String DeliveryCandidate}

theorem readCandidate_eq_some {candidate : DeliveryCandidate}
    (hread : readCandidate store id = some candidate) :
    ∃ row, store.candidates id = some row ∧
      candidate.toCandidateScope = row.toCandidateScope ∧
      candidate.commitSha = row.commitSha ∧ candidate.state = row.state ∧
      candidate.version = row.version := by
  simp only [readCandidate, Option.map_eq_some_iff] at hread
  obtain ⟨row, hrow, rfl⟩ := hread
  exact ⟨row, hrow, rfl, rfl, rfl, rfl⟩

theorem readCandidate_isSome (hrow : store.candidates id = some row) :
    (readCandidate store id).isSome := by
  simp [readCandidate, hrow]

/-- The store after `transition` has written. -/
def DeliveryStore.afterTransition (store : DeliveryStore) (input : TransitionInput)
    (row : CandidateRow) (next : DeliveryCandidate) : DeliveryStore :=
  { applyTransition store input row with
    operations := setOperation store.operations input.candidateId input.operationKey next }

/-- `transition` replays, fails without effect, or moves a candidate that is in
an expected state and at the expected version. -/
theorem transition_cases {store store' : DeliveryStore} {input : TransitionInput}
    (hexec : transition store input = (resp, store')) :
    (∃ snapshot, store.operations input.candidateId input.operationKey = some snapshot ∧
      resp = .ok snapshot ∧ store' = store) ∨
    (∃ message, resp = .error message ∧ store' = store) ∨
    (∃ row next, store.operations input.candidateId input.operationKey = none ∧
      store.candidates input.candidateId = some row ∧ row.version = input.expectedVersion ∧
      row.state ∈ input.expectedStates ∧
      readCandidate (applyTransition store input row) input.candidateId = some next ∧
      resp = .ok next ∧ store' = store.afterTransition input row next) := by
  unfold transition at hexec
  split at hexec
  · next snapshot hop =>
    obtain ⟨rfl, rfl⟩ := Prod.mk.inj hexec
    exact .inl ⟨snapshot, hop, rfl, rfl⟩
  · next hop =>
    split at hexec
    · obtain ⟨rfl, rfl⟩ := Prod.mk.inj hexec
      exact .inr (.inl ⟨_, rfl, rfl⟩)
    · next row hrow =>
      split at hexec
      · obtain ⟨rfl, rfl⟩ := Prod.mk.inj hexec
        exact .inr (.inl ⟨_, rfl, rfl⟩)
      · next hversion =>
        split at hexec
        · obtain ⟨rfl, rfl⟩ := Prod.mk.inj hexec
          exact .inr (.inl ⟨_, rfl, rfl⟩)
        · next hstate =>
          have hwritten : (applyTransition store input row).candidates input.candidateId =
              some (row.advance input) := by simp [applyTransition, setCandidate]
          simp only at hexec
          split at hexec
          · next hread =>
            have hsome := readCandidate_isSome hwritten
            rw [hread] at hsome
            cases hsome
          · next next hread =>
            obtain ⟨rfl, rfl⟩ := Prod.mk.inj hexec
            exact .inr (.inr ⟨row, next, hop, hrow, not_not.mp hversion, not_not.mp hstate,
              hread, rfl, rfl⟩)

/-- `rememberOperation` replays, fails without effect, or stores the candidate
as it is. -/
theorem rememberOperation_cases {store store' : DeliveryStore} {id key : JsString}
    (hexec : rememberOperation store id key = (resp, store')) :
    (∃ snapshot, store.operations id key = some snapshot ∧ resp = .ok snapshot ∧
      store' = store) ∨
    (∃ message, resp = .error message ∧ store' = store) ∨
    (∃ current, store.operations id key = none ∧ readCandidate store id = some current ∧
      resp = .ok current ∧
      store' = { store with operations := setOperation store.operations id key current }) := by
  unfold rememberOperation at hexec
  split at hexec
  · next snapshot hop =>
    obtain ⟨rfl, rfl⟩ := Prod.mk.inj hexec
    exact .inl ⟨snapshot, hop, rfl, rfl⟩
  · next hop =>
    split at hexec
    · obtain ⟨rfl, rfl⟩ := Prod.mk.inj hexec
      exact .inr (.inl ⟨_, rfl, rfl⟩)
    · next current hread =>
      obtain ⟨rfl, rfl⟩ := Prod.mk.inj hexec
      exact .inr (.inr ⟨current, hop, hread, rfl, rfl⟩)

theorem selects_of_findApprovedReview {query : ReviewQuery} {review : ReviewRecord}
    (hfound : findApprovedReview store query = some review) : query.selects review = true := by
  exact (List.mem_filter.mp (Sql.mem_of_first hfound)).2

theorem setCandidate_self (candidates : JsString → Option CandidateRow) (id : JsString)
    (row : CandidateRow) : setCandidate candidates id row id = some row := by
  simp [setCandidate]

theorem setCandidate_of_ne {candidates : JsString → Option CandidateRow} {id other : JsString}
    (hne : other ≠ id) : setCandidate candidates id row other = candidates other := by
  simp [setCandidate, hne]

theorem setOperation_eq_some {operations : JsString → JsString → Option DeliveryCandidate}
    {id key id' key' : JsString} {snapshot found : DeliveryCandidate}
    (hfound : setOperation operations id key snapshot id' key' = some found) :
    (id' = id ∧ key' = key ∧ found = snapshot) ∨ operations id' key' = some found := by
  unfold setOperation at hfound
  split at hfound
  · next h => exact .inl ⟨h.1, h.2, (Option.some.inj hfound).symm⟩
  · exact .inr hfound

end DevHarness.Delivery
