import DevHarness.Sequence.Checks
import DevHarness.Text.PyValue

/-!
# The landing ledger

Each landing of a candidate has a row, which says how far the Git ref and the queue have come.  An
operation is one transaction under the lock of its row, and is rolled back where it raises.
-/

namespace PyText

/-! ## `==` -/

/-- `==` of numbers. -/
def FloatValue.equals : FloatValue → FloatValue → Bool
  | .finite p, .finite q => decide (p = q)
  | .infinity, .infinity => true
  | .negInfinity, .negInfinity => true
  | _, _ => false

/-- `==` where one value is a number. -/
def Value.equalNumbers (a b : Value) : Bool :=
  match a.number?, b.number? with
  | some p, some q => p.equals q
  | _, _ => false

mutual

/-- `a == b`; two times of day are equal when their texts are. -/
def Value.equals : Value → Value → Bool
  | .none, b => b.isNone
  | .str s, b => b.isText s
  | .bytes octets, .bytes octets' => decide (octets = octets')
  | .date year month day, .date year' month' day' =>
    decide (year = year' ∧ month = month' ∧ day = day')
  | .datetime text _, .datetime text' _ => decide (text = text')
  | .list items, .list items' => equalItems items items'
  | .set items, .set items' => decide (items.length = items'.length) && includedItems items items'
  | .dict entries, .dict entries' =>
    decide (entries.length = entries'.length) && includedEntries entries entries'
  | .bool b, other => (Value.bool b).equalNumbers other
  | .int n, other => (Value.int n).equalNumbers other
  | .float value text, other => (Value.float value text).equalNumbers other
  | _, _ => false

def equalItems : List Value → List Value → Bool
  | [], [] => true
  | item :: items, item' :: items' => item.equals item' && equalItems items items'
  | _, _ => false

def includedItems : List Value → List Value → Bool
  | [], _ => true
  | item :: items, others => (others.any fun other => item.equals other) && includedItems items others

def includedEntries : List (Value × Value) → List (Value × Value) → Bool
  | [], _ => true
  | (key, value) :: entries, others =>
    (others.any fun other => key.equals other.1 && value.equals other.2) &&
      includedEntries entries others

end

/-- `entries[key] = value`, under a key of any type. -/
def setKey (key value : Value) : List (Value × Value) → List (Value × Value)
  | [] => [(key, value)]
  | entry :: entries =>
    if entry.1.equals key then (entry.1, value) :: entries else entry :: setKey key value entries

/-- One item of what `dict` is given, where that is not a mapping. -/
def keyAndValue (item : Value) : Option (Value × Value) :=
  match item.iterate with
  | some [key, value] => if key.hashable then some (key, value) else none
  | _ => none

/-- `dict(value)`; `none` is the error of a value that does not list pairs. -/
def Value.toDict (value : Value) : Option (List (Value × Value)) :=
  match value with
  | .dict entries => some entries
  | _ => do
    let items ← value.iterate
    let pairs ← items.mapM keyAndValue
    some (pairs.foldl (fun entries pair => setKey pair.1 pair.2 entries) [])

end PyText

namespace DevHarness.Landings

open PyText Sequence

abbrev Mapping := List (Value × Value)

inductive LandingError
  | valueError
  | typeError
  | conflict
  | notFound
  | databaseError

/-! ## The rows -/

inductive LandingState
  | prepared
  | integrated
  | queueFinalized
  | abandoned
  deriving DecidableEq

/-- What the column `state` holds. -/
def LandingState.text : LandingState → PyString
  | .prepared => py "prepared"
  | .integrated => py "integrated"
  | .queueFinalized => py "queue_finalized"
  | .abandoned => py "abandoned"

def landingStates : List LandingState := [.prepared, .integrated, .queueFinalized]

/-- `_STATE_INDEX.get(state)`. -/
def stateIndex (state : PyString) : Option ℕ :=
  landingStates.findIdx? fun known => known.text = state

structure Landing where
  taskId : PyString
  runId : PyString
  integrationBranch : PyString
  expectedRef : PyString
  candidateSha : PyString
  queueClaim : Mapping
  pushRequired : Bool
  pushed : Bool
  state : LandingState
  version : ℕ
  detail : Option Mapping
  createdAt : ℕ
  updatedAt : ℕ

structure ProjectIdentity where
  repoRoot : PyString
  repoFingerprint : PyString
  deriving DecidableEq

/-- The rows of one project, by task and run. -/
structure Ledger where
  project : Option ProjectIdentity
  row? : PyString → PyString → Option Landing
  keyed : ∀ taskId runId row, row? taskId runId = some row →
    row.taskId = taskId ∧ row.runId = runId

/-- What an operation meets: the store it is called on, the time, and the JSON columns.  A column
gives a mapping back as it reads it later; `none` is the error of one that it does not take. -/
structure Outside where
  projectKey : PyString
  identity : ProjectIdentity
  now : ℕ
  column : Mapping → Option Mapping

inductive RecoveryAction
  | none
  | resumePrepared
  | retryPrepared
  | finalizeQueue

/-- `_landing_value`, and the answer of `reconcile_git_fact`. -/
structure Answer where
  landing : Landing
  recoveryAction : Option RecoveryAction

namespace Ledger

def put (ledger : Ledger) (row : Landing) : Ledger :=
  { ledger with
    row? := fun taskId runId =>
      if taskId = row.taskId ∧ runId = row.runId then some row else ledger.row? taskId runId
    keyed := by
      intro taskId runId found h
      split at h
      · next hkey =>
        obtain rfl := Option.some.inj h
        exact ⟨hkey.1.symm, hkey.2.symm⟩
      · exact ledger.keyed taskId runId found h }

def projectRow (ledger : Ledger) (outside : Outside) : Except LandingError Ledger :=
  match ledger.project with
  | none => .ok { ledger with project := some outside.identity }
  | some project => if project = outside.identity then .ok ledger else .error .conflict

def locked (ledger : Ledger) (taskId runId : PyString) : Except LandingError Landing :=
  match ledger.row? taskId runId with
  | some row => .ok row
  | none => .error .notFound

end Ledger

/-- The source's `if …: raise`. -/
def ensure (holds : Bool) (error : LandingError) : Except LandingError Unit :=
  if holds then .ok () else .error error

def Outside.stored (outside : Outside) (mapping : Mapping) : Except LandingError Mapping :=
  match outside.column mapping with
  | some stored => .ok stored
  | none => .error .databaseError

/-! ## What a record says -/

/-- `str(record.get(key) or "")`. -/
def textOf (record : Mapping) (key : String) : PyString :=
  (((lookup record (py key)).getD .none).orElse (.str [])).text

def requiredText (record : Mapping) (key : String) : Except LandingError PyString :=
  if strip (textOf record key) = [] then .error .valueError else .ok (strip (textOf record key))

/-- `[0-9a-fA-F]`. -/
def isHexDigit (c : ℕ) : Bool :=
  (0x30 ≤ c && c ≤ 0x39) || (0x41 ≤ c && c ≤ 0x46) || (0x61 ≤ c && c ≤ 0x66)

/-- `str.lower` of a text of hexadecimal digits and blanks. -/
def lowered (s : PyString) : PyString :=
  s.map fun c => if 0x41 ≤ c && c ≤ 0x5A then c + 0x20 else c

def validateGitSha (value : PyString) : Except LandingError PyString :=
  if 40 ≤ value.length ∧ value.length ≤ 64 ∧ value.all isHexDigit then .ok (lowered value)
  else .error .valueError

/-- The texts of a record that has all of them. -/
structure RecordTexts where
  taskId : PyString
  runId : PyString
  branch : PyString
  expectedRef : PyString
  candidateSha : PyString

def recordTexts (record : Mapping) : Except LandingError RecordTexts := do
  let taskId ← requiredText record "task_id"
  let runId ← requiredText record "run_id"
  let branch ← requiredText record "integration_branch"
  let expected ← requiredText record "expected_ref"
  let expectedRef ← validateGitSha expected
  let candidate ← requiredText record "candidate_sha"
  let candidateSha ← validateGitSha candidate
  .ok { taskId, runId, branch, expectedRef, candidateSha }

/-- `queue_claim`, which has to be a mapping. -/
def claimOf (record : Mapping) : Except LandingError Mapping :=
  match (lookup record (py "queue_claim")).getD .none with
  | .dict claim => .ok claim
  | _ => .error .valueError

/-- `bool(record.get(key))`. -/
def flagOf (record : Mapping) (key : String) : Bool :=
  ((lookup record (py key)).getD .none).truthy

/-- `dict(record.get("detail") or {})`. -/
def detailOf (record : Mapping) : Except LandingError Mapping :=
  match (((lookup record (py "detail")).getD .none).orElse (.dict [])).toDict with
  | some detail => .ok detail
  | none => .error .typeError

structure Identity where
  taskId : PyString
  runId : PyString
  integrationBranch : PyString
  expectedRef : PyString
  candidateSha : PyString
  queueClaim : Mapping
  pushRequired : Bool

/-- `==` of identities. -/
def Identity.same (a b : Identity) : Bool :=
  decide (a.taskId = b.taskId) && decide (a.runId = b.runId) &&
    decide (a.integrationBranch = b.integrationBranch) && decide (a.expectedRef = b.expectedRef) &&
    decide (a.candidateSha = b.candidateSha) &&
    (Value.dict a.queueClaim).equals (.dict b.queueClaim) && a.pushRequired == b.pushRequired

/-- `_identity(_landing_value(row))`. -/
def Landing.identity (row : Landing) : Identity where
  taskId := row.taskId
  runId := row.runId
  integrationBranch := row.integrationBranch
  expectedRef := lowered row.expectedRef
  candidateSha := lowered row.candidateSha
  queueClaim := row.queueClaim
  pushRequired := row.pushRequired

/-- `_identity(record)`: the texts are not stripped. -/
def recordIdentity (record claim : Mapping) : Identity where
  taskId := textOf record "task_id"
  runId := textOf record "run_id"
  integrationBranch := textOf record "integration_branch"
  expectedRef := lowered (textOf record "expected_ref")
  candidateSha := lowered (textOf record "candidate_sha")
  queueClaim := claim
  pushRequired := flagOf record "push_required"

section Operations

variable (outside : Outside)

/-- The new row of `prepare`. -/
def insertLanding (record claim : Mapping) (texts : RecordTexts) (ledger : Ledger) :
    Except LandingError (Ledger × Answer) := do
  let detail ← detailOf record
  let row : Landing :=
    { taskId := texts.taskId, runId := texts.runId, integrationBranch := texts.branch,
      expectedRef := texts.expectedRef, candidateSha := texts.candidateSha, queueClaim := claim,
      pushRequired := flagOf record "push_required", pushed := flagOf record "pushed",
      state := .prepared, version := 1, detail := some detail, createdAt := outside.now,
      updatedAt := outside.now }
  let queueClaim ← outside.stored claim
  let detail ← outside.stored detail
  .ok (ledger.put { row with queueClaim, detail := some detail }, ⟨row, none⟩)

def prepare (record : Mapping) (ledger : Ledger) : Except LandingError (Ledger × Answer) := do
  let texts ← recordTexts record
  let claim ← claimOf record
  let ledger ← ledger.projectRow outside
  match ledger.row? texts.taskId texts.runId with
  | some row =>
    if row.identity.same (recordIdentity record claim) then .ok (ledger, ⟨row, none⟩)
    else .error .conflict
  | none => insertLanding outside record claim texts ledger

def replacePrepared (record : Mapping) (currentRef : PyString)
    (previousCandidateIsAncestor : Bool) (ledger : Ledger) :
    Except LandingError (Ledger × Answer) := do
  let texts ← recordTexts record
  let current ← validateGitSha currentRef
  ensure (decide (current = texts.expectedRef)) .conflict
  ensure (!previousCandidateIsAncestor) .conflict
  let claim ← claimOf record
  let ledger ← ledger.projectRow outside
  let row ← ledger.locked texts.taskId texts.runId
  ensure (decide (row.state = .prepared)) .conflict
  ensure (decide (current ≠ row.expectedRef)) .conflict
  ensure (decide (row.taskId = texts.taskId) && decide (row.runId = texts.runId) &&
    decide (row.integrationBranch = texts.branch) &&
    (Value.dict row.queueClaim).equals (.dict claim) &&
    row.pushRequired == flagOf record "push_required") .conflict
  let detail ← detailOf record
  let row : Landing :=
    { row with
      expectedRef := texts.expectedRef, candidateSha := texts.candidateSha,
      pushed := flagOf record "pushed", detail := some detail, version := row.version + 1,
      updatedAt := outside.now }
  let detail ← outside.stored detail
  .ok (ledger.put { row with detail := some detail }, ⟨row, none⟩)

/-- `set(updates) - {"pushed", "detail"}` is empty. -/
def knownChanges (updates : Mapping) : Bool :=
  updates.all fun entry => entry.1.isText (py "pushed") || entry.1.isText (py "detail")

/-- The mapping under `detail`, if the updates have the key. -/
def detailChange (updates : Mapping) : Except LandingError (Option Mapping) :=
  match lookup updates (py "detail") with
  | none => .ok none
  | some (.dict detail) => .ok (some detail)
  | some _ => .error .valueError

/-- The part that `advance` and `update_evidence` share: the row is written with the state. -/
def writeEvidence (updates : Mapping) (state : LandingState) (row : Landing) (ledger : Ledger) :
    Except LandingError (Ledger × Answer) := do
  let detail? ← detailChange updates
  let row : Landing :=
    { row with
      state, version := row.version + 1,
      pushed := ((lookup updates (py "pushed")).map Value.truthy).getD row.pushed,
      detail := detail?.orElse fun _ => row.detail, updatedAt := outside.now }
  match detail? with
  | none => .ok (ledger.put row, ⟨row, none⟩)
  | some detail => do
    let detail ← outside.stored detail
    .ok (ledger.put { row with detail := some detail }, ⟨row, none⟩)

/-- The state that `_STATE_INDEX` gives a number to. -/
def knownState (state : PyString) : Except LandingError LandingState :=
  match landingStates.find? fun known => known.text = state with
  | some known => .ok known
  | none => .error .valueError

def advance (projectId taskId runId expectedStatus newStatus : PyString)
    (changes : Option Mapping) (ledger : Ledger) : Except LandingError (Ledger × Answer) := do
  ensure (decide (projectId = outside.projectKey)) .conflict
  let expected ← knownState expectedStatus
  let new ← knownState newStatus
  ensure (decide (stateIndex newStatus = (stateIndex expectedStatus).map (· + 1))) .valueError
  let updates := changes.getD []
  ensure (knownChanges updates) .valueError
  let ledger ← ledger.projectRow outside
  let row ← ledger.locked taskId runId
  ensure (decide (row.state = expected)) .conflict
  writeEvidence outside updates new row ledger

def updateEvidence (projectId taskId runId expectedStatus : PyString) (changes : Mapping)
    (ledger : Ledger) : Except LandingError (Ledger × Answer) := do
  ensure (decide (projectId = outside.projectKey)) .conflict
  let expected ← knownState expectedStatus
  ensure (knownChanges changes) .valueError
  let ledger ← ledger.projectRow outside
  let row ← ledger.locked taskId runId
  ensure (decide (row.state = expected)) .conflict
  writeEvidence outside changes row.state row ledger

def reconcileGitFact (taskId runId currentRef : PyString) (candidateIsAncestor : Bool)
    (ledger : Ledger) : Except LandingError (Ledger × Answer) := do
  let current ← validateGitSha currentRef
  let ledger ← ledger.projectRow outside
  let row ← ledger.locked taskId runId
  if row.state = .queueFinalized then .ok (ledger, ⟨row, some .none⟩)
  else if row.state = .prepared ∧ current = row.expectedRef then
    .ok (ledger, ⟨row, some .resumePrepared⟩)
  else if candidateIsAncestor = false ∧ row.state = .prepared then
    .ok (ledger, ⟨row, some .retryPrepared⟩)
  else if candidateIsAncestor = false then .error .conflict
  else if row.state = .prepared then
    let row : Landing :=
      { row with state := .integrated, version := row.version + 1, updatedAt := outside.now }
    .ok (ledger.put row, ⟨row, some .finalizeQueue⟩)
  else .ok (ledger, ⟨row, some .finalizeQueue⟩)

def abandonedDetail (row : Landing) (current : PyString) : Mapping :=
  setEntry (py "reason") (.str (py "integration CAS lost before candidate landed"))
    (setEntry (py "abandoned_current_ref") (.str current) (row.detail.getD []))

def abandonPrepared (taskId runId currentRef : PyString) (candidateIsAncestor : Bool)
    (ledger : Ledger) : Except LandingError (Ledger × Answer) := do
  let current ← validateGitSha currentRef
  ensure (!candidateIsAncestor) .conflict
  let ledger ← ledger.projectRow outside
  let row ← ledger.locked taskId runId
  ensure (decide (row.state = .prepared)) .conflict
  ensure (decide (current ≠ row.expectedRef)) .conflict
  let detail := abandonedDetail row current
  let row : Landing :=
    { row with
      state := .abandoned, detail := some detail, version := row.version + 1,
      updatedAt := outside.now }
  let detail ← outside.stored detail
  .ok (ledger.put { row with detail := some detail }, ⟨row, none⟩)

end Operations

inductive Call
  | prepare (record : Mapping)
  | replacePrepared (record : Mapping) (currentRef : PyString) (previousCandidateIsAncestor : Bool)
  | advance (projectId taskId runId expectedStatus newStatus : PyString) (changes : Option Mapping)
  | updateEvidence (projectId taskId runId expectedStatus : PyString) (changes : Mapping)
  | reconcileGitFact (taskId runId currentRef : PyString) (candidateIsAncestor : Bool)
  | abandonPrepared (taskId runId currentRef : PyString) (candidateIsAncestor : Bool)

def perform (outside : Outside) (ledger : Ledger) : Call → Except LandingError (Ledger × Answer)
  | .prepare record => prepare outside record ledger
  | .replacePrepared record currentRef previous =>
    replacePrepared outside record currentRef previous ledger
  | .advance projectId taskId runId expectedStatus newStatus changes =>
    advance outside projectId taskId runId expectedStatus newStatus changes ledger
  | .updateEvidence projectId taskId runId expectedStatus changes =>
    updateEvidence outside projectId taskId runId expectedStatus changes ledger
  | .reconcileGitFact taskId runId currentRef ancestor =>
    reconcileGitFact outside taskId runId currentRef ancestor ledger
  | .abandonPrepared taskId runId currentRef ancestor =>
    abandonPrepared outside taskId runId currentRef ancestor ledger

def after (ledger : Ledger) (step : Outside × Call) : Ledger :=
  match perform step.1 ledger step.2 with
  | .ok (ledger', _) => ledger'
  | .error _ => ledger

def afterAll (ledger : Ledger) (steps : List (Outside × Call)) : Ledger :=
  steps.foldl after ledger

end DevHarness.Landings
