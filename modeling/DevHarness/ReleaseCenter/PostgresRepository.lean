import DevHarness.ReleaseCenter.Repository
import DevHarness.Sql.Table

/-!
# The repository on tables

A commit claims its key, updates the row of its aggregate where the row has the expected version,
inserts what goes into the other tables and completes its key, all in one transaction.  The check
constraints and the foreign keys are left out: what the domain builds keeps to them, and a
statement may fail for any reason.
-/

namespace DevHarness.ReleaseCenter

open JsText Sequence

/-! ## Tables -/

/-- A row of `idempotency_records`; only rows whose transaction has completed them are seen. -/
structure IdempotencyRow where
  scope : IdempotencyScope
  requestHash : JsString
  responseRef : JsString

/-- What `outbox_events_aggregate_version_uidx` is on. -/
structure OutboxVersion where
  organizationId : JsString
  aggregateKind : AggregateKind
  aggregateId : JsString
  aggregateVersion : ℕ
  eventType : JsString
  deriving DecidableEq

structure OutboxRow where
  id : JsString
  version : OutboxVersion
  payload : Aggregate

/-- The tables; the windows and the events of a row of `canaries`, and the gates and the signatures
of a row of `releases`, are not columns. -/
structure PostgresStore where
  canaries : Sql.Table CanaryAggregate.id
  windows : List (JsString × CanaryWindow)
  events : List (JsString × CanaryEvent)
  releases : Sql.Table ProductionReleaseAggregate.id
  gates : List (JsString × ProductionGateCheck)
  signatures : List (JsString × ProductionSignature)
  idempotency : Sql.Table IdempotencyRow.scope
  outbox : Sql.Indexed OutboxRow.id OutboxRow.version

def rowsOf {α : Type} (id : JsString) (rows : List (JsString × α)) : List α :=
  (rows.filter fun row => row.1 = id).map (·.2)

namespace PostgresStore

def empty : PostgresStore where
  canaries := Sql.Table.empty _
  windows := []
  events := []
  releases := Sql.Table.empty _
  gates := []
  signatures := []
  idempotency := Sql.Table.empty _
  outbox := Sql.Indexed.empty _ _

-- `collate` is the order of texts: its first argument comes no later than its second.
variable (collate : JsString → JsString → Bool) (store : PostgresStore)

def mapCanary (row : CanaryAggregate) : CanaryAggregate :=
  { row with
    windows := Sql.orderBy (Sql.thenBy CanaryWindow.attempt (Sql.byKey CanaryWindow.sequence))
      (rowsOf row.id store.windows)
    events := Sql.orderBy
      (Sql.thenBy CanaryEvent.attempt (Sql.thenBy CanaryEvent.observedAt fun event event' =>
        collate event.id event'.id))
      (rowsOf row.id store.events) }

def mapRelease (row : ProductionReleaseAggregate) : ProductionReleaseAggregate :=
  { row with
    gates := Sql.orderBy (fun gate gate' => collate gate.gateId.text gate'.gateId.text)
      (rowsOf row.id store.gates)
    signatures := Sql.orderBy
      (Sql.thenBy ProductionSignature.signedAt fun signature signature' =>
        collate signature.role.text signature'.role.text)
      (rowsOf row.id store.signatures) }

/-- `getCanary` and `getProductionRelease`. -/
def get (key : AggregateKey) : Option Aggregate :=
  match key.kind with
  | .canary => ((store.canaries.get key.id).filter fun row =>
      row.organizationId = key.scope.organizationId ∧ row.projectId = key.scope.projectId).map
      fun row => .canary (mapCanary collate store row)
  | .production => ((store.releases.get key.id).filter fun row =>
      row.organizationId = key.scope.organizationId ∧ row.projectId = key.scope.projectId).map
      fun row => .production (mapRelease collate store row)

/-- `findReplay`: the payload is joined from the outbox. -/
def findCommand (command : ReleaseCommandMetadata) :
    Except ReleaseCenterError (Option Aggregate) :=
  match store.idempotency.get command.idempotencyScope with
  | none => .ok none
  | some row =>
    match store.outbox.get row.responseRef with
    | some event => replay row.requestHash event.payload command
    | none => .error .idempotencyConflict

/-! ## Commits -/

def updateCanary (value row : CanaryAggregate) : CanaryAggregate :=
  { row with
    status := value.status
    attempt := value.attempt
    ownerId := value.ownerId
    approvedAt := value.approvedAt
    startedAt := value.startedAt
    endedAt := value.endedAt
    report := value.report
    version := value.version
    updatedAt := value.updatedAt }

def updateRelease (value row : ProductionReleaseAggregate) : ProductionReleaseAggregate :=
  { row with
    status := value.status
    evaluatedAt := value.evaluatedAt
    attestationDigest := value.attestationDigest
    report := value.report
    version := value.version
    updatedAt := value.updatedAt }

/-- `WHERE id AND organization_id AND project_id AND version`. -/
def isExpectedCanary (value : CanaryAggregate) (expectedVersion : ℕ) (row : CanaryAggregate) :
    Bool :=
  row.id = value.id && row.organizationId = value.organizationId &&
    row.projectId = value.projectId && row.version = expectedVersion

def isExpectedRelease (value : ProductionReleaseAggregate) (expectedVersion : ℕ)
    (row : ProductionReleaseAggregate) : Bool :=
  row.id = value.id && row.organizationId = value.organizationId &&
    row.projectId = value.projectId && row.version = expectedVersion

/-- A row is inserted where there is none, or updated where it is the expected one. -/
def writeRow {Row : Type} {id : Row → JsString} (table : Sql.Table id) (row : Row)
    (expectedVersion : ℕ) (isExpected : Row → Bool) (update : Row → Row)
    (hid : ∀ old, id (update old) = id old) : Except ReleaseCenterError (Sql.Table id) :=
  if expectedVersion = 0 then
    if (table.get (id row)).isSome then .error .versionConflict else .ok (table.insertNew row)
  else if (table.get (id row)).any isExpected then .ok (table.updateWhere isExpected update hid)
  else .error .versionConflict

def writeCanary (value : CanaryAggregate) (expectedVersion : ℕ) :
    Except ReleaseCenterError PostgresStore := do
  let canaries ← writeRow store.canaries { value with windows := [], events := [] } expectedVersion
    (isExpectedCanary value expectedVersion) (updateCanary value) fun _ => rfl
  pure { store with canaries := canaries }

def writeRelease (value : ProductionReleaseAggregate) (expectedVersion : ℕ) :
    Except ReleaseCenterError PostgresStore :=
  if expectedVersion = 0 ∧ (store.releases.rows.any fun row => row.canaryId = value.canaryId) then
    .error .versionConflict
  else do
    let releases ← writeRow store.releases { value with gates := [], signatures := [] }
      expectedVersion (isExpectedRelease value expectedVersion) (updateRelease value) fun _ => rfl
    pure { store with releases := releases }

def addToCanary (value : CanaryAggregate) : Addition → Except ReleaseCenterError PostgresStore
  | .window added =>
    if store.windows.any fun row => row.1 = value.id && row.2.attempt = added.attempt &&
        row.2.sequence = added.sequence then .error .versionConflict
    else .ok { store with windows := store.windows ++ [(value.id, added)] }
  | .event added =>
    if store.events.any fun row => row.1 = value.id && row.2.attempt = added.attempt &&
        row.2.id = added.id then .error .versionConflict
    else .ok { store with events := store.events ++ [(value.id, added)] }
  | .resolved eventId =>
    let isNamed := fun row : JsString × CanaryEvent =>
      row.1 = value.id && row.2.attempt = value.attempt && row.2.id = eventId && row.2.isAlert
    match value.events.find? fun event => event.attempt = value.attempt && event.id = eventId with
    | none => .error .notFound
    | some event =>
      if store.events.any isNamed then
        .ok
          { store with
            events := store.events.map fun row => if isNamed row then (row.1, event) else row }
      else .error .notFound
  | _ => .ok store

/-- What a commit of a release inserts beside its row: a gate replaces the one before, while the
release is a draft. -/
def addToRelease (value : ProductionReleaseAggregate) :
    Addition → Except ReleaseCenterError PostgresStore
  | .gate added =>
    if value.status ≠ .draft then .error (.outside (js "production gate evidence is locked"))
    else .ok
      { store with
        gates := (store.gates.filter fun row =>
          !(row.1 = value.id && row.2.gateId = added.gateId)) ++ [(value.id, added)] }
  | .signature added =>
    if store.signatures.any fun row => row.1 = value.id &&
        (row.2.role = added.role || row.2.signerId = added.signerId) then .error .versionConflict
    else .ok { store with signatures := store.signatures ++ [(value.id, added)] }
  | _ => .ok store

def write (input : ReleaseCommit) : Except ReleaseCenterError PostgresStore :=
  match input.aggregate with
  | .canary value => do
    let written ← store.writeCanary value input.expectedVersion
    written.addToCanary value input.addition
  | .production value => do
    let written ← store.writeRelease value input.expectedVersion
    written.addToRelease value input.addition

/-- `claim` and `complete`: the outbox holds the aggregate that the key replays. -/
def complete (input : ReleaseCommit) : Except ReleaseCenterError PostgresStore :=
  match store.outbox.insert
    { id := input.command.eventId
      version :=
        { organizationId := input.command.scope.organizationId
          aggregateKind := input.aggregate.key.kind
          aggregateId := input.aggregate.key.id
          aggregateVersion := input.aggregate.version
          eventType := input.command.eventType }
      payload := input.aggregate } with
  | none => .error .versionConflict
  | some outbox => .ok
    { store with
      idempotency := store.idempotency.insertNew
        { scope := input.command.idempotencyScope
          requestHash := input.command.requestHash
          responseRef := input.command.eventId }
      outbox := outbox }

/-- `commitCanary` and `commitProductionRelease`. -/
def commit (input : ReleaseCommit) : Except ReleaseCenterError Aggregate × PostgresStore :=
  match store.findCommand input.command with
  | .error error => (.error error, store)
  | .ok (some found) => (.ok found, store)
  | .ok none =>
    match store.write input >>= fun written => written.complete input with
    | .ok next => (.ok input.aggregate, next)
    | .error error => (.error error, store)

end PostgresStore

/-- `PostgresReleaseCenterRepository`. -/
def postgresRepository (collate : JsString → JsString → Bool) :
    ReleaseCenterRepository PostgresStore where
  Slot := AggregateKey
  slot := fun key => key
  get := PostgresStore.get collate
  findCommand := PostgresStore.findCommand
  commit := PostgresStore.commit

section Frames

variable {store written next : PostgresStore} {id id' : JsString} {α : Type}
  {rows : List (JsString × α)} {addition : Addition} {value : ProductionReleaseAggregate}
  {expectedVersion : ℕ}

/-- Only the canary of an id is written. -/
structure CanaryFrame (store next : PostgresStore) (id : JsString) : Prop where
  canaries : ∀ id', id' ≠ id → next.canaries.get id' = store.canaries.get id'
  windows : ∀ id', id' ≠ id → rowsOf id' next.windows = rowsOf id' store.windows
  events : ∀ id', id' ≠ id → rowsOf id' next.events = rowsOf id' store.events
  releases : next.releases = store.releases ∧ next.gates = store.gates ∧
    next.signatures = store.signatures
  keys : next.idempotency = store.idempotency ∧ next.outbox = store.outbox

/-- Only the release of an id is written. -/
structure ReleaseFrame (store next : PostgresStore) (id : JsString) : Prop where
  releases : ∀ id', id' ≠ id → next.releases.get id' = store.releases.get id'
  gates : ∀ id', id' ≠ id → rowsOf id' next.gates = rowsOf id' store.gates
  signatures : ∀ id', id' ≠ id → rowsOf id' next.signatures = rowsOf id' store.signatures
  canaries : next.canaries = store.canaries ∧ next.windows = store.windows ∧
    next.events = store.events
  keys : next.idempotency = store.idempotency ∧ next.outbox = store.outbox

theorem CanaryFrame.trans {id : JsString} (h : CanaryFrame store written id)
    (h' : CanaryFrame written next id) : CanaryFrame store next id where
  canaries := fun id' hid => (h'.canaries id' hid).trans (h.canaries id' hid)
  windows := fun id' hid => (h'.windows id' hid).trans (h.windows id' hid)
  events := fun id' hid => (h'.events id' hid).trans (h.events id' hid)
  releases := ⟨h'.releases.1.trans h.releases.1, h'.releases.2.1.trans h.releases.2.1,
    h'.releases.2.2.trans h.releases.2.2⟩
  keys := ⟨h'.keys.1.trans h.keys.1, h'.keys.2.trans h.keys.2⟩

theorem ReleaseFrame.trans {id : JsString} (h : ReleaseFrame store written id)
    (h' : ReleaseFrame written next id) : ReleaseFrame store next id where
  releases := fun id' hid => (h'.releases id' hid).trans (h.releases id' hid)
  gates := fun id' hid => (h'.gates id' hid).trans (h.gates id' hid)
  signatures := fun id' hid => (h'.signatures id' hid).trans (h.signatures id' hid)
  canaries := ⟨h'.canaries.1.trans h.canaries.1, h'.canaries.2.1.trans h.canaries.2.1,
    h'.canaries.2.2.trans h.canaries.2.2⟩
  keys := ⟨h'.keys.1.trans h.keys.1, h'.keys.2.trans h.keys.2⟩

theorem rowsOf_append {added : α} (hid : id' ≠ id) :
    rowsOf id' (rows ++ [(id, added)]) = rowsOf id' rows := by
  simp [rowsOf, hid.symm]

theorem rowsOf_map {f : JsString × α → JsString × α} (hkey : ∀ row, (f row).1 = row.1)
    (hother : ∀ row, row.1 ≠ id → f row = row) (hid : id' ≠ id) :
    rowsOf id' (rows.map f) = rowsOf id' rows := by
  induction rows with
  | nil => rfl
  | cons row rest ih =>
      unfold rowsOf at ih ⊢
      rw [List.map_cons, List.filter_cons, List.filter_cons, hkey]
      by_cases hrow : row.1 = id'
      · rw [if_pos (decide_eq_true hrow), if_pos (decide_eq_true hrow), List.map_cons,
          List.map_cons, ih, hother row (hrow.trans_ne hid)]
      · rw [if_neg (by simpa using hrow), if_neg (by simpa using hrow), ih]

theorem rowsOf_filter {p : JsString × α → Bool} (hother : ∀ row, row.1 ≠ id → p row = true)
    (hid : id' ≠ id) : rowsOf id' (rows.filter p) = rowsOf id' rows := by
  unfold rowsOf
  rw [List.filter_filter]
  congr 1
  apply List.filter_congr
  intro row _
  by_cases hrow : row.1 = id'
  · simp [hrow, hother row (hrow.trans_ne hid)]
  · simp [hrow]

theorem frame_addToCanary {value : CanaryAggregate}
    (h : store.addToCanary value addition = .ok next) :
    CanaryFrame store next value.id ∧ next.canaries = store.canaries := by
  have hsame : CanaryFrame store store value.id :=
    ⟨fun _ _ => rfl, fun _ _ => rfl, fun _ _ => rfl, ⟨rfl, rfl, rfl⟩, ⟨rfl, rfl⟩⟩
  cases addition with
  | window added =>
      simp only [PostgresStore.addToCanary] at h
      split at h
      · cases h
      · obtain rfl := Except.ok.inj h
        exact ⟨{ hsame with windows := fun id' hid => rowsOf_append hid }, rfl⟩
  | event added =>
      simp only [PostgresStore.addToCanary] at h
      split at h
      · cases h
      · obtain rfl := Except.ok.inj h
        exact ⟨{ hsame with events := fun id' hid => rowsOf_append hid }, rfl⟩
  | resolved eventId =>
      simp only [PostgresStore.addToCanary] at h
      split at h
      · cases h
      · split at h
        · obtain rfl := Except.ok.inj h
          refine ⟨{ hsame with events := fun id' hid => rowsOf_map ?_ ?_ hid }, rfl⟩
          · intro row
            split <;> rfl
          · intro row hrow
            simp [hrow]
        · cases h
  | nothing =>
      obtain rfl := Except.ok.inj h
      exact ⟨hsame, rfl⟩
  | gate added =>
      obtain rfl := Except.ok.inj h
      exact ⟨hsame, rfl⟩
  | signature added =>
      obtain rfl := Except.ok.inj h
      exact ⟨hsame, rfl⟩

theorem frame_addToRelease (h : store.addToRelease value addition = .ok next) :
    ReleaseFrame store next value.id ∧ next.releases = store.releases := by
  have hsame : ReleaseFrame store store value.id :=
    ⟨fun _ _ => rfl, fun _ _ => rfl, fun _ _ => rfl, ⟨rfl, rfl, rfl⟩, ⟨rfl, rfl⟩⟩
  cases addition with
  | gate added =>
      simp only [PostgresStore.addToRelease] at h
      split at h
      · cases h
      · obtain rfl := Except.ok.inj h
        refine ⟨{ hsame with gates := fun id' hid => ?_ }, rfl⟩
        refine (rowsOf_append hid).trans (rowsOf_filter ?_ hid)
        intro row hrow
        simp [hrow]
  | signature added =>
      simp only [PostgresStore.addToRelease] at h
      split at h
      · cases h
      · obtain rfl := Except.ok.inj h
        exact ⟨{ hsame with signatures := fun id' hid => rowsOf_append hid }, rfl⟩
  | nothing =>
      obtain rfl := Except.ok.inj h
      exact ⟨hsame, rfl⟩
  | window added =>
      obtain rfl := Except.ok.inj h
      exact ⟨hsame, rfl⟩
  | event added =>
      obtain rfl := Except.ok.inj h
      exact ⟨hsame, rfl⟩
  | resolved eventId =>
      obtain rfl := Except.ok.inj h
      exact ⟨hsame, rfl⟩

theorem writeRow_cases {Row : Type} {id : Row → JsString} {table table' : Sql.Table id}
    {row : Row} {isExpected : Row → Bool} {update : Row → Row}
    {hid : ∀ old, id (update old) = id old}
    (h : PostgresStore.writeRow table row expectedVersion isExpected update hid = .ok table')
    (hexpected : ∀ old, isExpected old = true → id old = id row) :
    (∀ id', id' ≠ id row → table'.get id' = table.get id') ∧
      ((expectedVersion = 0 ∧ table.get (id row) = none ∧ table'.get (id row) = some row) ∨
        (expectedVersion ≠ 0 ∧ ∃ old, table.get (id row) = some old ∧ isExpected old = true ∧
          table'.get (id row) = some (update old))) := by
  unfold PostgresStore.writeRow at h
  split at h
  · next hzero =>
    split at h
    · cases h
    · next hnone =>
      obtain rfl := Except.ok.inj h
      have hfree : table.get (id row) = none := by simpa using hnone
      refine ⟨?_, .inl ⟨hzero, hfree, ?_⟩⟩
      · intro id' hne
        exact Sql.Table.get_insertNew.trans (if_neg fun hkey => hne hkey.1.symm)
      · exact Sql.Table.get_insertNew.trans (if_pos ⟨rfl, hfree⟩)
  · next hversion =>
    split at h
    · next hany =>
      obtain rfl := Except.ok.inj h
      obtain ⟨old, hold, hmatch⟩ : ∃ old, table.get (id row) = some old ∧ isExpected old = true := by
        cases hget : table.get (id row) with
        | none => simp [hget] at hany
        | some old => exact ⟨old, rfl, by simpa [hget] using hany⟩
      refine ⟨?_, .inr ⟨hversion, old, hold, hmatch, ?_⟩⟩
      · intro id' hne
        refine Sql.Table.get_updateWhere.trans ?_
        cases hother : table.get id' with
        | none => rfl
        | some other =>
            have hunexpected : ¬ isExpected other = true := by
              intro hmatch'
              exact hne ((Sql.Table.key_of_get hother).symm.trans (hexpected other hmatch'))
            rw [Option.map_some, if_neg hunexpected]
      · refine Sql.Table.get_updateWhere.trans ?_
        rw [hold, Option.map_some, if_pos hmatch]
    · cases h

theorem isExpectedCanary_iff {value row : CanaryAggregate} :
    PostgresStore.isExpectedCanary value expectedVersion row = true ↔ row.id = value.id ∧
      row.organizationId = value.organizationId ∧ row.projectId = value.projectId ∧
      row.version = expectedVersion := by
  simp [PostgresStore.isExpectedCanary, and_assoc]

theorem isExpectedRelease_iff {value row : ProductionReleaseAggregate} :
    PostgresStore.isExpectedRelease value expectedVersion row = true ↔ row.id = value.id ∧
      row.organizationId = value.organizationId ∧ row.projectId = value.projectId ∧
      row.version = expectedVersion := by
  simp [PostgresStore.isExpectedRelease, and_assoc]

theorem writeCanary_cases {value : CanaryAggregate}
    (h : store.writeCanary value expectedVersion = .ok next) :
    CanaryFrame store next value.id ∧
      ((expectedVersion = 0 ∧ store.canaries.get value.id = none ∧
          next.canaries.get value.id = some { value with windows := [], events := [] }) ∨
        (expectedVersion ≠ 0 ∧ ∃ row, store.canaries.get value.id = some row ∧
          PostgresStore.isExpectedCanary value expectedVersion row = true ∧
          next.canaries.get value.id = some (PostgresStore.updateCanary value row))) := by
  obtain ⟨canaries, hwritten, h⟩ := bind_eq_ok.mp h
  obtain rfl := Except.ok.inj h
  have hexpected : ∀ row, PostgresStore.isExpectedCanary value expectedVersion row = true →
      row.id = value.id := fun _ hmatch => (isExpectedCanary_iff.mp hmatch).1
  obtain ⟨hothers, hrow⟩ := writeRow_cases hwritten hexpected
  exact ⟨⟨hothers, fun _ _ => rfl, fun _ _ => rfl, ⟨rfl, rfl, rfl⟩, ⟨rfl, rfl⟩⟩, hrow⟩

theorem writeRelease_cases (h : store.writeRelease value expectedVersion = .ok next) :
    ReleaseFrame store next value.id ∧
      ((expectedVersion = 0 ∧ store.releases.get value.id = none ∧
          next.releases.get value.id = some { value with gates := [], signatures := [] }) ∨
        (expectedVersion ≠ 0 ∧ ∃ row, store.releases.get value.id = some row ∧
          PostgresStore.isExpectedRelease value expectedVersion row = true ∧
          next.releases.get value.id = some (PostgresStore.updateRelease value row))) := by
  unfold PostgresStore.writeRelease at h
  split at h
  · cases h
  · obtain ⟨releases, hwritten, h⟩ := bind_eq_ok.mp h
    obtain rfl := Except.ok.inj h
    have hexpected : ∀ row, PostgresStore.isExpectedRelease value expectedVersion row = true →
        row.id = value.id := fun _ hmatch => (isExpectedRelease_iff.mp hmatch).1
    obtain ⟨hothers, hrow⟩ := writeRow_cases hwritten hexpected
    exact ⟨⟨hothers, fun _ _ => rfl, fun _ _ => rfl, ⟨rfl, rfl, rfl⟩, ⟨rfl, rfl⟩⟩, hrow⟩

end Frames

section Laws

variable {collate : JsString → JsString → Bool} {store written next : PostgresStore}
  {input : ReleaseCommit} {command : ReleaseCommandMetadata}
  {resp : Except ReleaseCenterError Aggregate} {scope : ReleaseCenterScope} {id : JsString}
  {found : Aggregate} {expectedVersion : ℕ} {addition : Addition}

theorem postgres_get_canary : store.get collate ⟨.canary, scope, id⟩ = some found ↔
      ∃ row, store.canaries.get id = some row ∧ row.organizationId = scope.organizationId ∧
        row.projectId = scope.projectId ∧
        found = .canary (PostgresStore.mapCanary collate store row) := by
  simp only [PostgresStore.get, Option.map_eq_some_iff, Option.filter_eq_some_iff,
    decide_eq_true_eq]
  constructor
  · rintro ⟨row, ⟨hrow, horganization, hproject⟩, rfl⟩
    exact ⟨row, hrow, horganization, hproject, rfl⟩
  · rintro ⟨row, hrow, horganization, hproject, rfl⟩
    exact ⟨row, ⟨hrow, horganization, hproject⟩, rfl⟩

theorem postgres_get_release : store.get collate ⟨.production, scope, id⟩ = some found ↔
      ∃ row, store.releases.get id = some row ∧ row.organizationId = scope.organizationId ∧
        row.projectId = scope.projectId ∧
        found = .production (PostgresStore.mapRelease collate store row) := by
  simp only [PostgresStore.get, Option.map_eq_some_iff, Option.filter_eq_some_iff,
    decide_eq_true_eq]
  constructor
  · rintro ⟨row, ⟨hrow, horganization, hproject⟩, rfl⟩
    exact ⟨row, hrow, horganization, hproject, rfl⟩
  · rintro ⟨row, hrow, horganization, hproject, rfl⟩
    exact ⟨row, ⟨hrow, horganization, hproject⟩, rfl⟩

variable (collate) in
theorem complete_cases (h : written.complete input = .ok next) :
    (∀ key, next.get collate key = written.get collate key) ∧
      next.idempotency = written.idempotency.insertNew
        { scope := input.command.idempotencyScope
          requestHash := input.command.requestHash
          responseRef := input.command.eventId } ∧
      (∃ event, event.payload = input.aggregate ∧
        next.outbox.get input.command.eventId = some event) ∧
      ∀ id event, written.outbox.get id = some event → next.outbox.get id = some event := by
  unfold PostgresStore.complete at h
  split at h
  · cases h
  · next outbox hinsert =>
    obtain rfl := Except.ok.inj h
    exact ⟨fun _ => rfl, rfl, ⟨_, rfl, Sql.Indexed.get_insert_self hinsert⟩,
      fun id event hevent => Sql.Indexed.get_of_insert hinsert hevent⟩

theorem write_keys (h : store.write input = .ok written) :
    written.idempotency = store.idempotency ∧ written.outbox = store.outbox := by
  unfold PostgresStore.write at h
  split at h
  · obtain ⟨middle, hrow, hadded⟩ := bind_eq_ok.mp h
    exact ((writeCanary_cases hrow).1.trans (frame_addToCanary hadded).1).keys
  · obtain ⟨middle, hrow, hadded⟩ := bind_eq_ok.mp h
    exact ((writeRelease_cases hrow).1.trans (frame_addToRelease hadded).1).keys

theorem findCommand_eq_none : store.findCommand command = .ok none ↔
    store.idempotency.get command.idempotencyScope = none := by
  unfold PostgresStore.findCommand
  cases hrow : store.idempotency.get command.idempotencyScope with
  | none => simp
  | some row =>
      simp only [reduceCtorEq, iff_false]
      split
      · unfold replay
        split <;> simp
      · simp

theorem get_canary_congr (hrow : next.canaries.get id = store.canaries.get id)
    (hwindows : rowsOf id next.windows = rowsOf id store.windows)
    (hevents : rowsOf id next.events = rowsOf id store.events) :
    next.get collate ⟨.canary, scope, id⟩ = store.get collate ⟨.canary, scope, id⟩ := by
  simp only [PostgresStore.get, hrow]
  cases hget : store.canaries.get id with
  | none => rfl
  | some row =>
      have hid := Sql.Table.key_of_get hget
      have hsame : PostgresStore.mapCanary collate next row =
          PostgresStore.mapCanary collate store row := by
        simp only [PostgresStore.mapCanary, hid, hwindows, hevents]
      simp only [Option.filter]
      split
      · rw [Option.map_some, Option.map_some, hsame]
      · rfl

theorem get_release_congr (hrow : next.releases.get id = store.releases.get id)
    (hgates : rowsOf id next.gates = rowsOf id store.gates)
    (hsignatures : rowsOf id next.signatures = rowsOf id store.signatures) :
    next.get collate ⟨.production, scope, id⟩ = store.get collate ⟨.production, scope, id⟩ := by
  simp only [PostgresStore.get, hrow]
  cases hget : store.releases.get id with
  | none => rfl
  | some row =>
      have hid := Sql.Table.key_of_get hget
      have hsame : PostgresStore.mapRelease collate next row =
          PostgresStore.mapRelease collate store row := by
        simp only [PostgresStore.mapRelease, hid, hgates, hsignatures]
      simp only [Option.filter]
      split
      · rw [Option.map_some, Option.map_some, hsame]
      · rfl

theorem get_canary_eq_none
    (h : ∀ row, store.canaries.get id = some row → (⟨row.organizationId, row.projectId⟩ :
      ReleaseCenterScope) ≠ scope) : store.get collate ⟨.canary, scope, id⟩ = none := by
  rw [Option.eq_none_iff_forall_not_mem]
  intro found hfound
  obtain ⟨row, hrow, horganization, hproject, -⟩ := postgres_get_canary.mp hfound
  exact h row hrow (by rw [horganization, hproject])

theorem get_release_eq_none
    (h : ∀ row, store.releases.get id = some row → (⟨row.organizationId, row.projectId⟩ :
      ReleaseCenterScope) ≠ scope) : store.get collate ⟨.production, scope, id⟩ = none := by
  rw [Option.eq_none_iff_forall_not_mem]
  intro found hfound
  obtain ⟨row, hrow, horganization, hproject, -⟩ := postgres_get_release.mp hfound
  exact h row hrow (by rw [horganization, hproject])

/-- The part of `Written` that is about aggregates. -/
structure Stored (collate : JsString → JsString → Bool) (store : PostgresStore)
    (aggregate : Aggregate) (expectedVersion : ℕ) (next : PostgresStore) : Prop where
  created : expectedVersion = 0 → store.get collate aggregate.key = none
  updated : expectedVersion ≠ 0 → ∃ current, store.get collate aggregate.key = some current ∧
    current.version = expectedVersion
  stored : ∃ stored, next.get collate aggregate.key = some stored ∧
    stored.version = aggregate.version ∧ stored.key = aggregate.key
  others : ∀ key, key ≠ aggregate.key → next.get collate key = store.get collate key

theorem stored_canary {value : CanaryAggregate}
    (hrow : store.writeCanary value expectedVersion = .ok written)
    (hadded : written.addToCanary value addition = .ok next) :
    Stored collate store (.canary value) expectedVersion next := by
  obtain ⟨hframe, hcases⟩ := writeCanary_cases hrow
  obtain ⟨hadds, hcanaries⟩ := frame_addToCanary hadded
  have hwhole := hframe.trans hadds
  rw [← hcanaries] at hcases
  constructor
  · intro hzero
    rcases hcases with ⟨-, hnone, -⟩ | ⟨hversion, -⟩
    · apply get_canary_eq_none
      intro row hsome
      rw [hnone] at hsome
      cases hsome
    · exact absurd hzero hversion
  · intro hversion
    rcases hcases with ⟨hzero, -⟩ | ⟨-, row, hget, hmatch, -⟩
    · exact absurd hzero hversion
    · obtain ⟨-, horganization, hproject, hexpected⟩ := isExpectedCanary_iff.mp hmatch
      exact ⟨_, postgres_get_canary.mpr ⟨row, hget, horganization, hproject, rfl⟩, hexpected⟩
  · rcases hcases with ⟨-, -, hget⟩ | ⟨-, row, -, hmatch, hget⟩
    · exact ⟨_, postgres_get_canary.mpr ⟨_, hget, rfl, rfl, rfl⟩, rfl, rfl⟩
    · obtain ⟨hid, horganization, hproject, -⟩ := isExpectedCanary_iff.mp hmatch
      refine ⟨_, postgres_get_canary.mpr ⟨_, hget, horganization, hproject, rfl⟩, rfl, ?_⟩
      simp only [Aggregate.key, PostgresStore.mapCanary, PostgresStore.updateCanary, hid,
        horganization, hproject]
  · rintro ⟨kind, scope, id⟩ hkey
    cases kind with
    | production =>
        obtain ⟨hreleases, hgates, hsignatures⟩ := hwhole.releases
        apply get_release_congr
        · rw [hreleases]
        · rw [hgates]
        · rw [hsignatures]
    | canary =>
        by_cases hid : id = value.id
        · subst hid
          have hscope : (⟨value.organizationId, value.projectId⟩ : ReleaseCenterScope) ≠ scope := by
            rintro rfl
            exact hkey rfl
          rcases hcases with ⟨-, hnone, hget⟩ | ⟨-, row, hold, hmatch, hget⟩
          · rw [get_canary_eq_none, get_canary_eq_none]
            · intro row hsome
              rw [hnone] at hsome
              cases hsome
            · intro row hsome
              rw [hget] at hsome
              obtain rfl := Option.some.inj hsome
              exact hscope
          · obtain ⟨-, horganization, hproject, -⟩ := isExpectedCanary_iff.mp hmatch
            rw [get_canary_eq_none, get_canary_eq_none]
            · intro row' hsome
              rw [hold] at hsome
              obtain rfl := Option.some.inj hsome
              rw [horganization, hproject]
              exact hscope
            · intro row' hsome
              rw [hget] at hsome
              obtain rfl := Option.some.inj hsome
              simp only [PostgresStore.updateCanary]
              rw [horganization, hproject]
              exact hscope
        · exact get_canary_congr (hwhole.canaries id hid) (hwhole.windows id hid)
            (hwhole.events id hid)

theorem stored_release {value : ProductionReleaseAggregate}
    (hrow : store.writeRelease value expectedVersion = .ok written)
    (hadded : written.addToRelease value addition = .ok next) :
    Stored collate store (.production value) expectedVersion next := by
  obtain ⟨hframe, hcases⟩ := writeRelease_cases hrow
  obtain ⟨hadds, hreleases⟩ := frame_addToRelease hadded
  have hwhole := hframe.trans hadds
  rw [← hreleases] at hcases
  constructor
  · intro hzero
    rcases hcases with ⟨-, hnone, -⟩ | ⟨hversion, -⟩
    · apply get_release_eq_none
      intro row hsome
      rw [hnone] at hsome
      cases hsome
    · exact absurd hzero hversion
  · intro hversion
    rcases hcases with ⟨hzero, -⟩ | ⟨-, row, hget, hmatch, -⟩
    · exact absurd hzero hversion
    · obtain ⟨-, horganization, hproject, hexpected⟩ := isExpectedRelease_iff.mp hmatch
      exact ⟨_, postgres_get_release.mpr ⟨row, hget, horganization, hproject, rfl⟩, hexpected⟩
  · rcases hcases with ⟨-, -, hget⟩ | ⟨-, row, -, hmatch, hget⟩
    · exact ⟨_, postgres_get_release.mpr ⟨_, hget, rfl, rfl, rfl⟩, rfl, rfl⟩
    · obtain ⟨hid, horganization, hproject, -⟩ := isExpectedRelease_iff.mp hmatch
      refine ⟨_, postgres_get_release.mpr ⟨_, hget, horganization, hproject, rfl⟩, rfl, ?_⟩
      simp only [Aggregate.key, PostgresStore.mapRelease, PostgresStore.updateRelease, hid,
        horganization, hproject]
  · rintro ⟨kind, scope, id⟩ hkey
    cases kind with
    | canary =>
        obtain ⟨hcanaries, hwindows, hevents⟩ := hwhole.canaries
        apply get_canary_congr
        · rw [hcanaries]
        · rw [hwindows]
        · rw [hevents]
    | production =>
        by_cases hid : id = value.id
        · subst hid
          have hscope : (⟨value.organizationId, value.projectId⟩ : ReleaseCenterScope) ≠ scope := by
            rintro rfl
            exact hkey rfl
          rcases hcases with ⟨-, hnone, hget⟩ | ⟨-, row, hold, hmatch, hget⟩
          · rw [get_release_eq_none, get_release_eq_none]
            · intro row hsome
              rw [hnone] at hsome
              cases hsome
            · intro row hsome
              rw [hget] at hsome
              obtain rfl := Option.some.inj hsome
              exact hscope
          · obtain ⟨-, horganization, hproject, -⟩ := isExpectedRelease_iff.mp hmatch
            rw [get_release_eq_none, get_release_eq_none]
            · intro row' hsome
              rw [hold] at hsome
              obtain rfl := Option.some.inj hsome
              rw [horganization, hproject]
              exact hscope
            · intro row' hsome
              rw [hget] at hsome
              obtain rfl := Option.some.inj hsome
              simp only [PostgresStore.updateRelease]
              rw [horganization, hproject]
              exact hscope
        · exact get_release_congr (hwhole.releases id hid) (hwhole.gates id hid)
            (hwhole.signatures id hid)

variable (collate) in
theorem stored_write (h : store.write input = .ok written) :
    Stored collate store input.aggregate input.expectedVersion written := by
  unfold PostgresStore.write at h
  split at h
  · next value haggregate =>
    obtain ⟨middle, hrow, hadded⟩ := bind_eq_ok.mp h
    rw [haggregate]
    exact stored_canary hrow hadded
  · next value haggregate =>
    obtain ⟨middle, hrow, hadded⟩ := bind_eq_ok.mp h
    rw [haggregate]
    exact stored_release hrow hadded

theorem written_of_complete (hfree : store.idempotency.get input.command.idempotencyScope = none)
    (hwrite : store.write input = .ok written) (hcomplete : written.complete input = .ok next) :
    Written (postgresRepository collate) store input next := by
  obtain ⟨hcreated, hupdated, ⟨stored, hget, hversion, hkey⟩, hothers⟩ :=
    stored_write collate hwrite
  obtain ⟨hsame, hkeys, ⟨event, hpayload, hevent⟩, -⟩ :=
    complete_cases collate hcomplete
  rw [(write_keys hwrite).1] at hkeys
  refine ⟨hcreated, hupdated, ⟨stored, (hsame _).trans hget, hversion, hkey⟩, ?_, ?_⟩
  · intro key hne
    exact (hsame key).trans (hothers key hne)
  · intro command hscope
    change next.findCommand command = _
    unfold PostgresStore.findCommand
    rw [hkeys, Sql.Table.get_insertNew, if_pos ⟨hscope.symm, by rw [hscope]; exact hfree⟩]
    simp only [hevent, hpayload]

theorem postgres_commit_cases (h : store.commit input = (resp, next)) :
    (∃ found, store.findCommand input.command = .ok (some found) ∧ resp = .ok found ∧
        next = store) ∨
      (∃ error, (∀ found, store.findCommand input.command ≠ .ok (some found)) ∧
        resp = .error error ∧ next = store) ∨
      (store.findCommand input.command = .ok none ∧ resp = .ok input.aggregate ∧
        ∃ written, store.write input = .ok written ∧ written.complete input = .ok next) := by
  unfold PostgresStore.commit at h
  split at h
  · next error herror =>
    obtain ⟨rfl, rfl⟩ := Prod.mk.inj h
    exact .inr (.inl ⟨error, fun _ hfound => absurd (herror.symm.trans hfound) nofun, rfl, rfl⟩)
  · next found hfound =>
    obtain ⟨rfl, rfl⟩ := Prod.mk.inj h
    exact .inl ⟨found, hfound, rfl, rfl⟩
  · next hfree =>
    split at h
    · next hnext =>
      obtain ⟨rfl, rfl⟩ := Prod.mk.inj h
      exact .inr (.inr ⟨hfree, rfl, bind_eq_ok.mp hnext⟩)
    · next error _ =>
      obtain ⟨rfl, rfl⟩ := Prod.mk.inj h
      exact .inr (.inl ⟨error, fun _ hfound => absurd (hfree.symm.trans hfound) nofun, rfl, rfl⟩)

theorem postgres_rows_commit (h : store.commit input = (resp, next)) :
    (∀ scope row, store.idempotency.get scope = some row → next.idempotency.get scope = some row) ∧
      ∀ id event, store.outbox.get id = some event → next.outbox.get id = some event := by
  rcases postgres_commit_cases h with ⟨_, _, _, rfl⟩ | ⟨_, _, _, rfl⟩ |
    ⟨_, _, written, hwrite, hcomplete⟩
  · exact ⟨fun _ _ hrow => hrow, fun _ _ hevent => hevent⟩
  · exact ⟨fun _ _ hrow => hrow, fun _ _ hevent => hevent⟩
  · obtain ⟨hidempotency, houtbox⟩ := write_keys hwrite
    obtain ⟨-, hkeys, -, hevents⟩ := complete_cases (fun _ _ => true) hcomplete
    constructor
    · intro scope row hrow
      rw [hkeys, hidempotency, Sql.Table.get_insertNew, if_neg]
      · exact hrow
      · rintro ⟨-, hnone⟩
        rw [hrow] at hnone
        cases hnone
    · intro id event hevent
      rw [← houtbox] at hevent
      exact hevents id event hevent

theorem lawful_postgresRepository : Lawful (postgresRepository collate) fun _ => True where
  kinds := fun hkey => congrArg AggregateKey.kind hkey
  slots := fun hkey => by
    obtain rfl := hkey
    rfl
  finds := by
    intro store command command' hscope hhash
    change store.findCommand command = store.findCommand command'
    simp only [PostgresStore.findCommand, replay, hscope, hhash]
  outcome := by
    intro store input resp next _ h
    rcases postgres_commit_cases h with ⟨found, hfound, rfl, rfl⟩ | ⟨error, hnot, rfl, rfl⟩ |
      ⟨hfree, rfl, written, hwrite, hcomplete⟩
    · exact .replayed found hfound
    · exact .refused error hnot
    · exact .written next hfree
        (written_of_complete (findCommand_eq_none.mp hfree) hwrite hcomplete)
  valid := fun _ _ => trivial
  keeps := by
    intro store input resp next command found _ h hfound
    obtain ⟨hrows, hevents⟩ := postgres_rows_commit h
    change store.findCommand command = _ at hfound
    change next.findCommand command = _
    unfold PostgresStore.findCommand at hfound ⊢
    cases hrow : store.idempotency.get command.idempotencyScope with
    | none =>
        rw [hrow] at hfound
        cases hfound
    | some row =>
        simp only [hrow] at hfound
        simp only [hrows _ _ hrow]
        cases hevent : store.outbox.get row.responseRef with
        | none =>
            rw [hevent] at hfound
            cases hfound
        | some event =>
            simp only [hevent] at hfound
            simp only [hevents _ _ hevent]
            exact hfound
  claimed := by
    intro store input resp next command _ h hused hnone
    obtain ⟨hrows, -⟩ := postgres_rows_commit h
    apply hused
    apply findCommand_eq_none.mpr
    cases hrow : store.idempotency.get command.idempotencyScope with
    | none => rfl
    | some row => cases (hrows _ _ hrow).symm.trans (findCommand_eq_none.mp hnone)

end Laws

end DevHarness.ReleaseCenter
