import DevHarness.ReleaseCenter.Production

/-!
# The repository of the release center

What the service asks of its repository, for canaries and releases alike, and what a commit has to
leave.  Two repositories keep to it: one in memory and one on database tables.
-/

namespace DevHarness.ReleaseCenter

open JsText

inductive ReleaseCenterError
  /-- An error of the domain or of a gate. -/
  | domain (error : ReleaseError)
  | notFound
  | versionConflict
  | idempotencyConflict
  /-- The authorizer or the database has failed. -/
  | outside (message : JsString)
  deriving DecidableEq

structure ReleaseCenterScope where
  organizationId : JsString
  projectId : JsString
  deriving DecidableEq

inductive AggregateKind
  | canary
  | production
  deriving DecidableEq

structure AggregateKey where
  kind : AggregateKind
  scope : ReleaseCenterScope
  id : JsString
  deriving DecidableEq

/-- A canary or a production release. -/
inductive Aggregate
  | canary (value : CanaryAggregate)
  | production (value : ProductionReleaseAggregate)

namespace Aggregate

def version : Aggregate → ℕ
  | canary value => value.version
  | production value => value.version

def key : Aggregate → AggregateKey
  | canary value => ⟨.canary, ⟨value.organizationId, value.projectId⟩, value.id⟩
  | production value => ⟨.production, ⟨value.organizationId, value.projectId⟩, value.id⟩

end Aggregate

/-! ## Commits -/

structure ReleaseCommandMetadata where
  scope : ReleaseCenterScope
  actorId : JsString
  requestId : JsString
  idempotencyKey : JsString
  requestHash : JsString
  endpoint : JsString
  reason : JsString
  auditId : JsString
  eventId : JsString
  eventType : JsString
  occurredAt : ℤ

/-- What a key is used for: each actor has the keys of an endpoint for itself. -/
structure IdempotencyScope where
  organizationId : JsString
  actorId : JsString
  endpoint : JsString
  key : JsString
  deriving DecidableEq

def ReleaseCommandMetadata.idempotencyScope (command : ReleaseCommandMetadata) :
    IdempotencyScope where
  organizationId := command.scope.organizationId
  actorId := command.actorId
  endpoint := command.endpoint
  key := command.idempotencyKey

/-- What a commit writes beside the aggregate: `appendWindow`, `appendEvent`, `resolvedEventId`,
`gate` or `signature`. -/
inductive Addition
  | nothing
  | window (added : CanaryWindow)
  | event (added : CanaryEvent)
  | resolved (eventId : JsString)
  | gate (added : ProductionGateCheck)
  | signature (added : ProductionSignature)

/-- A `CanaryCommit` or a `ProductionReleaseCommit`. -/
structure ReleaseCommit where
  aggregate : Aggregate
  expectedVersion : ℕ
  command : ReleaseCommandMetadata
  addition : Addition

/-! ## Repositories -/

/-- What the service asks of a repository; aggregates whose keys have one slot are kept in one
place. -/
structure ReleaseCenterRepository (Store : Type) where
  Slot : Type
  slot : AggregateKey → Slot
  /-- `getCanary` and `getProductionRelease`. -/
  get : Store → AggregateKey → Option Aggregate
  /-- `findCanaryCommand` and `findProductionReleaseCommand`. -/
  findCommand : Store → ReleaseCommandMetadata → Except ReleaseCenterError (Option Aggregate)
  /-- `commitCanary` and `commitProductionRelease`. -/
  commit : Store → ReleaseCommit → Except ReleaseCenterError Aggregate × Store

def replay (requestHash : JsString) (aggregate : Aggregate) (command : ReleaseCommandMetadata) :
    Except ReleaseCenterError (Option Aggregate) :=
  if requestHash = command.requestHash then .ok (some aggregate) else .error .idempotencyConflict

variable {Store : Type}

/-- What a commit that writes has found, and what it leaves. -/
structure Written (repository : ReleaseCenterRepository Store) (store : Store)
    (input : ReleaseCommit) (next : Store) : Prop where
  created : input.expectedVersion = 0 → repository.get store input.aggregate.key = none
  updated : input.expectedVersion ≠ 0 → ∃ current,
    repository.get store input.aggregate.key = some current ∧
      current.version = input.expectedVersion
  stored : ∃ stored, repository.get next input.aggregate.key = some stored ∧
    stored.version = input.aggregate.version ∧
    repository.slot stored.key = repository.slot input.aggregate.key
  others : ∀ key, repository.slot key ≠ repository.slot input.aggregate.key →
    repository.get next key = repository.get store key
  recorded : ∀ command : ReleaseCommandMetadata,
    command.idempotencyScope = input.command.idempotencyScope →
    repository.findCommand next command = replay input.command.requestHash input.aggregate command

/-- How a commit ends: it replays, it is refused, or it writes. -/
inductive CommitOutcome (repository : ReleaseCenterRepository Store) (store : Store)
    (input : ReleaseCommit) : Except ReleaseCenterError Aggregate → Store → Prop
  | replayed (found : Aggregate)
      (hfound : repository.findCommand store input.command = .ok (some found)) :
      CommitOutcome repository store input (.ok found) store
  | refused (error : ReleaseCenterError)
      (hnot : ∀ found, repository.findCommand store input.command ≠ .ok (some found)) :
      CommitOutcome repository store input (.error error) store
  | written (next : Store) (hfree : repository.findCommand store input.command = .ok none)
      (hwritten : Written repository store input next) :
      CommitOutcome repository store input (.ok input.aggregate) next

/-- What a repository promises of the stores that it can reach. -/
structure Lawful (repository : ReleaseCenterRepository Store) (Valid : Store → Prop) : Prop where
  kinds : ∀ {key key'}, repository.slot key = repository.slot key' → key.kind = key'.kind
  slots : ∀ {store key key'}, repository.slot key = repository.slot key' →
    repository.get store key = repository.get store key'
  finds : ∀ {store} {command command' : ReleaseCommandMetadata},
    command.idempotencyScope = command'.idempotencyScope →
    command.requestHash = command'.requestHash →
    repository.findCommand store command = repository.findCommand store command'
  outcome : ∀ {store input resp next}, Valid store →
    repository.commit store input = (resp, next) → CommitOutcome repository store input resp next
  valid : ∀ {store input resp next}, Valid store → repository.commit store input = (resp, next) →
    Valid next
  /-- What a key replays it replays from then on. -/
  keeps : ∀ {store input resp next command found}, Valid store →
    repository.commit store input = (resp, next) →
    repository.findCommand store command = .ok (some found) →
    repository.findCommand next command = .ok (some found)
  /-- A key that has been used stays so. -/
  claimed : ∀ {store input resp next command}, Valid store →
    repository.commit store input = (resp, next) →
    repository.findCommand store command ≠ .ok none →
    repository.findCommand next command ≠ .ok none

end DevHarness.ReleaseCenter
