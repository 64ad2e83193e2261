import DevHarness.ReleaseCenter.Repository

/-!
# The repository in memory

Maps from joined keys; a commit replaces the whole aggregate.
-/

namespace DevHarness.ReleaseCenter

open JsText

/-! ## The store -/

structure IdempotentResult where
  requestHash : JsString
  aggregate : Aggregate

/-- `key` of the repository. -/
def joinedKey (key : AggregateKey) : JsString :=
  key.scope.organizationId ++ js ":" ++ key.scope.projectId ++ js ":" ++ key.id

/-- `commandKey`. -/
def joinedScope (scope : IdempotencyScope) : JsString :=
  scope.organizationId ++ js ":" ++ scope.actorId ++ js ":" ++ scope.endpoint ++ js ":" ++ scope.key

/-- The maps `canaries` and `releases`, and `idempotency`. -/
structure MemoryStore where
  aggregates : AggregateKind → JsString → Option Aggregate
  idempotency : JsString → Option IdempotentResult

namespace MemoryStore

def empty : MemoryStore where
  aggregates := fun _ _ => none
  idempotency := fun _ => none

def get (store : MemoryStore) (key : AggregateKey) : Option Aggregate :=
  store.aggregates key.kind (joinedKey key)

/-- `replay`. -/
def findCommand (store : MemoryStore) (command : ReleaseCommandMetadata) :
    Except ReleaseCenterError (Option Aggregate) :=
  match store.idempotency (joinedScope command.idempotencyScope) with
  | some existing => replay existing.requestHash existing.aggregate command
  | none => .ok none

def asExpected (current : Option Aggregate) (expectedVersion : ℕ) : Bool :=
  match current with
  | none => expectedVersion = 0
  | some current => expectedVersion ≠ 0 && current.version = expectedVersion

def remember (store : MemoryStore) (input : ReleaseCommit) : MemoryStore where
  aggregates := fun kind key =>
    if kind = input.aggregate.key.kind ∧ key = joinedKey input.aggregate.key then
      some input.aggregate
    else store.aggregates kind key
  idempotency := fun scope =>
    if scope = joinedScope input.command.idempotencyScope then
      some { requestHash := input.command.requestHash, aggregate := input.aggregate }
    else store.idempotency scope

def commit (store : MemoryStore) (input : ReleaseCommit) :
    Except ReleaseCenterError Aggregate × MemoryStore :=
  match store.findCommand input.command with
  | .error error => (.error error, store)
  | .ok (some found) => (.ok found, store)
  | .ok none =>
    if asExpected (store.get input.aggregate.key) input.expectedVersion then
      (.ok input.aggregate, store.remember input)
    else (.error .versionConflict, store)

end MemoryStore

/-- `MemoryReleaseCenterRepository`. -/
def memoryRepository : ReleaseCenterRepository MemoryStore where
  Slot := AggregateKind × JsString
  slot := fun key => (key.kind, joinedKey key)
  get := MemoryStore.get
  findCommand := MemoryStore.findCommand
  commit := MemoryStore.commit

section Laws

variable {store next : MemoryStore} {input : ReleaseCommit} {command : ReleaseCommandMetadata}
  {resp : Except ReleaseCenterError Aggregate}

theorem asExpected_iff {current : Option Aggregate} {expectedVersion : ℕ} :
    MemoryStore.asExpected current expectedVersion = true ↔
      (expectedVersion = 0 → current = none) ∧
      (expectedVersion ≠ 0 → ∃ found, current = some found ∧ found.version = expectedVersion) := by
  cases current with
  | none => simp [MemoryStore.asExpected]
  | some found =>
      simp only [MemoryStore.asExpected, Bool.and_eq_true, decide_eq_true_eq, ne_eq,
        reduceCtorEq, imp_false, Option.some.injEq, exists_eq_left']
      constructor
      · rintro ⟨hne, hversion⟩
        exact ⟨hne, fun _ => hversion⟩
      · rintro ⟨hne, hversion⟩
        exact ⟨hne, hversion hne⟩

theorem memory_get_remember (key : AggregateKey) : (store.remember input).get key =
    if key.kind = input.aggregate.key.kind ∧ joinedKey key = joinedKey input.aggregate.key then
      some input.aggregate
    else store.get key := rfl

theorem memory_findCommand_remember : (store.remember input).findCommand command =
    if joinedScope command.idempotencyScope = joinedScope input.command.idempotencyScope then
      replay input.command.requestHash input.aggregate command
    else store.findCommand command := by
  simp only [MemoryStore.findCommand, MemoryStore.remember]
  by_cases hscope :
      joinedScope command.idempotencyScope = joinedScope input.command.idempotencyScope
  · simp [hscope]
  · simp [hscope]

theorem memory_findCommand_congr {command' : ReleaseCommandMetadata}
    (hscope : joinedScope command.idempotencyScope = joinedScope command'.idempotencyScope)
    (h : store.findCommand command = .ok none) : store.findCommand command' = .ok none := by
  unfold MemoryStore.findCommand at h ⊢
  rw [← hscope]
  cases hexisting : store.idempotency (joinedScope command.idempotencyScope) with
  | none => rfl
  | some existing =>
      rw [hexisting] at h
      simp only [replay] at h
      split at h <;> cases h

theorem memory_written (hexpected :
    MemoryStore.asExpected (store.get input.aggregate.key) input.expectedVersion = true) :
    Written memoryRepository store input (store.remember input) := by
  obtain ⟨hcreated, hupdated⟩ := asExpected_iff.mp hexpected
  refine ⟨hcreated, hupdated, ⟨input.aggregate, ?_, rfl, rfl⟩, ?_, ?_⟩
  · exact (memory_get_remember _).trans (if_pos ⟨rfl, rfl⟩)
  · intro key hkey
    exact (memory_get_remember _).trans (if_neg fun h => hkey (Prod.ext h.1 h.2))
  · intro command hscope
    exact memory_findCommand_remember.trans (if_pos (congrArg joinedScope hscope))

theorem memory_outcome (h : store.commit input = (resp, next)) :
    CommitOutcome memoryRepository store input resp next := by
  unfold MemoryStore.commit at h
  split at h
  · next error herror =>
    obtain ⟨rfl, rfl⟩ := Prod.mk.inj h
    refine .refused error fun found hfound => ?_
    exact absurd (herror.symm.trans hfound) nofun
  · next found hfound =>
    obtain ⟨rfl, rfl⟩ := Prod.mk.inj h
    exact .replayed found hfound
  · next hfree =>
    split at h
    · next hexpected =>
      obtain ⟨rfl, rfl⟩ := Prod.mk.inj h
      exact .written _ hfree (memory_written hexpected)
    · obtain ⟨rfl, rfl⟩ := Prod.mk.inj h
      refine .refused _ fun found hfound => ?_
      exact absurd (hfree.symm.trans hfound) nofun

theorem memory_findCommand_commit (h : store.commit input = (resp, next))
    (hused : store.findCommand command ≠ .ok none) :
    next.findCommand command = store.findCommand command := by
  unfold MemoryStore.commit at h
  split at h
  · rw [← (Prod.mk.inj h).2]
  · rw [← (Prod.mk.inj h).2]
  · next hfree =>
    split at h
    · rw [← (Prod.mk.inj h).2, memory_findCommand_remember]
      refine if_neg fun hscope => hused ?_
      exact memory_findCommand_congr hscope.symm hfree
    · rw [← (Prod.mk.inj h).2]

theorem lawful_memoryRepository : Lawful memoryRepository fun _ => True where
  kinds := fun hslot => (Prod.mk.inj hslot).1
  slots := by
    intro store key key' hslot
    obtain ⟨hkind, hjoined⟩ := Prod.mk.inj hslot
    change store.get key = store.get key'
    rw [MemoryStore.get, MemoryStore.get, hkind, hjoined]
  finds := by
    intro store command command' hscope hhash
    change store.findCommand command = store.findCommand command'
    simp only [MemoryStore.findCommand, replay, hscope, hhash]
  outcome := fun _ h => memory_outcome h
  valid := fun _ _ => trivial
  keeps := by
    intro store input resp next command found _ h hfound
    have hused : store.findCommand command ≠ .ok none :=
      fun hnone => absurd (hfound.symm.trans hnone) nofun
    exact (memory_findCommand_commit h hused).trans hfound
  claimed := by
    intro store input resp next command _ h hused hnone
    exact hused ((memory_findCommand_commit h hused).symm.trans hnone)

end Laws

end DevHarness.ReleaseCenter
