import DevHarness.Sequence.FirstMatch
import DevHarness.Text.PyString

/-!
# The host capacity broker

The file-backed broker.  Its document is one JSON file; every operation reads it, reconciles it
with the processes that are alive, and writes it, all under one lock.
-/

namespace DevHarness.HostCapacity

open PyText Sequence

/-! ## Policy and document -/

/-- `HostPolicy`, as `load_host_policy` leaves it. -/
structure HostPolicy where
  maxActiveWorkers : ℕ
  providerLimits : List (PyString × ℕ)
  positive : 0 < maxActiveWorkers
  limited : ∀ entry ∈ providerLimits, entry.1 ≠ [] ∧ 0 < entry.2
  unique : (providerLimits.map Prod.fst).Nodup

/-- `provider_limits.get(provider)`. -/
def HostPolicy.limit (policy : HostPolicy) (provider : PyString) : Option ℕ :=
  (policy.providerLimits.find? fun entry => decide (entry.1 = provider)).map Prod.snd

def HostPolicy.normalize (policy : HostPolicy) (provider : PyString) : PyString :=
  if (policy.limit provider).isSome then provider else []

inductive LeaseStatus
  | live
  | orphan
  | needsReconcile
  deriving DecidableEq

/-- The fields of a lease that waits for a provider. -/
structure ProviderRequest where
  requestedProvider : PyString
  priority : ℤ
  requestedAt : PyString
  deriving DecidableEq

structure Lease where
  token : PyString
  projectId : PyString
  workerId : PyString
  runId : PyString
  provider : PyString
  resources : List PyString
  pid : ℤ
  processStartIdentity : PyString
  supervisorPid : ℤ
  supervisorStartIdentity : PyString
  status : LeaseStatus
  acquiredAt : PyString
  heartbeatAt : PyString
  /-- `phase` is `waiting_provider`. -/
  waitingProvider : Option ProviderRequest
  deriving DecidableEq

structure Waiter where
  requestId : PyString
  projectId : PyString
  workerId : PyString
  runId : PyString
  provider : PyString
  resources : List PyString
  pid : ℤ
  processStartIdentity : PyString
  requestedAt : PyString
  heartbeatAt : PyString
  deriving DecidableEq

structure CapacityState where
  leases : List Lease
  waiters : List Waiter
  lastGrantedProject : PyString
  deriving DecidableEq

/-- `_empty_state`. -/
def CapacityState.empty : CapacityState where
  leases := []
  waiters := []
  lastGrantedProject := []

/-! ## Reconciliation -/

/-- What the operating system says while one record is looked at. -/
structure ProcessFacts where
  pidAlive : ℤ → Bool
  /-- `process_start_identity`; empty where it cannot be told. -/
  startIdentity : ℤ → PyString
  /-- The heartbeat can be read and is not stale. -/
  fresh : PyString → Bool

def ProcessFacts.reused (facts : ProcessFacts) (pid : ℤ) (recorded : PyString) : Bool :=
  let current := facts.startIdentity pid
  decide (recorded ≠ []) && decide (current ≠ []) && decide (recorded ≠ current)

def ProcessFacts.runs (facts : ProcessFacts) (pid : ℤ) (recorded : PyString) : Bool :=
  facts.pidAlive pid && !facts.reused pid recorded

def ProcessFacts.reconcileLease (facts : ProcessFacts) (lease : Lease) : Option Lease :=
  if facts.runs lease.pid lease.processStartIdentity then
    some { lease with
      status :=
        if facts.fresh lease.heartbeatAt then
          if facts.runs lease.supervisorPid lease.supervisorStartIdentity then .live else .orphan
        else .needsReconcile }
  else
    none

def ProcessFacts.keepsWaiter (facts : ProcessFacts) (waiter : Waiter) : Bool :=
  facts.runs waiter.pid waiter.processStartIdentity && facts.fresh waiter.heartbeatAt

def reconcileLeases : (ℕ → ProcessFacts) → List Lease → List Lease
  | _, [] => []
  | facts, lease :: leases =>
    match (facts 0).reconcileLease lease with
    | some kept => kept :: reconcileLeases (fun n => facts (n + 1)) leases
    | none => reconcileLeases (fun n => facts (n + 1)) leases

def reconcileWaiters : (ℕ → ProcessFacts) → List Waiter → List Waiter
  | _, [] => []
  | facts, waiter :: waiters =>
    if (facts 0).keepsWaiter waiter then
      waiter :: reconcileWaiters (fun n => facts (n + 1)) waiters
    else
      reconcileWaiters (fun n => facts (n + 1)) waiters

/-- What a step gets from outside: the facts for each record, and the time. -/
structure Outside where
  facts : ℕ → ProcessFacts
  waiterFacts : ℕ → ProcessFacts
  supervisorIdentity : PyString
  now : PyString

/-- `_reconcile_unlocked`. -/
def CapacityState.reconcile (state : CapacityState) (outside : Outside) : CapacityState :=
  { state with
    leases := reconcileLeases outside.facts state.leases
    waiters := reconcileWaiters outside.waiterFacts state.waiters }

def providerAvailable (policy : HostPolicy) (leases : List Lease) (provider : PyString) : Bool :=
  if provider = [] then true
  else
    match policy.limit provider with
    | none => true
    | some limit => decide (leases.countP (fun lease => decide (lease.provider = provider)) < limit)

def resourcesAvailable (leases : List Lease) (resources : List PyString) : Bool :=
  resources.all fun resource =>
    leases.all fun lease => decide (resource ∉ lease.resources)

def allocatable (policy : HostPolicy) (leases : List Lease) (waiter : Waiter) : Bool :=
  decide (leases.length < policy.maxActiveWorkers) &&
    providerAvailable policy leases waiter.provider &&
    resourcesAvailable leases waiter.resources

def CapacityState.queue (state : CapacityState) : List Waiter :=
  sortedBy (fun waiter => (waiter.requestedAt, waiter.requestId)) state.waiters

def CapacityState.projects (state : CapacityState) : List PyString :=
  let projects := PyText.sorted (state.queue.map Waiter.projectId).dedup
  if state.lastGrantedProject ∈ projects then
    let pivot := projects.idxOf state.lastGrantedProject + 1
    projects.drop pivot ++ projects.take pivot
  else
    projects

def CapacityState.head (state : CapacityState) (projectId : PyString) : Option Waiter :=
  state.queue.find? fun waiter => decide (waiter.projectId = projectId)

/-- `_selected_waiter`; the empty text stands for none. -/
def CapacityState.selectedWaiter (policy : HostPolicy) (state : CapacityState) : PyString :=
  let selected := state.projects.findSome? fun projectId =>
    (state.head projectId).filter fun waiter => allocatable policy state.leases waiter
  (selected.map Waiter.requestId).getD []

/-! ## `acquire` -/

/-- The arguments of `acquire`. -/
structure AcquireCall where
  projectId : PyString
  workerId : PyString
  runId : PyString
  provider : PyString
  resources : List PyString
  supervisorPid : Option ℤ
  pid : ℤ

/-- A call that waits: the entry that it puts into the document, and its supervisor. -/
structure Request extends Waiter where
  supervisorPid : ℤ
  deriving DecidableEq

/-- `int(supervisor_pid or pid)`. -/
def AcquireCall.supervisor (call : AcquireCall) : ℤ :=
  match call.supervisorPid with
  | some supervisorPid => if supervisorPid = 0 then call.pid else supervisorPid
  | none => call.pid

def AcquireCall.normalizedResources (call : AcquireCall) : List PyString :=
  PyText.sorted ((call.resources.map PyText.strip).filter fun item => decide (item ≠ [])).dedup

/-- What `acquire` prepares before it waits. -/
def AcquireCall.request (policy : HostPolicy) (call : AcquireCall) (requestId : PyString)
    (started now : PyString) : Request where
  requestId := requestId
  projectId := call.projectId
  workerId := call.workerId
  runId := call.runId
  provider := policy.normalize call.provider
  resources := call.normalizedResources
  pid := call.pid
  processStartIdentity := started
  requestedAt := now
  heartbeatAt := now
  supervisorPid := call.supervisor

def Request.lease (request : Request) (outside : Outside) (token : PyString) : Lease where
  token := token
  projectId := request.projectId
  workerId := request.workerId
  runId := request.runId
  provider := request.provider
  resources := request.resources
  pid := request.pid
  processStartIdentity := request.processStartIdentity
  supervisorPid := request.supervisorPid
  supervisorStartIdentity := outside.supervisorIdentity
  status := .live
  acquiredAt := outside.now
  heartbeatAt := outside.now
  waitingProvider := none

/-- How a pass of `transition_provider` ends: with the provider, without it, or with the error
that the lease is no longer active. -/
inductive Transition
  | done
  | waiting
  | inactive
  deriving DecidableEq

def Lease.settle (lease : Lease) (provider now : PyString) : Lease :=
  { lease with provider := provider, waitingProvider := none, heartbeatAt := now }

def Lease.await (lease : Lease) (provider : PyString) (priority : ℤ) (now : PyString) : Lease :=
  let request : ProviderRequest :=
    { requestedProvider := provider, priority := priority, requestedAt := now }
  { lease with
    provider := []
    waitingProvider :=
      match lease.waitingProvider with
      | some earlier => if earlier.requestedProvider = provider then some earlier else some request
      | none => some request }

namespace CapacityState

def announce (state : CapacityState) (request : Request) (now : PyString) : CapacityState :=
  { state with
    waiters :=
      if state.waiters.any fun item => decide (item.requestId = request.requestId) then
        updateFirst (fun item => decide (item.requestId = request.requestId))
          (fun item => { item with heartbeatAt := now }) state.waiters
      else
        state.waiters ++ [request.toWaiter] }

def grant (state : CapacityState) (request : Request) (outside : Outside) (token : PyString) :
    CapacityState where
  leases := state.leases ++ [request.lease outside token]
  waiters := state.waiters.filter fun item => decide (item.requestId ≠ request.requestId)
  lastGrantedProject := request.projectId

/-- One pass of the loop of `acquire` under the lock; whether the lease has been granted. -/
def acquire (policy : HostPolicy) (state : CapacityState) (request : Request) (outside : Outside)
    (token : PyString) : Bool × CapacityState :=
  let announced := (state.reconcile outside).announce request outside.now
  if announced.selectedWaiter policy = request.requestId then
    (true, announced.grant request outside token)
  else
    (false, announced)

def cancelWaiter (state : CapacityState) (requestId : PyString) (outside : Outside) :
    CapacityState :=
  let reconciled := state.reconcile outside
  { reconciled with
    waiters := reconciled.waiters.filter fun item => decide (item.requestId ≠ requestId) }

def updateLease (state : CapacityState) (token : PyString) (f : Lease → Lease) : CapacityState :=
  { state with leases := updateFirst (fun lease => decide (lease.token = token)) f state.leases }

def leaseOf (state : CapacityState) (token : PyString) : Option Lease :=
  state.leases.find? fun lease => decide (lease.token = token)

def heartbeat (state : CapacityState) (token : PyString) (outside : Outside) :
    Bool × CapacityState :=
  let reconciled := state.reconcile outside
  match reconciled.leaseOf token with
  | some _ =>
    (true, reconciled.updateLease token fun lease =>
      { lease with
        heartbeatAt := outside.now
        status := if lease.status = .needsReconcile then .live else lease.status })
  | none => (false, reconciled)

def release (state : CapacityState) (token : PyString) (outside : Outside) : CapacityState :=
  let reconciled := state.reconcile outside
  { reconciled with
    leases := reconciled.leases.filter fun lease => decide (lease.token ≠ token) }

/-- `snapshot` with `persist_reconciliation`. -/
def snapshot (state : CapacityState) (outside : Outside) : CapacityState :=
  state.reconcile outside

def contendsBefore (left right : Lease × ProviderRequest) : Bool :=
  decide (left.2.priority < right.2.priority) ||
    (decide (left.2.priority = right.2.priority) &&
      (decide (left.2.requestedAt < right.2.requestedAt) ||
        (decide (left.2.requestedAt = right.2.requestedAt) &&
          decide (left.1.token ≤ right.1.token))))

def contenders (state : CapacityState) (provider : PyString) : List (Lease × ProviderRequest) :=
  (state.leases.filterMap fun lease =>
    (lease.waitingProvider.filter fun request => decide (request.requestedProvider = provider)).map
      fun request => (lease, request)).insertionSort fun left right =>
        contendsBefore left right = true

/-- One pass of the loop of `transition_provider` under the lock. -/
def transitionProvider (policy : HostPolicy) (state : CapacityState) (token provider : PyString)
    (priority : ℤ) (outside : Outside) : Transition × CapacityState :=
  let reconciled := state.reconcile outside
  let normalized := policy.normalize provider
  match reconciled.leaseOf token with
  | none => (.inactive, state)
  | some target =>
    if target.provider = normalized then
      (.done, reconciled.updateLease token fun lease => { lease with waitingProvider := none })
    else if normalized = [] then
      (.done, reconciled.updateLease token fun lease => lease.settle [] outside.now)
    else
      let waiting := reconciled.updateLease token fun lease =>
        lease.await normalized priority outside.now
      let selected := ((waiting.contenders normalized).head?.map fun first => first.1.token).getD []
      if selected = token ∧ providerAvailable policy waiting.leases normalized = true then
        (.done, waiting.updateLease token fun lease => lease.settle normalized outside.now)
      else
        (.waiting, waiting)

end CapacityState

end DevHarness.HostCapacity
