import DevHarness.HostCapacity.Safety
import DevHarness.Sequence.Checks
import DevHarness.Sql.Table

/-!
# Runtime leases

The allocator on database tables.  An operation is one transaction under the lock of the host row,
and nothing is kept of one that raises, what it has marked as expired included.
-/

namespace DevHarness.HostCapacity

open PyText Sequence

/-! ## Tables -/

inductive RuntimeLeaseStatus
  | active
  | expired
  | released
  deriving DecidableEq

inductive RequestStatus
  | waiting
  | granted
  | cancelled
  deriving DecidableEq

/-- What a request and the lease that is granted for it have in common; an empty text stands for
none. -/
structure RuntimeHolder where
  leaseKey : PyString
  kind : PyString
  projectKey : PyString
  workerId : PyString
  runId : PyString
  resources : List PyString
  pid : ℤ
  processStartIdentity : PyString

/-- What changes while a lease is in the table. -/
structure LeaseTerms where
  provider : PyString
  status : RuntimeLeaseStatus
  expiresAt : ℤ

structure RuntimeLease extends RuntimeHolder, LeaseTerms where
  tokenDigest : PyString
  fencingToken : ℕ

def RuntimeLease.rewrite (f : LeaseTerms → LeaseTerms) (lease : RuntimeLease) : RuntimeLease :=
  { lease with toLeaseTerms := f lease.toLeaseTerms }

/-- A request for a provider names the fencing token of the lease that it is for. -/
structure CapacityRequest extends RuntimeHolder where
  requestId : PyString
  provider : PyString
  priority : ℤ
  status : RequestStatus
  requestedAt : ℤ
  fencingToken : ℕ

/-- What the tables hold for one host, in the order of their ids; a counter that is missing is
zero. -/
structure RuntimeStore where
  leases : List RuntimeLease
  requests : List CapacityRequest
  fenceCounters : PyString → ℕ
  lastGrantedProject : PyString

def RuntimeStore.empty : RuntimeStore :=
  ⟨[], [], fun _ => 0, []⟩

structure RuntimePolicy extends HostPolicy where
  leaseTtl : ℤ

/-- What an operation gets from outside: readings of the clock before it has the lock, and twice
after it. -/
structure RuntimeOutside where
  /-- `process_start_identity`; empty where it cannot be told. -/
  startIdentity : ℤ → PyString
  /-- `secrets.token_urlsafe`. -/
  drawn : PyString
  asked : ℤ
  first : ℤ
  now : ℤ

inductive RuntimeError
  | valueError
  | notFound
  | conflict
  | alreadyActive
  | integrity

/-- `_assert_process_identity`. -/
def RuntimeOutside.assertIdentity (outside : RuntimeOutside) (pid : ℤ) (expected : PyString) :
    Except RuntimeError Unit :=
  if expected ≠ [] ∧ outside.startIdentity pid = expected then .ok ()
  else .error .conflict

/-- A provider has a lease left. -/
def RuntimePolicy.Room (policy : RuntimePolicy) (workers : List RuntimeLease)
    (provider : PyString) : Prop :=
  ∀ limit ∈ policy.limit provider,
    workers.countP (fun lease => decide (lease.provider = provider)) < limit

/-- `_allocatable`. -/
def RuntimePolicy.Allocatable (policy : RuntimePolicy) (workers : List RuntimeLease)
    (request : CapacityRequest) : Prop :=
  (request.kind = py "provider" ∨ workers.length < policy.maxActiveWorkers) ∧
    policy.Room workers request.provider ∧
    ∀ resource ∈ request.resources, ∀ lease ∈ workers, resource ∉ lease.resources

instance (policy : RuntimePolicy) (workers : List RuntimeLease) :
    DecidablePred (policy.Allocatable workers) := fun request =>
  inferInstanceAs (Decidable ((_ ∨ _ < _) ∧
    (∀ limit ∈ policy.limit request.provider, _ < limit) ∧ ∀ resource ∈ _, ∀ lease ∈ workers, _))

namespace RuntimeStore

variable (policy : RuntimePolicy) (digest : PyString → PyString) (outside : RuntimeOutside)
  (store : RuntimeStore)

/-- `_active_leases`. -/
def activeLeases : List RuntimeLease :=
  store.leases.filter fun lease => decide (lease.status = .active)

def workers : List RuntimeLease :=
  store.activeLeases.filter fun lease => decide (lease.kind = py "worker")

/-- `_waiting_requests`. -/
def waitingRequests : List CapacityRequest :=
  Sql.orderBy (Sql.byKey CapacityRequest.requestedAt)
    (store.requests.filter fun request => decide (request.status = .waiting))

def requestOf (requestId : PyString) : Option CapacityRequest :=
  store.requests.find? fun request => decide (request.requestId = requestId)

/-- `_expire`. -/
def expire : RuntimeStore :=
  { store with
    leases := store.leases.map fun lease =>
      if lease.status = .active ∧ lease.expiresAt ≤ outside.first then
        { lease with status := .expired }
      else lease }

/-- The lease is inserted under the next fencing token of its key; `token_digest` is unique. -/
def insertLease (lease : RuntimeLease) : Except RuntimeError RuntimeStore :=
  let fencingToken := store.fenceCounters lease.leaseKey + 1
  if lease.tokenDigest ∈ store.leases.map RuntimeLease.tokenDigest then .error .integrity
  else .ok
    { store with
      leases := store.leases ++ [{ lease with fencingToken := fencingToken }]
      fenceCounters := Function.update store.fenceCounters lease.leaseKey fencingToken }

def setRequests (p : CapacityRequest → Prop) [DecidablePred p] (status : RequestStatus) :
    RuntimeStore :=
  { store with
    requests := store.requests.map fun row => if p row then { row with status := status } else row }

/-! ## Requests -/

/-- `request`, once its arguments are filled in and found not to be empty. -/
def request (asked : CapacityRequest) (supervisor : ℤ × PyString) :
    Except RuntimeError RuntimeStore :=
  if asked.kind ≠ py "worker" ∨ asked.provider ≠ [] ∧ policy.limit asked.provider = none then
    .error .valueError
  else do
    outside.assertIdentity asked.pid asked.processStartIdentity
    outside.assertIdentity supervisor.1 supervisor.2
    match store.requestOf asked.requestId with
    | some found =>
      if (found.leaseKey, found.projectKey, found.workerId, found.runId) =
        (asked.leaseKey, asked.projectKey, asked.workerId, asked.runId) then .ok store
      else .error .conflict
    | none => .ok { store with
        requests := store.requests ++
          [{ asked with status := .waiting, requestedAt := outside.asked }] }

/-- `_selected`: of the first requests of all projects, those for a provider included. -/
def selected : Option CapacityRequest :=
  let requests := store.waitingRequests
  let names := PyText.sorted (requests.map (·.projectKey)).dedup
  let projects :=
    if store.lastGrantedProject ∈ names then
      let pivot := names.idxOf store.lastGrantedProject + 1
      names.drop pivot ++ names.take pivot
    else names
  let heads := projects.filterMap fun project =>
    requests.find? fun request => decide (request.projectKey = project)
  (Sql.orderBy (Sql.byKey CapacityRequest.priority) heads).find? fun request =>
    decide (policy.Allocatable store.workers request)

/-- `_selected_provider`. -/
def selectedProvider (provider : PyString) : Option CapacityRequest :=
  let contenders := store.waitingRequests.filter fun request =>
    decide (request.kind = py "provider" ∧ request.provider = provider)
  (Sql.orderBy (Sql.byKey CapacityRequest.priority) contenders).find? fun request =>
    decide (policy.Allocatable store.workers request)

/-- What `try_grant` does for the request that is selected, once leases have expired. -/
def grant (request : CapacityRequest) : Except RuntimeError RuntimeStore :=
  let granted := store.setRequests (·.requestId = request.requestId) .granted
  let isTarget (lease : RuntimeLease) : Bool :=
    decide (lease.status = .active ∧ lease.leaseKey = request.leaseKey ∧
      lease.fencingToken = request.fencingToken)
  if request.kind = py "provider" then
    if (store.leases.find? isTarget).isSome then
      .ok { granted with leases := updateFirst isTarget (·.rewrite fun terms =>
        { terms with
          provider := request.provider
          expiresAt := outside.now + policy.leaseTtl }) store.leases }
    else .error .conflict
  else if request.leaseKey ∈ store.activeLeases.map (·.leaseKey) then .error .conflict
  else
    insertLease { granted with lastGrantedProject := request.projectKey }
      { request with
        status := .active
        expiresAt := outside.now + policy.leaseTtl
        tokenDigest := digest outside.drawn }

/-- `try_grant`. -/
def tryGrant (requestId : PyString) : Except RuntimeError RuntimeStore :=
  let expired := store.expire outside
  match expired.waitingRequests.find? fun row => decide (row.requestId = requestId) with
  | none => if (store.requestOf requestId).isSome then .ok expired else .error .notFound
  | some request => do
    outside.assertIdentity request.pid request.processStartIdentity
    let selected :=
      if request.kind = py "provider" then expired.selectedProvider policy request.provider
      else expired.selected policy
    match selected with
    | some row =>
      if row.requestId = requestId then expired.grant policy digest outside row else .ok expired
    | none => .ok expired

/-- `cancel`. -/
def cancel (requestId : PyString) : Except RuntimeError RuntimeStore :=
  if (store.requestOf requestId).isSome then
    .ok (store.setRequests (fun row => row.status = .waiting ∧ row.requestId = requestId) .cancelled)
  else .error .notFound

/-! ## Leases -/

/-- `acquire_runtime`, once its arguments are filled in and found not to be empty. -/
def acquireRuntime (holder : RuntimeHolder) : Except RuntimeError RuntimeStore :=
  let expired := store.expire outside
  if holder.kind ∈ [py "worker", py "provider"] then .error .valueError
  else do
    outside.assertIdentity holder.pid holder.processStartIdentity
    if holder.leaseKey ∈ expired.activeLeases.map (·.leaseKey) then .error .alreadyActive
    else
      expired.insertLease
        { holder with
          resources := []
          provider := []
          status := .active
          expiresAt := outside.asked + policy.leaseTtl
          tokenDigest := digest outside.drawn
          fencingToken := 0 }

/-- `_lease_by_token`, with the checks that the operations on a lease begin with, and the row that
is written. -/
def changeLease (token : PyString) (fencingToken : ℕ) (asserts expires : Bool)
    (kinds : List PyString) (f : LeaseTerms → LeaseTerms) :
    Except RuntimeError (RuntimeLease × RuntimeStore) :=
  let named (lease : RuntimeLease) : Bool := decide (lease.tokenDigest = digest token)
  match store.leases.find? named with
  | none => .error .notFound
  | some lease => do
    (if asserts then outside.assertIdentity lease.pid lease.processStartIdentity else .ok ())
    if lease.status ≠ .active ∨ lease.fencingToken ≠ fencingToken ∨
        kinds ≠ [] ∧ lease.kind ∉ kinds then .error .conflict
    else if expires ∧ lease.expiresAt ≤ outside.now then .error .conflict
    else .ok (lease, { store with leases := updateFirst named (·.rewrite f) store.leases })

/-- The waiting requests of a lease are cancelled. -/
def cancelRequests (changed : RuntimeLease × RuntimeStore) : RuntimeStore :=
  changed.2.setRequests (fun row => row.status = .waiting ∧ row.leaseKey = changed.1.leaseKey)
    .cancelled

/-- `heartbeat`. -/
def heartbeat (token : PyString) (fencingToken : ℕ) : Except RuntimeError RuntimeStore :=
  (store.changeLease digest outside token fencingToken true true [] fun terms =>
    { terms with expiresAt := outside.now + policy.leaseTtl }).map Prod.snd

/-- `clear_provider`. -/
def clearProvider (token : PyString) (fencingToken : ℕ) : Except RuntimeError RuntimeStore :=
  (store.changeLease digest outside token fencingToken true true [py "worker"] fun terms =>
    { terms with provider := [], expiresAt := outside.now + policy.leaseTtl }).map cancelRequests

/-- `release`; neither the process nor the time is looked at. -/
def release (token : PyString) (fencingToken : ℕ) : Except RuntimeError RuntimeStore :=
  (store.changeLease digest outside token fencingToken false false [] fun terms =>
    { terms with status := .released, expiresAt := outside.now }).map cancelRequests

/-- `request_provider`; it does not ask whether the lease has expired. -/
def requestProvider (token : PyString) (fencingToken : ℕ) (provider : PyString) (priority : ℤ)
    (requestId : PyString) : Except RuntimeError RuntimeStore :=
  if policy.limit provider = none then .error .valueError
  else do
    let (lease, changed) ← store.changeLease digest outside token fencingToken true false
      [py "worker"] fun terms => { terms with provider := [] }
    let row : CapacityRequest :=
      { lease with
        requestId := requestId
        kind := py "provider"
        provider := provider
        resources := []
        priority := priority
        status := .waiting
        requestedAt := outside.asked
        fencingToken := fencingToken }
    match changed.requestOf row.requestId with
    | some found =>
      if found.leaseKey = lease.leaseKey ∧ found.provider = provider then .ok changed
      else .error .conflict
    | none => .ok { changed with requests := changed.requests ++ [row] }

end RuntimeStore

/-! ## Runs -/

inductive RuntimeCall
  | request (asked : CapacityRequest) (supervisor : ℤ × PyString)
  | tryGrant (requestId : PyString)
  | cancel (requestId : PyString)
  | acquireRuntime (holder : RuntimeHolder)
  | heartbeat (token : PyString) (fencingToken : ℕ)
  | clearProvider (token : PyString) (fencingToken : ℕ)
  | requestProvider (token : PyString) (fencingToken : ℕ) (provider : PyString) (priority : ℤ)
      (requestId : PyString)
  | release (token : PyString) (fencingToken : ℕ)

namespace RuntimeStore

variable (policy : RuntimePolicy) (digest : PyString → PyString)

def perform (outside : RuntimeOutside) (store : RuntimeStore) :
    RuntimeCall → Except RuntimeError RuntimeStore
  | .request asked supervisor => store.request policy outside asked supervisor
  | .tryGrant requestId => store.tryGrant policy digest outside requestId
  | .cancel requestId => store.cancel requestId
  | .acquireRuntime holder => store.acquireRuntime policy digest outside holder
  | .heartbeat token fencingToken => store.heartbeat policy digest outside token fencingToken
  | .clearProvider token fencingToken =>
    store.clearProvider policy digest outside token fencingToken
  | .requestProvider token fencingToken provider priority requestId =>
    store.requestProvider policy digest outside token fencingToken provider priority requestId
  | .release token fencingToken => store.release digest outside token fencingToken

/-- What a transaction leaves: nothing of one that raises. -/
def after (store : RuntimeStore) (step : RuntimeOutside × RuntimeCall) : RuntimeStore :=
  match store.perform policy digest step.1 step.2 with
  | .ok next => next
  | .error _ => store

def afterAll (store : RuntimeStore) (steps : List (RuntimeOutside × RuntimeCall)) : RuntimeStore :=
  steps.foldl (after policy digest) store

end RuntimeStore

/-! ## What an operation does to leases -/

def RuntimeLease.holding (lease : RuntimeLease) : Holding where
  token := lease.leaseKey
  provider := lease.provider
  resources := lease.resources

/-- From `t` on, the lease is no longer held. -/
def LeaseTerms.Lost (t : ℤ) (terms : LeaseTerms) : Prop :=
  terms.status = .active → terms.expiresAt ≤ t

/-- An active lease is written; it is not brought back when its time is over. -/
structure RuntimeWrite (policy : RuntimePolicy) (outside : RuntimeOutside)
    (store next : RuntimeStore) (p : RuntimeLease → Bool) (f : LeaseTerms → LeaseTerms)
    (old : RuntimeLease) : Prop where
  leases : next.leases = updateFirst p (·.rewrite f) store.leases
  counters : next.fenceCounters = store.fenceCounters
  found : store.leases.find? p = some old
  active : old.status = .active
  provider : (f old.toLeaseTerms).provider = old.provider ∨
    policy.Room store.workers (f old.toLeaseTerms).provider
  lost : ∀ t, t ≤ outside.first → t ≤ outside.now → old.Lost t → (f old.toLeaseTerms).Lost t

/-- A lease is inserted; there is room for it, and no other lease of its key is active. -/
structure RuntimeGrant (policy : RuntimePolicy) (store next : RuntimeStore) (lease : RuntimeLease) :
    Prop where
  leases : next.leases = store.leases ++ [lease]
  counters : next.fenceCounters =
    Function.update store.fenceCounters lease.leaseKey lease.fencingToken
  new : lease.tokenDigest ∉ store.leases.map RuntimeLease.tokenDigest
  fencingToken : lease.fencingToken = store.fenceCounters lease.leaseKey + 1
  free : lease.leaseKey ∉ store.activeLeases.map (·.leaseKey)
  room : lease.kind = py "worker" → store.workers.length < policy.maxActiveWorkers ∧
    policy.Room store.workers lease.provider ∧
    ∀ resource ∈ lease.resources, ∀ other ∈ store.workers, resource ∉ other.resources

/-- All that an operation may do to leases, once some have expired. -/
inductive LeaseChange (policy : RuntimePolicy) (outside : RuntimeOutside)
    (store next : RuntimeStore) : Prop
  | kept (hleases : next.leases = store.leases) (hcounters : next.fenceCounters = store.fenceCounters)
  | written {p : RuntimeLease → Bool} {f : LeaseTerms → LeaseTerms} {old : RuntimeLease}
      (hwrite : RuntimeWrite policy outside store next p f old)
  | granted {lease : RuntimeLease} (hgrant : RuntimeGrant policy store next lease)

variable {policy : RuntimePolicy} {digest : PyString → PyString} {outside : RuntimeOutside}
  {store next : RuntimeStore} {lease old : RuntimeLease} {before after : List RuntimeLease}
  {p : RuntimeLease → Bool} {f : LeaseTerms → LeaseTerms} {token key : PyString} {fencingToken : ℕ}
  {t : ℤ}

theorem room_nil (policy : RuntimePolicy) (workers : List RuntimeLease) :
    policy.Room workers [] := by
  intro limit hlimit
  rw [policy.limit_nil] at hlimit
  cases hlimit

theorem of_mem_expire (h : lease ∈ (store.expire outside).leases) :
    (lease ∈ store.leases ∧ ¬ (lease.status = .active ∧ lease.expiresAt ≤ outside.first)) ∨
      ∃ old ∈ store.leases, lease = { old with status := .expired } := by
  obtain ⟨old, hold, hlease⟩ := List.mem_map.mp h
  by_cases hpast : old.status = .active ∧ old.expiresAt ≤ outside.first
  · rw [if_pos hpast] at hlease
    exact .inr ⟨old, hold, hlease.symm⟩
  · rw [if_neg hpast] at hlease
    exact .inl (hlease ▸ ⟨hold, hpast⟩)

theorem RuntimeWrite.mem (h : RuntimeWrite policy outside store next p f old)
    (hlease : lease ∈ next.leases) :
    lease ∈ store.leases ∨ lease = old.rewrite f := by
  obtain ⟨before, after, hold, hnew⟩ := exists_updateFirst_split (f := (·.rewrite f)) h.found
  rw [h.leases, hnew, List.mem_append, List.mem_cons] at hlease
  rw [hold, List.mem_append, List.mem_cons]
  tauto

section ChangeLease

variable {asserts expires : Bool} {kinds : List PyString} {changed : RuntimeLease × RuntimeStore}
  (h : store.changeLease digest outside token fencingToken asserts expires kinds f = .ok changed)

include h

theorem changeLease_eq_ok :
    store.leases.find? (fun lease => decide (lease.tokenDigest = digest token)) = some changed.1 ∧
      changed.1.status = .active ∧ (expires = true → ¬ changed.1.expiresAt ≤ outside.now) ∧
      changed.2.leases = updateFirst (fun lease => decide (lease.tokenDigest = digest token))
        (·.rewrite f) store.leases ∧ changed.2.fenceCounters = store.fenceCounters := by
  unfold RuntimeStore.changeLease at h
  simp only at h
  split at h
  · cases h
  · next old hold =>
    obtain ⟨-, -, h⟩ := bind_eq_ok.mp h
    split at h
    · cases h
    · next hfenced =>
      split at h
      · cases h
      · next htime =>
        obtain rfl := Except.ok.inj h
        exact ⟨hold, Decidable.of_not_not fun hinactive => hfenced (.inl hinactive),
          fun hexpires hpast => htime ⟨hexpires, hpast⟩, rfl, rfl⟩

theorem change_changeLease (hleases : next.leases = changed.2.leases)
    (hcounters : next.fenceCounters = changed.2.fenceCounters)
    (hprovider : ∀ terms, (f terms).provider = terms.provider ∨ (f terms).provider = [])
    (hlost : expires = true ∨ ∀ terms t, terms.Lost t → (f terms).Lost t) :
    LeaseChange policy outside store next := by
  obtain ⟨hfound, hactive, htime, hchanged, hkept⟩ := changeLease_eq_ok h
  refine .written ⟨hleases.trans hchanged, hcounters.trans hkept, hfound, hactive,
    (hprovider _).imp_right fun hcleared => ?_, fun t _ hnow hold => ?_⟩
  · rw [hcleared]
    exact room_nil policy store.workers
  · exact hlost.elim (fun hexpires => absurd ((hold hactive).trans hnow) (htime hexpires))
      fun hkeeps => hkeeps _ t hold

end ChangeLease

theorem change_insertLease {base : RuntimeStore} (hleases : base.leases = store.leases)
    (hcounters : base.fenceCounters = store.fenceCounters) (h : base.insertLease lease = .ok next)
    (hfree : lease.leaseKey ∉ store.activeLeases.map (·.leaseKey))
    (hroom : lease.kind = py "worker" → store.workers.length < policy.maxActiveWorkers ∧
      policy.Room store.workers lease.provider ∧
      ∀ resource ∈ lease.resources, ∀ other ∈ store.workers, resource ∉ other.resources) :
    LeaseChange policy outside store next := by
  unfold RuntimeStore.insertLease at h
  simp only [hleases, hcounters] at h
  split at h
  · cases h
  · next hnew =>
    obtain rfl := Except.ok.inj h
    exact .granted ⟨rfl, rfl, hnew, rfl, hfree, hroom⟩

theorem change_request {asked : CapacityRequest} {supervisor : ℤ × PyString}
    (h : store.request policy outside asked supervisor = .ok next) :
    LeaseChange policy outside store next := by
  unfold RuntimeStore.request at h
  split at h
  · cases h
  obtain ⟨-, -, h⟩ := bind_eq_ok.mp h
  obtain ⟨-, -, h⟩ := bind_eq_ok.mp h
  split at h
  · split at h
    · obtain rfl := Except.ok.inj h
      exact .kept rfl rfl
    · cases h
  · obtain rfl := Except.ok.inj h
    exact .kept rfl rfl

theorem change_requestProvider {provider requestId : PyString} {priority : ℤ}
    (h : store.requestProvider policy digest outside token fencingToken provider priority requestId =
      .ok next) : LeaseChange policy outside store next := by
  unfold RuntimeStore.requestProvider at h
  split at h
  · cases h
  obtain ⟨changed, hchanged, h⟩ := bind_eq_ok.mp h
  have hkept : next.leases = changed.2.leases ∧ next.fenceCounters = changed.2.fenceCounters := by
    simp only at h
    split at h
    · split at h
      · obtain rfl := Except.ok.inj h
        exact ⟨rfl, rfl⟩
      · cases h
    · obtain rfl := Except.ok.inj h
      exact ⟨rfl, rfl⟩
  exact change_changeLease hchanged hkept.1 hkept.2 (fun _ => .inr rfl)
    (.inr fun _ _ hlost => hlost)

theorem change_grant {request : CapacityRequest}
    (hselected : policy.Allocatable (store.expire outside).workers request)
    (h : (store.expire outside).grant policy digest outside request = .ok next) :
    LeaseChange policy outside (store.expire outside) next := by
  obtain ⟨hworkers, hroom, hresources⟩ := hselected
  unfold RuntimeStore.grant at h
  simp only at h
  split at h
  · split at h
    · next htarget =>
      obtain rfl := Except.ok.inj h
      obtain ⟨old, hold⟩ := Option.isSome_iff_exists.mp htarget
      have hmatches := List.find?_some hold
      have hactive : old.status = .active := (of_decide_eq_true hmatches).1
      refine .written ⟨rfl, rfl, hold, hactive, .inr hroom, fun t hfirst _ hlost => ?_⟩
      -- what is past its time at the first reading has just expired
      rcases of_mem_expire (List.mem_of_find?_eq_some hold) with ⟨-, hheld⟩ | ⟨row, -, rfl⟩
      · exact absurd ⟨hactive, (hlost hactive).trans hfirst⟩ hheld
      · cases hactive
    · cases h
  · next hkind =>
    split at h
    · cases h
    · next hfree =>
      exact change_insertLease (by rfl) (by rfl) h hfree
        fun _ => ⟨hworkers.resolve_left hkind, hroom, hresources⟩

theorem change_tryGrant {requestId : PyString}
    (h : store.tryGrant policy digest outside requestId = .ok next) :
    LeaseChange policy outside (store.expire outside) next := by
  unfold RuntimeStore.tryGrant at h
  simp only at h
  split at h
  · split at h
    · obtain rfl := Except.ok.inj h
      exact .kept rfl rfl
    · cases h
  obtain ⟨-, -, h⟩ := bind_eq_ok.mp h
  split at h
  · next row hrow =>
    split at h
    · refine change_grant ?_ h
      split at hrow
      all_goals
        have hselected := List.find?_some hrow
        exact of_decide_eq_true hselected
    · obtain rfl := Except.ok.inj h
      exact .kept rfl rfl
  · obtain rfl := Except.ok.inj h
    exact .kept rfl rfl

theorem change_acquireRuntime {holder : RuntimeHolder}
    (h : store.acquireRuntime policy digest outside holder = .ok next) :
    LeaseChange policy outside (store.expire outside) next := by
  unfold RuntimeStore.acquireRuntime at h
  simp only at h
  split at h
  · cases h
  · next hvalid =>
    obtain ⟨-, -, h⟩ := bind_eq_ok.mp h
    split at h
    · cases h
    · next hfree =>
      refine change_insertLease rfl rfl h hfree fun hworker => ?_
      exact absurd (List.mem_cons.mpr (.inl hworker)) hvalid

theorem change_of_perform {call : RuntimeCall}
    (h : store.perform policy digest outside call = .ok next) :
    LeaseChange policy outside store next ∨
      LeaseChange policy outside (store.expire outside) next := by
  cases call with
  | request asked supervisor => exact .inl (change_request h)
  | tryGrant requestId => exact .inr (change_tryGrant h)
  | cancel requestId =>
      simp only [RuntimeStore.perform, RuntimeStore.cancel] at h
      split at h
      · obtain rfl := Except.ok.inj h
        exact .inl (.kept rfl rfl)
      · cases h
  | acquireRuntime holder => exact .inr (change_acquireRuntime h)
  | heartbeat token fencingToken =>
      obtain ⟨changed, hchanged, rfl⟩ := map_eq_ok.mp h
      exact .inl (change_changeLease hchanged rfl rfl (fun _ => .inl rfl) (.inl rfl))
  | clearProvider token fencingToken =>
      obtain ⟨changed, hchanged, rfl⟩ := map_eq_ok.mp h
      exact .inl (change_changeLease hchanged rfl rfl (fun _ => .inr rfl) (.inl rfl))
  | requestProvider token fencingToken provider priority requestId =>
      exact .inl (change_requestProvider h)
  | release token fencingToken =>
      obtain ⟨changed, hchanged, rfl⟩ := map_eq_ok.mp h
      exact .inl (change_changeLease hchanged rfl rfl (fun _ => .inl rfl)
        (.inr fun _ _ _ hactive => nomatch hactive))

/-! ## Capacity -/

/-- The key and the fencing token that the lease was granted under. -/
def RuntimeLease.issued (lease : RuntimeLease) : PyString × ℕ :=
  (lease.leaseKey, lease.fencingToken)

structure RuntimeSafe (policy : RuntimePolicy) (store : RuntimeStore) : Prop where
  /-- The active workers keep to the limits of the host, and no two of them have a resource or a key
  in common. -/
  fits : Fits policy.toHostPolicy (store.workers.map RuntimeLease.holding)
  /-- An active lease has the fencing token that its key was given last. -/
  counted : ∀ lease ∈ store.leases, lease.fencingToken ≤ store.fenceCounters lease.leaseKey ∧
    (lease.status = .active → lease.fencingToken = store.fenceCounters lease.leaseKey)
  rising : store.leases.Pairwise fun earlier later =>
    earlier.leaseKey = later.leaseKey → earlier.fencingToken < later.fencingToken

theorem room_held {workers : List RuntimeLease} {provider : PyString}
    (h : policy.Room workers provider) (limit : ℕ) (hlimit : policy.limit provider = some limit) :
    held (workers.map RuntimeLease.holding) provider < limit := by
  rw [held, List.countP_map]
  exact h limit hlimit

theorem map_expire {α : Type} {g : RuntimeLease → α}
    (hg : ∀ lease : RuntimeLease, g { lease with status := .expired } = g lease) :
    (store.expire outside).leases.map g = store.leases.map g := by
  unfold RuntimeStore.expire
  rw [List.map_map]
  refine List.map_congr_left fun row _ => ?_
  rw [Function.comp_apply]
  split
  · exact hg row
  · rfl

theorem workers_of_split (hleases : store.leases = before ++ lease :: after) :
    store.workers = (RuntimeStore.mk before [] store.fenceCounters []).workers ++
      ((if lease.status = .active ∧ lease.kind = py "worker" then [lease] else []) ++
        (RuntimeStore.mk after [] store.fenceCounters []).workers) := by
  unfold RuntimeStore.workers RuntimeStore.activeLeases
  rw [hleases, List.filter_append, List.filter_append, List.filter_cons]
  by_cases hactive : lease.status = .active
  · by_cases hkind : lease.kind = py "worker"
    · simp [hactive, hkind]
    · simp [hactive, hkind]
  · simp [hactive]

theorem workers_expire : (store.expire outside).workers.Sublist store.workers := by
  unfold RuntimeStore.workers RuntimeStore.activeLeases RuntimeStore.expire
  refine List.Sublist.filter _ ?_
  induction store.leases with
  | nil => exact List.Sublist.refl _
  | cons row rows ih =>
      rw [List.map_cons, List.filter_cons, List.filter_cons]
      by_cases hactive : row.status = .active
      · by_cases htime : row.expiresAt ≤ outside.first
        · simpa [hactive, htime] using ih.cons row
        · simpa [hactive, htime] using ih
      · simpa [hactive] using ih

section Changes

variable (h : RuntimeSafe policy store)

include h

/-- Leases change in place, and none becomes active. -/
theorem RuntimeSafe.inPlace (hcounters : next.fenceCounters = store.fenceCounters)
    (hissued : next.leases.map RuntimeLease.issued = store.leases.map RuntimeLease.issued)
    (hactive : ∀ new ∈ next.leases, ∃ old ∈ store.leases, old.issued = new.issued ∧
      (new.status = .active → old.status = .active))
    (hfits : Fits policy.toHostPolicy (next.workers.map RuntimeLease.holding)) :
    RuntimeSafe policy next := by
  refine ⟨hfits, fun new hnew => ?_, ?_⟩
  · obtain ⟨old, hold, hsame, hstatus⟩ := hactive new hnew
    obtain ⟨hkey, hfence⟩ := Prod.mk.inj hsame
    rw [← hkey, ← hfence, hcounters]
    exact ⟨(h.counted old hold).1, fun hnew => (h.counted old hold).2 (hstatus hnew)⟩
  · have hrising : (store.leases.map RuntimeLease.issued).Pairwise fun earlier later =>
        earlier.1 = later.1 → earlier.2 < later.2 := List.pairwise_map.mpr h.rising
    rw [← hissued] at hrising
    exact List.pairwise_map.mp hrising

theorem RuntimeSafe.expire (outside : RuntimeOutside) :
    RuntimeSafe policy (store.expire outside) := by
  refine h.inPlace rfl (map_expire fun _ => rfl) (fun new hnew => ?_)
    (h.fits.sublist (workers_expire.map _))
  rcases of_mem_expire hnew with ⟨hkept, -⟩ | ⟨old, hold, rfl⟩
  · exact ⟨new, hkept, rfl, id⟩
  · exact ⟨old, hold, rfl, fun hactive => nomatch hactive⟩

theorem RuntimeSafe.written (hwrite : RuntimeWrite policy outside store next p f old) :
    RuntimeSafe policy next := by
  have hmem := List.mem_of_find?_eq_some hwrite.found
  refine h.inPlace hwrite.counters ?_ (fun new hnew => ?_) ?_
  · rw [hwrite.leases]
    exact map_updateFirst fun _ => rfl
  · rcases hwrite.mem hnew with hkept | rfl
    · exact ⟨new, hkept, rfl, id⟩
    · exact ⟨old, hmem, rfl, fun _ => hwrite.active⟩
  · obtain ⟨before, after, hold, hnew⟩ :=
      exists_updateFirst_split (f := (·.rewrite f)) hwrite.found
    have hfits := h.fits
    have hprovider := hwrite.provider.imp_right room_held
    rw [workers_of_split hold] at hfits hprovider
    rw [workers_of_split (hwrite.leases.trans hnew), hwrite.counters]
    by_cases hworker : (old.rewrite f).status = .active ∧ (old.rewrite f).kind = py "worker"
    · rw [if_pos ⟨hwrite.active, hworker.2⟩] at hfits hprovider
      rw [if_pos hworker]
      rw [List.map_append] at hfits hprovider ⊢
      exact hfits.replace rfl rfl hprovider
    · rw [if_neg hworker, List.nil_append]
      exact hfits.sublist ((List.Sublist.append_left (List.sublist_append_right _ _) _).map _)

theorem RuntimeSafe.granted (hgrant : RuntimeGrant policy store next lease) :
    RuntimeSafe policy next := by
  have hfree : ∀ row ∈ store.leases, row.status = .active → row.leaseKey ≠ lease.leaseKey := by
    intro row hrow hactive hkey
    have hmem : row ∈ store.activeLeases := List.mem_filter.mpr ⟨hrow, decide_eq_true hactive⟩
    exact hgrant.free (hkey ▸ List.mem_map_of_mem hmem)
  refine ⟨?_, fun row hrow => ?_, ?_⟩
  · rw [workers_of_split hgrant.leases]
    change Fits _ ((store.workers ++ (_ ++ [])).map _)
    rw [List.append_nil]
    split
    · next hworker =>
      obtain ⟨hroom, hprovider, hresources⟩ := hgrant.room hworker.2
      rw [List.map_append]
      refine h.fits.append ((List.length_map _).trans_lt hroom) (room_held hprovider)
        (fun resource hresource => List.forall_mem_map.mpr (hresources resource hresource))
        (List.forall_mem_map.mpr fun row hrow => ?_)
      obtain ⟨hmem, hactive⟩ := List.mem_filter.mp (List.mem_of_mem_filter hrow)
      exact hfree row hmem (of_decide_eq_true hactive)
    · rw [List.append_nil]
      exact h.fits
  · rw [hgrant.leases] at hrow
    rw [hgrant.counters]
    rcases List.mem_append.mp hrow with hold | hnew
    · obtain ⟨hle, hlatest⟩ := h.counted row hold
      by_cases hkey : row.leaseKey = lease.leaseKey
      · rw [hkey] at hle ⊢
        rw [Function.update_self, hgrant.fencingToken]
        exact ⟨by omega, fun hactive => absurd hkey (hfree row hold hactive)⟩
      · rw [Function.update_of_ne hkey]
        exact ⟨hle, hlatest⟩
    · obtain rfl := List.mem_singleton.mp hnew
      rw [Function.update_self]
      exact ⟨le_refl _, fun _ => rfl⟩
  · rw [hgrant.leases]
    refine List.pairwise_append.mpr ⟨h.rising, List.pairwise_singleton _ _, ?_⟩
    intro row hrow other hother hkey
    obtain rfl := List.mem_singleton.mp hother
    have hle := (h.counted row hrow).1
    have hnext := hgrant.fencingToken
    rw [hkey] at hle
    omega

theorem RuntimeSafe.change (hchange : LeaseChange policy outside store next) :
    RuntimeSafe policy next := by
  cases hchange with
  | kept hleases hcounters =>
      obtain ⟨leases, requests, counters, last⟩ := next
      subst hleases hcounters
      exact ⟨h.fits, h.counted, h.rising⟩
  | written hwrite => exact h.written hwrite
  | granted hgrant => exact h.granted hgrant

theorem RuntimeSafe.step (step : RuntimeOutside × RuntimeCall) :
    RuntimeSafe policy (store.after policy digest step) := by
  unfold RuntimeStore.after
  split
  · next hperform =>
    rcases change_of_perform hperform with hchange | hchange
    · exact h.change hchange
    · exact (h.expire _).change hchange
  · exact h

end Changes

theorem runtimeSafe_of_run {steps : List (RuntimeOutside × RuntimeCall)}
    (hrun : RuntimeStore.empty.afterAll policy digest steps = store) : RuntimeSafe policy store := by
  subst hrun
  unfold RuntimeStore.afterAll
  induction steps using List.reverseRecOn with
  | nil => exact ⟨fits_nil policy.toHostPolicy, nofun, List.Pairwise.nil⟩
  | append_singleton steps step ih =>
      rw [List.foldl_append]
      exact ih.step step

/-- Whatever the clock says, capacity is kept to, and a key has one active lease at a time, with
a fencing token above all earlier ones. -/
theorem runtimeSafe_afterAll (policy : RuntimePolicy) (digest : PyString → PyString)
    (steps : List (RuntimeOutside × RuntimeCall)) :
    RuntimeSafe policy (RuntimeStore.empty.afterAll policy digest steps) ∧
      ((RuntimeStore.empty.afterAll policy digest steps).activeLeases.map (·.leaseKey)).Nodup := by
  have hsafe : RuntimeSafe policy (RuntimeStore.empty.afterAll policy digest steps) :=
    runtimeSafe_of_run rfl
  refine ⟨hsafe, List.pairwise_map.mpr ?_⟩
  have hlatest : ∀ {row}, row ∈ RuntimeStore.activeLeases _ → _ := fun hrow =>
    (hsafe.counted _ (List.mem_of_mem_filter hrow)).2
      (of_decide_eq_true (List.mem_filter.mp hrow).2)
  refine (hsafe.rising.sublist List.filter_sublist).imp_of_mem fun hearlier hlater hlt hkey => ?_
  have hsame := (hlatest hearlier).trans (congrArg _ hkey)
  exact (hlt hkey).ne (hsame.trans (hlatest hlater).symm)

/-! ## Leases that are lost -/

/-- The token that an operation on a lease is called with. -/
def RuntimeCall.token? : RuntimeCall → Option PyString
  | .heartbeat token _ => some token
  | .clearProvider token _ => some token
  | .requestProvider token _ _ _ _ => some token
  | .release token _ => some token
  | _ => none

/-- The keys of the leases with the digest have been granted again. -/
def RuntimeStore.Superseded (store : RuntimeStore) (key : PyString) : Prop :=
  ∀ lease ∈ store.leases, lease.tokenDigest = key → ∃ later ∈ store.leases,
    later.leaseKey = lease.leaseKey ∧ lease.fencingToken < later.fencingToken

theorem active_of_perform {call : RuntimeCall} (htoken : call.token? = some token)
    (h : store.perform policy digest outside call = .ok next) :
    ∃ lease ∈ store.leases, lease.tokenDigest = digest token ∧ lease.status = .active := by
  have hlease : ∃ fencingToken asserts expires kinds f changed,
      store.changeLease digest outside token fencingToken asserts expires kinds f = .ok changed := by
    cases call with
    | requestProvider =>
        obtain rfl := Option.some.inj htoken
        simp only [RuntimeStore.perform, RuntimeStore.requestProvider] at h
        split at h
        · cases h
        · obtain ⟨changed, hchanged, -⟩ := bind_eq_ok.mp h
          exact ⟨_, _, _, _, _, _, hchanged⟩
    | heartbeat | clearProvider | release =>
        obtain rfl := Option.some.inj htoken
        obtain ⟨changed, hchanged, -⟩ := map_eq_ok.mp h
        exact ⟨_, _, _, _, _, _, hchanged⟩
    | _ => cases htoken
  obtain ⟨_, _, _, _, _, changed, hchanged⟩ := hlease
  obtain ⟨hfound, hactive, -⟩ := changeLease_eq_ok hchanged
  have hnamed := List.find?_some hfound
  exact ⟨changed.1, List.mem_of_find?_eq_some hfound, of_decide_eq_true hnamed, hactive⟩

/-- Once a key has been granted again, nothing that is called with the token of an earlier lease
succeeds, whatever the clock says. -/
theorem refused_of_superseded {steps : List (RuntimeOutside × RuntimeCall)} {call : RuntimeCall}
    (hrun : RuntimeStore.empty.afterAll policy digest steps = store)
    (h : store.Superseded (digest token)) (htoken : call.token? = some token) :
    store.perform policy digest outside call ≠ .ok next := by
  intro hok
  obtain ⟨lease, hlease, hdigest, hactive⟩ := active_of_perform htoken hok
  obtain ⟨later, hlater, hkey, hlt⟩ := h lease hlease hdigest
  have hsafe := runtimeSafe_of_run hrun
  have hlatest := (hsafe.counted lease hlease).2 hactive
  have hle := (hsafe.counted later hlater).1
  rw [hkey, ← hlatest] at hle
  omega

/-- There is a lease with the digest, and from `t` on none that has it is held. -/
def RuntimeStore.Gone (store : RuntimeStore) (t : ℤ) (key : PyString) : Prop :=
  key ∈ store.leases.map RuntimeLease.tokenDigest ∧
    ∀ lease ∈ store.leases, lease.tokenDigest = key → lease.Lost t

section Gone

variable (h : store.Gone t key)

include h

theorem gone_expire (outside : RuntimeOutside) : (store.expire outside).Gone t key := by
  refine ⟨?_, fun lease hlease hkey => ?_⟩
  · rw [map_expire fun _ => rfl]
    exact h.1
  · rcases of_mem_expire hlease with ⟨hkept, -⟩ | ⟨old, hold, rfl⟩
    · exact h.2 lease hkept hkey
    · exact fun hactive => nomatch hactive

theorem gone_change (hfirst : t ≤ outside.first) (hnow : t ≤ outside.now)
    (hchange : LeaseChange policy outside store next) : next.Gone t key := by
  cases hchange with
  | kept hleases hcounters =>
      unfold RuntimeStore.Gone
      rw [hleases]
      exact h
  | written hwrite =>
      refine ⟨?_, fun lease hlease hkey => ?_⟩
      · rw [hwrite.leases, map_updateFirst]
        · exact h.1
        · exact fun _ => rfl
      · rcases hwrite.mem hlease with hkept | rfl
        · exact h.2 lease hkept hkey
        · exact hwrite.lost t hfirst hnow (h.2 _ (List.mem_of_find?_eq_some hwrite.found) hkey)
  | granted hgrant =>
      unfold RuntimeStore.Gone
      rw [hgrant.leases, List.map_append]
      refine ⟨List.mem_append_left _ h.1, fun lease hlease hkey => ?_⟩
      rcases List.mem_append.mp hlease with hkept | hnew
      · exact h.2 lease hkept hkey
      · obtain rfl := List.mem_singleton.mp hnew
        exact absurd (hkey ▸ h.1) hgrant.new

theorem gone_afterAll (steps : List (RuntimeOutside × RuntimeCall))
    (hlater : ∀ step ∈ steps, t ≤ step.1.first ∧ t ≤ step.1.now) :
    (store.afterAll policy digest steps).Gone t key := by
  induction steps generalizing store with
  | nil => exact h
  | cons step steps ih =>
      obtain ⟨⟨hfirst, hnow⟩, hlater⟩ := List.forall_mem_cons.mp hlater
      refine ih ?_ hlater
      unfold RuntimeStore.after
      split
      · next hperform =>
        rcases change_of_perform hperform with hchange | hchange
        · exact gone_change h hfirst hnow hchange
        · exact gone_change (gone_expire h _) hfirst hnow hchange
      · exact h

end Gone

/-- As long as the clock is not set back, a lease whose time is over stays lost whatever is called,
and what its holder calls to keep it is refused. -/
theorem refused_of_gone {steps : List (RuntimeOutside × RuntimeCall)}
    (h : store.Gone t (digest token)) (hrun : store.afterAll policy digest steps = next)
    (hlater : ∀ step ∈ steps, t ≤ step.1.first ∧ t ≤ step.1.now) (hnow : t ≤ outside.now) :
    next.Gone t (digest token) ∧ ∀ fencingToken left,
      next.heartbeat policy digest outside token fencingToken ≠ .ok left ∧
        next.clearProvider policy digest outside token fencingToken ≠ .ok left := by
  have hgone : next.Gone t (digest token) := hrun ▸ gone_afterAll h steps hlater
  have hrefused : ∀ {fencingToken asserts kinds f changed},
      next.changeLease digest outside token fencingToken asserts true kinds f ≠ .ok changed := by
    intro fencingToken asserts kinds f changed hchanged
    obtain ⟨hfound, hactive, htime, -⟩ := changeLease_eq_ok hchanged
    have hnamed := List.find?_some hfound
    have hlost := hgone.2 _ (List.mem_of_find?_eq_some hfound) (of_decide_eq_true hnamed)
    exact htime rfl ((hlost hactive).trans hnow)
  refine ⟨hgone, fun fencingToken left => ⟨fun hok => ?_, fun hok => ?_⟩⟩
  · obtain ⟨changed, hchanged, -⟩ := map_eq_ok.mp hok
    exact hrefused hchanged
  · obtain ⟨changed, hchanged, -⟩ := map_eq_ok.mp hok
    exact hrefused hchanged

/-! A lease is granted at time 0, has run out at time 40, and its key is granted again. -/

def sampleRuntimePolicy : RuntimePolicy where
  toHostPolicy := samplePolicy
  leaseTtl := 30

def runtimeAt (now : ℤ) (drawn : PyString) : RuntimeOutside where
  startIdentity := fun _ => py "boot 1"
  drawn := drawn
  asked := now
  first := now
  now := now

def sampleHolder : RuntimeHolder where
  leaseKey := py "supervisor"
  kind := py "supervisor"
  projectKey := py "shop"
  workerId := []
  runId := []
  resources := []
  pid := 7
  processStartIdentity := py "boot 1"

def regrant : RuntimeOutside × RuntimeCall :=
  (runtimeAt 40 (py "second"), .acquireRuntime sampleHolder)

def grantedOnce : RuntimeStore :=
  RuntimeStore.empty.afterAll sampleRuntimePolicy id
    [(runtimeAt 0 (py "first"), .acquireRuntime sampleHolder)]

def grantedTwice : RuntimeStore :=
  grantedOnce.afterAll sampleRuntimePolicy id [regrant]

theorem refused_of_superseded_sample : grantedTwice.Superseded (py "first") ∧ ∀ next,
    grantedTwice.perform sampleRuntimePolicy id (runtimeAt 0 []) (.release (py "first") 1) ≠
      .ok next := by
  have h : grantedTwice.Superseded (py "first") := by
    unfold RuntimeStore.Superseded
    decide +kernel
  have hrun : RuntimeStore.empty.afterAll sampleRuntimePolicy id
    [(runtimeAt 0 (py "first"), .acquireRuntime sampleHolder), regrant] = grantedTwice := rfl
  exact ⟨h, fun next => refused_of_superseded hrun h rfl⟩

theorem refused_of_gone_sample : grantedOnce.Gone 40 (py "first") ∧ ∀ next,
    grantedTwice.heartbeat sampleRuntimePolicy id (runtimeAt 50 []) (py "first") 1 ≠ .ok next := by
  have h : grantedOnce.Gone 40 (id (py "first")) := by
    unfold RuntimeStore.Gone LeaseTerms.Lost
    decide +kernel
  have hrun : grantedOnce.afterAll sampleRuntimePolicy id [regrant] = grantedTwice := rfl
  have hlater : ∀ step ∈ [regrant], 40 ≤ step.1.first ∧ 40 ≤ step.1.now := by decide
  exact ⟨h, fun next => ((refused_of_gone h hrun hlater (by decide)).2 1 next).1⟩

end DevHarness.HostCapacity
