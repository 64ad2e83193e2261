import DevHarness.HostCapacity.Broker
import Mathlib.Logic.Relation

/-!
# Host capacity is never exceeded

What a lease takes up is its holding: a worker, a provider at times, and resources.  A holding
is added when it fits, and everything else takes holdings away or moves a provider between them.
-/

namespace DevHarness.HostCapacity

open PyText Sequence

/-! ## Holdings -/

structure Holding where
  token : PyString
  provider : PyString
  resources : List PyString

def Lease.holding (lease : Lease) : Holding where
  token := lease.token
  provider := lease.provider
  resources := lease.resources

def held (holdings : List Holding) (provider : PyString) : ℕ :=
  holdings.countP fun holding => decide (holding.provider = provider)

structure Fits (policy : HostPolicy) (holdings : List Holding) : Prop where
  workers : holdings.length ≤ policy.maxActiveWorkers
  providers : ∀ provider limit, policy.limit provider = some limit →
    held holdings provider ≤ limit
  resources : holdings.Pairwise fun left right =>
    ∀ resource ∈ left.resources, resource ∉ right.resources
  tokens : (holdings.map Holding.token).Nodup

variable {policy : HostPolicy} {token : PyString} {outside : Outside}

section Holdings

variable {holdings holdings' before after : List Holding} {holding new : Holding}

theorem HostPolicy.limit_nil (policy : HostPolicy) : policy.limit [] = none := by
  unfold HostPolicy.limit
  rw [Option.map_eq_none_iff]
  apply List.find?_eq_none.mpr
  intro entry hentry hnil
  exact (policy.limited entry hentry).1 (of_decide_eq_true hnil)

theorem fits_nil (policy : HostPolicy) : Fits policy [] where
  workers := Nat.zero_le _
  providers := fun _ _ _ => Nat.zero_le _
  resources := List.Pairwise.nil
  tokens := List.nodup_nil

theorem Fits.sublist (h : Fits policy holdings) (hsublist : List.Sublist holdings' holdings) :
    Fits policy holdings' where
  workers := hsublist.length_le.trans h.workers
  providers := fun provider limit hlimit =>
    (hsublist.countP_le).trans (h.providers provider limit hlimit)
  resources := h.resources.sublist hsublist
  tokens := h.tokens.sublist (hsublist.map _)

theorem Fits.append (h : Fits policy holdings)
    (hworkers : holdings.length < policy.maxActiveWorkers)
    (hprovider : ∀ limit, policy.limit new.provider = some limit →
      held holdings new.provider < limit)
    (hresources : ∀ resource ∈ new.resources, ∀ holding ∈ holdings, resource ∉ holding.resources)
    (htoken : ∀ holding ∈ holdings, holding.token ≠ new.token) :
    Fits policy (holdings ++ [new]) where
  workers := by
    rw [List.length_append, List.length_singleton]
    omega
  providers := by
    intro provider limit hlimit
    have hold := h.providers provider limit hlimit
    rw [held, List.countP_append, List.countP_singleton]
    by_cases hsame : new.provider = provider
    · subst hsame
      have hroom : held holdings new.provider < limit := hprovider limit hlimit
      rw [if_pos (decide_eq_true rfl)]
      exact hroom
    · rw [if_neg fun hnew => hsame (of_decide_eq_true hnew)]
      exact hold
  resources := by
    apply List.pairwise_append.mpr
    refine ⟨h.resources, List.pairwise_singleton _ _, ?_⟩
    intro holding hholding other hother resource hresource htaken
    rw [List.mem_singleton.mp hother] at htaken
    exact hresources resource htaken holding hholding hresource
  tokens := by
    rw [List.map_append]
    apply List.Nodup.append h.tokens (List.nodup_singleton _)
    intro token hold hnew
    obtain ⟨holding, hholding, rfl⟩ := List.mem_map.mp hold
    exact htoken holding hholding (List.mem_singleton.mp hnew)

theorem Fits.replace (h : Fits policy (before ++ holding :: after))
    (htoken : new.token = holding.token) (hresources : new.resources = holding.resources)
    (hprovider : new.provider = holding.provider ∨ ∀ limit, policy.limit new.provider = some limit →
      held (before ++ holding :: after) new.provider < limit) :
    Fits policy (before ++ new :: after) where
  workers := by
    have hworkers := h.workers
    rw [List.length_append, List.length_cons] at hworkers ⊢
    exact hworkers
  providers := by
    intro provider limit hlimit
    have hold := h.providers provider limit hlimit
    have hsplit : ∀ x : Holding, held (before ++ x :: after) provider =
        held before provider + (held after provider + if x.provider = provider then 1 else 0) := by
      intro x
      rw [held, List.countP_append, List.countP_cons]
      simp only [decide_eq_true_eq]
      rfl
    rw [hsplit] at hold ⊢
    by_cases hsame : new.provider = provider
    · rw [if_pos hsame]
      rcases hprovider with hkept | hroom
      · rw [if_pos (hkept.symm.trans hsame)] at hold
        exact hold
      · subst hsame
        have hlt := hroom limit hlimit
        rw [hsplit] at hlt
        omega
    · rw [if_neg hsame]
      omega
  resources := by
    have hpairwise := h.resources
    rw [List.pairwise_append, List.pairwise_cons] at hpairwise ⊢
    obtain ⟨hbefore, ⟨hholding, hafter⟩, hcross⟩ := hpairwise
    refine ⟨hbefore, ⟨?_, hafter⟩, ?_⟩
    · intro other hother resource hresource
      rw [hresources] at hresource
      exact hholding other hother resource hresource
    · intro earlier hearlier other hother resource hresource
      rcases List.mem_cons.mp hother with rfl | hlater
      · rw [hresources]
        exact hcross earlier hearlier holding List.mem_cons_self resource hresource
      · exact hcross earlier hearlier other (List.mem_cons_of_mem _ hlater) resource hresource
  tokens := by
    have htokens := h.tokens
    rw [List.map_append, List.map_cons] at htokens ⊢
    rw [htoken]
    exact htokens

end Holdings

/-! ## The operations that grant nothing -/

/-- What an operation on the document does to holdings and waiters when it grants nothing. -/
structure GrantsNothing (policy : HostPolicy) (old new : CapacityState) : Prop where
  fits : Fits policy (old.leases.map Lease.holding) → Fits policy (new.leases.map Lease.holding)
  tokens : ∀ lease ∈ new.leases, ∃ earlier ∈ old.leases, earlier.token = lease.token
  waiters : ∀ waiter ∈ new.waiters, ∃ earlier ∈ old.waiters,
    earlier.requestId = waiter.requestId ∧ earlier.provider = waiter.provider ∧
      earlier.resources = waiter.resources

section Operations

variable {old new last : CapacityState} {provider : PyString} {target : Lease} {f : Lease → Lease}

theorem GrantsNothing.refl (policy : HostPolicy) (state : CapacityState) :
    GrantsNothing policy state state where
  fits := id
  tokens := fun lease hlease => ⟨lease, hlease, rfl⟩
  waiters := fun waiter hwaiter => ⟨waiter, hwaiter, rfl, rfl, rfl⟩

theorem GrantsNothing.trans (h : GrantsNothing policy old new) (h' : GrantsNothing policy new last) :
    GrantsNothing policy old last where
  fits := h'.fits ∘ h.fits
  tokens := by
    intro lease hlease
    obtain ⟨middle, hmiddle, hsame⟩ := h'.tokens lease hlease
    obtain ⟨earlier, hearlier, hsame'⟩ := h.tokens middle hmiddle
    exact ⟨earlier, hearlier, hsame'.trans hsame⟩
  waiters := by
    intro waiter hwaiter
    obtain ⟨middle, hmiddle, hid, hprovider, hresources⟩ := h'.waiters waiter hwaiter
    obtain ⟨earlier, hearlier, hid', hprovider', hresources'⟩ := h.waiters middle hmiddle
    exact ⟨earlier, hearlier, hid'.trans hid, hprovider'.trans hprovider,
      hresources'.trans hresources⟩

theorem GrantsNothing.of_sublist
    (hleases : List.Sublist (new.leases.map Lease.holding) (old.leases.map Lease.holding))
    (hwaiters : List.Sublist new.waiters old.waiters) : GrantsNothing policy old new where
  fits := fun h => h.sublist hleases
  tokens := by
    intro lease hlease
    obtain ⟨earlier, hearlier, hsame⟩ :=
      List.mem_map.mp (hleases.subset (List.mem_map_of_mem hlease))
    exact ⟨earlier, hearlier, congrArg Holding.token hsame⟩
  waiters := fun waiter hwaiter => ⟨waiter, hwaiters.subset hwaiter, rfl, rfl, rfl⟩

theorem holdings_reconcileLeases (facts : ℕ → ProcessFacts) (leases : List Lease) :
    List.Sublist ((reconcileLeases facts leases).map Lease.holding)
      (leases.map Lease.holding) := by
  induction leases generalizing facts with
  | nil => exact List.Sublist.refl _
  | cons lease leases ih =>
      unfold reconcileLeases ProcessFacts.reconcileLease
      by_cases hruns : (facts 0).runs lease.pid lease.processStartIdentity = true
      · simp only [if_pos hruns]
        exact List.Sublist.cons_cons _ (ih _)
      · simp only [if_neg hruns]
        exact List.Sublist.cons _ (ih _)

theorem reconcileWaiters_sublist (facts : ℕ → ProcessFacts) (waiters : List Waiter) :
    List.Sublist (reconcileWaiters facts waiters) waiters := by
  induction waiters generalizing facts with
  | nil => exact List.Sublist.refl _
  | cons waiter waiters ih =>
      unfold reconcileWaiters
      by_cases hkeeps : (facts 0).keepsWaiter waiter = true
      · rw [if_pos hkeeps]
        exact List.Sublist.cons_cons _ (ih _)
      · rw [if_neg hkeeps]
        exact List.Sublist.cons _ (ih _)

theorem grantsNothing_reconcile (policy : HostPolicy) (state : CapacityState) (outside : Outside) :
    GrantsNothing policy state (state.reconcile outside) :=
  .of_sublist (holdings_reconcileLeases _ _) (reconcileWaiters_sublist _ _)

theorem grantsNothing_cancelWaiter (policy : HostPolicy) (state : CapacityState)
    (requestId : PyString) (outside : Outside) :
    GrantsNothing policy state (state.cancelWaiter requestId outside) :=
  (grantsNothing_reconcile policy state outside).trans
    (.of_sublist (List.Sublist.refl _) List.filter_sublist)

theorem grantsNothing_release (policy : HostPolicy) (state : CapacityState) (token : PyString)
    (outside : Outside) : GrantsNothing policy state (state.release token outside) :=
  (grantsNothing_reconcile policy state outside).trans
    (.of_sublist (List.filter_sublist.map _) (List.Sublist.refl _))

theorem GrantsNothing.updateLease (htarget : old.leaseOf token = some target)
    (htoken : ∀ lease : Lease, (f lease).token = lease.token)
    (hresources : (f target).resources = target.resources)
    (hprovider : (f target).provider = target.provider ∨ ∀ limit, policy.limit (f target).provider
      = some limit → held (old.leases.map Lease.holding) (f target).provider < limit) :
    GrantsNothing policy old (old.updateLease token f) where
  fits := by
    intro hfits
    obtain ⟨before, after, hleases, hupdated⟩ := exists_updateFirst_split (f := f) htarget
    have hnew : (old.updateLease token f).leases = before ++ f target :: after := hupdated
    rw [hleases, List.map_append, List.map_cons] at hfits hprovider
    rw [hnew, List.map_append, List.map_cons]
    exact hfits.replace (htoken target) hresources hprovider
  tokens := by
    intro lease hlease
    have hkept : (old.updateLease token f).leases.map Lease.token =
        old.leases.map Lease.token := map_updateFirst htoken
    have hmem : lease.token ∈ old.leases.map Lease.token := by
      rw [← hkept]
      exact List.mem_map_of_mem hlease
    exact List.mem_map.mp hmem
  waiters := fun waiter hwaiter => ⟨waiter, hwaiter, rfl, rfl, rfl⟩

theorem grantsNothing_heartbeat (policy : HostPolicy) (state : CapacityState) (token : PyString)
    (outside : Outside) : GrantsNothing policy state (state.heartbeat token outside).2 := by
  have hreconcile := grantsNothing_reconcile policy state outside
  unfold CapacityState.heartbeat
  simp only
  split
  · next target htarget =>
    exact hreconcile.trans (.updateLease htarget (fun _ => rfl) rfl (.inl rfl))
  · exact hreconcile

theorem leaseOf_updateLease (htarget : old.leaseOf token = some target)
    (htoken : ∀ lease : Lease, (f lease).token = lease.token) :
    (old.updateLease token f).leaseOf token = some (f target) := by
  have hfound : old.leases.find? (fun lease => decide (lease.token = token)) = some target :=
    htarget
  have hmatches := List.find?_some hfound
  have hsame : target.token = token := of_decide_eq_true hmatches
  apply find?_updateFirst htarget
  rw [htoken, hsame]
  exact decide_eq_true rfl

/-- A provider is handed over only when it has room without the lease that asks for it. -/
theorem grantsNothing_transitionProvider (policy : HostPolicy) (state : CapacityState)
    (token provider : PyString) (priority : ℤ) (outside : Outside) :
    GrantsNothing policy state
      (state.transitionProvider policy token provider priority outside).2 := by
  have hreconcile := grantsNothing_reconcile policy state outside
  have hnone : ∀ (held : ℕ) (limit : ℕ), policy.limit [] = some limit → held < limit := by
    intro held limit hlimit
    rw [policy.limit_nil] at hlimit
    cases hlimit
  unfold CapacityState.transitionProvider
  simp only
  split
  · exact .refl policy state
  · next target htarget =>
    by_cases hsame : target.provider = policy.normalize provider
    · rw [if_pos hsame]
      exact hreconcile.trans (.updateLease htarget (fun _ => rfl) rfl (.inl rfl))
    · rw [if_neg hsame]
      by_cases hempty : policy.normalize provider = []
      · rw [if_pos hempty]
        exact hreconcile.trans (.updateLease htarget (fun _ => rfl) rfl (.inr (hnone _)))
      · rw [if_neg hempty]
        have hwaiting : GrantsNothing policy (state.reconcile outside)
            ((state.reconcile outside).updateLease token fun lease =>
              lease.await (policy.normalize provider) priority outside.now) :=
          .updateLease htarget (fun _ => rfl) rfl (.inr (hnone _))
        have htarget' := leaseOf_updateLease (f := fun lease =>
          lease.await (policy.normalize provider) priority outside.now) htarget fun _ => rfl
        split
        · next hselected =>
          refine (hreconcile.trans hwaiting).trans (.updateLease htarget' (fun _ => rfl) rfl ?_)
          refine .inr fun limit hlimit => ?_
          have havailable := hselected.2
          unfold providerAvailable at havailable
          have hlimit' : policy.limit (policy.normalize provider) = some limit := hlimit
          rw [if_neg hempty, hlimit'] at havailable
          have hlt := of_decide_eq_true havailable
          rw [held, List.countP_map]
          exact hlt
        · exact hreconcile.trans hwaiting

end Operations

/-! ## Processes -/

/-- A lease that has been granted, with the request that it was granted to. -/
structure Grant where
  requestId : PyString
  token : PyString

/-- The document, the calls of `acquire` that are in their loop, what has been granted, and what
`secrets` has drawn. -/
structure HostState where
  capacity : CapacityState
  requests : List Request
  granted : List Grant
  drawn : List PyString

def HostState.initial : HostState where
  capacity := .empty
  requests := []
  granted := []
  drawn := []

/-- A draw of `secrets.token_urlsafe` is not empty and does not repeat an earlier one. -/
def HostState.Draws (state : HostState) (text : PyString) : Prop :=
  text ≠ [] ∧ text ∉ state.drawn

instance (state : HostState) (text : PyString) : Decidable (state.Draws text) :=
  inferInstanceAs (Decidable (text ≠ [] ∧ text ∉ state.drawn))

/-- A call of `acquire` that gets its lease returns. -/
def HostState.pass (policy : HostPolicy) (state : HostState) (request : Request)
    (outside : Outside) (token : PyString) : HostState :=
  match state.capacity.acquire policy request outside token with
  | (true, capacity) =>
    { capacity := capacity
      requests := state.requests.filter fun other => decide (other.requestId ≠ request.requestId)
      granted := state.granted ++ [{ requestId := request.requestId, token := token }]
      drawn := token :: state.drawn }
  | (false, capacity) => { state with capacity := capacity }

/-- The steps of any number of processes.  A process that dies or is interrupted leaves its
loop; what follows it, if anything, is a `cancel_waiter`. -/
inductive HostStep (policy : HostPolicy) : HostState → HostState → Prop
  | call {state : HostState} (call : AcquireCall) {requestId : PyString} (started now : PyString)
      (hdrawn : state.Draws requestId) :
      HostStep policy state
        { state with
          requests := state.requests ++ [call.request policy requestId started now]
          drawn := requestId :: state.drawn }
  | pass {state : HostState} {request : Request} (outside : Outside) {token : PyString}
      (hrequest : request ∈ state.requests) (hdrawn : state.Draws token) :
      HostStep policy state (state.pass policy request outside token)
  | leave {state : HostState} (requestId : PyString) :
      HostStep policy state
        { state with
          requests := state.requests.filter fun other => decide (other.requestId ≠ requestId) }
  | cancelWaiter {state : HostState} (requestId : PyString) (outside : Outside) :
      HostStep policy state
        { state with capacity := state.capacity.cancelWaiter requestId outside }
  | heartbeat {state : HostState} (token : PyString) (outside : Outside) :
      HostStep policy state
        { state with capacity := (state.capacity.heartbeat token outside).2 }
  | transitionProvider {state : HostState} (token provider : PyString) (priority : ℤ)
      (outside : Outside) :
      HostStep policy state
        { state with
          capacity := (state.capacity.transitionProvider policy token provider priority outside).2 }
  | release {state : HostState} (token : PyString) (outside : Outside) :
      HostStep policy state { state with capacity := state.capacity.release token outside }
  | snapshot {state : HostState} (outside : Outside) :
      HostStep policy state { state with capacity := state.capacity.snapshot outside }

def Reached (policy : HostPolicy) (state : HostState) : Prop :=
  Relation.ReflTransGen (HostStep policy) .initial state

/-- What is promised of the leases. -/
structure CapacitySafe (policy : HostPolicy) (state : HostState) : Prop where
  workers : state.capacity.leases.length ≤ policy.maxActiveWorkers
  providers : ∀ provider limit, policy.limit provider = some limit →
    state.capacity.leases.countP (fun lease => decide (lease.provider = provider)) ≤ limit
  resources : state.capacity.leases.Pairwise fun left right =>
    ∀ resource ∈ left.resources, resource ∉ right.resources
  /-- Leases have different tokens. -/
  tokens : (state.capacity.leases.map Lease.token).Nodup
  /-- A token has been granted to one request, and a request has been granted one token. -/
  granted : ∀ lease ∈ state.capacity.leases, ∃ grant ∈ state.granted, grant.token = lease.token ∧
    ∀ other ∈ state.granted, other.token = grant.token ∨ other.requestId = grant.requestId →
      other = grant

/-- What always holds: who waits in the document is who has called, and what is granted is
new. -/
structure Sound (policy : HostPolicy) (state : HostState) : Prop where
  fits : Fits policy (state.capacity.leases.map Lease.holding)
  tokens : ∀ lease ∈ state.capacity.leases, ∃ grant ∈ state.granted, grant.token = lease.token
  grantedTokens : (state.granted.map Grant.token).Nodup
  grantedRequests : (state.granted.map Grant.requestId).Nodup
  drawnTokens : ∀ grant ∈ state.granted, grant.token ∈ state.drawn
  drawnRequests : ∀ grant ∈ state.granted, grant.requestId ∈ state.drawn
  distinct : ∀ request ∈ state.requests, ∀ other ∈ state.requests,
    other.requestId = request.requestId → other = request
  calls : ∀ request ∈ state.requests, request.requestId ∈ state.drawn ∧ request.requestId ≠ [] ∧
    ∀ grant ∈ state.granted, grant.requestId ≠ request.requestId
  entries : ∀ waiter ∈ state.capacity.waiters, waiter.requestId ∈ state.drawn ∧
    ∀ request ∈ state.requests, request.requestId = waiter.requestId →
      request.provider = waiter.provider ∧ request.resources = waiter.resources

section Steps

variable {state : HostState} {capacity : CapacityState} {request : Request}

theorem sound_initial (policy : HostPolicy) : Sound policy .initial where
  fits := fits_nil policy
  tokens := fun _ hlease => absurd hlease List.not_mem_nil
  grantedTokens := List.nodup_nil
  grantedRequests := List.nodup_nil
  drawnTokens := fun _ hgrant => absurd hgrant List.not_mem_nil
  drawnRequests := fun _ hgrant => absurd hgrant List.not_mem_nil
  distinct := fun _ hrequest => absurd hrequest List.not_mem_nil
  calls := fun _ hrequest => absurd hrequest List.not_mem_nil
  entries := fun _ hwaiter => absurd hwaiter List.not_mem_nil

theorem Sound.quiet (h : Sound policy state) (hquiet : GrantsNothing policy state.capacity capacity) :
    Sound policy { state with capacity := capacity } :=
  { h with
    fits := hquiet.fits h.fits
    tokens := by
      intro lease hlease
      obtain ⟨earlier, hearlier, hsame⟩ := hquiet.tokens lease hlease
      obtain ⟨grant, hgrant, htoken⟩ := h.tokens earlier hearlier
      exact ⟨grant, hgrant, htoken.trans hsame⟩
    entries := by
      intro waiter hwaiter
      obtain ⟨earlier, hearlier, hid, hprovider, hresources⟩ := hquiet.waiters waiter hwaiter
      obtain ⟨hdrawn, hrequests⟩ := h.entries earlier hearlier
      rw [← hid, ← hprovider, ← hresources]
      exact ⟨hdrawn, hrequests⟩ }

theorem Sound.leave (h : Sound policy state) (requestId : PyString) :
    Sound policy
      { state with
        requests := state.requests.filter fun other => decide (other.requestId ≠ requestId) } :=
  { h with
    distinct := fun request hrequest other hother =>
      h.distinct request (List.mem_of_mem_filter hrequest) other (List.mem_of_mem_filter hother)
    calls := fun request hrequest => h.calls request (List.mem_of_mem_filter hrequest)
    entries := by
      intro waiter hwaiter
      obtain ⟨hdrawn, hrequests⟩ := h.entries waiter hwaiter
      exact ⟨hdrawn, fun request hrequest => hrequests request (List.mem_of_mem_filter hrequest)⟩ }

theorem Sound.call (h : Sound policy state) (hdrawn : state.Draws request.requestId) :
    Sound policy
      { state with
        requests := state.requests ++ [request]
        drawn := request.requestId :: state.drawn } :=
  { h with
    drawnTokens := fun grant hgrant => List.mem_cons_of_mem _ (h.drawnTokens grant hgrant)
    drawnRequests := fun grant hgrant => List.mem_cons_of_mem _ (h.drawnRequests grant hgrant)
    distinct := by
      have hnew : ∀ other ∈ state.requests, other.requestId ≠ request.requestId := by
        intro other hother hsame
        apply hdrawn.2
        rw [← hsame]
        exact (h.calls other hother).1
      intro first hfirst second hsecond hsame
      rcases List.mem_append.mp hfirst with hfirst | hfirst
      · rcases List.mem_append.mp hsecond with hsecond | hsecond
        · exact h.distinct first hfirst second hsecond hsame
        · rw [List.mem_singleton.mp hsecond] at hsame
          exact absurd hsame.symm (hnew first hfirst)
      · rw [List.mem_singleton.mp hfirst] at hsame ⊢
        rcases List.mem_append.mp hsecond with hsecond | hsecond
        · exact absurd hsame (hnew second hsecond)
        · exact List.mem_singleton.mp hsecond
    calls := by
      intro other hother
      rcases List.mem_append.mp hother with hold | hnew
      · obtain ⟨hother, hne, hopen⟩ := h.calls other hold
        exact ⟨List.mem_cons_of_mem _ hother, hne, hopen⟩
      · rw [List.mem_singleton.mp hnew]
        refine ⟨List.mem_cons_self, hdrawn.1, fun grant hgrant hsame => ?_⟩
        apply hdrawn.2
        rw [← hsame]
        exact h.drawnRequests grant hgrant
    entries := by
      intro waiter hwaiter
      obtain ⟨hwaits, hrequests⟩ := h.entries waiter hwaiter
      refine ⟨List.mem_cons_of_mem _ hwaits, fun other hother hsame => ?_⟩
      rcases List.mem_append.mp hother with hold | hnew
      · exact hrequests other hold hsame
      · rw [List.mem_singleton.mp hnew] at hsame
        rw [← hsame] at hwaits
        exact absurd hwaits hdrawn.2 }

theorem Sound.announce (h : Sound policy state) (hrequest : request ∈ state.requests)
    (now : PyString) :
    Sound policy { state with capacity := state.capacity.announce request now } :=
  { h with
    entries := by
      intro waiter hwaiter
      have hwaiters : waiter ∈ (state.capacity.announce request now).waiters := hwaiter
      unfold CapacityState.announce at hwaiters
      simp only at hwaiters
      split at hwaiters
      · have hkept : (waiter.requestId, waiter.provider, waiter.resources) ∈
            state.capacity.waiters.map fun item =>
              (item.requestId, item.provider, item.resources) := by
          have hsame : ((updateFirst (fun item => decide (item.requestId = request.requestId))
              (fun item => { item with heartbeatAt := now }) state.capacity.waiters).map fun item =>
                (item.requestId, item.provider, item.resources)) =
              state.capacity.waiters.map fun item =>
                (item.requestId, item.provider, item.resources) := map_updateFirst fun _ => rfl
          rw [← hsame]
          exact List.mem_map.mpr ⟨waiter, hwaiters, rfl⟩
        obtain ⟨earlier, hearlier, hsame⟩ := List.mem_map.mp hkept
        simp only [Prod.mk.injEq] at hsame
        obtain ⟨hid, hprovider, hresources⟩ := hsame
        obtain ⟨hdrawn, hrequests⟩ := h.entries earlier hearlier
        rw [← hid, ← hprovider, ← hresources]
        exact ⟨hdrawn, hrequests⟩
      · rcases List.mem_append.mp hwaiters with hold | hnew
        · exact h.entries waiter hold
        · rw [List.mem_singleton.mp hnew]
          refine ⟨(h.calls request hrequest).1, fun other hother hsame => ?_⟩
          obtain rfl := h.distinct request hrequest other hother hsame
          exact ⟨rfl, rfl⟩ }

theorem exists_of_selectedWaiter {requestId : PyString}
    (hselected : capacity.selectedWaiter policy = requestId) (hne : requestId ≠ []) :
    ∃ waiter ∈ capacity.waiters, waiter.requestId = requestId ∧
      allocatable policy capacity.leases waiter = true := by
  unfold CapacityState.selectedWaiter at hselected
  simp only at hselected
  cases hfound : capacity.projects.findSome? fun projectId =>
      (capacity.head projectId).filter fun waiter => allocatable policy capacity.leases waiter with
  | none =>
      rw [hfound] at hselected
      exact absurd hselected.symm hne
  | some waiter =>
      rw [hfound] at hselected
      obtain ⟨projectId, -, hhead⟩ := List.exists_of_findSome?_eq_some hfound
      obtain ⟨hhead, hallocatable⟩ := Option.filter_eq_some_iff.mp hhead
      have hwaiter : waiter ∈ capacity.queue := List.mem_of_find?_eq_some hhead
      exact ⟨waiter, mem_sortedBy.mp hwaiter, hselected, hallocatable⟩

theorem Sound.grant (h : Sound policy state) (hrequest : request ∈ state.requests)
    (hselected : state.capacity.selectedWaiter policy = request.requestId)
    (hdrawn : state.Draws token) :
    Sound policy
      { capacity := state.capacity.grant request outside token
        requests := state.requests.filter fun other => decide (other.requestId ≠ request.requestId)
        granted := state.granted ++ [{ requestId := request.requestId, token := token }]
        drawn := token :: state.drawn } := by
  obtain ⟨hcall, hne, hopen⟩ := h.calls request hrequest
  obtain ⟨waiter, hwaiter, hid, hallocatable⟩ := exists_of_selectedWaiter hselected hne
  obtain ⟨-, hentry⟩ := h.entries waiter hwaiter
  obtain ⟨hprovider, hresources⟩ := hentry request hrequest hid.symm
  simp only [allocatable, Bool.and_eq_true, decide_eq_true_eq] at hallocatable
  obtain ⟨⟨hworkers, havailable⟩, hfree⟩ := hallocatable
  rw [← hprovider] at havailable
  rw [← hresources] at hfree
  have hnew : ∀ grant ∈ state.granted, grant.token ≠ token := by
    intro grant hgrant hsame
    apply hdrawn.2
    rw [← hsame]
    exact h.drawnTokens grant hgrant
  constructor
  · change Fits policy ((state.capacity.leases ++ [request.lease outside token]).map Lease.holding)
    rw [List.map_append]
    apply h.fits.append
    · rw [List.length_map]
      exact hworkers
    · intro limit hlimit
      have hlimit' : policy.limit request.provider = some limit := hlimit
      unfold providerAvailable at havailable
      split at havailable
      · next hempty =>
        rw [hempty, policy.limit_nil] at hlimit'
        cases hlimit'
      · rw [hlimit'] at havailable
        have hlt := of_decide_eq_true havailable
        rw [held, List.countP_map]
        exact hlt
    · intro resource hresource holding hholding
      obtain ⟨lease, hlease, rfl⟩ := List.mem_map.mp hholding
      have hall := List.all_eq_true.mp hfree resource hresource
      exact of_decide_eq_true (List.all_eq_true.mp hall lease hlease)
    · intro holding hholding hsame
      obtain ⟨lease, hlease, rfl⟩ := List.mem_map.mp hholding
      obtain ⟨grant, hgrant, htoken⟩ := h.tokens lease hlease
      exact hnew grant hgrant (htoken.trans hsame)
  · intro lease hlease
    rcases List.mem_append.mp hlease with hold | hlast
    · obtain ⟨grant, hgrant, htoken⟩ := h.tokens lease hold
      exact ⟨grant, List.mem_append_left _ hgrant, htoken⟩
    · rw [List.mem_singleton.mp hlast]
      exact ⟨_, List.mem_append_right _ (List.mem_singleton.mpr rfl), rfl⟩
  · rw [List.map_append]
    apply List.Nodup.append h.grantedTokens (List.nodup_singleton _)
    intro text hold hlast
    obtain ⟨grant, hgrant, rfl⟩ := List.mem_map.mp hold
    exact hnew grant hgrant (List.mem_singleton.mp hlast)
  · rw [List.map_append]
    apply List.Nodup.append h.grantedRequests (List.nodup_singleton _)
    intro text hold hlast
    obtain ⟨grant, hgrant, rfl⟩ := List.mem_map.mp hold
    exact hopen grant hgrant (List.mem_singleton.mp hlast)
  · intro grant hgrant
    rcases List.mem_append.mp hgrant with hold | hlast
    · exact List.mem_cons_of_mem _ (h.drawnTokens grant hold)
    · rw [List.mem_singleton.mp hlast]
      exact List.mem_cons_self
  · intro grant hgrant
    rcases List.mem_append.mp hgrant with hold | hlast
    · exact List.mem_cons_of_mem _ (h.drawnRequests grant hold)
    · rw [List.mem_singleton.mp hlast]
      exact List.mem_cons_of_mem _ hcall
  · intro first hfirst second hsecond
    exact h.distinct first (List.mem_of_mem_filter hfirst) second (List.mem_of_mem_filter hsecond)
  · intro other hother
    obtain ⟨hmem, hother'⟩ := List.mem_filter.mp hother
    obtain ⟨hcalled, hnonempty, hopen'⟩ := h.calls other hmem
    refine ⟨List.mem_cons_of_mem _ hcalled, hnonempty, fun grant hgrant => ?_⟩
    rcases List.mem_append.mp hgrant with hold | hlast
    · exact hopen' grant hold
    · rw [List.mem_singleton.mp hlast]
      exact fun hsame => of_decide_eq_true hother' hsame.symm
  · intro item hitem
    obtain ⟨hentered, hrequests⟩ := h.entries item (List.mem_of_mem_filter hitem)
    exact ⟨List.mem_cons_of_mem _ hentered, fun other hother =>
      hrequests other (List.mem_of_mem_filter hother)⟩

theorem Sound.pass (h : Sound policy state) (hrequest : request ∈ state.requests)
    (hdrawn : state.Draws token) : Sound policy (state.pass policy request outside token) := by
  have hreconciled := h.quiet (grantsNothing_reconcile policy state.capacity outside)
  have hannounced := hreconciled.announce hrequest outside.now
  unfold HostState.pass CapacityState.acquire
  by_cases hselected : ((state.capacity.reconcile outside).announce request
      outside.now).selectedWaiter policy = request.requestId
  · simp only [if_pos hselected]
    exact hannounced.grant hrequest hselected hdrawn
  · simp only [if_neg hselected]
    exact hannounced

theorem Sound.step {next : HostState} (h : Sound policy state) (hstep : HostStep policy state next) :
    Sound policy next := by
  cases hstep with
  | call call started now hdrawn => exact h.call hdrawn
  | pass outside hrequest hdrawn => exact h.pass hrequest hdrawn
  | leave requestId => exact h.leave requestId
  | cancelWaiter requestId outside =>
      exact h.quiet (grantsNothing_cancelWaiter policy state.capacity requestId outside)
  | heartbeat token outside =>
      exact h.quiet (grantsNothing_heartbeat policy state.capacity token outside)
  | transitionProvider token provider priority outside =>
      exact h.quiet
        (grantsNothing_transitionProvider policy state.capacity token provider priority outside)
  | release token outside =>
      exact h.quiet (grantsNothing_release policy state.capacity token outside)
  | snapshot outside => exact h.quiet (grantsNothing_reconcile policy state.capacity outside)

theorem Sound.capacitySafe (h : Sound policy state) : CapacitySafe policy state where
  workers := by
    have hworkers := h.fits.workers
    rwa [List.length_map] at hworkers
  providers := by
    intro provider limit hlimit
    have hle := h.fits.providers provider limit hlimit
    rw [held, List.countP_map] at hle
    exact hle
  resources := List.pairwise_map.mp h.fits.resources
  tokens := by
    have htokens := h.fits.tokens
    rw [List.map_map] at htokens
    exact htokens
  granted := by
    intro lease hlease
    obtain ⟨grant, hgrant, htoken⟩ := h.tokens lease hlease
    refine ⟨grant, hgrant, htoken, fun other hother hsame => ?_⟩
    rcases hsame with hsame | hsame
    · exact List.inj_on_of_nodup_map h.grantedTokens hother hgrant hsame
    · exact List.inj_on_of_nodup_map h.grantedRequests hother hgrant hsame

end Steps

/-- However the processes interleave and wherever they die, the leases fit into the capacity of
the host, and each has been granted to a request of its own. -/
theorem capacitySafe_of_reached {policy : HostPolicy} {state : HostState}
    (h : Reached policy state) : CapacitySafe policy state := by
  have hsound : Sound policy state := by
    induction h with
    | refl => exact sound_initial policy
    | tail _ hstep ih => exact ih.step hstep
  exact hsound.capacitySafe

def samplePolicy : HostPolicy where
  maxActiveWorkers := 1
  providerLimits := [(py "codex", 1)]
  positive := by decide
  limited := by decide
  unique := by decide

def sampleCall : AcquireCall where
  projectId := py "project"
  workerId := py "worker"
  runId := py "run"
  provider := py "codex"
  resources := [py " port:3000 "]
  supervisorPid := none
  pid := 100

def sampleFacts : ProcessFacts where
  pidAlive := fun _ => true
  startIdentity := fun _ => []
  fresh := fun _ => true

def sampleOutside : Outside where
  facts := fun _ => sampleFacts
  waiterFacts := fun _ => sampleFacts
  supervisorIdentity := []
  now := py "2026-01-01T00:00:01"

def calledSample : HostState :=
  { HostState.initial with
    requests := [sampleCall.request samplePolicy (py "request") [] (py "2026-01-01T00:00:00")]
    drawn := [py "request"] }

def grantedSample : HostState :=
  calledSample.pass samplePolicy
    (sampleCall.request samplePolicy (py "request") [] (py "2026-01-01T00:00:00")) sampleOutside
    (py "token")

theorem capacitySafe_grantedSample : grantedSample.capacity.leases.map Lease.token = [py "token"] ∧
    CapacitySafe samplePolicy grantedSample := by
  have hcalled : HostStep samplePolicy .initial calledSample :=
    .call sampleCall [] (py "2026-01-01T00:00:00") (by decide)
  have hgranted : HostStep samplePolicy calledSample grantedSample :=
    .pass sampleOutside List.mem_cons_self (by decide)
  exact ⟨by decide, capacitySafe_of_reached ((Relation.ReflTransGen.single hcalled).tail hgranted)⟩

end DevHarness.HostCapacity
