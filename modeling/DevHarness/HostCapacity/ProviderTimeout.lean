import DevHarness.HostCapacity.Safety

/-!
# A transition that times out

`acquire` takes its waiter back when it gives up.  `transition_provider` does not: what its last pass
has written stays in the document, and the lease goes on contending for the provider.
-/

namespace DevHarness.HostCapacity

open PyText Sequence

/-! ## The loop of `transition_provider` -/

/-- One time around the loop: the document as the other processes have left it, what the pass gets
from outside, and the monotonic clock after it. -/
structure Poll where
  state : CapacityState
  outside : Outside
  monotonic : ℤ

/-- How a call ends.  `unavailable` is `HostCapacityUnavailable`, `inactive` is
`HostCapacityError`. -/
inductive TransitionEnd
  | returned
  | inactive
  | unavailable (message : PyString)
  deriving DecidableEq

/-- The call and the document that it leaves; `none` when it goes on after these polls. -/
def transitionCall (policy : HostPolicy) (token provider : PyString) (priority : ℤ)
    (deadline : Option ℤ) : List Poll → Option (TransitionEnd × CapacityState)
  | [] => none
  | poll :: polls =>
    match poll.state.transitionProvider policy token provider priority poll.outside with
    | (.done, left) => some (.returned, left)
    | (.inactive, left) => some (.inactive, left)
    | (.waiting, left) =>
      if deadline.any fun deadline => decide (deadline ≤ poll.monotonic) then
        some (.unavailable
          (py "timed out waiting for provider capacity: " ++ policy.normalize provider), left)
      else
        transitionCall policy token provider priority deadline polls

/-- Nothing of the call is left in the document: the lease does not contend, and every other lease
gets from its next poll what it would get from the document without the call. -/
structure NoResidue (policy : HostPolicy) (token : PyString) (without left : CapacityState) :
    Prop where
  contends : ∀ provider, ∀ contender ∈ left.contenders provider, contender.1.token ≠ token
  others : ∀ other provider priority outside, other ≠ token →
    (left.transitionProvider policy other provider priority outside).1 =
      (without.transitionProvider policy other provider priority outside).1

section Timeout

variable {policy : HostPolicy} {state left without : CapacityState} {token provider : PyString}
  {priority : ℤ} {deadline : Option ℤ} {outside : Outside} {polls : List Poll} {lease : Lease}
  {request : ProviderRequest} {message : PyString}

theorem mem_contenders : (lease, request) ∈ state.contenders provider ↔
    lease ∈ state.leases ∧ lease.waitingProvider = some request ∧
      request.requestedProvider = provider := by
  rw [CapacityState.contenders, List.mem_insertionSort, List.mem_filterMap]
  constructor
  · rintro ⟨other, hother, hmap⟩
    obtain ⟨found, hfound, hpair⟩ := Option.map_eq_some_iff.mp hmap
    obtain ⟨rfl, rfl⟩ := Prod.mk.inj hpair
    obtain ⟨hwaiting, hprovider⟩ := Option.filter_eq_some_iff.mp hfound
    exact ⟨hother, hwaiting, of_decide_eq_true hprovider⟩
  · rintro ⟨hmem, hwaiting, hprovider⟩
    refine ⟨lease, hmem, ?_⟩
    rw [hwaiting, Option.filter_some, if_pos (decide_eq_true hprovider)]
    rfl

theorem exists_waitingProvider_await (lease : Lease) (provider now : PyString) (priority : ℤ) :
    ∃ request, (lease.await provider priority now).waitingProvider = some request ∧
      request.requestedProvider = provider := by
  unfold Lease.await
  cases lease.waitingProvider with
  | none => exact ⟨_, rfl, rfl⟩
  | some earlier =>
      by_cases hsame : earlier.requestedProvider = provider
      · exact ⟨earlier, by simp [hsame], hsame⟩
      · refine ⟨{ requestedProvider := provider, priority := priority, requestedAt := now }, ?_, rfl⟩
        simp [hsame]

theorem exists_contender_of_waiting
    (hpass : state.transitionProvider policy token provider priority outside = (.waiting, left)) :
    ∃ contender ∈ left.contenders (policy.normalize provider), contender.1.token = token := by
  unfold CapacityState.transitionProvider at hpass
  simp only at hpass
  split at hpass
  · cases hpass
  · next target htarget =>
    split at hpass
    · cases hpass
    · split at hpass
      · cases hpass
      · split at hpass
        · cases hpass
        · obtain ⟨-, rfl⟩ := Prod.mk.inj hpass
          have hawaits := leaseOf_updateLease (f := fun lease =>
            lease.await (policy.normalize provider) priority outside.now) htarget fun _ => rfl
          obtain ⟨request, hrequest, hprovider⟩ := exists_waitingProvider_await target
            (policy.normalize provider) outside.now priority
          have htoken := List.find?_some htarget
          refine ⟨(target.await (policy.normalize provider) priority outside.now, request), ?_, ?_⟩
          · exact mem_contenders.mpr ⟨List.mem_of_find?_eq_some hawaits, hrequest, hprovider⟩
          · exact of_decide_eq_true htoken

theorem exists_contender_of_unavailable
    (hcall : transitionCall policy token provider priority deadline polls =
      some (.unavailable message, left)) :
    ∃ contender ∈ left.contenders (policy.normalize provider), contender.1.token = token := by
  induction polls with
  | nil => cases hcall
  | cons poll polls ih =>
      rw [transitionCall] at hcall
      split at hcall
      · cases hcall
      · cases hcall
      · next after hpass =>
        split at hcall
        · obtain ⟨-, rfl⟩ := Prod.mk.inj (Option.some.inj hcall)
          exact exists_contender_of_waiting hpass
        · exact ih hcall

/-- Every call that times out leaves something in the document. -/
theorem residue_of_unavailable
    (hcall : transitionCall policy token provider priority deadline polls =
      some (.unavailable message, left)) (without : CapacityState) :
    ¬ NoResidue policy token without left := by
  intro h
  obtain ⟨contender, hcontender, htoken⟩ := exists_contender_of_unavailable hcall
  exact h.contends _ contender hcontender htoken

end Timeout

/-! ## A leftover that goes before a lease that waits -/

def sampleLease (name : String) (pid : ℤ) (provider : String)
    (waitingProvider : Option ProviderRequest) : Lease where
  token := py name
  projectId := py "project"
  workerId := py name
  runId := py "run"
  provider := py provider
  resources := []
  pid := pid
  processStartIdentity := []
  supervisorPid := pid
  supervisorStartIdentity := []
  status := .live
  acquiredAt := py "2026-01-01T00:00:00"
  heartbeatAt := py "2026-01-01T00:00:00"
  waitingProvider := waitingProvider

def contendedSample : CapacityState where
  leases :=
    [sampleLease "holder" 1 "codex" none,
      sampleLease "quitter" 2 "" none,
      sampleLease "patient" 3 ""
        (some
          { requestedProvider := py "codex"
            priority := 10
            requestedAt := py "2026-01-01T00:00:00" })]
  waiters := []
  lastGrantedProject := []

/-- The call has waited for the provider until its time was over. -/
def quitSample : CapacityState :=
  (contendedSample.transitionProvider samplePolicy (py "quitter") (py "codex") 5 sampleOutside).2

def holderDied : Outside :=
  { sampleOutside with
    facts := fun _ => { sampleFacts with pidAlive := fun pid => decide (pid ≠ 1) } }

def quitCall : Option (TransitionEnd × CapacityState) :=
  transitionCall samplePolicy (py "quitter") (py "codex") 5 (some 0)
    [{ state := contendedSample, outside := sampleOutside, monotonic := 0 }]

theorem quitCall_eq : quitCall =
    some (.unavailable (py "timed out waiting for provider capacity: codex"), quitSample) := by
  decide +kernel

theorem residue_quitSample : ¬ NoResidue samplePolicy (py "quitter") contendedSample quitSample :=
  residue_of_unavailable quitCall_eq contendedSample

/-- The lease that waits would get the provider that the holder leaves; behind the leftover it does
not. -/
theorem not_noResidue : ¬ ∀ (policy : HostPolicy) (token provider message : PyString) (priority : ℤ)
    (deadline : Option ℤ) (poll : Poll) (left : CapacityState),
    transitionCall policy token provider priority deadline [poll] =
      some (.unavailable message, left) → NoResidue policy token poll.state left := by
  intro h
  have hothers := (h _ _ _ _ _ _ _ _ quitCall_eq).others (py "patient") (py "codex") 10 holderDied
    (by decide)
  have hleft : (quitSample.transitionProvider samplePolicy (py "patient") (py "codex") 10
      holderDied).1 = .waiting := by decide +kernel
  have hwithout : (contendedSample.transitionProvider samplePolicy (py "patient") (py "codex") 10
      holderDied).1 = .done := by decide +kernel
  rw [hleft, hwithout] at hothers
  cases hothers

end DevHarness.HostCapacity
