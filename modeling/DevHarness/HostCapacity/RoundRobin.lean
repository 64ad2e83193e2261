import DevHarness.HostCapacity.Safety
import DevHarness.Sequence.Rotation
import Mathlib.Data.List.Dedup

/-!
# The round robin between projects

The broker turns behind the project that was granted last.  As long as that project still waits,
every grant is nearer to a project whose turn has not come.  Where it waits no longer, the broker
starts again with the first project.
-/

namespace DevHarness.HostCapacity

open PyText Sequence

/-! ## Grant decisions -/

/-- A decision that grants: the document that it looks at, and the call that gets the lease. -/
structure Decision where
  document : CapacityState
  request : Request

def HostState.announced (state : HostState) (request : Request) (outside : Outside) :
    CapacityState :=
  (state.capacity.reconcile outside).announce request outside.now

inductive HostRun (policy : HostPolicy) (start : HostState) : List Decision → HostState → Prop
  | refl : HostRun policy start [] start
  | quiet {decisions : List Decision} {state next : HostState}
      (hrun : HostRun policy start decisions state) (hstep : HostStep policy state next)
      (hquiet : next.granted = state.granted) : HostRun policy start decisions next
  | grant {decisions : List Decision} {state : HostState} {request : Request} {token : PyString}
      {outside : Outside} (hrun : HostRun policy start decisions state)
      (hrequest : request ∈ state.requests) (hdrawn : state.Draws token)
      (hselected : (state.announced request outside).selectedWaiter policy = request.requestId) :
      HostRun policy start (decisions ++ [⟨state.announced request outside, request⟩])
        (state.pass policy request outside token)

/-- The first waiter of the project is the request, and it can have a lease. -/
def HeadWaits (policy : HostPolicy) (projectId requestId : PyString) (decision : Decision) : Prop :=
  ∃ waiter, decision.document.head projectId = some waiter ∧ waiter.requestId = requestId ∧
    allocatable policy decision.document.leases waiter = true

/-- The project that was granted last still waits, or no project waits that is first in the order
of names. -/
def KeepsPlace (projectId : PyString) (decision : Decision) : Prop :=
  decision.document.lastGrantedProject ∈ decision.document.waiters.map Waiter.projectId ∨
    ∀ waiter ∈ decision.document.waiters, ¬ waiter.projectId < projectId

/-- Every other project has at most one of the grants. -/
def OneGrantEach (projectId : PyString) (decisions : List Decision) : Prop :=
  ∀ other ≠ projectId,
    (decisions.map fun decision => decision.request.projectId).count other ≤ 1

variable {r : PyString → PyString → Prop} {policy : HostPolicy} {next : HostState}
  {request : Request} {outside : Outside} {token : PyString}

section Selection

variable {state : CapacityState} {projectId : PyString} {waiter : Waiter}

theorem mem_queue : waiter ∈ state.queue ↔ waiter ∈ state.waiters :=
  mem_sortedBy

def CapacityState.waitingProjects (state : CapacityState) : List PyString :=
  PyText.sorted (state.queue.map Waiter.projectId).dedup

theorem mem_waitingProjects :
    projectId ∈ state.waitingProjects ↔ projectId ∈ state.waiters.map Waiter.projectId := by
  rw [CapacityState.waitingProjects, PyText.sorted, List.mem_insertionSort, List.mem_dedup,
    List.mem_map, List.mem_map]
  simp only [mem_queue]

theorem pairwise_waitingProjects (state : CapacityState) :
    state.waitingProjects.Pairwise (· < ·) := by
  have hnodup : state.waitingProjects.Nodup :=
    (List.perm_insertionSort _ _).nodup_iff.mpr (List.nodup_dedup _)
  have hle : state.waitingProjects.Pairwise fun a b => ¬ b < a := pairwise_sorted _
  exact (hle.and hnodup).imp fun h => lt_of_le_of_ne (not_lt.mp h.1) h.2

theorem projects_eq (state : CapacityState) :
    state.projects = rotateAfter state.lastGrantedProject state.waitingProjects :=
  rfl

/-- A waiter that is selected is the first one of its project, and its project is the one that
waits or comes before it. -/
theorem selectedWaiter_before {requestId : PyString} (hpairwise : state.projects.Pairwise r)
    (hhead : state.head projectId = some waiter)
    (hallocatable : allocatable policy state.leases waiter = true)
    (hselected : state.selectedWaiter policy = requestId) :
    ∃ other ∈ state.waiters, other.requestId = requestId ∧
      (state.head other.projectId = some other) ∧
      (other.projectId = projectId ∨ r other.projectId projectId) := by
  have hproject : waiter.projectId = projectId := by
    have hfound := List.find?_some hhead
    exact of_decide_eq_true hfound
  have hwaiter : waiter ∈ state.waiters := mem_queue.mp (List.mem_of_find?_eq_some hhead)
  have hmem : projectId ∈ state.projects := by
    rw [projects_eq, mem_rotateAfter, mem_waitingProjects]
    exact List.mem_map.mpr ⟨waiter, hwaiter, hproject⟩
  have hserved : ((state.head projectId).filter fun waiter =>
      allocatable policy state.leases waiter) = some waiter := by
    rw [hhead, Option.filter_some, if_pos hallocatable]
  obtain ⟨first, -, hfirst, hsome, hbefore⟩ := exists_of_findSome?
    (f := fun projectId => (state.head projectId).filter fun waiter =>
      allocatable policy state.leases waiter) hpairwise hmem (by rw [hserved]; rfl)
  obtain ⟨other, hother⟩ := Option.isSome_iff_exists.mp hsome
  have hotherHead := (Option.filter_eq_some_iff.mp hother).1
  have hotherProject : other.projectId = first := by
    have hfound := List.find?_some hotherHead
    exact of_decide_eq_true hfound
  refine ⟨other, mem_queue.mp (List.mem_of_find?_eq_some hotherHead), ?_, ?_, ?_⟩
  · rw [← hselected, CapacityState.selectedWaiter]
    rw [← hfirst, hother]
    rfl
  · rw [hotherProject]
    exact hotherHead
  · rw [hotherProject]
    exact hbefore

end Selection

/-! ## Who a waiter is -/

/-- A waiter has the project of the call that put it into the document. -/
def Named (state : HostState) : Prop :=
  ∀ waiter ∈ state.capacity.waiters, waiter.requestId ∈ state.drawn ∧
    ∀ request ∈ state.requests, request.requestId = waiter.requestId →
      request.projectId = waiter.projectId

section Named

variable {state : HostState} {capacity : CapacityState}

theorem sound_of_reached (h : Reached policy state) : Sound policy state := by
  induction h with
  | refl => exact sound_initial policy
  | tail _ hstep ih => exact ih.step hstep

theorem Named.of_waiters {requests : List Request} {drawn : List PyString} {granted : List Grant}
    (h : Named state)
    (hwaiters : ∀ waiter ∈ capacity.waiters, ∃ earlier ∈ state.capacity.waiters,
      earlier.requestId = waiter.requestId ∧ earlier.projectId = waiter.projectId)
    (hrequests : ∀ request ∈ requests, request ∈ state.requests)
    (hdrawn : ∀ text ∈ state.drawn, text ∈ drawn) :
    Named { capacity := capacity, requests := requests, granted := granted, drawn := drawn } := by
  intro waiter hwaiter
  obtain ⟨earlier, hearlier, hid, hproject⟩ := hwaiters waiter hwaiter
  obtain ⟨hknown, hnames⟩ := h earlier hearlier
  rw [← hid, ← hproject]
  refine ⟨hdrawn _ hknown, ?_⟩
  intro request hrequest hsame
  exact hnames request (hrequests request hrequest) hsame

theorem waiters_of_sublist {waiters waiters' : List Waiter} (h : List.Sublist waiters' waiters) :
    ∀ waiter ∈ waiters', ∃ earlier ∈ waiters,
      earlier.requestId = waiter.requestId ∧ earlier.projectId = waiter.projectId :=
  fun waiter hwaiter => ⟨waiter, h.subset hwaiter, rfl, rfl⟩

/-- The document of a pass holds the entry of the call beside the waiters that were there. -/
theorem named_announced (hsound : Sound policy state) (h : Named state)
    (hrequest : request ∈ state.requests) :
    Named { state with capacity := state.announced request outside } := by
  have hreconciled : Named { state with capacity := state.capacity.reconcile outside } :=
    h.of_waiters (waiters_of_sublist (reconcileWaiters_sublist _ _)) (fun _ => id) fun _ => id
  intro waiter hwaiter
  change waiter ∈ (state.announced request outside).waiters at hwaiter
  unfold HostState.announced CapacityState.announce at hwaiter
  simp only at hwaiter
  split at hwaiter
  · have hkept : (waiter.requestId, waiter.projectId) ∈
        (state.capacity.reconcile outside).waiters.map fun item =>
          (item.requestId, item.projectId) := by
      rw [← map_updateFirst (p := fun item => decide (item.requestId = request.requestId))
        (f := fun item : Waiter => { item with heartbeatAt := outside.now }) fun _ => rfl]
      exact List.mem_map.mpr ⟨waiter, hwaiter, rfl⟩
    obtain ⟨earlier, hearlier, hsame⟩ := List.mem_map.mp hkept
    rw [Prod.mk.injEq] at hsame
    rw [← hsame.1, ← hsame.2]
    exact hreconciled earlier hearlier
  · rcases List.mem_append.mp hwaiter with hold | hnew
    · exact hreconciled waiter hold
    · rw [List.mem_singleton.mp hnew]
      refine ⟨(hsound.calls request hrequest).1, fun other hother hsame => ?_⟩
      rw [hsound.distinct request hrequest other hother hsame]

theorem pass_of_selected
    (hselected : (state.announced request outside).selectedWaiter policy = request.requestId) :
    state.pass policy request outside token =
      { capacity := (state.announced request outside).grant request outside token
        requests := state.requests.filter fun other => decide (other.requestId ≠ request.requestId)
        granted := state.granted ++ [{ requestId := request.requestId, token := token }]
        drawn := token :: state.drawn } := by
  unfold HostState.announced at hselected
  unfold HostState.pass CapacityState.acquire
  simp only [if_pos hselected]
  rfl

theorem pass_of_not_selected
    (hselected : (state.announced request outside).selectedWaiter policy ≠ request.requestId) :
    state.pass policy request outside token =
      { state with capacity := state.announced request outside } := by
  unfold HostState.announced at hselected
  unfold HostState.pass CapacityState.acquire
  simp only [if_neg hselected]
  rfl

theorem Named.pass (hsound : Sound policy state) (h : Named state)
    (hrequest : request ∈ state.requests) : Named (state.pass policy request outside token) := by
  have hannounced : Named { state with capacity := state.announced request outside } :=
    named_announced hsound h hrequest
  by_cases hselected : (state.announced request outside).selectedWaiter policy = request.requestId
  · rw [pass_of_selected hselected]
    exact hannounced.of_waiters (waiters_of_sublist List.filter_sublist)
      (fun _ => List.mem_of_mem_filter) fun _ => List.mem_cons_of_mem _
  · rw [pass_of_not_selected hselected]
    exact hannounced

/-- The operations on leases keep the waiters that reconciliation keeps, and the place. -/
theorem heartbeat_kept (state : CapacityState) (token : PyString) (outside : Outside) :
    (state.heartbeat token outside).2.waiters = (state.reconcile outside).waiters ∧
      (state.heartbeat token outside).2.lastGrantedProject = state.lastGrantedProject := by
  unfold CapacityState.heartbeat
  simp only
  split <;> exact ⟨rfl, rfl⟩

theorem transitionProvider_kept (policy : HostPolicy) (state : CapacityState)
    (token provider : PyString) (priority : ℤ) (outside : Outside) :
    List.Sublist (state.transitionProvider policy token provider priority outside).2.waiters
        state.waiters ∧
      (state.transitionProvider policy token provider priority outside).2.lastGrantedProject =
        state.lastGrantedProject := by
  have hreconciled := reconcileWaiters_sublist outside.waiterFacts state.waiters
  unfold CapacityState.transitionProvider
  simp only
  split
  · exact ⟨List.Sublist.refl _, rfl⟩
  · split
    · exact ⟨hreconciled, rfl⟩
    · split
      · exact ⟨hreconciled, rfl⟩
      · split <;> exact ⟨hreconciled, rfl⟩

theorem Named.step (hsound : Sound policy state) (h : Named state)
    (hstep : HostStep policy state next) : Named next := by
  cases hstep with
  | @call _ requestId started now hdrawn =>
      intro waiter hwaiter
      obtain ⟨hknown, hnames⟩ := h waiter hwaiter
      refine ⟨List.mem_cons_of_mem _ hknown, fun request hrequest hsame => ?_⟩
      rcases List.mem_append.mp hrequest with hold | hnew
      · exact hnames request hold hsame
      · obtain rfl := List.mem_singleton.mp hnew
        have hid : requestId = waiter.requestId := hsame
        exact absurd (hid ▸ hknown) hdrawn.2
  | pass outside hrequest hdrawn => exact h.pass hsound hrequest
  | leave requestId =>
      exact h.of_waiters (waiters_of_sublist (List.Sublist.refl _))
        (fun _ => List.mem_of_mem_filter) fun _ => id
  | cancelWaiter requestId outside =>
      exact h.of_waiters (waiters_of_sublist (List.filter_sublist.trans
        (reconcileWaiters_sublist _ _))) (fun _ => id) fun _ => id
  | heartbeat token outside =>
      apply h.of_waiters _ (fun _ => id) fun _ => id
      rw [(heartbeat_kept state.capacity token outside).1]
      exact waiters_of_sublist (reconcileWaiters_sublist _ _)
  | transitionProvider token provider priority outside =>
      exact h.of_waiters (waiters_of_sublist
        (transitionProvider_kept policy state.capacity token provider priority outside).1)
        (fun _ => id) fun _ => id
  | release token outside =>
      exact h.of_waiters (waiters_of_sublist (reconcileWaiters_sublist _ _)) (fun _ => id)
        fun _ => id
  | snapshot outside =>
      exact h.of_waiters (waiters_of_sublist (reconcileWaiters_sublist _ _)) (fun _ => id)
        fun _ => id

theorem named_of_reached (h : Reached policy state) : Named state := by
  induction h with
  | refl => exact fun _ hwaiter => absurd hwaiter List.not_mem_nil
  | tail hreached hstep ih => exact ih.step (sound_of_reached hreached) hstep

end Named

section Runs

variable {start state : HostState} {decisions : List Decision} {projectId requestId : PyString}

theorem lastGrantedProject_of_quiet (hstep : HostStep policy state next)
    (hquiet : next.granted = state.granted) :
    next.capacity.lastGrantedProject = state.capacity.lastGrantedProject := by
  cases hstep with
  | @pass request outside token hrequest hdrawn =>
      by_cases hselected :
          (state.announced request outside).selectedWaiter policy = request.requestId
      · rw [pass_of_selected hselected] at hquiet
        have hlength := congrArg List.length hquiet
        rw [List.length_append, List.length_singleton] at hlength
        omega
      · rw [pass_of_not_selected hselected]
        rfl
  | heartbeat token outside => exact (heartbeat_kept state.capacity token outside).2
  | transitionProvider token provider priority outside =>
      exact (transitionProvider_kept policy state.capacity token provider priority outside).2
  | _ => rfl

theorem HostRun.reached (h : HostRun policy start decisions state) (hstart : Reached policy start) :
    Reached policy state := by
  induction h with
  | refl => exact hstart
  | quiet _ hstep _ ih => exact ih.tail hstep
  | grant _ hrequest hdrawn _ ih => exact ih.tail (.pass _ hrequest hdrawn)

/-- Where the grants of a run have got on the way to a project. -/
structure OnTheWay (projectId : PyString) (decisions : List Decision) (state : HostState) : Prop where
  nearer : (decisions.map fun decision => decision.request.projectId).Pairwise (Nearer projectId)
  behind : ∀ decision ∈ decisions,
    decision.request.projectId = state.capacity.lastGrantedProject ∨
      Nearer projectId decision.request.projectId state.capacity.lastGrantedProject
  apart : decisions ≠ [] → state.capacity.lastGrantedProject ≠ projectId

section

variable (hsound : Sound policy state) (hnamed : Named state) (hrequest : request ∈ state.requests)

include hsound hnamed hrequest

/-- The call that is granted a lease has the project of the waiter that is selected. -/
theorem exists_selected (hpairwise : (state.announced request outside).projects.Pairwise r)
    (hselected : (state.announced request outside).selectedWaiter policy = request.requestId)
    (hhead : HeadWaits policy projectId requestId ⟨state.announced request outside, request⟩)
    (hother : request.requestId ≠ requestId) :
    request.projectId ≠ projectId ∧ r request.projectId projectId ∧
      ∃ waiter ∈ (state.announced request outside).waiters,
        waiter.projectId = request.projectId := by
  obtain ⟨waiter, hwaiter, hid, hallocatable⟩ := hhead
  obtain ⟨other, hmem, hotherId, hotherHead, hbefore⟩ :=
    selectedWaiter_before hpairwise hwaiter hallocatable hselected
  have hproject : request.projectId = other.projectId :=
    (named_announced hsound hnamed hrequest other hmem).2 request hrequest hotherId.symm
  have hne : other.projectId ≠ projectId := by
    intro hsame
    rw [hsame] at hotherHead
    obtain rfl := Option.some.inj (hwaiter.symm.trans hotherHead)
    exact hother (hotherId.symm.trans hid)
  rw [hproject]
  exact ⟨hne, hbefore.resolve_left hne, other, hmem, rfl⟩

/-- As long as the place is kept, a grant is nearer to the project than the one before. -/
theorem nearer_of_keepsPlace
    (hselected : (state.announced request outside).selectedWaiter policy = request.requestId)
    (hhead : HeadWaits policy projectId requestId ⟨state.announced request outside, request⟩)
    (hother : request.requestId ≠ requestId)
    (hapart : state.capacity.lastGrantedProject ≠ projectId)
    (hkeeps : KeepsPlace projectId ⟨state.announced request outside, request⟩) :
    Nearer projectId state.capacity.lastGrantedProject request.projectId := by
  have hlast : (state.announced request outside).lastGrantedProject =
      state.capacity.lastGrantedProject := rfl
  have hsorted := pairwise_waitingProjects (state.announced request outside)
  by_cases hwaits : state.capacity.lastGrantedProject ∈
      (state.announced request outside).waitingProjects
  · have hpairwise : (state.announced request outside).projects.Pairwise
        (Before state.capacity.lastGrantedProject) := by
      rw [projects_eq, hlast]
      exact pairwise_rotateAfter hsorted hwaits
    obtain ⟨-, hbefore, -⟩ :=
      exists_selected hsound hnamed hrequest hpairwise hselected hhead hother
    exact hbefore.nearer hapart
  · have hpairwise : (state.announced request outside).projects.Pairwise (· < ·) := by
      rw [projects_eq, hlast, rotateAfter, if_neg hwaits]
      exact hsorted
    obtain ⟨-, hbefore, waiter, hwaiter, hproject⟩ :=
      exists_selected hsound hnamed hrequest hpairwise hselected hhead hother
    rcases hkeeps with hkept | hfirst
    · exact absurd (mem_waitingProjects.mpr hkept) hwaits
    · rw [← hproject] at hbefore
      exact absurd hbefore (hfirst waiter hwaiter)

end

theorem OnTheWay.first
    (hne : request.projectId ≠ projectId)
    (hnext : next.capacity.lastGrantedProject = request.projectId) (document : CapacityState) :
    OnTheWay projectId [⟨document, request⟩] next where
  nearer := List.pairwise_singleton _ _
  behind := by
    intro decision hdecision
    obtain rfl := List.mem_singleton.mp hdecision
    exact Or.inl hnext.symm
  apart := fun _ => hnext ▸ hne

theorem OnTheWay.grant (h : OnTheWay projectId decisions state)
    (hnearer : Nearer projectId state.capacity.lastGrantedProject request.projectId)
    (hnext : next.capacity.lastGrantedProject = request.projectId) (document : CapacityState) :
    OnTheWay projectId (decisions ++ [⟨document, request⟩]) next := by
  have hall : ∀ decision ∈ decisions,
      Nearer projectId decision.request.projectId request.projectId := by
    intro decision hdecision
    rcases h.behind decision hdecision with hsame | hbehind
    · rw [hsame]
      exact hnearer
    · exact hbehind.trans hnearer
  constructor
  · rw [List.map_append, List.pairwise_append]
    refine ⟨h.nearer, List.pairwise_singleton _ _, ?_⟩
    intro earlier hearlier later hlater
    obtain ⟨decision, hdecision, rfl⟩ := List.mem_map.mp hearlier
    obtain rfl := List.mem_singleton.mp hlater
    exact hall decision hdecision
  · intro decision hdecision
    rcases List.mem_append.mp hdecision with hold | hnew
    · exact Or.inr (hnext ▸ hall decision hold)
    · obtain rfl := List.mem_singleton.mp hnew
      exact Or.inl hnext.symm
  · intro _
    rw [hnext]
    exact hnearer.ne_goal

theorem onTheWay_of_run (hstart : Reached policy start)
    (hrun : HostRun policy start decisions state)
    (hhead : ∀ decision ∈ decisions, HeadWaits policy projectId requestId decision)
    (hwaits : ∀ decision ∈ decisions, decision.request.requestId ≠ requestId)
    (hkeeps : ∀ decision ∈ decisions.tail, KeepsPlace projectId decision) :
    OnTheWay projectId decisions state := by
  induction hrun with
  | refl => exact ⟨List.Pairwise.nil, fun _ h => absurd h List.not_mem_nil, fun h => absurd rfl h⟩
  | quiet hrun hstep hquiet ih =>
      obtain ⟨hnearer, hbehind, hapart⟩ := ih hhead hwaits hkeeps
      rw [← lastGrantedProject_of_quiet hstep hquiet] at hbehind hapart
      exact ⟨hnearer, hbehind, hapart⟩
  | @grant decisions state request token outside hrun hrequest hdrawn hselected ih =>
      have hreached := hrun.reached hstart
      have hsound := sound_of_reached hreached
      have hnamed := named_of_reached hreached
      have hlast : (⟨state.announced request outside, request⟩ : Decision) ∈
          decisions ++ [⟨state.announced request outside, request⟩] :=
        List.mem_append_right _ List.mem_cons_self
      have hnext : (state.pass policy request outside token).capacity.lastGrantedProject =
          request.projectId := by
        rw [pass_of_selected hselected]
        rfl
      by_cases hnil : decisions = []
      · subst hnil
        have hpairwise : (state.announced request outside).projects.Pairwise fun _ _ => True :=
          List.pairwise_of_forall fun _ _ => trivial
        obtain ⟨hne, -, -⟩ := exists_selected hsound hnamed hrequest hpairwise hselected
          (hhead _ hlast) (hwaits _ hlast)
        exact .first hne hnext _
      · have htail : ∀ decision ∈ decisions.tail ++ [⟨state.announced request outside, request⟩],
            KeepsPlace projectId decision := by
          rw [← List.tail_append_of_ne_nil hnil]
          exact hkeeps
        have hway := ih (fun decision hmem => hhead decision (List.mem_append_left _ hmem))
          (fun decision hmem => hwaits decision (List.mem_append_left _ hmem))
          (fun decision hmem => htail decision (List.mem_append_left _ hmem))
        apply hway.grant _ hnext
        exact nearer_of_keepsPlace hsound hnamed hrequest hselected (hhead _ hlast)
          (hwaits _ hlast) (hway.apart hnil)
          (htail _ (List.mem_append_right _ List.mem_cons_self))

/-- From any point on, as long as the first waiter of a project could be served at each grant and
is not, every other project is granted at most once, if the place of the round robin is kept at
each grant but the first. -/
theorem oneGrantEach_of_keepsPlace (hstart : Reached policy start)
    (hrun : HostRun policy start decisions state)
    (hhead : ∀ decision ∈ decisions, HeadWaits policy projectId requestId decision)
    (hwaits : ∀ decision ∈ decisions, decision.request.requestId ≠ requestId)
    (hkeeps : ∀ decision ∈ decisions.tail, KeepsPlace projectId decision) :
    OneGrantEach projectId decisions := by
  have hway := onTheWay_of_run hstart hrun hhead hwaits hkeeps
  intro other _
  exact List.nodup_iff_count_le_one.mp (nodup_of_pairwise_nearer hway.nearer) other

end Runs

/-! ## A project that is overtaken -/

def projectCall (projectId : String) : AcquireCall where
  projectId := py projectId
  workerId := py "worker"
  runId := py "run"
  provider := []
  resources := []
  supervisorPid := none
  pid := 100

def projectRequest (projectId requestId : String) : Request :=
  (projectCall projectId).request samplePolicy (py requestId) [] (py requestId)

def HostState.called (state : HostState) (projectId requestId : String) : HostState :=
  { state with
    requests := state.requests ++ [projectRequest projectId requestId]
    drawn := py requestId :: state.drawn }

def HostState.passed (state : HostState) (projectId requestId token : String) : HostState :=
  state.pass samplePolicy (projectRequest projectId requestId) sampleOutside (py token)

def HostState.released (state : HostState) (token : String) : HostState :=
  { state with capacity := state.capacity.release (py token) sampleOutside }

def busyHost : HostState :=
  (HostState.initial.called "x" "0").passed "x" "0" "t0"

def calledHost : HostState :=
  (((busyHost.called "a" "1").called "a" "2").called "b" "3").called "c" "4"

def waitingHost : HostState :=
  (((calledHost.passed "a" "1" "t1").passed "a" "2" "t2").passed "b" "3" "t3").passed "c" "4" "t4"

def aServed : HostState := (waitingHost.released "t0").passed "a" "1" "t1"

def bServed : HostState := (aServed.released "t1").passed "b" "3" "t3"

def aServedAgain : HostState := (bServed.released "t3").passed "a" "2" "t2"

def decisionOf (state : HostState) (projectId requestId : String) : Decision :=
  ⟨state.announced (projectRequest projectId requestId) sampleOutside,
    projectRequest projectId requestId⟩

variable {state : HostState} {projectId requestId : String}

theorem reached_called (h : Reached samplePolicy state) (hdrawn : state.Draws (py requestId)) :
    Reached samplePolicy (state.called projectId requestId) :=
  h.tail (.call (projectCall projectId) [] (py requestId) hdrawn)

theorem reached_passed (h : Reached samplePolicy state) {token : String}
    (hrequest : projectRequest projectId requestId ∈ state.requests)
    (hdrawn : state.Draws (py token)) :
    Reached samplePolicy (state.passed projectId requestId token) :=
  h.tail (.pass sampleOutside hrequest hdrawn)

theorem reached_waitingHost : Reached samplePolicy waitingHost := by
  have hbusy : Reached samplePolicy busyHost :=
    reached_passed (reached_called .refl (by decide)) (by decide) (by decide)
  have hcalled : Reached samplePolicy calledHost :=
    reached_called (reached_called (reached_called (reached_called hbusy (by decide))
      (by decide)) (by decide)) (by decide)
  exact reached_passed (reached_passed (reached_passed (reached_passed hcalled (by decide)
    (by decide)) (by decide) (by decide)) (by decide) (by decide)) (by decide) (by decide)

theorem HostRun.release_pass {start state : HostState} {decisions : List Decision}
    {held token : String} (h : HostRun samplePolicy start decisions state)
    (hrequest : projectRequest projectId requestId ∈ (state.released held).requests)
    (hdrawn : (state.released held).Draws (py token))
    (hselected : ((state.released held).announced (projectRequest projectId requestId)
      sampleOutside).selectedWaiter samplePolicy = py requestId) :
    HostRun samplePolicy start (decisions ++ [decisionOf (state.released held) projectId requestId])
      ((state.released held).passed projectId requestId token) :=
  .grant (.quiet h (.release (py held) sampleOutside) rfl) hrequest hdrawn hselected

def twoDecisions : List Decision :=
  [decisionOf (waitingHost.released "t0") "a" "1", decisionOf (aServed.released "t1") "b" "3"]

theorem hostRun_bServed : HostRun samplePolicy waitingHost twoDecisions bServed :=
  (HostRun.refl.release_pass (by decide) (by decide) (by decide)).release_pass (by decide)
    (by decide) (by decide)

theorem headWaits_iff {policy : HostPolicy} {projectId requestId : PyString}
    {decision : Decision} : HeadWaits policy projectId requestId decision ↔
      ((decision.document.head projectId).any fun waiter => decide (waiter.requestId = requestId) &&
        allocatable policy decision.document.leases waiter) = true := by
  rw [Option.any_eq_true]
  simp only [HeadWaits, Bool.and_eq_true, decide_eq_true_eq]

instance (policy : HostPolicy) (projectId requestId : PyString) (decision : Decision) :
    Decidable (HeadWaits policy projectId requestId decision) :=
  decidable_of_iff _ headWaits_iff.symm

theorem oneGrantEach_twoDecisions : OneGrantEach (py "c") twoDecisions := by
  have hkeeps : ∀ decision ∈ twoDecisions.tail, KeepsPlace (py "c") decision := by
    intro decision hdecision
    obtain rfl := List.mem_singleton.mp hdecision
    exact Or.inl (by decide +kernel)
  exact oneGrantEach_of_keepsPlace reached_waitingHost hostRun_bServed
    (show ∀ decision ∈ twoDecisions, HeadWaits samplePolicy (py "c") (py "4") decision by decide)
    (by decide) hkeeps

/-- The second project is granted its only lease, and the broker starts again with the first one,
which has had its turn. -/
theorem not_oneGrantEach : ¬ ∀ (policy : HostPolicy) (start state : HostState)
    (decisions : List Decision) (projectId requestId : PyString), Reached policy start →
      HostRun policy start decisions state →
      (∀ decision ∈ decisions, HeadWaits policy projectId requestId decision) →
      (∀ decision ∈ decisions, decision.request.requestId ≠ requestId) →
      OneGrantEach projectId decisions := by
  intro h
  have hrun : HostRun samplePolicy waitingHost
      (twoDecisions ++ [decisionOf (bServed.released "t3") "a" "2"]) aServedAgain :=
    hostRun_bServed.release_pass (by decide +kernel) (by decide +kernel) (by decide +kernel)
  have heach := h samplePolicy waitingHost aServedAgain _ (py "c") (py "4") reached_waitingHost hrun
    (by decide +kernel) (by decide +kernel)
  have htwice := heach (py "a") (by decide)
  revert htwice
  decide +kernel

end DevHarness.HostCapacity
