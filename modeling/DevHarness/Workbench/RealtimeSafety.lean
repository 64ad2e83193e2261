import DevHarness.Interleave.System
import Mathlib.Order.Lattice
import Mathlib.Algebra.Group.Nat.Defs
import Mathlib.Algebra.Order.Group.Unbundled.Int

/-!
# The flags of the realtime client

Sources, timers, handlers of notices and refreshes of a `WorkbenchRealtimeClient` call back at
any time, those of an earlier start too, and all of them change the same few flags.  What the
client puts out is kept in a log.
-/

namespace DevHarness.Workbench
namespace Realtime

open Interleave

/-! ## The client -/

inductive WorkbenchRealtimeState
  | connecting
  | connected
  | refreshing
  | reconnecting
  | stopped
  deriving DecidableEq

/-- A start, a reported state, a delivered snapshot, a reported error, or a reconnect that is
scheduled. -/
inductive Output
  | started
  | state (value : WorkbenchRealtimeState)
  | snapshot (revision : ℤ)
  | error
  | scheduled (delay : ℕ)
  deriving DecidableEq

/-- A call of `getWorkbench` that has not been answered; `start` numbers the starts. -/
structure InFlight where
  id : ℕ
  advertisedRevision : ℤ
  start : ℕ
  deriving DecidableEq

/-- A notice whose handler awaits a refresh. -/
structure Waiting where
  revision : ℤ
  refreshId : ℕ
  deriving DecidableEq

/-- The fields of `WorkbenchRealtimeClient`, the routines that it has suspended, and its log,
newest first.  At most one timer is scheduled, the one that it remembers. -/
structure Client where
  source : Option ℕ
  reconnectTimer : Bool
  currentRevision : ℤ
  running : Bool
  reconnectAttempt : ℕ
  refreshPromise : Option ℕ
  refreshes : List InFlight
  waiting : List Waiting
  starts : ℕ
  fresh : ℕ
  log : List Output

namespace Client

def idle : Client where
  source := none
  reconnectTimer := false
  currentRevision := 0
  running := false
  reconnectAttempt := 0
  refreshPromise := none
  refreshes := []
  waiting := []
  starts := 0
  fresh := 0
  log := []

variable (client : Client)

def put (output : Output) : Client := { client with log := output :: client.log }

def connect : Client :=
  if !client.running then client
  else
    let next := client.put (.state (if 0 < client.reconnectAttempt then .reconnecting else .connecting))
    { next with source := some client.fresh, fresh := client.fresh + 1 }

def start (revision : ℤ) : Client :=
  if client.running then client
  else
    connect
      { client.put .started with
        running := true
        currentRevision := max 0 revision
        starts := client.starts + 1 }

def stop : Client :=
  { client.put (.state .stopped) with running := false, source := none, reconnectTimer := false }

/-- `source.onopen`. -/
def opened (source : ℕ) : Client :=
  if !client.running || client.source ≠ some source then client
  else { client.put (.state .connected) with reconnectAttempt := 0 }

def scheduleReconnect : Client :=
  if !client.running || client.reconnectTimer then client
  else
    let next := (client.put (.state .reconnecting)).put
      (.scheduled (min 30000 (1000 * 2 ^ client.reconnectAttempt)))
    { next with
      source := none
      reconnectAttempt := client.reconnectAttempt + 1
      reconnectTimer := true }

/-- `source.onerror`. -/
def failed (source : ℕ) : Client :=
  if !client.running || client.source ≠ some source then client else client.scheduleReconnect

/-- `this.refreshPromise = this.refresh(revision)`. -/
def startRefresh (revision : ℤ) : Client :=
  { client.put (.state .refreshing) with
    refreshPromise := some client.fresh
    refreshes := client.refreshes ++ [⟨client.fresh, revision, client.starts⟩]
    fresh := client.fresh + 1 }

/-- `handleInvalidation`, until it awaits something.  The revision is the safe integer that the
notice gives, if it gives one. -/
def handleInvalidation (revision : Option ℤ) : Client :=
  if !client.running then client
  else
    match revision with
    | none => client
    | some revision =>
      if revision ≤ client.currentRevision then client
      else
        match client.refreshPromise with
        | some refreshId => { client with waiting := client.waiting ++ [⟨revision, refreshId⟩] }
        | none => client.startRefresh revision

/-- `handleInvalidation`, after the refresh that it has awaited. -/
def resume (notice : Waiting) : Client :=
  let next := { client with waiting := client.waiting.erase notice }
  if notice.revision ≤ client.currentRevision then next else next.startRefresh notice.revision

/-- `refresh`, from the answer on: the revision of the snapshot, or a failure. -/
def refreshed (advertisedRevision : ℤ) : Option ℤ → Client
  | none => (client.put .error).scheduleReconnect
  | some revision =>
    if revision < advertisedRevision then (client.put .error).scheduleReconnect
    else
      let next :=
        if client.currentRevision ≤ revision then
          { client.put (.snapshot revision) with currentRevision := revision }
        else client
      { next.put (.state .connected) with reconnectAttempt := 0 }

def respond (refresh : InFlight) (answer : Option ℤ) : Client :=
  let settled :=
    { client with refreshPromise := none, refreshes := client.refreshes.erase refresh }
  settled.refreshed refresh.advertisedRevision answer

end Client

inductive ClientAction
  | start (revision : ℤ)
  | stop
  | opened (source : ℕ)
  | failed (source : ℕ)
  | message (revision : Option ℤ)
  | timer
  | resume (notice : Waiting)
  | respond (refresh : InFlight) (answer : Option ℤ)

def clientStep (client : Client) : ClientAction → Option Client
  | .start revision => some (client.start revision)
  | .stop => some client.stop
  | .opened source => some (client.opened source)
  | .failed source => some (client.failed source)
  | .message revision => some (client.handleInvalidation revision)
  | .timer =>
    if client.reconnectTimer then some (Client.connect { client with reconnectTimer := false })
    else none
  | .resume notice =>
    if notice ∈ client.waiting ∧ ∀ refresh ∈ client.refreshes, refresh.id ≠ notice.refreshId then
      some (client.resume notice)
    else none
  | .respond refresh answer =>
    if refresh ∈ client.refreshes then some (client.respond refresh answer) else none

def clientSystem : System Client Empty (fun _ => Unit) Empty Empty Unit Unit ClientAction where
  program := Empty.elim
  exec := fun _ command _ => command.elim
  environment := fun action client => clientStep client action

abbrev ClientConfig := Config Client Empty (fun _ => Unit) Empty Empty Unit ClientAction

/-! ## Safety -/

def runsIn : List Output → Bool
  | [] => false
  | .started :: _ => true
  | .state .stopped :: _ => false
  | _ :: older => runsIn older

def deliveredSince : List Output → List ℤ
  | [] => []
  | .started :: _ => []
  | .state .stopped :: _ => []
  | .snapshot revision :: older => revision :: deliveredSince older
  | _ :: older => deliveredSince older

/-- Between a start and the next stop, no snapshot is older than one delivered before it. -/
def InOrder : List Output → Prop
  | [] => True
  | .snapshot revision :: older =>
    (∀ before ∈ deliveredSince older, before ≤ revision) ∧ InOrder older
  | _ :: older => InOrder older

/-- Snapshots are delivered and reconnects scheduled while the client runs. -/
def Quiet : List Output → Prop
  | [] => True
  | .snapshot _ :: older => runsIn older = true ∧ Quiet older
  | .scheduled _ :: older => runsIn older = true ∧ Quiet older
  | _ :: older => Quiet older

structure Safe (client : Client) : Prop where
  oneInFlight : ∀ start, (client.refreshes.filter (·.start = start)).length ≤ 1
  inOrder : InOrder client.log
  quiet : Quiet client.log
  attached : client.running = true →
    client.source.isSome = true ∨ client.reconnectTimer = true ∨ client.refreshes ≠ []

/-- A handler that has waited starts a refresh when none is in flight, and no snapshot that
would be shown comes in after a stop. -/
def undisturbed (client : Client) : ClientAction → Bool
  | .resume notice => notice.revision ≤ client.currentRevision || client.refreshes.isEmpty
  | .respond refresh (some revision) =>
    client.running || revision < refresh.advertisedRevision || revision < client.currentRevision
  | _ => true

def checkUndisturbed (m : Moment Client Empty (fun _ => Unit) Empty Empty Unit ClientAction) :
    Attempt Empty Empty ClientAction → Bool
  | .change action => undisturbed m.state action
  | _ => true

/-- What every undisturbed step keeps. -/
structure Kept (client : Client) : Prop where
  single : client.refreshes.length ≤ 1
  promised : client.refreshPromise = none → client.refreshes = []
  attached : client.running = true → client.source.isSome = true ∨ client.reconnectTimer = true
  runs : runsIn client.log = client.running
  bounded : ∀ revision ∈ deliveredSince client.log, revision ≤ client.currentRevision
  inOrder : InOrder client.log
  quiet : Quiet client.log

namespace Kept

variable {client client' : Client} {answer : Option ℤ}

theorem safe (h : Kept client) : Safe client where
  oneInFlight _ := (List.length_filter_le _ _).trans h.single
  inOrder := h.inOrder
  quiet := h.quiet
  attached hrunning := (h.attached hrunning).imp_right .inl

theorem idle : Kept Client.idle where
  single := Nat.zero_le 1
  promised _ := rfl
  attached := nofun
  runs := rfl
  bounded := nofun
  inOrder := trivial
  quiet := trivial

/-- A report that is no stop leaves all of it alone. -/
theorem put (h : Kept client) (value : WorkbenchRealtimeState) (hvalue : value ≠ .stopped) :
    Kept (client.put (.state value)) := by
  cases value with
  | stopped => exact absurd rfl hvalue
  | _ => exact ⟨h.single, h.promised, h.attached, h.runs, h.bounded, h.inOrder, h.quiet⟩

theorem connect (h : Kept { client with source := some client.fresh }) : Kept client.connect := by
  unfold Client.connect
  split
  · next hrunning =>
    refine ⟨h.single, h.promised, fun hrun => ?_, h.runs, h.bounded, h.inOrder, h.quiet⟩
    rw [hrun] at hrunning
    cases hrunning
  · have hkept := h.put (if 0 < client.reconnectAttempt then .reconnecting else .connecting)
      (by split <;> decide)
    exact ⟨hkept.single, hkept.promised, hkept.attached, hkept.runs, hkept.bounded, hkept.inOrder,
      hkept.quiet⟩

section

variable (h : Kept client)

include h

theorem start (revision : ℤ) : Kept (client.start revision) := by
  unfold Client.start
  split
  · exact h
  · refine connect ⟨h.single, h.promised, fun _ => .inl rfl, rfl, ?_, h.inOrder, h.quiet⟩
    exact fun _ hmem => absurd hmem List.not_mem_nil

theorem stop : Kept client.stop where
  single := h.single
  promised := h.promised
  attached := nofun
  runs := rfl
  bounded := nofun
  inOrder := h.inOrder
  quiet := h.quiet

theorem opened (source : ℕ) : Kept (client.opened source) := by
  unfold Client.opened
  split
  · exact h
  · have hkept := h.put .connected (by decide)
    exact ⟨hkept.single, hkept.promised, hkept.attached, hkept.runs, hkept.bounded, hkept.inOrder,
      hkept.quiet⟩

theorem scheduleReconnect : Kept client.scheduleReconnect := by
  unfold Client.scheduleReconnect
  split
  · exact h
  · next hready =>
    have hrunning : client.running = true := by
      cases hrun : client.running with
      | true => rfl
      | false => simp [hrun] at hready
    refine ⟨h.single, h.promised, fun _ => .inr rfl, h.runs, h.bounded, h.inOrder, ?_, h.quiet⟩
    exact h.runs.trans hrunning

theorem failed (source : ℕ) : Kept (client.failed source) := by
  unfold Client.failed
  split
  · exact h
  · exact h.scheduleReconnect

/-- A refresh that is started while none is in flight is the only one. -/
theorem startRefresh (hnone : client.refreshes = []) (revision : ℤ) :
    Kept (client.startRefresh revision) := by
  have hkept := h.put .refreshing (by decide)
  refine ⟨?_, nofun, hkept.attached, hkept.runs, hkept.bounded, hkept.inOrder, hkept.quiet⟩
  simp [Client.startRefresh, hnone]

theorem handleInvalidation (revision : Option ℤ) : Kept (client.handleInvalidation revision) := by
  unfold Client.handleInvalidation
  split
  · exact h
  · split
    · exact h
    · split
      · exact h
      · split
        · exact ⟨h.single, h.promised, h.attached, h.runs, h.bounded, h.inOrder, h.quiet⟩
        · next hpromise => exact h.startRefresh (h.promised hpromise) _

theorem resume {notice : Waiting} (hcheck : undisturbed client (.resume notice) = true) :
    Kept (client.resume notice) := by
  have hkept : Kept { client with waiting := client.waiting.erase notice } :=
    ⟨h.single, h.promised, h.attached, h.runs, h.bounded, h.inOrder, h.quiet⟩
  unfold Client.resume
  split
  · exact hkept
  · next hnewer =>
    refine hkept.startRefresh ?_ _
    simpa [undisturbed, hnewer] using hcheck

/-- A snapshot that comes in while the client runs, or that it drops. -/
theorem refreshed {advertisedRevision : ℤ}
    (hrunning : ∀ revision, answer = some revision → advertisedRevision ≤ revision →
      client.currentRevision ≤ revision → client.running = true) :
    Kept (client.refreshed advertisedRevision answer) := by
  have hfailed : Kept (client.put .error).scheduleReconnect := by
    refine scheduleReconnect ?_
    exact ⟨h.single, h.promised, h.attached, h.runs, h.bounded, h.inOrder, h.quiet⟩
  unfold Client.refreshed
  split
  · exact hfailed
  · next revision =>
    split
    · exact hfailed
    · next hreached =>
      have hnext : Kept (if client.currentRevision ≤ revision then
          { client.put (.snapshot revision) with currentRevision := revision } else client) := by
        split
        · next hle =>
          have hrun := hrunning revision rfl (not_lt.mp hreached) hle
          have holder : ∀ before ∈ deliveredSince client.log, before ≤ revision :=
            fun before hbefore => (h.bounded before hbefore).trans hle
          refine ⟨h.single, h.promised, h.attached, h.runs, ?_, ⟨holder, h.inOrder⟩,
            h.runs.trans hrun, h.quiet⟩
          exact List.forall_mem_cons.mpr ⟨le_refl revision, holder⟩
        · exact h
      have hkept := hnext.put .connected (by decide)
      exact ⟨hkept.single, hkept.promised, hkept.attached, hkept.runs, hkept.bounded,
        hkept.inOrder, hkept.quiet⟩

theorem respond {refresh : InFlight} (hmem : refresh ∈ client.refreshes)
    (hcheck : undisturbed client (.respond refresh answer) = true) :
    Kept (client.respond refresh answer) := by
  have hnone : client.refreshes.erase refresh = [] := by
    rw [← List.length_eq_zero_iff, List.length_erase_of_mem hmem]
    have hsingle := h.single
    omega
  have hsettled : Kept
      { client with refreshPromise := none, refreshes := client.refreshes.erase refresh } := by
    refine ⟨?_, fun _ => hnone, h.attached, h.runs, h.bounded, h.inOrder, h.quiet⟩
    simp [hnone]
  refine hsettled.refreshed ?_
  rintro revision rfl hreached hle
  simpa [undisturbed, not_lt.mpr hreached, not_lt.mpr hle] using hcheck

theorem step {action : ClientAction} (hcheck : undisturbed client action = true)
    (hstep : clientStep client action = some client') : Kept client' := by
  cases action with
  | start revision => exact Option.some.inj hstep ▸ h.start revision
  | stop => exact Option.some.inj hstep ▸ h.stop
  | opened source => exact Option.some.inj hstep ▸ h.opened source
  | failed source => exact Option.some.inj hstep ▸ h.failed source
  | message revision => exact Option.some.inj hstep ▸ h.handleInvalidation revision
  | timer =>
      simp only [clientStep] at hstep
      split at hstep
      · obtain rfl := Option.some.inj hstep
        exact connect ⟨h.single, h.promised, fun _ => .inl rfl, h.runs, h.bounded, h.inOrder,
          h.quiet⟩
      · cases hstep
  | resume notice =>
      simp only [clientStep] at hstep
      split at hstep
      · exact Option.some.inj hstep ▸ h.resume hcheck
      · cases hstep
  | respond refresh answer =>
      simp only [clientStep] at hstep
      split at hstep
      · next hmem => exact Option.some.inj hstep ▸ h.respond hmem hcheck
      · cases hstep

end

end Kept

/-- In every run whose steps are undisturbed, the client is safe. -/
theorem safe_of_undisturbed {c : ClientConfig}
    (hrun : Run clientSystem (fun m attempt => checkUndisturbed m attempt = true) .idle c) :
    Safe c.now.state := by
  have hkept : Kept c.now.state := by
    refine hrun.invariant Kept.idle (fun {_ cmd} => cmd.elim) ?_
    intro m action client' hcheck hstep hkept
    exact hkept.step hcheck hstep
  exact hkept.safe

def quietRun : List (Action Empty Unit ClientAction) :=
  ([.start 1, .opened 0, .message (some 2), .respond ⟨1, 2, 1⟩ (some 2), .failed 0, .timer, .stop] :
    List ClientAction).map .change

theorem safe_quietRun : ∃ c : ClientConfig, c.now.past.length = 7 ∧ Safe c.now.state := by
  have hexec : (executeWhile clientSystem checkUndisturbed (Config.initial .idle) quietRun).map
      (fun c => c.now.past.length) = some 7 := by
    decide
  obtain ⟨c, hc, hlength⟩ := Option.map_eq_some_iff.mp hexec
  exact ⟨c, hlength, safe_of_undisturbed (run_of_executeWhile (fun _ _ h => h) hc)⟩

/-- Two notices wait for the refresh of a third one, and both of them start a refresh. -/
def twoWaiting : List (Action Empty Unit ClientAction) :=
  ([.start 0, .message (some 1), .message (some 2), .message (some 3), .respond ⟨1, 1, 1⟩ (some 1),
    .resume ⟨2, 1⟩, .resume ⟨3, 1⟩] : List ClientAction).map .change

def lateAnswer : List (Action Empty Unit ClientAction) :=
  ([.start 0, .message (some 1), .stop, .respond ⟨1, 1, 1⟩ (some 1)] : List ClientAction).map .change

theorem not_safe :
    (∃ c : ClientConfig, Reached clientSystem .idle c ∧ ¬ Safe c.now.state ∧
      (c.now.state.refreshes.filter (·.start = 1)).length = 2) ∧
    ∃ c : ClientConfig, Reached clientSystem .idle c ∧ ¬ Safe c.now.state ∧
      c.now.state.running = false := by
  have htwo : (execute clientSystem (Config.initial .idle) twoWaiting).map
      (fun c => (c.now.state.refreshes.filter (·.start = 1)).length) = some 2 := by
    decide
  have hlate : (execute clientSystem (Config.initial .idle) lateAnswer).map
      (fun c => (c.now.state.running, c.now.state.log)) = some (false, [.state .connected,
        .snapshot 1, .state .stopped, .state .refreshing, .state .connecting, .started]) := by
    decide
  obtain ⟨c, hc, hlength⟩ := Option.map_eq_some_iff.mp htwo
  obtain ⟨c', hc', hview⟩ := Option.map_eq_some_iff.mp hlate
  obtain ⟨hrunning, hlog⟩ := Prod.ext_iff.mp hview
  refine ⟨⟨c, reached_of_execute hc, fun hsafe => ?_, hlength⟩, c', reached_of_execute hc',
    fun hsafe => ?_, hrunning⟩
  · have hone := hsafe.oneInFlight 1
    omega
  · have hquiet := hsafe.quiet
    rw [show c'.now.state.log = _ from hlog] at hquiet
    cases hquiet.1

end Realtime
end DevHarness.Workbench
