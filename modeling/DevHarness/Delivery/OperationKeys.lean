import DevHarness.Delivery.Safety

/-!
# Operation keys

All three methods look up and store snapshots in one table, by candidate and
operation key, under the key of the call and under keys that append a suffix
to it.  Two calls can therefore meet in a key: when one key is used for two
methods, or when the key of one call is the key of another followed by a suffix
of that other's method.  As long as no two calls of a run meet in a key, unless
they are the same operation, a snapshot is only ever returned to the operation
that stored it.
-/

namespace DevHarness.Delivery

open JsText Interleave

inductive DeliveryMethod
  | checkpoint
  | deliver
  | land

namespace DeliveryCall

def method : DeliveryCall → DeliveryMethod
  | .checkpoint _ _ => .checkpoint
  | .deliver _ _ => .deliver
  | .land _ _ _ => .land

/-- Same method, same candidate, same key. -/
def SameOperation (a b : DeliveryCall) : Prop :=
  a.method = b.method ∧ a.candidateId = b.candidateId ∧
    a.idempotencyKey = b.idempotencyKey

/-- Both calls, with keys that pass the check, are about one candidate and use
one operation key. -/
def MeetInKey (a b : DeliveryCall) : Prop :=
  a.candidateId = b.candidateId ∧ validOperationKey a.idempotencyKey = true ∧
    validOperationKey b.idempotencyKey = true ∧
    ∃ key, key ∈ a.operationKeys ∧ key ∈ b.operationKeys

/-- The two calls are one operation, or do not meet in a key. -/
def Separate (a b : DeliveryCall) : Prop :=
  a.SameOperation b ∨ ¬ a.MeetInKey b

theorem SameOperation.refl (a : DeliveryCall) : a.SameOperation a := ⟨rfl, rfl, rfl⟩

variable {a b : DeliveryCall}

theorem SameOperation.symm (h : a.SameOperation b) : b.SameOperation a :=
  ⟨h.1.symm, h.2.1.symm, h.2.2.symm⟩

theorem MeetInKey.symm (h : a.MeetInKey b) : b.MeetInKey a := by
  obtain ⟨hid, ha, hb, key, hkeya, hkeyb⟩ := h
  exact ⟨hid.symm, hb, ha, key, hkeyb, hkeya⟩

theorem Separate.symm (h : a.Separate b) : b.Separate a := by
  rcases h with h | h
  · exact .inl h.symm
  · exact .inr fun hmeet => h hmeet.symm

end DeliveryCall

/-! ## Replays -/

/-- The command looks `key` of candidate `id` up. -/
def LooksUp (id key : JsString) : DeliveryCommand → Prop
  | .findOperation candidateId operationKey => candidateId = id ∧ operationKey = key
  | .transition input => input.candidateId = id ∧ input.operationKey = key
  | .rememberOperation candidateId operationKey => candidateId = id ∧ operationKey = key
  | _ => False

/-- Process `pid` has stored, or found, a snapshot of candidate `id` under
`key`. -/
def HasRecorded (id key : JsString) (pid : ℕ) (past : List DeliveryEvent) : Prop :=
  ∃ e ∈ past, e.pid? = some pid ∧ Records id key e

/-- In the runs whose steps meet `cond`, what is stored for candidate `id` is
returned only to the operation that stored it. -/
structure KeysPerOperation (store : DeliveryStore) (id : JsString)
    (cond : DeliveryMoment → Attempt DeliveryCommand DeliveryCall ReviewRecord → Prop) :
    Prop where
  /-- A call is answered from the table only if another call of the same method
  with the same key has recorded that key, which is the last thing that it
  does. -/
  replay : ∀ {c c' pid call key snapshot}, Run deliverySystem cond store c →
    Step deliverySystem cond c c' → .spawned pid call ∈ c.now.past → call.candidateId = id →
    c'.now.past =
      .performed pid (.findOperation id key) (.ok (some snapshot)) :: c.now.past →
    ∃ pid' call', pid' ≠ pid ∧ .spawned pid' call' ∈ c.now.past ∧ call.SameOperation call' ∧
      HasRecorded id call'.idempotencyKey pid' c.now.past
  /-- A part of a call is answered from the table only if that part was recorded
  by a call of the same method with the same key. -/
  part : ∀ {c c' pid call key snapshot command resp}, Run deliverySystem cond store c →
    Step deliverySystem cond c c' → .spawned pid call ∈ c.now.past → call.candidateId = id →
    LooksUp id key command → c.now.state.operations id key = some snapshot →
    c'.now.past = .performed pid command resp :: c.now.past →
    ∃ pid' call', .spawned pid' call' ∈ c.now.past ∧ call.SameOperation call' ∧
      HasRecorded id key pid' c.now.past

/-- Each call that is spawned is separate from the calls before it. -/
def KeysSeparate (m : DeliveryMoment) :
    Attempt DeliveryCommand DeliveryCall ReviewRecord → Prop
  | .spawn _ call => ∀ pid' call', .spawned pid' call' ∈ m.past → call.Separate call'
  | _ => True

section Replays

variable {store : DeliveryStore} {id key : JsString} {pid : ℕ} {call : DeliveryCall}
  {command : DeliveryCommand} {m : DeliveryMoment}

theorem mem_operationKeys_of_looksUp (hpromise : CallPromise id call pid m command)
    (hlooks : LooksUp id key command) : key ∈ call.operationKeys := by
  cases command with
  | findOperation candidateId operationKey =>
      rw [← hlooks.2, hpromise.2.1]
      exact List.mem_cons_self
  | transition input =>
      obtain ⟨_, _, ⟨move, hmove, _, _, hkey, _⟩, _⟩ := hpromise
      rw [← hlooks.2, hkey]
      exact DeliveryCall.operationKey_mem hmove
  | rememberOperation candidateId operationKey =>
      rw [← hlooks.2, hpromise.2.1]
      exact List.mem_cons_self
  | _ => exact hlooks.elim

/-- What a look-up returns was stored by a call that meets the one that looks it
up in this key. -/
theorem exists_recordedBy (hinv : DeliveryInv id m) (hrunning : Running pid call m.past)
    (hid : call.candidateId = id) (hkey : key ∈ call.operationKeys)
    {snapshot : DeliveryCandidate} (hop : m.state.operations id key = some snapshot) :
    ∃ pid' call', RecordedBy id key pid' call' m.past ∧ call.MeetInKey call' := by
  obtain ⟨pid', call', hby⟩ := hinv.recorded hop
  refine ⟨pid', call', hby, hid.trans hby.2.1.symm, hrunning.2, hby.1.2, key, hkey, hby.2.2.1⟩

private theorem operations_of_find {c c' : DeliveryConfig} {snapshot : DeliveryCandidate}
    (hsound : (deliveryOutline id).Sound c) (hstep : DeliveryStep c c')
    (hpast : c'.now.past =
      .performed pid (.findOperation id key) (.ok (some snapshot)) :: c.now.past) :
    c.now.state.operations id key = some snapshot := by
  rcases Outline.step_cases hsound hstep with ⟨_, _, outside, _, _, hexec, hpast'⟩ |
    ⟨_, _, hpast'⟩ | ⟨_, _, hpast', hne⟩
  · have heq := (List.cons.inj (hpast.symm.trans hpast')).1
    injection heq with _ hcommand hresp
    subst hcommand
    obtain rfl := eq_of_heq hresp
    replace hexec := Option.some.inj hexec
    unfold execDelivery at hexec
    split at hexec
    · cases (Prod.mk.inj hexec).1
    · exact Except.ok.inj (Prod.mk.inj hexec).1
  · cases (List.cons.inj (hpast.symm.trans hpast')).1
  · exact absurd (List.cons.inj (hpast.symm.trans hpast')).1.symm (hne _ _ _)

/-- Under separate keys, what is stored is returned only to the operation that
stored it. -/
theorem keysPerOperation_of_keysSeparate (hfresh : FreshCandidate store id) :
    KeysPerOperation store id KeysSeparate := by
  have hsound : ∀ {c : DeliveryConfig}, Run deliverySystem KeysSeparate store c →
      (deliveryOutline id).Sound c := fun hrun =>
    sound_of_reached hfresh (Run.mono (fun _ _ _ => trivial) hrun)
  have hany : ∀ {c c' : DeliveryConfig}, Step deliverySystem KeysSeparate c c' →
      DeliveryStep c c' := fun hstep => Step.mono (fun _ _ _ => trivial) hstep
  have hseparate : ∀ {c : DeliveryConfig} {p q : ℕ} {a b : DeliveryCall},
      Run deliverySystem KeysSeparate store c → .spawned p a ∈ c.now.past →
      .spawned q b ∈ c.now.past → a.Separate b := fun hrun =>
    spawned_related_of_run (fun a => .inl (.refl a)) (fun _ _ h => h.symm)
      (fun _ _ _ hcond => hcond) hrun
  constructor
  · intro c c' pid call key snapshot hrun hstep hspawn hid hpast
    obtain ⟨hrunning, hpromise⟩ := promise_of_step (hsound hrun) (hany hstep) hspawn hpast
    have hop := operations_of_find (hsound hrun) (hany hstep) hpast
    have hkey : key = call.idempotencyKey := hpromise.2.1
    obtain ⟨pid', call', hby, hmeet⟩ := exists_recordedBy (hsound hrun).inv hrunning hid
      (by rw [hkey]; exact List.mem_cons_self) hop
    have hsame := (hseparate hrun hspawn hby.1.1).resolve_right (fun h => h hmeet)
    obtain ⟨e, he, hpid, hrecords⟩ := hby.2.2.2
    refine ⟨pid', call', ?_, hby.1.1, hsame, e, he, hpid, ?_⟩
    · rintro rfl
      have hown : e ∈ eventsOf pid' c.now.past := mem_eventsOf.mpr ⟨he, hpid⟩
      rw [hpromise.2.2, List.mem_singleton] at hown
      subst hown
      exact hrecords
    · rw [← hsame.2.2, ← hkey]
      exact hrecords
  · intro c c' pid call key snapshot command resp hrun hstep hspawn hid hlooks hop hpast
    obtain ⟨hrunning, hpromise⟩ := promise_of_step (hsound hrun) (hany hstep) hspawn hpast
    obtain ⟨pid', call', hby, hmeet⟩ := exists_recordedBy (hsound hrun).inv hrunning hid
      (mem_operationKeys_of_looksUp hpromise hlooks) hop
    have hsame := (hseparate hrun hspawn hby.1.1).resolve_right (fun h => h hmeet)
    exact ⟨pid', call', hby.1.1, hsame, hby.2.2.2⟩

end Replays

/-! ## A key used for two methods -/

def spawnedCalls (past : List DeliveryEvent) : List (ℕ × DeliveryCall) :=
  past.filterMap fun e => match e with
    | .spawned pid call => some (pid, call)
    | _ => none

variable {past : List DeliveryEvent}

theorem mem_spawnedCalls {pid : ℕ} {call : DeliveryCall} :
    (pid, call) ∈ spawnedCalls past ↔ .spawned pid call ∈ past := by
  simp only [spawnedCalls, List.mem_filterMap]
  constructor
  · rintro ⟨e, he, heq⟩
    cases e with
    | spawned pid' call' =>
        obtain ⟨rfl, rfl⟩ := Prod.mk.inj (Option.some.inj heq)
        exact he
    | _ => cases heq
  · intro h
    exact ⟨_, h, rfl⟩

/-- A look-up that has found a snapshot: who looked up which key of which
candidate, and the state of the snapshot. -/
structure Replay where
  pid : ℕ
  candidateId : JsString
  operationKey : JsString
  state : DeliveryCandidateState
  deriving DecidableEq

def lastReplay : List DeliveryEvent → Option Replay
  | .performed pid (.findOperation candidateId operationKey) (.ok (some snapshot)) :: _ =>
    some ⟨pid, candidateId, operationKey, snapshot.state⟩
  | _ => none

theorem exists_of_lastReplay {replay : Replay} (h : lastReplay past = some replay) :
    ∃ snapshot rest, past = .performed replay.pid
      (.findOperation replay.candidateId replay.operationKey) (.ok (some snapshot)) :: rest := by
  unfold lastReplay at h
  split at h
  · next snapshot rest =>
    obtain rfl := Option.some.inj h
    exact ⟨snapshot, rest, rfl⟩
  · cases h

def sharedKeySchedule : List (Action DeliveryCall Outside ReviewRecord) :=
  [.spawn (.checkpoint (js "candidate") (js "delivery-0001"))] ++
    List.replicate 4 (.perform 0 sampleOutside) ++
    [.spawn (.deliver (js "candidate") (js "delivery-0001"))]

/-- After a checkpoint, a delivery under the same key returns the checkpoint's
snapshot: no call has delivered. -/
theorem not_keysPerOperation :
    ¬ KeysPerOperation sampleStore (js "candidate") (fun _ _ => True) := by
  intro hkeys
  have hrun : (execute deliverySystem (Config.initial sampleStore) sharedKeySchedule).map
      (fun c => (spawnedCalls c.now.past,
        (step deliverySystem c (.perform 1 sampleOutside)).map fun c' =>
          lastReplay c'.now.past)) =
      some ([(1, .deliver (js "candidate") (js "delivery-0001")),
          (0, .checkpoint (js "candidate") (js "delivery-0001"))],
        some (some ⟨1, js "candidate", js "delivery-0001", .committed⟩)) := by
    decide +kernel
  obtain ⟨c, hc, hobserved⟩ := Option.map_eq_some_iff.mp hrun
  obtain ⟨hcalls, hlast⟩ := Prod.mk.inj hobserved
  obtain ⟨c', hc', hreplay⟩ := Option.map_eq_some_iff.mp hlast
  obtain ⟨snapshot, rest, hpast⟩ := exists_of_lastReplay hreplay
  have hstep : DeliveryStep c c' := step_sound hc'
  obtain ⟨e, he⟩ := hstep.past
  have hrest : rest = c.now.past := (List.cons.inj (hpast.symm.trans he)).2
  subst hrest
  have hspawn : .spawned 1 (.deliver (js "candidate") (js "delivery-0001")) ∈ c.now.past := by
    rw [← mem_spawnedCalls, hcalls]
    exact List.mem_cons_self
  obtain ⟨pid', call', hne, hspawn', hsame, _⟩ :=
    hkeys.replay (reached_of_execute hc) hstep hspawn rfl hpast
  rw [← mem_spawnedCalls, hcalls] at hspawn'
  simp only [List.mem_cons, Prod.mk.injEq, List.not_mem_nil, or_false] at hspawn'
  rcases hspawn' with ⟨rfl, _⟩ | ⟨rfl, rfl⟩
  · exact hne rfl
  · cases hsame.1

/-- Separate keys, for a candidate that starts fresh. -/
theorem keysPerOperation_sampleStore :
    KeysPerOperation sampleStore (js "candidate") KeysSeparate :=
  keysPerOperation_of_keysSeparate sampleStore_fresh

end DevHarness.Delivery
