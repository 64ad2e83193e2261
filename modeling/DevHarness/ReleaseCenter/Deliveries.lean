import DevHarness.ReleaseCenter.Linearised

/-!
# Repeated deliveries of a release command

A command is committed at most once and its key replays the aggregate of that commit, as long as
the fingerprint of a delivery is that of the first one.  The fingerprint is of the whole input of a
method, the request id of the transport included.
-/

namespace DevHarness.ReleaseCenter

open JsText Interleave Program

variable {Store : Type} {runtime : ReleaseRuntime} {call call' : ReleaseCall}
  {ex : List (Exchange ServiceCommand ServiceCommand.Answer ReleaseCenterError)}
  {aggregate : Aggregate} {metadata : ReleaseCommandMetadata}

/-! ## What is claimed -/

/-- Two deliveries of one command; each has a request id of its own. -/
structure SameCommand (call call' : ReleaseCall) : Prop where
  scope : call.scope = call'.scope
  actorId : call.identity.actorId = call'.identity.actorId
  idempotencyKey : call.identity.idempotencyKey = call'.identity.idempotencyKey
  reason : call.identity.reason = call'.identity.reason
  body : call.body = call'.body

def recorded (runtime : ReleaseRuntime) (repository : ReleaseCenterRepository Store)
    (store : Store) (call : ReleaseCall) : Option Aggregate :=
  match repository.findCommand store (call.metadata runtime [] [] 0) with
  | .ok found => found
  | .error _ => none

/-- A commit by a delivery of `call` that writes. -/
def CommitsCall (pid : ℕ) (call : ReleaseCall) (c c' : ReleaseConfig Store) : Prop :=
  .spawned pid call ∈ c.now.past ∧ ∃ input, Commits pid input c c'

/-- An access of process `pid` has failed. -/
def Disturbed (past : List ReleaseEvent) (pid : ℕ) : Prop :=
  ∃ command error, .performed pid command (.error (.outside error)) ∈ past

def ReleaseBody.reads : ReleaseBody → Option JsString
  | .createProductionRelease canaryId => some canaryId
  | _ => none

def ReleaseBody.consults (body : ReleaseBody) : ServiceCommand → Bool
  | .findCommand _ => true
  | .get _ => body.reads.isNone
  | .findPassedGoalVerification _ _ _ _ => true
  | .commit _ => true
  | _ => false

/-- Commands are exactly-once in all runs from `start` whose steps meet `cond`. -/
structure DeliveredOnce (runtime : ReleaseRuntime) (repository : ReleaseCenterRepository Store)
    (start : Store) (cond : ReleaseCondition Store) : Prop where
  once : ∀ {c c' d d' pid pid' call call'}, Run (releaseSystem runtime repository) cond start c →
    Step (releaseSystem runtime repository) cond c c' → CommitsCall pid call c c' →
    Relation.ReflTransGen (Step (releaseSystem runtime repository) cond) c' d →
    Step (releaseSystem runtime repository) cond d d' → SameCommand call call' →
    ¬ CommitsCall pid' call' d d'
  returned : ∀ {c pid call aggregate}, Run (releaseSystem runtime repository) cond start c →
    .spawned pid call ∈ c.now.past → .finished pid (.ok aggregate) ∈ c.now.past →
    recorded runtime repository c.now.state call = some aggregate
  /-- A delivery that consults the repository when the command is recorded replays it. -/
  replayed : ∀ {c c' d pid pid₀ call call₀ command resp aggregate result},
    Run (releaseSystem runtime repository) cond start c →
    Step (releaseSystem runtime repository) cond c c' → .spawned pid call ∈ c.now.past →
    .spawned pid₀ call₀ ∈ c.now.past → SameCommand call call₀ →
    call.body.consults command = true →
    c'.now.past = .performed pid command resp :: c.now.past →
    recorded runtime repository c'.now.state call₀ = some aggregate →
    Relation.ReflTransGen (Step (releaseSystem runtime repository) cond) c' d →
    .finished pid result ∈ d.now.past → ¬ Disturbed d.now.past pid → result = .ok aggregate
  /-- A delivery that comes after one that has succeeded returns what that one has returned. -/
  followed : ∀ {c c' d pid pid₀ call call₀ aggregate result},
    Run (releaseSystem runtime repository) cond start c →
    Step (releaseSystem runtime repository) cond c c' →
    c'.now.past = .spawned pid call :: c.now.past → .spawned pid₀ call₀ ∈ c.now.past →
    .finished pid₀ (.ok aggregate) ∈ c.now.past → SameCommand call call₀ →
    Relation.ReflTransGen (Step (releaseSystem runtime repository) cond) c' d →
    .finished pid result ∈ d.now.past → ¬ Disturbed d.now.past pid → result = .ok aggregate

/-- The deliveries of a command carry one request id, and none of them reads the aggregate when
the command has been recorded. -/
def OneRequest (runtime : ReleaseRuntime) (repository : ReleaseCenterRepository Store) :
    ReleaseCondition Store := fun m attempt =>
  match attempt with
  | .spawn _ delivery => ∀ pid' call', .spawned pid' call' ∈ m.past → SameCommand delivery call' →
    delivery.identity.requestId = call'.identity.requestId
  | .perform pid (.get _) => ∀ call, .spawned pid call ∈ m.past → call.body.reads = none →
    recorded runtime repository m.state call = none
  | .perform pid (.findPassedGoalVerification _ _ _ _) => ∀ call, .spawned pid call ∈ m.past →
    recorded runtime repository m.state call = none
  | _ => True

/-! ## The shape of the methods -/

def ServiceCommand.reading : ServiceCommand → Prop
  | .findCommand _ => False
  | .commit _ => False
  | _ => True

/-- An exchange with the outside that has been answered. -/
def PlainAnswered (ex : List (Exchange ServiceCommand ServiceCommand.Answer ReleaseCenterError)) :
    Prop :=
  ∀ command answer, ⟨command, answer⟩ ∈ ex → command.reading → ∃ value, answer = .ok value

/-- The canary that a method reads first has been found. -/
def FirstRead (call : ReleaseCall)
    (ex : List (Exchange ServiceCommand ServiceCommand.Answer ReleaseCenterError)) : Prop :=
  ∀ canaryId, call.body.reads = some canaryId →
    ∀ answer, ⟨.get ⟨.canary, call.scope, canaryId⟩, answer⟩ ∈ ex →
      ∃ value, answer = .ok (some (.canary value))

def commitPrepared (metadata : ReleaseCommandMetadata) (prepared : Aggregate × ℕ × Addition) :
    ReleaseProgram Aggregate :=
  ask (.commit
    { aggregate := prepared.1
      expectedVersion := prepared.2.1
      command := metadata
      addition := prepared.2.2 })

/-- A method asks for leave, looks for its key, prepares a commit and commits. -/
inductive Shaped (runtime : ReleaseRuntime) (call : ReleaseCall) : ReleaseProgram Aggregate → Prop
  | intro (Before : Type) (before : ReleaseProgram Before)
      (prepare : Before → ReleaseCommandMetadata → ReleaseProgram (Aggregate × ℕ × Addition))
      (hbefore : Only ServiceCommand.reading before)
      (hprepare : ∀ value metadata, Only ServiceCommand.reading (prepare value metadata))
      (hends : ∀ ex r, Ends before ex r → PlainAnswered ex → FirstRead call ex →
        ∃ value, r = .ok value) :
      Shaped runtime call (before >>= fun value => replaying runtime call fun metadata =>
        prepare value metadata >>= commitPrepared metadata)

section Shape

variable {canaryId releaseId : JsString} {α : Type} {expectedVersion : ExpectedVersion}

theorem ok_of_ends_ask {command : ServiceCommand} {r : Except ReleaseCenterError command.Answer}
    (hreading : command.reading) (h : Ends (ask command) ex r) (hplain : PlainAnswered ex) :
    ∃ value, r = .ok value := by
  obtain rfl := ends_request_iff.mp h
  exact hplain command r (List.mem_singleton_self _) hreading

theorem ok_of_ends_canary {scope : ReleaseCenterScope}
    {r : Except ReleaseCenterError CanaryAggregate} (h : Ends (canary scope canaryId) ex r)
    (hfound : ∀ answer, ⟨.get ⟨.canary, scope, canaryId⟩, answer⟩ ∈ ex → ∃ value, answer = .ok
      (some (.canary value))) : ∃ value, r = .ok value := by
  unfold canary at h
  obtain ⟨answer, ex', rfl, hrest⟩ := exists_of_ends_request_bind h
  obtain ⟨value, rfl⟩ := hfound answer List.mem_cons_self
  have hread := hrest (some (.canary value)) rfl
  simp only [ends_pure_iff] at hread
  exact ⟨value, hread.2⟩

theorem only_domain {P : ServiceCommand → Prop} {result : Except ReleaseError α} :
    Only P (domain result) :=
  trivial

theorem only_timed {operate : ℤ → Except ReleaseError α} :
    Only ServiceCommand.reading (timed operate) :=
  only_bind (only_request.mpr trivial) fun _ => only_domain

theorem only_canary {scope : ReleaseCenterScope} :
    Only ServiceCommand.reading (canary scope canaryId) := by
  refine only_bind (only_request.mpr trivial) fun found => ?_
  split
  · exact only_pure
  · exact only_throw

theorem only_production {scope : ReleaseCenterScope} :
    Only ServiceCommand.reading (production scope releaseId) := by
  refine only_bind (only_request.mpr trivial) fun found => ?_
  split
  · exact only_pure
  · exact only_throw

theorem only_finalizeCurrent {current : CanaryAggregate} :
    Only ServiceCommand.reading (finalizeCurrent runtime call current) := by
  refine only_bind only_domain fun observed => ?_
  refine only_bind (only_request.mpr trivial) fun found => ?_
  exact only_bind only_domain fun verification => only_timed

theorem shaped_updateCanary {operate : CanaryAggregate → ReleaseProgram CanaryAggregate}
    {addition : CanaryAggregate → Addition}
    (hoperate : ∀ current, Only ServiceCommand.reading (operate current)) :
    Shaped runtime call
      (updateCanary runtime call canaryId expectedVersion operate addition) := by
  have hshape : Shaped runtime call _ := .intro Unit
    (ask (.authorizeRole call.scope call.identity.actorId (js "owner")))
    (fun _ _ => canary call.scope canaryId >>= fun current => operate current >>= fun aggregate =>
      pure (.canary aggregate, expectedVersion.val, addition aggregate))
    (only_request.mpr trivial)
    (fun _ _ => only_bind only_canary fun current => only_bind (hoperate current) fun _ => only_pure)
    (fun ex r h hplain _ => ok_of_ends_ask (by exact trivial) h hplain)
  simp only [Program.bind_assoc] at hshape
  exact hshape

theorem shaped_updateRelease {releaseRole : JsString}
    {operate : ProductionReleaseAggregate → JsString → ℤ → Except ReleaseError
      ProductionReleaseAggregate} {addition : ProductionReleaseAggregate → Addition} :
    Shaped runtime call
      (updateRelease runtime call releaseId expectedVersion releaseRole operate addition) := by
  have hshape : Shaped runtime call _ := .intro Unit
    (ask (.authorizeRole call.scope call.identity.actorId releaseRole))
    (fun _ metadata => production call.scope releaseId >>= fun current =>
      timed (operate current metadata.auditId) >>= fun aggregate =>
        pure (.production aggregate, expectedVersion.val, addition aggregate))
    (only_request.mpr trivial)
    (fun _ _ => only_bind only_production fun current => only_bind only_timed fun _ => only_pure)
    (fun ex r h hplain _ => ok_of_ends_ask (by exact trivial) h hplain)
  simp only [Program.bind_assoc] at hshape
  exact hshape

def beforeCanary (call : ReleaseCall) : ReleaseProgram ℤ := do
  let _ ← ask (.authorizePermission call.scope call.identity.actorId (js "run.operate"))
  ask .clock

theorem shaped_createCanary {draft : CanaryDraft} :
    Shaped runtime call (createCanaryMethod runtime call draft) := by
  have hbefore : Only ServiceCommand.reading (beforeCanary call) :=
    only_bind (only_request.mpr trivial) fun _ => only_request.mpr trivial
  have hends : ∀ ex r, Ends (beforeCanary call) ex r → PlainAnswered ex → FirstRead call ex →
      ∃ value, r = .ok value := by
    intro ex r h hplain _
    obtain ⟨answer, ex', rfl, hrest⟩ := exists_of_ends_request_bind h
    obtain ⟨value, rfl⟩ := hplain _ answer List.mem_cons_self (by exact trivial)
    refine ok_of_ends_ask (by exact trivial) (hrest value rfl) fun command answer hx => ?_
    exact hplain command answer (List.mem_cons_of_mem _ hx)
  have hshape : Shaped runtime call _ := .intro ℤ (beforeCanary call)
    (fun now _ => (ask .idGenerator : ReleaseProgram JsString) >>= fun canaryId =>
      domain (createCanary (createCanaryInput call draft canaryId) now) >>= fun aggregate =>
        pure (.canary aggregate, 0, .nothing))
    hbefore
    (fun _ _ => only_bind (only_request.mpr trivial) fun _ =>
      only_bind only_domain fun _ => only_pure)
    hends
  simp only [Program.bind_assoc] at hshape
  have hassoc := Program.bind_assoc
    (ask (.authorizePermission call.scope call.identity.actorId (js "run.operate")))
    (fun _ => (ask .clock : ReleaseProgram ℤ)) fun now => replaying runtime call fun metadata =>
      (ask .idGenerator : ReleaseProgram JsString) >>= fun canaryId =>
        domain (createCanary (createCanaryInput call draft canaryId) now) >>= fun aggregate =>
          pure (.canary aggregate, 0, .nothing) >>= commitPrepared metadata
  exact (congrArg (Shaped runtime call) hassoc).mp hshape

def beforeRelease (call : ReleaseCall) (canaryId : JsString) : ReleaseProgram CanaryAggregate := do
  let _ ← ask (.authorizeRole call.scope call.identity.actorId (js "owner"))
  canary call.scope canaryId

theorem shaped_createProductionRelease (hreads : call.body.reads = some canaryId) :
    Shaped runtime call (createProductionReleaseMethod runtime call canaryId) := by
  have hbefore : Only ServiceCommand.reading (beforeRelease call canaryId) :=
    only_bind (only_request.mpr trivial) fun _ => only_canary
  have hends : ∀ ex r, Ends (beforeRelease call canaryId) ex r → PlainAnswered ex →
      FirstRead call ex → ∃ value, r = .ok value := by
    intro ex r h hplain hfirst
    obtain ⟨answer, ex', rfl, hrest⟩ := exists_of_ends_request_bind h
    obtain ⟨value, rfl⟩ := hplain _ answer List.mem_cons_self (by exact trivial)
    exact ok_of_ends_canary (hrest value rfl) fun answer hx =>
      hfirst canaryId hreads answer (List.mem_cons_of_mem _ hx)
  have hshape : Shaped runtime call _ := .intro CanaryAggregate (beforeRelease call canaryId)
    (fun value _ => (ask .idGenerator : ReleaseProgram JsString) >>= fun releaseId =>
      timed (createProductionRelease releaseId value call.identity.actorId) >>= fun aggregate =>
        pure (.production aggregate, 0, .nothing))
    hbefore
    (fun _ _ => only_bind (only_request.mpr trivial) fun _ =>
      only_bind only_timed fun _ => only_pure)
    hends
  simp only [Program.bind_assoc] at hshape
  have hassoc := Program.bind_assoc
    (ask (.authorizeRole call.scope call.identity.actorId (js "owner")))
    (fun _ => canary call.scope canaryId) fun value => replaying runtime call fun metadata =>
      (ask .idGenerator : ReleaseProgram JsString) >>= fun releaseId =>
        timed (createProductionRelease releaseId value call.identity.actorId) >>= fun aggregate =>
          pure (.production aggregate, 0, .nothing) >>= commitPrepared metadata
  exact (congrArg (Shaped runtime call) hassoc).mp hshape

theorem shaped_program : Shaped runtime call (call.program runtime) := by
  unfold ReleaseCall.program
  split
  · exact shaped_createCanary
  · exact shaped_updateCanary fun _ => only_timed
  · exact shaped_updateCanary fun _ => only_timed
  · exact shaped_updateCanary fun _ => only_timed
  · exact shaped_updateCanary fun _ => only_timed
  · exact shaped_updateCanary fun _ => only_timed
  · exact shaped_updateCanary fun _ => only_finalizeCurrent
  · next canaryId hbody =>
    apply shaped_createProductionRelease
    rw [hbody]
    rfl
  · exact shaped_updateRelease
  · exact shaped_updateRelease
  · exact shaped_updateRelease

end Shape

/-! ## What the methods exchange -/

/-- The metadata of a call, whatever has been generated for it. -/
def IsMetadata (runtime : ReleaseRuntime) (call : ReleaseCall) (metadata : ReleaseCommandMetadata) :
    Prop :=
  ∃ auditId eventId occurredAt, metadata = call.metadata runtime auditId eventId occurredAt

/-- A method asks for its own key. -/
def AsksFor (runtime : ReleaseRuntime) (call : ReleaseCall) : ServiceCommand → Prop
  | .findCommand metadata => IsMetadata runtime call metadata
  | .commit input => IsMetadata runtime call input.command
  | _ => True

def releaseVerdict : Verdict ServiceCommand ServiceCommand.Answer ReleaseCenterError Aggregate
  | .findCommand _, .ok (some aggregate) => some (.ok aggregate)
  | .commit _, answer => some answer
  | _, _ => none

section Exchanges

variable {p : ReleaseProgram Aggregate}

theorem asksFor_of_reading {command : ServiceCommand} (h : command.reading) :
    AsksFor runtime call command := by
  cases command with
  | findCommand metadata => exact h.elim
  | commit input => exact h.elim
  | _ => exact trivial

theorem noVerdict_of_reading {command : ServiceCommand} (h : command.reading) :
    ∀ answer, releaseVerdict command answer = none := by
  intro answer
  cases command with
  | findCommand metadata => exact h.elim
  | commit input => exact h.elim
  | _ => rfl

theorem only_command : Only ServiceCommand.reading (command runtime call) := by
  refine only_bind (only_request.mpr trivial) fun auditId => only_bind only_domain fun _ => ?_
  refine only_bind (only_request.mpr trivial) fun eventId => ?_
  exact only_bind (only_request.mpr trivial) fun occurredAt => only_pure

theorem ends_domain {α : Type} {result : Except ReleaseError α} {r : Except ReleaseCenterError α}
    (h : Ends (domain result) ex r) : ex = [] ∧ r = result.mapError .domain :=
  ends_done_iff.mp h

theorem isMetadata_of_ends {metadata : ReleaseCommandMetadata}
    (h : Ends (command runtime call) ex (.ok metadata)) : IsMetadata runtime call metadata := by
  unfold command at h
  obtain ⟨auditId, ex₁, rfl, h₁⟩ := ends_request_bind_iff.mp h
  obtain ⟨_, ex₂, ex₃, rfl, -, h₂⟩ := ends_bind_ok_iff.mp h₁
  obtain ⟨eventId, ex₄, rfl, h₃⟩ := ends_request_bind_iff.mp h₂
  obtain ⟨occurredAt, ex₅, rfl, h₄⟩ := ends_request_bind_iff.mp h₃
  obtain ⟨-, hmetadata⟩ := ends_pure_iff.mp h₄
  exact ⟨auditId, eventId, occurredAt, Except.ok.inj hmetadata⟩

theorem ok_of_ends_command {r : Except ReleaseCenterError ReleaseCommandMetadata}
    (h : Ends (command runtime call) ex r) (hvalid : validIdentity call.identity = .ok ())
    (hplain : PlainAnswered ex) : ∃ metadata, r = .ok metadata := by
  unfold command at h
  obtain ⟨answer₁, ex₁, rfl, h₁⟩ := exists_of_ends_request_bind h
  obtain ⟨auditId, rfl⟩ := hplain _ answer₁ List.mem_cons_self (by exact trivial)
  have h₂ := h₁ auditId rfl
  rw [hvalid] at h₂
  obtain ⟨answer₂, ex₂, rfl, h₃⟩ := exists_of_ends_request_bind h₂
  obtain ⟨eventId, rfl⟩ := hplain _ answer₂ (List.mem_cons_of_mem _ List.mem_cons_self)
    (by exact trivial)
  obtain ⟨answer₃, ex₃, rfl, h₄⟩ := exists_of_ends_request_bind (h₃ eventId rfl)
  obtain ⟨occurredAt, rfl⟩ := hplain _ answer₃
    (List.mem_cons_of_mem _ (List.mem_cons_of_mem _ List.mem_cons_self)) (by exact trivial)
  obtain ⟨-, hr⟩ := ends_pure_iff.mp (h₄ occurredAt rfl)
  exact ⟨_, hr⟩

theorem validIdentity_of_ends {r : ReleaseCommandMetadata}
    (h : Ends (command runtime call) ex (.ok r)) : validIdentity call.identity = .ok () := by
  unfold command at h
  obtain ⟨auditId, ex₁, rfl, h₁⟩ := ends_request_bind_iff.mp h
  obtain ⟨_, ex₂, ex₃, rfl, hchecked, -⟩ := ends_bind_ok_iff.mp h₁
  have hresult := (ends_domain hchecked).2
  cases hvalid : validIdentity call.identity with
  | ok u => rfl
  | error error =>
      rw [hvalid] at hresult
      cases hresult

theorem only_replaying {compute : ReleaseCommandMetadata → ReleaseProgram Aggregate}
    (hcompute : ∀ metadata, IsMetadata runtime call metadata →
      Only (AsksFor runtime call) (compute metadata)) :
    Only (AsksFor runtime call) (replaying runtime call compute) := by
  refine only_bind_of_ends (only_command.mono fun _ => asksFor_of_reading) ?_
  intro metadata ex hends
  have hmetadata := isMetadata_of_ends hends
  refine only_bind (only_request.mpr hmetadata) fun replay => ?_
  split
  · exact only_pure
  · exact hcompute _ hmetadata

theorem Shaped.only (h : Shaped runtime call p) : Only (AsksFor runtime call) p := by
  obtain ⟨Before, before, prepare, hbefore, hprepare, -⟩ := h
  refine only_bind (hbefore.mono fun _ => asksFor_of_reading) fun value => ?_
  refine only_replaying fun metadata hmetadata => ?_
  refine only_bind ((hprepare value metadata).mono fun _ => asksFor_of_reading) fun prepared => ?_
  exact only_request.mpr hmetadata

theorem Shaped.endsAt (h : Shaped runtime call p) : EndsAt releaseVerdict p := by
  obtain ⟨Before, before, prepare, hbefore, hprepare, -⟩ := h
  refine endsAt_bind (hbefore.mono fun _ => noVerdict_of_reading) fun value => ?_
  refine endsAt_bind (only_command.mono fun _ => noVerdict_of_reading) fun metadata => ?_
  refine endsAt_request_bind_of ?_ (fun _ _ h => by cases h) fun replay => ?_
  · intro replay r hr
    cases replay with
    | none => cases hr
    | some aggregate =>
        obtain rfl := Option.some.inj hr
        rfl
  · split
    · exact endsAt_pure
    · refine endsAt_bind ((hprepare value metadata).mono fun _ => noVerdict_of_reading)
        fun prepared => ?_
      exact endsAt_request fun answer r hr => (Option.some.inj hr).symm

theorem Shaped.ends_ok (h : Shaped runtime call p) (hends : Ends p ex (.ok aggregate)) :
    validIdentity call.identity = .ok () ∧ ∃ metadata, IsMetadata runtime call metadata ∧
      (⟨.findCommand metadata, .ok (some aggregate)⟩ ∈ ex ∨
        ∃ input, input.command = metadata ∧ ⟨.commit input, .ok aggregate⟩ ∈ ex) := by
  obtain ⟨Before, before, prepare, -, -, -⟩ := h
  obtain ⟨value, ex₁, ex₂, rfl, -, hreplaying⟩ := ends_bind_ok_iff.mp hends
  obtain ⟨metadata, ex₃, ex₄, rfl, hcommand, hlookup⟩ := ends_bind_ok_iff.mp hreplaying
  refine ⟨validIdentity_of_ends hcommand, metadata, isMetadata_of_ends hcommand, ?_⟩
  obtain ⟨replay, ex₅, rfl, hrest⟩ := ends_request_bind_iff.mp hlookup
  cases replay with
  | some found =>
      obtain ⟨rfl, hfound⟩ := ends_pure_iff.mp hrest
      rw [Except.ok.inj hfound]
      exact .inl (List.mem_append_right _ (List.mem_append_right _ List.mem_cons_self))
  | none =>
      obtain ⟨prepared, ex₆, ex₇, rfl, -, hcommit⟩ := ends_bind_ok_iff.mp hrest
      obtain rfl := ends_request_iff.mp hcommit
      refine .inr ⟨⟨prepared.1, prepared.2.1, metadata, prepared.2.2⟩, rfl, ?_⟩
      refine List.mem_append_right _ (List.mem_append_right _ (List.mem_cons_of_mem _ ?_))
      exact List.mem_append_right _ (List.mem_singleton_self _)

theorem read_of_ends {canaryId : JsString} (hreads : call.body.reads = some canaryId)
    (hends : Ends (call.program runtime) ex (.ok aggregate)) :
    ∃ value, ⟨.get ⟨.canary, call.scope, canaryId⟩, .ok (some (.canary value))⟩ ∈ ex := by
  unfold ReleaseCall.program at hends
  cases hbody : call.body with
  | createProductionRelease canaryId' =>
      rw [hbody] at hreads hends
      obtain rfl : canaryId' = canaryId := Option.some.inj hreads
      simp only [createProductionReleaseMethod] at hends
      obtain ⟨_, ex₁, rfl, hread⟩ := ends_request_bind_iff.mp hends
      obtain ⟨value, ex₂, ex₃, rfl, hcanary, -⟩ := ends_bind_ok_iff.mp hread
      unfold canary at hcanary
      obtain ⟨found, ex₄, rfl, hfound⟩ := ends_request_bind_iff.mp hcanary
      refine ⟨value, List.mem_cons_of_mem _ (List.mem_append_left _ ?_)⟩
      rcases found with _ | (value' | value')
      · cases (ends_throw_iff.mp hfound).2
      · obtain ⟨-, hvalue⟩ := ends_pure_iff.mp hfound
        rw [Except.ok.inj hvalue]
        exact List.mem_cons_self
      · cases (ends_throw_iff.mp hfound).2
  | _ =>
      rw [hbody] at hreads
      cases hreads

theorem Shaped.finds (h : Shaped runtime call p) {r : Except ReleaseCenterError Aggregate}
    (hends : Ends p ex r) (hvalid : validIdentity call.identity = .ok ())
    (hplain : PlainAnswered ex) (hfirst : FirstRead call ex) :
    ∃ metadata answer, ⟨.findCommand metadata, answer⟩ ∈ ex := by
  obtain ⟨Before, before, prepare, -, -, hbefore⟩ := h
  rcases ends_bind hends with ⟨error, herror, -⟩ | ⟨value, ex₁, ex₂, rfl, -, hreplaying⟩
  · obtain ⟨value, hvalue⟩ := hbefore ex _ herror hplain hfirst
    cases hvalue
  · have hlater : PlainAnswered ex₂ := fun command answer hx hreading =>
      hplain command answer (List.mem_append_right _ hx) hreading
    rcases ends_bind hreplaying with ⟨error, herror, -⟩ | ⟨metadata, ex₃, ex₄, rfl, -, hlookup⟩
    · obtain ⟨metadata, hmetadata⟩ := ok_of_ends_command herror hvalid hlater
      cases hmetadata
    · obtain ⟨answer, ex₅, rfl, -⟩ := exists_of_ends_request_bind hlookup
      exact ⟨metadata, answer, List.mem_append_right _
        (List.mem_append_right _ List.mem_cons_self)⟩

end Exchanges

section Recorded

variable {repository : ReleaseCenterRepository Store} {Valid : Store → Prop} {store next : Store}
  {input : ReleaseCommit}

theorem SameCommand.eq (h : SameCommand call call')
    (hrequest : call.identity.requestId = call'.identity.requestId) : call = call' := by
  obtain ⟨scope, ⟨actorId, requestId, key, reason⟩, body⟩ := call
  obtain ⟨scope', ⟨actorId', requestId', key', reason'⟩, body'⟩ := call'
  obtain ⟨hscope, hactor, hkey, hreason, hbody⟩ := h
  simp only at hscope hactor hkey hreason hbody hrequest
  rw [hscope, hactor, hkey, hreason, hbody, hrequest]

theorem IsMetadata.scope_eq {metadata' : ReleaseCommandMetadata} (h : SameCommand call call')
    (hmetadata : IsMetadata runtime call metadata) (hmetadata' : IsMetadata runtime call' metadata') :
    metadata.idempotencyScope = metadata'.idempotencyScope := by
  obtain ⟨auditId, eventId, occurredAt, rfl⟩ := hmetadata
  obtain ⟨auditId', eventId', occurredAt', rfl⟩ := hmetadata'
  simp only [ReleaseCommandMetadata.idempotencyScope, ReleaseCall.metadata, h.scope, h.actorId,
    h.idempotencyKey, h.body]

theorem replay_ne_none {requestHash : JsString} : replay requestHash aggregate metadata ≠ .ok none := by
  unfold replay
  split <;> simp

theorem recorded_iff (hlaw : Lawful repository Valid) (hmetadata : IsMetadata runtime call metadata) :
    recorded runtime repository store call = some aggregate ↔
      repository.findCommand store metadata = .ok (some aggregate) := by
  obtain ⟨auditId, eventId, occurredAt, rfl⟩ := hmetadata
  have hfinds : repository.findCommand store (call.metadata runtime auditId eventId occurredAt) =
      repository.findCommand store (call.metadata runtime [] [] 0) := hlaw.finds rfl rfl
  rw [hfinds]
  unfold recorded
  cases repository.findCommand store (call.metadata runtime [] [] 0) with
  | ok found => simp
  | error error => simp

theorem findCommand_of_commit (hlaw : Lawful repository Valid) (hvalid : Valid store)
    (hcommit : repository.commit store input = (.ok aggregate, next)) :
    repository.findCommand next input.command = .ok (some aggregate) := by
  cases hlaw.outcome hvalid hcommit with
  | replayed _ hfound => exact hfound
  | written _ hfree hwritten =>
      rw [hwritten.recorded input.command rfl, replay, if_pos rfl]

theorem commit_of_findCommand (hlaw : Lawful repository Valid) (hvalid : Valid store)
    {answer : Except ReleaseCenterError Aggregate}
    (hcommit : repository.commit store input = (answer, next))
    (hfound : repository.findCommand next input.command = .ok (some aggregate)) :
    answer = .ok aggregate := by
  cases hlaw.outcome hvalid hcommit with
  | replayed found hfound' =>
      rw [hfound] at hfound'
      rw [Option.some.inj (Except.ok.inj hfound')]
  | refused error hnot => exact absurd hfound (hnot aggregate)
  | written _ hfree hwritten =>
      rw [hwritten.recorded input.command rfl, replay, if_pos rfl] at hfound
      rw [Option.some.inj (Except.ok.inj hfound)]

end Recorded

section Runs

variable {repository : ReleaseCenterRepository Store} {Valid : Store → Prop}
  {start next store : Store} {cond : ReleaseCondition Store} {c c' d d' : ReleaseConfig Store}
  {pid pid' pid₀ : ℕ} {call₀ : ReleaseCall} {command : ServiceCommand}
  {resp : Except ReleaseCenterError command.Answer} {outside : ReleaseOutside}
  {result : Except ReleaseCenterError Aggregate}

theorem kept_of_steps {I : Store → Prop}
    (hkeeps : ∀ {store input answer next}, I store →
      repository.commit store input = (answer, next) → I next)
    (hsteps : Relation.ReflTransGen (Step (releaseSystem runtime repository) cond) c d)
    (h : I c.now.state) : I d.now.state := by
  refine steps_invariant hsteps h ?_ fun {_ env _} _ _ _ => env.elim
  intro outside command resp store next hexec hstore
  rcases execRelease_cases hexec with rfl | ⟨input, answer, rfl, hcommit⟩
  · exact hstore
  · exact hkeeps hstore hcommit

theorem valid_of_run (hlaw : Lawful repository Valid) (hvalid : Valid start)
    (hrun : Run (releaseSystem runtime repository) cond start c) : Valid c.now.state :=
  kept_of_steps (fun hstore hcommit => hlaw.valid hstore hcommit) hrun hvalid

section

variable (hlaw : Lawful repository Valid) (hvalid : Valid c.now.state)
  (hsteps : Relation.ReflTransGen (Step (releaseSystem runtime repository) cond) c d)

include hlaw hvalid hsteps

theorem findCommand_of_steps
    (hfound : repository.findCommand c.now.state metadata = .ok (some aggregate)) :
    repository.findCommand d.now.state metadata = .ok (some aggregate) := by
  refine (kept_of_steps (I := fun store => Valid store ∧
    repository.findCommand store metadata = .ok (some aggregate)) ?_ hsteps ⟨hvalid, hfound⟩).2
  intro store input answer next hstore hcommit
  exact ⟨hlaw.valid hstore.1 hcommit, hlaw.keeps hstore.1 hcommit hstore.2⟩

theorem claimed_of_steps (hused : repository.findCommand c.now.state metadata ≠ .ok none) :
    repository.findCommand d.now.state metadata ≠ .ok none := by
  refine (kept_of_steps (I := fun store => Valid store ∧
    repository.findCommand store metadata ≠ .ok none) ?_ hsteps ⟨hvalid, hused⟩).2
  intro store input answer next hstore hcommit
  exact ⟨hlaw.valid hstore.1 hcommit, hlaw.claimed hstore.1 hcommit hstore.2⟩

end

theorem asksFor_of_step (hrun : Run (releaseSystem runtime repository) cond start c)
    (hstep : Step (releaseSystem runtime repository) cond c c')
    (hpast : c'.now.past = .performed pid command resp :: c.now.past)
    (hspawned : .spawned pid call ∈ c.now.past) : AsksFor runtime call command := by
  have hpast' : c'.now.past = [] ++ .performed pid command resp :: c.now.past := hpast
  obtain ⟨call', hspawned', hreach⟩ := reaches_of_run (hrun.tail hstep) hpast'
  obtain rfl := spawned_unique_of_run hrun hspawned hspawned'
  exact (shaped_program.only).of_reaches hreach

theorem committed_once (hlaw : Lawful repository Valid) (hvalid : Valid start)
    (hrun : Run (releaseSystem runtime repository) cond start c)
    (hstep : Step (releaseSystem runtime repository) cond c c') (hcommits : CommitsCall pid call c c')
    (hsteps : Relation.ReflTransGen (Step (releaseSystem runtime repository) cond) c' d)
    (hstep' : Step (releaseSystem runtime repository) cond d d') (hsame : SameCommand call call') :
    ¬ CommitsCall pid' call' d d' := by
  rintro ⟨hspawned', input', hagain⟩
  obtain ⟨hspawned, input, hfirst⟩ := hcommits
  have hrun' := hrun.tail hstep
  have hvalid' := valid_of_run hlaw hvalid hrun'
  have hevents := hfirst.2
  have hevents' := hagain.2
  obtain ⟨resp, hpast⟩ := hevents
  obtain ⟨resp', hpast'⟩ := hevents'
  have hscope : input'.command.idempotencyScope = input.command.idempotencyScope :=
    (IsMetadata.scope_eq hsame (asksFor_of_step hrun hstep hpast hspawned)
      (asksFor_of_step (hrun'.trans hsteps) hstep' hpast' hspawned')).symm
  obtain ⟨-, -, hwritten⟩ := written_of_commits hlaw (valid_of_run hlaw hvalid hrun) hstep hfirst
  obtain ⟨-, hfree, -⟩ := written_of_commits hlaw
    (valid_of_run hlaw hvalid (hrun'.trans hsteps)) hstep' hagain
  refine claimed_of_steps hlaw hvalid' hsteps ?_ hfree
  rw [hwritten.recorded input'.command hscope]
  exact replay_ne_none

theorem exec_findCommand {resp : Except ReleaseCenterError (Option Aggregate)}
    (hexec : execRelease repository outside (.findCommand metadata) store = some (resp, next))
    (hresp : ∀ error, resp ≠ .error (.outside error)) :
    resp = repository.findCommand store metadata ∧ next = store := by
  rcases ReleaseOutside.answering_cases (Option.some.inj hexec) with heq | ⟨⟨error, herror⟩, -⟩
  · exact Prod.mk.inj heq
  · exact absurd herror (hresp error)

theorem exec_commit {input : ReleaseCommit} {resp : Except ReleaseCenterError Aggregate}
    (hexec : execRelease repository outside (.commit input) store = some (resp, next))
    (hresp : ∀ error, resp ≠ .error (.outside error)) :
    repository.commit store input = (resp, next) := by
  rcases ReleaseOutside.answering_cases (Option.some.inj hexec) with heq | ⟨⟨error, herror⟩, -⟩
  · exact heq.symm
  · exact absurd herror (hresp error)

theorem exec_get {key : AggregateKey} {resp : Except ReleaseCenterError (Option Aggregate)}
    (hexec : execRelease repository outside (.get key) store = some (resp, next))
    (hresp : ∀ error, resp ≠ .error (.outside error)) :
    resp = .ok (repository.get store key) ∧ next = store := by
  rcases ReleaseOutside.answering_cases (Option.some.inj hexec) with heq | ⟨⟨error, herror⟩, -⟩
  · exact Prod.mk.inj heq
  · exact absurd herror (hresp error)

theorem exec_reading (hreading : command.reading)
    (hexec : execRelease repository outside command store = some (resp, next))
    (hresp : ∀ error, resp ≠ .error (.outside error)) :
    (∃ value, resp = .ok value) ∧ next = store := by
  have hanswered : ∀ {α : Type} {value : α} {resp : Except ReleaseCenterError α},
      outside.answering store (.ok value, store) = (resp, next) →
      (∀ error, resp ≠ .error (.outside error)) → (∃ value, resp = .ok value) ∧ next = store := by
    intro α value resp h hresp
    rcases ReleaseOutside.answering_cases h with heq | ⟨⟨error, herror⟩, -⟩
    · exact ⟨⟨value, (Prod.mk.inj heq).1⟩, (Prod.mk.inj heq).2⟩
    · exact absurd herror (hresp error)
  cases command with
  | findCommand metadata => exact hreading.elim
  | commit input => exact hreading.elim
  | clock =>
      obtain ⟨hclock, hstore⟩ := Prod.mk.inj (Option.some.inj hexec)
      exact ⟨⟨_, hclock.symm⟩, hstore.symm⟩
  | idGenerator =>
      obtain ⟨hid, hstore⟩ := Prod.mk.inj (Option.some.inj hexec)
      exact ⟨⟨_, hid.symm⟩, hstore.symm⟩
  | authorizePermission scope actorId permission => exact hanswered (Option.some.inj hexec) hresp
  | authorizeRole scope actorId releaseRole => exact hanswered (Option.some.inj hexec) hresp
  | get key => exact hanswered (Option.some.inj hexec) hresp
  | findPassedGoalVerification scope goalId startedAt endedAt =>
      exact hanswered (Option.some.inj hexec) hresp

theorem recorded_of_finished (hlaw : Lawful repository Valid) (hvalid : Valid start)
    (hrun : Run (releaseSystem runtime repository) cond start c)
    (hspawned : .spawned pid call ∈ c.now.past)
    (hfinished : .finished pid (.ok aggregate) ∈ c.now.past) :
    recorded runtime repository c.now.state call = some aggregate := by
  obtain ⟨ex, hends, hperformed⟩ := ends_of_finished hrun hspawned hfinished
  obtain ⟨-, metadata, hmetadata, hanswered⟩ := shaped_program.ends_ok hends
  apply (recorded_iff hlaw hmetadata).mpr
  rcases hanswered with hfound | ⟨input, rfl, hcommitted⟩
  · obtain ⟨c₀, c₁, outside, hrun₀, hsince, hrun₁, hexec⟩ :=
      exec_of_mem hrun (hperformed _ hfound)
    obtain ⟨hanswer, hstate⟩ := exec_findCommand hexec nofun
    refine findCommand_of_steps hlaw (valid_of_run hlaw hvalid hrun₁) hsince ?_
    rw [hstate]
    exact hanswer.symm
  · obtain ⟨c₀, c₁, outside, hrun₀, hsince, hrun₁, hexec⟩ :=
      exec_of_mem hrun (hperformed _ hcommitted)
    refine findCommand_of_steps hlaw (valid_of_run hlaw hvalid hrun₁) hsince ?_
    exact findCommand_of_commit hlaw (valid_of_run hlaw hvalid hrun₀) (exec_commit hexec nofun)

theorem SameCommand.symm (h : SameCommand call call') : SameCommand call' call :=
  ⟨h.scope.symm, h.actorId.symm, h.idempotencyKey.symm, h.reason.symm, h.body.symm⟩

theorem eq_of_oneRequest
    (hrun : Run (releaseSystem runtime repository) (OneRequest runtime repository) start c)
    (hspawned : .spawned pid call ∈ c.now.past) (hspawned₀ : .spawned pid₀ call₀ ∈ c.now.past)
    (hsame : SameCommand call call₀) : call = call₀ := by
  refine hsame.eq (spawned_related_of_run (R := fun call call' => SameCommand call call' →
    call.identity.requestId = call'.identity.requestId) (fun _ _ => rfl) ?_ ?_ hrun hspawned
    hspawned₀ hsame)
  · intro a b hrelated hsymm
    exact (hrelated hsymm.symm).symm
  · intro m pid call hcond pid' call' hmem
    exact hcond pid' call' hmem

/-- A delivery that consults the repository when its command is recorded replays it. -/
theorem replayed_of_step (hlaw : Lawful repository Valid) (hvalid : Valid start)
    (hrun : Run (releaseSystem runtime repository) (OneRequest runtime repository) start c)
    (hstep : Step (releaseSystem runtime repository) (OneRequest runtime repository) c c')
    (hspawned : .spawned pid call ∈ c.now.past) (hconsults : call.body.consults command = true)
    (hpast : c'.now.past = .performed pid command resp :: c.now.past)
    (hrecorded : recorded runtime repository c'.now.state call = some aggregate)
    (hsteps : Relation.ReflTransGen (Step (releaseSystem runtime repository) (OneRequest runtime
      repository)) c' d) (hfinished : .finished pid result ∈ d.now.past)
    (hclean : ¬ Disturbed d.now.past pid) : result = .ok aggregate := by
  have hresp : ∀ error, resp ≠ .error (.outside error) := by
    rintro error rfl
    refine hclean ⟨command, error, mem_past_of_steps hsteps ?_⟩
    rw [hpast]
    exact List.mem_cons_self
  have hasks := asksFor_of_step hrun hstep hpast hspawned
  have hvalid' := valid_of_run hlaw hvalid hrun
  obtain ⟨hcond, -, outside, hexec⟩ := hstep.exec_of_performed hpast
  change execRelease repository outside command c.now.state = _ at hexec
  cases command with
  | findCommand metadata =>
      obtain ⟨hanswer, hstate⟩ := exec_findCommand hexec hresp
      have hfound := (recorded_iff hlaw hasks).mp hrecorded
      rw [hstate, ← hanswer] at hfound
      subst hfound
      exact finished_of_verdict hrun hstep hpast hspawned shaped_program.endsAt rfl hsteps hfinished
  | commit input =>
      have hfound := (recorded_iff hlaw hasks).mp hrecorded
      have hanswer := commit_of_findCommand hlaw hvalid' (exec_commit hexec hresp) hfound
      subst hanswer
      exact finished_of_verdict hrun hstep hpast hspawned shaped_program.endsAt rfl hsteps hfinished
  | get key =>
      obtain ⟨-, hstate⟩ := exec_get hexec hresp
      have hnone := hcond call hspawned (Option.isNone_iff_eq_none.mp hconsults)
      rw [hstate, hnone] at hrecorded
      cases hrecorded
  | findPassedGoalVerification scope goalId startedAt endedAt =>
      have hreading :
          (ServiceCommand.findPassedGoalVerification scope goalId startedAt endedAt).reading :=
        trivial
      obtain ⟨-, hstate⟩ := exec_reading hreading hexec hresp
      rw [hstate, hcond call hspawned] at hrecorded
      cases hrecorded
  | _ => cases hconsults

theorem canary_of_steps (hlaw : Lawful repository Valid) {key : AggregateKey}
    (hkind : key.kind = .canary) (hvalid : Valid c.now.state)
    (hsteps : Relation.ReflTransGen (Step (releaseSystem runtime repository) cond) c d)
    (hfound : ∃ value, repository.get c.now.state key = some (.canary value)) :
    ∃ value, repository.get d.now.state key = some (.canary value) := by
  refine (kept_of_steps (I := fun store => Valid store ∧
    ∃ value, repository.get store key = some (.canary value)) ?_ hsteps ⟨hvalid, hfound⟩).2
  rintro store input answer next ⟨hstore, value, hvalue⟩ hcommit
  refine ⟨hlaw.valid hstore hcommit, ?_⟩
  by_cases hchanged : next = store
  · rw [hchanged]
    exact ⟨value, hvalue⟩
  · obtain ⟨-, hwritten⟩ := written_of_commit hlaw hstore hcommit hchanged
    rcases hwritten.get_cases hlaw key with ⟨-, hsame⟩ | ⟨-, stored, hget, -, hslot⟩
    · exact ⟨value, hsame.trans hvalue⟩
    · have hstored := (hlaw.kinds hslot).trans hkind
      cases stored with
      | canary value' => exact ⟨value', hget⟩
      | production value' => cases hstored

theorem replayed_of_follows (hlaw : Lawful repository Valid) (hvalid : Valid start)
    (hrun : Run (releaseSystem runtime repository) (OneRequest runtime repository) start c)
    (hstep : Step (releaseSystem runtime repository) (OneRequest runtime repository) c c')
    (hpast : c'.now.past = .spawned pid call :: c.now.past)
    (hspawned₀ : .spawned pid₀ call₀ ∈ c.now.past)
    (hfinished₀ : .finished pid₀ (.ok aggregate) ∈ c.now.past) (hsame : SameCommand call call₀)
    (hsteps : Relation.ReflTransGen (Step (releaseSystem runtime repository) (OneRequest runtime
      repository)) c' d) (hfinished : .finished pid result ∈ d.now.past)
    (hclean : ¬ Disturbed d.now.past pid) : result = .ok aggregate := by
  have hrun' := hrun.tail hstep
  have hmem : .spawned pid call ∈ c'.now.past := by
    rw [hpast]
    exact List.mem_cons_self
  have hmem₀ : .spawned pid₀ call₀ ∈ c'.now.past := by
    rw [hpast]
    exact List.mem_cons_of_mem _ hspawned₀
  obtain rfl := eq_of_oneRequest hrun' hmem hmem₀ hsame
  -- What the first delivery has left.
  obtain ⟨ex₀, hends₀, hperformed₀⟩ := ends_of_finished hrun hspawned₀ hfinished₀
  have hrecorded := recorded_of_finished hlaw hvalid hrun hspawned₀ hfinished₀
  have hidentity := (shaped_program.ends_ok hends₀).1
  -- What the second one finds.
  obtain ⟨ex, hends, hexchanged⟩ := ends_of_finished (hrun'.trans hsteps)
    (mem_past_of_steps hsteps hmem) hfinished
  have hanswered : ∀ {command} {answer : Except ReleaseCenterError command.Answer},
      ⟨command, answer⟩ ∈ ex → (∀ error, answer ≠ .error (.outside error)) ∧
        ∃ c₀ c₁ outside, Relation.ReflTransGen
          (Step (releaseSystem runtime repository) (OneRequest runtime repository)) c c₀ ∧
          execRelease repository outside command c₀.now.state = some (answer, c₁) := by
    intro command answer hx
    have hperformed := hexchanged _ hx
    obtain ⟨c₀, c₁, outside, hsince, -, hexec, -⟩ :=
      performed_since_spawn hrun hstep hpast hsteps hperformed
    refine ⟨?_, c₀, c₁.now.state, outside, .head hstep hsince, hexec⟩
    rintro error rfl
    exact hclean ⟨command, error, hperformed⟩
  have hplain : PlainAnswered ex := by
    intro command answer hx hreading
    obtain ⟨hresp, c₀, next, outside, -, hexec⟩ := hanswered hx
    exact (exec_reading hreading hexec hresp).1
  have hfirst : FirstRead call ex := by
    intro canaryId hreads answer hx
    obtain ⟨value, hx₀⟩ := read_of_ends hreads hends₀
    obtain ⟨b₀, b₁, outside₀, -, hsince₀, hrunB, hexec₀⟩ :=
      exec_of_mem hrun (hperformed₀ _ hx₀)
    obtain ⟨hget₀, hstate₀⟩ := exec_get hexec₀ nofun
    obtain ⟨hresp, c₀, next, outside, hsince, hexec⟩ := hanswered hx
    obtain ⟨hget, -⟩ := exec_get hexec hresp
    have hfound : repository.get b₁.now.state ⟨.canary, call.scope, canaryId⟩ =
        some (.canary value) := by
      rw [hstate₀]
      exact (Except.ok.inj hget₀).symm
    obtain ⟨value', hvalue'⟩ := canary_of_steps hlaw rfl (valid_of_run hlaw hvalid hrunB)
      (hsince₀.trans hsince) ⟨value, hfound⟩
    exact ⟨value', hget.trans (congrArg Except.ok hvalue')⟩
  obtain ⟨metadata, answer, hx⟩ := shaped_program.finds hends hidentity hplain hfirst
  have hmetadata : IsMetadata runtime call metadata := shaped_program.only.of_mem hends hx
  obtain ⟨hresp, c₀, next, outside, hsince, hexec⟩ := hanswered hx
  have hfound := findCommand_of_steps hlaw (valid_of_run hlaw hvalid hrun) hsince
    ((recorded_iff hlaw hmetadata).mp hrecorded)
  have hreplay := (exec_findCommand hexec hresp).1.trans hfound
  refine (shaped_program.endsAt).result_of_mem hends hx ?_
  rw [hreplay]
  rfl

theorem delivered_of_lawful (runtime : ReleaseRuntime) (hlaw : Lawful repository Valid)
    (hvalid : Valid start) :
    DeliveredOnce runtime repository start (OneRequest runtime repository) where
  once := committed_once hlaw hvalid
  returned := recorded_of_finished hlaw hvalid
  replayed := by
    intro c c' d pid pid₀ call call₀ command resp aggregate result hrun hstep hspawned hspawned₀
      hsame hconsults hpast hrecorded hsteps hfinished hclean
    obtain rfl := eq_of_oneRequest hrun hspawned hspawned₀ hsame
    exact replayed_of_step hlaw hvalid hrun hstep hspawned hconsults hpast hrecorded hsteps
      hfinished hclean
  followed := replayed_of_follows hlaw hvalid

/-- In every run in which the deliveries of a command carry one request id and none of them reads
its aggregate when the command has been recorded, commands are exactly-once. -/
theorem deliveredOnce_of_oneRequest (runtime : ReleaseRuntime)
    (collate : JsString → JsString → Bool) :
    DeliveredOnce runtime memoryRepository .empty (OneRequest runtime memoryRepository) ∧
      DeliveredOnce runtime (postgresRepository collate) .empty
        (OneRequest runtime (postgresRepository collate)) := by
  constructor
  · exact delivered_of_lawful runtime lawful_memoryRepository trivial
  · exact delivered_of_lawful runtime lawful_postgresRepository trivial

end Runs

/-! ## A second request id -/

def creation (requestId : String) : ReleaseCall :=
  { hourlyCall "create-01" (.createCanary hourlyDraft) with
    identity :=
      { (hourlyCall "create-01" (.createCanary hourlyDraft)).identity with
        requestId := js requestId } }

def returnedBy (pid : ℕ) (past : List ReleaseEvent) : List (Except ReleaseCenterError Aggregate) :=
  past.filterMap fun e => match e with
    | .finished pid' result => if pid' = pid then some result else none
    | _ => none

theorem mem_of_mem_returnedBy {pid : ℕ} {past : List ReleaseEvent}
    {result : Except ReleaseCenterError Aggregate} (h : result ∈ returnedBy pid past) :
    .finished pid result ∈ past := by
  obtain ⟨e, he, hmatch⟩ := List.mem_filterMap.mp h
  split at hmatch
  · next pid' result' =>
    by_cases hpid : pid' = pid
    · rw [if_pos hpid] at hmatch
      obtain rfl := Option.some.inj hmatch
      rw [← hpid]
      exact he
    · rw [if_neg hpid] at hmatch
      cases hmatch
  · cases hmatch

def isDisturbance (pid : ℕ) (e : ReleaseEvent) : Bool :=
  match e with
  | .performed pid' _ (.error (.outside _)) => pid' = pid
  | _ => false

theorem not_disturbed {pid : ℕ} {past : List ReleaseEvent}
    (h : past.any (isDisturbance pid) = false) : ¬ Disturbed past pid := by
  rintro ⟨command, error, hmem⟩
  have hnot := List.any_eq_false.mp h _ hmem
  exact hnot (by simp [isDisturbance])

def errorOf : Except ReleaseCenterError Aggregate → Option ReleaseCenterError
  | .ok _ => none
  | .error error => some error

/-- What the first delivery returns, and what the second one does, which begins after it. -/
structure RepeatedView where
  returned : List (Option ReleaseCenterError)
  next : ℕ
  repeated : Option (List (Option ReleaseCenterError) × Bool)
  deriving DecidableEq

def committing : List (Action ReleaseCall ReleaseOutside Empty) :=
  List.replicate 8 (.perform 0 (answered "canary-01")) ++ [.finish 0]

def stopping : List (Action ReleaseCall ReleaseOutside Empty) :=
  List.replicate 6 (.perform 1 (answered "event-02")) ++ [.finish 1]

def repeatedView (c : ReleaseConfig PostgresStore) : RepeatedView where
  returned := (returnedBy 0 c.now.past).map errorOf
  next := c.next
  repeated := (execute (releaseSystem hourlyRuntime hourlyRepository) c
    (.spawn (creation "request-02") :: stopping)).map fun d =>
    ((returnedBy 1 d.now.past).map errorOf, d.now.past.any (isDisturbance 1))

/-- The second delivery is another command under the same key, for its request id is another. -/
theorem not_deliveredOnce :
    ¬ DeliveredOnce hourlyRuntime hourlyRepository .empty fun _ _ => True := by
  intro hclaim
  have hexec : (execute (releaseSystem hourlyRuntime hourlyRepository) (Config.initial .empty)
      (.spawn (creation "request-01") :: committing)).map repeatedView = some
        { returned := [none]
          next := 1
          repeated := some ([some .idempotencyConflict], false) } := by
    decide +kernel
  obtain ⟨c, hc, hview⟩ := Option.map_eq_some_iff.mp hexec
  obtain ⟨hreturned, hnext, hrepeated⟩ := RepeatedView.mk.inj hview
  obtain ⟨d, hd, hrefused⟩ := Option.map_eq_some_iff.mp hrepeated
  obtain ⟨herror, hclean⟩ := Prod.mk.inj hrefused
  obtain ⟨result₀, hresult₀, hok⟩ := List.map_eq_singleton_iff.mp hreturned
  obtain ⟨result, hresult, hconflict⟩ := List.map_eq_singleton_iff.mp herror
  have hspawned₀ : .spawned 0 (creation "request-01") ∈ c.now.past := by
    obtain ⟨b, hstep, hrest⟩ : ∃ b, step (releaseSystem hourlyRuntime hourlyRepository)
        (Config.initial .empty) (.spawn (creation "request-01")) = some b ∧
        execute (releaseSystem hourlyRuntime hourlyRepository) b committing = some c :=
      ⟨_, rfl, hc⟩
    refine mem_past_of_steps (execute_sound hrest) ?_
    rw [← Option.some.inj hstep]
    exact List.mem_cons_self
  have hfinished₀ : .finished 0 result₀ ∈ c.now.past :=
    mem_of_mem_returnedBy (by rw [hresult₀]; exact List.mem_singleton_self _)
  have hfinished : .finished 1 result ∈ d.now.past :=
    mem_of_mem_returnedBy (by rw [hresult]; exact List.mem_singleton_self _)
  obtain ⟨c', hstep, hrest⟩ : ∃ c', step (releaseSystem hourlyRuntime hourlyRepository) c
      (.spawn (creation "request-02")) = some c' ∧
      execute (releaseSystem hourlyRuntime hourlyRepository) c' stopping = some d :=
    ⟨_, rfl, hd⟩
  have hpast : c'.now.past = .spawned 1 (creation "request-02") :: c.now.past := by
    rw [← hnext, ← Option.some.inj hstep]
    rfl
  cases result₀ with
  | error error => cases hok
  | ok aggregate =>
      have hsucceeds := hclaim.followed (reached_of_execute hc) (step_sound hstep) hpast hspawned₀
        hfinished₀ ⟨rfl, rfl, rfl, rfl, rfl⟩ (execute_sound hrest) hfinished (not_disturbed hclean)
      rw [hsucceeds] at hconflict
      cases hconflict

end DevHarness.ReleaseCenter
