import DevHarness.Interleave.Outline
import DevHarness.ReleaseCenter.LockedEvidence
import DevHarness.ReleaseCenter.MemoryRepository
import DevHarness.ReleaseCenter.PostgresRepository
import DevHarness.ReleaseCenter.Service

/-!
# The order of commits

A command is computed from the version that the service has read, and committed over the version
that the client expects.  Where the two are the same, every commit is computed from the one before
it and the versions increase; the service does not compare them.
-/

namespace DevHarness.ReleaseCenter

open JsText Interleave Program

variable {Store : Type} {runtime : ReleaseRuntime} {input : ReleaseCommit} {pid : ℕ}

/-! ## What is claimed -/

/-- One operation of the domain leads from one aggregate to the other. -/
inductive Computed (runtime : ReleaseRuntime) : Aggregate → Aggregate → Prop
  | canary (operation : CanaryOperation) (now : ℤ) (value next : CanaryAggregate)
      (happly : operation.apply runtime.parse value now = .ok next) :
      Computed runtime (.canary value) (.canary next)
  | production (operation : ReleaseOperation) (now : ℤ) (value next : ProductionReleaseAggregate)
      (happly : operation.apply runtime.hashing value now = .ok next) :
      Computed runtime (.production value) (.production next)

/-- A step from `c` to `c'` in which process `pid` commits. -/
def Commits (pid : ℕ) (input : ReleaseCommit) (c c' : ReleaseConfig Store) : Prop :=
  c'.now.state ≠ c.now.state ∧
    ∃ resp, c'.now.past = .performed pid (.commit input) resp :: c.now.past

/-- Commands are linearised in all runs from `start` whose steps meet `cond`. -/
structure LinearisedCommands (runtime : ReleaseRuntime)
    (repository : ReleaseCenterRepository Store) (start : Store) (cond : ReleaseCondition Store) :
    Prop where
  /-- What is kept of an aggregate is changed by its commits only. -/
  committed : ∀ {c c' key}, Run (releaseSystem runtime repository) cond start c →
    Step (releaseSystem runtime repository) cond c c' →
    repository.get c'.now.state key = repository.get c.now.state key ∨
      ∃ pid input stored, Commits pid input c c' ∧
        repository.slot input.aggregate.key = repository.slot key ∧
        repository.get c'.now.state key = some stored ∧ stored.version = input.aggregate.version
  /-- A commit creates an aggregate, or is computed from what is kept of it. -/
  computed : ∀ {c c' pid input}, Run (releaseSystem runtime repository) cond start c →
    Step (releaseSystem runtime repository) cond c c' → Commits pid input c c' →
    (input.expectedVersion = 0 ∧ repository.get c.now.state input.aggregate.key = none) ∨
      ∃ current, repository.get c.now.state input.aggregate.key = some current ∧
        Computed runtime current input.aggregate
  increasing : ∀ {c c' d d' pid pid' input input'},
    Run (releaseSystem runtime repository) cond start c →
    Step (releaseSystem runtime repository) cond c c' → Commits pid input c c' →
    Relation.ReflTransGen (Step (releaseSystem runtime repository) cond) c' d →
    Step (releaseSystem runtime repository) cond d d' → Commits pid' input' d d' →
    repository.slot input.aggregate.key = repository.slot input'.aggregate.key →
    input.aggregate.version < input'.aggregate.version

/-- An update that is committed over a version has been computed from that version. -/
def CommitsWhatItRead (repository : ReleaseCenterRepository Store) : ReleaseCondition Store :=
  fun m attempt =>
    match attempt with
    | .perform pid (.commit input) => input.expectedVersion ≠ 0 →
      repository.findCommand m.state input.command = .ok none →
      (∃ current, repository.get m.state input.aggregate.key = some current ∧
        current.version = input.expectedVersion) →
      ∀ key read, .performed pid (.get key) (.ok (some read)) ∈ m.past →
        read.version = input.expectedVersion
    | _ => True

section Operations

variable {value next : Aggregate}

theorem Computed.version (h : Computed runtime value next) : next.version = value.version + 1 := by
  cases h with
  | canary operation now value next happly => exact (step_of_apply happly).version
  | production operation now value next happly =>
      have hstep := releaseStep_of_apply happly
      simp only [Aggregate.version]
      cases hstep <;> rfl

theorem Computed.key (h : Computed runtime value next) : next.key = value.key := by
  cases h with
  | canary operation now value next happly =>
      have hstep := step_of_apply happly
      simp only [Aggregate.key]
      cases hstep <;> rfl
  | production operation now value next happly =>
      have hstep := releaseStep_of_apply happly
      simp only [Aggregate.key]
      cases hstep <;> rfl

end Operations

/-! ## What a command does to the store -/

/-- An aggregate is kept under its own key. -/
def Keyed (repository : ReleaseCenterRepository Store) (store : Store) : Prop :=
  ∀ key value, repository.get store key = some value →
    repository.slot value.key = repository.slot key

/-- An aggregate stays what it is or has a later version. -/
def Evolves (repository : ReleaseCenterRepository Store) (store later : Store) : Prop :=
  ∀ key value, repository.get store key = some value →
    ∃ value', repository.get later key = some value' ∧
      (value' = value ∨ value.version < value'.version)

section Exec

variable {repository : ReleaseCenterRepository Store} {Valid : Store → Prop}
  {outside : ReleaseOutside} {store later next : Store}

theorem Evolves.refl (store : Store) : Evolves repository store store :=
  fun _ value hvalue => ⟨value, hvalue, .inl rfl⟩

theorem Evolves.trans (h : Evolves repository store later) (h' : Evolves repository later next) :
    Evolves repository store next := by
  intro key value hvalue
  obtain ⟨value', hvalue', hlater⟩ := h key value hvalue
  obtain ⟨value'', hvalue'', hnext⟩ := h' key value' hvalue'
  refine ⟨value'', hvalue'', ?_⟩
  rcases hlater with rfl | hlater
  · exact hnext
  · rcases hnext with rfl | hnext
    · exact .inr hlater
    · exact .inr (hlater.trans hnext)

theorem ReleaseOutside.answering_cases {α : Type} {answer : Except ReleaseCenterError α × Store}
    {resp : Except ReleaseCenterError α} (h : outside.answering store answer = (resp, next)) :
    (resp, next) = answer ∨
      (∃ error, resp = .error (.outside error)) ∧ (next = store ∨ next = answer.2) := by
  unfold ReleaseOutside.answering at h
  split at h
  · next failure hfailure =>
    obtain ⟨rfl, rfl⟩ := Prod.mk.inj h
    refine .inr ⟨⟨failure.error, rfl⟩, ?_⟩
    by_cases hcommitted : failure.committed = true
    · rw [if_pos hcommitted]
      exact .inr rfl
    · rw [if_neg hcommitted]
      exact .inl rfl
  · exact .inl h.symm

theorem execRelease_cases {command : ServiceCommand}
    {resp : Except ReleaseCenterError command.Answer}
    (hexec : execRelease repository outside command store = some (resp, next)) :
    next = store ∨ ∃ input answer, command = .commit input ∧
      repository.commit store input = (answer, next) := by
  have hkeeps : ∀ {α : Type} {r answer : Except ReleaseCenterError α},
      outside.answering store (answer, store) = (r, next) → next = store := by
    intro α r answer h
    rcases ReleaseOutside.answering_cases h with heq | ⟨-, hnext | hnext⟩
    · exact (Prod.mk.inj heq).2
    · exact hnext
    · exact hnext
  cases command with
  | commit input =>
      rcases ReleaseOutside.answering_cases (Option.some.inj hexec) with heq | ⟨-, hnext | hnext⟩
      · exact .inr ⟨input, resp, rfl, heq.symm⟩
      · exact .inl hnext
      · refine .inr ⟨input, (repository.commit store input).1, rfl, ?_⟩
        rw [hnext]
  | authorizePermission scope actorId permission => exact .inl (hkeeps (Option.some.inj hexec))
  | authorizeRole scope actorId releaseRole => exact .inl (hkeeps (Option.some.inj hexec))
  | clock => exact .inl (Prod.mk.inj (Option.some.inj hexec)).2.symm
  | idGenerator => exact .inl (Prod.mk.inj (Option.some.inj hexec)).2.symm
  | findCommand command => exact .inl (hkeeps (Option.some.inj hexec))
  | get key => exact .inl (hkeeps (Option.some.inj hexec))
  | findPassedGoalVerification scope goalId startedAt endedAt =>
      exact .inl (hkeeps (Option.some.inj hexec))

theorem written_of_commit (hlaw : Lawful repository Valid) (hvalid : Valid store)
    {answer : Except ReleaseCenterError Aggregate}
    (hcommit : repository.commit store input = (answer, next)) (hchanged : next ≠ store) :
    repository.findCommand store input.command = .ok none ∧
      Written repository store input next := by
  cases hlaw.outcome hvalid hcommit with
  | replayed found hfound => exact absurd rfl hchanged
  | refused error hnot => exact absurd rfl hchanged
  | written next hfree hwritten => exact ⟨hfree, hwritten⟩

section

variable (hlaw : Lawful repository Valid) (h : Written repository store input next)

include hlaw h

theorem Written.get_cases (key : AggregateKey) :
    (repository.slot key ≠ repository.slot input.aggregate.key ∧
        repository.get next key = repository.get store key) ∨
      (repository.slot key = repository.slot input.aggregate.key ∧
        ∃ stored, repository.get next key = some stored ∧
          stored.version = input.aggregate.version ∧
          repository.slot stored.key = repository.slot key) := by
  by_cases hslot : repository.slot key = repository.slot input.aggregate.key
  · obtain ⟨stored, hget, hversion, hkey⟩ := h.stored
    refine .inr ⟨hslot, stored, ?_, hversion, hkey.trans hslot.symm⟩
    rw [hlaw.slots hslot]
    exact hget
  · exact .inl ⟨hslot, h.others key hslot⟩

theorem Written.keyed (hkeyed : Keyed repository store) : Keyed repository next := by
  intro key value hvalue
  rcases h.get_cases hlaw key with ⟨-, hsame⟩ | ⟨-, stored, hget, -, hkey⟩
  · rw [hsame] at hvalue
    exact hkeyed key value hvalue
  · rw [hget] at hvalue
    rw [← Option.some.inj hvalue]
    exact hkey

theorem Written.evolves
    (hlater : ∀ current, repository.get store input.aggregate.key = some current → current.version
      < input.aggregate.version) : Evolves repository store next := by
  intro key value hvalue
  rcases h.get_cases hlaw key with ⟨-, hsame⟩ | ⟨hslot, stored, hget, hversion, -⟩
  · exact ⟨value, hsame.trans hvalue, .inl rfl⟩
  · refine ⟨stored, hget, .inr ?_⟩
    rw [hlaw.slots hslot] at hvalue
    rw [hversion]
    exact hlater value hvalue

end

end Exec

/-! ## The outline -/

/-- Process `pid` has read an aggregate that has changed since only with its version. -/
structure HasRead (repository : ReleaseCenterRepository Store) (pid : ℕ) (m : ReleaseMoment Store)
    (key : AggregateKey) (read : Aggregate) : Prop where
  past : .performed pid (.get key) (.ok (some read)) ∈ m.past
  keyed : repository.slot read.key = repository.slot key
  since : ∃ value, repository.get m.state key = some value ∧
    (value = read ∨ read.version < value.version)

def ReleasePromise (runtime : ReleaseRuntime) (repository : ReleaseCenterRepository Store)
    (pid : ℕ) (m : ReleaseMoment Store) : ServiceCommand → Prop
  | .commit input => input.expectedVersion = 0 ∨ ∃ key read,
      HasRead repository pid m key read ∧ Computed runtime read input.aggregate
  | _ => True

section Promises

variable {repository : ReleaseCenterRepository Store} {Valid : Store → Prop}
  {m m' : ReleaseMoment Store} {call : ReleaseCall} {key : AggregateKey} {read : Aggregate}
  {next : Store}

section

variable (hlaw : Lawful repository Valid)
  (hpromise : ReleasePromise runtime repository pid m (.commit input))
  (hcond : CommitsWhatItRead repository m (.perform pid (.commit input)))
  (hfree : repository.findCommand m.state input.command = .ok none)
  (hwritten : Written repository m.state input next)

include hlaw hpromise hcond hfree hwritten

theorem current_of_promise :
    (input.expectedVersion = 0 ∧ repository.get m.state input.aggregate.key = none) ∨
      ∃ current, repository.get m.state input.aggregate.key = some current ∧
        Computed runtime current input.aggregate := by
  by_cases hzero : input.expectedVersion = 0
  · exact .inl ⟨hzero, hwritten.created hzero⟩
  · right
    obtain ⟨key, read, hread, hcomputed⟩ := hpromise.resolve_left hzero
    obtain ⟨current, hcurrent, hversion⟩ := hwritten.updated hzero
    have hseen : read.version = input.expectedVersion :=
      hcond hzero hfree ⟨current, hcurrent, hversion⟩ key read hread.past
    have hslot : repository.slot key = repository.slot input.aggregate.key := by
      rw [hcomputed.key]
      exact hread.keyed.symm
    obtain ⟨value, hvalue, hsince⟩ := hread.since
    rw [hlaw.slots hslot, hcurrent] at hvalue
    obtain rfl := Option.some.inj hvalue
    rcases hsince with rfl | hlater
    · exact ⟨_, hcurrent, hcomputed⟩
    · omega

theorem written_keeps : Evolves repository m.state next := by
  apply hwritten.evolves hlaw
  intro current hcurrent
  rcases current_of_promise hlaw hpromise hcond hfree hwritten with ⟨-, hnone⟩ |
    ⟨current', hcurrent', hcomputed⟩
  · rw [hnone] at hcurrent
    cases hcurrent
  · rw [hcurrent'] at hcurrent
    obtain rfl := Option.some.inj hcurrent
    have hversion := hcomputed.version
    omega

end

theorem exec_keeps (hlaw : Lawful repository Valid) {command : ServiceCommand}
    {outside : ReleaseOutside} {resp : Except ReleaseCenterError command.Answer}
    (hinv : Valid m.state ∧ Keyed repository m.state)
    (hpromise : ReleasePromise runtime repository pid m command)
    (hcond : CommitsWhatItRead repository m (.perform pid command))
    (hexec : execRelease repository outside command m.state = some (resp, next)) :
    (Valid next ∧ Keyed repository next) ∧ Evolves repository m.state next := by
  by_cases hchanged : next = m.state
  · rw [hchanged]
    exact ⟨hinv, .refl _⟩
  · rcases execRelease_cases hexec with hsame | ⟨input, answer, rfl, hcommit⟩
    · exact absurd hsame hchanged
    · obtain ⟨hfree, hwritten⟩ := written_of_commit hlaw hinv.1 hcommit hchanged
      exact ⟨⟨hlaw.valid hinv.1 hcommit, hwritten.keyed hlaw hinv.2⟩,
        written_keeps hlaw hpromise hcond hfree hwritten⟩

def releaseOutline (runtime : ReleaseRuntime) (hlaw : Lawful repository Valid) :
    Outline (releaseSystem runtime repository) where
  cond := CommitsWhatItRead repository
  inv := fun m => Valid m.state ∧ Keyed repository m.state
  evolves := Evolves repository
  promise := ReleasePromise runtime repository
  evolves_refl := .refl
  evolves_trans := .trans
  spawn := fun h _ _ => h
  perform := fun h hcond hpromise hexec => exec_keeps hlaw h hpromise hcond hexec
  finish := fun h _ => h
  crash := fun h _ => h
  change := fun {_ env _} _ _ _ => env.elim

variable {hlaw : Lawful repository Valid} {scope : ReleaseCenterScope}
  {canaryId releaseId : JsString} {α : Type} {expectedVersion : ExpectedVersion}
  {current : CanaryAggregate}

theorem HasRead.onward (h : HasRead repository pid m key read)
    (honward : (releaseOutline runtime hlaw).Onward m m') : HasRead repository pid m' key read := by
  refine ⟨honward.past h.past, h.keyed, ?_⟩
  obtain ⟨value, hvalue, hsince⟩ := h.since
  obtain ⟨value', hvalue', hlater⟩ := honward.evolves key value hvalue
  refine ⟨value', hvalue', ?_⟩
  rcases hlater with rfl | hlater
  · exact hsince
  · rcases hsince with rfl | hsince
    · exact .inr hlater
    · exact .inr (hsince.trans hlater)

theorem ensures_get : (releaseOutline runtime hlaw).ensures pid (ask (.get key))
    (fun found m' => ∀ read, found = some read → HasRead repository pid m' key read) m := by
  refine Outline.ensures_request fun m' hlater _ => ⟨trivial, ?_⟩
  intro outside found state hexec hinv hevolves read hread
  subst hread
  rcases ReleaseOutside.answering_cases (Option.some.inj hexec) with heq | ⟨⟨error, herror⟩, -⟩
  · obtain ⟨hfound, hstate⟩ := Prod.mk.inj heq
    have hget : repository.get m'.state key = some read := (Except.ok.inj hfound).symm
    refine ⟨List.mem_cons_self, hlater.inv.2 key read hget, read, ?_, .inl rfl⟩
    change repository.get state key = some read
    rw [hstate]
    exact hget
  · cases herror

theorem ensures_canary :
    (releaseOutline runtime hlaw).ensures pid (canary scope canaryId)
      (fun value m' => HasRead repository pid m' ⟨.canary, scope, canaryId⟩ (.canary value)) m := by
  unfold canary
  refine Outline.ensures_bind (Outline.ensures_mono ensures_get fun found m' hread => ?_)
  split
  · next value => exact Outline.ensures_pure (hread _ rfl)
  · exact Outline.ensures_throw

theorem ensures_production :
    (releaseOutline runtime hlaw).ensures pid (production scope releaseId)
      (fun value m' =>
        HasRead repository pid m' ⟨.production, scope, releaseId⟩ (.production value)) m := by
  unfold production
  refine Outline.ensures_bind (Outline.ensures_mono ensures_get fun found m' hread => ?_)
  split
  · next value => exact Outline.ensures_pure (hread _ rfl)
  · exact Outline.ensures_throw

theorem ensures_domain {result : Except ReleaseError α} :
    (releaseOutline runtime hlaw).ensures pid (domain result)
      (fun value m' => result = .ok value ∧ (releaseOutline runtime hlaw).Onward m m') m := by
  intro value hvalue
  cases result with
  | error error => cases hvalue
  | ok found =>
      obtain rfl := Except.ok.inj hvalue
      exact ⟨rfl, .refl m⟩

theorem ensures_timed {operate : ℤ → Except ReleaseError α} :
    (releaseOutline runtime hlaw).ensures pid (timed operate)
      (fun value m' => (∃ now, operate now = .ok value) ∧
        (releaseOutline runtime hlaw).Onward m m') m := by
  unfold timed
  refine Outline.ensures_onward_bind (fun _ _ => trivial) fun now m₁ h₁ => ?_
  exact Outline.ensures_mono ensures_domain fun value m₂ h₂ => ⟨⟨now, h₂.1⟩, h₁.trans h₂.2⟩

theorem ensures_replaying {compute : ReleaseCommandMetadata → ReleaseProgram Aggregate}
    (hcompute : ∀ metadata m', (releaseOutline runtime hlaw).ensures pid (compute metadata)
      (fun _ _ => True) m') :
    (releaseOutline runtime hlaw).ensures pid (replaying runtime call compute)
      (fun _ _ => True) m := by
  unfold replaying command
  refine Outline.ensures_bind ?_
  refine Outline.ensures_onward_bind (fun _ _ => trivial) fun auditId _ _ => ?_
  refine Outline.ensures_bind (Outline.ensures_mono ensures_domain fun _ _ _ => ?_)
  refine Outline.ensures_onward_bind (fun _ _ => trivial) fun eventId _ _ => ?_
  refine Outline.ensures_onward_bind (fun _ _ => trivial) fun occurredAt _ _ => ?_
  refine Outline.ensures_pure ?_
  refine Outline.ensures_onward_bind (fun _ _ => trivial) fun replay _ _ => ?_
  split
  · exact Outline.ensures_pure trivial
  · exact hcompute _ _

theorem ensures_updateCanary {operate : CanaryAggregate → ReleaseProgram CanaryAggregate}
    {addition : CanaryAggregate → Addition}
    (hoperate : ∀ current m', (releaseOutline runtime hlaw).ensures pid (operate current) (fun next
      m'' => Computed runtime (.canary current) (.canary next) ∧ (releaseOutline runtime
      hlaw).Onward m' m'') m') :
    (releaseOutline runtime hlaw).ensures pid
      (updateCanary runtime call canaryId expectedVersion operate addition) (fun _ _ => True) m := by
  unfold updateCanary
  refine Outline.ensures_onward_bind (fun _ _ => trivial) fun _ _ _ => ?_
  refine ensures_replaying fun metadata m₁ => ?_
  refine Outline.ensures_bind (Outline.ensures_mono ensures_canary fun current m₂ hread => ?_)
  refine Outline.ensures_bind (Outline.ensures_mono (hoperate current m₂) fun next m₃ hnext => ?_)
  refine Outline.ensures_request fun m₄ hlater _ => ⟨?_, fun _ _ _ _ _ _ => trivial⟩
  exact .inr ⟨_, _, hread.onward (hnext.2.trans hlater.onward), hnext.1⟩

theorem ensures_updateRelease {releaseRole : JsString}
    {operate : ProductionReleaseAggregate → JsString → ℤ → Except ReleaseError
      ProductionReleaseAggregate} {addition : ProductionReleaseAggregate → Addition}
    (hoperate : ∀ current auditId now next, operate current auditId now = .ok next → Computed
      runtime (.production current) (.production next)) :
    (releaseOutline runtime hlaw).ensures pid
      (updateRelease runtime call releaseId expectedVersion releaseRole operate addition)
      (fun _ _ => True) m := by
  unfold updateRelease
  refine Outline.ensures_onward_bind (fun _ _ => trivial) fun _ _ _ => ?_
  refine ensures_replaying fun metadata m₁ => ?_
  refine Outline.ensures_bind (Outline.ensures_mono ensures_production fun current m₂ hread => ?_)
  refine Outline.ensures_bind (Outline.ensures_mono ensures_timed fun next m₃ hnext => ?_)
  obtain ⟨⟨now, hnow⟩, honward⟩ := hnext
  refine Outline.ensures_request fun m₄ hlater _ => ⟨?_, fun _ _ _ _ _ _ => trivial⟩
  exact .inr ⟨_, _, hread.onward (honward.trans hlater.onward), hoperate _ _ _ _ hnow⟩

theorem ensures_timed_canary {operate : ℤ → Except ReleaseError CanaryAggregate}
    (operation : CanaryOperation)
    (happly : ∀ now, operate now = operation.apply runtime.parse current now) :
    (releaseOutline runtime hlaw).ensures pid (timed operate)
      (fun next m' => Computed runtime (.canary current) (.canary next) ∧
        (releaseOutline runtime hlaw).Onward m m') m := by
  refine Outline.ensures_mono ensures_timed fun next m' hnext => ?_
  obtain ⟨⟨now, hnow⟩, honward⟩ := hnext
  exact ⟨.canary operation now current next ((happly now).symm.trans hnow), honward⟩

theorem ensures_finalizeCurrent :
    (releaseOutline runtime hlaw).ensures pid (finalizeCurrent runtime call current)
      (fun next m' => Computed runtime (.canary current) (.canary next) ∧
        (releaseOutline runtime hlaw).Onward m m') m := by
  unfold finalizeCurrent
  refine Outline.ensures_bind (Outline.ensures_mono ensures_domain fun observed m₁ h₁ => ?_)
  refine Outline.ensures_onward_bind (fun _ _ => trivial) fun found m₂ h₂ => ?_
  refine Outline.ensures_bind (Outline.ensures_mono ensures_domain fun verification m₃ h₃ => ?_)
  refine Outline.ensures_mono (ensures_timed_canary (.finalize verification) fun _ => rfl)
    fun next m₄ h₄ => ?_
  exact ⟨h₄.1, h₁.2.trans (h₂.trans (h₃.2.trans h₄.2))⟩

theorem releaseOutline_entries : (releaseOutline runtime hlaw).Entries := by
  intro pid call m _ _
  apply Outline.wp_of_ensures
  change (releaseOutline runtime hlaw).ensures pid (call.program runtime) (fun _ _ => True) m
  unfold ReleaseCall.program
  split
  · next draft =>
    unfold createCanaryMethod
    refine Outline.ensures_onward_bind (fun _ _ => trivial) fun _ _ _ => ?_
    refine Outline.ensures_onward_bind (fun _ _ => trivial) fun now _ _ => ?_
    refine ensures_replaying fun metadata _ => ?_
    refine Outline.ensures_onward_bind (fun _ _ => trivial) fun canaryId _ _ => ?_
    refine Outline.ensures_bind (Outline.ensures_mono ensures_domain fun aggregate _ _ => ?_)
    exact Outline.ensures_request fun _ _ _ => ⟨.inl rfl, fun _ _ _ _ _ _ => trivial⟩
  · exact ensures_updateCanary fun current _ => ensures_timed_canary (.approve _ _) fun _ => rfl
  · exact ensures_updateCanary fun current _ => ensures_timed_canary (.restart _ _) fun _ => rfl
  · exact ensures_updateCanary fun current _ =>
      ensures_timed_canary (.recordWindow _ _) fun _ => rfl
  · exact ensures_updateCanary fun current _ => ensures_timed_canary (.recordEvent _ _) fun _ => rfl
  · exact ensures_updateCanary fun current _ =>
      ensures_timed_canary (.resolveAlert _ _) fun _ => rfl
  · exact ensures_updateCanary fun current _ => ensures_finalizeCurrent
  · next canaryId =>
    unfold createProductionReleaseMethod
    refine Outline.ensures_onward_bind (fun _ _ => trivial) fun _ _ _ => ?_
    refine Outline.ensures_bind (Outline.ensures_mono ensures_canary fun value _ _ => ?_)
    refine ensures_replaying fun metadata _ => ?_
    refine Outline.ensures_onward_bind (fun _ _ => trivial) fun releaseId _ _ => ?_
    refine Outline.ensures_bind (Outline.ensures_mono ensures_timed fun aggregate _ _ => ?_)
    exact Outline.ensures_request fun _ _ _ => ⟨.inl rfl, fun _ _ _ _ _ _ => trivial⟩
  · next gateId ownerRole refs _ =>
    exact ensures_updateRelease fun current _ now next h =>
      .production (.recordGate call.identity.actorId gateId ownerRole refs) now current next h
  · exact ensures_updateRelease fun current _ now next h =>
      .production (.evaluate call.identity.actorId) now current next h
  · next role _ =>
    exact ensures_updateRelease fun current auditId now next h =>
      .production (.sign (signInput call role auditId)) now current next h

end Promises

section Runs

variable {repository : ReleaseCenterRepository Store} {Valid : Store → Prop} {start : Store}
  {c c' d d' : ReleaseConfig Store} {pid' : ℕ} {input' : ReleaseCommit}

theorem written_of_commits (hlaw : Lawful repository Valid) (hvalid : Valid c.now.state)
    {cond : ReleaseCondition Store} (hstep : Step (releaseSystem runtime repository) cond c c')
    (hcommits : Commits pid input c c') : cond c.now (.perform pid (.commit input)) ∧
      repository.findCommand c.now.state input.command = .ok none ∧
      Written repository c.now.state input c'.now.state := by
  obtain ⟨hchanged, resp, hpast⟩ := hcommits
  obtain ⟨hcond, -, outside, hexec⟩ := hstep.exec_of_performed hpast
  change execRelease repository outside (.commit input) c.now.state = _ at hexec
  rcases execRelease_cases hexec with hsame | ⟨input', answer, hinput, hcommit⟩
  · exact absurd hsame hchanged
  · obtain rfl := ServiceCommand.commit.inj hinput
    exact ⟨hcond, written_of_commit hlaw hvalid hcommit hchanged⟩

theorem sound_of_release (hlaw : Lawful repository Valid) (hvalid : Valid start)
    (hempty : ∀ key, repository.get start key = none)
    (hrun : Run (releaseSystem runtime repository) (CommitsWhatItRead repository) start c) :
    (releaseOutline runtime hlaw).Sound c := by
  have hkeyed : Keyed repository start := by
    intro key value hvalue
    rw [hempty key] at hvalue
    cases hvalue
  exact Outline.sound_of_run releaseOutline_entries ⟨hvalid, hkeyed⟩ hrun

/-- In every run in which an update is committed only over the version that it has read, commands
are linearised. -/
theorem linearised_of_lawful (runtime : ReleaseRuntime) (hlaw : Lawful repository Valid)
    (hvalid : Valid start) (hempty : ∀ key, repository.get start key = none) :
    LinearisedCommands runtime repository start (CommitsWhatItRead repository) := by
  have hcomputed : ∀ {c c' : ReleaseConfig Store} {pid input},
      Run (releaseSystem runtime repository) (CommitsWhatItRead repository) start c →
      Step (releaseSystem runtime repository) (CommitsWhatItRead repository) c c' →
      Commits pid input c c' → Written repository c.now.state input c'.now.state ∧
        ((input.expectedVersion = 0 ∧ repository.get c.now.state input.aggregate.key = none) ∨
          ∃ current, repository.get c.now.state input.aggregate.key = some current ∧
            Computed runtime current input.aggregate) := by
    intro c c' pid input hrun hstep hcommits
    have hsound := sound_of_release hlaw hvalid hempty hrun
    obtain ⟨hcond, hfree, hwritten⟩ := written_of_commits hlaw hsound.inv.1 hstep hcommits
    obtain ⟨-, resp, hpast⟩ := hcommits
    have hpromise := Outline.promise_of_performed hsound hstep hpast
    exact ⟨hwritten, current_of_promise hlaw hpromise hcond hfree hwritten⟩
  constructor
  · intro c c' key hrun hstep
    have hsound := sound_of_release hlaw hvalid hempty hrun
    by_cases hchanged : c'.now.state = c.now.state
    · rw [hchanged]
      exact .inl rfl
    · rcases Outline.step_cases hsound hstep with ⟨pid, command, outside, resp, -, hexec, hpast⟩ |
        ⟨env, -⟩ | ⟨hsame, -⟩
      · rcases execRelease_cases hexec with hsame | ⟨input, answer, rfl, hcommit⟩
        · exact absurd hsame hchanged
        · obtain ⟨-, hwritten⟩ := written_of_commit hlaw hsound.inv.1 hcommit hchanged
          rcases hwritten.get_cases hlaw key with ⟨-, hsame⟩ | ⟨hslot, stored, hget, hversion, -⟩
          · exact .inl hsame
          · exact .inr ⟨pid, input, stored, ⟨hchanged, resp, hpast⟩, hslot.symm, hget, hversion⟩
      · exact env.elim
      · exact absurd hsame hchanged
  · intro c c' pid input hrun hstep hcommits
    exact (hcomputed hrun hstep hcommits).2
  · intro c c' d d' pid pid' input input' hrun hstep hcommits hsteps hstep' hcommits' hslot
    have hrun' := hrun.tail hstep
    obtain ⟨stored, hget, hversion, -⟩ := (hcomputed hrun hstep hcommits).1.stored
    have hevolves := (Outline.steps_sound releaseOutline_entries
      (sound_of_release hlaw hvalid hempty hrun') hsteps).2
    obtain ⟨value, hvalue, hlater⟩ := hevolves _ _ hget
    rw [hlaw.slots hslot] at hvalue
    have hle : stored.version ≤ value.version := by
      rcases hlater with rfl | hlater
      · exact le_rfl
      · exact hlater.le
    rcases (hcomputed (hrun'.trans hsteps) hstep' hcommits').2 with ⟨-, hnone⟩ |
      ⟨current, hcurrent, hnext⟩
    · rw [hnone] at hvalue
      cases hvalue
    · rw [hcurrent] at hvalue
      obtain rfl := Option.some.inj hvalue
      have hsucc := hnext.version
      omega

theorem linearisedCommands_of_commitsWhatItRead (runtime : ReleaseRuntime)
    (collate : JsString → JsString → Bool) :
    LinearisedCommands runtime memoryRepository .empty (CommitsWhatItRead memoryRepository) ∧
      LinearisedCommands runtime (postgresRepository collate) .empty
        (CommitsWhatItRead (postgresRepository collate)) := by
  constructor
  · exact linearised_of_lawful runtime lawful_memoryRepository trivial fun _ => rfl
  · refine linearised_of_lawful runtime lawful_postgresRepository trivial fun key => ?_
    obtain ⟨kind, scope, id⟩ := key
    cases kind <;> rfl

end Runs

/-! ## A window over an alert -/

/-- The fingerprints of the calls below differ where their keys or their request ids do. -/
def hourlyRuntime : ReleaseRuntime where
  parse := parseHours
  hashing := hourlyHashing
  hash := fun call => call.identity.idempotencyKey ++ js ":" ++ call.identity.requestId

def hourlyCall (key : String) (body : ReleaseBody) : ReleaseCall where
  scope := ⟨js "organization-01", js "project-01"⟩
  identity :=
    { actorId := js "oidc_owner"
      requestId := js "request-01"
      idempotencyKey := js key
      reason := js "bounded hourly observation" }
  body := body

def hourlyDraft : CanaryDraft where
  goalId := canaryDraft.goalId
  candidateCommit := canaryDraft.candidateCommit
  goalContractVersion := canaryDraft.goalContractVersion
  allowedAreas := canaryDraft.allowedAreas
  excludedAreas := canaryDraft.excludedAreas
  successConditions := canaryDraft.successConditions
  stopConditions := canaryDraft.stopConditions
  rollbackRunbook := canaryDraft.rollbackRunbook
  stopRunbook := canaryDraft.stopRunbook

def criticalAlert : NewCanaryEvent where
  id := js "alert-01"
  kind := js "alert"
  observedAt := toISOString 0
  ownerId := js "oidc_owner"
  evidenceRefs := [js "alert:01"]
  severity := js "P0"
  resolved := false
  workaround := none
  status := []
  reason := []

def answered (id : String) : ReleaseOutside where
  failure := none
  id := js id
  clock := hourMs
  verification := none

def approvedAtStart : ReleaseOutside :=
  { answered "event-02" with clock := 0 }

/-- A canary is created and approved; a window is computed from it, for a client that expects the
version after it; an alert stops the canary. -/
def overtaken : List (Action ReleaseCall ReleaseOutside Empty) :=
  [.spawn (hourlyCall "create-01" (.createCanary hourlyDraft))] ++
    List.replicate 8 (.perform 0 (answered "canary-01")) ++
    [.spawn (hourlyCall "approve-01" (.approveCanary (js "canary-01") ⟨1, by decide⟩))] ++
    List.replicate 8 (.perform 1 approvedAtStart) ++
    [.spawn (hourlyCall "window-01"
      (.recordCanaryWindow (js "canary-01") ⟨3, by decide⟩ (hourlyWindow 0)))] ++
    List.replicate 7 (.perform 2 (answered "event-03")) ++
    [.spawn (hourlyCall "alert-01"
      (.recordCanaryEvent (js "canary-01") ⟨2, by decide⟩ criticalAlert))] ++
    List.replicate 8 (.perform 3 (answered "event-04"))

def nextCommit (pid : ℕ) (c : ReleaseConfig Store) : Option ReleaseCommit :=
  match attempted c (.perform pid (answered "event-03") : Action ReleaseCall ReleaseOutside Empty)
    with
  | some (.perform _ (.commit input)) => some input
  | _ => none

theorem attempted_of_nextCommit {pid : ℕ} {c : ReleaseConfig Store} {input : ReleaseCommit}
    (h : nextCommit pid c = some input) :
    attempted c (.perform pid (answered "event-03") : Action ReleaseCall ReleaseOutside Empty) =
      some (.perform pid (.commit input)) := by
  unfold nextCommit at h
  split at h
  · next pid' input' hattempt =>
    obtain rfl := Option.some.inj h
    rw [hattempt]
    simp only [attempted] at hattempt
    split at hattempt
    · obtain ⟨hpid, -⟩ := Attempt.perform.inj (Option.some.inj hattempt)
      rw [hpid]
    · cases hattempt
  · cases h

def hourlyRepository : ReleaseCenterRepository PostgresStore :=
  postgresRepository fun text text' => decide (text ≤ text')

def canaryState (store : PostgresStore) : Option (ℕ × CanaryStatus) :=
  match hourlyRepository.get store (Aggregate.canary draftCanary).key with
  | some (.canary value) => some (value.version, value.status)
  | _ => none

/-- What is seen of the second commit: its versions, the canary under its key before it, and after
it. -/
structure CommitView where
  versions : Option (ℕ × ℕ × AggregateKey)
  before : Option (ℕ × CanaryStatus)
  after : Option (Option (ℕ × CanaryStatus))
  deriving DecidableEq

def commitView (c : ReleaseConfig PostgresStore) : CommitView where
  versions := (nextCommit 2 c).map fun input =>
    (input.expectedVersion, input.aggregate.version, input.aggregate.key)
  before := canaryState c.now.state
  after := (step (releaseSystem hourlyRuntime hourlyRepository) c
    (.perform 2 (answered "event-03"))).map fun d => canaryState d.now.state

theorem exists_of_canaryState {store : PostgresStore} {version : ℕ} {status : CanaryStatus}
    (h : canaryState store = some (version, status)) : ∃ value : CanaryAggregate,
      hourlyRepository.get store (Aggregate.canary draftCanary).key = some (.canary value) ∧
        value.version = version := by
  unfold canaryState at h
  split at h
  · next value hget =>
    obtain ⟨hversion, -⟩ := Prod.mk.inj (Option.some.inj h)
    exact ⟨value, hget, hversion⟩
  · cases h

/-- A canary that an alert has stopped in version 3 is observing again, in version 3. -/
theorem not_linearisedCommands :
    ¬ LinearisedCommands hourlyRuntime hourlyRepository .empty fun _ _ => True := by
  intro hclaim
  have hexec : (execute (releaseSystem hourlyRuntime hourlyRepository)
      (Config.initial .empty) overtaken).map commitView = some
        { versions := some (3, 3, (Aggregate.canary draftCanary).key)
          before := some (3, .stopped)
          after := some (some (3, .observing)) } := by
    decide +kernel
  obtain ⟨c, hc, hview⟩ := Option.map_eq_some_iff.mp hexec
  obtain ⟨hversions, hbefore, hafter⟩ := CommitView.mk.inj hview
  obtain ⟨input, hinput, hfields⟩ := Option.map_eq_some_iff.mp hversions
  obtain ⟨hexpected, hfields⟩ := Prod.mk.inj hfields
  obtain ⟨hversion, hkey⟩ := Prod.mk.inj hfields
  obtain ⟨d, hstep, hobserving⟩ := Option.map_eq_some_iff.mp hafter
  obtain ⟨resp, hpast⟩ := past_of_step_perform (attempted_of_nextCommit hinput) hstep
  have hchanged : d.now.state ≠ c.now.state := by
    intro hsame
    rw [hsame, hbefore] at hobserving
    cases hobserving
  obtain ⟨value, hvalue, hthird⟩ := exists_of_canaryState hbefore
  rcases hclaim.computed (reached_of_execute hc) (step_sound hstep) ⟨hchanged, resp, hpast⟩ with
    ⟨hzero, -⟩ | ⟨current, hcurrent, hcomputed⟩
  · omega
  · rw [hkey, hvalue] at hcurrent
    obtain rfl := Option.some.inj hcurrent
    have hnext := hcomputed.version
    change input.aggregate.version = value.version + 1 at hnext
    omega

end DevHarness.ReleaseCenter
