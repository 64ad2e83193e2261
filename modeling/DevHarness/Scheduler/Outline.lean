import Mathlib.Data.Option.Basic
import DevHarness.Interleave.Outline
import DevHarness.Scheduler.Supervisor

/-!
# The outline of the scheduler

What holds at every moment of every run of the supervisors.  The history of a
tick tells where it stands with a job: whether it has listed it for
reconciliation, claimed it, obtained its lease, issued its start, or seen the
start call return.  A job is held by one tick at a time, the state of its row
is one in which a holder may find it, and a job that waits for a claim is
neither flagged nor leased.
-/

namespace DevHarness.Scheduler

open JsText Interleave

/-! ## Where a tick stands -/

/-- Where a tick that still runs stands with a job. -/
inductive Standing
  | none
  | listed
  | claimed
  | leased
  | issued (externalRunId : JsString)
  | returned (externalRunId : JsString)
  deriving DecidableEq

/-- The tick has taken the job and has neither given it up nor recorded how its
start went. -/
def Standing.holds : Standing → Bool
  | .none | .listed => false
  | _ => true

def Standing.started : Standing → Standing
  | .issued externalRunId => .returned externalRunId
  | standing => standing

def Standing.after (jobId : JsString) (standing : Standing) : SchedulerEvent → Standing
  | .performed _ (.listForReconciliation _) (.ok jobs) =>
    if jobs.any fun job => job.id = jobId then .listed else standing
  | .performed _ (.claimNext _ _) (.ok (some job)) =>
    if job.id = jobId then .claimed else standing
  | .performed _ (.acquireLease _) (.ok (some _)) =>
    if standing = .claimed then .leased else standing
  | .performed _ (.releaseClaim id _ _) _ => if id = jobId then .none else standing
  | .performed _ (.markExternalStartIssued input) (.ok _) =>
    if input.jobId = jobId then .issued input.externalRunId else standing
  | .performed _ (.markExternalStartIssued input) (.error _) =>
    if input.jobId = jobId then .none else standing
  | .performed _ (.launch _) (.error _) => standing.started
  | .performed _ (.startReturn _) _ => standing.started
  | .performed _ (.markStarted id _ _) _ => if id = jobId then .none else standing
  | .performed _ (.handleStartFailure input) _ =>
    if input.jobId = jobId then .none else standing
  | .finished _ _ => .none
  | .crashed _ => .none
  | _ => standing

/-- Where tick `pid` stands with the job. -/
def standing (pid : ℕ) (jobId : JsString) (past : List SchedulerEvent) : Standing :=
  (eventsOf pid past).foldr (fun e standing => standing.after jobId e) .none

variable {pid : ℕ} {jobId : JsString} {e : SchedulerEvent} {s t : SchedulerStore} {row : JobRow}

section Standing

variable {past past' : List SchedulerEvent}

theorem standing_of_eventsOf (hown : eventsOf pid past' = eventsOf pid past) :
    standing pid jobId past' = standing pid jobId past := by
  rw [standing, hown, standing]

theorem standing_cons_self (hpid : e.pid? = some pid) :
    standing pid jobId (e :: past) = (standing pid jobId past).after jobId e := by
  rw [standing, eventsOf_cons_self hpid, List.foldr_cons, standing]

theorem standing_cons_of_ne (hpid : e.pid? ≠ some pid) :
    standing pid jobId (e :: past) = standing pid jobId past := by
  rw [standing, eventsOf_cons_of_ne hpid, standing]

/-- `new` follows `old` without taking the job anew. -/
def Standing.Fades (old new : Standing) : Prop :=
  new = old ∨ new.holds = false ∨ (old = .claimed ∧ new = .leased) ∨ new = old.started

/-- The events by which a tick takes a job: the claim, and the start that it
issues. -/
def Takes (jobId : JsString) : SchedulerEvent → Prop
  | .performed _ (.claimNext _ _) (.ok (some job)) => job.id = jobId
  | .performed _ (.markExternalStartIssued input) (.ok _) => input.jobId = jobId
  | _ => False

theorem Standing.fades_after {old : Standing} (htakes : ¬ Takes jobId e) :
    old.Fades (old.after jobId e) := by
  unfold Standing.after
  split
  · split
    · exact .inr (.inl rfl)
    · exact .inl rfl
  · next job =>
    have hne : ¬ job.id = jobId := htakes
    rw [if_neg hne]
    exact .inl rfl
  · split
    · next h => exact .inr (.inr (.inl ⟨h, rfl⟩))
    · exact .inl rfl
  · split
    · exact .inr (.inl rfl)
    · exact .inl rfl
  · next input _ =>
    have hne : ¬ input.jobId = jobId := htakes
    rw [if_neg hne]
    exact .inl rfl
  · split
    · exact .inr (.inl rfl)
    · exact .inl rfl
  · exact .inr (.inr (.inr rfl))
  · exact .inr (.inr (.inr rfl))
  · split
    · exact .inr (.inl rfl)
    · exact .inl rfl
  · split
    · exact .inr (.inl rfl)
    · exact .inl rfl
  · exact .inr (.inl rfl)
  · exact .inr (.inl rfl)
  · exact .inl rfl

theorem standing_fades (htakes : ¬ Takes jobId e) :
    (standing pid jobId past).Fades (standing pid jobId (e :: past)) := by
  by_cases hpid : e.pid? = some pid
  · rw [standing_cons_self hpid]
    exact Standing.fades_after htakes
  · rw [standing_cons_of_ne hpid]
    exact .inl rfl

theorem Standing.Fades.holds {old new : Standing} (h : old.Fades new) (hnew : new.holds = true) :
    old.holds = true := by
  rcases h with rfl | hnone | ⟨rfl, rfl⟩ | rfl
  · exact hnew
  · rw [hnone] at hnew
    cases hnew
  · rfl
  · cases old <;> exact hnew

end Standing

/-! ## The invariant -/

def SchedulerJobState.pastStart : SchedulerJobState → Bool
  | .pending | .claimed | .starting | .retryWait => false
  | _ => true

def SchedulerJobState.waiting (state : SchedulerJobState) : Prop :=
  state = .pending ∨ state = .retryWait

/-- Not flagged for reconciliation, and without an active lease. -/
structure Untouched (store : SchedulerStore) (row : JobRow) : Prop where
  unflagged : row.reconciliationRequired = false
  unleased : ¬ store.ActiveLease row.runId

/-- The row is one in which a tick with this standing may find its job. -/
def Standing.Allows (store : SchedulerStore) (row : JobRow) : Standing → Prop
  | .none | .listed => True
  | .claimed => ¬ row.state.waiting ∧ row.state ≠ .starting ∧
      (row.state = .claimed → Untouched store row)
  | .leased => ¬ row.state.waiting ∧ row.state ≠ .starting
  | .issued externalRunId | .returned externalRunId =>
      ¬ row.state.waiting ∧ row.state ≠ .claimed ∧ row.externalRunId = some externalRunId

structure JobInv (jobId : JsString) (m : SchedulerMoment) : Prop where
  /-- One tick at a time holds the job. -/
  holder_unique : ∀ {p q}, (standing p jobId m.past).holds = true →
    (standing q jobId m.past).holds = true → p = q
  holder : ∀ {p}, (standing p jobId m.past).holds = true →
    ∃ row, m.state.jobs.get jobId = some row ∧ (standing p jobId m.past).Allows m.state row
  waiting : ∀ {row}, m.state.jobs.get jobId = some row → row.state.waiting →
    Untouched m.state row

def RunsUnique (store : SchedulerStore) : Prop :=
  ∀ {id id' row row'}, store.jobs.get id = some row → store.jobs.get id' = some row' →
    row.runId = row'.runId → id = id'

structure SchedulerInv (m : SchedulerMoment) : Prop where
  runs : RunsUnique m.state
  job : ∀ jobId, JobInv jobId m

/-- Jobs stay, with their scope. -/
def JobsEvolve (s t : SchedulerStore) : Prop :=
  ∀ {id row}, s.jobs.get id = some row →
    ∃ row', t.jobs.get id = some row' ∧ row'.toJobScope = row.toJobScope

/-- What a tick makes sure of before it performs a command. -/
def SchedulerPromise (pid : ℕ) (m : SchedulerMoment) : SchedulerCommand → Prop
  | .releaseClaim jobId _ _ => standing pid jobId m.past = .claimed
  | .acquireLease input => ∃ jobId row, standing pid jobId m.past = .claimed ∧
      m.state.jobs.get jobId = some row ∧ row.runId = input.runId
  | .markExternalStartIssued input => standing pid input.jobId m.past = .leased
  | .launch request => ∃ jobId, standing pid jobId m.past = .issued request.externalRunId
  | .startReturn externalRunId => ∃ jobId, standing pid jobId m.past = .issued externalRunId
  | .markStarted jobId _ _ => ∃ externalRunId,
      standing pid jobId m.past = .returned externalRunId
  | .handleStartFailure input => ∃ externalRunId,
      standing pid input.jobId m.past = .returned externalRunId
  | .reconcileExternal jobId _ _ => standing pid jobId m.past = .listed
  | .markStopped jobId _ => standing pid jobId m.past = .listed
  | .markTimedOut jobId _ => standing pid jobId m.past = .listed
  | _ => True

/-! ## Rows that stay -/

/-- A row that is kept, as far as a holder can tell: it stays in its state and
untouched, or the start of its external run is now behind it. -/
structure RowKeeps (s t : SchedulerStore) (row row' : JobRow) : Prop where
  externalRunId : row'.externalRunId = row.externalRunId
  state : (row'.state = row.state ∧ (Untouched s row → Untouched t row')) ∨
    row'.state.pastStart = true

section Rows

variable {row' : JobRow} {old new : Standing} {f : JobRow → JobRow} {other : JsString}

theorem Untouched.shrink (h : Untouched s row) (hshrink : s.LeasesShrink t) :
    Untouched t row :=
  ⟨h.unflagged, fun hactive => h.unleased (hshrink _ hactive)⟩

theorem RowKeeps.of_shrink (hshrink : s.LeasesShrink t) : RowKeeps s t row row :=
  ⟨rfl, .inl ⟨rfl, fun h => h.shrink hshrink⟩⟩

theorem not_waiting_of_pastStart {state : SchedulerJobState} (h : state.pastStart = true) :
    ¬ state.waiting ∧ state ≠ .starting ∧ state ≠ .claimed := by
  cases state <;> simp_all [SchedulerJobState.waiting, SchedulerJobState.pastStart]

theorem Standing.Allows.keep (hallows : old.Allows s row) (hrow : RowKeeps s t row row')
    (hfades : old.Fades new) : new.Allows t row' := by
  have hsame : old.Allows t row' := by
    rcases hrow.state with ⟨hstate, htouch⟩ | hpast
    · cases old with
      | claimed =>
          obtain ⟨hwaiting, hstarting, huntouched⟩ := hallows
          rw [← hstate] at hwaiting hstarting huntouched
          exact ⟨hwaiting, hstarting, fun h => htouch (huntouched h)⟩
      | leased =>
          obtain ⟨hwaiting, hstarting⟩ := hallows
          rw [← hstate] at hwaiting hstarting
          exact ⟨hwaiting, hstarting⟩
      | issued x | returned x =>
          obtain ⟨hwaiting, hclaimed, hrun⟩ := hallows
          rw [← hstate] at hwaiting hclaimed
          exact ⟨hwaiting, hclaimed, hrow.externalRunId.trans hrun⟩
      | _ => trivial
    · obtain ⟨hwaiting, hstarting, hclaimed⟩ := not_waiting_of_pastStart hpast
      cases old with
      | claimed => exact ⟨hwaiting, hstarting, fun h => absurd h hclaimed⟩
      | leased => exact ⟨hwaiting, hstarting⟩
      | issued x | returned x =>
          exact ⟨hwaiting, hclaimed, hrow.externalRunId.trans hallows.2.2⟩
      | _ => trivial
  rcases hfades with rfl | hnone | ⟨rfl, rfl⟩ | rfl
  · exact hsame
  · cases new <;> trivial
  · exact ⟨hsame.1, hsame.2.1⟩
  · cases old <;> exact hsame

/-- Job `jobId` is kept, or is in neither store. -/
def Keeps (jobId : JsString) (s t : SchedulerStore) : Prop :=
  Option.Rel (RowKeeps s t) (s.jobs.get jobId) (t.jobs.get jobId)

theorem Keeps.of_eq (hget : t.jobs.get jobId = s.jobs.get jobId) (hshrink : s.LeasesShrink t) :
    Keeps jobId s t := by
  rw [Keeps, hget]
  cases s.jobs.get jobId with
  | none => exact .none
  | some row => exact .some (.of_shrink hshrink)

theorem Keeps.refl (jobId : JsString) (s : SchedulerStore) : Keeps jobId s s :=
  .of_eq rfl fun _ h => h

/-- A job that is updated where `p` holds is kept when each such update keeps
its row. -/
theorem Keeps.of_map (hget : t.jobs.get jobId = (s.jobs.get jobId).map f)
    (hrow : ∀ row, s.jobs.get jobId = some row → RowKeeps s t row (f row)) : Keeps jobId s t := by
  rw [Keeps, hget]
  cases hold : s.jobs.get jobId with
  | none => exact .none
  | some row => exact .some (hrow row hold)

theorem Keeps.of_updateJob {hscope : ∀ row, (f row).toJobScope = row.toJobScope}
    (hne : jobId ≠ other) (hjobs : t.jobs = (s.updateJob other f hscope).jobs)
    (hshrink : s.LeasesShrink t) : Keeps jobId s t := by
  refine .of_eq ?_ hshrink
  rw [hjobs, SchedulerStore.get_updateJob_of_ne hne]

theorem Keeps.of_pastStart {hscope : ∀ row, (f row).toJobScope = row.toJobScope}
    (hjobs : t.jobs = (s.updateJob other f hscope).jobs) (hshrink : s.LeasesShrink t)
    (hrun : ∀ row, (f row).externalRunId = row.externalRunId)
    (hstate : ∀ row, (f row).state.pastStart = true) : Keeps jobId s t := by
  by_cases hid : jobId = other
  · subst hid
    refine .of_map (f := f) ?_ fun row _ => ⟨hrun row, .inr (hstate row)⟩
    rw [hjobs]
    cases hold : s.jobs.get jobId with
    | none =>
        rw [SchedulerStore.updateJob, SchedulerStore.get_updateJobs, hold]
        rfl
    | some row => rw [SchedulerStore.get_updateJob_self hold, Option.map_some]
  · exact .of_updateJob hid hjobs hshrink

end Rows

section Steps

variable {m : SchedulerMoment} {store : SchedulerStore} {now : ℕ}
  {resp : Except Thrown SchedulerJob} {id : JsString} {command : SchedulerCommand}
  {outside : Outside} {scope : JobScope}

/-- An event by which nobody takes the job keeps its invariant, as long as the
row is kept. -/
theorem JobInv.keep (hinv : JobInv jobId m) (hrow : Keeps jobId m.state store)
    (htakes : ¬ Takes jobId e) : JobInv jobId (m.push e store) := by
  have hfades : ∀ p, (standing p jobId m.past).Fades (standing p jobId (e :: m.past)) :=
    fun p => standing_fades htakes
  constructor
  · intro p q hp hq
    exact hinv.holder_unique ((hfades p).holds hp) ((hfades q).holds hq)
  · intro p hp
    obtain ⟨row, hget, hallows⟩ := hinv.holder ((hfades p).holds hp)
    rw [Keeps, hget] at hrow
    cases hnew : store.jobs.get jobId with
    | none =>
        rw [hnew] at hrow
        cases hrow
    | some row' =>
        rw [hnew] at hrow
        cases hrow with
        | some hkeeps => exact ⟨row', hnew, hallows.keep hkeeps (hfades p)⟩
  · intro row' hnew hwaiting
    rw [Moment.push_state] at hnew
    rw [Keeps, hnew] at hrow
    cases hold : m.state.jobs.get jobId with
    | none =>
        rw [hold] at hrow
        cases hrow
    | some row =>
        rw [hold] at hrow
        cases hrow with
        | some hkeeps =>
            rcases hkeeps.state with ⟨hstate, htouch⟩ | hpast
            · exact htouch (hinv.waiting hold (hstate ▸ hwaiting))
            · exact absurd hwaiting (not_waiting_of_pastStart hpast).1

theorem JobInv.own (hpid : e.pid? = some pid)
    (hothers : ∀ p, p ≠ pid → (standing p jobId m.past).holds = false)
    (hget : store.jobs.get jobId = some row)
    (hallows : (standing pid jobId (e :: m.past)).Allows store row)
    (hwaiting : row.state.waiting → Untouched store row) : JobInv jobId (m.push e store) := by
  have hself : ∀ {p}, (standing p jobId (e :: m.past)).holds = true → p = pid := by
    intro p hp
    by_contra hne
    have hother : e.pid? ≠ some p := by
      intro h
      exact hne (Option.some.inj (h.symm.trans hpid))
    rw [standing_cons_of_ne hother, hothers p hne] at hp
    cases hp
  constructor
  · intro p q hp hq
    exact (hself hp).trans (hself hq).symm
  · intro p hp
    obtain rfl := hself hp
    exact ⟨row, hget, hallows⟩
  · intro row' hnew
    obtain rfl : row = row' := Option.some.inj (hget.symm.trans hnew)
    exact hwaiting

theorem JobInv.others (hinv : JobInv jobId m) (hpid : (standing pid jobId m.past).holds = true)
    (p : ℕ) (hne : p ≠ pid) : (standing p jobId m.past).holds = false := by
  rw [← Bool.not_eq_true]
  exact fun hp => hne (hinv.holder_unique hp hpid)

theorem JobInv.not_holds (hinv : JobInv jobId m) (hget : m.state.jobs.get jobId = some row)
    (hwaiting : row.state.waiting) (p : ℕ) : (standing p jobId m.past).holds = false := by
  rw [← Bool.not_eq_true]
  intro hp
  obtain ⟨row', hget', hallows⟩ := hinv.holder hp
  obtain rfl : row = row' := Option.some.inj (hget.symm.trans hget')
  cases hstanding : standing p jobId m.past with
  | none | listed =>
      rw [hstanding] at hp
      cases hp
  | _ =>
      rw [hstanding] at hallows
      exact hallows.1 hwaiting

/-! ### One command at a time -/

section

variable (hinv : JobInv jobId m)

include hinv

theorem JobInv.listForReconciliation {resp : Except Thrown (List SchedulerJob)} :
    JobInv jobId (m.push (.performed pid (.listForReconciliation now) resp)
      (m.state.listForReconciliation now).2) := by
  refine hinv.keep ?_ id
  refine .of_map SchedulerStore.get_expireStale fun row hrow => ?_
  by_cases haffected : m.state.affected now row = true
  · rw [if_pos haffected]
    refine ⟨rfl, .inl ⟨rfl, fun huntouched => ?_⟩⟩
    exact absurd (SchedulerStore.activeLease_of_affected haffected) huntouched.unleased
  · rw [if_neg haffected]
    exact .of_shrink SchedulerStore.leasesShrink_expireStale

theorem JobInv.heartbeatOwned {ownerId : JsString} {now expiresAt : ℕ} {resp : Except Thrown ℕ} :
    JobInv jobId (m.push (.performed pid (.heartbeatOwned ownerId now expiresAt) resp)
      (m.state.heartbeatOwned ownerId now expiresAt).2) := by
  have hshrink : m.state.LeasesShrink (m.state.heartbeatOwned ownerId now expiresAt).2 :=
    SchedulerStore.leasesShrink_heartbeatOwned
  refine hinv.keep ?_ id
  refine .of_map SchedulerStore.get_heartbeatOwned fun row hrow => ?_
  split
  · refine ⟨rfl, .inl ⟨rfl, fun huntouched => ?_⟩⟩
    exact ⟨huntouched.unflagged, (huntouched.shrink hshrink).unleased⟩
  · exact .of_shrink hshrink

theorem JobInv.claimNext {supervisorId : JsString} {found : Option SchedulerJob}
    (hexec : m.state.claimNext now = (found, store)) :
    JobInv jobId (m.push (.performed pid (.claimNext now supervisorId) (.ok found)) store) := by
  rcases SchedulerStore.claimNext_cases hexec with ⟨rfl, rfl⟩ |
    ⟨row, hrow, hclaimable, rfl, hjobs, hshrink⟩
  · exact hinv.keep (.refl _ _) id
  · by_cases hid : jobId = row.id
    · subst hid
      simp only [SchedulerStore.claimable, Bool.and_eq_true, decide_eq_true_eq,
        Bool.not_eq_true', List.mem_cons, List.not_mem_nil, or_false] at hclaimable
      have hwaiting : row.state.waiting := hclaimable.1.1.1.1
      have huntouched := (hinv.waiting hrow hwaiting).shrink hshrink
      refine JobInv.own rfl (fun p _ => hinv.not_holds hrow hwaiting p)
        (by rw [hjobs]; exact SchedulerStore.get_updateJob_self hrow) ?_ ?_
      · rw [standing_cons_self rfl]
        simp only [Standing.after, JobRow.returned, JobRow.scope_claim, if_true]
        refine ⟨?_, ?_, fun _ => ⟨huntouched.unflagged, huntouched.unleased⟩⟩
        · rintro (h | h) <;> cases h
        · intro h
          cases h
      · rintro (h | h) <;> cases h
    · refine hinv.keep (.of_updateJob hid hjobs hshrink) ?_
      intro h
      exact hid h.symm

theorem JobInv.releaseClaim {id reason : JsString} {resp : Except Thrown Unit}
    (hclaimed : standing pid id m.past = .claimed) :
    JobInv jobId (m.push (.performed pid (.releaseClaim id reason now) resp)
      (m.state.releaseClaim id reason now)) := by
  by_cases hid : jobId = id
  · subst hid
    have hholds : (standing pid jobId m.past).holds = true := by rw [hclaimed]; rfl
    obtain ⟨row, hget, hallows⟩ := hinv.holder hholds
    rw [hclaimed] at hallows
    have hget' := SchedulerStore.get_releaseClaim_self reason now hget
    refine JobInv.own rfl (hinv.others hholds) hget' ?_ ?_
    · rw [standing_cons_self rfl]
      simp only [Standing.after, if_true]
      trivial
    · intro hwaiting
      by_cases hstate : row.state = .claimed
      · rw [if_pos hstate]
        exact ⟨(hallows.2.2 hstate).unflagged, (hallows.2.2 hstate).unleased⟩
      · rw [if_neg hstate] at hwaiting
        exact absurd hwaiting hallows.1
  · refine hinv.keep (.of_eq ?_ fun _ h => h) (fun h => h)
    exact SchedulerStore.get_releaseClaim_of_ne hid

end

theorem JobInv.acquireLease {input : LeaseInput} {found : Option LeaseRow}
    (hinv : SchedulerInv m)
    (hclaimed : ∃ id row, standing pid id m.past = .claimed ∧
      m.state.jobs.get id = some row ∧ row.runId = input.runId)
    (hexec : m.state.acquireLease input = (found, store)) :
    JobInv jobId (m.push (.performed pid (.acquireLease input) (.ok found)) store) := by
  rcases SchedulerStore.acquireLease_cases hexec with ⟨rfl, rfl⟩ | ⟨⟨lease, rfl⟩, hjobs, hleases⟩
  · exact (hinv.job jobId).keep (.refl _ _) id
  · obtain ⟨id, row, hstanding, hget, hrun⟩ := hclaimed
    by_cases hid : jobId = id
    · subst hid
      have hholds : (standing pid jobId m.past).holds = true := by rw [hstanding]; rfl
      obtain ⟨row', hget', hallows⟩ := (hinv.job jobId).holder hholds
      obtain rfl : row = row' := Option.some.inj (hget.symm.trans hget')
      rw [hstanding] at hallows
      refine JobInv.own rfl ((hinv.job jobId).others hholds)
        (by rw [hjobs]; exact hget) ?_ ?_
      · rw [standing_cons_self rfl]
        simp only [Standing.after, hstanding, if_true]
        exact ⟨hallows.1, hallows.2.1⟩
      · intro hwaiting
        exact absurd hwaiting hallows.1
    · refine (hinv.job jobId).keep ?_ (fun h => h)
      refine .of_map (f := fun row => row) (by rw [hjobs, Option.map_id']) fun row' hget' => ?_
      refine ⟨rfl, .inl ⟨rfl, fun huntouched => ⟨huntouched.unflagged, fun hactive => ?_⟩⟩⟩
      rcases hleases _ hactive with hold | hnew
      · exact huntouched.unleased hold
      · exact hid (hinv.runs hget' hget (hnew.trans hrun.symm))

theorem JobInv.markExternalStartIssued {input : StartIssuedInput} (hinv : JobInv jobId m)
    (hleased : standing pid input.jobId m.past = .leased)
    (hexec : m.state.markExternalStartIssued input = (resp, store)) :
    JobInv jobId (m.push (.performed pid (.markExternalStartIssued input) resp) store) := by
  rcases SchedulerStore.markExternalStartIssued_cases hexec with ⟨⟨thrown, rfl⟩, rfl⟩ |
    ⟨row, hget, hstate, _, rfl, hjobs, hshrink⟩
  · exact hinv.keep (.refl _ _) id
  · by_cases hid : jobId = input.jobId
    · subst hid
      have hholds : (standing pid input.jobId m.past).holds = true := by rw [hleased]; rfl
      refine JobInv.own rfl (hinv.others hholds)
        (by rw [hjobs]; exact SchedulerStore.get_updateJob_self hget) ?_ ?_
      · rw [standing_cons_self rfl]
        simp only [Standing.after, if_true]
        refine ⟨?_, ?_, rfl⟩
        · rintro (h | h) <;> cases h
        · intro h
          cases h
      · rintro (h | h) <;> cases h
    · refine hinv.keep (.of_updateJob hid hjobs hshrink) ?_
      intro h
      exact hid h.symm

theorem pastStart_mappedState (state : ExternalExecutionState) :
    (mappedState state).pastStart = true := by
  cases state <;> rfl

theorem keeps_commitExternalState {external : ExternalExecutionStatus} {s : SchedulerStore}
    (hexec : s.commitExternalState id external now = (resp, store)) : Keeps jobId s store := by
  rcases SchedulerStore.commitExternalState_cases hexec with ⟨_, rfl⟩ |
    ⟨row, _, _, _, hjobs, hshrink⟩
  · exact .refl _ _
  · exact .of_pastStart hjobs hshrink (fun _ => rfl) fun _ => pastStart_mappedState _

theorem keeps_concludeJob {id phase code reason : JsString} {state : SchedulerJobState}
    {s : SchedulerStore} (hstate : state.pastStart = true)
    (hexec : s.concludeJob id state phase code reason now = (resp, store)) :
    Keeps jobId s store := by
  rcases SchedulerStore.concludeJob_cases hexec with ⟨_, rfl⟩ |
    ⟨row, _, _, _, hjobs, hshrink⟩
  · exact .refl _ _
  · exact .of_pastStart hjobs hshrink (fun _ => rfl) fun _ => hstate

theorem JobInv.handleStartFailure {input : StartFailureInput} {externalRunId : JsString}
    (hinv : JobInv jobId m)
    (hreturned : standing pid input.jobId m.past = .returned externalRunId)
    (hexec : m.state.handleStartFailure input = (resp, store)) :
    JobInv jobId (m.push (.performed pid (.handleStartFailure input) resp) store) := by
  rcases SchedulerStore.handleStartFailure_cases hexec with ⟨⟨thrown, rfl⟩, rfl⟩ |
    ⟨row, hget, hstate, rfl, hjobs, hshrink, hactive⟩
  · exact hinv.keep (.refl _ _) id
  · by_cases hid : jobId = input.jobId
    · subst hid
      have hholds : (standing pid input.jobId m.past).holds = true := by rw [hreturned]; rfl
      refine JobInv.own rfl (hinv.others hholds)
        (by rw [hjobs]; exact SchedulerStore.get_updateJob_self hget) ?_ ?_
      · rw [standing_cons_self rfl]
        simp only [Standing.after, if_true]
        trivial
      · intro _
        exact ⟨rfl, hactive⟩
    · exact hinv.keep (.of_updateJob hid hjobs hshrink) (fun h => h)

theorem JobInv.perform {resp : Except Thrown command.Answer} (hinv : SchedulerInv m)
    (hpromise : SchedulerPromise pid m command)
    (hexec : execScheduler outside command m.state = (resp, store)) :
    JobInv jobId (m.push (.performed pid command resp) store) := by
  have hjob := hinv.job jobId
  unfold execScheduler at hexec
  split at hexec
  · obtain ⟨rfl, rfl⟩ := Prod.mk.inj hexec
    refine hjob.keep (.refl _ _) ?_
    cases command <;> exact id
  · split at hexec
    case h_2 now =>
      obtain ⟨rfl, rfl⟩ := Prod.mk.inj hexec
      exact hjob.listForReconciliation
    case h_3 ownerId now expiresAt =>
      obtain ⟨rfl, rfl⟩ := Prod.mk.inj hexec
      exact hjob.heartbeatOwned
    case h_4 now supervisorId =>
      obtain ⟨rfl, rfl⟩ := Prod.mk.inj hexec
      exact hjob.claimNext rfl
    case h_6 id reason now =>
      obtain ⟨rfl, rfl⟩ := Prod.mk.inj hexec
      exact hjob.releaseClaim hpromise
    case h_7 input =>
      obtain ⟨rfl, rfl⟩ := Prod.mk.inj hexec
      exact JobInv.acquireLease hinv hpromise rfl
    case h_8 input => exact hjob.markExternalStartIssued hpromise hexec
    case h_12 id external now => exact hjob.keep (keeps_commitExternalState hexec) (fun h => h)
    case h_13 input =>
      obtain ⟨externalRunId, hreturned⟩ := hpromise
      exact hjob.handleStartFailure hreturned hexec
    case h_16 id external now => exact hjob.keep (keeps_commitExternalState hexec) (fun h => h)
    case h_17 id now => exact hjob.keep (keeps_concludeJob rfl hexec) (fun h => h)
    case h_18 id now => exact hjob.keep (keeps_concludeJob rfl hexec) (fun h => h)
    all_goals
      obtain ⟨rfl, rfl⟩ := Prod.mk.inj hexec
      exact hjob.keep (.refl _ _) (fun h => h)

/-! ### Scopes -/

/-- The jobs are the same, with the same scopes. -/
def ScopesKept (s t : SchedulerStore) : Prop :=
  ∀ id, Option.Rel (fun row row' : JobRow => row'.toJobScope = row.toJobScope)
    (s.jobs.get id) (t.jobs.get id)

theorem ScopesKept.of_eq (hjobs : t.jobs = s.jobs) : ScopesKept s t := by
  intro id
  rw [hjobs]
  cases s.jobs.get id with
  | none => exact .none
  | some row => exact .some rfl

theorem ScopesKept.of_updateJobs {p : JobRow → Bool} {f : JobRow → JobRow}
    {hscope : ∀ row, (f row).toJobScope = row.toJobScope}
    (hjobs : t.jobs = (s.updateJobs p f hscope).jobs) : ScopesKept s t := by
  intro id
  rw [hjobs, SchedulerStore.get_updateJobs]
  cases s.jobs.get id with
  | none => exact .none
  | some row =>
      refine .some ?_
      by_cases hp : p row = true
      · simp only [hp, if_true]
        exact hscope row
      · simp only [hp, if_false, Bool.false_eq_true]

theorem ScopesKept.evolve (h : ScopesKept s t) : JobsEvolve s t := by
  intro id row hrow
  have hrel := h id
  rw [hrow] at hrel
  cases hnew : t.jobs.get id with
  | none =>
      rw [hnew] at hrel
      cases hrel
  | some row' =>
      rw [hnew] at hrel
      cases hrel with
      | some hscope => exact ⟨row', rfl, hscope⟩

theorem ScopesKept.back (h : ScopesKept s t) {row' : JobRow} (hrow : t.jobs.get id = some row') :
    ∃ row, s.jobs.get id = some row ∧ row'.toJobScope = row.toJobScope := by
  have hrel := h id
  rw [hrow] at hrel
  cases hold : s.jobs.get id with
  | none =>
      rw [hold] at hrel
      cases hrel
  | some row =>
      rw [hold] at hrel
      cases hrel with
      | some hscope => exact ⟨row, rfl, hscope⟩

theorem ScopesKept.runsUnique (h : ScopesKept s t) (hruns : RunsUnique s) : RunsUnique t := by
  intro id id' row row' hrow hrow' heq
  obtain ⟨old, hold, hscope⟩ := h.back hrow
  obtain ⟨old', hold', hscope'⟩ := h.back hrow'
  apply hruns hold hold'
  rw [← hscope, ← hscope', heq]

theorem scopesKept_of_exec {resp : Except Thrown command.Answer} {s : SchedulerStore}
    (hexec : execScheduler outside command s = (resp, store)) : ScopesKept s store := by
  have hcommit : ∀ {id external now} {resp : Except Thrown SchedulerJob},
      s.commitExternalState id external now = (resp, store) → ScopesKept s store := by
    intro id external now resp hexec
    rcases SchedulerStore.commitExternalState_cases hexec with ⟨_, rfl⟩ | ⟨_, _, _, _, hjobs, _⟩
    · exact .of_eq rfl
    · exact .of_updateJobs hjobs
  have hconclude : ∀ {id state phase code reason now} {resp : Except Thrown SchedulerJob},
      s.concludeJob id state phase code reason now = (resp, store) → ScopesKept s store := by
    intro id state phase code reason now resp hexec
    rcases SchedulerStore.concludeJob_cases hexec with ⟨_, rfl⟩ | ⟨_, _, _, _, hjobs, _⟩
    · exact .of_eq rfl
    · exact .of_updateJobs hjobs
  unfold execScheduler at hexec
  split at hexec
  · obtain rfl := (Prod.mk.inj hexec).2
    exact .of_eq rfl
  · split at hexec
    case h_2 now =>
      obtain rfl := (Prod.mk.inj hexec).2
      have hjobs : (s.listForReconciliation now).2.jobs = (s.updateJobs (s.affected now)
        (fun row => row.flag now) fun row => row.scope_flag now).jobs := rfl
      exact .of_updateJobs hjobs
    case h_3 ownerId now expiresAt =>
      obtain rfl := (Prod.mk.inj hexec).2
      have hjobs : (s.heartbeatOwned ownerId now expiresAt).2.jobs = (s.updateJobs _
        (fun row => row.extend now expiresAt) fun row => row.scope_extend now expiresAt).jobs := rfl
      exact .of_updateJobs hjobs
    case h_4 now supervisorId =>
      rcases hclaim : s.claimNext now with ⟨found, t⟩
      rw [hclaim] at hexec
      obtain rfl := (Prod.mk.inj hexec).2
      rcases SchedulerStore.claimNext_cases hclaim with ⟨_, rfl⟩ | ⟨_, _, _, _, hjobs, _⟩
      · exact .of_eq rfl
      · exact .of_updateJobs hjobs
    case h_6 id reason now =>
      obtain rfl := (Prod.mk.inj hexec).2
      exact .of_updateJobs rfl
    case h_7 input =>
      rcases hlease : s.acquireLease input with ⟨found, t⟩
      rw [hlease] at hexec
      obtain rfl := (Prod.mk.inj hexec).2
      rcases SchedulerStore.acquireLease_cases hlease with ⟨_, rfl⟩ | ⟨_, hjobs, _⟩
      · exact .of_eq rfl
      · exact .of_eq hjobs
    case h_8 input =>
      rcases SchedulerStore.markExternalStartIssued_cases hexec with ⟨_, rfl⟩ |
        ⟨_, _, _, _, _, hjobs, _⟩
      · exact .of_eq rfl
      · exact .of_updateJobs hjobs
    case h_12 id external now => exact hcommit hexec
    case h_13 input =>
      rcases SchedulerStore.handleStartFailure_cases hexec with ⟨_, rfl⟩ |
        ⟨_, _, _, _, hjobs, _⟩
      · exact .of_eq rfl
      · exact .of_updateJobs hjobs
    case h_16 id external now => exact hcommit hexec
    case h_17 id now => exact hconclude hexec
    case h_18 id now => exact hconclude hexec
    all_goals
      obtain rfl := (Prod.mk.inj hexec).2
      exact .of_eq rfl

/-! ### The other writers -/

/-- An event by which no tick takes a job keeps the invariant when jobs and
leases stay as they are. -/
theorem SchedulerInv.frame (hinv : SchedulerInv m) (hjobs : store.jobs = m.state.jobs)
    (hleases : store.leases = m.state.leases) (htakes : ∀ jobId, ¬ Takes jobId e) :
    SchedulerInv (m.push e store) := by
  refine ⟨(ScopesKept.of_eq hjobs).runsUnique hinv.runs, fun jobId => ?_⟩
  refine (hinv.job jobId).keep (.of_eq (by rw [hjobs]) ?_) (htakes jobId)
  intro runId hactive
  exact (SchedulerStore.activeLease_congr hleases).mp hactive

theorem get_admitJob (hadmitted : s.admitJob scope = some t) :
    s.jobs.get scope.id = none ∧ ∃ new : JobRow, new.toJobScope = scope ∧ new.state = .pending ∧
      new.reconciliationRequired = false ∧
      ∀ id, t.jobs.get id = if id = scope.id then some new else s.jobs.get id := by
  obtain ⟨hfresh, -, -, -, new, rfl, hstate, hflag, hjobs⟩ :=
    SchedulerStore.admitJob_eq_some hadmitted
  refine ⟨hfresh, new, rfl, hstate, hflag, ?_⟩
  intro id
  rw [hjobs, Sql.Table.get_insertNew]
  by_cases hid : id = new.id
  · subst hid
    rw [if_pos ⟨rfl, hfresh⟩, if_pos rfl]
  · rw [if_neg (fun h => hid h.1.symm), if_neg hid]

theorem RunsUnique.admitJob (hunique : RunsUnique s) (hadmitted : s.admitJob scope = some t) :
    RunsUnique t := by
  obtain ⟨-, hruns, -⟩ := SchedulerStore.admitJob_eq_some hadmitted
  obtain ⟨-, new, rfl, -, -, hget⟩ := get_admitJob hadmitted
  have hold : ∀ {id row}, t.jobs.get id = some row →
      (id = new.id ∧ row = new) ∨ s.jobs.get id = some row := by
    intro id row hrow
    rw [hget] at hrow
    by_cases hid : id = new.id
    · rw [if_pos hid] at hrow
      exact .inl ⟨hid, (Option.some.inj hrow).symm⟩
    · rw [if_neg hid] at hrow
      exact .inr hrow
  intro id id' row row' hrow hrow' heq
  rcases hold hrow with ⟨rfl, rfl⟩ | hbefore
  · rcases hold hrow' with ⟨rfl, rfl⟩ | hbefore'
    · rfl
    · exact absurd heq.symm (hruns _ (Sql.Table.mem_of_get hbefore'))
  · rcases hold hrow' with ⟨rfl, rfl⟩ | hbefore'
    · exact absurd heq (hruns _ (Sql.Table.mem_of_get hbefore))
    · exact hunique hbefore hbefore' heq

theorem SchedulerInv.admitJob (hinv : SchedulerInv m)
    (hadmitted : m.state.admitJob scope = some store) :
    SchedulerInv (m.push (.changed (.admitJob scope)) store) ∧ JobsEvolve m.state store := by
  obtain ⟨-, -, hlease, hleases, -⟩ := SchedulerStore.admitJob_eq_some hadmitted
  obtain ⟨hfresh, new, rfl, -, hflag, hget⟩ := get_admitJob hadmitted
  refine ⟨⟨RunsUnique.admitJob hinv.runs hadmitted, fun jobId => ?_⟩, fun {id row} hrow => ⟨row, ?_, rfl⟩⟩
  · by_cases hid : jobId = new.id
    · subst hid
      have hstanding : ∀ p, standing p new.id (.changed (.admitJob new.toJobScope) :: m.past) =
          standing p new.id m.past := fun p => standing_cons_of_ne (by simp [Event.pid?])
      have hnobody : ∀ p, ¬ (standing p new.id m.past).holds = true := by
        intro p hp
        obtain ⟨row, hrow, _⟩ := (hinv.job new.id).holder hp
        rw [hfresh] at hrow
        cases hrow
      constructor
      · intro p q hp
        rw [Moment.push_past, hstanding] at hp
        exact absurd hp (hnobody p)
      · intro p hp
        rw [Moment.push_past, hstanding] at hp
        exact absurd hp (hnobody p)
      · intro row hrow _
        rw [Moment.push_state, hget, if_pos rfl] at hrow
        obtain rfl := Option.some.inj hrow
        exact ⟨hflag, fun h => hlease ((SchedulerStore.activeLease_congr hleases).mp h)⟩
    · refine (hinv.job jobId).keep (.of_eq (by rw [hget, if_neg hid]) ?_) (fun h => h)
      intro runId hactive
      exact (SchedulerStore.activeLease_congr hleases).mp hactive
  · have hid : id ≠ new.id := by
      rintro rfl
      rw [hfresh] at hrow
      cases hrow
    rw [hget, if_neg hid, hrow]

end Steps

theorem JobsEvolve.refl (s : SchedulerStore) : JobsEvolve s s :=
  fun hrow => ⟨_, hrow, rfl⟩

theorem JobsEvolve.trans {s t u : SchedulerStore} (hst : JobsEvolve s t)
    (htu : JobsEvolve t u) : JobsEvolve s u := by
  intro id row hrow
  obtain ⟨row', hrow', hscope⟩ := hst hrow
  obtain ⟨row'', hrow'', hscope'⟩ := htu hrow'
  exact ⟨row'', hrow'', hscope'.trans hscope⟩

def schedulerOutline : Outline schedulerSystem where
  cond _ _ := True
  inv := SchedulerInv
  evolves := JobsEvolve
  promise := SchedulerPromise
  evolves_refl := JobsEvolve.refl
  evolves_trans := JobsEvolve.trans
  spawn hinv _ _ := hinv.frame rfl rfl fun _ h => h
  perform := by
    intro m pid command outside resp store hinv _ hpromise hexec
    have hexec := Option.some.inj hexec
    have hscopes := scopesKept_of_exec hexec
    exact ⟨⟨hscopes.runsUnique hinv.runs, fun _ => JobInv.perform hinv hpromise hexec⟩,
      hscopes.evolve⟩
  finish hinv _ := hinv.frame rfl rfl fun _ h => h
  crash hinv _ := hinv.frame rfl rfl fun _ h => h
  change := by
    intro m change store hinv _ hchange
    cases change with
    | admitJob scope => exact hinv.admitJob hchange
    | registerNode node =>
        obtain rfl := Option.some.inj hchange
        exact ⟨hinv.frame rfl rfl fun _ h => h, (ScopesKept.of_eq rfl).evolve⟩
    | setControl control =>
        obtain rfl := Option.some.inj hchange
        exact ⟨hinv.frame rfl rfl fun _ h => h, (ScopesKept.of_eq rfl).evolve⟩

end DevHarness.Scheduler
