import Mathlib.Data.Int.ConditionallyCompleteOrder
import Mathlib.Order.ConditionallyCompleteLattice.Basic
import Mathlib.Order.WithBot
import DevHarness.Workbench.Staleness

/-!
# Fresh projections

A runner rebuilds a projection when the latest trigger has changed, so what is stored is
what the facts show as long as no update changes the facts and leaves the trigger alone.
-/

namespace DevHarness.Workbench

open JsText Interleave Program
open ControlPlane (Thrown)

/-- Whenever a projection that is not forced has completed on its own, what is stored has
the digest of the snapshot that would be built from the facts; in all runs whose steps meet
`cond`. -/
def FreshWhenIdle (runtime : Runtime) (tables : AuthoritativeTables)
    (scope : WorkbenchProjectionScope) (cond : ProjectorCondition) : Prop :=
  ∀ {c call result store}, Run (projectorSystem runtime) cond (.ofTables tables) c →
    call.scope = scope → call.force = false →
    Alone execProjection (projectScope runtime call) c.now.state (.ok result) store →
    ∀ {revision now snapshot},
      buildWorkbenchSnapshot runtime (store.tables.loadFacts scope) revision
        (workbenchFactsWatermark (store.tables.loadFacts scope) now) = .ok snapshot →
      (ProjectionTable.readState store.projections scope).map (·.digest) =
        some (workbenchSemanticDigest runtime snapshot)

/-! ## The time of the newest trigger -/

def newestTrigger (tables : AuthoritativeTables) (scope : WorkbenchProjectionScope) :
    WithBot ℤ :=
  (tables.latestTrigger scope).elim ⊥ fun cursor => (cursor.occurredAt : WithBot ℤ)

/-- The newest trigger row does not get older, and gets newer where the facts change. -/
structure Advances (scope : WorkbenchProjectionScope) (before after : AuthoritativeTables) :
    Prop where
  le : newestTrigger before scope ≤ newestTrigger after scope
  facts : after.loadFacts scope = before.loadFacts scope ∨
    newestTrigger before scope < newestTrigger after scope

/-- Every update that changes the facts of a scope leaves a trigger row that is newer, by a
millisecond or more, than any that was there; and no update takes the newest one back. -/
def AdvancesTrigger (scope : WorkbenchProjectionScope) : ProjectorCondition :=
  fun m attempt =>
    match attempt with
    | .change tables => Advances scope m.state.tables tables
    | _ => True

section Advances

variable {scope : WorkbenchProjectionScope} {a b c : AuthoritativeTables}

theorem Advances.refl (a : AuthoritativeTables) : Advances scope a a :=
  ⟨le_rfl, .inl rfl⟩

theorem Advances.trans (h : Advances scope a b) (h' : Advances scope b c) : Advances scope a c where
  le := h.le.trans h'.le
  facts := by
    rcases h.facts with hsame | hlt
    · rcases h'.facts with hsame' | hlt'
      · exact .inl (hsame'.trans hsame)
      · exact .inr (h.le.trans_lt hlt')
    · exact .inr (hlt.trans_le h'.le)

theorem Advances.loadFacts_eq (h : Advances scope a b)
    (htrigger : newestTrigger a scope = newestTrigger b scope) :
    b.loadFacts scope = a.loadFacts scope :=
  h.facts.resolve_right fun hlt => hlt.ne htrigger

end Advances

def advancingTables (scope : WorkbenchProjectionScope) :
    TableOrder (AdvancesTrigger scope) where
  evolves := Advances scope
  refl := .refl
  trans := .trans
  change := id

section Alone

variable {runtime : Runtime} {call : ProjectCall} {store store' : ProjectorStore}
  {reads : ProjectionReads} {result : WorkbenchProjectionState}

theorem answering_ok {α : Type} {outside : Outside} {answer : Except Thrown α × ProjectorStore}
    {a : α} (h : answering outside store answer = (.ok a, store')) : answer = (.ok a, store') := by
  unfold answering at h
  split at h
  · cases (Prod.mk.inj h).1
  · exact h

theorem alone_projectionReads
    (h : Alone execProjection (projectionReads call) store (.ok reads) store') :
    reads.current = ProjectionTable.readState store.projections call.scope ∧
      reads.cursor = store.tables.latestTrigger call.scope ∧ store' = store := by
  unfold projectionReads at h
  split at h
  · obtain ⟨_, cursor, s₁, hcursor, h₁⟩ := alone_request_bind_ok_iff.mp h
    obtain ⟨hc, rfl⟩ := Prod.mk.inj (answering_ok (Option.some.inj hcursor))
    obtain ⟨_, current, s₂, hcurrent, h₂⟩ := alone_request_bind_ok_iff.mp h₁
    obtain ⟨hs, rfl⟩ := Prod.mk.inj (answering_ok (Option.some.inj hcurrent))
    obtain ⟨hreads, rfl⟩ := alone_done_iff.mp h₂
    rw [Except.ok.inj hreads, Except.ok.inj hc, Except.ok.inj hs]
    exact ⟨rfl, rfl, rfl⟩
  · obtain ⟨_, current, s₁, hcurrent, h₁⟩ := alone_request_bind_ok_iff.mp h
    obtain ⟨hs, rfl⟩ := Prod.mk.inj (answering_ok (Option.some.inj hcurrent))
    obtain ⟨_, cursor, s₂, hcursor, h₂⟩ := alone_request_bind_ok_iff.mp h₁
    obtain ⟨hc, rfl⟩ := Prod.mk.inj (answering_ok (Option.some.inj hcursor))
    obtain ⟨hreads, rfl⟩ := alone_done_iff.mp h₂
    rw [Except.ok.inj hreads, Except.ok.inj hc, Except.ok.inj hs]
    exact ⟨rfl, rfl, rfl⟩

theorem alone_rebuild {scope : WorkbenchProjectionScope}
    (h : Alone execProjection (rebuild runtime scope reads) store (.ok result) store') :
    store'.tables = store.tables ∧
      (ProjectionTable.readState store'.projections scope).map (·.digest) =
        some (shownDigest runtime (store.tables.loadFacts scope) 0) := by
  unfold rebuild at h
  obtain ⟨_, facts, s₁, hfacts, h₁⟩ := alone_request_bind_ok_iff.mp h
  obtain ⟨hf, rfl⟩ := Prod.mk.inj (answering_ok (Option.some.inj hfacts))
  obtain ⟨_, now, s₂, hnow, h₂⟩ := alone_request_bind_ok_iff.mp h₁
  obtain ⟨-, rfl⟩ := Prod.mk.inj (Option.some.inj hnow)
  obtain ⟨snapshot, hbuilt, h₃⟩ := alone_done_bind_ok_iff.mp h₂
  obtain ⟨_, hpublish⟩ := alone_request_iff.mp h₃
  obtain ⟨hstate, rfl⟩ := Prod.mk.inj (answering_ok (Option.some.inj hpublish))
  have hpublished := ProjectionTable.published_of_publish (Prod.ext hstate rfl)
  refine ⟨rfl, ?_⟩
  rw [hpublished.readState_self, Option.map_some, hpublished.digest, digest_of_build hbuilt,
    Except.ok.inj hf]
  exact congrArg some (shownDigest_eq runtime facts now 0)

/-- A projection leaves the tables alone.  It finds what is stored up to date, or stores the
digest of what the facts show. -/
theorem alone_projectScope
    (h : Alone execProjection (projectScope runtime call) store (.ok result) store') :
    store'.tables = store.tables ∧
      ((ProjectionTable.readState store.projections call.scope =
          ProjectionTable.readState store'.projections call.scope ∧
        ∃ current, ProjectionTable.readState store.projections call.scope = some current ∧
          current.cursor = store.tables.latestTrigger call.scope) ∨
      (ProjectionTable.readState store'.projections call.scope).map (·.digest) =
        some (shownDigest runtime (store.tables.loadFacts call.scope) 0)) := by
  unfold projectScope at h
  obtain ⟨_, ticket, s₁, hjoin, h₁⟩ := alone_request_bind_ok_iff.mp h
  obtain ⟨-, rfl⟩ := Prod.mk.inj (Option.some.inj hjoin)
  obtain ⟨_, _, s₂, hturn, h₂⟩ := alone_request_bind_ok_iff.mp h₁
  simp only [execProjection] at hturn
  split at hturn
  · obtain ⟨-, rfl⟩ := Prod.mk.inj (Option.some.inj hturn)
    obtain ⟨s₃, _, hproject, hleave⟩ := alone_andFinally_ok h₂
    obtain ⟨_, hleft⟩ := alone_request_iff.mp hleave
    obtain ⟨-, rfl⟩ := Prod.mk.inj (Option.some.inj hleft)
    obtain ⟨reads, s₄, hreads, hrest⟩ := alone_bind_iff.mp hproject
    cases reads with
    | error error => cases hrest.1
    | ok reads =>
        obtain ⟨hcurrent, hcursor, rfl⟩ := alone_projectionReads hreads
        simp only at hrest
        split at hrest
        · next current hupToDate =>
          obtain ⟨-, rfl⟩ := alone_done_iff.mp hrest
          unfold upToDate at hupToDate
          split at hupToDate
          · cases hupToDate
          · obtain ⟨hstored, hsame⟩ := Option.filter_eq_some_iff.mp hupToDate
            rw [hcurrent] at hstored
            refine ⟨rfl, .inl ⟨rfl, current, hstored, ?_⟩⟩
            rw [← hcursor]
            exact of_decide_eq_true hsame
        · obtain ⟨htables, hdigest⟩ := alone_rebuild hrest
          exact ⟨htables, .inr hdigest⟩
  · cases hturn

end Alone

/-- In every run in which the updates advance the trigger of a scope with its facts, the
projection of the scope is fresh. -/
theorem freshWhenIdle_of_advancesTrigger (runtime : Runtime) (tables : AuthoritativeTables)
    (scope : WorkbenchProjectionScope) :
    FreshWhenIdle runtime tables scope (AdvancesTrigger scope) := by
  rintro c call result store hrun rfl hforce halone revision now snapshot hbuilt
  have hinv := (sound_of_run (advancingTables call.scope) hrun).inv
  rw [digest_of_build hbuilt, shownDigest_eq runtime _ now 0]
  obtain ⟨htables, hcases⟩ := alone_projectScope halone
  rw [htables]
  rcases hcases with ⟨hsame, current, hcurrent, hcursor⟩ | hdigest
  · -- The cursor was read first, then the facts: in between and since nothing has changed.
    obtain ⟨triggered, loaded, hfirst, hsecond, hread, hdigest⟩ := hinv.provenance hcurrent
    have htrigger : newestTrigger triggered call.scope =
        newestTrigger c.now.state.tables call.scope := by
      rw [newestTrigger, newestTrigger, ← hread, hcursor]
    have hloaded : newestTrigger loaded call.scope =
        newestTrigger c.now.state.tables call.scope :=
      le_antisymm hsecond.le (htrigger ▸ hfirst.le)
    rw [← hsame, hcurrent, Option.map_some, hdigest, hsecond.loadFacts_eq hloaded]
  · exact hdigest

/-! ## A review that is not a trigger -/

def reviewedIssue : IssueRow where
  project := observedScope.project
  id := js "issue"
  goalId := js "goal"
  issueKey := js "A"
  revision := 1
  title := js "title"
  status := .inProgress
  version := 1
  createdAt := 1000
  updatedAt := 1000

def issueReview : ReviewRow where
  project := observedScope.project
  id := js "review"
  issueId := js "issue"
  verdict := .approved
  reviewerType := .human
  reviewerVersion := js "reviewer-1"
  targetCommitSha := js "commit"
  reviewedAt := 2000

def unreviewed : AuthoritativeTables :=
  { AuthoritativeTables.empty with issues := [reviewedIssue] }

def reviewed : AuthoritativeTables :=
  { unreviewed with reviews := [issueReview] }

def reviewing : List (Action ProjectCall Outside AuthoritativeTables) :=
  [.spawn (projection 0)] ++ List.replicate 8 (.perform 0 undisturbed) ++
    [.finish 0, .change reviewed]

/-- What a projection that runs alone from here leaves stored, and what would be built from
the facts. -/
structure FreshnessView where
  stored : Option JsString
  built : Option JsString
  deriving DecidableEq

def freshnessView (c : ProjectorConfig) : Option FreshnessView :=
  (runAlone execProjection (fun _ => undisturbed) 0 (projectScope plainRuntime (projection 1))
    c.now.state).bind fun ended =>
      match ended.1 with
      | .ok _ => some
          { stored := (ProjectionTable.readState ended.2.projections observedScope).map (·.digest)
            built := (buildWorkbenchSnapshot plainRuntime
              (ended.2.tables.loadFacts observedScope) 1
              (workbenchFactsWatermark (ended.2.tables.loadFacts observedScope) 0)).toOption.map
                (workbenchSemanticDigest plainRuntime) }
      | .error _ => none

theorem ok_of_toOption {ε α : Type} {result : Except ε α} {a : α}
    (h : result.toOption = some a) : result = .ok a := by
  cases result with
  | error error => cases h
  | ok value => rw [Option.some.inj h]

/-- The review shows in a snapshot of the facts, and the stored one stays as it was. -/
theorem not_freshWhenIdle :
    ¬ FreshWhenIdle plainRuntime unreviewed observedScope fun _ _ => True := by
  intro hclaim
  have hexec : ((execute (projectorSystem plainRuntime) (Config.initial (.ofTables unreviewed))
      reviewing).bind freshnessView) = some
        { stored := some (js "无前置依赖")
          built := some (js "无前置依赖reviewer-1") } := by
    decide +kernel
  obtain ⟨c, hc, hview⟩ := Option.bind_eq_some_iff.mp hexec
  obtain ⟨⟨answer, store⟩, halone, hview⟩ := Option.bind_eq_some_iff.mp hview
  cases answer with
  | error error => cases hview
  | ok result =>
      obtain ⟨hstored, hbuilt⟩ := FreshnessView.mk.inj (Option.some.inj hview)
      obtain ⟨snapshot, hsnapshot, hdigest⟩ := Option.map_eq_some_iff.mp hbuilt
      have hfresh := hclaim (reached_of_execute hc) rfl rfl (alone_of_runAlone halone)
        (ok_of_toOption hsnapshot)
      rw [hstored, hdigest] at hfresh
      have hne : some (js "无前置依赖") ≠ some (js "无前置依赖reviewer-1") := by decide
      exact hne hfresh

end DevHarness.Workbench
