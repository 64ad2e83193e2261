import DevHarness.Workbench.Publications

/-!
# The proof outline of the projector

Every publisher has loaded its facts, and what is stored comes from two earlier moments: the
cursor from the first, the digest from the second.  How the authoritative tables evolve in
between is a parameter: any preorder that the updates of a run respect.
-/

namespace DevHarness.Workbench

open JsText Interleave Program
open ControlPlane (Thrown)

/-- An order in which the tables evolve in the runs in question. -/
structure TableOrder (cond : ProjectorCondition) where
  evolves : AuthoritativeTables → AuthoritativeTables → Prop
  refl : ∀ tables, evolves tables tables
  trans : ∀ {a b c}, evolves a b → evolves b c → evolves a c
  change : ∀ {m tables}, cond m (.change tables) → evolves m.state.tables tables

def TableOrder.any (cond : ProjectorCondition) : TableOrder cond where
  evolves := fun _ _ => True
  refl := fun _ => trivial
  trans := fun _ _ => trivial
  change := fun _ => trivial

section Outline

variable {runtime : Runtime} {cond : ProjectorCondition} (order : TableOrder cond)

/-- A cursor and a digest that were read one after the other, before `tables`. -/
def Provenance (runtime : Runtime) (tables : AuthoritativeTables)
    (scope : WorkbenchProjectionScope) (cursor : Option WorkbenchProjectionCursor)
    (digest : JsString) : Prop :=
  ∃ triggered loaded, order.evolves triggered loaded ∧ order.evolves loaded tables ∧
    cursor = triggered.latestTrigger scope ∧
    digest = shownDigest runtime (loaded.loadFacts scope) 0

theorem Provenance.later {tables tables' : AuthoritativeTables}
    {scope : WorkbenchProjectionScope} {cursor : Option WorkbenchProjectionCursor}
    {digest : JsString} (h : Provenance order runtime tables scope cursor digest)
    (hevolves : order.evolves tables tables') :
    Provenance order runtime tables' scope cursor digest := by
  obtain ⟨triggered, loaded, hfirst, hsecond, hcursor, hdigest⟩ := h
  exact ⟨triggered, loaded, hfirst, order.trans hsecond hevolves, hcursor, hdigest⟩

/-- What holds at every moment of a run. -/
structure ProjectorInvariant (runtime : Runtime) (m : ProjectorMoment) : Prop where
  provenance : ∀ {scope state}, ProjectionTable.readState m.state.projections scope = some state →
    Provenance order runtime m.state.tables scope state.cursor state.digest
  loaded : LoadsFirst m.past
  revisions : ∀ scope, (ProjectionTable.readState m.state.projections scope).map (·.revision) =
    (publications scope m.past).head?.map (·.revision)

/-- What a process makes sure of before it publishes. -/
def ProjectorPromise (runtime : Runtime) (pid : ℕ) (m : ProjectorMoment) :
    ProjectionCommand → Prop
  | .publish input => (loadedAt pid m.past).isSome ∧
      Provenance order runtime m.state.tables input.scope input.cursor input.digest
  | _ => True

variable {order} {m : ProjectorMoment} {store : ProjectorStore} {e : ProjectorEvent} {pid : ℕ}
  {outside : Outside}

section

variable (h : ProjectorInvariant order runtime m)

include h

theorem ProjectorInvariant.push (he : ∀ scope, published scope e = none)
    (hstored : store.projections = m.state.projections)
    (hevolves : order.evolves m.state.tables store.tables) :
    ProjectorInvariant order runtime (m.push e store) where
  provenance := by
    intro scope state hread
    rw [Moment.push_state, hstored] at hread
    exact (h.provenance hread).later order hevolves
  loaded := by
    refine h.loaded.cons fun scope p hp => ?_
    rw [he scope] at hp
    cases hp
  revisions := by
    intro scope
    rw [Moment.push_state, Moment.push_past, publications_cons_of_none (he scope), hstored]
    exact h.revisions scope

theorem ProjectorInvariant.publish {input : PublishInput} {state : WorkbenchProjectionState}
    {next : ProjectionTable} (hpromise : ProjectorPromise order runtime pid m (.publish input))
    (hpublished : ProjectionTable.Published m.state.projections input state next) :
    ProjectorInvariant order runtime (m.push (.performed pid (.publish input) (.ok state))
      { m.state with projections := next }) := by
  obtain ⟨hloaded, hprovenance⟩ := hpromise
  refine ⟨?_, ?_, ?_⟩
  · intro scope state' hread
    by_cases hscope : scope = input.scope
    · subst hscope
      rw [Moment.push_state, hpublished.readState_self] at hread
      obtain rfl := Option.some.inj hread
      rw [hpublished.cursor, hpublished.digest]
      exact hprovenance
    · rw [Moment.push_state, hpublished.readState_of_ne hscope] at hread
      exact h.provenance hread
  · refine h.loaded.cons fun scope p hp => ?_
    simp only [published] at hp
    split at hp
    · rw [← Option.some.inj hp]
      exact hloaded
    · cases hp
  · intro scope
    rw [Moment.push_state, Moment.push_past]
    by_cases hscope : scope = input.scope
    · subst hscope
      rw [hpublished.readState_self]
      simp only [publications, published, if_true]
      split
      · next hsame => exact hsame.symm
      · rfl
    · rw [hpublished.readState_of_ne hscope, publications_cons_of_none, h.revisions]
      simp only [published]
      rw [if_neg (Ne.symm hscope)]

theorem ProjectorInvariant.quiet (he : ∀ scope, published scope e = none)
    (hstored : store.projections = m.state.projections) (htables : store.tables = m.state.tables) :
    ProjectorInvariant order runtime (m.push e store) ∧ store.tables = m.state.tables := by
  refine ⟨h.push he hstored ?_, htables⟩
  rw [htables]
  exact order.refl _

end

theorem store_of_answering {α : Type} {store store' : ProjectorStore}
    {answer resp : Except Thrown α} (h : answering outside store (answer, store) = (resp, store')) :
    store' = store := by
  unfold answering at h
  split at h
  · exact (Prod.mk.inj h).2.symm
  · exact (Prod.mk.inj h).2.symm

theorem exec_keeps {command : ProjectionCommand} {resp : Except Thrown command.Answer}
    (h : ProjectorInvariant order runtime m)
    (hpromise : ProjectorPromise order runtime pid m command)
    (hexec : execProjection outside command m.state = some (resp, store)) :
    ProjectorInvariant order runtime (m.push (.performed pid command resp) store) ∧
      store.tables = m.state.tables := by
  cases command with
  | publish input =>
      simp only [execProjection, answering, Option.some.injEq] at hexec
      split at hexec
      · obtain ⟨rfl, rfl⟩ := Prod.mk.inj hexec
        exact h.quiet (fun _ => rfl) rfl rfl
      · obtain ⟨hanswer, rfl⟩ := Prod.mk.inj hexec
        cases resp with
        | ok state =>
            have hpublished := ProjectionTable.published_of_publish (Prod.ext hanswer rfl)
            exact ⟨h.publish hpromise hpublished, rfl⟩
        | error error =>
            have hsame := ProjectionTable.publish_error (Prod.ext hanswer rfl)
            exact h.quiet (fun _ => rfl) hsame rfl
  | join key =>
      obtain ⟨rfl, rfl⟩ := Prod.mk.inj (Option.some.inj hexec)
      exact h.quiet (fun _ => rfl) rfl rfl
  | turn ticket =>
      simp only [execProjection] at hexec
      split at hexec
      · obtain ⟨rfl, rfl⟩ := Prod.mk.inj (Option.some.inj hexec)
        exact h.quiet (fun _ => rfl) rfl rfl
      · cases hexec
  | leave ticket =>
      obtain ⟨rfl, rfl⟩ := Prod.mk.inj (Option.some.inj hexec)
      exact h.quiet (fun _ => rfl) rfl rfl
  | clock =>
      obtain ⟨rfl, rfl⟩ := Prod.mk.inj (Option.some.inj hexec)
      exact h.quiet (fun _ => rfl) rfl rfl
  | readState scope =>
      obtain rfl := store_of_answering (Option.some.inj hexec)
      exact h.quiet (fun _ => rfl) rfl rfl
  | latestTrigger scope =>
      obtain rfl := store_of_answering (Option.some.inj hexec)
      exact h.quiet (fun _ => rfl) rfl rfl
  | loadFacts scope =>
      obtain rfl := store_of_answering (Option.some.inj hexec)
      exact h.quiet (fun _ => rfl) rfl rfl

/-! ## The outline -/

def projectorOutline (runtime : Runtime) {cond : ProjectorCondition} (order : TableOrder cond) :
    Outline (projectorSystem runtime) where
  cond := cond
  inv := ProjectorInvariant order runtime
  evolves := fun store store' => order.evolves store.tables store'.tables
  promise := ProjectorPromise order runtime
  evolves_refl := fun _ => order.refl _
  evolves_trans := order.trans
  spawn := fun h _ _ => h.push (fun _ => rfl) rfl (order.refl _)
  perform := by
    intro m pid command outside resp store h _ hpromise hexec
    obtain ⟨hinv, htables⟩ := exec_keeps h hpromise hexec
    refine ⟨hinv, ?_⟩
    rw [htables]
    exact order.refl _
  finish := fun h _ => h.push (fun _ => rfl) rfl (order.refl _)
  crash := fun h _ => h.push (fun _ => rfl) rfl (order.refl _)
  change := by
    intro m tables store h hcond henv
    obtain rfl := Option.some.inj henv
    exact ⟨h.push (fun _ => rfl) rfl (order.change hcond), order.change hcond⟩

section Entries

variable {pid : ℕ} {call : ProjectCall}

/-- What is known once the trigger has been read. -/
def Triggered (order : TableOrder cond) (scope : WorkbenchProjectionScope)
    (reads : ProjectionReads) (m : ProjectorMoment) : Prop :=
  ∃ triggered, order.evolves triggered m.state.tables ∧
    reads.cursor = triggered.latestTrigger scope

theorem answer_of_answering {α : Type} {outside : Outside} {store store' : ProjectorStore}
    {a b : α} (h : answering outside store (.ok a, store) = (.ok b, store')) : b = a := by
  unfold answering at h
  split at h
  · cases (Prod.mk.inj h).1
  · exact (Except.ok.inj (Prod.mk.inj h).1).symm

theorem ensures_projectionReads :
    (projectorOutline runtime order).ensures pid (projectionReads call)
      (fun reads m' => Triggered order call.scope reads m') m := by
  unfold projectionReads
  split
  · refine Outline.ensures_bind (Outline.ensures_request fun m₁ hlater₁ _ => ⟨trivial, ?_⟩)
    intro outside cursor store hexec hinv hevolves
    have hcursor := answer_of_answering (Option.some.inj hexec)
    refine Outline.ensures_onward_bind (fun _ _ => trivial) fun current m₂ h₂ => ?_
    exact Outline.ensures_pure
      ⟨m₁.state.tables, order.trans hevolves h₂.evolves, hcursor⟩
  · refine Outline.ensures_onward_bind (fun _ _ => trivial) fun current m₁ h₁ => ?_
    refine Outline.ensures_bind (Outline.ensures_request fun m₂ hlater₂ _ => ⟨trivial, ?_⟩)
    intro outside cursor store hexec hinv hevolves
    have hcursor := answer_of_answering (Option.some.inj hexec)
    exact Outline.ensures_pure ⟨m₂.state.tables, hevolves, hcursor⟩

theorem ensures_rebuild {reads : ProjectionReads}
    (htriggered : Triggered order call.scope reads m) :
    (projectorOutline runtime order).ensures pid (rebuild runtime call.scope reads)
      (fun _ _ => True) m := by
  obtain ⟨triggered, htables, hcursor⟩ := htriggered
  unfold rebuild
  refine Outline.ensures_bind (Outline.ensures_request fun m₁ hlater₁ _ => ⟨trivial, ?_⟩)
  intro outside facts store hexec hinv hevolves
  have hfacts := answer_of_answering (Option.some.inj hexec)
  refine Outline.ensures_onward_bind (fun _ _ => trivial) fun now m₂ h₂ => ?_
  refine Outline.ensures_done_bind fun snapshot hbuilt => ?_
  refine Outline.ensures_request fun m₃ hlater₃ _ => ⟨⟨?_, ?_⟩, fun _ _ _ _ _ _ => trivial⟩
  · have hload : .performed pid (.loadFacts call.scope) (.ok facts) ∈ m₃.past :=
      hlater₃.mem (h₂.past List.mem_cons_self)
    exact loadedAt_of_mem hload rfl
  · refine ⟨triggered, m₁.state.tables, order.trans htables hlater₁.evolves, ?_, hcursor, ?_⟩
    · exact order.trans hevolves (order.trans h₂.evolves hlater₃.evolves)
    · rw [← hfacts, digest_of_build hbuilt]
      exact shownDigest_eq runtime facts now 0

theorem ensures_projectScope :
    (projectorOutline runtime order).ensures pid (projectScope runtime call)
      (fun _ _ => True) m := by
  unfold projectScope
  refine Outline.ensures_onward_bind (fun _ _ => trivial) fun ticket m₁ h₁ => ?_
  refine Outline.ensures_onward_bind (fun _ _ => trivial) fun _ m₂ h₂ => ?_
  refine Outline.ensures_andFinally (fun _ _ => ?_) ?_
  · exact Outline.ensures_request fun _ _ _ => ⟨trivial, fun _ _ _ _ _ _ => trivial⟩
  · unfold project
    refine Outline.ensures_bind (Outline.ensures_mono ensures_projectionReads ?_)
    intro reads m₃ htriggered
    have hlast : ∀ m' : ProjectorMoment, (projectorOutline runtime order).ensures pid
        (await (.leave ticket)) (fun _ _ => True) m' := fun _ =>
      Outline.ensures_request fun _ _ _ => ⟨trivial, fun _ _ _ _ _ _ => trivial⟩
    split
    · exact Outline.ensures_pure (hlast m₃)
    · exact Outline.ensures_mono (ensures_rebuild htriggered) fun _ m₄ _ => hlast m₄

theorem entries : (projectorOutline runtime order).Entries :=
  fun _ _ => Outline.wp_of_ensures ensures_projectScope

end Entries

end Outline

end DevHarness.Workbench
