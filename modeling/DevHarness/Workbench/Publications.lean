import DevHarness.Interleave.Outline
import DevHarness.Workbench.Projector

/-!
# The history of a projection

What a publish does to the stored projections, and what the past of a run says of the
revisions of a scope: who published them, and which authoritative updates each publisher
had seen when it loaded its facts.
-/

namespace DevHarness.Workbench

open JsText Interleave Program
open ControlPlane (Thrown)

/-! ## One publish -/

namespace ProjectionTable

variable {table : ProjectionTable} {projection : Projection} {input : PublishInput}
  {state : WorkbenchProjectionState} {next : ProjectionTable} {scope : WorkbenchProjectionScope}

theorem get_put : (ProjectionTable.put table projection).get scope =
    if scope = projection.scope then some projection else table.get scope := by
  rw [ProjectionTable.put, Sql.Table.get_insertNew, Sql.Table.get_updateWhere]
  by_cases hscope : scope = projection.scope
  · subst hscope
    rw [if_pos rfl]
    cases hget : table.get projection.scope with
    | none => simp
    | some row =>
        have hrow : row.scope = projection.scope := Sql.Table.key_of_get hget
        simp [hrow]
  · rw [if_neg (fun h => hscope h.1.symm), if_neg hscope]
    cases hget : table.get scope with
    | none => rfl
    | some row =>
        have hrow : row.scope = scope := Sql.Table.key_of_get hget
        have hne : ¬ row.scope = projection.scope := by
          rw [hrow]
          exact hscope
        simp [hne]

theorem get_advance {cursor : Option WorkbenchProjectionCursor}
    {scope' : WorkbenchProjectionScope} :
    (ProjectionTable.advance table scope cursor).get scope' =
      (table.get scope').map fun row =>
        if scope' = scope then { row with cursor := cursor } else row := by
  rw [ProjectionTable.advance, Sql.Table.get_updateWhere]
  cases hget : table.get scope' with
  | none => rfl
  | some row =>
      have hrow : row.scope = scope' := Sql.Table.key_of_get hget
      simp [hrow]

/-- What a publish does, when it succeeds: the checkpoint of an unchanged digest takes the
cursor, or there is a new revision. -/
inductive Published (table : ProjectionTable) (input : PublishInput) :
    WorkbenchProjectionState → ProjectionTable → Prop
  | advanced (row : Projection) (hrow : table.get input.scope = some row)
      (hdigest : row.digest = input.digest) :
      Published table input { row with cursor := input.cursor }.state
        (ProjectionTable.advance table input.scope input.cursor)
  | created (hdigest : (table.get input.scope).map (·.digest) ≠ some input.digest) :
      Published table input
        (input.projection (((table.get input.scope).map (·.revision)).getD 0 + 1)).state
        (ProjectionTable.put table
          (input.projection (((table.get input.scope).map (·.revision)).getD 0 + 1)))

theorem published_of_publish (h : ProjectionTable.publish table input = (.ok state, next)) :
    Published table input state next := by
  unfold ProjectionTable.publish at h
  by_cases hdigest : (table.get input.scope).map (·.digest) = some input.digest
  · obtain ⟨row, hrow, hrowDigest⟩ := Option.map_eq_some_iff.mp hdigest
    have hread : ProjectionTable.readState
        (ProjectionTable.advance table input.scope input.cursor) input.scope =
        some { row with cursor := input.cursor }.state := by
      rw [ProjectionTable.readState, get_advance, hrow]
      simp
    simp only [hdigest, hread, if_true] at h
    obtain ⟨hstate, rfl⟩ := Prod.mk.inj h
    rw [← Except.ok.inj hstate]
    exact .advanced row hrow hrowDigest
  · simp only [hdigest, if_false] at h
    split at h
    · obtain ⟨hstate, rfl⟩ := Prod.mk.inj h
      rw [← Except.ok.inj hstate]
      exact .created hdigest
    · cases (Prod.mk.inj h).1

theorem publish_error {error : Thrown}
    (h : ProjectionTable.publish table input = (.error error, next)) : next = table := by
  unfold ProjectionTable.publish at h
  by_cases hdigest : (table.get input.scope).map (·.digest) = some input.digest
  · obtain ⟨row, hrow, -⟩ := Option.map_eq_some_iff.mp hdigest
    have hread : ProjectionTable.readState
        (ProjectionTable.advance table input.scope input.cursor) input.scope =
        some { row with cursor := input.cursor }.state := by
      rw [ProjectionTable.readState, get_advance, hrow]
      simp
    simp only [hdigest, hread, if_true] at h
    cases (Prod.mk.inj h).1
  · simp only [hdigest, if_false] at h
    split at h
    · cases (Prod.mk.inj h).1
    · exact (Prod.mk.inj h).2.symm

section

variable (h : Published table input state next)

include h

theorem Published.readState_of_ne (hscope : scope ≠ input.scope) :
    ProjectionTable.readState next scope = ProjectionTable.readState table scope := by
  cases h with
  | advanced row hrow hdigest =>
      rw [ProjectionTable.readState, get_advance, ProjectionTable.readState]
      simp [hscope]
  | created hdigest =>
      have hne : ¬ scope = (input.projection
          (((table.get input.scope).map (·.revision)).getD 0 + 1)).scope := hscope
      rw [ProjectionTable.readState, get_put, if_neg hne, ProjectionTable.readState]

theorem Published.readState_self : ProjectionTable.readState next input.scope = some state := by
  cases h with
  | advanced row hrow hdigest =>
      rw [ProjectionTable.readState, get_advance, hrow]
      simp
  | created hdigest =>
      rw [ProjectionTable.readState, get_put]
      simp only [PublishInput.projection, if_true, Option.map_some]

theorem Published.cursor : state.cursor = input.cursor := by
  cases h with
  | advanced row hrow hdigest => rfl
  | created hdigest => rfl

theorem Published.digest : state.digest = input.digest := by
  cases h with
  | advanced row hrow hdigest => exact hdigest
  | created hdigest => rfl

end

end ProjectionTable

/-! ## Publishers -/

def updates (past : List ProjectorEvent) : List AuthoritativeTables :=
  past.filterMap fun e => match e with
    | .changed tables => some tables
    | _ => none

def loader : ProjectorEvent → Option ℕ
  | .performed pid (.loadFacts _) (.ok _) => some pid
  | _ => none

def loadedAt (pid : ℕ) : List ProjectorEvent → Option (List ProjectorEvent)
  | [] => none
  | e :: past =>
    match loadedAt pid past with
    | some before => some before
    | none => if loader e = some pid then some past else none

/-- Process `pid` has published a revision. -/
structure Publication where
  pid : ℕ
  revision : ℕ
  deriving DecidableEq

def published (scope : WorkbenchProjectionScope) : ProjectorEvent → Option Publication
  | .performed pid (.publish input) (.ok state) =>
    if input.scope = scope then some ⟨pid, state.revision⟩ else none
  | _ => none

/-- The publications of a scope, newest first.  A publish of what is stored answers the
revision that is stored. -/
def publications (scope : WorkbenchProjectionScope) : List ProjectorEvent → List Publication
  | [] => []
  | e :: past =>
    match published scope e with
    | some p =>
      if (publications scope past).head?.map (·.revision) = some p.revision then
        publications scope past
      else p :: publications scope past
    | none => publications scope past

section Past

variable {past later : List ProjectorEvent} {e : ProjectorEvent} {pid : ℕ}
  {before : List ProjectorEvent} {p : Publication}

theorem updates_suffix (h : past <:+ later) : updates past <:+ updates later :=
  h.filterMap _

theorem loadedAt_cons (h : loadedAt pid past = some before) :
    loadedAt pid (e :: past) = some before := by
  simp only [loadedAt, h]

theorem loadedAt_of_suffix (hsuffix : past <:+ later) (h : loadedAt pid past = some before) :
    loadedAt pid later = some before := by
  obtain ⟨added, rfl⟩ := hsuffix
  induction added with
  | nil => exact h
  | cons e added ih => exact loadedAt_cons ih

theorem suffix_of_loadedAt (h : loadedAt pid past = some before) : before <:+ past := by
  induction past with
  | nil => cases h
  | cons e past ih =>
      simp only [loadedAt] at h
      split at h
      · next before' hbefore =>
        obtain rfl := Option.some.inj h
        exact (ih hbefore).trans (List.suffix_cons e past)
      · split at h
        · obtain rfl := Option.some.inj h
          exact List.suffix_cons e past
        · cases h

theorem loadedAt_of_mem (he : e ∈ past) (hloader : loader e = some pid) :
    (loadedAt pid past).isSome := by
  induction past with
  | nil => exact absurd he List.not_mem_nil
  | cons first past ih =>
      simp only [loadedAt]
      split
      · rfl
      · next hnone =>
        rcases List.mem_cons.mp he with rfl | hold
        · rw [if_pos hloader]
          rfl
        · have hsome := ih hold
          rw [hnone] at hsome
          cases hsome

theorem publications_cons (scope : WorkbenchProjectionScope) (e : ProjectorEvent)
    (past : List ProjectorEvent) : publications scope (e :: past) = publications scope past ∨
    ∃ p, published scope e = some p ∧
      (publications scope past).head?.map (·.revision) ≠ some p.revision ∧
      publications scope (e :: past) = p :: publications scope past := by
  simp only [publications]
  split
  · next p hp =>
    by_cases hsame : (publications scope past).head?.map (·.revision) = some p.revision
    · rw [if_pos hsame]
      exact .inl rfl
    · rw [if_neg hsame]
      exact .inr ⟨p, hp, hsame, rfl⟩
  · exact .inl rfl

theorem publications_cons_of_none (h : published scope e = none) :
    publications scope (e :: past) = publications scope past := by
  simp only [publications, h]

/-- At every point of the past, each publisher had loaded its facts. -/
def LoadsFirst (past : List ProjectorEvent) : Prop :=
  ∀ earlier, earlier <:+ past → ∀ scope, ∀ p ∈ publications scope earlier,
    (loadedAt p.pid earlier).isSome

theorem LoadsFirst.of_suffix (h : LoadsFirst later) (hsuffix : past <:+ later) :
    LoadsFirst past :=
  fun _ hearlier => h _ (hearlier.trans hsuffix)

theorem LoadsFirst.loaded (h : LoadsFirst past) (hp : p ∈ publications scope past) :
    ∃ before, loadedAt p.pid past = some before :=
  Option.isSome_iff_exists.mp (h past List.suffix_rfl scope p hp)

theorem LoadsFirst.cons (h : LoadsFirst past)
    (hnew : ∀ scope p, published scope e = some p → (loadedAt p.pid past).isSome) :
    LoadsFirst (e :: past) := by
  intro earlier hearlier scope p hp
  rcases List.suffix_cons_iff.mp hearlier with rfl | hsuffix
  · have hkept : ∀ {q : ℕ}, (loadedAt q past).isSome → (loadedAt q (e :: past)).isSome := by
      intro q hq
      obtain ⟨before, hbefore⟩ := Option.isSome_iff_exists.mp hq
      rw [loadedAt_cons hbefore]
      rfl
    rcases publications_cons scope e past with hsame | ⟨new, hpublished, -, hadded⟩
    · rw [hsame] at hp
      exact hkept (h past List.suffix_rfl scope p hp)
    · rw [hadded] at hp
      rcases List.mem_cons.mp hp with rfl | hold
      · exact hkept (hnew scope p hpublished)
      · exact hkept (h past List.suffix_rfl scope p hold)
  · exact h earlier hsuffix scope p hp

/-- Whatever the older publisher had seen, the newer one had seen. -/
structure Newer (past : List ProjectorEvent) (newer older : Publication) : Prop where
  revision : older.revision < newer.revision
  seen : ∃ before before', loadedAt older.pid past = some before ∧
    loadedAt newer.pid past = some before' ∧ updates before <:+ updates before'

theorem Newer.of_suffix {newer older : Publication} (h : Newer past newer older)
    (hsuffix : past <:+ later) : Newer later newer older where
  revision := h.revision
  seen := by
    obtain ⟨before, before', hbefore, hbefore', hseen⟩ := h.seen
    exact ⟨before, before', loadedAt_of_suffix hsuffix hbefore,
      loadedAt_of_suffix hsuffix hbefore', hseen⟩

end Past

end DevHarness.Workbench
