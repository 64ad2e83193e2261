import DevHarness.SpecApprovals.Service

/-!
# Linear revisions and recorded decisions

The invariant of the tables, what a commit may do to them, and the proof outline: a caller
promises that what it appends was made from revisions that it has read, and that what it
commits was checked against the revision that it decides on.
-/

namespace DevHarness.SpecApprovals

open JsText ControlPlane Interleave Program
open ControlStore (replay)

def SpecRevisionStatus.settled : SpecRevisionStatus → Bool
  | .approved => true
  | .rejected => true
  | _ => false

structure History (store : SpecStore) : Prop where
  ids : (store.revisions.map (·.id)).Nodup
  revisions : ∀ scope, Sql.Chain specNumbering (store.revisionsOf scope)

/-- What becomes of a revision: its identity stays, and nothing changes once it is
settled. -/
structure Advances (row later : SpecRevision) : Prop where
  scope : later.scope = row.scope
  id : later.id = row.id
  revision : later.revision = row.revision
  previous : later.previousRevisionId = row.previousRevisionId
  settled : row.status.settled = true → later = row

theorem Advances.refl (row : SpecRevision) : Advances row row :=
  ⟨rfl, rfl, rfl, rfl, fun _ => rfl⟩

theorem Advances.trans {row later latest : SpecRevision} (h : Advances row later)
    (h' : Advances later latest) : Advances row latest where
  scope := h'.scope.trans h.scope
  id := h'.id.trans h.id
  revision := h'.revision.trans h.revision
  previous := h'.previous.trans h.previous
  settled := by
    intro hsettled
    have heq := h.settled hsettled
    subst heq
    exact h'.settled hsettled

structure Evolves (store later : SpecStore) : Prop where
  revisions : ∀ row ∈ store.revisions, ∃ row' ∈ later.revisions, Advances row row'
  idempotency : store.idempotency <+: later.idempotency

theorem Evolves.refl (store : SpecStore) : Evolves store store :=
  ⟨fun row hrow => ⟨row, hrow, .refl row⟩, List.prefix_rfl⟩

theorem Evolves.trans {store later latest : SpecStore} (h : Evolves store later)
    (h' : Evolves later latest) : Evolves store latest := by
  refine ⟨fun row hrow => ?_, h.idempotency.trans h'.idempotency⟩
  obtain ⟨row', hrow', hadvances⟩ := h.revisions row hrow
  obtain ⟨row'', hrow'', hadvances'⟩ := h'.revisions row' hrow'
  exact ⟨row'', hrow'', hadvances.trans hadvances'⟩

section Reading

variable {store : SpecStore} {scope : GoalScope} {row : SpecRevision}
  {receipt : SpecApprovalReceipt} {lookup : IdempotencyLookup}

theorem mem_revisionsOf : row ∈ store.revisionsOf scope ↔
    row ∈ store.revisions ∧ row.scope = scope := by
  simp [SpecStore.revisionsOf]

theorem History.list_eq (h : History store) : store.list scope = store.revisionsOf scope :=
  (h.revisions scope).orderBy_ascending

theorem History.eq_of_id {row' : SpecRevision} (h : History store)
    (hrow : row ∈ store.revisions) (hrow' : row' ∈ store.revisions) (hid : row.id = row'.id) :
    row = row' :=
  List.inj_on_of_nodup_map h.ids hrow hrow' hid

theorem newest_of_lockLatest {id : JsString} (hlock : store.lockLatest scope id = some row) :
    row.id = id ∧ Sql.Newest specNumbering (store.revisionsOf scope) row := by
  have hfound := List.find?_some hlock
  simp only [decide_eq_true_eq] at hfound
  exact ⟨hfound.1, List.mem_of_find?_eq_some hlock, hfound.2⟩

theorem replay_mono {records later : List (IdempotencyRecord SpecApprovalReceipt)}
    (hlater : records <+: later) (h : replay records lookup = .ok (some receipt)) :
    replay later lookup = .ok (some receipt) := by
  obtain ⟨added, rfl⟩ := hlater
  unfold replay at h ⊢
  split at h
  · cases h
  · next record hrecord =>
    rw [List.find?_append, hrecord]
    exact h

theorem Evolves.findApprovalReceipt {later : SpecStore} (h : Evolves store later)
    (hfound : store.findApprovalReceipt lookup = .ok (some receipt)) :
    later.findApprovalReceipt lookup = .ok (some receipt) :=
  replay_mono h.idempotency hfound

end Reading

section Generation

variable {store earlier next : SpecStore} {input : AppendSpecRevision}

/-- The revision was made from the revisions of `store`. -/
structure RevisionMade (store : SpecStore) (input : AppendSpecRevision) : Prop where
  expected : input.expectedPreviousRevisionId =
    ((store.list input.revision.scope).getLast?).map (·.id)
  number : input.revision.revision =
    (((store.list input.revision.scope).getLast?).map (·.revision)).getD 0 + 1
  previous : input.revision.previousRevisionId =
    ((store.list input.revision.scope).getLast?).map (·.id)

theorem append_eq_ok :
    store.append input = .ok next ↔
      (store.goals input.revision.scope).map (·.version) = some input.expectedGoalVersion ∧
      (Sql.first (Sql.descending specNumbering)
        (store.revisionsOf input.revision.scope)).map (·.id) =
          input.expectedPreviousRevisionId ∧
      (∀ row ∈ store.revisions, row.id ≠ input.revision.id) ∧
      (∀ row ∈ store.revisions, ¬ (row.scope = input.revision.scope ∧
        row.revision = input.revision.revision)) ∧
      next = { store with revisions := store.revisions ++ [input.revision] } := by
  unfold SpecStore.append SpecStore.insertRevision
  dsimp only
  split
  · next h =>
    simp only [reduceCtorEq, false_iff]
    exact fun hall => h hall.1
  · next hversion =>
    split
    · next h =>
      simp only [reduceCtorEq, false_iff]
      exact fun hall => h hall.2.1
    · next hlatest =>
      split
      · next hdup =>
        obtain ⟨row, hrow, hkey⟩ := hdup
        simp only [reduceCtorEq, false_iff]
        rintro ⟨-, -, hids, hnumbers, -⟩
        exact hkey.elim (hids row hrow) (hnumbers row hrow)
      · next hdup =>
        simp only [not_exists, not_and, not_or] at hdup
        simp only [Except.ok.injEq, not_not.mp hversion, not_not.mp hlatest, true_and]
        constructor
        · rintro rfl
          exact ⟨fun row hrow => (hdup row hrow).1,
            fun row hrow hkey => (hdup row hrow).2 hkey.1 hkey.2, rfl⟩
        · rintro ⟨-, -, rfl⟩
          rfl

theorem last_of_revisionMade (hearlier : History earlier) (h : History store)
    (hevolves : Evolves earlier store) (hmade : RevisionMade earlier input)
    (hlatest : (Sql.first (Sql.descending specNumbering) (store.revisionsOf
      input.revision.scope)).map (·.id) = input.expectedPreviousRevisionId) :
    ((store.revisionsOf input.revision.scope).getLast?).map (·.revision) =
        ((earlier.list input.revision.scope).getLast?).map (·.revision) ∧
      ((store.revisionsOf input.revision.scope).getLast?).map (·.id) =
        ((earlier.list input.revision.scope).getLast?).map (·.id) := by
  rw [(h.revisions _).first_descending, hmade.expected] at hlatest
  refine ⟨?_, hlatest⟩
  rw [hearlier.list_eq] at hlatest ⊢
  cases hlast : (store.revisionsOf input.revision.scope).getLast? with
  | none =>
      rw [hlast, Option.map_none] at hlatest
      rw [Option.map_eq_none_iff.mp hlatest.symm]
  | some row =>
      rw [hlast, Option.map_some] at hlatest
      obtain ⟨read, hread, hid⟩ := Option.map_eq_some_iff.mp hlatest.symm
      have hrow := (mem_revisionsOf.mp (List.mem_of_getLast? hlast)).1
      have hreadMem := (mem_revisionsOf.mp (List.mem_of_getLast? hread)).1
      obtain ⟨row', hrow', hadvances⟩ := hevolves.revisions read hreadMem
      have hsame := h.eq_of_id hrow' hrow (hadvances.id.trans hid)
      rw [hread, Option.map_some, Option.map_some, ← hsame, hadvances.revision]

theorem history_append (hearlier : History earlier) (h : History store)
    (hevolves : Evolves earlier store) (hmade : RevisionMade earlier input)
    (hok : store.append input = .ok next) : History next ∧ Evolves store next := by
  obtain ⟨-, hlatest, hids, -, rfl⟩ := append_eq_ok.mp hok
  obtain ⟨hnumber, hid⟩ := last_of_revisionMade hearlier h hevolves hmade hlatest
  refine ⟨⟨?_, fun scope => ?_⟩, ⟨fun row hrow => ?_, List.prefix_rfl⟩⟩
  · change ((store.revisions ++ [input.revision]).map (·.id)).Nodup
    rw [List.map_append, List.map_singleton, List.nodup_append]
    refine ⟨h.ids, List.nodup_singleton _, ?_⟩
    intro a ha b hb
    obtain ⟨row, hrow, rfl⟩ := List.mem_map.mp ha
    rw [List.mem_singleton.mp hb]
    exact hids row hrow
  · change Sql.Chain specNumbering
      ((store.revisions ++ [input.revision]).filter fun row => row.scope = scope)
    rw [List.filter_append]
    by_cases hscope : input.revision.scope = scope
    · subst hscope
      rw [List.filter_cons_of_pos (by simp), List.filter_nil]
      refine (h.revisions _).append ?_ ?_
      · change _ = (((store.revisionsOf input.revision.scope).getLast?).map (·.revision)).getD 0 + 1
        rw [hnumber]
        exact hmade.number
      · change _ = ((store.revisionsOf input.revision.scope).getLast?).map (·.id)
        rw [hid]
        exact hmade.previous
    · rw [List.filter_cons_of_neg (by simpa using hscope), List.filter_nil, List.append_nil]
      exact h.revisions scope
  · exact ⟨row, List.mem_append_left _ hrow, .refl row⟩

end Generation

section Decisions

variable {store next : SpecStore} {input : CommitSpecApproval}

def decidedRow (input : CommitSpecApproval) (row : SpecRevision) : SpecRevision :=
  if row.scope = input.next.scope ∧ row.id = input.next.id ∧
      row.version = input.expectedVersion then
    { row with
      status := input.next.status
      version := row.version + 1
      updatedAt := input.next.updatedAt }
  else row

theorem recordApproval_eq_ok :
    store.recordApproval input = .ok next ↔
      store.goals input.current.scope ≠ none ∧
      ∃ locked, store.lockLatest input.current.scope input.current.id = some locked ∧
        (locked.version = input.expectedVersion ∧ locked.status = input.current.status) ∧
        locked.createdAt ≤ input.next.updatedAt ∧
        approvalStorable input.idempotency.key input.decision = true ∧
        ((∀ row ∈ store.decisions, row.id ≠ input.decision.id) ∧
          ∀ row ∈ store.audits, row.id ≠ input.audit.id) ∧
        next =
          { store with
            revisions := store.revisions.map (decidedRow input)
            decisions := store.decisions ++ [input.decision]
            audits := store.audits ++ [input.audit]
            idempotency := store.idempotency ++ [⟨input.idempotency, input.receipt⟩] } := by
  unfold SpecStore.recordApproval
  split
  · next hgoal => simp [hgoal]
  · next hgoal =>
    cases hlock : store.lockLatest input.current.scope input.current.id with
    | none => simp
    | some locked =>
      simp only [ne_eq, hgoal, not_false_eq_true, true_and, Option.some.injEq, exists_eq_left']
      split
      · next h =>
        simp only [reduceCtorEq, false_iff]
        exact fun hall => h.elim (absurd hall.1.1) (absurd hall.1.2)
      · next hlocked =>
        split
        · next h =>
          simp only [reduceCtorEq, false_iff]
          exact fun hall => absurd hall.2.1 (not_le.mpr h)
        · next hclock =>
          split
          · next h => simp [h]
          · next hstorable =>
            split
            · next h =>
              simp only [reduceCtorEq, false_iff]
              rintro ⟨-, -, -, ⟨hdecisions, haudits⟩, -⟩
              rcases h with ⟨row, hrow, hid⟩ | ⟨row, hrow, hid⟩
              · exact hdecisions row hrow hid
              · exact haudits row hrow hid
            · next hnew =>
              obtain ⟨hversion, hstatus⟩ := not_or.mp hlocked
              have hstorable' := Bool.eq_true_of_not_eq_false hstorable
              simp only [not_or, not_exists, not_and] at hnew
              simp only [Except.ok.injEq, not_not.mp hversion, not_not.mp hstatus, hstorable',
                not_lt.mp hclock, true_and]
              constructor
              · rintro rfl
                exact ⟨⟨hnew.1, hnew.2⟩, rfl⟩
              · rintro ⟨-, rfl⟩
                rfl

theorem decidedRow_scope (input : CommitSpecApproval) (row : SpecRevision) :
    (decidedRow input row).scope = row.scope := by
  unfold decidedRow
  split <;> rfl

theorem decidedRow_id (input : CommitSpecApproval) (row : SpecRevision) :
    (decidedRow input row).id = row.id := by
  unfold decidedRow
  split <;> rfl

theorem decidedRow_revision (input : CommitSpecApproval) (row : SpecRevision) :
    (decidedRow input row).revision = row.revision := by
  unfold decidedRow
  split <;> rfl

theorem decidedRow_previous (input : CommitSpecApproval) (row : SpecRevision) :
    (decidedRow input row).previousRevisionId = row.previousRevisionId := by
  unfold decidedRow
  split <;> rfl

theorem history_recordApproval (h : History store) (hnext : input.next.id = input.current.id)
    (hopen : input.current.status.settled = false) (hok : store.recordApproval input = .ok next) :
    History next ∧ Evolves store next := by
  obtain ⟨-, locked, hlock, ⟨hversion, hstatus⟩, -, -, -, rfl⟩ := recordApproval_eq_ok.mp hok
  obtain ⟨hlockedId, hnewest⟩ := newest_of_lockLatest hlock
  have hlockedMem := (mem_revisionsOf.mp hnewest.mem).1
  refine ⟨⟨?_, fun scope => ?_⟩, ⟨fun row hrow => ?_, List.prefix_append _ _⟩⟩
  · change ((store.revisions.map (decidedRow input)).map (·.id)).Nodup
    rw [List.map_map]
    have heq : ((·.id) ∘ decidedRow input : SpecRevision → JsString) = (·.id) :=
      funext fun row => decidedRow_id input row
    rw [heq]
    exact h.ids
  · change Sql.Chain specNumbering
      ((store.revisions.map (decidedRow input)).filter fun row => row.scope = scope)
    have heq : ((store.revisions.map (decidedRow input)).filter fun row => row.scope = scope) =
        (store.revisionsOf scope).map (decidedRow input) := by
      rw [List.filter_map]
      refine congrArg (List.map (decidedRow input)) (List.filter_congr fun row _ => ?_)
      simp only [Function.comp, decidedRow_scope]
    rw [heq]
    exact (h.revisions scope).map (fun row _ => decidedRow_revision input row)
      (fun row _ => decidedRow_id input row) fun row _ => decidedRow_previous input row
  · refine ⟨decidedRow input row, List.mem_map_of_mem hrow, decidedRow_scope input row,
      decidedRow_id input row, decidedRow_revision input row, decidedRow_previous input row, ?_⟩
    intro hsettled
    unfold decidedRow
    split
    · next hrowIs =>
      have hsame := h.eq_of_id hrow hlockedMem
        (hrowIs.2.1.trans (hnext.trans hlockedId.symm))
      rw [hsame, hstatus, hopen] at hsettled
      cases hsettled
    · rfl

end Decisions

end DevHarness.SpecApprovals
