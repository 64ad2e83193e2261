import DevHarness.Evidence.Repository

/-!
# What the tables hold

The metadata of an object are those of the first record with its text in its project; a run
is linked to a text when it saved that text under the kind of this first record.
-/

namespace DevHarness.Evidence

open JsText
open ControlPlane (Thrown plainError)
open Workbench (ArtifactKind)
open PostgresEvidenceRepository

variable {runs : Sql.Table EvidenceScope.runId} {tables : EvidenceTables}
  {record : ArtifactEvidenceRecord}

section Tracks

variable {records : List ArtifactEvidenceRecord} {first : ArtifactEvidenceRecord}
  {project : ArtifactObjectScope} {digest : JsString}

def firstOf (records : List ArtifactEvidenceRecord) (project : ArtifactObjectScope)
    (digest : JsString) : Option ArtifactEvidenceRecord :=
  records.find? fun record => record.scope.project = project ∧ record.digest = digest

theorem mem_of_firstOf (h : firstOf records project digest = some first) :
    first ∈ records ∧ first.scope.project = project ∧ first.digest = digest := by
  have htext := List.find?_some h
  exact ⟨List.mem_of_find?_eq_some h, of_decide_eq_true htext⟩

theorem exists_firstOf (h : record ∈ records) :
    ∃ first, firstOf records record.scope.project record.digest = some first := by
  apply Option.isSome_iff_exists.mp
  rw [firstOf, List.find?_isSome]
  exact ⟨record, h, decide_eq_true ⟨rfl, rfl⟩⟩

theorem firstOf_append_of_some (h : firstOf records project digest = some first) :
    firstOf (records ++ [record]) project digest = some first := by
  rw [firstOf, List.find?_append, show records.find? _ = some first from h, Option.some_or]

theorem firstOf_append_of_none (h : firstOf records project digest = none) :
    firstOf (records ++ [record]) project digest =
      if record.scope.project = project ∧ record.digest = digest then some record else none := by
  rw [firstOf, List.find?_append, show records.find? _ = none from h, Option.none_or,
    List.find?_singleton]
  simp only [decide_eq_true_eq]

theorem firstOf_append_self_of_none
    (h : firstOf records record.scope.project record.digest = none) :
    firstOf (records ++ [record]) record.scope.project record.digest = some record := by
  rw [firstOf_append_of_none h, if_pos ⟨rfl, rfl⟩]

/-- Records as ingestions make them: the key of an object is that of its text, the columns
take the texts, the run exists, and the ids differ. -/
structure Savable (runs : Sql.Table EvidenceScope.runId) (records : List ArtifactEvidenceRecord) :
    Prop where
  key : ∀ record ∈ records, record.objectKey = objectKeyOf record.scope.project record.digest
  texts : ∀ record ∈ records, isText record.mediaType = true ∧ isText record.createdBy = true
  run : ∀ record ∈ records, record.scope ∈ runs.rows
  ids : (records.map (·.id)).Nodup

/-- The tables hold what these records leave. -/
structure Tracks (runs : Sql.Table EvidenceScope.runId) (tables : EvidenceTables)
    (records : List ArtifactEvidenceRecord) : Prop where
  objects : ∀ row, row ∈ tables.objects.rows ↔
    ∃ first, firstOf records row.project row.digest = some first ∧ objectRow first = row
  evidence : ∀ scope kind digest,
    (∃ row ∈ tables.evidence.rows, row.scope = scope ∧ row.kind = kind ∧ row.digest = digest) ↔
      ∃ record ∈ records, ∃ first, firstOf records scope.project digest = some first ∧
        record.scope = scope ∧ record.digest = digest ∧ record.kind = first.kind ∧
        kind = evidenceKind first.kind
  runs : tables.runs = runs

theorem tracks_ofRuns : Tracks runs (.ofRuns runs) [] where
  objects := by
    intro row
    constructor
    · intro hrow
      cases hrow
    · rintro ⟨first, hfirst, -⟩
      cases hfirst
  evidence := by
    intro scope kind digest
    constructor
    · rintro ⟨row, hrow, -⟩
      cases hrow
    · rintro ⟨record, hrecord, -⟩
      cases hrecord
  runs := rfl

theorem objectKeyOf_injective {digest' : JsString}
    (h : objectKeyOf project digest = objectKeyOf project digest') : digest = digest' :=
  List.append_cancel_left h

section

variable (h : Tracks runs tables records)

include h

/-- The row that a record finds is that of the first record with its text, when this has
its kind. -/
theorem findObject_of_tracks (record : ArtifactEvidenceRecord) :
    findObject tables record =
      ((firstOf records record.scope.project record.digest).filter
        fun first => first.kind = record.kind).map objectRow := by
  rcases hfind : findObject tables record with - | row
  · rcases hfirst : firstOf records record.scope.project record.digest with - | first
    · rfl
    · by_cases hkind : first.kind = record.kind
      · obtain ⟨-, hproject, hdigest⟩ := mem_of_firstOf hfirst
        have hmem : objectRow first ∈ tables.objects.rows := by
          rw [h.objects]
          refine ⟨first, ?_, rfl⟩
          rw [show (objectRow first).project = first.scope.project from rfl, hproject,
            show (objectRow first).digest = first.digest from rfl, hdigest, hfirst]
        have hnone := List.find?_eq_none.mp hfind (objectRow first) hmem
        exact (hnone (decide_eq_true ⟨hproject, hkind, hdigest⟩)).elim
      · simp only [Option.filter_some, decide_eq_true_eq, hkind, if_false, Option.map_none]
  · have hcolumns := List.find?_some hfind
    obtain ⟨hproject, hkind, hdigest⟩ := of_decide_eq_true hcolumns
    obtain ⟨first, hfirst, rfl⟩ := (h.objects row).mp (List.mem_of_find?_eq_some hfind)
    rw [hproject, hdigest] at hfirst
    have hkind' : first.kind = record.kind := hkind
    rw [hfirst]
    simp only [Option.filter_some, decide_eq_true_eq, hkind', if_true, Option.map_some]

theorem insertObject_of_other_kind (hsavable : Savable runs (records ++ [record]))
    (hfirst : firstOf records record.scope.project record.digest = some first)
    (hkind : first.kind ≠ record.kind) : insertObject tables record = none := by
  have hfind : findObject tables record = none := by
    rw [findObject_of_tracks h, hfirst]
    simp only [Option.filter_some, decide_eq_true_eq, hkind, if_false, Option.map_none]
  obtain ⟨hmem, hproject, hdigest⟩ := mem_of_firstOf hfirst
  have hstored : objectRow first ∈ tables.objects.rows := by
    rw [h.objects]
    refine ⟨first, ?_, rfl⟩
    rw [show (objectRow first).project = first.scope.project from rfl, hproject,
      show (objectRow first).digest = first.digest from rfl, hdigest, hfirst]
  have hplace : (objectRow record).place = (objectRow first).place := by
    have hkey := hsavable.key record (List.mem_append_right _ (List.mem_singleton_self _))
    have hkey' := hsavable.key first (List.mem_append_left _ hmem)
    rw [hproject, hdigest, ← hkey] at hkey'
    exact Prod.ext hproject.symm hkey'.symm
  rw [insertObject, hfind]
  apply Option.map_eq_none_iff.mpr
  rw [Sql.Indexed.insert, dif_neg]
  rintro ⟨-, hfree⟩
  apply hfree
  rw [hplace]
  exact List.mem_map_of_mem hstored

theorem insertObject_of_kind
    (hfirst : firstOf records record.scope.project record.digest = some first)
    (hkind : first.kind = record.kind) : insertObject tables record = some tables := by
  have hfind : findObject tables record = some (objectRow first) := by
    rw [findObject_of_tracks h, hfirst]
    simp only [Option.filter_some, decide_eq_true_eq, hkind, if_true, Option.map_some]
  rw [insertObject, hfind]

theorem insertObject_of_new (hsavable : Savable runs (records ++ [record]))
    (hfirst : firstOf records record.scope.project record.digest = none) :
    ∃ inserted, insertObject tables record = some inserted ∧
      inserted.objects.rows = tables.objects.rows ++ [objectRow record] ∧
      inserted.evidence = tables.evidence ∧ inserted.runs = tables.runs := by
  have hfind : findObject tables record = none := by
    rw [findObject_of_tracks h, hfirst]
    rfl
  have hid : (objectRow record).id ∉ tables.objects.rows.map StoredObjectRow.id := by
    intro hmem
    obtain ⟨row, hrow, hid⟩ := List.mem_map.mp hmem
    obtain ⟨first, hfirst', rfl⟩ := (h.objects row).mp hrow
    have hids := hsavable.ids
    rw [List.map_append, List.nodup_append] at hids
    exact hids.2.2 first.id (List.mem_map_of_mem (mem_of_firstOf hfirst').1) record.id
      (List.mem_singleton_self _) hid
  have hplace : (objectRow record).place ∉ tables.objects.rows.map StoredObjectRow.place := by
    intro hmem
    obtain ⟨row, hrow, hplace⟩ := List.mem_map.mp hmem
    obtain ⟨first, hfirst', rfl⟩ := (h.objects row).mp hrow
    obtain ⟨hproject, hobject⟩ := Prod.mk.inj hplace
    have hkey := hsavable.key record (List.mem_append_right _ (List.mem_singleton_self _))
    have hkey' := hsavable.key first (List.mem_append_left _ (mem_of_firstOf hfirst').1)
    have hkeys : objectKeyOf record.scope.project first.digest =
        objectKeyOf record.scope.project record.digest := by
      rw [← hkey, ← show first.scope.project = record.scope.project from hproject, ← hkey']
      exact hobject
    have hdigest : first.digest = record.digest := objectKeyOf_injective hkeys
    rw [hproject, show (objectRow first).digest = first.digest from rfl, hdigest] at hfirst'
    exact Option.some_ne_none _ (hfirst'.symm.trans hfirst)
  have hinsert : ∃ objects, tables.objects.insert (objectRow record) = some objects := by
    rw [Sql.Indexed.insert, dif_pos ⟨hid, hplace⟩]
    exact ⟨_, rfl⟩
  obtain ⟨objects, hobjects⟩ := hinsert
  refine ⟨{ tables with objects := objects }, ?_, Sql.Indexed.rows_of_insert hobjects, rfl, rfl⟩
  rw [insertObject, hfind]
  simp only [hobjects, Option.map_some]

/-- What `saveArtifact` comes to: a conflict with another kind, or the record of the first
that saved this text. -/
theorem saveArtifact_cases (hsavable : Savable runs (records ++ [record])) :
    (∃ first, firstOf records record.scope.project record.digest = some first ∧
      first.kind ≠ record.kind ∧ saveArtifact tables record = (.error duplicateKey, tables)) ∨
    ∃ first inserted,
      firstOf (records ++ [record]) record.scope.project record.digest = some first ∧
      first.kind = record.kind ∧
      saveArtifact tables record = (.ok (mapArtifact record.scope (objectRow first)),
        insertEvidence inserted (mapArtifact record.scope (objectRow first))) ∧
      inserted.evidence = tables.evidence ∧
      inserted.objects.rows = tables.objects.rows ++
        (if firstOf records record.scope.project record.digest = none then [objectRow record]
          else []) ∧
      inserted.runs = runs := by
  have hlast : record ∈ records ++ [record] :=
    List.mem_append_right _ (List.mem_singleton_self _)
  obtain ⟨hmedia, hcreator⟩ := hsavable.texts record hlast
  have hrun := hsavable.run record hlast
  by_cases hnone : firstOf records record.scope.project record.digest = none
  · right
    obtain ⟨inserted, hinsert, hrows, hevidence, hruns⟩ := insertObject_of_new h hsavable hnone
    have hfind : findObject inserted record = some (objectRow record) := by
      have hnew : findObject tables record = none := by
        rw [findObject_of_tracks h, hnone]
        rfl
      rw [findObject, hrows, List.find?_append,
        show tables.objects.rows.find? _ = none from hnew, Option.none_or, List.find?_singleton,
        if_pos (decide_eq_true ⟨rfl, rfl, rfl⟩)]
    refine ⟨record, inserted, firstOf_append_self_of_none hnone, rfl, ?_, hevidence, ?_,
      hruns.trans h.runs⟩
    · rw [saveArtifact, hmedia, hcreator, hinsert]
      simp only [Bool.not_true, Bool.or_self, Bool.false_eq_true, if_false, hfind, h.runs,
        hrun, if_true]
    · rw [hrows, if_pos hnone]
  · obtain ⟨first, hfirst⟩ := Option.ne_none_iff_exists'.mp hnone
    by_cases hkind : first.kind = record.kind
    · right
      have hinsert := insertObject_of_kind h hfirst hkind
      have hfind : findObject tables record = some (objectRow first) := by
        rw [findObject_of_tracks h, hfirst]
        simp only [Option.filter_some, decide_eq_true_eq, hkind, if_true, Option.map_some]
      refine ⟨first, tables, firstOf_append_of_some hfirst, hkind, ?_, rfl, ?_, h.runs⟩
      · rw [saveArtifact, hmedia, hcreator, hinsert]
        simp only [Bool.not_true, Bool.or_self, Bool.false_eq_true, if_false, hfind, h.runs,
          hrun, if_true]
      · rw [if_neg hnone, List.append_nil]
    · left
      have hinsert := insertObject_of_other_kind h hsavable hfirst hkind
      refine ⟨first, hfirst, hkind, ?_⟩
      rw [saveArtifact, hmedia, hcreator, hinsert]
      simp only [Bool.not_true, Bool.or_self, Bool.false_eq_true, if_false]

end

/-- The rows of an insertion with `DO NOTHING`, up to the columns that say what is linked. -/
theorem exists_insertNew_iff {evidence : Sql.Table EvidenceRow.key} {row : EvidenceRow}
    {scope : EvidenceScope} {kind : EvidenceKind}
    (hsame : ∀ other ∈ evidence.rows, other.key = row.key → other.scope = row.scope) :
    (∃ other ∈ (evidence.insertNew row).rows,
        other.scope = scope ∧ other.kind = kind ∧ other.digest = digest) ↔
      (∃ other ∈ evidence.rows,
        other.scope = scope ∧ other.kind = kind ∧ other.digest = digest) ∨
      (row.scope = scope ∧ row.kind = kind ∧ row.digest = digest) := by
  constructor
  · rintro ⟨other, hother, hcolumns⟩
    rcases Sql.Table.of_mem_insertNew hother with rfl | hold
    · exact .inr hcolumns
    · exact .inl ⟨other, hold, hcolumns⟩
  · rintro (⟨other, hother, hcolumns⟩ | ⟨rfl, rfl, rfl⟩)
    · exact ⟨other, Sql.Table.mem_insertNew hother, hcolumns⟩
    · by_cases hkey : row.key ∈ evidence.rows.map EvidenceRow.key
      · obtain ⟨other, hother, hkeys⟩ := List.mem_map.mp hkey
        have hscope := hsame other hother hkeys
        have hkind : other.kind = row.kind := congrArg EvidenceKey.kind hkeys
        have hdigest : other.digest = row.digest := congrArg EvidenceKey.digest hkeys
        exact ⟨other, Sql.Table.mem_insertNew hother, hscope, hkind, hdigest⟩
      · refine ⟨row, ?_, rfl, rfl, rfl⟩
        rw [Sql.Table.insertNew, dif_neg hkey]
        exact List.mem_append_right _ (List.mem_singleton_self _)

theorem scope_of_runs {scope scope' : EvidenceScope} (hscope : scope ∈ runs.rows)
    (hscope' : scope' ∈ runs.rows) (hrun : scope.runId = scope'.runId) : scope = scope' :=
  runs.eq_of_key_eq hscope hscope' hrun

theorem tracks_saveArtifact (h : Tracks runs tables records)
    (hsavable : Savable runs (records ++ [record])) :
    Tracks runs (saveArtifact tables record).2 (records ++ [record]) := by
  have hlater : ∀ {project digest first}, firstOf records project digest = some first →
      firstOf (records ++ [record]) project digest = some first :=
    fun hfirst => firstOf_append_of_some hfirst
  rcases saveArtifact_cases h hsavable with
    ⟨first, hfirst, hkind, hsave⟩ |
    ⟨first, inserted, hfirst, hkind, hsave, hevidence, hrows, hruns⟩
  · -- the conflict leaves the tables, and the record links its run to nothing
    rw [hsave]
    have hsome : ∀ project digest,
        firstOf (records ++ [record]) project digest = firstOf records project digest := by
      intro project digest
      rcases hold : firstOf records project digest with - | earlier
      · rw [firstOf_append_of_none hold, if_neg]
        rintro ⟨rfl, rfl⟩
        exact Option.some_ne_none _ (hfirst.symm.trans hold)
      · exact hlater hold
    refine ⟨?_, ?_, h.runs⟩
    · intro row
      rw [h.objects, hsome]
    · intro scope kind digest
      rw [h.evidence, hsome]
      constructor
      · rintro ⟨saved, hsaved, hrest⟩
        exact ⟨saved, List.mem_append_left _ hsaved, hrest⟩
      · rintro ⟨saved, hsaved, first', hfirst', hscope, hdigest, hkind', hrest⟩
        rcases List.mem_append.mp hsaved with hold | hnew
        · exact ⟨saved, hold, first', hfirst', hscope, hdigest, hkind', hrest⟩
        · obtain rfl := List.mem_singleton.mp hnew
          subst hscope hdigest
          rw [hfirst] at hfirst'
          rw [Option.some.inj hfirst'] at hkind
          exact (hkind hkind'.symm).elim
  · rw [hsave]
    obtain ⟨hmem, hproject, hdigest⟩ := mem_of_firstOf hfirst
    have hrun := hsavable.run record (List.mem_append_right _ (List.mem_singleton_self _))
    refine ⟨?_, ?_, hruns⟩
    · intro row
      rw [show (insertEvidence inserted _).objects = inserted.objects from rfl, hrows,
        List.mem_append, h.objects]
      constructor
      · rintro (⟨first', hfirst', hrow⟩ | hnew)
        · exact ⟨first', hlater hfirst', hrow⟩
        · split at hnew
          · next hnone =>
            obtain rfl := List.mem_singleton.mp hnew
            exact ⟨record, firstOf_append_self_of_none hnone, rfl⟩
          · cases hnew
      · rintro ⟨first', hfirst', hrow⟩
        rcases hold : firstOf records row.project row.digest with - | earlier
        · right
          rw [firstOf_append_of_none hold] at hfirst'
          split at hfirst'
          · next hcolumns =>
            obtain rfl := Option.some.inj hfirst'
            rw [hcolumns.1, hcolumns.2, if_pos hold, ← hrow]
            exact List.mem_singleton_self _
          · cases hfirst'
        · left
          rw [hlater hold] at hfirst'
          exact ⟨first', hfirst', hrow⟩
    · intro scope kind digest
      have hsame : ∀ other ∈ tables.evidence.rows,
          other.key = (evidenceRow (mapArtifact record.scope (objectRow first))).key →
          other.scope = (evidenceRow (mapArtifact record.scope (objectRow first))).scope := by
        intro other hother hkey
        obtain ⟨saved, hsaved, -, -, hscope, -⟩ :=
          (h.evidence other.scope other.kind other.digest).mp ⟨other, hother, rfl, rfl, rfl⟩
        have hsavedRun := hsavable.run saved (List.mem_append_left _ hsaved)
        rw [hscope] at hsavedRun
        exact scope_of_runs hsavedRun hrun (congrArg EvidenceKey.runId hkey)
      rw [show (insertEvidence inserted (mapArtifact record.scope (objectRow first))).evidence =
          tables.evidence.insertNew (evidenceRow (mapArtifact record.scope (objectRow first)))
        from by rw [insertEvidence, hevidence], exists_insertNew_iff hsame, h.evidence]
      constructor
      · rintro (⟨saved, hsaved, first', hfirst', hrest⟩ | ⟨hscope, hkind', hdigest'⟩)
        · exact ⟨saved, List.mem_append_left _ hsaved, first', hlater hfirst', hrest⟩
        · have hscope : record.scope = scope := hscope
          have hdigest' : first.digest = digest := hdigest'
          refine ⟨record, List.mem_append_right _ (List.mem_singleton_self _), first, ?_, hscope,
            hdigest.symm.trans hdigest', hkind.symm, hkind'.symm⟩
          rw [← hscope, ← hdigest', hdigest]
          exact hfirst
      · rintro ⟨saved, hsaved, first', hfirst', hscope, hdigest', hkind', hrest⟩
        rcases List.mem_append.mp hsaved with hold | hnew
        · left
          obtain ⟨earlier, hearlier⟩ := exists_firstOf hold
          rw [hscope, hdigest'] at hearlier
          obtain rfl := Option.some.inj (hfirst'.symm.trans (hlater hearlier))
          exact ⟨saved, hold, first', hearlier, hscope, hdigest', hkind', hrest⟩
        · right
          obtain rfl := List.mem_singleton.mp hnew
          subst hscope hdigest'
          obtain rfl := Option.some.inj (hfirst.symm.trans hfirst')
          exact ⟨rfl, hrest.symm, hdigest⟩

end Tracks

section Histories

variable {runtime : IngestionRuntime} {settings : IngestionSettings} {ingestion : Ingestion}
  {ingestions : List Ingestion}

theorem putImmutable_eq_ok {upload : ImmutableObjectUpload}
    {descriptor : ImmutableObjectDescriptor}
    (h : putImmutable runtime upload = .ok descriptor) :
    descriptor =
      { objectKey := objectKeyOf upload.scope (runtime.sha256 upload.body)
        digest := runtime.sha256 upload.body
        mediaType := upload.mediaType
        sizeBytes := upload.body.length } := by
  simp only [putImmutable, ControlPlane.bind_eq_ok] at h
  obtain ⟨-, -, -, -, objectKey, hkey, hdescriptor⟩ := h
  simp only [scopedObjectKey, ControlPlane.bind_eq_ok] at hkey
  obtain ⟨-, -, -, -, hkey⟩ := hkey
  rw [← Except.ok.inj hdescriptor, ← Except.ok.inj hkey]

def Ingestion.recordOf (runtime : IngestionRuntime) (ingestion : Ingestion) (bytes : Bytes) :
    ArtifactEvidenceRecord where
  id := ingestion.id
  scope := ingestion.input.scope
  kind := ingestion.input.kind
  objectKey := objectKeyOf ingestion.input.scope.project (runtime.sha256 bytes)
  digest := runtime.sha256 bytes
  mediaType := ingestion.input.mediaType
  sizeBytes := bytes.length
  createdBy := ingestion.input.createdBy
  retentionPolicy := ingestion.input.retentionPolicy
  retentionUntil := retentionUntil ingestion.input.retentionPolicy ingestion.now
  createdAt := ingestion.now

theorem record_eq_ok (h : ingestion.record runtime settings = .ok record) :
    ∃ bytes, ingestion.bytes runtime settings = .ok bytes ∧
      record = ingestion.recordOf runtime bytes := by
  simp only [Ingestion.record, ControlPlane.bind_eq_ok] at h
  obtain ⟨-, -, -, -, -, -, bytes, hbytes, -, -, object, hobject, hrecord⟩ := h
  refine ⟨bytes, hbytes, ?_⟩
  rw [← Except.ok.inj hrecord, putImmutable_eq_ok hobject]
  rfl

def Ingestion.saved (runtime : IngestionRuntime) (settings : IngestionSettings)
    (ingestion : Ingestion) : Option ArtifactEvidenceRecord :=
  match ingestion.record runtime settings with
  | .error _ => none
  | .ok record => if isText record.mediaType && isText record.createdBy then some record else none

theorem saved_eq_some : ingestion.saved runtime settings = some record ↔
    ingestion.record runtime settings = .ok record ∧ isText record.mediaType = true ∧
      isText record.createdBy = true := by
  unfold Ingestion.saved
  rcases ingestion.record runtime settings with error | made
  · constructor
    · intro h
      cases h
    · rintro ⟨h, -⟩
      cases h
  · simp only [Option.ite_none_right_eq_some, Bool.and_eq_true, Option.some.injEq, Except.ok.injEq]
    constructor
    · rintro ⟨htexts, rfl⟩
      exact ⟨rfl, htexts⟩
    · rintro ⟨rfl, htexts⟩
      exact ⟨htexts, rfl⟩

def savedOf (runtime : IngestionRuntime) (settings : IngestionSettings)
    (ingestions : List Ingestion) : List ArtifactEvidenceRecord :=
  ingestions.filterMap (Ingestion.saved runtime settings)

theorem mem_savedOf : record ∈ savedOf runtime settings ingestions ↔
    ∃ ingestion ∈ ingestions, ingestion.saved runtime settings = some record :=
  List.mem_filterMap

theorem savable_savedOf (runtime : IngestionRuntime) (settings : IngestionSettings)
    (hrun : ∀ ingestion ∈ ingestions, ingestion.input.scope ∈ runs.rows)
    (hids : (ingestions.map (·.id)).Nodup) :
    Savable runs (savedOf runtime settings ingestions) where
  key := by
    intro record hrecord
    obtain ⟨ingestion, -, hsaved⟩ := mem_savedOf.mp hrecord
    obtain ⟨bytes, -, rfl⟩ := record_eq_ok (saved_eq_some.mp hsaved).1
    rfl
  texts := by
    intro record hrecord
    obtain ⟨ingestion, -, hsaved⟩ := mem_savedOf.mp hrecord
    exact (saved_eq_some.mp hsaved).2
  run := by
    intro record hrecord
    obtain ⟨ingestion, hingestion, hsaved⟩ := mem_savedOf.mp hrecord
    obtain ⟨bytes, -, rfl⟩ := record_eq_ok (saved_eq_some.mp hsaved).1
    exact hrun ingestion hingestion
  ids := by
    induction ingestions with
    | nil => exact List.nodup_nil
    | cons ingestion ingestions ih =>
        rw [List.map_cons, List.nodup_cons] at hids
        have hrest := ih (fun other hother => hrun other (List.mem_cons_of_mem _ hother)) hids.2
        rcases hsaved : ingestion.saved runtime settings with - | record
        · rw [savedOf, List.filterMap_cons_none hsaved]
          exact hrest
        · rw [savedOf, List.filterMap_cons_some hsaved, List.map_cons, List.nodup_cons]
          refine ⟨?_, hrest⟩
          intro hmem
          obtain ⟨other, hother, hid⟩ := List.mem_map.mp hmem
          obtain ⟨later, hlater, hsaved'⟩ := mem_savedOf.mp hother
          obtain ⟨bytes, -, rfl⟩ := record_eq_ok (saved_eq_some.mp hsaved).1
          obtain ⟨bytes', -, rfl⟩ := record_eq_ok (saved_eq_some.mp hsaved').1
          exact hids.1 (List.mem_map.mpr ⟨later, hlater, hid⟩)

theorem tablesAfter_append : tablesAfter runtime settings runs (ingestions ++ [ingestion]) =
    (ingest runtime settings (tablesAfter runtime settings runs ingestions) ingestion).2 := by
  rw [tablesAfter, List.foldl_append]
  rfl

theorem ingest_of_saved_eq_none (h : ingestion.saved runtime settings = none) :
    (ingest runtime settings tables ingestion).2 = tables ∧
      ∀ record, (ingest runtime settings tables ingestion).1 ≠ .ok record := by
  rcases hrecord : ingestion.record runtime settings with error | made
  · rw [ingest, hrecord]
    exact ⟨rfl, fun record hsaved => by cases hsaved⟩
  · have htexts : ¬ (isText made.mediaType && isText made.createdBy) = true := by
      intro htexts
      have hsaved := saved_eq_some.mpr ⟨hrecord, Bool.and_eq_true_iff.mp htexts⟩
      exact Option.some_ne_none _ (hsaved.symm.trans h)
    have hrefused : (!isText made.mediaType || !isText made.createdBy) = true := by
      rw [← Bool.not_and, Bool.not_eq_true', Bool.eq_false_iff]
      exact htexts
    rw [ingest, hrecord]
    simp only [saveArtifact, hrefused, if_true]
    exact ⟨trivial, fun record hsaved => by cases hsaved⟩

theorem ingest_of_saved_eq_some (h : ingestion.saved runtime settings = some record) :
    ingest runtime settings tables ingestion = saveArtifact tables record := by
  rw [ingest, (saved_eq_some.mp h).1]

theorem tracks_tablesAfter
    (hrun : ∀ ingestion ∈ ingestions, ingestion.input.scope ∈ runs.rows)
    (hids : (ingestions.map (·.id)).Nodup) :
    Tracks runs (tablesAfter runtime settings runs ingestions)
      (savedOf runtime settings ingestions) := by
  induction ingestions using List.reverseRecOn with
  | nil => exact tracks_ofRuns
  | append_singleton ingestions ingestion ih =>
      have hsavable := savable_savedOf runtime settings hrun hids
      have hids' := hids
      rw [List.map_append] at hids'
      have hearlier := ih (fun other hother => hrun other (List.mem_append_left _ hother))
        hids'.of_append_left
      rw [tablesAfter_append]
      rcases hsaved : ingestion.saved runtime settings with - | record
      · have hnone : savedOf runtime settings (ingestions ++ [ingestion]) =
            savedOf runtime settings ingestions := by
          rw [savedOf, List.filterMap_append, List.filterMap_cons_none hsaved]
          exact List.append_nil _
        rw [(ingest_of_saved_eq_none hsaved).1, hnone]
        exact hearlier
      · have hsome : savedOf runtime settings (ingestions ++ [ingestion]) =
            savedOf runtime settings ingestions ++ [record] := by
          rw [savedOf, List.filterMap_append, List.filterMap_cons_some hsaved]
          rfl
        rw [hsome] at hsavable
        rw [ingest_of_saved_eq_some hsaved, hsome]
        exact tracks_saveArtifact hearlier hsavable

end Histories

end DevHarness.Evidence
