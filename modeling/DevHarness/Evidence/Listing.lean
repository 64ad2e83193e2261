import DevHarness.Evidence.Tracking

/-!
# The artifacts of a run

A listing joins the texts that a run is linked to with the stored objects.  It lists what the
run ingested when every text of a project is ingested under one kind: an object has one key,
and the key does not say the kind.
-/

namespace DevHarness.Evidence

open JsText
open ControlPlane (Thrown)
open Workbench (ArtifactKind)
open PostgresEvidenceRepository (objectRow joined mapArtifact)

/-! ## Listings -/

def kindsAndDigests (records : List ArtifactEvidenceRecord) : List (ArtifactKind × JsString) :=
  records.map fun record => (record.kind, record.digest)

variable {records : List ArtifactEvidenceRecord}

theorem mem_kindsAndDigests {kind : ArtifactKind} {digest : JsString} :
    (kind, digest) ∈ kindsAndDigests records ↔
      ∃ record ∈ records, record.kind = kind ∧ record.digest = digest := by
  simp only [kindsAndDigests, List.mem_map, Prod.mk.injEq]

section Postgres

variable {runs : Sql.Table EvidenceScope.runId} {tables : EvidenceTables}
  {records : List ArtifactEvidenceRecord} {scope : EvidenceScope} {kind : ArtifactKind}
  {digest : JsString}

theorem mem_joined {row : EvidenceRow × StoredObjectRow} : row ∈ joined tables ↔
    row.1 ∈ tables.evidence.rows ∧ row.2 ∈ tables.objects.rows ∧
      row.2.project = row.1.scope.project ∧ row.2.digest = row.1.digest := by
  rcases row with ⟨evidence, object⟩
  simp only [joined, List.mem_flatMap, List.mem_map, List.mem_filter, Prod.mk.injEq,
    decide_eq_true_eq]
  constructor
  · rintro ⟨evidence, hevidence, object, ⟨hobject, hon⟩, rfl, rfl⟩
    exact ⟨hevidence, hobject, hon⟩
  · rintro ⟨hevidence, hobject, hon⟩
    exact ⟨evidence, hevidence, object, ⟨hobject, hon⟩, rfl, rfl⟩

theorem nodup_joined : (joined tables).Nodup := by
  have hevidence : tables.evidence.rows.Nodup := tables.evidence.nodup.of_map _
  have hobjects : tables.objects.rows.Nodup := tables.objects.nodup.of_map _
  rw [joined, List.nodup_flatMap]
  constructor
  · intro evidence _
    apply (hobjects.filter _).map
    intro object object' hpair
    exact (Prod.mk.inj hpair).2
  · apply hevidence.imp
    intro evidence evidence' hne row hrow hrow'
    obtain ⟨object, -, rfl⟩ := List.mem_map.mp hrow
    obtain ⟨object', -, hpair⟩ := List.mem_map.mp hrow'
    exact hne (Prod.mk.inj hpair).1.symm

/-- The kind of an object that a run is linked to is that of the first record of its text,
and the run saved it under this kind. -/
theorem mem_listArtifacts (h : Tracks runs tables records) :
    (kind, digest) ∈ kindsAndDigests (PostgresEvidenceRepository.listArtifacts tables scope) ↔
      ∃ record ∈ records, ∃ first, firstOf records scope.project digest = some first ∧
        record.scope = scope ∧ record.digest = digest ∧ record.kind = kind ∧
        first.kind = kind := by
  rw [mem_kindsAndDigests]
  constructor
  · rintro ⟨listed, hlisted, rfl, rfl⟩
    obtain ⟨row, hrow, rfl⟩ := List.mem_map.mp hlisted
    obtain ⟨hjoined, hscope⟩ := List.mem_filter.mp (Sql.mem_orderBy.mp hrow)
    obtain ⟨hevidence, hobject, hproject, hdigest⟩ := mem_joined.mp hjoined
    obtain ⟨first, hfirst, hstored⟩ := (h.objects row.2).mp hobject
    obtain ⟨record, hrecord, first', hfirst', hscope', hdigest', hkind, -⟩ :=
      (h.evidence row.1.scope row.1.kind row.1.digest).mp ⟨row.1, hevidence, rfl, rfl, rfl⟩
    have hscope := of_decide_eq_true hscope
    rw [hproject, hdigest] at hfirst
    obtain rfl := Option.some.inj (hfirst.symm.trans hfirst')
    have hkind' : first.kind = row.2.kind := congrArg StoredObjectRow.kind hstored
    refine ⟨record, hrecord, first, ?_, hscope'.trans hscope, hdigest'.trans hdigest.symm,
      hkind.trans hkind', hkind'⟩
    rw [← hscope, show (mapArtifact row.1.scope row.2).digest = row.1.digest from hdigest]
    exact hfirst
  · rintro ⟨record, hrecord, first, hfirst, hscope, hdigest, rfl, hkind⟩
    obtain ⟨evidence, hevidence, hscope', -, hdigest'⟩ :=
      (h.evidence scope (evidenceKind first.kind) digest).mpr
        ⟨record, hrecord, first, hfirst, hscope, hdigest, hkind.symm, rfl⟩
    obtain ⟨-, hproject, hdigest''⟩ := mem_of_firstOf hfirst
    have hobject : objectRow first ∈ tables.objects.rows := by
      rw [h.objects]
      refine ⟨first, ?_, rfl⟩
      rw [show (objectRow first).project = first.scope.project from rfl, hproject,
        show (objectRow first).digest = first.digest from rfl, hdigest'']
      exact hfirst
    have hjoined : (evidence, objectRow first) ∈ joined tables := by
      refine mem_joined.mpr ⟨hevidence, hobject, ?_, ?_⟩
      · rw [hscope']
        exact hproject
      · rw [hdigest']
        exact hdigest''
    refine ⟨mapArtifact evidence.scope (objectRow first), ?_, hkind, hdigest''⟩
    apply List.mem_map.mpr
    refine ⟨(evidence, objectRow first), ?_, rfl⟩
    exact Sql.mem_orderBy.mpr (List.mem_filter.mpr ⟨hjoined, decide_eq_true hscope'⟩)

theorem nodup_listArtifacts (h : Tracks runs tables records) :
    (kindsAndDigests (PostgresEvidenceRepository.listArtifacts tables scope)).Nodup := by
  rw [kindsAndDigests, PostgresEvidenceRepository.listArtifacts, List.map_map]
  have hrows : (Sql.orderBy (Sql.thenBy (fun row => row.2.createdAt)
      (Sql.byKey fun row => units row.2.id))
      ((joined tables).filter fun row => row.1.scope = scope)).Nodup :=
    (Sql.perm_orderBy _ _).nodup_iff.mpr (nodup_joined.filter _)
  apply hrows.map_on
  rintro ⟨evidence, object⟩ hrow ⟨evidence', object'⟩ hrow' hsame
  obtain ⟨hjoined, hscope⟩ := List.mem_filter.mp (Sql.mem_orderBy.mp hrow)
  obtain ⟨hjoined', hscope'⟩ := List.mem_filter.mp (Sql.mem_orderBy.mp hrow')
  obtain ⟨hevidence, hobject, hproject, hdigest⟩ := mem_joined.mp hjoined
  obtain ⟨hevidence', hobject', hproject', hdigest'⟩ := mem_joined.mp hjoined'
  have hscope := of_decide_eq_true hscope
  have hscope' := of_decide_eq_true hscope'
  have hdigests : evidence.digest = evidence'.digest :=
    hdigest.symm.trans ((Prod.mk.inj hsame).2.trans hdigest')
  obtain ⟨record, -, first, hfirst, -, -, -, hkind⟩ :=
    (h.evidence evidence.scope evidence.kind evidence.digest).mp ⟨evidence, hevidence, rfl, rfl, rfl⟩
  obtain ⟨record', -, first', hfirst', -, -, -, hkind'⟩ :=
    (h.evidence evidence'.scope evidence'.kind evidence'.digest).mp
      ⟨evidence', hevidence', rfl, rfl, rfl⟩
  have hscopes : evidence.scope = evidence'.scope := hscope.trans hscope'.symm
  rw [← hscopes, ← hdigests, hfirst] at hfirst'
  obtain rfl := Option.some.inj hfirst'
  have hevidences : evidence = evidence' := by
    apply tables.evidence.eq_of_key_eq hevidence hevidence'
    simp only [EvidenceRow.key, hscopes, hdigests, hkind, hkind']
  obtain ⟨stored, hstored, hrow⟩ := (h.objects object).mp hobject
  obtain ⟨stored', hstored', hrow'⟩ := (h.objects object').mp hobject'
  have hobjects : object = object' := by
    rw [hproject, hdigest] at hstored
    rw [hproject', hdigest', ← hscopes, ← hdigests, hstored] at hstored'
    rw [← hrow, ← hrow', Option.some.inj hstored']
  exact Prod.ext hevidences hobjects

end Postgres

section Memory

variable {runtime : IngestionRuntime} {settings : IngestionSettings}
  {ingestions : List Ingestion} {ingestion : Ingestion} {scope : EvidenceScope}
  {kind : ArtifactKind} {digest : JsString}

theorem exists_saveArtifact_iff {record : ArtifactEvidenceRecord} :
    (∃ saved ∈ (MemoryEvidenceRepository.saveArtifact records record).2,
        saved.scope = scope ∧ saved.kind = kind ∧ saved.digest = digest) ↔
      (∃ saved ∈ records, saved.scope = scope ∧ saved.kind = kind ∧ saved.digest = digest) ∨
      (record.scope = scope ∧ record.kind = kind ∧ record.digest = digest) := by
  unfold MemoryEvidenceRepository.saveArtifact
  split
  · next existing hexisting =>
    have hcolumns := List.find?_some hexisting
    obtain ⟨hscope, hkind, hdigest⟩ := of_decide_eq_true hcolumns
    constructor
    · exact .inl
    · rintro (hold | ⟨rfl, rfl, rfl⟩)
      · exact hold
      · exact ⟨existing, List.mem_of_find?_eq_some hexisting, hscope, hkind, hdigest⟩
  · simp only [List.mem_append, List.mem_singleton, or_and_right, exists_or, exists_eq_left]

theorem exists_recordsAfter_iff :
    (∃ saved ∈ recordsAfter runtime settings ingestions,
        saved.scope = scope ∧ saved.kind = kind ∧ saved.digest = digest) ↔
      ∃ ingestion ∈ ingestions, ∃ record, ingestion.record runtime settings = .ok record ∧
        record.scope = scope ∧ record.kind = kind ∧ record.digest = digest := by
  induction ingestions using List.reverseRecOn with
  | nil => simp [recordsAfter]
  | append_singleton ingestions ingestion ih =>
      have hlast : recordsAfter runtime settings (ingestions ++ [ingestion]) =
          (ingestInMemory runtime settings (recordsAfter runtime settings ingestions)
            ingestion).2 := by
        rw [recordsAfter, List.foldl_append]
        rfl
      have hsplit : (∃ earlier ∈ ingestions ++ [ingestion], ∃ record,
            earlier.record runtime settings = .ok record ∧
              record.scope = scope ∧ record.kind = kind ∧ record.digest = digest) ↔
          (∃ earlier ∈ ingestions, ∃ record, earlier.record runtime settings = .ok record ∧
              record.scope = scope ∧ record.kind = kind ∧ record.digest = digest) ∨
          ∃ record, ingestion.record runtime settings = .ok record ∧
            record.scope = scope ∧ record.kind = kind ∧ record.digest = digest := by
        simp only [List.mem_append, List.mem_singleton, or_and_right, exists_or, exists_eq_left]
      rw [hlast, hsplit, ← ih, ingestInMemory]
      rcases ingestion.record runtime settings with error | record
      · simp
      · simp only [exists_saveArtifact_iff, Except.ok.injEq, exists_eq_left']

theorem mem_listArtifacts_memory :
    (kind, digest) ∈ kindsAndDigests (MemoryEvidenceRepository.listArtifacts
        (recordsAfter runtime settings ingestions) scope) ↔
      ∃ ingestion ∈ ingestions, ∃ record, ingestion.record runtime settings = .ok record ∧
        record.scope = scope ∧ record.kind = kind ∧ record.digest = digest := by
  rw [← exists_recordsAfter_iff, mem_kindsAndDigests]
  simp only [MemoryEvidenceRepository.listArtifacts, List.mem_filter, decide_eq_true_eq, and_assoc]

end Memory

section Exact

variable (runtime : IngestionRuntime) (settings : IngestionSettings)

/-- After a history, the listing of a run has one record for each kind and digest that was
ingested for the run, as the memory repository has. -/
structure ListingExact (history : History runtime settings) : Prop where
  once : ∀ scope, (kindsAndDigests (PostgresEvidenceRepository.listArtifacts
    (tablesAfter runtime settings history.runs history.ingestions) scope)).Nodup
  ingested : ∀ scope kind digest,
    (kind, digest) ∈ kindsAndDigests (PostgresEvidenceRepository.listArtifacts
        (tablesAfter runtime settings history.runs history.ingestions) scope) ↔
      ∃ ingestion ∈ history.ingestions, ∃ record,
        ingestion.record runtime settings = .ok record ∧
          record.scope = scope ∧ record.kind = kind ∧ record.digest = digest
  memory : ∀ scope kind digest,
    (kind, digest) ∈ kindsAndDigests (PostgresEvidenceRepository.listArtifacts
        (tablesAfter runtime settings history.runs history.ingestions) scope) ↔
      (kind, digest) ∈ kindsAndDigests (MemoryEvidenceRepository.listArtifacts
        (recordsAfter runtime settings history.ingestions) scope)

/-- The service accepts the input. -/
def Ingestion.Accepted (ingestion : Ingestion) : Prop :=
  ∃ record, ingestion.record runtime settings = .ok record

/-- The columns take the texts of the input: no NUL stands in them. -/
def Ingestion.HasTexts (ingestion : Ingestion) : Prop :=
  isText ingestion.input.mediaType = true ∧ isText ingestion.input.createdBy = true

/-- No text of a project is ingested under two kinds, and what Postgres does not take for a
NUL is ingested once more without. -/
structure KindsAgree (history : History runtime settings) : Prop where
  kinds : ∀ a ∈ history.ingestions, ∀ b ∈ history.ingestions,
    a.Accepted runtime settings → b.Accepted runtime settings → a.HasTexts → b.HasTexts →
    a.input.scope.project = b.input.scope.project →
    a.bytes runtime settings = b.bytes runtime settings → a.input.kind = b.input.kind
  texts : ∀ a ∈ history.ingestions, a.Accepted runtime settings →
    ∃ b ∈ history.ingestions, b.Accepted runtime settings ∧ b.HasTexts ∧
      b.input.scope = a.input.scope ∧ b.input.kind = a.input.kind ∧
      b.bytes runtime settings = a.bytes runtime settings

variable {runtime settings} {history : History runtime settings} {a b : Ingestion}

theorem exists_saved (haccepted : a.Accepted runtime settings) (htexts : a.HasTexts) :
    ∃ bytes, a.bytes runtime settings = .ok bytes ∧
      a.saved runtime settings = some (a.recordOf runtime bytes) := by
  obtain ⟨record, hrecord⟩ := haccepted
  obtain ⟨bytes, hbytes, rfl⟩ := record_eq_ok hrecord
  exact ⟨bytes, hbytes, saved_eq_some.mpr ⟨hrecord, htexts⟩⟩

theorem of_saved {record : ArtifactEvidenceRecord}
    (h : a.saved runtime settings = some record) :
    a.Accepted runtime settings ∧ a.HasTexts ∧
      ∃ bytes, a.bytes runtime settings = .ok bytes ∧ record = a.recordOf runtime bytes := by
  obtain ⟨hrecord, htexts⟩ := saved_eq_some.mp h
  obtain ⟨bytes, hbytes, rfl⟩ := record_eq_ok hrecord
  exact ⟨⟨_, hrecord⟩, htexts, bytes, hbytes, rfl⟩

theorem tracks_history (runtime : IngestionRuntime) (settings : IngestionSettings)
    (history : History runtime settings) :
    Tracks history.runs (tablesAfter runtime settings history.runs history.ingestions)
      (savedOf runtime settings history.ingestions) :=
  tracks_tablesAfter history.of_run history.ids_nodup

theorem kind_of_listed (h : ListingExact runtime settings history) {bytes : Bytes}
    (ha : a ∈ history.ingestions) (haccepted : a.Accepted runtime settings)
    (hbytes : a.bytes runtime settings = .ok bytes) :
    ∃ record ∈ savedOf runtime settings history.ingestions, ∃ first,
      firstOf (savedOf runtime settings history.ingestions) a.input.scope.project
        (runtime.sha256 bytes) = some first ∧ record.scope = a.input.scope ∧
      record.digest = runtime.sha256 bytes ∧ record.kind = a.input.kind ∧
      first.kind = a.input.kind := by
  obtain ⟨record, hrecord⟩ := haccepted
  obtain ⟨bytes', hbytes', rfl⟩ := record_eq_ok hrecord
  obtain rfl := Except.ok.inj (hbytes.symm.trans hbytes')
  have hlisted := (h.ingested a.input.scope a.input.kind (runtime.sha256 bytes)).mpr
    ⟨a, ha, _, hrecord, rfl, rfl, rfl⟩
  exact (mem_listArtifacts (tracks_history runtime settings history)).mp hlisted

theorem kindsAgree_of_exact (h : ListingExact runtime settings history) :
    KindsAgree runtime settings history where
  kinds := by
    intro a ha b hb haccepted haccepted' htexts htexts' hproject hsame
    obtain ⟨bytes, hbytes, -⟩ := exists_saved haccepted htexts
    obtain ⟨-, -, first, hfirst, -, -, -, hkind⟩ := kind_of_listed h ha haccepted hbytes
    obtain ⟨-, -, first', hfirst', -, -, -, hkind'⟩ :=
      kind_of_listed h hb haccepted' (hsame ▸ hbytes)
    rw [← hproject, hfirst] at hfirst'
    rw [← hkind, ← hkind', Option.some.inj hfirst']
  texts := by
    intro a ha haccepted
    obtain ⟨made, hmade⟩ := haccepted
    obtain ⟨bytes, hbytes, -⟩ := record_eq_ok hmade
    obtain ⟨record, hrecord, -, -, hscope, hdigest, hkind, -⟩ :=
      kind_of_listed h ha ⟨made, hmade⟩ hbytes
    obtain ⟨b, hb, hsaved⟩ := mem_savedOf.mp hrecord
    obtain ⟨haccepted', htexts', bytes', hbytes', rfl⟩ := of_saved hsaved
    have hsame := history.collision_free b hb a ha bytes' bytes hbytes' hbytes hdigest
    exact ⟨b, hb, haccepted', htexts', hscope, hkind, by rw [hbytes', hsame, hbytes]⟩

theorem exact_of_kindsAgree (h : KindsAgree runtime settings history) :
    ListingExact runtime settings history := by
  have htracks := tracks_history runtime settings history
  have hingested : ∀ scope kind digest,
      (kind, digest) ∈ kindsAndDigests (PostgresEvidenceRepository.listArtifacts
          (tablesAfter runtime settings history.runs history.ingestions) scope) ↔
        ∃ ingestion ∈ history.ingestions, ∃ record,
          ingestion.record runtime settings = .ok record ∧
            record.scope = scope ∧ record.kind = kind ∧ record.digest = digest := by
    intro scope kind digest
    rw [mem_listArtifacts htracks]
    constructor
    · rintro ⟨record, hrecord, -, -, hscope, hdigest, hkind, -⟩
      obtain ⟨ingestion, hmem, hsaved⟩ := mem_savedOf.mp hrecord
      exact ⟨ingestion, hmem, record, (saved_eq_some.mp hsaved).1, hscope, hkind, hdigest⟩
    · rintro ⟨a, ha, record, hrecord, rfl, rfl, rfl⟩
      obtain ⟨b, hb, haccepted, htexts, hscope, hkind, hsame⟩ := h.texts a ha ⟨record, hrecord⟩
      obtain ⟨bytes, hbytes, rfl⟩ := record_eq_ok hrecord
      obtain ⟨bytes', hbytes', hsaved⟩ := exists_saved haccepted htexts
      obtain rfl := Except.ok.inj (hbytes'.symm.trans (hsame.trans hbytes))
      have hmem := mem_savedOf.mpr ⟨b, hb, hsaved⟩
      obtain ⟨first, hfirst⟩ := exists_firstOf hmem
      obtain ⟨hfirstMem, hproject, hdigest⟩ := mem_of_firstOf hfirst
      obtain ⟨c, hc, hfirstSaved⟩ := mem_savedOf.mp hfirstMem
      obtain ⟨haccepted'', htexts'', bytes'', hbytes'', rfl⟩ := of_saved hfirstSaved
      have hsame' := history.collision_free c hc b hb bytes'' bytes' hbytes'' hbytes' hdigest
      have hkinds : c.input.kind = b.input.kind :=
        h.kinds c hc b hb haccepted'' haccepted htexts'' htexts hproject
          (by rw [hbytes'', hbytes', hsame'])
      have hprojects : (b.recordOf runtime bytes').scope.project = a.input.scope.project :=
        congrArg EvidenceScope.project hscope
      rw [hprojects] at hfirst
      exact ⟨_, hmem, _, hfirst, hscope, rfl, hkind, hkinds.trans hkind⟩
  refine ⟨fun scope => nodup_listArtifacts htracks, hingested, ?_⟩
  intro scope kind digest
  rw [hingested, mem_listArtifacts_memory]

/-- Listings are exact in just the histories in which kinds agree. -/
theorem listingExact_iff (runtime : IngestionRuntime) (settings : IngestionSettings)
    (history : History runtime settings) :
    ListingExact runtime settings history ↔ KindsAgree runtime settings history :=
  ⟨kindsAgree_of_exact, exact_of_kindsAgree⟩

end Exact

/-! ## One text under two kinds -/

def plainRuntime : IngestionRuntime where
  decode := fun bytes => bytes.map UInt8.toUInt16
  encode := fun text => text.map UInt16.toUInt8
  redact := fun text _ _ => text
  sha256 := fun _ => List.replicate 64 0x61

def plainSettings : IngestionSettings where
  maxTextBytes := 1024
  maxInputBytes := 1024
  allowRawCapture := false
  text_valid := by decide
  input_valid := by decide

def oneRun : EvidenceScope where
  organizationId := js "00000000-0000-4000-8000-000000000001"
  projectId := js "00000000-0000-4000-8000-000000000002"
  goalId := js "00000000-0000-4000-8000-000000000003"
  issueId := js "00000000-0000-4000-8000-000000000004"
  runId := js "00000000-0000-4000-8000-000000000005"

def ingestedFirst (input : ArtifactIngestionInput) : Ingestion where
  input := input
  now := 1000
  id := js "00000000-0000-4000-8000-000000000006"

def ingestedSecond (input : ArtifactIngestionInput) : Ingestion where
  input := input
  now := 2000
  id := js "00000000-0000-4000-8000-000000000007"

/-- The output `ok` as an artifact of a kind. -/
def okOutput (kind : ArtifactKind) : ArtifactIngestionInput where
  scope := oneRun
  kind := kind
  mediaType := js "text/plain"
  source := [[0x6F, 0x6B]]
  createdBy := js "worker"
  secretValues := []
  identityValues := []
  retentionPolicy := .standard180d
  expectedDigest := none
  captureRaw := false
  rawCaptureAuthorized := false

def twoKinds : History plainRuntime plainSettings where
  runs := (Sql.Table.empty _).insertNew oneRun
  ingestions := [ingestedFirst (okOutput .runLog), ingestedSecond (okOutput .testOutput)]
  of_run := by decide
  ids_nodup := by decide
  collision_free := by
    have hbytes : ∀ a ∈ [ingestedFirst (okOutput .runLog), ingestedSecond (okOutput .testOutput)],
        a.bytes plainRuntime plainSettings = .ok [0x6F, 0x6B] := by
      intro a ha
      rcases List.mem_cons.mp ha with rfl | ha
      · rfl
      · obtain rfl := List.mem_singleton.mp ha
        rfl
    intro a ha b hb bytes bytes' h h' _
    exact Except.ok.inj (h.symm.trans ((hbytes a ha).trans ((hbytes b hb).symm.trans h')))

/-- The output of the tests is lost: the key of its object is that of the log. -/
theorem not_listingExact :
    kindsAndDigests (PostgresEvidenceRepository.listArtifacts
        (tablesAfter plainRuntime plainSettings twoKinds.runs twoKinds.ingestions) oneRun) =
      [(.runLog, List.replicate 64 0x61)] ∧
    kindsAndDigests (MemoryEvidenceRepository.listArtifacts
        (recordsAfter plainRuntime plainSettings twoKinds.ingestions) oneRun) =
      [(.runLog, List.replicate 64 0x61), (.testOutput, List.replicate 64 0x61)] ∧
    ¬ ListingExact plainRuntime plainSettings twoKinds := by
  have hpostgres : kindsAndDigests (PostgresEvidenceRepository.listArtifacts
      (tablesAfter plainRuntime plainSettings twoKinds.runs twoKinds.ingestions) oneRun) =
      [(.runLog, List.replicate 64 0x61)] := by
    decide +kernel
  have hmemory : kindsAndDigests (MemoryEvidenceRepository.listArtifacts
      (recordsAfter plainRuntime plainSettings twoKinds.ingestions) oneRun) =
      [(.runLog, List.replicate 64 0x61), (.testOutput, List.replicate 64 0x61)] := by
    decide +kernel
  refine ⟨hpostgres, hmemory, ?_⟩
  intro hexact
  have hlisted := (hexact.memory oneRun .testOutput (List.replicate 64 0x61)).mpr (by
    rw [hmemory]
    decide)
  rw [hpostgres] at hlisted
  exact absurd hlisted (by decide)

end DevHarness.Evidence
