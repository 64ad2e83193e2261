import DevHarness.Evidence.Ingestion
import DevHarness.Sql.Table
import Mathlib.Data.List.Lex

/-!
# Evidence repositories

Postgres keeps the metadata of an object once for each project, kind and digest, and links
runs to digests in a second table; the memory repository keeps one list of records.
-/

namespace DevHarness.Evidence

open JsText
open ControlPlane (Thrown plainError)
open Workbench (ArtifactKind)

/-! ## Tables -/

/-- A row of `artifact_objects`. -/
structure StoredObjectRow where
  id : JsString
  project : ArtifactObjectScope
  kind : ArtifactKind
  objectKey : JsString
  digest : JsString
  mediaType : JsString
  sizeBytes : ℕ
  createdBy : JsString
  retentionPolicy : ArtifactRetentionPolicy
  retentionUntil : ℤ
  createdAt : ℤ

inductive EvidenceKind
  | artifact
  | log
  | test
  deriving DecidableEq

def evidenceKind : ArtifactKind → EvidenceKind
  | .runLog => .log
  | .testOutput => .test
  | _ => .artifact

/-- A row of `evidence`. -/
structure EvidenceRow where
  scope : EvidenceScope
  kind : EvidenceKind
  artifactRef : JsString
  digest : JsString
  mediaType : JsString
  sizeBytes : ℕ
  retentionUntil : ℤ
  createdAt : ℤ

/-- The columns of `evidence_run_kind_digest_uidx`. -/
structure EvidenceKey where
  organizationId : JsString
  projectId : JsString
  goalId : JsString
  runId : JsString
  kind : EvidenceKind
  digest : JsString
  deriving DecidableEq

def EvidenceRow.key (row : EvidenceRow) : EvidenceKey where
  organizationId := row.scope.organizationId
  projectId := row.scope.projectId
  goalId := row.scope.goalId
  runId := row.scope.runId
  kind := row.kind
  digest := row.digest

/-- The columns of `artifact_objects_scope_key_uidx`. -/
def StoredObjectRow.place (row : StoredObjectRow) : ArtifactObjectScope × JsString :=
  (row.project, row.objectKey)

/-- The runs are those that `evidence_run_issue_fk` may refer to; the id of a run is a
primary key. -/
structure EvidenceTables where
  objects : Sql.Indexed StoredObjectRow.id StoredObjectRow.place
  evidence : Sql.Table EvidenceRow.key
  runs : Sql.Table EvidenceScope.runId

def EvidenceTables.ofRuns (runs : Sql.Table EvidenceScope.runId) : EvidenceTables where
  objects := Sql.Indexed.empty _ _
  evidence := Sql.Table.empty _
  runs := runs

def databaseError (message : String) : Thrown where
  name := js "error"
  message := js message

def duplicateKey : Thrown :=
  databaseError "duplicate key value violates unique constraint"

/-- A text that a column of type `text` takes. -/
def isText (text : JsString) : Bool := decide ((0 : UInt16) ∉ text)

/-! ## The repository on Postgres -/

namespace PostgresEvidenceRepository

def objectRow (record : ArtifactEvidenceRecord) : StoredObjectRow where
  id := record.id
  project := record.scope.project
  kind := record.kind
  objectKey := record.objectKey
  digest := record.digest
  mediaType := record.mediaType
  sizeBytes := record.sizeBytes
  createdBy := record.createdBy
  retentionPolicy := record.retentionPolicy
  retentionUntil := record.retentionUntil
  createdAt := record.createdAt

/-- `WHERE organization_id AND project_id AND artifact_kind AND digest`. -/
def findObject (tables : EvidenceTables) (record : ArtifactEvidenceRecord) :
    Option StoredObjectRow :=
  tables.objects.rows.find? fun row =>
    row.project = record.scope.project ∧ row.kind = record.kind ∧ row.digest = record.digest

/-- `INSERT INTO artifact_objects … ON CONFLICT (…, artifact_kind, digest) DO NOTHING`; none
where another unique index is violated. -/
def insertObject (tables : EvidenceTables) (record : ArtifactEvidenceRecord) :
    Option EvidenceTables :=
  match findObject tables record with
  | some _ => some tables
  | none => (tables.objects.insert (objectRow record)).map fun objects =>
    { tables with objects := objects }

def mapArtifact (scope : EvidenceScope) (row : StoredObjectRow) : ArtifactEvidenceRecord where
  id := row.id
  scope := scope
  kind := row.kind
  objectKey := row.objectKey
  digest := row.digest
  mediaType := row.mediaType
  sizeBytes := row.sizeBytes
  createdBy := row.createdBy
  retentionPolicy := row.retentionPolicy
  retentionUntil := row.retentionUntil
  createdAt := row.createdAt

def evidenceRow (persisted : ArtifactEvidenceRecord) : EvidenceRow where
  scope := persisted.scope
  kind := evidenceKind persisted.kind
  artifactRef := persisted.objectKey
  digest := persisted.digest
  mediaType := persisted.mediaType
  sizeBytes := persisted.sizeBytes
  retentionUntil := persisted.retentionUntil
  createdAt := persisted.createdAt

/-- `INSERT INTO evidence … ON CONFLICT DO NOTHING`. -/
def insertEvidence (tables : EvidenceTables) (persisted : ArtifactEvidenceRecord) :
    EvidenceTables :=
  { tables with evidence := tables.evidence.insertNew (evidenceRow persisted) }

/-- The transaction of `saveArtifact`; an error rolls it back.  The `CHECK` constraints
hold of the records that `ingest` makes. -/
def saveArtifact (tables : EvidenceTables) (record : ArtifactEvidenceRecord) :
    Except Thrown ArtifactEvidenceRecord × EvidenceTables :=
  if !isText record.mediaType || !isText record.createdBy then
    (.error (databaseError "invalid byte sequence for encoding \"UTF8\": 0x00"), tables)
  else
    match insertObject tables record with
    | none => (.error duplicateKey, tables)
    | some inserted =>
      match findObject inserted record with
      | none =>
        (.error (plainError (js "Immutable Artifact metadata was not persisted")), tables)
      | some stored =>
        let persisted := mapArtifact record.scope stored
        if record.scope ∈ tables.runs.rows then
          (.ok persisted, insertEvidence inserted persisted)
        else
          (.error (databaseError "insert or update violates foreign key constraint"), tables)

/-- `evidence JOIN artifact_objects` on project and digest. -/
def joined (tables : EvidenceTables) : List (EvidenceRow × StoredObjectRow) :=
  tables.evidence.rows.flatMap fun evidence =>
    (tables.objects.rows.filter fun object =>
      object.project = evidence.scope.project ∧ object.digest = evidence.digest).map fun object =>
        (evidence, object)

def listArtifacts (tables : EvidenceTables) (scope : EvidenceScope) :
    List ArtifactEvidenceRecord :=
  (Sql.orderBy (Sql.thenBy (fun row => row.2.createdAt) (Sql.byKey fun row => units row.2.id))
    ((joined tables).filter fun row => row.1.scope = scope)).map fun row =>
      mapArtifact row.1.scope row.2

/-- `findVisibleArtifact`: among the rows of one object, that of the latest evidence.  A
UUID is read in any case. -/
def findVisibleArtifact (tables : EvidenceTables) (artifactId : JsString)
    (organizationIds projectIds : List JsString) : Option ArtifactEvidenceRecord :=
  if organizationIds.length = 0 ∧ projectIds.length = 0 then none
  else
    ((Sql.orderBy (Sql.byKeyDesc fun row => row.1.createdAt)
      ((joined tables).filter fun row => row.2.id = artifactId.map foldCase ∧
        (row.2.project.organizationId ∈ organizationIds ∨
          row.2.project.projectId ∈ projectIds))).head?).map fun row =>
            mapArtifact row.1.scope row.2

end PostgresEvidenceRepository

/-! ## The repository in memory -/

namespace MemoryEvidenceRepository

def saveArtifact (records : List ArtifactEvidenceRecord) (record : ArtifactEvidenceRecord) :
    ArtifactEvidenceRecord × List ArtifactEvidenceRecord :=
  match records.find? fun candidate =>
    candidate.scope = record.scope ∧ candidate.kind = record.kind ∧
      candidate.digest = record.digest with
  | some existing => (existing, records)
  | none => (record, records ++ [record])

def listArtifacts (records : List ArtifactEvidenceRecord) (scope : EvidenceScope) :
    List ArtifactEvidenceRecord :=
  records.filter fun record => record.scope = scope

end MemoryEvidenceRepository

section Histories

variable (runtime : IngestionRuntime) (settings : IngestionSettings)

/-- `ingest` with the repository on Postgres. -/
def ingest (tables : EvidenceTables) (ingestion : Ingestion) :
    Except Thrown ArtifactEvidenceRecord × EvidenceTables :=
  match ingestion.record runtime settings with
  | .error error => (.error error, tables)
  | .ok record => PostgresEvidenceRepository.saveArtifact tables record

/-- `ingest` with the repository in memory. -/
def ingestInMemory (records : List ArtifactEvidenceRecord) (ingestion : Ingestion) :
    Except Thrown ArtifactEvidenceRecord × List ArtifactEvidenceRecord :=
  match ingestion.record runtime settings with
  | .error error => (.error error, records)
  | .ok record =>
    let (saved, next) := MemoryEvidenceRepository.saveArtifact records record
    (.ok saved, next)

/-- A history of ingestions over runs that exist, each with an id of its own.  Texts that
differ have different digests. -/
structure History where
  runs : Sql.Table EvidenceScope.runId
  ingestions : List Ingestion
  of_run : ∀ ingestion ∈ ingestions, ingestion.input.scope ∈ runs.rows
  ids_nodup : (ingestions.map (·.id)).Nodup
  collision_free : ∀ a ∈ ingestions, ∀ b ∈ ingestions, ∀ bytes bytes',
    a.bytes runtime settings = .ok bytes → b.bytes runtime settings = .ok bytes' →
    runtime.sha256 bytes = runtime.sha256 bytes' → bytes = bytes'

def tablesAfter (runs : Sql.Table EvidenceScope.runId) (ingestions : List Ingestion) :
    EvidenceTables :=
  ingestions.foldl (fun tables ingestion => (ingest runtime settings tables ingestion).2)
    (.ofRuns runs)

def recordsAfter (ingestions : List Ingestion) : List ArtifactEvidenceRecord :=
  ingestions.foldl
    (fun records ingestion => (ingestInMemory runtime settings records ingestion).2) []

end Histories

end DevHarness.Evidence
