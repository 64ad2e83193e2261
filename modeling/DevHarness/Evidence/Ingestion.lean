import DevHarness.ControlPlane.Validation
import DevHarness.Text.Dates
import DevHarness.Text.Patterns
import DevHarness.Workbench.Contracts

/-!
# Artifact ingestion

`ingest` sanitizes the bytes of an artifact, puts them into the object store under their
digest, and hands the record of what was stored to a repository.
-/

namespace DevHarness.Evidence

open JsText
open ControlPlane (Thrown require)
open Workbench (ArtifactKind)

abbrev Bytes := List UInt8

inductive ArtifactRetentionPolicy
  | standard180d
  | extended365d
  | legalHold
  deriving DecidableEq

structure EvidenceScope where
  organizationId : JsString
  projectId : JsString
  goalId : JsString
  issueId : JsString
  runId : JsString
  deriving DecidableEq

/-- The project of a scope: `ArtifactObjectScope`. -/
structure ArtifactObjectScope where
  organizationId : JsString
  projectId : JsString
  deriving DecidableEq

def EvidenceScope.project (scope : EvidenceScope) : ArtifactObjectScope where
  organizationId := scope.organizationId
  projectId := scope.projectId

/-- Timestamps are those of the `Date`s whose ISO texts the record holds. -/
structure ArtifactEvidenceRecord where
  id : JsString
  scope : EvidenceScope
  kind : ArtifactKind
  objectKey : JsString
  digest : JsString
  mediaType : JsString
  sizeBytes : ℕ
  createdBy : JsString
  retentionPolicy : ArtifactRetentionPolicy
  retentionUntil : ℤ
  createdAt : ℤ

/-- The input of `ingest`; its kind is one of `artifactKinds`.  The source yields its
chunks one after the other. -/
structure ArtifactIngestionInput where
  scope : EvidenceScope
  kind : ArtifactKind
  mediaType : JsString
  source : List Bytes
  createdBy : JsString
  secretValues : List JsString
  identityValues : List JsString
  retentionPolicy : ArtifactRetentionPolicy
  expectedDigest : Option JsString
  captureRaw : Bool
  rawCaptureAuthorized : Bool

/-- The settings that the constructor of the service accepts. -/
structure IngestionSettings where
  maxTextBytes : ℕ
  maxInputBytes : ℕ
  allowRawCapture : Bool
  text_valid : 64 ≤ maxTextBytes
  input_valid : maxTextBytes ≤ maxInputBytes

/-- What the service takes from its runtime: `TextDecoder`, `TextEncoder`, the regular
expressions of `redact`, and the SHA-256 of some bytes. -/
structure IngestionRuntime where
  decode : Bytes → JsString
  encode : JsString → Bytes
  redact : JsString → List JsString → List JsString → JsString
  sha256 : Bytes → JsString

def artifactIngestionError (message : String) : Thrown where
  name := js "ArtifactIngestionError"
  message := js message

def objectStoreValidationError (message : String) : Thrown where
  name := js "ObjectStoreValidationError"
  message := js message

def objectDigestMismatchError : Thrown where
  name := js "ObjectDigestMismatchError"
  message := js "Uploaded object did not match its expected SHA-256 digest"

/-- What `toISOString` throws for a date out of range. -/
def rangeError : Thrown where
  name := js "RangeError"
  message := js "Invalid time value"

/-! ## Sanitizing -/

/-- `TEXT_MEDIA_TYPE`. -/
def isTextMediaType (mediaType : JsString) : Bool :=
  let folded := mediaType.map foldCase
  (js "text/").isPrefixOf folded ||
    (js "application/").isPrefixOf folded &&
      (let subtype := folded.drop (js "application/").length
       [js "json", js "xml", js "yaml", js "x-yaml"].any (·.isPrefixOf subtype) ||
        (List.range subtype.length).any fun n =>
          0 < n && (subtype.take n).all (· ∉ ([0xA, 0xD, 0x2028, 0x2029] : JsString)) &&
            [js "+json", js "+xml"].any (·.isPrefixOf (subtype.drop n)))

def readSource (maxInputBytes retainLimit : ℕ) :
    List Bytes → Bytes → ℕ → Except Thrown (Bytes × ℕ)
  | [], retained, inputBytes => .ok (retained, inputBytes)
  | chunk :: chunks, retained, inputBytes =>
    if maxInputBytes < inputBytes + chunk.length then
      .error (artifactIngestionError "Artifact input exceeds the hard safety limit")
    else
      readSource maxInputBytes retainLimit chunks
        (if retained.length < retainLimit then
            retained ++ chunk.take (retainLimit - retained.length)
          else retained)
        (inputBytes + chunk.length)

/-- `text.slice(0, Math.max(0, text.length - 64))` until the text fits. -/
def truncate (encode : JsString → Bytes) (contentBudget : ℕ) (text : JsString) : JsString :=
  if (encode text).length ≤ contentBudget ∨ text = [] then text
  else truncate encode contentBudget (text.take (text.length - 64))
termination_by text.length
decreasing_by
  rename_i h
  have hpos := List.length_pos_of_ne_nil (not_or.mp h).2
  rw [List.length_take]
  omega

variable (runtime : IngestionRuntime) (settings : IngestionSettings)

def sanitizedBytes (input : ArtifactIngestionInput) (secrets identities : List JsString) :
    Except Thrown Bytes := do
  require (isTextMediaType input.mediaType)
    (artifactIngestionError
      "Binary evidence is rejected; upload a bounded textual summary instead")
  let lookahead := min 8192 ((secrets.map List.length).foldl max 1024)
  let (combined, inputBytes) ← readSource settings.maxInputBytes
    (settings.maxTextBytes + lookahead) input.source [] 0
  require (decide (0 ∉ combined))
    (artifactIngestionError "Binary artifact content is not accepted")
  let text := runtime.redact (runtime.decode combined) secrets identities
  if settings.maxTextBytes < (runtime.encode text).length ∨
      settings.maxTextBytes < inputBytes then
    let marker := js s!"\n[TRUNCATED: original {inputBytes} bytes]"
    .ok (runtime.encode (truncate runtime.encode
      (settings.maxTextBytes - (runtime.encode marker).length) text ++ marker))
  else .ok (runtime.encode text)

/-! ## The object store -/

def isScopeComponent : JsString → Bool
  | [] => false
  | u :: rest => isLetterOrDigit u && rest.length ≤ 127 &&
    rest.all fun u => isLetterOrDigit u || u = 0x5F || u = 0x2D

/-- `SHA256`: 64 hexadecimal digits. -/
def isDigest (text : JsString) : Bool :=
  text.length = 64 && text.all (· ∈ js "0123456789abcdef")

structure ImmutableObjectUpload where
  scope : ArtifactObjectScope
  body : Bytes
  expectedDigest : Option JsString
  mediaType : JsString
  createdAt : ℤ
  createdBy : JsString
  retentionPolicy : ArtifactRetentionPolicy
  retentionUntil : ℤ

structure ImmutableObjectDescriptor where
  objectKey : JsString
  digest : JsString
  mediaType : JsString
  sizeBytes : ℕ

def validateObjectScope (scope : ArtifactObjectScope) : Except Thrown Unit :=
  require (isScopeComponent scope.organizationId && isScopeComponent scope.projectId)
    (objectStoreValidationError "Object tenant scope is invalid")

def objectKeyOf (scope : ArtifactObjectScope) (digest : JsString) : JsString :=
  scope.organizationId ++ js "/" ++ scope.projectId ++ js "/sha256/" ++ digest

def scopedObjectKey (scope : ArtifactObjectScope) (digest : JsString) :
    Except Thrown JsString := do
  validateObjectScope scope
  require (isDigest digest) (objectStoreValidationError "Object digest is invalid")
  .ok (objectKeyOf scope digest)

def validateObjectUpload (input : ImmutableObjectUpload) : Except Thrown Unit := do
  validateObjectScope input.scope
  require (trim input.mediaType ≠ [] && input.mediaType.length ≤ 200 &&
      trim input.createdBy ≠ [] && input.createdBy.length ≤ 200 &&
      input.createdAt < input.retentionUntil && input.expectedDigest.all isDigest)
    (objectStoreValidationError "Immutable object metadata is invalid")

/-- `putImmutable` of the stores on a file system and on S3.  An object that is stored
already keeps its bytes, which are the same; the descriptor is that of the upload. -/
def putImmutable (input : ImmutableObjectUpload) : Except Thrown ImmutableObjectDescriptor := do
  validateObjectUpload input
  let digest := runtime.sha256 input.body
  require (!truthy input.expectedDigest || input.expectedDigest = some digest)
    objectDigestMismatchError
  let objectKey ← scopedObjectKey input.scope digest
  .ok
    { objectKey := objectKey
      digest := digest
      mediaType := input.mediaType
      sizeBytes := input.body.length }

/-! ## Ingestion -/

def retentionDays : ArtifactRetentionPolicy → ℤ
  | .standard180d => 180
  | .extended365d => 365
  | .legalHold => 36500

def retentionUntil (policy : ArtifactRetentionPolicy) (now : ℤ) : ℤ :=
  now + retentionDays policy * 24 * 60 * 60 * 1000

/-- `new Date(time).toISOString()` has a text. -/
def isDate (time : ℤ) : Bool := time.natAbs ≤ 8640000000000000

/-- A call of `ingest`, with what the clock shows and the id that the factory makes. -/
structure Ingestion where
  input : ArtifactIngestionInput
  now : ℤ
  id : JsString

def Ingestion.bytes (ingestion : Ingestion) : Except Thrown Bytes :=
  if ingestion.input.captureRaw then sanitizedBytes runtime settings ingestion.input [] []
  else sanitizedBytes runtime settings ingestion.input ingestion.input.secretValues
    ingestion.input.identityValues

/-- `ingest`, up to the call of `saveArtifact`: the record that is saved. -/
def Ingestion.record (ingestion : Ingestion) : Except Thrown ArtifactEvidenceRecord := do
  let input := ingestion.input
  require (trim input.createdBy ≠ []) (artifactIngestionError "Artifact identity is invalid")
  require (!truthy input.expectedDigest || input.expectedDigest.all isDigest)
    (artifactIngestionError "Expected artifact digest is invalid")
  require (!input.captureRaw || (settings.allowRawCapture && input.rawCaptureAuthorized))
    (artifactIngestionError "Raw capture is disabled by policy")
  let bytes ← ingestion.bytes runtime settings
  let retention := retentionUntil input.retentionPolicy ingestion.now
  require (isDate retention && isDate ingestion.now) rangeError
  let object ← putImmutable runtime
    { scope := input.scope.project
      body := bytes
      expectedDigest := input.expectedDigest
      mediaType := input.mediaType
      createdAt := ingestion.now
      createdBy := input.createdBy
      retentionPolicy := input.retentionPolicy
      retentionUntil := retention }
  .ok
    { id := ingestion.id
      scope := input.scope
      kind := input.kind
      objectKey := object.objectKey
      digest := object.digest
      mediaType := object.mediaType
      sizeBytes := object.sizeBytes
      createdBy := input.createdBy
      retentionPolicy := input.retentionPolicy
      retentionUntil := retention
      createdAt := ingestion.now }

end DevHarness.Evidence
