import DevHarness.Evidence.Listing
import DevHarness.Workbench.TaskActions

/-!
# Retention

An object keeps the retention of the first record of its text.  A later ingestion that asks
for more is answered with what the first one asked for.
-/

namespace DevHarness.Evidence

open JsText
open ControlPlane (Thrown)
open Workbench (ArtifactKind ActorVisibilityScope isUuid)
open PostgresEvidenceRepository (objectRow joined mapArtifact findVisibleArtifact)

/-! ## Download grants -/

inductive DownloadErrorCode
  | notFound
  | expired
  deriving DecidableEq

/-- What `createGrant` throws: an `ArtifactDownloadError`, or the error of the object
store. -/
inductive GrantError
  | download (code : DownloadErrorCode) (message : JsString)
  | thrown (error : Thrown)
  deriving DecidableEq

structure ObjectDownloadGrant where
  url : JsString
  expiresAt : ℤ

structure ArtifactGrant where
  id : JsString
  kind : ArtifactKind
  digest : JsString
  mediaType : JsString
  sizeBytes : ℕ
  createdAt : ℤ
  downloadUrl : JsString
  expiresAt : ℤ

structure GrantRequest where
  artifactId : JsString
  actorId : JsString
  visibility : ActorVisibilityScope

/-- The object store that signs grants: a project, a key, an actor and the seconds. -/
abbrev GrantSigner :=
  ArtifactObjectScope → JsString → JsString → ℕ → Except Thrown ObjectDownloadGrant

def artifactNotFound : GrantError := .download .notFound (js "Artifact was not found")

def retentionExpired : GrantError := .download .expired (js "Artifact retention has expired")

/-- `createGrant`, when the clock shows `now`. -/
def createGrant (sign : GrantSigner) (tables : EvidenceTables) (now : ℤ)
    (request : GrantRequest) : Except GrantError ArtifactGrant :=
  if isUuid (request.artifactId.map foldCase) = false then .error artifactNotFound
  else
    match findVisibleArtifact tables request.artifactId request.visibility.organizationIds
        request.visibility.projectIds with
    | none => .error artifactNotFound
    | some artifact =>
      if artifact.retentionPolicy ≠ .legalHold ∧ artifact.retentionUntil ≤ now then
        .error retentionExpired
      else
        match sign artifact.scope.project artifact.objectKey request.actorId 300 with
        | .error error => .error (.thrown error)
        | .ok grant => .ok
            { id := artifact.id
              kind := artifact.kind
              digest := artifact.digest
              mediaType := artifact.mediaType
              sizeBytes := artifact.sizeBytes
              createdAt := artifact.createdAt
              downloadUrl := grant.url
              expiresAt := grant.expiresAt }

section Grants

variable {sign : GrantSigner} {tables : EvidenceTables} {now : ℤ} {request : GrantRequest}

theorem mem_of_findVisibleArtifact {artifactId : JsString} {organizationIds projectIds : List JsString}
    {artifact : ArtifactEvidenceRecord}
    (h : findVisibleArtifact tables artifactId organizationIds projectIds = some artifact) :
    ∃ row ∈ tables.objects.rows, row.id = artifactId.map foldCase ∧
      artifact.retentionPolicy = row.retentionPolicy ∧
      artifact.retentionUntil = row.retentionUntil := by
  unfold findVisibleArtifact at h
  split at h
  · cases h
  · obtain ⟨row, hrow, rfl⟩ := Option.map_eq_some_iff.mp h
    have hmem := Sql.mem_orderBy.mp (List.mem_of_mem_head? (Option.mem_def.mpr hrow))
    obtain ⟨hjoined, hid⟩ := List.mem_filter.mp hmem
    exact ⟨row.2, (mem_joined.mp hjoined).2.1, (of_decide_eq_true hid).1, rfl, rfl⟩

theorem row_of_expired (h : createGrant sign tables now request = .error retentionExpired) :
    ∃ row ∈ tables.objects.rows, row.id = request.artifactId.map foldCase ∧
      row.retentionPolicy ≠ .legalHold ∧ row.retentionUntil ≤ now := by
  unfold createGrant at h
  split at h
  · cases Except.error.inj h
  · split at h
    · cases Except.error.inj h
    · next artifact hfind =>
      obtain ⟨row, hrow, hid, hpolicy, huntil⟩ := mem_of_findVisibleArtifact hfind
      split at h
      · next hexpired =>
        rw [hpolicy, huntil] at hexpired
        exact ⟨row, hrow, hid, hexpired⟩
      · split at h
        · cases Except.error.inj h
        · cases h

end Grants

section Kept

variable {runtime : IngestionRuntime} {settings : IngestionSettings}

def Ingestion.KeptBy (ingestion : Ingestion) (policy : ArtifactRetentionPolicy) (date : ℤ) :
    Prop :=
  retentionUntil ingestion.input.retentionPolicy ingestion.now ≤ date ∧
    (ingestion.input.retentionPolicy = .legalHold → policy = .legalHold)

/-- In a history, each ingestion that is answered with a record is answered with its
retention or more, the object that the record names has it at the end, and no grant says
before that it has expired. -/
structure RetentionKept (sign : GrantSigner) (history : History runtime settings) : Prop where
  kept : ∀ before ingestion after, history.ingestions = before ++ ingestion :: after →
    ∀ record, (ingest runtime settings (tablesAfter runtime settings history.runs before)
        ingestion).1 = .ok record →
      ingestion.KeptBy record.retentionPolicy record.retentionUntil ∧
      (∃ row ∈ (tablesAfter runtime settings history.runs history.ingestions).objects.rows,
        row.id = record.id ∧ ingestion.KeptBy row.retentionPolicy row.retentionUntil) ∧
      ∀ request now, request.artifactId.map foldCase = record.id →
        now < retentionUntil ingestion.input.retentionPolicy ingestion.now →
        createGrant sign (tablesAfter runtime settings history.runs history.ingestions) now
          request ≠ .error retentionExpired

/-- Two ingestions store the same text in one project. -/
def SameText (runtime : IngestionRuntime) (settings : IngestionSettings) (a b : Ingestion) :
    Prop :=
  a.input.scope.project = b.input.scope.project ∧
    a.bytes runtime settings = b.bytes runtime settings

/-- The first of the ingestions that store a text in a project asks for at least what every
later one of its kind asks for. -/
structure FirstKeepsLongest (history : History runtime settings) : Prop where
  longest : ∀ before first after, history.ingestions = before ++ first :: after →
    first.Accepted runtime settings → first.HasTexts →
    (∀ earlier ∈ before, earlier.Accepted runtime settings → earlier.HasTexts →
      ¬ SameText runtime settings earlier first) →
    ∀ later ∈ after, later.Accepted runtime settings → later.HasTexts →
      SameText runtime settings later first → later.input.kind = first.input.kind →
      later.KeptBy first.input.retentionPolicy
        (retentionUntil first.input.retentionPolicy first.now)

variable {ingestions before after : List Ingestion} {first ingestion : Ingestion}
  {record made : ArtifactEvidenceRecord} {project : ArtifactObjectScope} {digest : JsString}
  {history : History runtime settings}

theorem exists_first_of_firstOf
    (h : firstOf (savedOf runtime settings ingestions) project digest = some record) :
    ∃ before first after, ingestions = before ++ first :: after ∧
      first.saved runtime settings = some record ∧
      ∀ earlier ∈ before, ∀ other, earlier.saved runtime settings = some other →
        ¬ (other.scope.project = project ∧ other.digest = digest) := by
  rw [firstOf, savedOf, List.find?_filterMap] at h
  obtain ⟨first, hfirst, hsaved⟩ := Option.bind_eq_some_iff.mp h
  obtain ⟨-, before, after, hsplit, hbefore⟩ := List.find?_eq_some_iff_append.mp hfirst
  refine ⟨before, first, after, hsplit, hsaved, ?_⟩
  intro earlier hearlier other hother hsame
  have hno := hbefore earlier hearlier
  rw [hother, Option.any_some, decide_eq_true hsame] at hno
  cases hno

theorem firstOf_of_first (hsaved : first.saved runtime settings = some record)
    (hbefore : ∀ earlier ∈ before, ∀ other, earlier.saved runtime settings = some other →
      ¬ (other.scope.project = record.scope.project ∧ other.digest = record.digest)) :
    firstOf (savedOf runtime settings (before ++ first :: after)) record.scope.project
      record.digest = some record := by
  have hnone : (savedOf runtime settings before).find? (fun other =>
      other.scope.project = record.scope.project ∧ other.digest = record.digest) = none := by
    rw [List.find?_eq_none]
    intro other hother
    obtain ⟨earlier, hearlier, hsaved'⟩ := mem_savedOf.mp hother
    rw [decide_eq_true_eq]
    exact hbefore earlier hearlier other hsaved'
  have hsplit : savedOf runtime settings (before ++ first :: after) =
      savedOf runtime settings before ++ record :: savedOf runtime settings after := by
    rw [savedOf, List.filterMap_append, List.filterMap_cons_some hsaved]
    rfl
  rw [firstOf, hsplit, List.find?_append, hnone, Option.none_or, List.find?_cons_of_pos]
  exact decide_eq_true ⟨rfl, rfl⟩

/-! ## What an ingestion is answered -/

theorem tracks_before (hsplit : history.ingestions = before ++ after) :
    Tracks history.runs (tablesAfter runtime settings history.runs before)
      (savedOf runtime settings before) := by
  have hids := history.ids_nodup
  rw [hsplit, List.map_append] at hids
  apply tracks_tablesAfter _ hids.of_append_left
  intro earlier hearlier
  apply history.of_run earlier
  rw [hsplit]
  exact List.mem_append_left _ hearlier

theorem savable_before (hsplit : history.ingestions = before ++ after) :
    Savable history.runs (savedOf runtime settings before) := by
  have hids := history.ids_nodup
  rw [hsplit, List.map_append] at hids
  apply savable_savedOf runtime settings _ hids.of_append_left
  intro earlier hearlier
  apply history.of_run earlier
  rw [hsplit]
  exact List.mem_append_left _ hearlier

/-- An ingestion is answered with the first record of its text, when this has its kind. -/
theorem ingest_eq_ok (hsplit : history.ingestions = before ++ ingestion :: after) :
    (ingest runtime settings (tablesAfter runtime settings history.runs before) ingestion).1 =
        .ok record ↔
      ∃ made first, ingestion.saved runtime settings = some made ∧
        firstOf (savedOf runtime settings (before ++ [ingestion])) made.scope.project
          made.digest = some first ∧
        first.kind = made.kind ∧ record = mapArtifact made.scope (objectRow first) := by
  have htracks : Tracks history.runs (tablesAfter runtime settings history.runs before)
      (savedOf runtime settings before) := tracks_before hsplit
  have hsavable : Savable history.runs (savedOf runtime settings (before ++ [ingestion])) := by
    apply savable_before
    rw [List.append_assoc]
    exact hsplit
  rcases hsaved : ingestion.saved runtime settings with - | made
  · constructor
    · intro h
      exact ((ingest_of_saved_eq_none hsaved).2 record h).elim
    · rintro ⟨made, first, hmade, -⟩
      cases hmade
  · have hsome : savedOf runtime settings (before ++ [ingestion]) =
        savedOf runtime settings before ++ [made] := by
      rw [savedOf, List.filterMap_append, List.filterMap_cons_some hsaved]
      rfl
    rw [hsome] at hsavable ⊢
    rw [ingest_of_saved_eq_some hsaved]
    rcases saveArtifact_cases htracks hsavable with
      ⟨first, hfirst, hkind, hsave⟩ | ⟨first, inserted, hfirst, hkind, hsave, -⟩
    · rw [hsave]
      constructor
      · intro h
        cases h
      · rintro ⟨made', first', hmade', hfirst', hkind', -⟩
        obtain rfl := Option.some.inj hmade'
        rw [firstOf_append_of_some hfirst] at hfirst'
        rw [Option.some.inj hfirst'] at hkind
        exact (hkind hkind').elim
    · rw [hsave]
      constructor
      · intro h
        exact ⟨made, first, rfl, hfirst, hkind, (Except.ok.inj h).symm⟩
      · rintro ⟨made', first', hmade', hfirst', -, rfl⟩
        obtain rfl := Option.some.inj hmade'
        rw [Option.some.inj (hfirst.symm.trans hfirst')]

theorem sameText_of_columns {a b : Ingestion} {ra rb : ArtifactEvidenceRecord}
    (ha : a ∈ history.ingestions) (hb : b ∈ history.ingestions)
    (hra : a.saved runtime settings = some ra) (hrb : b.saved runtime settings = some rb) :
    SameText runtime settings a b ↔
      ra.scope.project = rb.scope.project ∧ ra.digest = rb.digest := by
  obtain ⟨-, -, bytes, hbytes, rfl⟩ := of_saved hra
  obtain ⟨-, -, bytes', hbytes', rfl⟩ := of_saved hrb
  constructor
  · rintro ⟨hproject, hsame⟩
    obtain rfl := Except.ok.inj (hbytes.symm.trans (hsame.trans hbytes'))
    exact ⟨hproject, rfl⟩
  · rintro ⟨hproject, hdigest⟩
    have hsame := history.collision_free a ha b hb bytes bytes' hbytes hbytes' hdigest
    exact ⟨hproject, by rw [hbytes, hsame, hbytes']⟩

theorem Ingestion.keptBy_self (ingestion : Ingestion) :
    ingestion.KeptBy ingestion.input.retentionPolicy
      (retentionUntil ingestion.input.retentionPolicy ingestion.now) :=
  ⟨le_refl _, fun h => h⟩

/-- Where the first ingestion keeps the longest, the first record of a text keeps what an
ingestion of its kind asks for. -/
theorem keptBy_of_firstKeepsLongest (h : FirstKeepsLongest history)
    (hsplit : history.ingestions = before ++ ingestion :: after)
    (hsaved : ingestion.saved runtime settings = some made)
    (hfirst : firstOf (savedOf runtime settings (before ++ [ingestion])) made.scope.project
      made.digest = some record) (hkind : record.kind = made.kind) :
    ingestion.KeptBy record.retentionPolicy record.retentionUntil := by
  obtain ⟨earlier, first, rest, hparts, hrecord, hno⟩ := exists_first_of_firstOf hfirst
  obtain ⟨-, hproject, hdigest⟩ := mem_of_firstOf hfirst
  obtain ⟨haccepted, htexts, bytes, hbytes, rfl⟩ := of_saved hrecord
  obtain ⟨haccepted', htexts', bytes', hbytes', rfl⟩ := of_saved hsaved
  rcases List.eq_nil_or_concat rest with rfl | ⟨middle, last, rfl⟩
  · -- the ingestion is itself the first
    obtain ⟨-, hlast⟩ := List.append_inj' hparts rfl
    obtain rfl := List.singleton_inj.mp hlast
    exact ingestion.keptBy_self
  · have hparts' : before ++ [ingestion] = (earlier ++ first :: middle) ++ [last] := by
      rw [hparts, List.concat_eq_append, List.append_assoc, List.cons_append]
    obtain ⟨rfl, hlast⟩ := List.append_inj' hparts' rfl
    obtain rfl := List.singleton_inj.mp hlast
    have hwhole : history.ingestions = earlier ++ first :: (middle ++ ingestion :: after) := by
      rw [hsplit, List.append_assoc, List.cons_append]
    have hmem : ∀ x ∈ earlier ++ first :: (middle ++ ingestion :: after),
        x ∈ history.ingestions := fun x hx => hwhole ▸ hx
    have hlater : ingestion ∈ middle ++ ingestion :: after :=
      List.mem_append_right _ List.mem_cons_self
    have hsame : SameText runtime settings ingestion first := by
      refine (sameText_of_columns (hmem _ ?_) (hmem _ ?_) hsaved hrecord).mpr
        ⟨hproject.symm, hdigest.symm⟩
      · exact List.mem_append_right _ (List.mem_cons_of_mem _ hlater)
      · exact List.mem_append_right _ List.mem_cons_self
    refine h.longest earlier first _ hwhole haccepted htexts ?_ ingestion hlater haccepted'
      htexts' hsame hkind.symm
    intro other hother haccepted'' htexts'' hsame'
    obtain ⟨bytes'', hbytes'', hsaved''⟩ := exists_saved haccepted'' htexts''
    have hcolumns := (sameText_of_columns (hmem other (List.mem_append_left _ hother))
      (hmem first (List.mem_append_right _ List.mem_cons_self)) hsaved'' hrecord).mp hsame'
    exact hno other hother _ hsaved''
      ⟨hcolumns.1.trans hproject, hcolumns.2.trans hdigest⟩

theorem firstOf_history (hsplit : history.ingestions = before ++ ingestion :: after)
    (hfirst : firstOf (savedOf runtime settings (before ++ [ingestion])) project digest =
      some record) :
    firstOf (savedOf runtime settings history.ingestions) project digest = some record := by
  have hparts : savedOf runtime settings history.ingestions =
      savedOf runtime settings (before ++ [ingestion]) ++ savedOf runtime settings after := by
    rw [hsplit, List.append_cons, savedOf, List.filterMap_append]
    rfl
  rw [firstOf, hparts, List.find?_append]
  rw [firstOf] at hfirst
  rw [hfirst, Option.some_or]

theorem retentionKept_of_firstKeepsLongest (sign : GrantSigner) (h : FirstKeepsLongest history) :
    RetentionKept sign history where
  kept := by
    intro before ingestion after hsplit record hrecord
    obtain ⟨made, first, hsaved, hfirst, hkind, rfl⟩ := (ingest_eq_ok hsplit).mp hrecord
    have hkept := keptBy_of_firstKeepsLongest h hsplit hsaved hfirst hkind
    have htracks := tracks_history runtime settings history
    have hstored : objectRow first ∈
        (tablesAfter runtime settings history.runs history.ingestions).objects.rows := by
      rw [htracks.objects]
      refine ⟨first, ?_, rfl⟩
      obtain ⟨-, hproject, hdigest⟩ := mem_of_firstOf hfirst
      rw [show (objectRow first).project = first.scope.project from rfl, hproject,
        show (objectRow first).digest = first.digest from rfl, hdigest]
      exact firstOf_history hsplit hfirst
    refine ⟨hkept, ⟨objectRow first, hstored, rfl, hkept⟩, ?_⟩
    intro request now hid hnow hexpired
    obtain ⟨row, hrow, hrowId, hpolicy, huntil⟩ := row_of_expired hexpired
    have hsame : row = objectRow first := by
      apply Sql.Table.eq_of_key_eq hrow hstored
      exact hrowId.trans hid
    subst hsame
    have hlong : retentionUntil ingestion.input.retentionPolicy ingestion.now ≤
        first.retentionUntil := hkept.1
    exact absurd (hlong.trans huntil) (not_le.mpr hnow)

theorem firstKeepsLongest_of_retentionKept {sign : GrantSigner}
    (h : RetentionKept sign history) : FirstKeepsLongest history where
  longest := by
    intro before first after hsplit haccepted htexts hearlier later hlater haccepted' htexts'
      hsame hkind
    obtain ⟨bytes, hbytes, hfirst⟩ := exists_saved haccepted htexts
    obtain ⟨bytes', hbytes', hsaved⟩ := exists_saved haccepted' htexts'
    obtain ⟨middle, rest, rfl⟩ := List.append_of_mem hlater
    have hsplit' : history.ingestions = (before ++ first :: middle) ++ later :: rest := by
      rw [hsplit, List.append_assoc, List.cons_append]
    have hmem : ∀ x ∈ before ++ first :: (middle ++ later :: rest), x ∈ history.ingestions :=
      fun x hx => hsplit ▸ hx
    have hfirstMem := hmem first (List.mem_append_right _ List.mem_cons_self)
    have hcolumns := (sameText_of_columns (hmem later (List.mem_append_right _
      (List.mem_cons_of_mem _ hlater))) hfirstMem hsaved hfirst).mp hsame
    have hstored : firstOf (savedOf runtime settings ((before ++ first :: middle) ++ [later]))
        (later.recordOf runtime bytes').scope.project (later.recordOf runtime bytes').digest =
        some (first.recordOf runtime bytes) := by
      rw [hcolumns.1, hcolumns.2, List.append_assoc, List.cons_append]
      apply firstOf_of_first hfirst
      intro earlier hmemEarlier other hother hcolumns'
      obtain ⟨haccepted'', htexts'', -⟩ := of_saved hother
      exact hearlier earlier hmemEarlier haccepted'' htexts''
        ((sameText_of_columns (hmem earlier (List.mem_append_left _ hmemEarlier)) hfirstMem hother
          hfirst).mpr hcolumns')
    have hanswer := (ingest_eq_ok hsplit').mpr
      ⟨_, _, hsaved, hstored, hkind.symm, rfl⟩
    exact (h.kept _ later rest hsplit' _ hanswer).1

/-- Retention is kept in just the histories in which the first ingestion of a text asks for
the longest. -/
theorem retentionKept_iff (sign : GrantSigner) (history : History runtime settings) :
    RetentionKept sign history ↔ FirstKeepsLongest history :=
  ⟨firstKeepsLongest_of_retentionKept, retentionKept_of_firstKeepsLongest sign⟩

end Kept

/-! ## A legal hold on a known text -/

def heldLog (policy : ArtifactRetentionPolicy) : ArtifactIngestionInput :=
  { okOutput .runLog with retentionPolicy := policy }

/-- A log is ingested for 180 days, and again under a legal hold. -/
def lateHold : History plainRuntime plainSettings where
  runs := (Sql.Table.empty _).insertNew oneRun
  ingestions := [ingestedFirst (heldLog .standard180d), ingestedSecond (heldLog .legalHold)]
  of_run := by decide
  ids_nodup := by decide
  collision_free := by
    have hbytes : ∀ a ∈ [ingestedFirst (heldLog .standard180d),
        ingestedSecond (heldLog .legalHold)],
        a.bytes plainRuntime plainSettings = .ok [0x6F, 0x6B] := by
      intro a ha
      rcases List.mem_cons.mp ha with rfl | ha
      · rfl
      · obtain rfl := List.mem_singleton.mp ha
        rfl
    intro a ha b hb bytes bytes' h h' _
    exact Except.ok.inj (h.symm.trans ((hbytes a ha).trans ((hbytes b hb).symm.trans h')))

def anySigner : GrantSigner := fun _ key _ seconds => .ok { url := key, expiresAt := seconds }

def logRequest : GrantRequest where
  artifactId := (ingestedFirst (heldLog .standard180d)).id
  actorId := js "actor"
  visibility :=
    { actorId := js "actor"
      organizationIds := [oneRun.organizationId]
      projectIds := [] }

/-- The legal hold is answered with the 180 days of the first ingestion, and after these the
held artifact has expired. -/
theorem not_retentionKept :
    (ingest plainRuntime plainSettings
        (tablesAfter plainRuntime plainSettings lateHold.runs
          [ingestedFirst (heldLog .standard180d)])
        (ingestedSecond (heldLog .legalHold))).1.toOption.map
      (fun record => (record.id, record.retentionPolicy, record.retentionUntil)) =
      some (logRequest.artifactId, .standard180d, 15552001000) ∧
    (createGrant anySigner (tablesAfter plainRuntime plainSettings lateHold.runs
      lateHold.ingestions) 15552001000 logRequest).map (·.id) = .error retentionExpired ∧
    ¬ RetentionKept anySigner lateHold := by
  refine ⟨by decide +kernel, by decide +kernel, ?_⟩
  intro hkept
  obtain ⟨record, hrecord, hpolicy⟩ : ∃ record, (ingest plainRuntime plainSettings
      (tablesAfter plainRuntime plainSettings lateHold.runs
        [ingestedFirst (heldLog .standard180d)])
      (ingestedSecond (heldLog .legalHold))).1 = .ok record ∧
      record.retentionPolicy = .standard180d := ⟨_, rfl, rfl⟩
  have hheld := (hkept.kept [ingestedFirst (heldLog .standard180d)] _ [] rfl record hrecord).1.2 rfl
  rw [hpolicy] at hheld
  cases hheld

end DevHarness.Evidence
