import DevHarness.ReleaseCenter.Certification
import DevHarness.ReleaseCenter.Production

/-!
# Locked evidence

What the production gate accepts, what each operation of a release does, and what holds of a
release after any sequence of them: after its evaluation the evidence does not change, its digest
is that of the stored report, and the gate accepts an approved report from then on.
-/

namespace DevHarness.ReleaseCenter

open JsText Sequence

/-! ## What the gate accepts -/

structure GoodGate (canaryEnd evaluatedAt : ℤ) (gate : ReportGate) : Prop where
  status : gate.status = js "passed"
  checked : canaryEnd ≤ gate.checkedAt ∧ gate.checkedAt ≤ evaluatedAt
  refs : gate.evidenceRefs ≠ [] ∧ ∀ ref ∈ gate.evidenceRefs, evidenceRef ref = true

structure GoodReleaseDefect (defect : ReleaseDefect) : Prop where
  safe : safeId defect.id = true
  owner : safeId defect.ownerId = true
  workaround : trim defect.workaround ≠ []
  refs : defect.evidenceRefs ≠ [] ∧ ∀ ref ∈ defect.evidenceRefs, evidenceRef ref = true

def RealId (value : JsString) : Prop :=
  safeId value = true ∧ isPlaceholder value = false

structure GoodSignature (digest : JsString) (evaluatedAt now : ℤ) (signature : ProductionSignature) :
    Prop where
  signer : RealId signature.signerId
  signed : evaluatedAt ≤ signature.signedAt ∧ signature.signedAt ≤ now
  attested : signature.decision = js "approved" ∧ signature.authenticationMethod = js "oidc"
  reason : trim signature.reason ≠ [] ∧ 20 ≤ signature.reason.length
  request : RealId signature.requestId
  receipt : RealId signature.auditReceiptId
  bound : signature.attestationDigest = digest

structure GoodRelease (hashing : Hashing) (report : ProductionReleaseReport) (now : ℤ) : Prop where
  schema : report.schemaVersion = js "harness.p12-production-release-gate.v1" ∧
    report.target = js "production-v1"
  safe : safeId report.releaseId = true
  commit : commitSha report.candidateCommit = true
  evaluated : report.evaluatedAt ≤ now
  canary : GoodReport report.canary now
  afterCanary : report.canary.observation.endedAt ≤ report.evaluatedAt
  gateCount : report.gates.length = ProductionGateId.all.length
  gates : ∀ gate ∈ report.gates,
    GoodGate report.canary.observation.endedAt report.evaluatedAt gate
  distinct : (report.gates.map (·.gateId)).Nodup
  complete : ∀ gateId, gateId ∈ report.gates.map (·.gateId)
  noCritical : report.defects.p0Count = 0 ∧ report.defects.p1Count = 0
  defects : ∀ defect ∈ report.defects.p2, GoodReleaseDefect defect
  gaps : report.gaps = []
  result : report.result = js "approved"
  signatureCount : report.signatures.length = ReleaseSignatureRole.all.length
  signatures : ∀ signature ∈ report.signatures,
    GoodSignature (hashing.releaseAttestationDigest report) report.evaluatedAt now signature
  roles : (report.signatures.map (·.role)).Nodup

variable {signature : ProductionSignature} {hashing : Hashing} {now : ℤ}
  {value next : ProductionReleaseAggregate}

section Accepted

variable {report : ProductionReleaseReport} {u : Unit} {canaryEnd evaluatedAt : ℤ} {index : ℕ}
  {gates : List ReportGate} {digest : JsString} {seen : List ReleaseSignatureRole}
  {signatures : List ProductionSignature}

theorem releaseId_eq_ok {value label : JsString} {reject : Bool} :
    ReleaseGate.id value label reject = .ok u ↔
      safeId value = true ∧ (reject = true → isPlaceholder value = false) :=
  gateId_eq_ok

theorem checkGate_eq_ok {seen : List ProductionGateId} {gate : ReportGate} :
    ReleaseGate.checkGate canaryEnd evaluatedAt seen gate index = .ok u ↔
      gate.gateId ∉ seen ∧ GoodGate canaryEnd evaluatedAt gate := by
  simp only [ReleaseGate.checkGate, check_bind_eq_ok, ensure_eq_ok, versionedRefs_eq_ok,
    decide_eq_true_eq, Bool.not_eq_true', decide_eq_false_iff_not]
  constructor
  · rintro ⟨hseen, hstatus, hchecked, hrefs⟩
    exact ⟨hseen, hstatus, hchecked, hrefs⟩
  · rintro ⟨hseen, hstatus, hchecked, hrefs⟩
    exact ⟨hseen, hstatus, hchecked, hrefs⟩

theorem checkGates_eq_ok {seen last : List ProductionGateId} :
    ReleaseGate.checkGates canaryEnd evaluatedAt seen index gates = .ok last ↔
      (∀ gate ∈ gates, gate.gateId ∉ seen ∧ GoodGate canaryEnd evaluatedAt gate) ∧
        (gates.map (·.gateId)).Nodup ∧ (gates.map (·.gateId)).reverse ++ seen = last := by
  induction gates generalizing seen index with
  | nil => simp [ReleaseGate.checkGates]
  | cons gate rest ih =>
      rw [ReleaseGate.checkGates, check_bind_eq_ok, checkGate_eq_ok, ih, List.forall_mem_cons]
      simp only [List.map_cons, List.nodup_cons, List.mem_map, not_exists,
        not_and, List.reverse_cons, List.append_assoc, List.singleton_append, List.mem_cons,
        not_or]
      constructor
      · rintro ⟨hfirst, hrest, hnodup, rfl⟩
        exact ⟨⟨hfirst, fun other hother => ⟨(hrest other hother).1.2, (hrest other hother).2⟩⟩,
          ⟨fun other hother => (hrest other hother).1.1, hnodup⟩, rfl⟩
      · rintro ⟨⟨hfirst, hrest⟩, ⟨hdistinct, hnodup⟩, rfl⟩
        exact ⟨hfirst, fun other hother => ⟨⟨hdistinct other hother, (hrest other hother).1⟩,
          (hrest other hother).2⟩, hnodup, rfl⟩

theorem validateGates_eq_ok :
    (∃ gateCount, ReleaseGate.validateGates gates canaryEnd evaluatedAt = .ok gateCount) ↔
      gates.length = ProductionGateId.all.length ∧
        (∀ gate ∈ gates, GoodGate canaryEnd evaluatedAt gate) ∧ (gates.map (·.gateId)).Nodup ∧
        ∀ gateId, gateId ∈ gates.map (·.gateId) := by
  have hall : ∀ seen : List ProductionGateId,
      (ProductionGateId.all.all fun gateId => gateId ∈ seen) = true ↔
        ∀ gateId, gateId ∈ seen := by
    intro seen
    simp only [List.all_eq_true, decide_eq_true_eq]
    exact ⟨fun h gateId => h gateId gateId.mem_all, fun h gateId _ => h gateId⟩
  simp only [ReleaseGate.validateGates, check_bind_eq_ok, ensure_eq_ok, decide_eq_true_eq]
  simp only [bind_eq_ok, checkGates_eq_ok, ensure_eq_ok, hall, List.append_nil,
    List.not_mem_nil, not_false_eq_true, true_and]
  constructor
  · rintro ⟨_, hlength, _, ⟨hgood, hnodup, rfl⟩, _, hcomplete, -⟩
    exact ⟨hlength, hgood, hnodup, fun gateId => List.mem_reverse.mp (hcomplete gateId)⟩
  · rintro ⟨hlength, hgood, hnodup, hcomplete⟩
    exact ⟨_, hlength, _, ⟨hgood, hnodup, rfl⟩, (), fun gateId =>
      List.mem_reverse.mpr (hcomplete gateId), rfl⟩

theorem checkReleaseDefect_eq_ok {defect : ReleaseDefect} :
    ReleaseGate.checkDefect defect index = .ok u ↔ GoodReleaseDefect defect := by
  simp only [ReleaseGate.checkDefect, check_bind_eq_ok, releaseId_eq_ok, string_eq_ok,
    versionedRefs_eq_ok, Bool.false_eq_true, false_implies, and_true]
  constructor
  · rintro ⟨hsafe, howner, hworkaround, hrefs⟩
    exact ⟨hsafe, howner, hworkaround, hrefs⟩
  · rintro ⟨hsafe, howner, hworkaround, hrefs⟩
    exact ⟨hsafe, howner, hworkaround, hrefs⟩

theorem forM_checkReleaseDefect {defects : List ReleaseDefect} :
    (defects.zipIdx.forM fun entry => ReleaseGate.checkDefect entry.1 entry.2) = .ok u ↔
      ∀ defect ∈ defects, GoodReleaseDefect defect :=
  forM_zipIdx_eq_ok fun _ _ => checkReleaseDefect_eq_ok

theorem validateReleaseDefects_eq_ok {defects : ReleaseDefects} :
    ReleaseGate.validateDefects defects = .ok u ↔
      (defects.p0Count = 0 ∧ defects.p1Count = 0) ∧
        ∀ defect ∈ defects.p2, GoodReleaseDefect defect := by
  simp only [ReleaseGate.validateDefects, check_bind_eq_ok, ensure_eq_ok, decide_eq_true_eq,
    forM_checkReleaseDefect]
  constructor
  · rintro ⟨-, hp0, -, hp1, hdefects⟩
    exact ⟨⟨hp0, hp1⟩, hdefects⟩
  · rintro ⟨⟨hp0, hp1⟩, hdefects⟩
    exact ⟨hp0.ge, hp0, hp1.ge, hp1, hdefects⟩

theorem digestText_releaseAttestationDigest :
    digestText (hashing.releaseAttestationDigest report) = true :=
  (hashing.sha256 _).2

section

variable (hdigest : digestText digest = true)

include hdigest

theorem checkSignature_eq_ok {evaluatedAt : ℤ} :
    ReleaseGate.checkSignature digest evaluatedAt now seen signature index = .ok u ↔
      signature.role ∉ seen ∧ GoodSignature digest evaluatedAt now signature := by
  simp only [ReleaseGate.checkSignature, check_bind_eq_ok, ensure_eq_ok, releaseId_eq_ok,
    string_eq_ok, decide_eq_true_eq, Bool.not_eq_true', decide_eq_false_iff_not, Bool.and_eq_true,
    true_implies]
  constructor
  · rintro ⟨hseen, hsigner, hafter, hbefore, hattested, hreason, hlong, hrequest, hreceipt, -, -,
      hbound⟩
    exact ⟨hseen, hsigner, ⟨hafter, hbefore⟩, hattested, ⟨hreason, hlong⟩, hrequest, hreceipt,
      hbound⟩
  · rintro ⟨hseen, hsigner, ⟨hafter, hbefore⟩, hattested, ⟨hreason, hlong⟩, hrequest, hreceipt,
      hbound⟩
    refine ⟨hseen, hsigner, hafter, hbefore, hattested, hreason, hlong, hrequest, hreceipt, ?_, ?_,
      hbound⟩
    · rw [hbound]
      exact trim_ne_nil_of_digest hdigest
    · rw [hbound]
      exact hdigest

theorem checkSignatures_eq_ok {evaluatedAt : ℤ} :
    ReleaseGate.checkSignatures digest evaluatedAt now seen index signatures = .ok u ↔
      (∀ signature ∈ signatures, signature.role ∉ seen ∧
        GoodSignature digest evaluatedAt now signature) ∧ (signatures.map (·.role)).Nodup := by
  induction signatures generalizing seen index with
  | nil => simp [ReleaseGate.checkSignatures]
  | cons signature rest ih =>
      rw [ReleaseGate.checkSignatures, check_bind_eq_ok, checkSignature_eq_ok hdigest, ih,
        List.forall_mem_cons]
      simp only [List.map_cons, List.nodup_cons, List.mem_map, not_exists, not_and, List.mem_cons,
        not_or]
      constructor
      · rintro ⟨hfirst, hrest, hnodup⟩
        exact ⟨⟨hfirst, fun other hother => ⟨(hrest other hother).1.2, (hrest other hother).2⟩⟩,
          fun other hother => (hrest other hother).1.1, hnodup⟩
      · rintro ⟨⟨hfirst, hrest⟩, hdistinct, hnodup⟩
        exact ⟨hfirst, fun other hother => ⟨⟨hdistinct other hother, (hrest other hother).1⟩,
          (hrest other hother).2⟩, hnodup⟩

theorem validateSignatures_eq_ok {evaluatedAt : ℤ} :
    (∃ signatureCount,
        ReleaseGate.validateSignatures signatures digest evaluatedAt now = .ok signatureCount) ↔
      signatures.length = ReleaseSignatureRole.all.length ∧
        (∀ signature ∈ signatures, GoodSignature digest evaluatedAt now signature) ∧
        (signatures.map (·.role)).Nodup := by
  simp only [ReleaseGate.validateSignatures, check_bind_eq_ok, ensure_eq_ok, decide_eq_true_eq,
    checkSignatures_eq_ok hdigest, List.not_mem_nil, not_false_eq_true, true_and]
  constructor
  · rintro ⟨_, hlength, ⟨hgood, hnodup⟩, -⟩
    exact ⟨hlength, hgood, hnodup⟩
  · rintro ⟨hlength, hgood, hnodup⟩
    exact ⟨_, hlength, ⟨hgood, hnodup⟩, rfl⟩

end

theorem validateP12ProductionReleaseGate_eq_ok :
    (∃ result, validateP12ProductionReleaseGate hashing report now = .ok result) ↔
      GoodRelease hashing report now := by
  simp only [validateP12ProductionReleaseGate, check_bind_eq_ok, ensure_eq_ok, releaseId_eq_ok,
    string_eq_ok, Bool.false_eq_true, false_implies, and_true, decide_eq_true_eq, Bool.and_eq_true]
  constructor
  · rintro ⟨result, hschema, hsafe, -, hcommit, hevaluated, h⟩
    obtain ⟨canary, hcanary, h⟩ := bind_eq_ok.mp h
    rw [check_bind_eq_ok, ensure_eq_ok, decide_eq_true_eq] at h
    obtain ⟨hafter, h⟩ := h
    obtain ⟨gateCount, hgates, h⟩ := bind_eq_ok.mp h
    obtain ⟨hlength, hgood, hdistinct, hcomplete⟩ := validateGates_eq_ok.mp ⟨gateCount, hgates⟩
    simp only [check_bind_eq_ok, validateReleaseDefects_eq_ok, ensure_eq_ok, Bool.and_eq_true,
      decide_eq_true_eq, List.isEmpty_iff] at h
    obtain ⟨⟨hcritical, hdefects⟩, ⟨hgaps, hresult⟩, h⟩ := h
    obtain ⟨signatureCount, hsignatures, -⟩ := bind_eq_ok.mp h
    obtain ⟨hcount, hsigned, hroles⟩ :=
      (validateSignatures_eq_ok digestText_releaseAttestationDigest).mp
        ⟨signatureCount, hsignatures⟩
    exact
      { schema := hschema
        safe := hsafe
        commit := hcommit
        evaluated := hevaluated
        canary := validateP12CanaryReport_eq_ok.mp ⟨canary, hcanary⟩
        afterCanary := hafter
        gateCount := hlength
        gates := hgood
        distinct := hdistinct
        complete := hcomplete
        noCritical := hcritical
        defects := hdefects
        gaps := hgaps
        result := hresult
        signatureCount := hcount
        signatures := hsigned
        roles := hroles }
  · intro h
    obtain ⟨canary, hcanary⟩ := validateP12CanaryReport_eq_ok.mpr h.canary
    obtain ⟨gateCount, hgates⟩ := validateGates_eq_ok.mpr
      ⟨h.gateCount, h.gates, h.distinct, h.complete⟩
    obtain ⟨signatureCount, hsignatures⟩ :=
      (validateSignatures_eq_ok digestText_releaseAttestationDigest).mpr
        ⟨h.signatureCount, h.signatures, h.roles⟩
    refine ⟨⟨gateCount, signatureCount, hashing.releaseAttestationDigest report⟩, h.schema, h.safe,
      trim_ne_nil_of_commitSha h.commit, h.commit, h.evaluated, ?_⟩
    rw [hcanary, ok_bind, check_bind_eq_ok, ensure_eq_ok, decide_eq_true_eq]
    refine ⟨h.afterCanary, ?_⟩
    rw [hgates, ok_bind]
    simp only [check_bind_eq_ok, validateReleaseDefects_eq_ok, ensure_eq_ok, Bool.and_eq_true,
      decide_eq_true_eq, List.isEmpty_iff]
    refine ⟨⟨h.noCritical, h.defects⟩, ⟨h.gaps, h.result⟩, ?_⟩
    rw [hsignatures]
    rfl

theorem GoodRelease.later {later : ℤ} (h : GoodRelease hashing report now) (hle : now ≤ later) :
    GoodRelease hashing report later :=
  { h with
    evaluated := h.evaluated.trans hle
    canary := h.canary.later hle
    signatures := fun signature hsignature =>
      { h.signatures signature hsignature with
        signed := ⟨(h.signatures signature hsignature).signed.1,
          (h.signatures signature hsignature).signed.2.trans hle⟩ } }

end Accepted

theorem releaseAttestationDigest_congr {hashing : Hashing} {report report' : ProductionReleaseReport}
    (h : { report with signatures := [] } = { report' with signatures := [] }) :
    hashing.releaseAttestationDigest report = hashing.releaseAttestationDigest report' := by
  have hsplit : ∀ report : ProductionReleaseReport, ∃ signed,
      hashing.releaseEntries report =
        (hashing.releaseEntries { report with signatures := [] }).take 8 ++
          (js "signatures", signed) ::
            (hashing.releaseEntries { report with signatures := [] }).drop 9 :=
    fun report => ⟨_, rfl⟩
  obtain ⟨signed, hreport⟩ := hsplit report
  obtain ⟨signed', hreport'⟩ := hsplit report'
  unfold Hashing.releaseAttestationDigest
  simp only [hreport, hreport', h, List.filter_append, List.filter_cons, ne_eq, not_true_eq_false,
    decide_false, Bool.false_eq_true, if_false]

/-! ## What an operation does -/

structure NextGate (now : ℤ) (gate : ProductionGateCheck) : Prop where
  status : gate.status = js "passed"
  checkedAt : gate.checkedAt = now
  refs : gate.evidenceRefs ≠ [] ∧ ∀ ref ∈ gate.evidenceRefs, evidenceRef ref = true

structure NextSignature (value : ProductionReleaseAggregate) (digest : JsString) (now : ℤ)
    (signature : ProductionSignature) : Prop where
  fresh : ∀ other ∈ value.signatures, other.role ≠ signature.role
  signer : safeId signature.signerId = true
  signedAt : signature.signedAt = now
  attested : signature.decision = js "approved" ∧ signature.authenticationMethod = js "oidc"
  reason : Trimmed signature.reason ∧ 20 ≤ signature.reason.length
  request : safeId signature.requestId = true
  receipt : safeId signature.auditReceiptId = true
  bound : signature.attestationDigest = digest

/-- A step of a release: what each operation asks for, and what it leaves. -/
inductive ReleaseStep (hashing : Hashing) (value : ProductionReleaseAggregate) (now : ℤ) :
    ProductionReleaseAggregate → Prop
  | recorded (gate : ProductionGateCheck) (hdraft : value.status = .draft)
      (hgate : NextGate now gate) :
      ReleaseStep hashing value now
        { value with
          gates := (value.gates.filter fun existing => existing.gateId ≠ gate.gateId) ++ [gate]
          version := value.version + 1
          updatedAt := now }
  | evaluated (hdraft : value.status = .draft)
      (hcomplete : ∀ gateId, gateId ∈ value.gates.map (·.gateId))
      (hlength : value.gates.length = ProductionGateId.all.length) :
      ReleaseStep hashing value now
        { value with
          status := .awaitingSignatures
          evaluatedAt := some now
          attestationDigest :=
            some (hashing.releaseAttestationDigest (productionReport value [] now))
          report := some (productionReport value [] now)
          version := value.version + 1
          updatedAt := now }
  | signed (evaluatedAt : ℤ) (digest : JsString) (signature : ProductionSignature)
      (hstatus : value.status = .awaitingSignatures)
      (hevaluated : value.evaluatedAt = some evaluatedAt)
      (hdigest : value.attestationDigest = some digest)
      (hsignature : NextSignature value digest now signature)
      (hvalid : (value.signatures ++ [signature]).length = ReleaseSignatureRole.all.length →
        GoodRelease hashing
          (productionReport value (value.signatures ++ [signature]) evaluatedAt) now) :
      ReleaseStep hashing value now
        { value with
          status :=
            if (value.signatures ++ [signature]).length = ReleaseSignatureRole.all.length then
              .approved
            else .awaitingSignatures
          signatures := value.signatures ++ [signature]
          report := some (productionReport value (value.signatures ++ [signature]) evaluatedAt)
          version := value.version + 1
          updatedAt := now }

section Steps

variable {input : SignInput} {actorId : JsString}

theorem awaiting_eq_ok {awaited : ℤ × JsString} : awaiting value = .ok awaited ↔
    value.status = .awaitingSignatures ∧ value.evaluatedAt = some awaited.1 ∧
      value.attestationDigest = some awaited.2 ∧ awaited.2 ≠ [] := by
  unfold awaiting
  split
  · next evaluatedAt digest hstatus hevaluated hdigest =>
    simp only [hstatus, hevaluated, hdigest, true_and, Option.some.injEq]
    by_cases hempty : digest = []
    · rw [if_pos hempty]
      simp only [reduceCtorEq, false_iff]
      rintro ⟨-, rfl, hne⟩
      exact hne hempty
    · rw [if_neg hempty, Except.ok.injEq]
      constructor
      · rintro rfl
        exact ⟨rfl, rfl, hempty⟩
      · rintro ⟨hfirst, hsecond, -⟩
        exact Prod.ext hfirst hsecond
  · next hnone =>
    simp only [reduceCtorEq, false_iff]
    rintro ⟨hstatus, hevaluated, hdigest, -⟩
    exact hnone _ _ hstatus hevaluated hdigest

theorem nextSignature_of_newSignature {digest : JsString}
    (h : newSignature value input digest now = .ok signature) :
    NextSignature value digest now signature := by
  obtain ⟨role, -, h⟩ := bind_eq_ok.mp h
  obtain ⟨signerId, hsigner, h⟩ := bind_eq_ok.mp h
  rw [check_bind_eq_ok, validate_eq_ok, Bool.not_eq_true', List.any_eq_false] at h
  obtain ⟨hfresh, h⟩ := h
  obtain ⟨reason, hreason, h⟩ := bind_eq_ok.mp h
  rw [check_bind_eq_ok, validate_eq_ok, decide_eq_true_eq] at h
  obtain ⟨hlong, h⟩ := h
  obtain ⟨requestId, hrequest, h⟩ := bind_eq_ok.mp h
  obtain ⟨auditReceiptId, hreceipt, h⟩ := bind_eq_ok.mp h
  obtain rfl := Except.ok.inj h
  exact
    { fresh := fun other hother => by simpa using hfresh other hother
      signer := (safeId_of_id hsigner).1
      signedAt := rfl
      attested := ⟨rfl, rfl⟩
      reason := ⟨trimmed_of_required hreason, hlong⟩
      request := (safeId_of_id hrequest).1
      receipt := (safeId_of_id hreceipt).1
      bound := rfl }

theorem validateSigned_eq_ok {report : ProductionReleaseReport} {u : Unit} :
    validateSigned hashing report now = .ok u ↔
      (report.signatures.length = ReleaseSignatureRole.all.length →
        GoodRelease hashing report now) := by
  unfold validateSigned
  by_cases hall : report.signatures.length = ReleaseSignatureRole.all.length
  · rw [if_pos hall, map_eq_ok, ← validateP12ProductionReleaseGate_eq_ok]
    simp [hall]
  · simp [hall]

theorem step_of_recordProductionGate {gateId ownerRole : JsString} {refs : List JsString}
    (h : recordProductionGate value actorId gateId ownerRole refs now = .ok next) :
    ReleaseStep hashing value now next := by
  rw [recordProductionGate, check_bind_eq_ok, validate_eq_ok, decide_eq_true_eq] at h
  obtain ⟨hdraft, h⟩ := h
  obtain ⟨checked, -, h⟩ := bind_eq_ok.mp h
  obtain ⟨valid, hrefs, h⟩ := bind_eq_ok.mp h
  obtain ⟨checkedBy, -, h⟩ := bind_eq_ok.mp h
  obtain rfl := Except.ok.inj h
  exact .recorded _ hdraft ⟨rfl, rfl, evidenceRefs_valid hrefs⟩

theorem step_of_evaluateProductionRelease
    (h : evaluateProductionRelease hashing value actorId now = .ok next) :
    ReleaseStep hashing value now next := by
  simp only [evaluateProductionRelease, check_bind_eq_ok, validate_eq_ok, decide_eq_true_eq,
    Bool.and_eq_true, List.all_eq_true] at h
  obtain ⟨hdraft, ⟨hcomplete, hlength⟩, h⟩ := h
  obtain ⟨_, -, h⟩ := bind_eq_ok.mp h
  obtain rfl := Except.ok.inj h
  exact .evaluated hdraft (fun gateId => hcomplete gateId gateId.mem_all) hlength

theorem step_of_signProductionRelease
    (h : signProductionRelease hashing value input now = .ok next) :
    ReleaseStep hashing value now next := by
  obtain ⟨awaited, hawaiting, h⟩ := bind_eq_ok.mp h
  obtain ⟨hstatus, hevaluated, hdigest, -⟩ := awaiting_eq_ok.mp hawaiting
  obtain ⟨signature, hsignature, h⟩ := bind_eq_ok.mp h
  rw [check_bind_eq_ok, validateSigned_eq_ok] at h
  obtain ⟨hvalid, h⟩ := h
  obtain rfl := Except.ok.inj h
  exact .signed awaited.1 awaited.2 signature hstatus hevaluated hdigest
    (nextSignature_of_newSignature hsignature) hvalid

theorem releaseStep_of_apply {operation : ReleaseOperation}
    (h : operation.apply hashing value now = .ok next) : ReleaseStep hashing value now next := by
  cases operation with
  | recordGate actorId gateId ownerRole refs => exact step_of_recordProductionGate h
  | evaluate actorId => exact step_of_evaluateProductionRelease h
  | sign input => exact step_of_signProductionRelease h

end Steps

/-! ## Runs -/

/-- The times of the calls and the release after each of them, newest first; `clock` says which
time may follow which.  A call that fails leaves the release as it was. -/
inductive ReleaseRun (hashing : Hashing) (clock : ℤ → ℤ → Prop) :
    CanaryAggregate → ℤ → List (ℤ × ProductionReleaseAggregate) → Prop
  | created (releaseId actorId : JsString) (canary : CanaryAggregate) (now : ℤ)
      (value : ProductionReleaseAggregate)
      (hcreate : createProductionRelease releaseId canary actorId now = .ok value) :
      ReleaseRun hashing clock canary now [(now, value)]
  | called (operation : ReleaseOperation) (canary : CanaryAggregate) (start now later : ℤ)
      (value next : ProductionReleaseAggregate) (past : List (ℤ × ProductionReleaseAggregate))
      (hrun : ReleaseRun hashing clock canary start ((now, value) :: past))
      (hclock : clock now later) (happly : operation.apply hashing value later = .ok next) :
      ReleaseRun hashing clock canary start ((later, next) :: (now, value) :: past)
  | refused (operation : ReleaseOperation) (canary : CanaryAggregate) (start now later : ℤ)
      (value : ProductionReleaseAggregate) (error : ReleaseError)
      (past : List (ℤ × ProductionReleaseAggregate))
      (hrun : ReleaseRun hashing clock canary start ((now, value) :: past))
      (hclock : clock now later) (happly : operation.apply hashing value later = .error error) :
      ReleaseRun hashing clock canary start ((later, value) :: (now, value) :: past)

structure SameEvidence (value value' : ProductionReleaseAggregate) : Prop where
  gates : value.gates = value'.gates
  defects : value.defects = value'.defects
  canaryReport : value.canaryReport = value'.canaryReport
  evaluatedAt : value.evaluatedAt = value'.evaluatedAt
  attestationDigest : value.attestationDigest = value'.attestationDigest

/-- The evidence of a release is locked, and its approval is bound to it. -/
structure LockedEvidence (hashing : Hashing) (history : List (ℤ × ProductionReleaseAggregate))
    (value : ProductionReleaseAggregate) : Prop where
  /-- Since the release has left its draft its evidence is the same. -/
  locked : ∀ entry ∈ history, entry.2.status ≠ .draft → SameEvidence entry.2 value
  /-- The digest is that of the stored report, whatever signatures it carries. -/
  bound : ∀ report, value.report = some report → ∀ signatures,
    value.attestationDigest =
      some (hashing.releaseAttestationDigest { report with signatures := signatures })
  /-- A release that has left its draft stores a report. -/
  stored : value.status ≠ .draft → value.report.isSome
  /-- The gate accepts an approved report at its approval and from then on. -/
  approved : value.status = .approved → ∃ report, value.report = some report ∧
    (∀ later ≥ value.updatedAt, ∃ result,
      validateP12ProductionReleaseGate hashing report later = .ok result) ∧
    ∀ role, (report.signatures.filter fun signature => signature.role = role).length = 1

/-- What every step of a run preserves. -/
structure EvidenceInvariant (hashing : Hashing) (history : List (ℤ × ProductionReleaseAggregate))
    (value : ProductionReleaseAggregate) : Prop where
  locked : ∀ entry ∈ history, entry.2.status ≠ .draft → SameEvidence entry.2 value
  drafts : value.status = .draft → value.report = none ∧ value.signatures = [] ∧
    ∀ entry ∈ history, entry.2.status = .draft
  reported : value.status ≠ .draft → ∃ evaluatedAt, value.evaluatedAt = some evaluatedAt ∧
    value.report = some (productionReport value value.signatures evaluatedAt) ∧
    value.attestationDigest =
      some (hashing.releaseAttestationDigest (productionReport value [] evaluatedAt))
  approved : value.status = .approved → ∃ report, value.report = some report ∧
    GoodRelease hashing report value.updatedAt

section Invariants

variable {history : List (ℤ × ProductionReleaseAggregate)} {canary : CanaryAggregate}

theorem SameEvidence.refl (value : ProductionReleaseAggregate) : SameEvidence value value :=
  ⟨rfl, rfl, rfl, rfl, rfl⟩

theorem EvidenceInvariant.step (h : EvidenceInvariant hashing history value)
    (hstep : ReleaseStep hashing value now next) :
    EvidenceInvariant hashing ((now, next) :: history) next := by
  cases hstep with
  | recorded gate hdraft hgate =>
      obtain ⟨hreport, hsignatures, hdrafts⟩ := h.drafts hdraft
      constructor
      · intro entry hentry hleft
        rcases List.mem_cons.mp hentry with rfl | hold
        · exact SameEvidence.refl _
        · exact absurd (hdrafts entry hold) hleft
      · intro _
        refine ⟨hreport, hsignatures, ?_⟩
        intro entry hentry
        rcases List.mem_cons.mp hentry with rfl | hold
        · exact hdraft
        · exact hdrafts entry hold
      · exact fun hleft => absurd hdraft hleft
      · intro happroved
        rw [show value.status = .approved from happroved] at hdraft
        cases hdraft
  | evaluated hdraft hcomplete hlength =>
      obtain ⟨-, hsignatures, hdrafts⟩ := h.drafts hdraft
      constructor
      · intro entry hentry hleft
        rcases List.mem_cons.mp hentry with rfl | hold
        · exact SameEvidence.refl _
        · exact absurd (hdrafts entry hold) hleft
      · intro hstill
        cases hstill
      · intro _
        refine ⟨now, rfl, ?_, rfl⟩
        simp only [hsignatures]
        rfl
      · intro happroved
        cases happroved
  | signed evaluatedAt digest signature hstatus hevaluated hdigest hsignature hvalid =>
      have hleft : value.status ≠ .draft := by
        rw [hstatus]
        decide
      obtain ⟨evaluatedAt', hevaluated', -, hdigest'⟩ := h.reported hleft
      rw [hevaluated] at hevaluated'
      obtain rfl := Option.some.inj hevaluated'
      constructor
      · intro entry hentry hleft
        rcases List.mem_cons.mp hentry with rfl | hold
        · exact SameEvidence.refl _
        · obtain ⟨hgates, hdefects, hcanary, hevaluated, hdigest⟩ := h.locked entry hold hleft
          exact ⟨hgates, hdefects, hcanary, hevaluated, hdigest⟩
      · intro hstill
        simp only at hstill
        split at hstill <;> cases hstill
      · exact fun _ => ⟨evaluatedAt, hevaluated, rfl, hdigest'⟩
      · intro happroved
        refine ⟨_, rfl, hvalid ?_⟩
        by_contra hmore
        simp only [if_neg hmore] at happroved
        cases happroved

theorem EvidenceInvariant.refused (h : EvidenceInvariant hashing history value) :
    EvidenceInvariant hashing ((now, value) :: history) value := by
  constructor
  · intro entry hentry hleft
    rcases List.mem_cons.mp hentry with rfl | hold
    · exact SameEvidence.refl _
    · exact h.locked entry hold hleft
  · intro hdraft
    obtain ⟨hreport, hsignatures, hdrafts⟩ := h.drafts hdraft
    refine ⟨hreport, hsignatures, ?_⟩
    intro entry hentry
    rcases List.mem_cons.mp hentry with rfl | hold
    · exact hdraft
    · exact hdrafts entry hold
  · exact h.reported
  · exact h.approved

/-- A release that has just been created. -/
structure FreshRelease (canary : CanaryAggregate) (value : ProductionReleaseAggregate) : Prop where
  passed : canary.status = .passed
  report : canary.report = some value.canaryReport
  status : value.status = .draft
  gates : value.gates = []
  signatures : value.signatures = []
  unreported : value.report = none
  safe : safeId value.id = true
  commit : value.candidateCommit = canary.candidateCommit
  noCritical : value.defects.p0Count = 0 ∧ value.defects.p1Count = 0
  defects : ((canary.eventsOf canary.attempt).filterMap releaseDefect).mapM (fun defect => defect) =
    .ok value.defects.p2

theorem passedReport_eq_ok {report : CanaryReport} :
    passedReport canary = .ok report ↔ canary.status = .passed ∧ canary.report = some report := by
  unfold passedReport
  split
  · next stored hstatus hreport => simp [hstatus, hreport]
  · next hnone =>
    simp only [reduceCtorEq, false_iff]
    rintro ⟨hstatus, hreport⟩
    exact hnone report hstatus hreport

theorem fresh_of_createProductionRelease {releaseId actorId : JsString}
    (h : createProductionRelease releaseId canary actorId now = .ok value) :
    FreshRelease canary value := by
  obtain ⟨report, hreport, h⟩ := bind_eq_ok.mp h
  obtain ⟨p2, hp2, h⟩ := bind_eq_ok.mp h
  obtain ⟨validId, hid, h⟩ := bind_eq_ok.mp h
  obtain ⟨createdBy, -, h⟩ := bind_eq_ok.mp h
  obtain rfl := Except.ok.inj h
  obtain ⟨hpassed, hstored⟩ := passedReport_eq_ok.mp hreport
  exact
    { passed := hpassed
      report := hstored
      status := rfl
      gates := rfl
      signatures := rfl
      unreported := rfl
      safe := (safeId_of_id hid).1
      commit := rfl
      noCritical := ⟨rfl, rfl⟩
      defects := hp2 }

theorem EvidenceInvariant.created (h : FreshRelease canary value) :
    EvidenceInvariant hashing [(now, value)] value := by
  constructor
  · intro entry hentry hleft
    rw [List.mem_singleton.mp hentry] at hleft
    exact absurd h.status hleft
  · intro _
    refine ⟨h.unreported, h.signatures, ?_⟩
    intro entry hentry
    rw [List.mem_singleton.mp hentry]
    exact h.status
  · exact fun hleft => absurd h.status hleft
  · intro happroved
    rw [h.status] at happroved
    cases happroved

theorem evidenceInvariant_of_run {clock : ℤ → ℤ → Prop} {start : ℤ}
    (hrun : ReleaseRun hashing clock canary start history) :
    ∀ entry ∈ history.head?, EvidenceInvariant hashing history entry.2 := by
  induction hrun with
  | created releaseId actorId canary now value hcreate =>
      rintro _ ⟨⟩
      exact .created (fresh_of_createProductionRelease hcreate)
  | called operation canary start now later value next past _ _ happly ih =>
      rintro _ ⟨⟩
      exact (ih (now, value) rfl).step (releaseStep_of_apply happly)
  | refused operation canary start now later value error past _ _ _ ih =>
      rintro _ ⟨⟩
      exact (ih (now, value) rfl).refused

end Invariants

/-- What holds of a release after any sequence of calls, at any times. -/
theorem lockedEvidence_of_run {hashing : Hashing} {canary : CanaryAggregate} {start now : ℤ}
    {value : ProductionReleaseAggregate} {past : List (ℤ × ProductionReleaseAggregate)}
    (hrun : ReleaseRun hashing (fun _ _ => True) canary start ((now, value) :: past)) :
    LockedEvidence hashing ((now, value) :: past) value := by
  have h := evidenceInvariant_of_run hrun (now, value) rfl
  constructor
  · exact h.locked
  · intro report hreport signatures
    have hleft : value.status ≠ .draft := by
      intro hdraft
      rw [(h.drafts hdraft).1] at hreport
      cases hreport
    obtain ⟨evaluatedAt, -, hstored, hdigest⟩ := h.reported hleft
    rw [hstored] at hreport
    obtain rfl := Option.some.inj hreport
    rw [hdigest]
    exact congrArg some (releaseAttestationDigest_congr rfl)
  · intro hleft
    obtain ⟨evaluatedAt, -, hstored, -⟩ := h.reported hleft
    rw [hstored]
    rfl
  · intro happroved
    obtain ⟨report, hreport, hgood⟩ := h.approved happroved
    refine ⟨report, hreport, ?_, ?_⟩
    · exact fun later hlater => validateP12ProductionReleaseGate_eq_ok.mpr (hgood.later hlater)
    · intro role
      have hlength := hgood.signatureCount
      have hall : (report.signatures.filter fun signature => signature.role = role) =
          report.signatures := by
        apply List.filter_eq_self.mpr
        intro signature _
        exact decide_eq_true rfl
      rw [hall, hlength]
      rfl

/-! ## A release of an hourly canary -/

def hourlyVerification : ReportVerification where
  status := js "passed"
  verificationId := js "verification-01"
  completedAt := 11 * hourMs
  evidenceRefs := [js "goal-verification:01"]

def hourlyReport : CanaryReport :=
  canaryReport (observedCanary (js "oidc_owner") 12)
    { ownerId := js "oidc_owner", approvedAt := 0, startedAt := 0, endedAt := 12 * hourMs }
    hourlyVerification

def passedCanary : CanaryAggregate :=
  { observedCanary (js "oidc_owner") 12 with
    status := .passed
    endedAt := some (12 * hourMs)
    report := some hourlyReport
    version := 15
    updatedAt := 12 * hourMs }

/-- The digest of the report below; keys in ASCII letters compare as their units do. -/
def hourlyHashing : Hashing where
  sha256 := fun _ =>
    ⟨js "45e7075d9e53637e79ab9c1b7689bddc8c83a0cf790d4a9a86ba2b9516e799f8", by
      decide +kernel⟩
  before := fun key key' => key ≤ key'
  number := fun n =>
    if h : n.natAbs ≤ 9007199254740991 then .safeInteger n h else .other (js "Infinity") (by decide)

def gatedRelease (gates : ℕ) : ProductionReleaseAggregate where
  id := js "release-01"
  organizationId := js "organization-01"
  projectId := js "project-01"
  goalId := js "goal-01"
  canaryId := js "canary-01"
  candidateCommit := List.replicate 40 0x61
  status := .draft
  canaryReport := hourlyReport
  gates := (ProductionGateId.all.take gates).map fun gateId =>
    { gateId := gateId
      status := js "passed"
      ownerRole := .owner
      checkedAt := 12 * hourMs
      evidenceRefs := [js "gate-receipt:01"]
      checkedBy := js "oidc_owner" }
  defects := { p0Count := 0, p1Count := 0, p2 := [] }
  evaluatedAt := none
  attestationDigest := none
  signatures := []
  report := none
  version := gates + 1
  createdBy := js "oidc_owner"
  createdAt := 12 * hourMs
  updatedAt := 12 * hourMs

def hourlySignature : ProductionSignature where
  role := .owner
  signerId := js "oidc_owner"
  signedAt := 12 * hourMs
  decision := js "approved"
  reason := js "All ten gates hold for this commit"
  authenticationMethod := js "oidc"
  requestId := js "request-01"
  auditReceiptId := js "receipt-01"
  attestationDigest := (hourlyHashing.sha256 []).1

def evaluatedRelease : ProductionReleaseAggregate :=
  { gatedRelease 10 with
    status := .awaitingSignatures
    evaluatedAt := some (12 * hourMs)
    attestationDigest := some (hourlyHashing.sha256 []).1
    report := some (productionReport (gatedRelease 10) [] (12 * hourMs))
    version := 12 }

def approvedRelease : ProductionReleaseAggregate :=
  { evaluatedRelease with
    status := .approved
    signatures := [hourlySignature]
    report := some (productionReport (gatedRelease 10) [hourlySignature] (12 * hourMs))
    version := 13 }

def hourlySignInput : SignInput where
  actorId := js "oidc_owner"
  role := js "owner"
  reason := js "All ten gates hold for this commit"
  requestId := js "request-01"
  auditReceiptId := js "receipt-01"

def gateText (gates : ℕ) : JsString :=
  ((ProductionGateId.all[gates]?).map ProductionGateId.text).getD []

theorem gatedRun (clock : ℤ → ℤ → Prop) (hclock : ∀ time, clock time time) (gates : ℕ)
    (hgates : gates ≤ 10) : ∃ past, ReleaseRun hourlyHashing clock passedCanary (12 * hourMs)
      ((12 * hourMs, gatedRelease gates) :: past) := by
  have hsteps : ∀ gates < 10,
      recordProductionGate (gatedRelease gates) (js "oidc_owner") (gateText gates) (js "owner")
        [js "gate-receipt:01"] (12 * hourMs) = .ok (gatedRelease (gates + 1)) := by
    decide +kernel
  induction gates with
  | zero =>
      have hcreate : createProductionRelease (js "release-01") passedCanary (js "oidc_owner")
          (12 * hourMs) = .ok (gatedRelease 0) := by decide +kernel
      exact ⟨[], .created _ _ _ _ _ hcreate⟩
  | succ gates ih =>
      obtain ⟨past, hrun⟩ := ih (by omega)
      exact ⟨_, hrun.called (.recordGate (js "oidc_owner") (gateText gates) (js "owner")
        [js "gate-receipt:01"]) _ _ _ _ _ _ _ (hclock _) (hsteps gates (by omega))⟩

theorem lockedEvidence_approvedRelease : ∃ past,
    LockedEvidence hourlyHashing ((12 * hourMs, approvedRelease) :: past) approvedRelease := by
  obtain ⟨past, hrun⟩ := gatedRun (fun _ _ => True) (fun _ => trivial) 10 le_rfl
  have hevaluate : ReleaseOperation.apply hourlyHashing (gatedRelease 10) (12 * hourMs)
      (.evaluate (js "oidc_owner")) = .ok evaluatedRelease := by decide +kernel
  have hsign : ReleaseOperation.apply hourlyHashing evaluatedRelease (12 * hourMs)
      (.sign hourlySignInput) = .ok approvedRelease := by decide +kernel
  have hevaluated := ReleaseRun.called _ _ _ _ _ _ _ _ hrun trivial hevaluate
  exact ⟨_, lockedEvidence_of_run (ReleaseRun.called _ _ _ _ _ _ _ _ hevaluated trivial hsign)⟩

end DevHarness.ReleaseCenter
