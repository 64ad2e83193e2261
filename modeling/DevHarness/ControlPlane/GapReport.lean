import DevHarness.ControlPlane.FailClosed

/-!
# Gap reports

`VerificationGapService.create` turns the latest failed verification into a
report of its gaps.  The gaps are collected from the criteria, the non-goals and
the constraints, whereas a verification can also fail by a deterministic result
or by the overall verdict alone; and the table takes at most fifty gaps.
-/

namespace DevHarness.ControlPlane

open JsText Interleave Program

/-! ## The service -/

structure CreateGapReportCommand where
  scope : GoalScope
  verificationId : JsString
  actorId : JsString

structure GapReads where
  verification : Option GoalVerification
  timeline : List GoalVerification

def GapReads.none : GapReads where
  verification := .none
  timeline := []

def gapRead (command : CreateGapReportCommand) : Fin 2 → ControlProgram (GapReads → GapReads)
  | 0 => .read (.getVerification command.scope command.verificationId) fun verification reads =>
      { reads with verification := verification }
  | 1 => .read (.listVerifications command.scope) fun timeline reads =>
      { reads with timeline := timeline }

def latestFailed (reads : GapReads) : Except Thrown GoalVerification :=
  let refused :=
    plainError (js "Only the latest failed verification can create a gap report")
  match reads.verification with
  | some verification =>
    if reads.timeline.getLast?.map (·.id) ≠ some verification.id ∨
        verification.verdict = .passed then
      .error refused
    else .ok verification
  | none => .error refused

def deterministicFor (verification : GoalVerification) (criterionRef : JsString) :
    Option DeterministicVerificationResult :=
  verification.deterministicResults.reverse.find? fun result =>
    result.criterionRef = criterionRef

def impactOn (verification : GoalVerification) (criterion : CriterionVerdict) : JsString :=
  let impact := join (js " ")
    ((verification.verifierOutput.regressionRisks.filter fun risk =>
      risk.evidenceRefs.any fun ref => criterion.evidenceRefs.contains ref).map (·.description))
  if impact = [] then js "The original AcceptanceCriterion remains unproved." else impact

def unprovedCriteria (verification : GoalVerification) : List CriterionVerdict :=
  verification.verifierOutput.criteria.filter fun criterion =>
    !criterion.verdict.isWord (js "passed")

def violatedNonGoals (verification : GoalVerification) : List BoundaryVerdict :=
  verification.verifierOutput.nonGoals.filter fun boundary =>
    boundary.verdict ≠ js "preserved"

def unsatisfiedConstraints (verification : GoalVerification) : List BoundaryVerdict :=
  verification.verifierOutput.constraints.filter fun boundary =>
    boundary.verdict ≠ js "satisfied"

def criterionGap (verification : GoalVerification) (criterion : CriterionVerdict) :
    VerificationGap where
  sourceKind := .acceptanceCriterion
  sourceRef := criterion.criterionRef
  criterionRef := some criterion.criterionRef
  currentEvidenceRefs :=
    (((deterministicFor verification criterion.criterionRef).map (·.evidenceRefs)).getD [] ++
      criterion.evidenceRefs).eraseDups
  gap := criterion.rationale
  impact := impactOn verification criterion
  suggestedRemediation := js <|
    "Create a new Issue plan revision that closes this evidence gap, " ++
      "then re-run Compiler, approval, execution, and verification."

def boundaryGap (kind : GapSourceKind) (impact suggestedRemediation : String)
    (boundary : BoundaryVerdict) : VerificationGap where
  sourceKind := kind
  sourceRef := boundary.statement
  criterionRef := none
  currentEvidenceRefs := []
  gap := boundary.rationale
  impact := js impact
  suggestedRemediation := js suggestedRemediation

def gapsOf (verification : GoalVerification) : List VerificationGap :=
  (unprovedCriteria verification).map (criterionGap verification) ++
    (violatedNonGoals verification).map
      (boundaryGap .nonGoal "The delivered scope may violate an explicit non-goal."
        ("Create a new Issue plan revision that restores the non-goal boundary, " ++
          "then re-run Compiler, approval, execution, and verification.")) ++
    (unsatisfiedConstraints verification).map
      (boundaryGap .constraint "The delivered implementation may violate an explicit constraint."
        ("Create a new Issue plan revision that satisfies the constraint, " ++
          "then re-run Compiler, approval, execution, and verification."))

def reportOf (command : CreateGapReportCommand) (verification : GoalVerification)
    (gaps : List VerificationGap) (identified : gaps ≠ []) (id : JsString) (createdAt : ℕ) :
    VerificationGapReport where
  id := id
  organizationId := command.scope.organizationId
  projectId := command.scope.projectId
  goalId := command.scope.goalId
  verificationId := verification.id
  issuePlanId := verification.issuePlanId
  failedCriterionRefs := (gaps.filterMap (·.criterionRef)).filter fun ref => ref ≠ []
  preservedEvidenceRefs :=
    sorted (verification.deterministicResults.flatMap (·.evidenceRefs)).eraseDups
  gaps := gaps
  identified := identified
  createdBy := command.actorId
  createdAt := createdAt
  version := 1

def reportGaps (command : CreateGapReportCommand) (verification : GoalVerification) :
    ControlProgram VerificationGapReport :=
  if identified : gapsOf verification = [] then
    throw (plainError (js "A failed verification must identify at least one criterion gap"))
  else do
    let id ← await .newId
    let createdAt ← await .clock
    await (.appendGapReport
      (reportOf command verification (gapsOf verification) identified id createdAt))

def createGapReport (order : Equiv.Perm (Fin 2)) (command : CreateGapReportCommand) :
    ControlProgram VerificationGapReport := do
  authorize command.actorId command.scope .goalVerify
  let existing ← await (.findGapReportByVerification command.scope command.verificationId)
  match existing with
  | some report => pure report
  | none => do
    let reads ← readAll order GapReads.none (gapRead command)
    let verification ← attempt (latestFailed reads)
    reportGaps command verification

/-! ## When a failed verification can be remediated -/

def gapCount (verification : GoalVerification) : ℕ :=
  (unprovedCriteria verification).length + (violatedNonGoals verification).length +
    (unsatisfiedConstraints verification).length

theorem length_gapsOf (verification : GoalVerification) :
    (gapsOf verification).length = gapCount verification := by
  simp [gapsOf, gapCount, Nat.add_assoc]

theorem gapsOf_eq_nil_iff {verification : GoalVerification} :
    gapsOf verification = [] ↔ gapCount verification = 0 := by
  rw [← length_gapsOf, List.length_eq_zero_iff]

/-- The answers of an authorizer that grants whatever it is asked. -/
abbrev Granting :=
  { outside : ControlStore.Outside // ∀ request, outside (.authorize request) = .ok () }

def execGranting (backend : IssuePlanBackend) (outside : Granting) (command : ControlCommand)
    (store : ControlStore) : Option (Except Thrown command.Answer × ControlStore) :=
  ControlStore.exec backend outside.1 command store

variable {result : Except Thrown VerificationGapReport}

section Remediable

variable {backend : IssuePlanBackend} {order : Equiv.Perm (Fin 2)}
  {command : CreateGapReportCommand} {store store' : ControlStore} {verification : GoalVerification}
  {outside : Granting}

theorem reads_of_alone {result : Except Thrown GapReads}
    (h : Alone (execGranting backend) (readAll order GapReads.none (gapRead command)) store
      result store') :
    store' = store ∧ result = .ok
      { verification := store.getVerification command.scope command.verificationId
        timeline := store.listVerifications command.scope } := by
  have hreads : ∀ i, Only (fun cmd => cmd = .getVerification command.scope command.verificationId ∨
      cmd = .listVerifications command.scope) (gapRead command i) := by
    intro i
    fin_cases i
    · exact only_bind (only_request.mpr (.inl rfl)) fun _ => only_pure
    · exact only_bind (only_request.mpr (.inr rfl)) fun _ => only_pure
  obtain ⟨hstore, ex, hends, hanswers⟩ := h.fixed (only_readAll hreads) (by
    rintro cmd (rfl | rfl) outside answer t hexec
    · exact (Prod.mk.inj (Option.some.inj hexec)).2.symm
    · exact (Prod.mk.inj (Option.some.inj hexec)).2.symm)
  have honly : Only _ (readAll order GapReads.none (gapRead command)) := only_readAll hreads
  have hcmds := honly.of_path hends
  have hoks : ∀ x ∈ ex, ∃ a, x.answer = .ok a := by
    rintro ⟨cmd, answer⟩ hx
    obtain ⟨outside, hexec⟩ := hanswers _ hx
    rcases hcmds.1 _ hx with hcmd | hcmd
    · obtain rfl : cmd = _ := hcmd
      exact ⟨_, (Prod.mk.inj (Option.some.inj hexec)).1.symm⟩
    · obtain rfl : cmd = _ := hcmd
      exact ⟨_, (Prod.mk.inj (Option.some.inj hexec)).1.symm⟩
  obtain ⟨reads, rfl⟩ := exists_ok_of_ends_readAll (by
    intro i
    fin_cases i
    · exact ⟨_, _, rfl⟩
    · exact ⟨_, _, rfl⟩) hends hoks
  have hverification := (mem_readAll_iff (g := GapReads.verification) 0 rfl (fun _ _ => rfl) (by
    intro j hj ex' enter' hread
    fin_cases j <;> obtain ⟨answer, rfl, rfl⟩ := ends_read_iff.mp hread <;> simp_all)
    hends reads.verification).mpr rfl
  have htimeline := (mem_readAll_iff (g := GapReads.timeline) 1 rfl (fun _ _ => rfl) (by
    intro j hj ex' enter' hread
    fin_cases j <;> obtain ⟨answer, rfl, rfl⟩ := ends_read_iff.mp hread <;> simp_all)
    hends reads.timeline).mpr rfl
  obtain ⟨outside, hexec⟩ := hanswers _ hverification
  obtain ⟨outside', hexec'⟩ := hanswers _ htimeline
  have hv := Except.ok.inj (Prod.mk.inj (Option.some.inj hexec)).1
  have ht := Except.ok.inj (Prod.mk.inj (Option.some.inj hexec')).1
  refine ⟨hstore, ?_⟩
  rw [hv, ht]

theorem gapReportAllowed_reportOf_iff {identified : gapsOf verification ≠ []} {id : JsString}
    {createdAt : ℕ} :
    ControlStore.gapReportAllowed (reportOf command verification (gapsOf verification)
        identified id createdAt) = true ↔
      gapCount verification ≤ 50 ∧
        1 ≤ (codePoints (ControlStore.btrim command.actorId)).length ∧
        (codePoints (ControlStore.btrim command.actorId)).length ≤ 200 := by
  have hpos : 1 ≤ (gapsOf verification).length := List.length_pos_iff.mpr identified
  have hrefs : (((gapsOf verification).filterMap (·.criterionRef)).filter
      fun ref => ref ≠ []).length ≤ (gapsOf verification).length :=
    (List.length_filter_le _ _).trans (List.length_filterMap_le _ _)
  have hcount := length_gapsOf verification
  unfold ControlStore.gapReportAllowed
  rw [decide_eq_true_eq]
  change _ ≤ 50 ∧ (1 ≤ (gapsOf verification).length ∧ (gapsOf verification).length ≤ 50) ∧
    _ ∧ 0 < 1 ↔ _
  constructor
  · rintro ⟨-, ⟨-, hmany⟩, hactor, -⟩
    exact ⟨by omega, hactor⟩
  · rintro ⟨hmany, hactor⟩
    have hfew : (gapsOf verification).length ≤ 50 := by omega
    exact ⟨hrefs.trans hfew, ⟨hpos, hfew⟩, hactor, by decide⟩

theorem appendGapReport_of_none {report : VerificationGapReport}
    (hv : store.getVerification report.scope report.verificationId = some verification)
    (hnone : store.findGapReportByVerification report.scope report.verificationId = none)
    (hid : ∀ row ∈ store.gapReports.rows, row.id ≠ report.id) :
    (store.appendGapReport report).1 =
      if ControlStore.gapReportAllowed report then .ok report else .error databaseError := by
  obtain ⟨hget, hscope⟩ := Option.filter_eq_some_iff.mp hv
  have hrow := Sql.Table.mem_of_get hget
  have hkey := Sql.Table.key_of_get hget
  have hscope' : verification.scope = report.scope := of_decide_eq_true hscope
  have hbound : ∃ row ∈ store.verifications.rows,
      row.id = report.verificationId ∧ row.scope = report.scope :=
    ⟨verification, hrow, hkey, hscope'⟩
  have hfree : ¬ ∃ row ∈ store.gapReports.rows,
      row.id = report.id ∨ row.verificationId = report.verificationId := by
    rintro ⟨row, hmem, hrowid | hverification⟩
    · exact hid row hmem hrowid
    · -- The foreign key puts the stored report in the scope of the verification.
      obtain ⟨bound, hbound, hboundid, hboundscope⟩ := store.gapReportsBound row hmem
      have hsame := Sql.Table.eq_of_key_eq hbound hrow
        (hboundid.trans (hverification.trans hkey.symm))
      have hmiss := List.find?_eq_none.mp hnone row hmem
      rw [hsame] at hboundscope
      simp [← hboundscope, hscope', hverification] at hmiss
  unfold ControlStore.appendGapReport
  by_cases hallowed : ControlStore.gapReportAllowed report = true
  · rw [if_neg (by simp [hallowed]), dif_pos hbound, if_neg hfree, if_pos hallowed]
  · rw [if_pos (by simpa using hallowed), if_neg hallowed]

theorem newId_of_exec {answer : Except Thrown JsString}
    (h : execGranting backend outside .newId store = some (answer, store')) :
    ∃ id, (∀ row ∈ store.gapReports.rows, row.id ≠ id) ∧ answer = .ok id ∧
      store' = { store with generatedIds := id :: store.generatedIds } := by
  simp only [execGranting, ControlStore.exec] at h
  split at h
  · next id _ =>
    split at h
    · cases h
    · next hunused =>
      obtain ⟨rfl, rfl⟩ := Prod.mk.inj (Option.some.inj h)
      refine ⟨id, fun row hrow hid => hunused ?_, rfl, rfl⟩
      rw [ControlStore.usesId, decide_eq_true_eq]
      right; right; right; right; right; left
      exact hid ▸ List.mem_map_of_mem hrow
  · cases h

theorem clock_of_exec {answer : Except Thrown ℕ}
    (h : execGranting backend outside .clock store = some (answer, store')) :
    ∃ now, answer = .ok now ∧ store' = store := by
  simp only [execGranting, ControlStore.exec] at h
  split at h
  · next now _ =>
    obtain ⟨rfl, rfl⟩ := Prod.mk.inj (Option.some.inj h)
    exact ⟨now, rfl, rfl⟩
  · cases h

theorem reportGaps_of_alone
    (hv : store.getVerification command.scope verification.id = some verification)
    (hnone : store.findGapReportByVerification command.scope verification.id = none)
    (h : Alone (execGranting backend) (reportGaps command verification) store result store') :
    (∃ report, result = .ok report) ↔
      (1 ≤ gapCount verification ∧ gapCount verification ≤ 50) ∧
        1 ≤ (codePoints (ControlStore.btrim command.actorId)).length ∧
        (codePoints (ControlStore.btrim command.actorId)).length ≤ 200 := by
  by_cases identified : gapsOf verification = []
  · have hzero := gapsOf_eq_nil_iff.mp identified
    rw [reportGaps, dif_pos identified] at h
    obtain ⟨rfl, -⟩ := alone_done_iff.mp h
    constructor
    · rintro ⟨report, hreport⟩
      cases hreport
    · rintro ⟨⟨hsome, -⟩, -⟩
      omega
  · have hsome : 1 ≤ gapCount verification := by
      rw [← length_gapsOf]
      exact List.length_pos_iff.mpr identified
    rw [reportGaps, dif_neg identified] at h
    obtain ⟨r₁, s₁, hnew, hrest⟩ := alone_bind_iff.mp h
    obtain ⟨outside, hexec⟩ := alone_request_iff.mp hnew
    obtain ⟨id, hunused, rfl, rfl⟩ := newId_of_exec hexec
    obtain ⟨r₂, s₂, hclock, hrest⟩ := alone_bind_iff.mp hrest
    obtain ⟨outside', hexec'⟩ := alone_request_iff.mp hclock
    obtain ⟨createdAt, rfl, rfl⟩ := clock_of_exec hexec'
    obtain ⟨outside'', hexec''⟩ := alone_request_iff.mp hrest
    have hresult : (ControlStore.appendGapReport _ (reportOf command verification
        (gapsOf verification) identified id createdAt)).1 = result :=
      congrArg Prod.fst (Option.some.inj hexec'')
    rw [appendGapReport_of_none hv hnone hunused] at hresult
    have hallowed : ControlStore.gapReportAllowed (reportOf command verification
        (gapsOf verification) identified id createdAt) = true ↔ _ :=
      gapReportAllowed_reportOf_iff
    rw [← hresult]
    constructor
    · rintro ⟨report, hreport⟩
      split at hreport
      · next hok =>
        obtain ⟨hmany, hactor⟩ := hallowed.mp hok
        exact ⟨⟨hsome, hmany⟩, hactor⟩
      · cases hreport
    · rintro ⟨⟨-, hmany⟩, hactor⟩
      exact ⟨_, if_pos (hallowed.mpr ⟨hmany, hactor⟩)⟩

/-- Exactly when the latest failed verification can be reported: when it has been
already, or its gaps are between one and fifty and the actor fits the table. -/
theorem createGapReport_succeeds_iff {result : Except Thrown VerificationGapReport}
    (hv : store.getVerification command.scope command.verificationId = some verification)
    (hlatest : (store.listVerifications command.scope).getLast? = some verification)
    (hfailed : verification.verdict ≠ .passed)
    (h : Alone (execGranting backend) (createGapReport order command) store result store') :
    (∃ report, result = .ok report ∧ report.gaps ≠ []) ↔
      (∃ report, store.findGapReportByVerification command.scope command.verificationId =
          some report) ∨
        (1 ≤ gapCount verification ∧ gapCount verification ≤ 50) ∧
          1 ≤ (codePoints (ControlStore.btrim command.actorId)).length ∧
          (codePoints (ControlStore.btrim command.actorId)).length ≤ 200 := by
  have hid : verification.id = command.verificationId :=
    Sql.Table.key_of_get (Option.filter_eq_some_iff.mp hv).1
  have hgaps : (∃ report, result = .ok report ∧ report.gaps ≠ []) ↔
      ∃ report, result = .ok report :=
    ⟨fun ⟨report, hok, _⟩ => ⟨report, hok⟩, fun ⟨report, hok⟩ => ⟨report, hok, report.identified⟩⟩
  rw [hgaps]
  obtain ⟨r₁, s₁, hauthorize, hrest⟩ := alone_bind_iff.mp h
  obtain ⟨outside, hexec⟩ := alone_request_iff.mp hauthorize
  obtain ⟨hgranted, rfl⟩ := Prod.mk.inj (Option.some.inj hexec)
  rw [outside.2] at hgranted
  subst hgranted
  obtain ⟨r₂, s₂, hfind, hrest⟩ := alone_bind_iff.mp hrest
  obtain ⟨outside', hexec'⟩ := alone_request_iff.mp hfind
  obtain ⟨rfl, rfl⟩ := Prod.mk.inj (Option.some.inj hexec')
  rcases hnone : store.findGapReportByVerification command.scope command.verificationId with
    _ | existing
  · rw [hnone] at hrest
    obtain ⟨r₃, s₃, hreads, hrest⟩ := alone_bind_iff.mp hrest
    obtain ⟨hs, rfl⟩ := reads_of_alone hreads
    rw [hs] at hrest
    have hlatestFailed : latestFailed
        { verification := store.getVerification command.scope command.verificationId
          timeline := store.listVerifications command.scope } = .ok verification := by
      simp [latestFailed, hv, hlatest, hfailed]
    simp only [hlatestFailed] at hrest
    rw [← hid] at hv hnone
    rw [reportGaps_of_alone hv hnone hrest]
    simp
  · rw [hnone] at hrest
    obtain ⟨rfl, -⟩ := alone_done_iff.mp hrest
    simp

end Remediable

/-! ## A verification that only a deterministic result fails -/

def sampleGranting (status : JsString) (output : Json) (n : ℕ) : Granting where
  val
    | .newId => .ok (js "id" ++ [n.toUInt16])
    | command => sampleOutside status output command
  property := fun _ => rfl

def sampleCreate (verificationId : JsString) : CreateGapReportCommand where
  scope := sampleScope
  verificationId := verificationId
  actorId := js "actor"

/-- `verify` on the sample, and `create` for the verification that it returns. -/
def sampleGapRun (status : JsString) (output : Json) :
    Option (GoalVerification × ControlStore × Except Thrown VerificationGapReport) :=
  match runAlone (execGranting .postgres) (sampleGranting status output) 0
      (verify sampleService (.refl _) sampleVerify) sampleStore with
  | some (.ok v, store) =>
    (runAlone (execGranting .postgres) (sampleGranting status output) 100
      (createGapReport (.refl _) (sampleCreate v.id)) store).map fun last => (v, store, last.1)
  | _ => none

/-- What the sample shows, when `verify` returns a verification that is then the
latest, with a verdict other than `passed`. -/
theorem sampleGapRun_spec {status : JsString} {output : Json} {v : GoalVerification}
    {store : ControlStore} (h : sampleGapRun status output = some (v, store, result)) :
    Alone (execGranting .postgres) (verify sampleService (.refl _) sampleVerify) sampleStore
        (.ok v) store ∧
      ∃ store', Alone (execGranting .postgres) (createGapReport (.refl _) (sampleCreate v.id))
        store result store' := by
  unfold sampleGapRun at h
  split at h
  · next v' store' hverify =>
    obtain ⟨last, hcreate, hlast⟩ := Option.map_eq_some_iff.mp h
    obtain ⟨rfl, h'⟩ := Prod.mk.inj hlast
    obtain ⟨rfl, rfl⟩ := Prod.mk.inj h'
    exact ⟨alone_of_runAlone hverify, last.2, alone_of_runAlone hcreate⟩
  · cases h

def isLatestFailed (v : GoalVerification) (store : ControlStore) : Bool :=
  store.getVerification sampleScope v.id = some v ∧
    (store.listVerifications sampleScope).getLast? = some v ∧ v.verdict ≠ .passed

/-- On the sample with a failed criterion, the report is made. -/
theorem createGapReport_succeeds_iff_sample : ∃ v store store' result,
    Alone (execGranting .postgres) (verify sampleService (.refl _) sampleVerify) sampleStore
      (.ok v) store ∧
    Alone (execGranting .postgres) (createGapReport (.refl _) (sampleCreate v.id)) store
      result store' ∧
    v.verdict = .failed ∧ ∃ report, result = .ok report ∧ report.gaps ≠ [] := by
  have hrun : (sampleGapRun (js "passed") (sampleOutput (.string (js "failed"))
      (.string (js "failed")))).any (fun x => isLatestFailed x.1 x.2.1 ∧
        x.1.verdict = .failed ∧ gapCount x.1 = 1) = true := by
    decide +kernel
  obtain ⟨⟨v, store, result⟩, hsome, hchecks⟩ := (Option.any_eq_true _ _).mp hrun
  obtain ⟨hlatest, hverdict, hcount⟩ := of_decide_eq_true hchecks
  obtain ⟨hget, hlast, hfailed⟩ := of_decide_eq_true hlatest
  obtain ⟨hverify, store', hcreate⟩ := sampleGapRun_spec hsome
  refine ⟨v, store, store', result, hverify, hcreate, hverdict, ?_⟩
  refine (createGapReport_succeeds_iff hget hlast hfailed hcreate).mpr (.inr ⟨?_, ?_⟩)
  · have hone : gapCount v = 1 := hcount
    exact ⟨hone.ge, by omega⟩
  · have hactor : 1 ≤ (codePoints (ControlStore.btrim (js "actor"))).length ∧
        (codePoints (ControlStore.btrim (js "actor"))).length ≤ 200 := by decide +kernel
    exact hactor

/-- When the verifier passes everything and a deterministic result does not, there
is nothing to report. -/
theorem not_createGapReport_succeeds : ¬ ∀ (service : GoalVerificationService)
    (verifyOrder : Equiv.Perm (Fin 5)) (verifyCommand : VerifyCommand)
    (order : Equiv.Perm (Fin 2)) (command : CreateGapReportCommand)
    (before store store' : ControlStore) (v : GoalVerification)
    (result : Except Thrown VerificationGapReport),
    Alone (execGranting .postgres) (verify service verifyOrder verifyCommand) before (.ok v)
      store →
    store.getVerification command.scope command.verificationId = some v →
    (store.listVerifications command.scope).getLast? = some v →
    v.verdict ≠ .passed →
    Alone (execGranting .postgres) (createGapReport order command) store result store' →
    ∃ report, result = .ok report ∧ report.gaps ≠ [] := by
  intro hall
  have hrun : (sampleGapRun (js "failed") (sampleOutput (.string (js "passed"))
      (.string (js "passed")))).any (fun x => isLatestFailed x.1 x.2.1 ∧
        x.2.2.toOption = none) = true := by
    decide +kernel
  obtain ⟨⟨v, store, result⟩, hsome, hchecks⟩ := (Option.any_eq_true _ _).mp hrun
  obtain ⟨hlatest, hthrown⟩ := of_decide_eq_true hchecks
  obtain ⟨hget, hlast, hfailed⟩ := of_decide_eq_true hlatest
  obtain ⟨hverify, store', hcreate⟩ := sampleGapRun_spec hsome
  obtain ⟨report, hreport, -⟩ := hall _ _ _ _ (sampleCreate v.id) _ _ _ _ _ hverify hget hlast
    hfailed hcreate
  change result.toOption = none at hthrown
  rw [hreport] at hthrown
  cases hthrown

end DevHarness.ControlPlane
