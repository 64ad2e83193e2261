import DevHarness.CandidateCommit.FindingFormat

/-!
# What the evaluator's output says

When a review blocks, and which decorated lines give their finding.
-/

namespace DevHarness.CandidateCommit

open JsText PyText Matching Matcher

section Findings

variable {output line s : PyString} {finding : ReviewFinding} {groups : Groups} {layers : List Layer}
  {c : CodePoint}

theorem mem_parseFindings :
    finding ∈ parseFindings output ↔ ∃ line ∈ splitlines output, findingOf line = some finding := by
  rw [parseFindings, List.mem_eraseDups, List.mem_filterMap]

theorem exists_of_findingOf (h : findingOf line = some finding) : ∃ groups rest,
    First findingPattern (normalizeFindingLine line) groups rest ∧ groups.finding = finding := by
  obtain ⟨⟨groups, rest⟩, hfirst, hfinding⟩ := Option.map_eq_some_iff.mp h
  exact ⟨groups, rest, hfirst, hfinding⟩

theorem mem_orDefault {default : PyString} {group : Option PyString} (h : c ∈ orDefault default group) :
    c ∈ default ∨ ∃ value ∈ group, c ∈ value := by
  have hmem := Strip.strip_infix.subset h
  cases group with
  | none => exact Or.inl hmem
  | some value =>
      by_cases hempty : value = []
      · exact Or.inl (by simpa [hempty] using hmem)
      · exact Or.inr ⟨value, rfl, by simpa [hempty] using hmem⟩

theorem noBoundary_of_findingOf (hline : ∀ c ∈ line, isLineBoundary c = false)
    (h : findingOf line = some finding) :
    ∀ c ∈ finding.title ++ finding.impact ++ finding.recommendation, isLineBoundary c = false := by
  obtain ⟨groups, rest, hfirst, rfl⟩ := exists_of_findingOf h
  have hreads := reads_of_mem hfirst.mem
  have hpart : ∀ c ∈ normalizeFindingLine line, isLineBoundary c = false :=
    fun c hc => hline c ((infix_normalizeFindingLine line).subset hc)
  have hdefaults : ∀ default ∈ [defaultTitle, defaultImpact, defaultRecommendation],
      ∀ c ∈ default, isLineBoundary c = false := by decide
  have hfield : ∀ default ∈ [defaultTitle, defaultImpact, defaultRecommendation],
      ∀ group : Option PyString, (∀ value ∈ group, ∀ c ∈ value, c ∈ normalizeFindingLine line) →
        ∀ c ∈ orDefault default group, isLineBoundary c = false := by
    intro default hdefault group hgroup c hc
    rcases mem_orDefault hc with hc | ⟨value, hvalue, hc⟩
    · exact hdefaults default hdefault c hc
    · exact hpart c (hgroup value hvalue c hc)
  refine List.forall_mem_append.mpr ⟨List.forall_mem_append.mpr ⟨?_, ?_⟩, ?_⟩
  · apply hfield defaultTitle (by simp) (some groups.title)
    rintro value ⟨rfl⟩
    exact hreads.title
  · exact hfield defaultImpact (by simp) groups.impact hreads.impact
  · apply hfield defaultRecommendation (by simp) groups.recommendation
    intro value hvalue c hc
    obtain ⟨before, after, hsplit, -⟩ := hreads.recommendation value hvalue
    rw [hsplit]
    exact List.mem_append_right _ (List.mem_append_left _ hc)

/-! ## A recommendation that lost its end -/

def endMarks (s : PyString) : ℕ :=
  (s.reverse.takeWhile isDecor).countP isMark

theorem endMarks_append_decor {decor : PyString} (h : ∀ c ∈ decor, isDecor c = true) (s : PyString) :
    endMarks (s ++ decor) = endMarks s + decor.countP isMark := by
  have hall : ∀ c ∈ decor.reverse, isDecor c = true := fun c hc => h c (List.mem_reverse.mp hc)
  rw [endMarks, List.reverse_append, List.takeWhile_append_of_pos hall, List.countP_append,
    List.countP_reverse, Nat.add_comm]
  rfl

theorem endMarks_le_append (before s : PyString) : endMarks s ≤ endMarks (before ++ s) := by
  rw [endMarks, endMarks, List.reverse_append, List.takeWhile_append]
  by_cases hall : (s.reverse.takeWhile isDecor).length = s.reverse.length
  · rw [if_pos hall, List.countP_append, (List.takeWhile_prefix _).eq_of_length hall]
    exact Nat.le_add_right _ _
  · rw [if_neg hall]

theorem endMarks_append_label (before s : PyString) :
    endMarks (before ++ 0x3A :: 0x20 :: s) = endMarks s := by
  have hreverse : (before ++ 0x3A :: 0x20 :: s).reverse =
      s.reverse ++ 0x20 :: 0x3A :: before.reverse := by simp
  have hblank : (0x20 :: 0x3A :: before.reverse).takeWhile isDecor = [0x20] := rfl
  rw [endMarks, endMarks, hreverse, List.takeWhile_append]
  by_cases hall : (s.reverse.takeWhile isDecor).length = s.reverse.length
  · rw [if_pos hall, hblank, List.countP_append, (List.takeWhile_prefix _).eq_of_length hall]
    rfl
  · rw [if_neg hall]

theorem recommendation_ne {lost : PyString}
    (hlost : finding.contract = s ++ lost) (hdecor : ∀ c ∈ lost, isDecor c = true)
    (hmark : ∃ c ∈ lost, isMark c = true) (hreads : Reads s groups) :
    groups.finding.recommendation ≠ finding.recommendation := by
  intro hsame
  have hpos : 0 < lost.countP isMark := List.countP_pos_iff.mpr hmark
  have hne : lost ≠ [] := by
    rintro rfl
    exact absurd hpos (lt_irrefl 0)
  obtain ⟨before, hcontract⟩ : ∃ before, finding.contract =
      before ++ 0x3A :: 0x20 :: finding.recommendation :=
    ⟨_, finding.contract_eq⟩
  have hdefault : finding.recommendation ≠ defaultRecommendation := by
    intro hfixed
    have hlast : (s ++ lost).getLast? = some 0x67 := by
      rw [← hlost, hcontract, hfixed, List.getLast?_append]
      rfl
    rw [List.getLast?_append, List.getLast?_eq_some_getLast hne, Option.some_or] at hlast
    have hend := hdecor _ (List.getLast_mem hne)
    rw [Option.some.inj hlast] at hend
    exact absurd hend (by decide)
  have hgiven : ∀ value, groups.recommendation = some value → value ≠ [] →
      strip value ≠ finding.recommendation := by
    intro value hvalue hvalueNe hstrip
    obtain ⟨start, after, hsplit, hafter⟩ := hreads.recommendation value hvalue
    obtain ⟨blanks, blanks', hblanks, -, hspaces⟩ := exists_of_strip value
    obtain ⟨hdecor', -⟩ := decor_of_blanks hspaces
    have hafterDecor : ∀ c ∈ after, isDecor c = true := by
      have hall : ∀ after ∈ [[], [0x0A]], ∀ c ∈ after, isDecor c = true := by decide
      exact hall after hafter
    have hends : ∀ c ∈ blanks' ++ (after ++ lost), isDecor c = true :=
      List.forall_mem_append.mpr ⟨hdecor', List.forall_mem_append.mpr ⟨hafterDecor, hdecor⟩⟩
    have hsame : before ++ 0x3A :: 0x20 :: finding.recommendation =
        (start ++ blanks) ++ finding.recommendation ++ (blanks' ++ (after ++ lost)) := by
      rw [← hcontract, hlost, hsplit, hblanks, hstrip]
      simp only [List.append_assoc]
    have hcount := congrArg endMarks hsame
    have hle := endMarks_le_append (start ++ blanks) finding.recommendation
    rw [endMarks_append_label, endMarks_append_decor hends, List.countP_append,
      List.countP_append] at hcount
    omega
  cases hgroup : groups.recommendation with
  | none =>
      apply hdefault
      rw [← hsame, Groups.finding, hgroup]
      rfl
  | some value =>
      rw [Groups.finding, hgroup] at hsame
      by_cases hempty : value = []
      · apply hdefault
        rw [← hsame, hempty]
        rfl
      · apply hgiven value hgroup hempty
        exact (orDefault_of_ne hempty).symm.trans hsame

/-! ## Decorated findings -/

def IsLineOf (line output : PyString) : Prop :=
  ∃ before after, output = before ++ (line ++ after) ∧
    (before = [] ∨ ∃ text, before = text ++ [0x0A]) ∧ (after = [] ∨ ∃ text, after = 0x0A :: text)

theorem mem_splitlines_of_isLineOf (hline : ∀ c ∈ line, isLineBoundary c = false) (hne : line ≠ [])
    (h : IsLineOf line output) : line ∈ splitlines output := by
  obtain ⟨before, after, rfl, hbefore, hafter⟩ := h
  have hhead : line ∈ splitlines (line ++ after) := by
    rcases hafter with rfl | ⟨text, rfl⟩
    · rw [List.append_nil, splitlines_of_noBoundary hline hne]
      exact List.mem_singleton_self line
    · rw [splitlines_append_feed hline]
      exact List.mem_cons_self
  rcases hbefore with rfl | ⟨text, rfl⟩
  · exact hhead
  · obtain ⟨lines, -, hlines⟩ := exists_splitlines_append_feed text (line ++ after)
    rw [List.append_assoc, List.singleton_append, hlines]
    exact List.mem_append_right _ hhead

theorem isLineOf_self (line : PyString) : IsLineOf line line :=
  ⟨[], [], (List.append_nil line).symm, Or.inl rfl, Or.inl rfl⟩

section

variable (h : finding.WellFormed)

include h

theorem bare_contract : Bare finding.contract := by
  refine ⟨rfl, ?_, ?_⟩
  · rintro c ⟨rfl⟩
    decide
  · rw [ReviewFinding.contract_eq, List.getLast?_append, List.getLast?_cons, List.getLast?_cons,
      List.getLast?_eq_some_getLast h.recommendation.ne_nil]
    rintro c ⟨rfl⟩
    exact h.recommendation.trimmed.2 _ (List.getLast?_eq_some_getLast h.recommendation.ne_nil)

theorem noBoundary_contract
    (hfields : ∀ c ∈ finding.title ++ finding.impact ++ finding.recommendation, isLineBoundary c =
      false) : ∀ c ∈ finding.contract, isLineBoundary c = false := by
  rw [List.forall_mem_append, List.forall_mem_append] at hfields
  obtain ⟨⟨htitle, himpact⟩, hrecommendation⟩ := hfields
  have hpriority : ∀ c ∈ finding.priority.text, isLineBoundary c = false := by
    cases finding.priority <;> decide
  have hfile : ∀ c ∈ finding.file, isLineBoundary c = false := by
    intro c hc
    have hunit := h.file c hc
    simp only [isFileUnit, Bool.and_eq_true, decide_eq_true_eq, Bool.not_eq_true] at hunit
    exact not_isLineBoundary hunit.2
  have hline : ∀ c ∈ finding.lineText, isLineBoundary c = false := by
    rw [ReviewFinding.lineText]
    by_cases hempty : finding.line = []
    · rw [if_pos hempty]
      intro c hc
      cases hc
    · rw [if_neg hempty]
      have hdigits : ∀ c ∈ finding.line, isLineBoundary c = false :=
        fun c hc => not_isLineBoundary (not_isSpace_of_isDigit (h.line c hc))
      exact List.forall_mem_append.mpr ⟨by decide, hdigits⟩
  simp only [ReviewFinding.contract, ReviewFinding.afterTitle, ReviewFinding.afterImpact,
    List.forall_mem_append]
  exact ⟨by decide, hpriority, by decide, by decide, hfile, hline, by decide, htitle, by decide,
    himpact, by decide, hrecommendation⟩

/-- A finding in the format is read back when its layers are in order and its fields readable. -/
theorem mem_parseFindings_of_isLineOf (hlayers : ∀ layer ∈ layers, layer.WellFormed)
    (horder : InOrder layers) (hread : finding.IsReadable)
    (hline : IsLineOf (decorate layers finding.contract) output) :
    finding ∈ parseFindings output := by
  have hbare := bare_contract h
  have hnoBoundary := noBoundary_decorate hlayers (noBoundary_contract h hread.noBoundary)
  have hmem := mem_splitlines_of_isLineOf hnoBoundary (decorate_ne_nil hlayers hbare) hline
  refine mem_parseFindings.mpr ⟨_, hmem, ?_⟩
  rw [findingOf, normalizeFindingLine_of_inOrder hlayers hbare horder, first_contract h hread]
  exact congrArg some (finding_groupsOf h)

theorem inOrder_of_mem_parseFindings (hlayers : ∀ layer ∈ layers, layer.WellFormed)
    (hmem : finding ∈ parseFindings (decorate layers finding.contract)) :
    InOrder layers ∧ finding.IsReadable := by
  have hbare := bare_contract h
  obtain ⟨line, hline, hfinding⟩ := mem_parseFindings.mp hmem
  have hfields := noBoundary_of_findingOf (not_isLineBoundary_of_mem hline) hfinding
  have hnoBoundary := noBoundary_decorate hlayers (noBoundary_contract h hfields)
  rw [splitlines_of_noBoundary hnoBoundary (decorate_ne_nil hlayers hbare)] at hline
  obtain rfl := List.mem_singleton.mp hline
  obtain ⟨groups, rest, hfirst, hsame⟩ := exists_of_findingOf hfinding
  have hreads := reads_of_mem hfirst.mem
  have horder : InOrder layers := by
    by_contra horder
    obtain ⟨lost, hlost, hdecor, hmark⟩ := cut_of_not_inOrder hlayers hbare horder hreads.head
    exact recommendation_ne hlost hdecor hmark hreads (congrArg ReviewFinding.recommendation hsame)
  rw [normalizeFindingLine_of_inOrder hlayers hbare horder] at hfirst
  have hfile : finding.file ≠ [] := by
    rw [← hsame]
    exact hreads.file
  have hunique : ∀ groups' rest', First findingPattern finding.contract groups' rest' →
      groups'.finding = finding := by
    intro groups' rest' hfirst'
    obtain ⟨rfl, -⟩ := Prod.mk.inj (Option.some.inj (hfirst.symm.trans hfirst'))
    exact hsame
  have htitle : opensWithin [impactLabel, recommendationLabel] finding.title = false := by
    by_contra hopens
    obtain ⟨groups', rest', hfirst', hne⟩ := exists_of_title h hfile (by simpa using hopens)
    exact hne (hunique groups' rest' hfirst')
  have himpact : opensWithin [recommendationLabel] finding.impact = false := by
    by_contra hopens
    obtain ⟨groups', rest', hfirst', hne⟩ := exists_of_impact h hfile htitle (by simpa using hopens)
    exact hne (hunique groups' rest' hfirst')
  exact ⟨horder, hfile, hfields, htitle, himpact⟩

end

end Findings

section Blocking

variable {lower : PyString → PyString} {output : PyString} {acceptance commands : List PyString}

/-- No line normalises to a finding that blocks. -/
def NoBlockingFinding (output : PyString) : Prop :=
  ∀ line ∈ splitlines output, ∀ finding ∈ findingOf line, finding.priority.isBlocking = false

/-- The last marker's verdict is one of some. -/
def LastVerdict (lower : PyString → PyString) (output : PyString) (verdicts : List PyString) : Prop :=
  ∃ candidate ∈ lastMarker output, verdict lower candidate ∈ verdicts

/-- A review that does not block has a marker that says so, and no blocking finding. -/
def FailClosed (lower : PyString → PyString) (output : PyString) : Prop :=
  ∀ acceptance commands,
    (parseEvaluatorOutput lower output acceptance commands).shouldBlock = false →
      LastVerdict lower output [py "green", py "yellow"] ∧ NoBlockingFinding output

/-- A finding that stands in an output in its layers is returned. -/
def ReadBack (lower : PyString → PyString) (finding : ReviewFinding) (layers : List Layer) : Prop :=
  ∀ output acceptance commands, IsLineOf (decorate layers finding.contract) output →
    finding ∈ (parseEvaluatorOutput lower output acceptance commands).findings

theorem any_isBlocking_eq_false : ((parseFindings output).any fun finding =>
    finding.priority.isBlocking) = false ↔ NoBlockingFinding output := by
  rw [List.any_eq_false]
  constructor
  · intro h line hline finding hfinding
    simpa using h finding (mem_parseFindings.mpr ⟨line, hline, hfinding⟩)
  · intro h finding hmem
    obtain ⟨line, hline, hfinding⟩ := mem_parseFindings.mp hmem
    simpa using h line hline finding hfinding

def statusOf (said : PyString) : PyString :=
  if said ∈ knownStatuses then said else py "blocked"

theorem statusOf_passes_iff (said : PyString) :
    ¬ (statusOf (if said = [] then py "yellow" else said) = py "red" ∨
      statusOf (if said = [] then py "yellow" else said) = py "blocked") ↔
        said ∈ [[], py "green", py "yellow"] := by
  by_cases hempty : said = []
  · rw [if_pos hempty, hempty]
    decide
  · rw [if_neg hempty, statusOf]
    by_cases hknown : said ∈ knownStatuses
    · rw [if_pos hknown]
      have hall : ∀ said ∈ knownStatuses,
          (¬ (said = py "red" ∨ said = py "blocked") ↔ said ∈ [[], py "green", py "yellow"]) := by
        decide
      exact hall said hknown
    · rw [if_neg hknown]
      have hnot : said ∉ [[], py "green", py "yellow"] := by
        intro hmem
        rcases List.mem_cons.mp hmem with rfl | hmem
        · exact hempty rfl
        · exact hknown (List.mem_append_left [py "red", py "blocked"] hmem)
      exact iff_of_false (fun h => h (Or.inr rfl)) hnot

theorem passes_iff : ¬ ((parseEvaluatorOutput lower output acceptance commands).status = py "red" ∨
      (parseEvaluatorOutput lower output acceptance commands).status = py "blocked") ↔
        LastVerdict lower output [[], py "green", py "yellow"] := by
  change ¬ (statusOf (markerStatus lower (lastMarker output)).1 = py "red" ∨
    statusOf (markerStatus lower (lastMarker output)).1 = py "blocked") ↔ _
  rw [LastVerdict]
  cases hmarker : lastMarker output with
  | none => exact iff_of_false (fun h => h (Or.inr rfl)) nofun
  | some candidate =>
      rw [markerStatus, statusOf_passes_iff]
      constructor
      · exact fun hmem => ⟨candidate, rfl, hmem⟩
      · rintro ⟨_, ⟨rfl⟩, hmem⟩
        exact hmem

theorem shouldBlock_eq_false_iff :
    (parseEvaluatorOutput lower output acceptance commands).shouldBlock = false ↔
      LastVerdict lower output [[], py "green", py "yellow"] ∧ NoBlockingFinding output := by
  rw [← passes_iff, ← any_isBlocking_eq_false, EvaluatorReview.shouldBlock]
  by_cases hblocks : (parseEvaluatorOutput lower output acceptance commands).status = py "red" ∨
      (parseEvaluatorOutput lower output acceptance commands).status = py "blocked"
  · rw [if_pos hblocks]
    exact iff_of_false nofun fun h => h.1 hblocks
  · rw [if_neg hblocks]
    exact (and_iff_right hblocks).symm

theorem readBack_iff {finding : ReviewFinding} {layers : List Layer} (h : finding.WellFormed)
    (hlayers : ∀ layer ∈ layers, layer.WellFormed) :
    ReadBack lower finding layers ↔ InOrder layers ∧ finding.IsReadable := by
  constructor
  · intro hread
    exact inOrder_of_mem_parseFindings h hlayers (hread _ [] [] (isLineOf_self _))
  · rintro ⟨horder, hread⟩ output acceptance commands hline
    exact mem_parseFindings_of_isLineOf h hlayers horder hread hline

/-- A review passes exactly when its last marker says Green, Yellow or nothing and no finding blocks;
a decorated finding is returned exactly when its layers are in order and its fields readable. -/
theorem reviewParsing_iff (lower : PyString → PyString) :
    (∀ output acceptance commands,
      (parseEvaluatorOutput lower output acceptance commands).shouldBlock = false ↔
        LastVerdict lower output [[], py "green", py "yellow"] ∧ NoBlockingFinding output) ∧
      ∀ (finding : ReviewFinding) (layers : List Layer), finding.WellFormed →
        (∀ layer ∈ layers, layer.WellFormed) →
          (ReadBack lower finding layers ↔ InOrder layers ∧ finding.IsReadable) :=
  ⟨fun _ _ _ => shouldBlock_eq_false_iff, fun _ _ h hlayers => readBack_iff h hlayers⟩

/-- `str.lower()` of ASCII letters. -/
def asciiLower (s : PyString) : PyString :=
  s.map fun c => if 0x41 ≤ c ∧ c ≤ 0x5A then c + 0x20 else c

/-- `[P1] src/a.py:12 Lost update | impact: data loss | recommendation: lock the row`. -/
def sampleFinding : ReviewFinding where
  priority := .p1
  file := py "src/a.py"
  line := py "12"
  title := py "Lost update"
  impact := py "data loss"
  recommendation := py "lock the row"

theorem wellFormed_sampleFinding : sampleFinding.WellFormed where
  file := by decide
  line := by decide
  title := by decide +kernel
  impact := by decide +kernel
  recommendation := by decide +kernel

def sampleLayers : List Layer :=
  [.quote (py " "), .bullet 0x2D (py " "), .wrapped (py "**")]

def quoteInItem : List Layer :=
  [.bullet 0x2D (py " "), .quote (py " ")]

theorem wellFormed_sampleLayers : ∀ layer ∈ sampleLayers, layer.WellFormed := by
  simp [sampleLayers, Layer.WellFormed, Layer.AreBlanks]
  decide

theorem wellFormed_quoteInItem : ∀ layer ∈ quoteInItem, layer.WellFormed := by
  simp [quoteInItem, Layer.WellFormed, Layer.AreBlanks]
  decide

theorem reviewParsing_sampleFinding : ReadBack asciiLower sampleFinding sampleLayers :=
  ((reviewParsing_iff asciiLower).2 sampleFinding sampleLayers wellFormed_sampleFinding
    wellFormed_sampleLayers).mpr ⟨by decide, by decide +kernel⟩

/-- A marker that names nothing passes, and a quote within a list item hides a P1 finding. -/
theorem not_reviewParsing : ¬ FailClosed asciiLower (py "AUTODEV_REVIEW:") ∧
    ¬ ReadBack asciiLower sampleFinding quoteInItem := by
  constructor
  · intro h
    obtain ⟨⟨candidate, hcandidate, hverdict⟩, -⟩ := h [] [] (by decide +kernel)
    have hmarker : lastMarker (py "AUTODEV_REVIEW:") = some (py "AUTODEV_REVIEW:") := by decide +kernel
    obtain rfl := Option.some.inj (hmarker.symm.trans hcandidate)
    exact absurd hverdict (by decide +kernel)
  · intro h
    have hread := (readBack_iff wellFormed_sampleFinding wellFormed_quoteInItem).mp h
    exact absurd hread.1 (by decide)

end Blocking

end DevHarness.CandidateCommit
