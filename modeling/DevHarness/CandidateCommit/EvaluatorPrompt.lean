import DevHarness.Text.PyString

/-!
# The evaluator's prompt

`build_evaluator_prompt` writes the task, the builder's result, the evidence and the diff of the
candidate into one text; of the diff it writes the end.
-/

namespace DevHarness.CandidateCommit

open JsText PyText

/-! ## The prompt -/

/-- What the prompt says besides the diff. -/
structure PromptFrame where
  runId : PyString
  taskId : PyString
  title : PyString
  goal : PyString
  acceptance : List PyString
  /-- The commands of the evidence, and whether they succeeded. -/
  results : List (PyString × Bool)
  builderMessage : PyString

/-- `"\n".join(...)`. -/
def joinLines (lines : List PyString) : PyString :=
  [0x0A].intercalate lines

/-- `text or default`. -/
def orText (text default : PyString) : PyString :=
  if text = [] then default else text

def acceptanceText (frame : PromptFrame) : PyString :=
  joinLines (frame.acceptance.map fun item => py "- " ++ item)

def testsText (frame : PromptFrame) : PyString :=
  joinLines (frame.results.map fun (command, ok) =>
    py "- " ++ command ++ py " => " ++ if ok then py "ok" else py "failed")

def frameLines (frame : PromptFrame) : List PyString :=
  [py "你是 AutoDev fresh evaluator / steward gate。本轮只读审查，不允许修改文件。",
    py "",
    py "按 PM / Architect / QA / Ops / Memory 五个视角判断任务是否跑偏。",
    py "输出必须包含一行结构化标记：",
    py "AUTODEV_REVIEW: Green | <理由>",
    py "AUTODEV_REVIEW: Yellow | <理由>",
    py "AUTODEV_REVIEW: Red | <原因>",
    py "AUTODEV_REVIEW: Blocked | <阻塞原因>",
    py "请将实际标记作为独立纯文本行输出，不要包在 Markdown 反引号或代码块中。",
    py "",
    py "如有 finding，用 docs/21 对齐字段，至少写成：",
    py "`[P1] path/to/file.py:123 title | impact: ... | recommendation: ...`",
    py "",
    py "P0/P1 或 Red/Blocked 会阻断当前任务 done。",
    py "",
    py "## Task",
    py "",
    py "- run_id: " ++ frame.runId,
    py "- task_id: " ++ frame.taskId,
    py "- title: " ++ frame.title,
    py "- goal: " ++ frame.goal,
    py "",
    py "## Acceptance",
    py "",
    orText (acceptanceText frame) (py "- (none)"),
    py "",
    py "## Builder Result",
    py "",
    orText frame.builderMessage (py "(none)"),
    py "",
    py "## Verify Evidence",
    py "",
    orText (testsText frame) (py "- (none)"),
    py ""]

def diffLimit : ℕ :=
  20000

def noDiff : PyString :=
  py "(no diff supplied)"

/-- `diff_text[-20000:] if diff_text else "(no diff supplied)"`. -/
def shownDiff (diffText : PyString) : PyString :=
  if diffText = [] then noDiff else diffText.drop (diffText.length - diffLimit)

def buildEvaluatorPrompt (frame : PromptFrame) (diffText : PyString) : PyString :=
  joinLines (frameLines frame ++
    [py "## Diff", py "", py "```diff", shownDiff diffText, py "```", py ""])

section Lines

variable {lines others : List PyString}

theorem joinLines_append (hlines : lines ≠ []) (hothers : others ≠ []) :
    joinLines (lines ++ others) = joinLines lines ++ 0x0A :: joinLines others := by
  induction lines with
  | nil => exact absurd rfl hlines
  | cons line lines ih =>
      by_cases hempty : lines = []
      · rw [hempty, List.singleton_append, joinLines, joinLines,
          List.intercalate_cons_of_ne_nil hothers, List.intercalate_singleton, List.append_assoc]
        rfl
      · have hne : lines ++ others ≠ [] := List.append_ne_nil_of_right_ne_nil lines hothers
        have hrest := ih hempty
        rw [joinLines, joinLines] at hrest
        rw [joinLines, joinLines, List.cons_append, List.intercalate_cons_of_ne_nil hne, hrest,
          List.intercalate_cons_of_ne_nil hempty]
        simp only [List.append_assoc]

end Lines

section Section

variable {frame frame' : PromptFrame} {diffText diffText' before before' shown shown' : PyString}

def diffHeading : PyString :=
  py "\n## Diff\n\n```diff\n"

theorem buildEvaluatorPrompt_eq (frame : PromptFrame) (diffText : PyString) :
    buildEvaluatorPrompt frame diffText =
      joinLines (frameLines frame) ++ (diffHeading ++ (shownDiff diffText ++ py "\n```\n")) := by
  have hframe : frameLines frame ≠ [] := List.cons_ne_nil _ _
  rw [buildEvaluatorPrompt, joinLines_append hframe (List.cons_ne_nil _ _)]
  have hsection : 0x0A :: joinLines
      [py "## Diff", py "", py "```diff", shownDiff diffText, py "```", py ""] =
        diffHeading ++ (shownDiff diffText ++ py "\n```\n") := by
    simp only [joinLines, List.intercalate_cons_cons, List.intercalate_singleton]
    rw [List.append_assoc (shownDiff diffText)]
    rfl
  rw [hsection]

theorem shownDiff_eq_self (hne : diffText ≠ []) (hlength : diffText.length ≤ diffLimit) :
    shownDiff diffText = diffText := by
  rw [shownDiff, if_neg hne, Nat.sub_eq_zero_of_le hlength, List.drop_zero]

theorem shownDiff_append (hlength : diffText.length = diffLimit) (before : PyString) :
    shownDiff (before ++ diffText) = diffText := by
  have hne : before ++ diffText ≠ [] := by
    apply List.append_ne_nil_of_right_ne_nil
    rintro rfl
    exact absurd hlength (by decide)
  rw [shownDiff, if_neg hne, List.length_append, hlength, Nat.add_sub_cancel, List.drop_left]

theorem infix_buildEvaluatorPrompt (hlength : diffText.length ≤ diffLimit) :
    diffText <:+: buildEvaluatorPrompt frame diffText := by
  by_cases hne : diffText = []
  · rw [hne]
    exact List.nil_infix
  · rw [buildEvaluatorPrompt_eq, shownDiff_eq_self hne hlength]
    exact ⟨joinLines (frameLines frame) ++ diffHeading, py "\n```\n", by
      simp only [List.append_assoc]⟩

/-- The text does not go on with a further heading. -/
def FreeOfHeading (text : PyString) : Prop :=
  ¬ diffHeading <:+: diffHeading.tail ++ text

/-- A text that Git can print as a diff: not the words for no diff, and without the heading. -/
def IsDiffText (text : PyString) : Prop :=
  text ≠ noDiff ∧ FreeOfHeading text

theorem eq_of_suffix (hfree : FreeOfHeading shown')
    (h : diffHeading ++ shown <:+ diffHeading ++ shown') : shown = shown' := by
  obtain ⟨between, hbetween⟩ := h
  cases between with
  | nil => exact List.append_cancel_left hbetween
  | cons c between =>
      have htail : between ++ (diffHeading ++ shown) = diffHeading.tail ++ shown' :=
        (List.cons.inj hbetween).2
      refine absurd ?_ hfree
      rw [← htail]
      exact ⟨between, shown, List.append_assoc _ _ _⟩

theorem section_unique (hfree : FreeOfHeading shown) (hfree' : FreeOfHeading shown')
    (h : before ++ (diffHeading ++ shown) = before' ++ (diffHeading ++ shown')) : shown = shown' := by
  have hends : diffHeading ++ shown <:+ before' ++ (diffHeading ++ shown') := by
    rw [← h]
    exact List.suffix_append _ _
  rcases List.suffix_or_suffix_of_suffix hends (List.suffix_append before' _) with hshort | hshort
  · exact eq_of_suffix hfree' hshort
  · exact (eq_of_suffix hfree hshort).symm

theorem freeOfHeading_shownDiff (hfree : FreeOfHeading diffText)
    (hlength : diffText.length ≤ diffLimit) : FreeOfHeading (shownDiff diffText) := by
  by_cases hne : diffText = []
  · rw [hne]
    unfold FreeOfHeading
    decide
  · rwa [shownDiff_eq_self hne hlength]

theorem diffText_unique (hdiff : IsDiffText diffText) (hdiff' : IsDiffText diffText')
    (hlength : diffText.length ≤ diffLimit) (hlength' : diffText'.length ≤ diffLimit)
    (h : buildEvaluatorPrompt frame diffText = buildEvaluatorPrompt frame' diffText') :
    diffText = diffText' := by
  rw [buildEvaluatorPrompt_eq, buildEvaluatorPrompt_eq] at h
  have htails : joinLines (frameLines frame) ++ (diffHeading ++ shownDiff diffText) ++ py "\n```\n" =
      joinLines (frameLines frame') ++ (diffHeading ++ shownDiff diffText') ++ py "\n```\n" := by
    simpa only [List.append_assoc] using h
  have hsections := List.append_cancel_right htails
  have hshown := section_unique (freeOfHeading_shownDiff hdiff.2 hlength)
    (freeOfHeading_shownDiff hdiff'.2 hlength') hsections
  by_cases hne : diffText = []
  · by_cases hne' : diffText' = []
    · rw [hne, hne']
    · rw [hne, shownDiff_eq_self hne' hlength'] at hshown
      exact absurd hshown.symm hdiff'.1
  · by_cases hne' : diffText' = []
    · rw [hne', shownDiff_eq_self hne hlength] at hshown
      exact absurd hshown hdiff.1
    · rwa [shownDiff_eq_self hne hlength, shownDiff_eq_self hne' hlength'] at hshown

end Section

end DevHarness.CandidateCommit
