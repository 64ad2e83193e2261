import DevHarness.CandidateCommit.EvaluatorPrompt
import DevHarness.CandidateCommit.ReviewParsing
import DevHarness.CandidateCommit.SafetyPolicy
import DevHarness.Sequence.Checks

/-!
# What is committed has been reviewed

The part of `_run_one_impl` from the capture of the candidate's diff to the commit.  The diff is
captured, written into the evaluator's prompt, captured again after the review, and the candidate is
committed when nothing has changed; the prompt shows the end of the diff only.
-/

namespace DevHarness.CandidateCommit

open JsText PyText Sequence

structure CommandResult where
  returncode : Option ℤ
  stdout : PyString
  stderr : PyString
  timedOut : Bool

def CommandResult.ok (result : CommandResult) : Bool :=
  result.returncode = some 0 && ¬ result.timedOut

/-- A worktree: its files, and the new ones among them that its index knows. -/
structure Checkout (Files : Type) where
  files : Files
  index : List PyString

def Checkout.intend {Files : Type} (checkout : Checkout Files) (names : List PyString) :
    Checkout Files :=
  { checkout with index := checkout.index ++ names }

/-- Git's answers in a worktree. -/
structure Git (Files : Type) where
  /-- `git ls-files --others --exclude-standard`. -/
  lsFiles : Checkout Files → CommandResult
  /-- `git add -N -- <paths>`. -/
  addIntent : Checkout Files → List PyString → CommandResult
  /-- `git diff --binary --full-index --no-ext-diff <base> -- .`. -/
  diff : Checkout Files → PyString → CommandResult
  /-- The files that are neither in the index nor ignored, as Git prints them. -/
  newFiles : Checkout Files → List PyString
  /-- Each file is printed on a line. -/
  listed : ∀ checkout, (lsFiles checkout).ok = true →
    (lsFiles checkout).stdout = (newFiles checkout).flatMap fun name => name ++ [0x0A]
  /-- Code points that end a line are quoted. -/
  inline : ∀ checkout, ∀ name ∈ newFiles checkout, ∀ c ∈ name, isLineBoundary c = false

/-- A command has to succeed; the `AutoDevGitError` says what the command printed. -/
def require (result : CommandResult) (problem : PyString) : Except PyString Unit :=
  if result.ok then .ok () else .error (problem ++ orText result.stderr result.stdout)

def listedPaths (stdout : PyString) : List PyString :=
  (splitlines stdout).filter fun line => strip line ≠ [] ∧ ¬ isRuntimeArtifactPath line

def requireBase (baseSha : PyString) : Except PyString Unit :=
  if baseSha = [] then .error (py "review diff requires an explicit base commit") else .ok ()

section Capture

variable {Files : Type} (git : Git Files)

/-- `git add -N`, when there are paths. -/
def stageIntent (checkout : Checkout Files) (paths : List PyString) : Except PyString Unit :=
  if paths = [] then .ok ()
  else
    require (git.addIntent checkout paths)
      (py "review diff cannot stage intent for untracked files: ")

/-- `_candidate_review_diff`: the worktree with its index, and the diff. -/
def candidateReviewDiff (checkout : Checkout Files) (baseSha : PyString) :
    Except PyString (Checkout Files × PyString) := do
  requireBase baseSha
  let untracked := git.lsFiles checkout
  require untracked (py "review diff cannot list untracked files: ")
  let paths := listedPaths untracked.stdout
  stageIntent git checkout paths
  let intended := checkout.intend paths
  let diff := git.diff intended baseSha
  require diff (py "review diff failed: ")
  return (intended, diff.stdout)

end Capture

/-- What the gate returns, as far as the run reads it. -/
structure EvaluatorGateResult where
  status : PyString
  message : PyString
  shouldBlock : Bool

def returncodeText : Option ℤ → PyString
  | none => py "None"
  | some code => py (toString code)

def gateMessage (review : EvaluatorReview) : PyString :=
  let blocking := review.findings.filter fun finding => finding.priority.isBlocking
  if blocking = [] then review.message
  else review.message ++ py "; blocking findings: " ++
    (py "; ").intercalate (blocking.map fun finding =>
      finding.priority.text ++ py " " ++ finding.file ++ py ":" ++ finding.line ++ py " " ++
        finding.title)

def blockedReview (message : PyString) : EvaluatorReview where
  status := py "blocked"
  message := message
  findings := []
  acceptanceSummary := []
  testsRun := []

section Run

variable (lower : PyString → PyString)

def reviewOf (frame : PromptFrame) (result : CommandResult) : EvaluatorReview :=
  if result.timedOut then blockedReview (py "review timeout")
  else if ¬ result.ok then
    blockedReview (py "review exited with " ++ returncodeText result.returncode)
  else parseEvaluatorOutput lower result.stdout frame.acceptance (frame.results.map Prod.fst)

/-- `run_evaluator_gate`; the evaluator is given the prompt. -/
def runEvaluatorGate (evaluator : PyString → CommandResult) (frame : PromptFrame)
    (diffText : PyString) : EvaluatorGateResult :=
  let review := reviewOf lower frame (evaluator (buildEvaluatorPrompt frame diffText))
  { status := review.status
    message := gateMessage review
    shouldBlock := review.shouldBlock }

/-! ## The run -/

/-- A run that failed: its status and message. -/
structure Failure where
  status : PyString
  message : PyString

/-- A run that verified its candidate, and what happens around it. -/
structure CandidateRun (Files : Type) where
  baseSha : PyString
  frame : PromptFrame
  /-- The worktree when the diff is captured. -/
  built : Checkout Files
  /-- Why the provider's slot is not granted, if it is not. -/
  providerFailure : Option PyString
  /-- The evaluator, which sees the prompt. -/
  evaluator : PyString → CommandResult
  /-- The worktree after the review. -/
  reviewed : Checkout Files
  /-- What the safety policy says of it. -/
  safetyErrors : List PyString
  /-- The commit, or the error. -/
  commit : Except PyString PyString

/-- A candidate that was committed. -/
structure Commit (Files : Type) where
  /-- The prompt the evaluator was given. -/
  prompt : PyString
  /-- The worktree that is committed. -/
  worktree : Checkout Files
  sha : PyString

def failing {α : Type} (status : PyString) (result : Except PyString α) : Except Failure α :=
  result.mapError fun message => ⟨status, message⟩

def ensure (condition : Bool) (status message : PyString) : Except Failure Unit :=
  if condition then .ok () else .error ⟨status, message⟩

/-- `_run_one_impl`, from the capture of the diff to the commit. -/
def reviewAndCommit {Files : Type} (git : Git Files) (run : CandidateRun Files) :
    Except Failure (Commit Files) := do
  let (_, diffText) ← failing (py "review_diff_failed")
    (candidateReviewDiff git run.built run.baseSha)
  ensure run.providerFailure.isNone (py "provider_capacity_failed") (run.providerFailure.getD [])
  let evaluation := runEvaluatorGate lower run.evaluator run.frame diffText
  ensure (¬ evaluation.shouldBlock)
    (if evaluation.status = py "red" then py "review_red" else py "review_blocked")
    (orText evaluation.message (py "review blocked"))
  let (_, currentDiff) ← failing (py "review_diff_failed")
    (candidateReviewDiff git run.reviewed run.baseSha)
  ensure (currentDiff = diffText) (py "review_candidate_changed")
    (py "candidate tree changed after evaluator review; refusing to commit unreviewed content")
  ensure (run.safetyErrors = []) (py "safety_policy_red")
    (py "pre-commit safety policy failed: " ++ (py "; ").intercalate run.safetyErrors)
  let sha ← failing (py "commit_failed") run.commit
  return ⟨buildEvaluatorPrompt run.frame diffText, run.reviewed, sha⟩

end Run

section Candidate

variable {Files : Type} (git : Git Files)

def candidateFiles (checkout : Checkout Files) : List PyString :=
  (git.newFiles checkout).filter fun name => ¬ isRuntimeArtifactPath name

def completeDiff (baseSha : PyString) (checkout : Checkout Files) : PyString :=
  (git.diff (checkout.intend (candidateFiles git checkout)) baseSha).stdout

/-- The names of the new files have something else than white space, and the complete diff is within
the limit. -/
structure IsShowable (baseSha : PyString) (checkout : Checkout Files) : Prop where
  names : ∀ name ∈ candidateFiles git checkout, strip name ≠ []
  length : (completeDiff git baseSha checkout).length ≤ diffLimit

end Candidate

section Whole

variable {lower : PyString → PyString} {Files : Type} {git : Git Files}
  {checkout captured : Checkout Files} {baseSha diffText problem : PyString}
  {result : CommandResult} {run : CandidateRun Files} {commit : Commit Files}

theorem require_eq_ok : require result problem = .ok () ↔ result.ok = true := by
  rw [require]
  by_cases hok : result.ok = true
  · simp [hok]
  · simp [hok]

theorem ensure_eq_ok {condition : Bool} {status message : PyString} :
    ensure condition status message = .ok () ↔ condition = true := by
  rw [ensure]
  cases condition <;> simp

theorem failing_eq_ok {α : Type} {status : PyString} {result : Except PyString α} {value : α} :
    failing status result = .ok value ↔ result = .ok value := by
  cases result with
  | error message => simp [failing, Except.mapError]
  | ok value' => simp [failing, Except.mapError]

/-- The lines that are taken for new files are the candidate's, when each has a name to see. -/
theorem listedPaths_eq (hok : (git.lsFiles checkout).ok = true)
    (hnames : ∀ name ∈ candidateFiles git checkout, strip name ≠ []) :
    listedPaths (git.lsFiles checkout).stdout = candidateFiles git checkout := by
  rw [listedPaths, git.listed checkout hok, splitlines_flatMap (git.inline checkout), candidateFiles]
  apply List.filter_congr
  intro name hname
  by_cases hartifact : isRuntimeArtifactPath name = true
  · simp [hartifact]
  · have hstrip := hnames name (List.mem_filter.mpr ⟨hname, by simpa using hartifact⟩)
    simp [hartifact, hstrip]

section

variable (h : candidateReviewDiff git checkout baseSha = .ok (captured, diffText))

include h

theorem candidateReviewDiff_eq_ok :
    (git.lsFiles checkout).ok = true ∧
      diffText = (git.diff (checkout.intend (listedPaths (git.lsFiles checkout).stdout)) baseSha).stdout := by
  obtain ⟨-, h⟩ := check_bind_eq_ok.mp h
  obtain ⟨hlisted, h⟩ := check_bind_eq_ok.mp h
  obtain ⟨-, h⟩ := check_bind_eq_ok.mp h
  obtain ⟨-, h⟩ := check_bind_eq_ok.mp h
  obtain ⟨-, rfl⟩ := Prod.mk.inj (Except.ok.inj h)
  exact ⟨require_eq_ok.mp hlisted, rfl⟩

theorem candidateReviewDiff_complete
    (hnames : ∀ name ∈ candidateFiles git checkout, strip name ≠ []) :
    diffText = completeDiff git baseSha checkout := by
  obtain ⟨hok, hdiff⟩ := candidateReviewDiff_eq_ok h
  rw [hdiff, listedPaths_eq hok hnames]
  rfl

end

theorem reviewAndCommit_eq_ok (h : reviewAndCommit lower git run = .ok commit) :
    ∃ diffText captured current, commit.worktree = run.reviewed ∧
      commit.prompt = buildEvaluatorPrompt run.frame diffText ∧
        (runEvaluatorGate lower run.evaluator run.frame diffText).shouldBlock = false ∧
          candidateReviewDiff git run.built run.baseSha = .ok (captured, diffText) ∧
            candidateReviewDiff git run.reviewed run.baseSha = .ok (current, diffText) := by
  obtain ⟨⟨captured, diffText⟩, hcaptured, h⟩ := bind_eq_ok.mp h
  obtain ⟨-, h⟩ := check_bind_eq_ok.mp h
  obtain ⟨hpasses, h⟩ := check_bind_eq_ok.mp h
  obtain ⟨⟨current, currentDiff⟩, hcurrent, h⟩ := bind_eq_ok.mp h
  obtain ⟨hsame, h⟩ := check_bind_eq_ok.mp h
  obtain ⟨-, h⟩ := check_bind_eq_ok.mp h
  obtain ⟨sha, -, h⟩ := bind_eq_ok.mp h
  obtain rfl := Except.ok.inj h
  obtain rfl := of_decide_eq_true (ensure_eq_ok.mp hsame)
  refine ⟨currentDiff, captured, current, rfl, rfl, ?_, failing_eq_ok.mp hcaptured,
    failing_eq_ok.mp hcurrent⟩
  simpa using ensure_eq_ok.mp hpasses

/-- The prompt of a run that commits is written from the complete diff of what is committed. -/
theorem prompt_of_committed (h : reviewAndCommit lower git run = .ok commit)
    (hnames : ∀ name ∈ candidateFiles git commit.worktree, strip name ≠ []) :
    commit.prompt =
      buildEvaluatorPrompt run.frame (completeDiff git run.baseSha commit.worktree) := by
  obtain ⟨diffText, captured, current, hworktree, hprompt, -, -, hcurrent⟩ := reviewAndCommit_eq_ok h
  rw [hworktree] at hnames ⊢
  rw [hprompt, candidateReviewDiff_complete hcurrent hnames]

end Whole

/-- The evaluator was given the complete diff of what the run committed. -/
def ShowsCommitted {Files : Type} (git : Git Files) (run : CandidateRun Files)
    (commit : Commit Files) : Prop :=
  completeDiff git run.baseSha commit.worktree <:+: commit.prompt

/-- Candidates with different diffs have different prompts. -/
def TellsApart {Files Files' : Type} (git : Git Files) (git' : Git Files')
    (run : CandidateRun Files) (run' : CandidateRun Files') (commit : Commit Files)
    (commit' : Commit Files') : Prop :=
  completeDiff git run.baseSha commit.worktree ≠ completeDiff git' run'.baseSha commit'.worktree →
    commit.prompt ≠ commit'.prompt

/-- Every run that commits gave its evaluator the complete diff of what it commits, and two such
runs with different diffs gave theirs different prompts, when the candidates are showable and the
diffs texts of Git. -/
theorem commits_reviewed (lower : PyString → PyString) {Files Files' : Type} (git : Git Files)
    (git' : Git Files') (run : CandidateRun Files) (run' : CandidateRun Files')
    (commit : Commit Files) (commit' : Commit Files')
    (h : reviewAndCommit lower git run = .ok commit)
    (h' : reviewAndCommit lower git' run' = .ok commit')
    (hshowable : IsShowable git run.baseSha commit.worktree)
    (hshowable' : IsShowable git' run'.baseSha commit'.worktree) :
    ShowsCommitted git run commit ∧
      (IsDiffText (completeDiff git run.baseSha commit.worktree) →
        IsDiffText (completeDiff git' run'.baseSha commit'.worktree) →
          TellsApart git git' run run' commit commit') := by
  rw [ShowsCommitted, TellsApart, prompt_of_committed h hshowable.names,
    prompt_of_committed h' hshowable'.names]
  refine ⟨infix_buildEvaluatorPrompt hshowable.length, ?_⟩
  intro hdiff hdiff' hne hsame
  exact hne (diffText_unique hdiff hdiff' hshowable.length hshowable'.length hsame)

/-! ## A new file with one line -/

def succeeded (stdout : PyString) : CommandResult where
  returncode := some 0
  stdout := stdout
  stderr := []
  timedOut := false

def newFileHeader (name : PyString) : PyString :=
  py "diff --git a/" ++ name ++ py " b/" ++ name ++ py "\nnew file mode 100644\n" ++
    py "index 0000000000000000000000000000000000000000..c9d138851fd6c1314d3825b2d1f569977be91328\n" ++
    py "--- /dev/null\n+++ b/" ++ name ++ py "\n@@ -0,0 +1 @@\n+"

def oneFileGit (name line : PyString) (hname : ∀ c ∈ name, isLineBoundary c = false) : Git Unit where
  lsFiles checkout := succeeded (if name ∈ checkout.index then [] else name ++ [0x0A])
  addIntent _ _ := succeeded []
  diff checkout _ :=
    succeeded (if name ∈ checkout.index then newFileHeader name ++ (line ++ [0x0A]) else [])
  newFiles checkout := if name ∈ checkout.index then [] else [name]
  listed := by
    intro checkout _
    by_cases hknown : name ∈ checkout.index
    · simp [succeeded, hknown]
    · simp [succeeded, hknown]
  inline := by
    intro checkout other hother
    by_cases hknown : name ∈ checkout.index
    · simp [hknown] at hother
    · simp only [if_neg hknown, List.mem_singleton] at hother
      rw [hother]
      exact hname

def sampleFrame : PromptFrame where
  runId := py "run-1"
  taskId := py "T-1"
  title := py "Add a note"
  goal := py "A note"
  acceptance := [py "The note is there"]
  results := [(py "npm test", true)]
  builderMessage := py "done"

def greenRun : CandidateRun Unit where
  baseSha := py "0a1b2c"
  frame := sampleFrame
  built := ⟨(), []⟩
  providerFailure := none
  evaluator _ := succeeded (py "AUTODEV_REVIEW: Green | fine")
  reviewed := ⟨(), []⟩
  safetyErrors := []
  commit := .ok (py "3d4e5f")

section OneFile

variable {name : PyString} (line : PyString) (hname : ∀ c ∈ name, isLineBoundary c = false)

section

variable (hartifact : isRuntimeArtifactPath name = false)

include hartifact

theorem candidateFiles_oneFile : candidateFiles (oneFileGit name line hname) ⟨(), []⟩ = [name] := by
  simp [candidateFiles, oneFileGit, hartifact]

theorem completeDiff_oneFile :
    completeDiff (oneFileGit name line hname) greenRun.baseSha ⟨(), []⟩ =
      newFileHeader name ++ (line ++ [0x0A]) := by
  rw [completeDiff, candidateFiles_oneFile line hname hartifact]
  simp [oneFileGit, Checkout.intend, succeeded]

theorem candidateReviewDiff_oneFile (hstrip : strip name ≠ []) :
    candidateReviewDiff (oneFileGit name line hname) ⟨(), []⟩ greenRun.baseSha =
      .ok (⟨(), [name]⟩, newFileHeader name ++ (line ++ [0x0A])) := by
  have hfiles := candidateFiles_oneFile line hname hartifact
  have hpaths : listedPaths ((oneFileGit name line hname).lsFiles ⟨(), []⟩).stdout = [name] := by
    rw [listedPaths_eq rfl, hfiles]
    rw [hfiles]
    simpa using hstrip
  have hbase : requireBase greenRun.baseSha = .ok () := rfl
  have hlisted : ∀ problem,
      require ((oneFileGit name line hname).lsFiles ⟨(), []⟩) problem = .ok () := fun _ => rfl
  have hintent : stageIntent (oneFileGit name line hname) ⟨(), []⟩ [name] = .ok () := rfl
  have hdiff : ∀ checkout problem, require ((oneFileGit name line hname).diff checkout
      greenRun.baseSha) problem = .ok () := fun _ _ => rfl
  simp only [candidateReviewDiff, hbase, hlisted, hpaths, hintent, hdiff, ok_bind]
  simp [oneFileGit, Checkout.intend, succeeded, pure, Except.pure]

theorem reviewAndCommit_greenRun (hstrip : strip name ≠ []) :
    reviewAndCommit asciiLower (oneFileGit name line hname) greenRun = .ok
      ⟨buildEvaluatorPrompt sampleFrame (newFileHeader name ++ (line ++ [0x0A])), ⟨(), []⟩,
        py "3d4e5f"⟩ := by
  have hcapture := candidateReviewDiff_oneFile line hname hartifact hstrip
  have hpasses : (reviewOf asciiLower sampleFrame
      (succeeded (py "AUTODEV_REVIEW: Green | fine"))).shouldBlock = false := by decide +kernel
  have hbuilt : candidateReviewDiff (oneFileGit name line hname) greenRun.built greenRun.baseSha =
    .ok (⟨(), [name]⟩, newFileHeader name ++ (line ++ [0x0A])) := hcapture
  have hreviewed : candidateReviewDiff (oneFileGit name line hname) greenRun.reviewed
    greenRun.baseSha = .ok (⟨(), [name]⟩, newFileHeader name ++ (line ++ [0x0A])) := hcapture
  have hgate : (runEvaluatorGate asciiLower greenRun.evaluator greenRun.frame
    (newFileHeader name ++ (line ++ [0x0A]))).shouldBlock = false := hpasses
  rw [reviewAndCommit, hbuilt, hreviewed]
  simp only [failing, Except.mapError, ok_bind, hgate]
  simp [ensure, greenRun, ok_bind, pure, Except.pure]

end

end OneFile

def oneFileCommit (name line : PyString) : Commit Unit where
  prompt := buildEvaluatorPrompt sampleFrame (newFileHeader name ++ (line ++ [0x0A]))
  worktree := ⟨(), []⟩
  sha := py "3d4e5f"

/-- Two candidates with a short line each. -/
theorem commits_reviewed_oneFile :
    ShowsCommitted (oneFileGit (py "a.txt") (py "one") (by decide)) greenRun
        (oneFileCommit (py "a.txt") (py "one")) ∧
      TellsApart (oneFileGit (py "a.txt") (py "one") (by decide))
        (oneFileGit (py "b.txt") (py "one") (by decide)) greenRun greenRun
          (oneFileCommit (py "a.txt") (py "one")) (oneFileCommit (py "b.txt") (py "one")) := by
  have hcommits := commits_reviewed asciiLower
    (oneFileGit (py "a.txt") (py "one") (by decide)) (oneFileGit (py "b.txt") (py "one") (by decide))
    greenRun greenRun (oneFileCommit (py "a.txt") (py "one")) (oneFileCommit (py "b.txt") (py "one"))
    (reviewAndCommit_greenRun (py "one") (by decide) (by decide) (by decide))
    (reviewAndCommit_greenRun (py "one") (by decide) (by decide) (by decide))
    ⟨by decide, by decide +kernel⟩ ⟨by decide, by decide +kernel⟩
  exact ⟨hcommits.1, hcommits.2 ⟨by decide +kernel, by unfold FreeOfHeading; decide +kernel⟩
    ⟨by decide +kernel, by unfold FreeOfHeading; decide +kernel⟩⟩

def longLine : PyString :=
  List.replicate diffLimit 0x78

theorem prompt_longLine (name : PyString) : (oneFileCommit name longLine).prompt =
    joinLines (frameLines sampleFrame) ++ (diffHeading ++
      ((List.replicate 19999 0x78 ++ [0x0A]) ++ py "\n```\n")) := by
  have hline : newFileHeader name ++ (longLine ++ [0x0A]) =
      (newFileHeader name ++ [0x78]) ++ (List.replicate 19999 0x78 ++ [0x0A]) := by
    rw [longLine, diffLimit, List.replicate_succ]
    simp only [List.append_assoc, List.cons_append, List.nil_append]
  have hlength : (List.replicate 19999 0x78 ++ [0x0A] : PyString).length = diffLimit := by
    rw [List.length_append, List.length_replicate]
    rfl
  rw [oneFileCommit, hline, buildEvaluatorPrompt_eq, shownDiff_append hlength]

/-- Two candidates with a long line each: neither is shown, and their prompts are the same. -/
theorem not_commits_reviewed :
    reviewAndCommit asciiLower (oneFileGit (py "a.txt") longLine (by decide)) greenRun =
        .ok (oneFileCommit (py "a.txt") longLine) ∧
      reviewAndCommit asciiLower (oneFileGit (py "b.txt") longLine (by decide)) greenRun =
        .ok (oneFileCommit (py "b.txt") longLine) ∧
      ¬ ShowsCommitted (oneFileGit (py "a.txt") longLine (by decide)) greenRun
        (oneFileCommit (py "a.txt") longLine) ∧
      ¬ TellsApart (oneFileGit (py "a.txt") longLine (by decide))
        (oneFileGit (py "b.txt") longLine (by decide)) greenRun greenRun
          (oneFileCommit (py "a.txt") longLine) (oneFileCommit (py "b.txt") longLine) := by
  refine ⟨reviewAndCommit_greenRun longLine (by decide) (by decide) (by decide),
    reviewAndCommit_greenRun longLine (by decide) (by decide) (by decide), ?_, ?_⟩
  · -- The header has an at sign, and the prompt has none.
    rw [ShowsCommitted, prompt_longLine]
    intro hshows
    have hsign : 0x40 ∈ completeDiff (oneFileGit (py "a.txt") longLine (by decide)) greenRun.baseSha
        (oneFileCommit (py "a.txt") longLine).worktree := by
      rw [oneFileCommit, completeDiff_oneFile longLine (by decide) (by decide)]
      exact List.mem_append_left _ (by decide)
    have hframe : 0x40 ∉ joinLines (frameLines sampleFrame) := by decide +kernel
    have hsection : 0x40 ∉ diffHeading := by decide
    have hends : 0x40 ∉ py "\n```\n" := by decide
    have hshown : 0x40 ∉ List.replicate 19999 0x78 ++ [0x0A] := by
      rw [List.mem_append, not_or]
      exact ⟨fun hmem => absurd (List.eq_of_mem_replicate hmem) (by decide), by decide⟩
    rcases List.mem_append.mp (hshows.subset hsign) with hmem | hmem
    · exact hframe hmem
    rcases List.mem_append.mp hmem with hmem | hmem
    · exact hsection hmem
    rcases List.mem_append.mp hmem with hmem | hmem
    · exact hshown hmem
    · exact hends hmem
  · intro hapart
    refine hapart ?_ ((prompt_longLine _).trans (prompt_longLine _).symm)
    rw [oneFileCommit, oneFileCommit, completeDiff_oneFile longLine (by decide) (by decide),
      completeDiff_oneFile longLine (by decide) (by decide)]
    intro hsame
    have hheaders := List.append_cancel_right hsame
    exact absurd hheaders (by decide)

end DevHarness.CandidateCommit
