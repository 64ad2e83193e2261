import DevHarness.Sequence.Indexed
import DevHarness.Text.Matching
import DevHarness.Text.PyLines
import DevHarness.Text.PyValue

/-!
# The evaluator's review

`parse_evaluator_output` reads a status from the last review marker of an evaluator's output, and
the findings from the lines that have their format.  Both normalise a line first.
-/

namespace DevHarness.CandidateCommit

open JsText PyText Matching Matcher

inductive Priority
  | p0
  | p1
  | p2
  | p3
  deriving DecidableEq

namespace Priority

def text : Priority → PyString
  | p0 => py "P0"
  | p1 => py "P1"
  | p2 => py "P2"
  | p3 => py "P3"

/-- `BLOCKING_PRIORITIES`. -/
def isBlocking (priority : Priority) : Bool :=
  priority = p0 || priority = p1

end Priority

structure ReviewFinding where
  priority : Priority
  file : PyString
  line : PyString
  title : PyString
  impact : PyString
  recommendation : PyString
  deriving DecidableEq

structure EvaluatorReview where
  status : PyString
  message : PyString
  findings : List ReviewFinding
  acceptanceSummary : List PyString
  testsRun : List PyString

def EvaluatorReview.shouldBlock (review : EvaluatorReview) : Bool :=
  if review.status = py "red" ∨ review.status = py "blocked" then true
  else review.findings.any fun finding => finding.priority.isBlocking

/-! ## Normalising a line -/

/-- `str.lstrip()`. -/
def lstrip (s : PyString) : PyString :=
  s.dropWhile isSpace

/-- The loop that takes block quotes off; `fuel` bounds its rounds. -/
def dropQuotesLoop : ℕ → PyString → PyString
  | 0, candidate => candidate
  | fuel + 1, candidate =>
    if py ">" <+: candidate then dropQuotesLoop fuel (lstrip (candidate.drop 1)) else candidate

def dropQuotes (candidate : PyString) : PyString :=
  dropQuotesLoop candidate.length candidate

/-- `\d` of a regular expression. -/
def isDigit (c : CodePoint) : Bool :=
  (digitValue c).isSome

/-- `[-+*]`. -/
def isBullet (c : CodePoint) : Bool :=
  c ∈ py "-+*"

/-- `[.)]`. -/
def isClose (c : CodePoint) : Bool :=
  c ∈ py ".)"

def bulletMarker : Matcher CodePoint Unit := do
  let _ ← one isBullet
  return ()

def numberMarker : Matcher CodePoint Unit := do
  let _ ← greedy1 isDigit
  let _ ← one isClose
  return ()

/-- `(?:[-+*]|\d+[.)])\s+`. -/
def listMarker : Matcher CodePoint Unit := do
  either bulletMarker numberMarker
  let _ ← greedy1 isSpace
  return ()

/-- `re.sub` of a list marker at the head. -/
def dropListMarker (candidate : PyString) : PyString :=
  match (listMarker candidate).head? with
  | some (_, rest) => rest
  | none => candidate

def wrappers : List PyString :=
  [py "```", py "**", py "__", py "`", py "*", py "_"]

def isWrapped (candidate wrapper : PyString) : Bool :=
  wrapper <+: candidate && wrapper <:+ candidate && wrapper.length * 2 < candidate.length

/-- `candidate[len(wrapper) : -len(wrapper)].strip()`. -/
def unwrap (candidate wrapper : PyString) : PyString :=
  strip ((candidate.drop wrapper.length).rdrop wrapper.length)

/-- The loop that takes wrappers off; `fuel` bounds its rounds. -/
def dropWrappersLoop : ℕ → PyString → PyString
  | 0, candidate => candidate
  | fuel + 1, candidate =>
    match wrappers.find? fun wrapper => isWrapped candidate wrapper with
    | some wrapper => dropWrappersLoop fuel (unwrap candidate wrapper)
    | none => candidate

def dropWrappers (candidate : PyString) : PyString :=
  dropWrappersLoop candidate.length candidate

def normalizeMarkerLine (line : PyString) : PyString :=
  dropWrappers (dropQuotes (strip line))

def normalizeFindingLine (line : PyString) : PyString :=
  dropWrappers (dropListMarker (dropQuotes (strip line)))

/-! ## The format of a finding -/

/-- `(P[0-3])`. -/
def priorityGroup : Matcher CodePoint Priority :=
  either (do literal Priority.p0.text; return .p0) <|
  either (do literal Priority.p1.text; return .p1) <|
  either (do literal Priority.p2.text; return .p2) (do literal Priority.p3.text; return .p3)

/-- `[^:\s]`. -/
def isFileUnit (c : CodePoint) : Bool :=
  c ≠ 0x3A && ¬ isSpace c

/-- `.` of a regular expression. -/
def isInline (c : CodePoint) : Bool :=
  c ≠ 0x0A

/-- `(?::(\d+))?`. -/
def lineGroup : Matcher CodePoint (Option PyString) :=
  optional do
    literal (py ":")
    greedy1 isDigit

/-- `\s+\|\s+`, a label, and `\s*`. -/
def opening (label : PyString) : Matcher CodePoint Unit := do
  let _ ← greedy1 isSpace
  literal (py "|")
  let _ ← greedy1 isSpace
  literal label
  let _ ← greedy isSpace
  return ()

def impactLabel : PyString :=
  py "impact:"

def recommendationLabel : PyString :=
  py "recommendation:"

/-- `(?:\s+\|\s+impact:\s*(.*?))?`. -/
def impactGroup : Matcher CodePoint (Option PyString) :=
  optional do
    opening impactLabel
    lazily isInline

/-- `(?:\s+\|\s+recommendation:\s*(.*))?`. -/
def recommendationGroup : Matcher CodePoint (Option PyString) :=
  optional do
    opening recommendationLabel
    greedy isInline

/-- `$`. -/
def lineEnd : Matcher CodePoint Unit :=
  before [[], [0x0A]]

/-- `match.groups()`. -/
structure Groups where
  priority : Priority
  filePath : PyString
  lineNo : Option PyString
  title : PyString
  impact : Option PyString
  recommendation : Option PyString

def recommendationTail (priority : Priority) (filePath : PyString) (lineNo : Option PyString)
    (title : PyString) (impact : Option PyString) : Matcher CodePoint Groups := do
  let recommendation ← recommendationGroup
  lineEnd
  return ⟨priority, filePath, lineNo, title, impact, recommendation⟩

def findingTail (priority : Priority) (filePath : PyString) (lineNo : Option PyString)
    (title : PyString) : Matcher CodePoint Groups := do
  let impact ← impactGroup
  recommendationTail priority filePath lineNo title impact

/-- `pattern`. -/
def findingPattern : Matcher CodePoint Groups := do
  literal (py "[")
  let priority ← priorityGroup
  literal (py "]")
  let _ ← greedy1 isSpace
  let filePath ← greedy1 isFileUnit
  let lineNo ← lineGroup
  let _ ← greedy isSpace
  let title ← lazily isInline
  findingTail priority filePath lineNo title

/-- `(group or default).strip()`. -/
def orDefault (default : PyString) (group : Option PyString) : PyString :=
  strip (match group with
    | some value => if value = [] then default else value
    | none => default)

def defaultTitle : PyString :=
  py "finding"

def defaultImpact : PyString :=
  py "needs steward review"

def defaultRecommendation : PyString :=
  py "fix before continuing"

def Groups.finding (groups : Groups) : ReviewFinding where
  priority := groups.priority
  file := groups.filePath
  line := groups.lineNo.getD []
  title := orDefault defaultTitle (some groups.title)
  impact := orDefault defaultImpact groups.impact
  recommendation := orDefault defaultRecommendation groups.recommendation

def findingOf (line : PyString) : Option ReviewFinding :=
  (findingPattern (normalizeFindingLine line)).head?.map fun way => way.1.finding

def parseFindings (output : PyString) : List ReviewFinding :=
  ((splitlines output).filterMap findingOf).eraseDups

/-! ## The status -/

def reviewMarker : PyString :=
  py "AUTODEV_REVIEW:"

def lastMarker (output : PyString) : Option PyString :=
  ((splitlines output).reverse.map normalizeMarkerLine).find? fun candidate =>
    reviewMarker <+: candidate

def payload (candidate : PyString) : PyString :=
  strip (candidate.drop reviewMarker.length)

/-- `payload.partition("|")`, less the bar. -/
def partition (s : PyString) : PyString × PyString :=
  (s.takeWhile (· ≠ 0x7C), (s.dropWhile (· ≠ 0x7C)).drop 1)

section Parsing

variable (lower : PyString → PyString)

def verdict (candidate : PyString) : PyString :=
  lower (strip (partition (payload candidate)).1)

def markerStatus (marker : Option PyString) : PyString × PyString :=
  match marker with
  | none => (py "blocked", py "review marker absent")
  | some candidate =>
    (if verdict lower candidate = [] then py "yellow" else verdict lower candidate,
      strip (partition (payload candidate)).2)

def knownStatuses : List PyString :=
  [py "green", py "yellow", py "red", py "blocked"]

/-- `parse_evaluator_output`; `acceptance` and `commands` are what is read of the task and of the
evidence. -/
def parseEvaluatorOutput (output : PyString) (acceptance commands : List PyString) :
    EvaluatorReview :=
  let (status, message) := markerStatus lower (lastMarker output)
  let known := status ∈ knownStatuses
  { status := if known then status else py "blocked"
    message :=
      if known then message else strip (py "unknown review status " ++ status ++ py ": " ++ message)
    findings := parseFindings output
    acceptanceSummary := acceptance.map fun item => item ++ py ": listed for review"
    testsRun := commands.filter fun item => item ≠ [] }

end Parsing

end DevHarness.CandidateCommit
