import Mathlib.Data.List.Pairwise
import DevHarness.Text.PyDecimals
import DevHarness.Text.PyLines

/-!
# Paths that never enter a task commit

`_unstage_uncommittable_paths` reads the staged changes as Git lists them, looks at the paths that
are read as added, and takes out of the index those that are machine-local.
-/

namespace DevHarness.CandidateCommit

open JsText PyText

/-! ## What Git says -/

inductive Change
  | added (path : PyString)
  | modified (path : PyString)
  | deleted (path : PyString)
  | retyped (path : PyString)
  | renamed (score : ℕ) (source destination : PyString)
  | copied (score : ℕ) (source destination : PyString)
  deriving DecidableEq

namespace Change

/-- The fields of the change in `git diff --cached --name-status -z`. -/
def fields : Change → List PyString
  | added path => [py "A", path]
  | modified path => [py "M", path]
  | deleted path => [py "D", path]
  | retyped path => [py "T", path]
  | renamed score source destination => [py "R" ++ PyText.padded 3 score, source, destination]
  | copied score source destination => [py "C" ++ PyText.padded 3 score, source, destination]

def paths : Change → List PyString
  | added path => [path]
  | modified path => [path]
  | deleted path => [path]
  | retyped path => [path]
  | renamed _ source destination => [source, destination]
  | copied _ source destination => [source, destination]

/-- The paths of a change are no empty texts, and hold no NUL. -/
def WellFormed (change : Change) : Prop :=
  ∀ path ∈ change.paths, path ≠ [] ∧ 0 ∉ path

end Change

instance Change.decidableWellFormed (change : Change) : Decidable change.WellFormed :=
  inferInstanceAs (Decidable (∀ path ∈ change.paths, path ≠ [] ∧ 0 ∉ path))

/-- The worktree and its repository, as far as they are asked about a path. -/
structure Workspace where
  /-- The parts of the resolved root. -/
  root : List PyString
  /-- Where a path leads that is a symlink: the parts of what it resolves to. -/
  link : PyString → Option (List PyString)
  /-- Whether `.gitignore` ignores the path. -/
  ignored : PyString → Bool
  /-- How Git prints the path. -/
  printed : PyString → PyString
  /-- Whether a path, read as a pattern, takes in another. -/
  takesIn : PyString → PyString → Bool
  /-- Whether `git reset` succeeds on the paths. -/
  resets : List PyString → Bool

namespace Workspace

variable (workspace : Workspace)

def isRuntimeArtifact (path : PyString) : Bool :=
  py ".autodev/runs/" <+: path || py ".autodev/runtime/" <+: path ||
    path = py ".autodev/latest_handoff.md" || py "outputs/autodev/" <+: path

end Workspace

/-- `name.replace("\\", "/")`. -/
def normalized (name : PyString) : PyString :=
  name.map fun c => if c = 0x5C then 0x2F else c

section Fields

variable {change : Change} {changes : List Change} {path name : PyString}
  {status : PyString}

end Fields

section Unstaging

variable {workspace : Workspace} {changes : List Change} {path : PyString} {names : List PyString}
  {change : Change}

end Unstaging

section Result

variable {workspace : Workspace} {changes : List Change} {names : List PyString}

end Result

end DevHarness.CandidateCommit
