import DevHarness.CandidateCommit.StagedPaths

/-!
# Forbidden paths

`check_project_safety_policy` reads the changed paths from the lines that Git prints for people, and
compares each line with the patterns of the forbidden paths.
-/

namespace DevHarness.CandidateCommit

open JsText PyText

def utf8Octets (c : CodePoint) : List ℕ :=
  if c < 0x80 then [c]
  else if c < 0x800 then [0xC0 + c / 64, 0x80 + c % 64]
  else if c < 0x10000 then [0xE0 + c / 4096, 0x80 + c / 64 % 64, 0x80 + c % 64]
  else [0xF0 + c / 262144, 0x80 + c / 4096 % 64, 0x80 + c / 64 % 64, 0x80 + c % 64]

def octal (octet : ℕ) : PyString :=
  [0x5C, 0x30 + octet / 64 % 8, 0x30 + octet / 8 % 8, 0x30 + octet % 8]

def isSpecial (c : CodePoint) : Bool :=
  c < 0x20 || 0x7F ≤ c || c == 0x22 || c == 0x5C

def cEscaped (c : CodePoint) : PyString :=
  if c = 0x22 ∨ c = 0x5C then [0x5C, c]
  else if 0x07 ≤ c ∧ c ≤ 0x0D then 0x5C :: ((py "abtnvfr").drop (c - 0x07)).take 1
  else if isSpecial c then (utf8Octets c).flatMap octal
  else [c]

/-- A path as Git prints it, with `core.quotePath` as it is by default. -/
def cQuoted (path : PyString) : PyString :=
  if path.any isSpecial then 0x22 :: path.flatMap cEscaped ++ [0x22] else path

/-- What has changed between the base commit and the worktree; of the untracked paths, those that
are not ignored. -/
structure Changes where
  tracked : List Change
  untracked : List PyString

/-- The path of a change in `git diff --name-only`: of a renaming the destination. -/
def Change.printedPath : Change → PyString
  | .added path => path
  | .modified path => path
  | .deleted path => path
  | .retyped path => path
  | .renamed _ _ destination => destination
  | .copied _ _ destination => destination

def Change.touched : Change → List PyString
  | .copied _ _ destination => [destination]
  | change => change.paths

def printLines (paths : List PyString) : PyString :=
  (paths.map cQuoted).flatMap fun text => text ++ [0x0A]

/-! ## The check -/

structure GitRun where
  returncode : ℤ
  stdout : PyString
  stderr : PyString

/-- `safety.external_write_policy`. -/
inductive ExternalWritePolicy
  | dryRunOnly
  | notificationsOnly
  | pushAndNotifications

/-- The configuration, as far as the check reads it. -/
structure SafetyConfig where
  push : Bool
  notificationsMode : PyString
  declared : Bool
  forbiddenPaths : List PyString
  secretPatterns : List PyString
  externalWritePolicy : ExternalWritePolicy

/-- What the check is given from outside: the commands, with the text of an `OSError`, `str.lower`,
`fnmatch.fnmatch` of a path and a pattern, and `re`: the search for a pattern, or the text of its
`re.error`. -/
structure Platform where
  run : List PyString → Except PyString GitRun
  lower : PyString → PyString
  fnmatch : PyString → PyString → Bool
  search : PyString → Except PyString (PyString → Bool)

section Check

variable (platform : Platform)

def joinWords (args : List PyString) : PyString :=
  [0x20].intercalate args

/-- `_git_text`; an error carries the text of the `PolicyGitReadError`. -/
def gitText (args : List PyString) : Except PyString PyString :=
  match platform.run args with
  | .error reason => .error (py "git " ++ joinWords args ++ py " failed to launch: " ++ reason)
  | .ok result =>
    if result.returncode = 0 ∨ result.returncode = 1 then .ok (universalNewlines result.stdout)
    else
      let output := if result.stderr = [] then result.stdout else result.stderr
      let reason := ((splitlines (strip (universalNewlines output))).head?).getD
        (py "exit code " ++ py (toString result.returncode))
      .error (py "git " ++ joinWords args ++ py " exited " ++ py (toString result.returncode) ++
        py ": " ++ reason)

/-- The lines of a text, without blanks at their ends, as far as something is left. -/
def strippedLines (text : PyString) : List PyString :=
  ((splitlines text).map strip).filter fun line => line ≠ []

/-- Leading `./` are dropped. -/
def withoutDots : PyString → PyString
  | 0x2E :: 0x2F :: rest => withoutDots rest
  | path => path

def isRuntimeArtifactPath (path : PyString) : Bool :=
  Workspace.isRuntimeArtifact (withoutDots (normalized path))

def untrackedPaths : Except PyString (List PyString) := do
  let text ← gitText platform [py "ls-files", py "--others", py "--exclude-standard"]
  pure ((strippedLines text).filter fun line => ¬ isRuntimeArtifactPath line)

def nameCommands (baseRef : PyString) : List (List PyString) :=
  if baseRef ≠ [] then [[py "diff", py "--name-only", baseRef, py "--", py "."]]
  else
    [[py "diff", py "--name-only", py "--", py "."],
      [py "diff", py "--cached", py "--name-only", py "--", py "."]]

def changedPaths (baseRef : PyString) : Except PyString (List PyString) := do
  let texts ← (nameCommands baseRef).mapM (gitText platform)
  let untracked ← untrackedPaths platform
  pure (texts.flatMap strippedLines ++ untracked).eraseDups

def diffCommands (baseRef : PyString) : List (List PyString) :=
  if baseRef ≠ [] then
    [[py "diff", py "--unified=0", py "--no-ext-diff", baseRef, py "--", py "."]]
  else
    [[py "diff", py "--unified=0", py "--no-ext-diff", py "--", py "."],
      [py "diff", py "--cached", py "--unified=0", py "--no-ext-diff", py "--", py "."]]

def diffText (baseRef : PyString) : Except PyString PyString := do
  let chunks ← (diffCommands baseRef).mapM (gitText platform)
  let untracked ← untrackedPaths platform
  let added ← untracked.mapM fun path => gitText platform
    [py "diff", py "--no-index", py "--unified=0", py "--no-ext-diff", py "--", py "/dev/null", path]
  pure ([0x0A].intercalate ((chunks ++ added).filter fun chunk => chunk ≠ []))

def pathMatches (path pattern : PyString) : Bool :=
  platform.fnmatch (normalized path) (normalized pattern) ||
    (normalized pattern).rdropWhile (· = 0x2F) ++ [0x2F] <+: normalized path

def externalWriteErrors (config : SafetyConfig) : List PyString :=
  let realNotifications := platform.lower (strip config.notificationsMode) = py "real"
  let errorIf (holds : Bool) (message : String) : List PyString :=
    if holds then [py message] else []
  if ¬ config.declared then
    errorIf config.push "branch.push=true requires an explicit safety.external_write_policy" ++
      errorIf realNotifications
        "notifications.mode=real requires an explicit safety.external_write_policy"
  else
    match config.externalWritePolicy with
    | .dryRunOnly =>
      errorIf config.push
          "branch.push=true is blocked by safety.external_write_policy=dry_run_only" ++
        errorIf realNotifications
          "notifications.mode=real is blocked by safety.external_write_policy=dry_run_only"
    | .notificationsOnly =>
      errorIf config.push
        "branch.push=true is blocked by safety.external_write_policy=notifications_only"
    | .pushAndNotifications => []

def forbiddenErrors (config : SafetyConfig) (changed : List PyString) : List PyString :=
  changed.flatMap fun path => (config.forbiddenPaths.filter (pathMatches platform path)).map
    fun pattern => py "changed path is forbidden by safety.forbidden_paths: " ++ path ++
      py " matches " ++ pattern

def secretErrors (config : SafetyConfig) (text : PyString) : List PyString :=
  config.secretPatterns.flatMap fun pattern =>
    match platform.search pattern with
    | .error reason =>
      [py "invalid safety.secret_patterns regex " ++ quoted pattern ++ py ": " ++ reason]
    | .ok found =>
      if found text then [py "diff matches safety.secret_patterns: " ++ pattern] else []

def checkProjectSafetyPolicy (config : SafetyConfig) (baseRef : PyString) : List PyString :=
  let errors := externalWriteErrors platform config
  match (do
    let changed ← changedPaths platform baseRef
    let text ← diffText platform baseRef
    pure (changed, text) : Except PyString (List PyString × PyString)) with
  | .error reason => errors ++ [py "safety policy git read failed: " ++ reason]
  | .ok (changed, text) =>
    errors ++ forbiddenErrors platform config changed ++ secretErrors platform config text

end Check

/-! ## What is asked of the check -/

/-- What is assumed of Git: there is a base commit, and the commands print the changes since. -/
structure Shows (platform : Platform) (baseRef : PyString) (changes : Changes) : Prop where
  based : baseRef ≠ []
  tracked : ∃ stderr, platform.run [py "diff", py "--name-only", baseRef, py "--", py "."] =
    .ok { returncode := 0, stdout := printLines (changes.tracked.map Change.printedPath), stderr }
  untracked : ∃ stderr,
    platform.run [py "ls-files", py "--others", py "--exclude-standard"] =
      .ok { returncode := 0, stdout := printLines changes.untracked, stderr }

namespace Changes

variable (changes : Changes)

/-- The old and new paths of the changes, outside the untracked runtime artifacts. -/
def touched : List PyString :=
  changes.tracked.flatMap Change.touched ++
    changes.untracked.filter fun path => ¬ Workspace.isRuntimeArtifact path

def lines : List PyString :=
  (changes.tracked.map fun change => strip (cQuoted change.printedPath)) ++
    (changes.untracked.map fun path => strip (cQuoted path)).filter fun line =>
      ¬ isRuntimeArtifactPath line

/-- Some line is the path, up to the direction of its slashes. -/
def Spelled (path : PyString) : Prop :=
  ∃ line ∈ changes.lines, normalized line = normalized path

/-- Some line lies below the path. -/
def Below (path : PyString) : Prop :=
  ∃ line ∈ changes.lines, (normalized path).rdropWhile (· = 0x2F) ++ [0x2F] <+: normalized line

end Changes

/-- A forbidden path that is touched leads to an error. -/
def Noticed (platform : Platform) (baseRef : PyString) (changes : Changes) (config : SafetyConfig) :
    Prop :=
  ∀ path ∈ changes.touched, ∀ pattern ∈ config.forbiddenPaths,
    pathMatches platform path pattern = true → checkProjectSafetyPolicy platform config baseRef ≠ []

/-- What `fnmatch` documents of patterns without `*`, `?` and `[`. -/
def MatchesLiterally (fnmatch : PyString → PyString → Bool) : Prop :=
  ∀ path pattern, (∀ c ∈ py "*?[", c ∉ pattern) → (fnmatch path pattern = true ↔ path = pattern)

section Lines

variable {path : PyString} {paths : List PyString} {c d : ℕ}

theorem visible_octal {octet : ℕ} (hc : c ∈ octal octet) : 0x20 ≤ c ∧ c < 0x7F := by
  simp only [octal, List.mem_cons, List.not_mem_nil, or_false] at hc
  omega

theorem visible_letters : ∀ c ∈ py "abtnvfr", 0x20 ≤ c ∧ c < 0x7F := by
  decide

theorem visible_of_not_isSpecial (h : ¬ isSpecial c = true) : 0x20 ≤ c ∧ c < 0x7F := by
  simp only [isSpecial, Bool.or_eq_true, decide_eq_true_eq, not_or] at h
  exact ⟨Nat.not_lt.mp h.1.1.1, Nat.not_le.mp h.1.1.2⟩

theorem visible_cEscaped (hc : c ∈ cEscaped d) : 0x20 ≤ c ∧ c < 0x7F := by
  rw [cEscaped] at hc
  split at hc
  · next hd =>
      rcases List.mem_cons.mp hc with rfl | hc
      · decide
      · rw [List.mem_singleton.mp hc]
        rcases hd with rfl | rfl
        · decide
        · decide
  · split at hc
    · rcases List.mem_cons.mp hc with rfl | hletter
      · decide
      · exact visible_letters c (List.mem_of_mem_drop (List.mem_of_mem_take hletter))
    · split at hc
      · obtain ⟨octet, -, hoctet⟩ := List.mem_flatMap.mp hc
        exact visible_octal hoctet
      · next hplain =>
          rw [List.mem_singleton.mp hc]
          exact visible_of_not_isSpecial hplain

theorem visible_cQuoted (hc : c ∈ cQuoted path) : 0x20 ≤ c ∧ c < 0x7F := by
  rw [cQuoted] at hc
  split at hc
  · rw [List.mem_append, List.mem_cons, List.mem_singleton, List.mem_flatMap] at hc
    rcases hc with (rfl | ⟨d, -, hd⟩) | rfl
    · decide
    · exact visible_cEscaped hd
    · decide
  · next hplain =>
      simp only [List.any_eq_true, not_exists, not_and] at hplain
      exact visible_of_not_isSpecial (hplain c hc)

theorem isLineBoundary_of_visible (h : 0x20 ≤ c ∧ c < 0x7F) : isLineBoundary c = false := by
  obtain ⟨hlow, hhigh⟩ := h
  interval_cases c <;> rfl

theorem strippedLines_printLines : strippedLines (universalNewlines (printLines paths)) =
    (paths.map fun path => strip (cQuoted path)).filter fun line => line ≠ [] := by
  have hreturn : 0x0D ∉ printLines paths := by
    intro hmem
    obtain ⟨text, htext, hmem⟩ := List.mem_flatMap.mp hmem
    obtain ⟨path, -, rfl⟩ := List.mem_map.mp htext
    rcases List.mem_append.mp hmem with hmem | hmem
    · have hvisible := visible_cQuoted hmem
      omega
    · cases List.mem_singleton.mp hmem
  have hlines : splitlines (printLines paths) = paths.map cQuoted := by
    apply splitlines_flatMap
    intro text htext c hc
    obtain ⟨path, -, rfl⟩ := List.mem_map.mp htext
    exact isLineBoundary_of_visible (visible_cQuoted hc)
  rw [universalNewlines_eq_self hreturn, strippedLines, hlines, List.map_map]
  rfl

end Lines

section Errors

variable {platform : Platform} {baseRef : PyString} {changes : Changes} {config : SafetyConfig}
  {path line pattern : PyString}

theorem gitText_of_run {stdout stderr : PyString} {args : List PyString}
    (h : platform.run args = .ok { returncode := 0, stdout, stderr }) :
    gitText platform args = .ok (universalNewlines stdout) := by
  rw [gitText, h]
  exact if_pos (Or.inl rfl)

theorem exists_changedPaths (h : Shows platform baseRef changes) :
    ∃ changed, changedPaths platform baseRef = .ok changed ∧
      ∀ line, line ∈ changed ↔ line ∈ changes.lines ∧ line ≠ [] := by
  obtain ⟨stderr, htracked⟩ := h.tracked
  obtain ⟨stderr', huntracked⟩ := h.untracked
  have hlines : untrackedPaths platform = .ok ((strippedLines (universalNewlines
      (printLines changes.untracked))).filter fun line => ¬ isRuntimeArtifactPath line) := by
    rw [untrackedPaths, gitText_of_run huntracked]
    rfl
  refine ⟨(strippedLines (universalNewlines (printLines (changes.tracked.map
    Change.printedPath))) ++ (strippedLines (universalNewlines
      (printLines changes.untracked))).filter fun line =>
        ¬ isRuntimeArtifactPath line).eraseDups, ?_, ?_⟩
  · rw [changedPaths, nameCommands, if_pos h.based, List.mapM_cons, List.mapM_nil,
      gitText_of_run htracked, hlines]
    simp only [bind, Except.bind, pure, Except.pure, List.flatMap_cons, List.flatMap_nil,
      List.append_nil]
  · intro line
    rw [List.mem_eraseDups, List.mem_append, strippedLines_printLines, strippedLines_printLines,
      Changes.lines, List.mem_append, List.mem_filter, List.mem_filter, List.mem_filter,
      List.mem_filter, List.map_map]
    simp only [decide_eq_true_eq]
    tauto

theorem check_ne_nil (h : Shows platform baseRef changes) (hline : line ∈ changes.lines)
    (hne : line ≠ []) (hpattern : pattern ∈ config.forbiddenPaths)
    (hmatches : pathMatches platform line pattern = true) :
    checkProjectSafetyPolicy platform config baseRef ≠ [] := by
  obtain ⟨changed, hchanged, hmem⟩ := exists_changedPaths h
  rw [checkProjectSafetyPolicy, hchanged]
  cases htext : diffText platform baseRef with
  | error reason =>
      intro hnil
      exact List.cons_ne_nil _ _ (List.append_eq_nil_iff.mp hnil).2
  | ok text =>
      intro hnil
      have hnone := (List.append_eq_nil_iff.mp (List.append_eq_nil_iff.mp hnil).1).2
      have hline' := List.flatMap_eq_nil_iff.mp hnone line ((hmem line).mpr ⟨hline, hne⟩)
      rw [List.map_eq_nil_iff, List.filter_eq_nil_iff] at hline'
      exact hline' pattern hpattern hmatches

theorem pathMatches_congr (h : normalized line = normalized path) :
    pathMatches platform line pattern = pathMatches platform path pattern := by
  rw [pathMatches, pathMatches, h]

theorem noticed_of_spelled (h : Shows platform baseRef changes)
    (hne : ∀ path ∈ changes.touched, path ≠ [])
    (hspelled : ∀ path ∈ changes.touched, changes.Spelled path) :
    Noticed platform baseRef changes config := by
  intro path hpath pattern hpattern hmatches
  obtain ⟨line, hline, hsame⟩ := hspelled path hpath
  rw [← pathMatches_congr hsame] at hmatches
  apply check_ne_nil h hline _ hpattern hmatches
  intro hnil
  rw [hnil] at hsame
  exact hne path hpath (List.map_eq_nil_iff.mp hsame.symm)

def forbidding (pattern : PyString) : SafetyConfig where
  push := false
  notificationsMode := []
  declared := true
  forbiddenPaths := [pattern]
  secretPatterns := []
  externalWritePolicy := .pushAndNotifications

/-- Where the commands succeed, one forbidden path leads to an error only through a line. -/
theorem exists_line_of_check (h : Shows platform baseRef changes) {text : PyString}
    (htext : diffText platform baseRef = .ok text)
    (hcheck : checkProjectSafetyPolicy platform (forbidding pattern) baseRef ≠ []) :
    ∃ line ∈ changes.lines, pathMatches platform line pattern = true := by
  obtain ⟨changed, hchanged, hmem⟩ := exists_changedPaths h
  by_contra hnone
  push Not at hnone
  apply hcheck
  rw [checkProjectSafetyPolicy, hchanged, htext]
  have hforbidden : forbiddenErrors platform (forbidding pattern) changed = [] := by
    rw [forbiddenErrors, List.flatMap_eq_nil_iff]
    intro line hline
    rw [List.map_eq_nil_iff, List.filter_eq_nil_iff]
    intro other hother
    rw [List.mem_singleton.mp hother]
    exact hnone line ((hmem line).mp hline).1
  exact List.append_eq_nil_iff.mpr ⟨hforbidden, rfl⟩

theorem spelled_of_noticed (h : Shows platform baseRef changes) {text : PyString}
    (htext : diffText platform baseRef = .ok text)
    (hliteral : MatchesLiterally platform.fnmatch)
    (hnoticed : ∀ config, Noticed platform baseRef changes config) (hpath : path ∈ changes.touched)
    (hfree : ∀ c ∈ py "*?[", c ∉ path) : changes.Spelled path ∨ changes.Below path := by
  have hfree' : ∀ c ∈ py "*?[", c ∉ normalized path := by
    intro c hc hmem
    obtain ⟨d, hd, hsame⟩ := List.mem_map.mp hmem
    by_cases hslash : d = 0x5C
    · rw [if_pos hslash] at hsame
      subst hsame
      revert hc
      decide
    · rw [if_neg hslash] at hsame
      rw [hsame] at hd
      exact hfree c hc hd
  have hself : pathMatches platform path path = true := by
    rw [pathMatches, Bool.or_eq_true]
    exact Or.inl ((hliteral _ _ hfree').mpr rfl)
  have hcheck := hnoticed (forbidding path) path hpath path (List.mem_singleton_self _) hself
  obtain ⟨line, hline, hmatches⟩ := exists_line_of_check h htext hcheck
  rw [pathMatches, Bool.or_eq_true, decide_eq_true_eq] at hmatches
  rcases hmatches with hmatches | hbelow
  · exact Or.inl ⟨line, hline, (hliteral _ _ hfree').mp hmatches⟩
  · exact Or.inr ⟨line, hline, hbelow⟩

/-- When each touched path is spelled by a line, a forbidden one is always noticed; and only then, as
far as paths without wildcards and without lines below them go. -/
theorem forbiddenPaths_noticed (h : Shows platform baseRef changes)
    (hne : ∀ path ∈ changes.touched, path ≠ []) :
    ((∀ path ∈ changes.touched, changes.Spelled path) →
      ∀ config, Noticed platform baseRef changes config) ∧
    ((∃ text, diffText platform baseRef = .ok text) → MatchesLiterally platform.fnmatch →
      (∀ config, Noticed platform baseRef changes config) →
      ∀ path ∈ changes.touched, (∀ c ∈ py "*?[", c ∉ path) →
        changes.Spelled path ∨ changes.Below path) := by
  constructor
  · intro hspelled config
    exact noticed_of_spelled h hne hspelled
  · rintro ⟨text, htext⟩ hliteral hnoticed path hpath hfree
    exact spelled_of_noticed h htext hliteral hnoticed hpath hfree

/-! ### Worktrees -/

/-- A repository whose commands print the changes since `main`. -/
def showing (changes : Changes) : Platform where
  run := fun args => .ok
    { returncode := 0
      stdout :=
        if args = [py "diff", py "--name-only", py "main", py "--", py "."] then
          printLines (changes.tracked.map Change.printedPath)
        else if args = [py "ls-files", py "--others", py "--exclude-standard"] then
          printLines changes.untracked
        else []
      stderr := [] }
  lower := id
  fnmatch := fun path pattern => decide (path = pattern)
  search := fun _ => .error (py "bad pattern")

theorem shows_showing (changes : Changes) : Shows (showing changes) (py "main") changes where
  based := by decide
  tracked := ⟨[], rfl⟩
  untracked := ⟨[], rfl⟩

def editedKey : Changes where
  tracked := [.modified (py "secrets/key.pem")]
  untracked := []

def movedKey : Changes where
  tracked := [.renamed 100 (py "secrets/key.pem") (py "notes/key.pem")]
  untracked := []

theorem editedKey_noticed : checkProjectSafetyPolicy (showing editedKey) (forbidding (py "secrets"))
    (py "main") ≠ [] := by
  have hspelled : ∀ path ∈ editedKey.touched, editedKey.Spelled path := by
    intro path hpath
    rw [List.mem_singleton.mp hpath]
    exact ⟨_, List.mem_singleton_self _, by decide +kernel⟩
  exact (forbiddenPaths_noticed (shows_showing editedKey) (by decide +kernel)).1 hspelled
    (forbidding (py "secrets")) _ (List.mem_singleton_self _) _ (List.mem_singleton_self _)
    (by decide +kernel)

/-- A renaming takes a path out of a forbidden folder without an error. -/
theorem not_noticed :
    ¬ ∀ (platform : Platform) (baseRef : PyString) (changes : Changes) (config : SafetyConfig),
      Shows platform baseRef changes → Noticed platform baseRef changes config := by
  intro h
  have hnoticed := h (showing movedKey) (py "main") movedKey (forbidding (py "secrets"))
    (shows_showing movedKey) (py "secrets/key.pem") List.mem_cons_self (py "secrets")
    (List.mem_singleton_self _) (by decide +kernel)
  revert hnoticed
  decide +kernel

end Errors

end DevHarness.CandidateCommit
