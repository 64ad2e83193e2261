import DevHarness.Delivery.Orchestrator
import DevHarness.Text.Patterns

/-!
# The creation of commits

`createCommit` of the Git adapter.  Where the head has left the baseline it looks for its own
earlier commit, which it knows by the message: the message that was asked for against the one
that Git prints, after Git has cleaned it up and the adapter has redacted the output.
-/

namespace DevHarness.Delivery

open JsText

/-- The pattern `(authorization:\s*(?:basic|bearer)\s+)[^\s]+`; the first group stays. -/
def authorization (s : JsString) : Option (JsString × ℕ) :=
  (splitWord (js "authorization:") s).bind fun (name, rest) =>
    let space := rest.takeWhile isWhiteSpace
    let rest := rest.dropWhile isWhiteSpace
    (["basic", "bearer"].findSome? fun word => splitWord (js word) rest).bind fun (word, rest) =>
      let space' := rest.takeWhile isWhiteSpace
      let value := (rest.dropWhile isWhiteSpace).takeWhile fun u => !isWhiteSpace u
      let kept := name ++ space ++ word ++ space'
      if space' = [] ∨ value = [] then none
      else some (kept ++ js "[REDACTED]", kept.length + value.length)

def pathBelow (directories : List String) (s : JsString) : Option (JsString × ℕ) :=
  (directories.find? fun directory => (js directory).isPrefixOf s).bind fun directory =>
    let rest := (s.drop (js directory).length).takeWhile fun u => !isWhiteSpace u
    if rest = [] then none
    else some (js "[REDACTED_PATH]", (js directory).length + rest.length)

/-- `redact` without secret values. -/
def redact (value : JsString) : JsString :=
  replaceAll (pathBelow ["/tmp/"]) 0
    (replaceAll (pathBelow ["/Users/", "/home/"]) 0 (replaceAll authorization 0 value))

/-- What the adapter sees of an output: `run` redacts it, and `git` again. -/
def shownOutput (stdout : JsString) : JsString :=
  redact (redact stdout)

def isSurrogate (u : UInt16) : Bool :=
  0xD800 ≤ u ∧ u ≤ 0xDFFF

/-- An argument of a process: a surrogate without its partner becomes U+FFFD. -/
def wellFormed : JsString → JsString
  | [] => []
  | [u] => if isSurrogate u then [0xFFFD] else [u]
  | u :: v :: rest =>
    if (0xD800 ≤ u ∧ u ≤ 0xDBFF) ∧ (0xDC00 ≤ v ∧ v ≤ 0xDFFF) then u :: v :: wellFormed rest
    else (if isSurrogate u then 0xFFFD else u) :: wellFormed (v :: rest)

def isGitSpace (u : UInt16) : Bool :=
  u = 0x20 ∨ u = 0x9 ∨ u = 0xA ∨ u = 0xD

/-- The lines that are not empty, with one empty line where there were some in between. -/
def closedUp : Bool → Bool → List JsString → JsString
  | _, _, [] => []
  | started, _, [] :: lines => closedUp started true lines
  | started, gap, line :: lines =>
    (if started && gap then js "\n" else []) ++ line ++ js "\n" ++ closedUp true false lines

/-- `git stripspace`, the default cleanup of a message that is not edited. -/
def stripspace (message : JsString) : JsString :=
  closedUp false false ((message.splitOn 0xA).map fun line => line.rdropWhile isGitSpace)

/-! ## The repository -/

/-- `SHA.test`. -/
def validSha (sha : JsString) : Bool :=
  (sha.length = 40 ∨ sha.length = 64) ∧
    sha.all fun u => (0x30 ≤ u && u ≤ 0x39) || (0x61 ≤ u && u ≤ 0x66)

/-- A worktree of Git, as far as the adapter asks: its branch, its head with the parent and the
message, and what `status` prints. -/
structure Repository where
  branch : Option JsString
  head : JsString
  parent : Option JsString
  message : JsString
  status : JsString
  named : validSha head = true

/-- Git's own doing: the name of a new commit, where `commit` succeeds, `status` once
everything is staged, and the output of `show --stat`. -/
structure Git where
  commit : Repository → JsString → Option JsString
  staged : Repository → JsString
  summary : Repository → JsString
  valid : ∀ repo message sha, commit repo message = some sha → validSha sha = true
  fresh : ∀ repo message sha, commit repo message = some sha → sha ≠ repo.head

def Repository.after (repo : Repository) (sha message : JsString) (h : validSha sha = true) :
    Repository where
  branch := repo.branch
  head := sha
  parent := some repo.head
  message := stripspace (wellFormed message)
  status := []
  named := h

inductive CommitError
  | invalidTarget
  | invalidMessage
  | commandFailed
  | wrongBranch
  | movedWithChanges
  | unrecognizedCommit
  | noChanges
  | invalidSha

/-- `BRANCH.test`. -/
def validBranch (branch : JsString) : Bool :=
  (branch.head?.any isLetterOrDigit) ∧ branch.length ≤ 255 ∧
    (branch.all fun u => isLetterOrDigit u || u ∈ js "._/-") ∧
    (branch.tails.all fun rest =>
      !(js "..").isPrefixOf rest && !(js "/.").isPrefixOf rest &&
        !(js ".lock/").isPrefixOf rest && rest ≠ js ".lock")

/-- `assertTarget`. -/
def CommitRequest.validTarget (request : CommitRequest) : Bool :=
  request.worktreePath.head? = some 0x2F ∧ 0 ∉ request.worktreePath ∧
    validBranch request.branch ∧ validSha request.baselineSha

def CommitRequest.validMessage (request : CommitRequest) : Bool :=
  trim request.message ≠ [] ∧ request.message.length ≤ 4000 ∧ 0 ∉ request.message ∧
    0xD ∉ request.message

/-- An output of one line, as `stdout.trim()` reads it. -/
def readLine (line : JsString) : JsString :=
  trim (shownOutput (line ++ js "\n"))

variable (git : Git)

def recognize (request : CommitRequest) (repo : Repository) : Except CommitError CommitReceipt :=
  if trim (shownOutput repo.status) ≠ [] then .error .movedWithChanges
  else
    match repo.parent with
    | none => .error .commandFailed
    | some parent =>
      if readLine parent ≠ request.baselineSha ∨
          readLine repo.message ≠ trim request.message then
        .error .unrecognizedCommit
      else
        .ok
          { commitSha := readLine repo.head
            summary := js "Existing idempotent commit" }

/-- `add --all` and `commit -m`, and what is read of the new commit. -/
def commitChanges (request : CommitRequest) (repo : Repository) :
    Except CommitError CommitReceipt × Repository :=
  match hcommit : git.commit repo (trim request.message) with
  | none => (.error .commandFailed, { repo with status := git.staged repo })
  | some sha =>
    let after := repo.after sha (trim request.message) (git.valid _ _ _ hcommit)
    if validSha (readLine after.head) then
      (.ok
        { commitSha := readLine after.head
          summary := (trim (shownOutput (git.summary after))).take 4000 }, after)
    else (.error .invalidSha, after)

/-- `createCommit`: its result, and the repository that it leaves. -/
def createCommit (request : CommitRequest) (repo : Repository) :
    Except CommitError CommitReceipt × Repository :=
  if request.validTarget = false then (.error .invalidTarget, repo)
  else if request.validMessage = false then (.error .invalidMessage, repo)
  else
    match repo.branch with
    | none => (.error .commandFailed, repo)
    | some branch =>
      if readLine branch ≠ request.branch then (.error .wrongBranch, repo)
      else if readLine repo.head ≠ request.baselineSha then (recognize request repo, repo)
      else if trim (shownOutput repo.status) = [] then (.error .noChanges, repo)
      else commitChanges git request repo

/-- The message that Git prints back is the one that was asked for. -/
def KeptMessage (message : JsString) : Prop :=
  readLine (stripspace (wellFormed (trim message))) = trim message

instance (message : JsString) : Decidable (KeptMessage message) :=
  inferInstanceAs (Decidable (_ = _))

section Names

variable {s rest sha : JsString}

theorem replaceAll_eq_self {pattern : JsString → Option (JsString × ℕ)}
    (h : ∀ rest, rest <:+ s → pattern rest = none) : replaceAll pattern 0 s = s := by
  induction s with
  | nil => rfl
  | cons u s ih =>
      have hrest := ih fun rest hrest => h rest (hrest.trans (List.suffix_cons u s))
      rw [replaceAll, h (u :: s) List.suffix_rfl, hrest]

theorem authorization_eq_none (h : 0x3A ∉ s) : authorization s = none := by
  have hword : splitWord (js "authorization:") s = none := by
    refine if_neg fun hstarts => h ?_
    have hmem : (0x3A : UInt16) ∈ s.map foldCase :=
      (List.isPrefixOf_iff_prefix.mp hstarts).subset (by decide)
    obtain ⟨u, hu, hfold⟩ := List.mem_map.mp hmem
    unfold foldCase at hfold
    split at hfold
    · next hupper =>
      simp only [UInt16.le_iff_toNat_le, ← UInt16.toNat_inj, UInt16.toNat_add] at hupper hfold
      simp at hupper hfold
      omega
    · rwa [← hfold]
  rw [authorization, hword]
  rfl

theorem pathBelow_eq_none {directories : List String}
    (hdirectories : ∀ directory ∈ directories, 0x2F ∈ js directory) (h : 0x2F ∉ s) :
    pathBelow directories s = none := by
  have hfind : directories.find? (fun directory => (js directory).isPrefixOf s) = none := by
    refine List.find?_eq_none.mpr fun directory hdirectory hstarts => h ?_
    exact (List.isPrefixOf_iff_prefix.mp hstarts).subset (hdirectories directory hdirectory)
  rw [pathBelow, hfind]
  rfl

theorem redact_eq_self (hcolon : 0x3A ∉ s) (hslash : 0x2F ∉ s) : redact s = s := by
  have hpaths : ∀ directories : List String, (∀ directory ∈ directories, 0x2F ∈ js directory) →
      replaceAll (pathBelow directories) 0 s = s := fun directories hdirectories =>
    replaceAll_eq_self fun rest hrest =>
      pathBelow_eq_none hdirectories fun hmem => hslash (hrest.subset hmem)
  have hauthorization : replaceAll authorization 0 s = s :=
    replaceAll_eq_self fun rest hrest =>
      authorization_eq_none fun hmem => hcolon (hrest.subset hmem)
  rw [redact, hauthorization, hpaths _ (by decide), hpaths _ (by decide)]

theorem hex_of_mem (h : validSha sha = true) {u : UInt16} (hu : u ∈ sha) :
    (0x30 ≤ u ∧ u ≤ 0x39) ∨ (0x61 ≤ u ∧ u ≤ 0x66) := by
  simp only [validSha, decide_eq_true_eq, List.all_eq_true] at h
  simpa using h.2 u hu

theorem sha_ne_nil (h : validSha sha = true) : sha ≠ [] := by
  rintro rfl
  cases h

theorem readLine_sha (h : validSha sha = true) : readLine sha = sha := by
  have hne : ∀ u ∈ sha, u ≠ 0x3A ∧ u ≠ 0x2F ∧ isWhiteSpace u = false := by
    intro u hu
    have hhex := hex_of_mem h hu
    simp only [isWhiteSpace, UInt16.le_iff_toNat_le, ← UInt16.toNat_inj, ne_eq,
      Bool.or_eq_false_iff, Bool.and_eq_false_iff, decide_eq_false_iff_not, beq_eq_false_iff_ne]
      at hhex ⊢
    simp only [UInt16.reduceToNat] at hhex ⊢
    omega
  have hline : ∀ c : UInt16, c ≠ 0xA → (∀ u ∈ sha, u ≠ c) → c ∉ sha ++ js "\n" := by
    intro c hc hsha hmem
    rcases List.mem_append.mp hmem with hmem | hmem
    · exact hsha c hmem rfl
    · exact hc (List.mem_singleton.mp hmem)
  have hredact : redact (sha ++ js "\n") = sha ++ js "\n" :=
    redact_eq_self (hline 0x3A (by decide) fun u hu => (hne u hu).1)
      (hline 0x2F (by decide) fun u hu => (hne u hu).2.1)
  have hdrop : (sha ++ js "\n").dropWhile isWhiteSpace = sha ++ js "\n" := by
    refine List.dropWhile_eq_self_iff.mpr fun hlength => ?_
    rw [List.getElem_append_left (List.length_pos_of_ne_nil (sha_ne_nil h))]
    simp [(hne _ (List.getElem_mem _)).2.2]
  rw [readLine, shownOutput, hredact, hredact, trim, Strip.strip, hdrop]
  have hlast : (sha ++ js "\n").rdropWhile isWhiteSpace = sha.rdropWhile isWhiteSpace :=
    List.rdropWhile_concat_pos _ _ _ (by decide)
  rw [hlast]
  refine List.rdropWhile_eq_self_iff.mpr fun hnil => ?_
  simp [(hne _ (List.getLast_mem hnil)).2.2]

end Names

section Repeated

variable {git : Git} {request : CommitRequest} {repo : Repository}

/-- What has been read before a commit was made, and what the commit leaves. -/
structure Committed (git : Git) (request : CommitRequest) (repo after : Repository) : Prop where
  target : request.validTarget = true
  message : request.validMessage = true
  branch : ∃ branch, repo.branch = some branch ∧ readLine branch = request.branch
  baseline : readLine repo.head = request.baselineSha
  made : ∃ (sha : JsString) (hsha : validSha sha = true),
    git.commit repo (trim request.message) = some sha ∧
      after = repo.after sha (trim request.message) hsha

theorem commitChanges_cases :
    (git.commit repo (trim request.message) = none ∧
      (commitChanges git request repo).2.head = repo.head) ∨
    ∃ (sha : JsString) (hsha : validSha sha = true),
      git.commit repo (trim request.message) = some sha ∧
        (commitChanges git request repo).2 = repo.after sha (trim request.message) hsha := by
  unfold commitChanges
  split
  · next hcommit => exact .inl ⟨hcommit, rfl⟩
  · next sha hcommit =>
    refine .inr ⟨sha, git.valid _ _ _ hcommit, hcommit, ?_⟩
    dsimp only
    split
    · rfl
    · rfl

theorem committed_of_head_ne (h : (createCommit git request repo).2.head ≠ repo.head) :
    Committed git request repo (createCommit git request repo).2 := by
  unfold createCommit at h ⊢
  by_cases htarget : request.validTarget = false
  · rw [if_pos htarget] at h
    exact absurd rfl h
  by_cases hmessage : request.validMessage = false
  · rw [if_neg htarget, if_pos hmessage] at h
    exact absurd rfl h
  rw [if_neg htarget, if_neg hmessage] at h ⊢
  cases hbranch : repo.branch with
  | none =>
      simp only [hbranch] at h
      exact absurd rfl h
  | some branch =>
      simp only [hbranch] at h ⊢
      by_cases hsame : readLine branch ≠ request.branch
      · rw [if_pos hsame] at h
        exact absurd rfl h
      by_cases hmoved : readLine repo.head ≠ request.baselineSha
      · rw [if_neg hsame, if_pos hmoved] at h
        exact absurd rfl h
      by_cases hclean : trim (shownOutput repo.status) = []
      · rw [if_neg hsame, if_neg hmoved, if_pos hclean] at h
        exact absurd rfl h
      rw [if_neg hsame, if_neg hmoved, if_neg hclean] at h ⊢
      rcases commitChanges_cases with ⟨-, hhead⟩ | hmade
      · exact absurd hhead h
      · exact
          { target := Bool.eq_true_of_not_eq_false htarget
            message := Bool.eq_true_of_not_eq_false hmessage
            branch := ⟨branch, hbranch, not_not.mp hsame⟩
            baseline := not_not.mp hmoved
            made := hmade }

theorem createCommit_of_committed {after : Repository} (h : Committed git request repo after) :
    createCommit git request after =
      if KeptMessage request.message then
        (.ok { commitSha := after.head, summary := js "Existing idempotent commit" }, after)
      else (.error .unrecognizedCommit, after) := by
  obtain ⟨sha, hsha, hcommit, rfl⟩ := h.made
  obtain ⟨branch, hbranch, hsame⟩ := h.branch
  have hmoved : readLine sha ≠ request.baselineSha := by
    rw [← h.baseline, readLine_sha hsha, readLine_sha repo.named]
    exact git.fresh _ _ _ hcommit
  have hrecognize : recognize request (repo.after sha (trim request.message) hsha) =
      if KeptMessage request.message then
        .ok { commitSha := sha, summary := js "Existing idempotent commit" }
      else .error .unrecognizedCommit := by
    unfold recognize
    have hclean : trim (shownOutput (repo.after sha (trim request.message) hsha).status) = [] := rfl
    rw [if_neg (not_not.mpr hclean)]
    simp only [Repository.after, h.baseline, readLine_sha hsha, ne_eq, not_true_eq_false, false_or]
    by_cases hkept : KeptMessage request.message
    · rw [if_pos hkept]
      exact if_neg (not_not.mpr hkept)
    · rw [if_neg hkept]
      exact if_pos hkept
  have hafter : (repo.after sha (trim request.message) hsha).branch = some branch := hbranch
  have hhead : readLine (repo.after sha (trim request.message) hsha).head ≠ request.baselineSha :=
    hmoved
  unfold createCommit
  rw [if_neg (by simp [h.target]), if_neg (by simp [h.message])]
  simp only [hafter]
  rw [if_neg (not_not.mpr hsame), if_pos hhead, hrecognize]
  split
  · rfl
  · rfl

/-- After a crash the commit is found again exactly when Git and the adapter give back the
message that was asked for. -/
theorem createCommit_idempotent_iff
    (hcommitted : (createCommit git request repo).2.head ≠ repo.head) :
    (∃ receipt, createCommit git request (createCommit git request repo).2 =
        (.ok receipt, (createCommit git request repo).2) ∧
      receipt.commitSha = (createCommit git request repo).2.head) ↔
      KeptMessage request.message := by
  rw [createCommit_of_committed (committed_of_head_ne hcommitted)]
  constructor
  · rintro ⟨receipt, hreceipt, -⟩
    by_contra hlost
    rw [if_neg hlost] at hreceipt
    cases (Prod.mk.inj hreceipt).1
  · intro hkept
    rw [if_pos hkept]
    exact ⟨_, rfl, rfl⟩

end Repeated

/-! ## A message with a path -/

def baselineName : JsString := List.replicate 40 0x61

def plainGit : Git where
  commit := fun repo _ =>
    some (if repo.head = baselineName then List.replicate 40 0x62 else baselineName)
  staged := fun _ => js "M  src/index.ts\n"
  summary := fun _ => js "bbbbbbb:fix"
  valid := by
    rintro repo message sha ⟨⟩
    split
    · decide +kernel
    · decide +kernel
  fresh := by
    rintro repo message sha ⟨⟩
    split
    · next hhead =>
      rw [hhead]
      decide +kernel
    · next hhead => exact Ne.symm hhead

def changedWorktree : Repository where
  branch := some (js "issue/1")
  head := baselineName
  parent := none
  message := js "start\n"
  status := js " M src/index.ts\n"
  named := by decide +kernel

def commitRequest (message : String) : CommitRequest where
  operationKey := js "candidate:key:commit"
  worktreePath := js "/work/issue-1"
  branch := js "issue/1"
  baselineSha := baselineName
  message := js message

theorem committed_changedWorktree :
    (createCommit plainGit (commitRequest "fix: clear /tmp/cache") changedWorktree).2.head ≠
      changedWorktree.head := by decide +kernel

/-- The commit is made, and the second call does not know it again. -/
theorem commit_unrecognized :
    (createCommit plainGit (commitRequest "fix: clear /tmp/cache") changedWorktree).2.head ≠
        changedWorktree.head ∧
      (createCommit plainGit (commitRequest "fix: clear /tmp/cache")
        (createCommit plainGit (commitRequest "fix: clear /tmp/cache") changedWorktree).2).1 =
          .error .unrecognizedCommit := by
  have hcommitted := committed_of_head_ne committed_changedWorktree
  refine ⟨committed_changedWorktree, ?_⟩
  rw [createCommit_of_committed hcommitted, if_neg]
  unfold KeptMessage
  decide +kernel

theorem createCommit_idempotent_iff_changedWorktree :
    let after :=
      (createCommit plainGit (commitRequest "fix: clear /tmp/cache") changedWorktree).2
    (∃ receipt, createCommit plainGit (commitRequest "fix: clear /tmp/cache") after =
        (.ok receipt, after) ∧ receipt.commitSha = after.head) ↔
      KeptMessage (js "fix: clear /tmp/cache") :=
  createCommit_idempotent_iff committed_changedWorktree

end DevHarness.Delivery
