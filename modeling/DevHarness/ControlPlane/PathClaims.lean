import Mathlib.Data.List.Chain
import Mathlib.Data.List.Zip
import DevHarness.ControlPlane.ExecutionWaves

/-!
# The spellings of claimed paths

The conflict analysis compares texts that the claims of files and of directories are brought to.
Which spellings of a path it takes for the same, and which claims inside a claimed directory it
sees, is computed from these texts.
-/

namespace DevHarness.ControlPlane

open JsText

/-! ## What a path means -/

/-- A path as a reader of claims understands it. -/
structure PathMeaning where
  absolute : Bool
  segments : List JsString

/-- The meaning of a spelling: blanks around it, the kind and number of slashes, segments that are a
dot, letter case and a last segment of two stars are of no account. -/
def pathMeaning (toLowerCase : JsString → JsString) (spelling : JsString) : PathMeaning :=
  let slashed := (toLowerCase (trim spelling)).map fun u => if u = 0x5C then 0x2F else u
  let segments := (slashed.splitOn 0x2F).filter fun segment => segment ≠ [] ∧ segment ≠ js "."
  { absolute := js "/" <+: slashed
    segments :=
      if 0x2F ∈ slashed ∧ segments.getLast? = some (js "**") then segments.dropLast
      else segments }

def LiesInside (toLowerCase : JsString → JsString) (claimed path : JsString) : Prop :=
  (pathMeaning toLowerCase claimed).absolute = (pathMeaning toLowerCase path).absolute ∧
    (pathMeaning toLowerCase claimed).segments <+: (pathMeaning toLowerCase path).segments

instance (toLowerCase : JsString → JsString) (claimed path : JsString) :
    Decidable (LiesInside toLowerCase claimed path) :=
  inferInstanceAs (Decidable (_ ∧ _))

section Property

variable (localeCompare : JsString → JsString → Ordering) (toLowerCase : JsString → JsString)

/-- The analysis reports the two issues as conflicting, in whichever order they are given. -/
def Reports (left right : IssueDraft) : Prop :=
  issueConflicts localeCompare toLowerCase [left, right] ≠ [] ∧
    issueConflicts localeCompare toLowerCase [right, left] ≠ []

def withFiles (issue : IssueDraft) (files : List JsString) : IssueDraft :=
  { issue with expectedFiles := files }

def withDirectories (issue : IssueDraft) (directories : List JsString) : IssueDraft :=
  { issue with conflictResources := { issue.conflictResources with directories := directories } }

/-- An expected file may be spelled either way. -/
def SameFile (spelling spelling' : JsString) : Prop :=
  ∀ issue other before after,
    Reports localeCompare toLowerCase (withFiles issue (before ++ spelling :: after)) other ↔
      Reports localeCompare toLowerCase (withFiles issue (before ++ spelling' :: after)) other

/-- A claimed directory may be spelled either way. -/
def SameDirectory (spelling spelling' : JsString) : Prop :=
  ∀ issue other before after,
    Reports localeCompare toLowerCase (withDirectories issue (before ++ spelling :: after)) other ↔
      Reports localeCompare toLowerCase (withDirectories issue (before ++ spelling' :: after)) other

/-- An issue that claims the directory conflicts with every issue that expects the file. -/
def CoversFile (claimed file : JsString) : Prop :=
  ∀ left right : IssueDraft, claimed ∈ left.conflictResources.directories →
    file ∈ right.expectedFiles → Reports localeCompare toLowerCase left right

/-- An issue that claims the one directory conflicts with every issue that claims the other. -/
def CoversDirectory (claimed other : JsString) : Prop :=
  ∀ left right : IssueDraft, claimed ∈ left.conflictResources.directories →
    other ∈ right.conflictResources.directories → Reports localeCompare toLowerCase left right

/-- The analysis goes by what the paths mean. -/
structure RespectsPaths : Prop where
  files : ∀ spelling spelling', pathMeaning toLowerCase spelling = pathMeaning toLowerCase spelling' →
    SameFile localeCompare toLowerCase spelling spelling'
  directories : ∀ spelling spelling',
    pathMeaning toLowerCase spelling = pathMeaning toLowerCase spelling' →
      SameDirectory localeCompare toLowerCase spelling spelling'
  filesInside : ∀ claimed file, LiesInside toLowerCase claimed file →
    CoversFile localeCompare toLowerCase claimed file
  directoriesInside : ∀ claimed other, LiesInside toLowerCase claimed other →
    CoversDirectory localeCompare toLowerCase claimed other

end Property

/-! ## The normalised texts -/

/-- A text without a doubled slash and without a backslash, which normalising leaves alone. -/
structure Collapsed (s : JsString) : Prop where
  single : s.IsChain fun u v => ¬ (u = 0x2F ∧ v = 0x2F)
  forward : 0x5C ∉ s

section Normalised

variable {s s' : JsString} {w : UInt16}

theorem head?_collapseSlashes (s : JsString) : (collapseSlashes s).head? = s.head? := by
  induction s using collapseSlashes.induct with
  | case1 => rfl
  | case2 u => rfl
  | case3 u v rest hslashes ih =>
      rw [collapseSlashes, if_pos hslashes, ih, hslashes.1, hslashes.2]
      rfl
  | case4 u v rest hslashes ih =>
      rw [collapseSlashes, if_neg hslashes]
      rfl

theorem mem_of_mem_collapseSlashes (h : w ∈ collapseSlashes s) : w ∈ s := by
  induction s using collapseSlashes.induct with
  | case1 => exact h
  | case2 u => exact h
  | case3 u v rest hslashes ih =>
      rw [collapseSlashes, if_pos hslashes] at h
      exact List.mem_cons_of_mem u (ih h)
  | case4 u v rest hslashes ih =>
      rw [collapseSlashes, if_neg hslashes, List.mem_cons] at h
      rcases h with rfl | h
      · exact List.mem_cons_self
      · exact List.mem_cons_of_mem u (ih h)

theorem single_collapseSlashes (s : JsString) :
    (collapseSlashes s).IsChain fun u v => ¬ (u = 0x2F ∧ v = 0x2F) := by
  induction s using collapseSlashes.induct with
  | case1 => exact List.IsChain.nil
  | case2 u => exact List.IsChain.singleton u
  | case3 u v rest hslashes ih =>
      rw [collapseSlashes, if_pos hslashes]
      exact ih
  | case4 u v rest hslashes ih =>
      rw [collapseSlashes, if_neg hslashes, List.isChain_cons]
      refine ⟨?_, ih⟩
      intro w hw
      rw [head?_collapseSlashes] at hw
      obtain rfl := Option.some.inj hw
      exact hslashes

theorem collapseSlashes_eq_self
    (h : s.IsChain fun u v => ¬ (u = 0x2F ∧ v = 0x2F)) : collapseSlashes s = s := by
  induction s using collapseSlashes.induct with
  | case1 => rfl
  | case2 u => rfl
  | case3 u v rest hslashes ih => exact absurd hslashes (List.isChain_cons_cons.mp h).1
  | case4 u v rest hslashes ih =>
      rw [collapseSlashes, if_neg hslashes, ih (List.isChain_cons_cons.mp h).2]

theorem collapsed_normalizedPath (value : JsString) : Collapsed (normalizedPath value) := by
  refine ⟨single_collapseSlashes _, ?_⟩
  intro hmem
  have hslashed : ∀ w ∈ (trim value).map fun u => if u = 0x5C then (0x2F : UInt16) else u,
      w ≠ 0x5C := by
    intro w hw
    obtain ⟨u, -, rfl⟩ := List.mem_map.mp hw
    by_cases hu : u = 0x5C
    · rw [if_pos hu]
      decide
    · rwa [if_neg hu]
  have hmem' := mem_of_mem_collapseSlashes hmem
  split at hmem'
  · exact hslashed _ (List.mem_of_mem_drop hmem') rfl
  · exact hslashed _ hmem' rfl

theorem Collapsed.isPrefix (h : Collapsed s) (hstarts : s' <+: s) : Collapsed s' :=
  ⟨ List.IsChain.prefix h.single hstarts, fun hmem => h.forward (hstarts.subset hmem)⟩

theorem Collapsed.append_singleton (h : Collapsed s) (hforward : w ≠ 0x5C)
    (hsingle : s.getLast? = some 0x2F → w ≠ 0x2F) : Collapsed (s ++ [w]) := by
  constructor
  · rw [List.isChain_append]
    refine ⟨h.single, List.IsChain.singleton w, ?_⟩
    rintro u hu v hv ⟨rfl, rfl⟩
    obtain rfl := Option.some.inj hv
    exact hsingle hu rfl
  · intro hmem
    rcases List.mem_append.mp hmem with hmem | hmem
    · exact h.forward hmem
    · exact hforward (List.mem_singleton.mp hmem).symm

/-- Every collapsed text that does not end with a blank is what some claim is brought to. -/
theorem normalizedPath_dotSlash (h : Collapsed s)
    (hlast : ∀ u, s.getLast? = some u → isWhiteSpace u = false) :
    normalizedPath (js "./" ++ s) = s := by
  have htrim : trim (js "./" ++ s) = js "./" ++ s := by
    apply Strip.strip_eq_self_iff.mpr
    intro hne
    have hdot : isWhiteSpace 0x2E = false := by decide
    have hslash : isWhiteSpace 0x2F = false := by decide
    refine ⟨hdot, ?_⟩
    by_cases hs : s = []
    · subst hs
      exact hslash
    · rw [List.getLast_append_of_ne_nil hne hs]
      exact hlast _ (List.getLast?_eq_some_getLast hs)
  have hslashed : (js "./" ++ s).map (fun u => if u = 0x5C then (0x2F : UInt16) else u) =
      js "./" ++ s := by
    rw [List.map_append]
    congr 1
    refine Eq.trans (List.map_congr_left ?_) (List.map_id s)
    intro u hu
    exact if_neg (ne_of_mem_of_not_mem hu h.forward)
  unfold normalizedPath
  simp only [htrim, hslashed]
  rw [if_pos (List.prefix_append _ _)]
  exact collapseSlashes_eq_self h.single

theorem getLast?_slash_iff {s : JsString} : js "/" <:+ s ↔ s.getLast? = some 0x2F := by
  constructor
  · rintro ⟨front, rfl⟩
    exact List.getLast?_concat
  · intro h
    obtain ⟨front, rfl⟩ := List.getLast?_eq_some_iff.mp h
    exact List.suffix_append front _

theorem collapsed_directory (value : JsString) : Collapsed (directory value) := by
  have hclaimed : ∀ claimed, claimed <+: normalizedPath value →
      Collapsed (if js "/" <:+ claimed then claimed else claimed ++ js "/") := by
    intro claimed hstarts
    have hcollapsed := (collapsed_normalizedPath value).isPrefix hstarts
    by_cases hslash : js "/" <:+ claimed
    · rwa [if_pos hslash]
    · rw [if_neg hslash]
      rw [getLast?_slash_iff] at hslash
      exact hcollapsed.append_singleton (by decide) fun h => absurd h hslash
  unfold directory
  apply hclaimed
  split
  · exact List.take_prefix _ _
  · exact List.prefix_rfl

theorem getLast?_directory (value : JsString) : (directory value).getLast? = some 0x2F := by
  rw [← getLast?_slash_iff]
  unfold directory
  simp only
  generalize (if js "/**" <:+ normalizedPath value then _ else _ : JsString) = claimed
  by_cases hslash : js "/" <:+ claimed
  · rwa [if_pos hslash]
  · rw [if_neg hslash]
    exact List.suffix_append claimed _

theorem directory_dotSlash (h : Collapsed s) (hlast : s.getLast? = some 0x2F) :
    directory (js "./" ++ s) = s := by
  have hnormalized : normalizedPath (js "./" ++ s) = s := by
    apply normalizedPath_dotSlash h
    intro u hu
    rw [hlast] at hu
    obtain rfl := Option.some.inj hu
    decide
  have hstars : ¬ js "/**" <:+ s := by
    rintro ⟨front, rfl⟩
    rw [List.getLast?_append_of_ne_nil _ (by decide)] at hlast
    exact absurd hlast (by decide)
  unfold directory
  simp only [hnormalized, if_neg hstars, if_pos (getLast?_slash_iff.mpr hlast)]

def parentPath (path : JsString) : JsString :=
  path.rdropWhile fun u => u ≠ 0x2F

theorem parentPath_starts (path : JsString) : parentPath path <+: path :=
  List.rdropWhile_prefix _ path

theorem getLast?_parentPath {path : JsString} (h : parentPath path ≠ []) :
    (parentPath path).getLast? = some 0x2F := by
  have hlast := List.rdropWhile_last_not (fun u : UInt16 => decide (u ≠ 0x2F)) path h
  rw [decide_eq_true_eq, not_not] at hlast
  rw [List.getLast?_eq_some_getLast h]
  exact congrArg some hlast

theorem prefix_parentPath_iff {claimed path : JsString} (hlast : claimed.getLast? = some 0x2F) :
    claimed <+: path ↔ claimed <+: parentPath path := by
  refine ⟨?_, fun h => h.trans (parentPath_starts path)⟩
  rintro ⟨rest, rfl⟩
  induction rest using List.reverseRecOn with
  | nil =>
      obtain ⟨front, rfl⟩ := List.getLast?_eq_some_iff.mp hlast
      rw [List.append_nil, parentPath, List.rdropWhile_concat_neg _ _ _ (by decide)]
  | append_singleton rest u ih =>
      rw [parentPath, ← List.append_assoc]
      by_cases hu : u = 0x2F
      · rw [List.rdropWhile_concat_neg _ _ _ (by simp [hu]), List.append_assoc]
        exact List.prefix_append claimed _
      · rw [List.rdropWhile_concat_pos _ _ _ (by simp [hu])]
        exact ih

end Normalised

/-! ## When a pair is reported -/

/-- Two lists of claims have a text in common, blanks and letter case apart. -/
def ShareText (toLowerCase : JsString → JsString) (left right : List JsString) : Prop :=
  ∃ value ∈ left, ∃ value' ∈ right, toLowerCase (trim value) = toLowerCase (trim value')

def DirectoriesMeet (left right : IssueDraft) : Prop :=
  ∃ claimed ∈ left.conflictResources.directories,
    ∃ other ∈ right.conflictResources.directories,
      directory claimed <+: directory other ∨ directory other <+: directory claimed

def DirectoryHolds (left right : IssueDraft) : Prop :=
  ∃ claimed ∈ left.conflictResources.directories, ∃ file ∈ right.expectedFiles,
    directory claimed <+: normalizedPath file

def otherClaims (issue : IssueDraft) : List (List JsString) :=
  [issue.conflictResources.publicInterfaces, issue.conflictResources.databaseObjects,
    issue.conflictResources.sharedConfigurations, issue.conflictResources.landingOrder]

/-- The two issues claim something in common. -/
def Overlapping (toLowerCase : JsString → JsString) (left right : IssueDraft) : Prop :=
  ShareText toLowerCase (left.expectedFiles.map normalizedPath)
      (right.expectedFiles.map normalizedPath) ∨
    DirectoriesMeet left right ∨ DirectoryHolds left right ∨ DirectoryHolds right left ∨
    ∃ claims ∈ (otherClaims left).zip (otherClaims right), ShareText toLowerCase claims.1 claims.2

section Pairs

variable {localeCompare : JsString → JsString → Ordering} {toLowerCase : JsString → JsString}
  {left right : IssueDraft} {l l' : List JsString}

theorem sorted_ne_nil_iff {l : List JsString} : sorted l ≠ [] ↔ ∃ value, value ∈ l := by
  constructor
  · intro hne
    obtain ⟨value, hvalue⟩ := List.exists_mem_of_ne_nil _ hne
    exact ⟨value, (perm_sorted l).mem_iff.mp hvalue⟩
  · rintro ⟨value, hvalue⟩
    exact List.ne_nil_of_mem ((perm_sorted l).mem_iff.mpr hvalue)

theorem intersections_ne_nil_iff :
    intersections toLowerCase l l' ≠ [] ↔ ShareText toLowerCase l l' := by
  unfold intersections
  rw [sorted_ne_nil_iff]
  constructor
  · rintro ⟨text, htext⟩
    rw [List.mem_eraseDups, List.mem_filter, decide_eq_true_eq] at htext
    obtain ⟨value, hvalue, rfl⟩ := List.mem_map.mp htext.1
    obtain ⟨value', hvalue', hsame⟩ := List.mem_map.mp htext.2
    exact ⟨value, hvalue, value', hvalue', hsame.symm⟩
  · rintro ⟨value, hvalue, value', hvalue', hsame⟩
    refine ⟨toLowerCase (trim value), ?_⟩
    rw [List.mem_eraseDups, List.mem_filter, decide_eq_true_eq]
    exact ⟨List.mem_map.mpr ⟨value, hvalue, rfl⟩, List.mem_map.mpr ⟨value', hvalue', hsame.symm⟩⟩

theorem directoryOverlaps_ne_nil_iff : sorted (directoryOverlaps left right) ≠ [] ↔
    DirectoriesMeet left right ∨ DirectoryHolds left right ∨ DirectoryHolds right left := by
  rw [sorted_ne_nil_iff]
  unfold directoryOverlaps DirectoriesMeet DirectoryHolds
  simp only [List.mem_eraseDups, List.mem_append, List.mem_filter, List.mem_map, Bool.or_eq_true,
    List.any_eq_true, decide_eq_true_eq]
  constructor
  · rintro ⟨_, ⟨⟨claimed, hclaimed, rfl⟩, ⟨_, ⟨other, hother, rfl⟩, hmeet⟩ | hholds⟩ |
      ⟨⟨claimed, hclaimed, rfl⟩, hholds⟩⟩
    · exact Or.inl ⟨claimed, hclaimed, other, hother, hmeet⟩
    · exact Or.inr (Or.inl ⟨claimed, hclaimed, hholds⟩)
    · exact Or.inr (Or.inr ⟨claimed, hclaimed, hholds⟩)
  · rintro (⟨claimed, hclaimed, other, hother, hmeet⟩ | ⟨claimed, hclaimed, hholds⟩ |
      ⟨claimed, hclaimed, hholds⟩)
    · exact ⟨_, Or.inl ⟨⟨claimed, hclaimed, rfl⟩, Or.inl ⟨_, ⟨other, hother, rfl⟩, hmeet⟩⟩⟩
    · exact ⟨_, Or.inl ⟨⟨claimed, hclaimed, rfl⟩, Or.inr hholds⟩⟩
    · exact ⟨_, Or.inr ⟨⟨claimed, hclaimed, rfl⟩, hholds⟩⟩

theorem conflictFor_ne_none_iff :
    conflictFor toLowerCase left right ≠ none ↔ Overlapping toLowerCase left right := by
  have hclaims : conflictFor toLowerCase left right ≠ none ↔
      ∃ claim ∈ sharedClaims toLowerCase left right, claim.keys ≠ [] := by
    unfold conflictFor
    simp only [List.isEmpty_iff, List.filter_eq_nil_iff, decide_eq_true_eq, ne_eq, not_not]
    by_cases hnone : ∀ claim ∈ sharedClaims toLowerCase left right, claim.keys = []
    · simpa [if_pos hnone] using hnone
    · simpa [if_neg hnone] using hnone
  rw [hclaims]
  unfold sharedClaims Overlapping otherClaims
  simp only [List.exists_mem_cons_iff, List.zip_cons_cons, List.zip_nil_right,
    directoryOverlaps_ne_nil_iff, intersections_ne_nil_iff, or_assoc,
    List.not_mem_nil, false_and, exists_false]

theorem ShareText.symm (h : ShareText toLowerCase l l') : ShareText toLowerCase l' l := by
  obtain ⟨value, hvalue, value', hvalue', hsame⟩ := h
  exact ⟨value', hvalue', value, hvalue, hsame.symm⟩

theorem DirectoriesMeet.symm (h : DirectoriesMeet left right) : DirectoriesMeet right left := by
  obtain ⟨claimed, hclaimed, other, hother, hmeet⟩ := h
  exact ⟨other, hother, claimed, hclaimed, hmeet.symm⟩

theorem Overlapping.symm (h : Overlapping toLowerCase left right) :
    Overlapping toLowerCase right left := by
  rcases h with hfiles | hmeet | hholds | hholds | ⟨claims, hclaims, hshare⟩
  · exact Or.inl hfiles.symm
  · exact Or.inr (Or.inl hmeet.symm)
  · exact Or.inr (Or.inr (Or.inr (Or.inl hholds)))
  · exact Or.inr (Or.inr (Or.inl hholds))
  · refine Or.inr (Or.inr (Or.inr (Or.inr ⟨claims.swap, ?_, hshare.symm⟩)))
    rw [← List.zip_swap]
    exact List.mem_map_of_mem hclaims

theorem issueConflicts_pair : issueConflicts localeCompare toLowerCase [left, right] ≠ [] ↔
    Overlapping toLowerCase left right := by
  have hanalyze : ∀ first second, analyzeIssueConflicts toLowerCase [first, second] ≠ [] ↔
      Overlapping toLowerCase first second := by
    intro first second
    rw [← conflictFor_ne_none_iff]
    simp only [analyzeIssueConflicts, List.filterMap_cons, List.filterMap_nil, List.append_nil]
    cases conflictFor toLowerCase first second with
    | none => simp
    | some conflict => simp
  have hordered : byLocale localeCompare [left, right] =
      if localeCompare left.key right.key ≠ .gt then [left, right] else [right, left] := rfl
  rw [issueConflicts, hordered]
  by_cases hle : localeCompare left.key right.key ≠ .gt
  · rw [if_pos hle, hanalyze]
  · rw [if_neg hle, hanalyze]
    exact ⟨Overlapping.symm, Overlapping.symm⟩

theorem reports_iff :
    Reports localeCompare toLowerCase left right ↔ Overlapping toLowerCase left right := by
  unfold Reports
  rw [issueConflicts_pair, issueConflicts_pair]
  exact ⟨And.left, fun h => ⟨h, h.symm⟩⟩

end Pairs

/-! ## Spellings that are taken for the same -/

/-- The two spellings of a file are brought to one text, letter case apart, and to one directory. -/
def SameFileText (toLowerCase : JsString → JsString) (spelling spelling' : JsString) : Prop :=
  toLowerCase (trim (normalizedPath spelling)) = toLowerCase (trim (normalizedPath spelling')) ∧
    parentPath (normalizedPath spelling) = parentPath (normalizedPath spelling')

def claiming (files directories : List JsString) : IssueDraft :=
  withDirectories (withFiles (plainIssue "A" "" []) files) directories

section Spellings

variable {localeCompare : JsString → JsString → Ordering} {toLowerCase : JsString → JsString}
  {spelling spelling' claimed other file : JsString} {left right : IssueDraft}

theorem exists_mem_replace {before after : List JsString} {P : JsString → Prop}
    (h : P spelling ↔ P spelling') :
    (∃ value ∈ before ++ spelling :: after, P value) ↔
      ∃ value ∈ before ++ spelling' :: after, P value := by
  simp only [List.mem_append, List.mem_cons, or_and_right, exists_or, exists_eq_left, h]

theorem shareText_map_iff {l l' : List JsString} :
    ShareText toLowerCase (l.map normalizedPath) l' ↔
      ∃ value ∈ l, ∃ value' ∈ l',
        toLowerCase (trim (normalizedPath value)) = toLowerCase (trim value') := by
  unfold ShareText
  simp only [List.mem_map, exists_exists_and_eq_and]

theorem overlapping_claiming {files files' directories directories' : List JsString} :
    Overlapping toLowerCase (claiming files directories) (claiming files' directories') ↔
      ShareText toLowerCase (files.map normalizedPath) (files'.map normalizedPath) ∨
        DirectoriesMeet (claiming files directories) (claiming files' directories') ∨
        DirectoryHolds (claiming files directories) (claiming files' directories') ∨
        DirectoryHolds (claiming files' directories') (claiming files directories) := by
  have hothers : ¬ ∃ claims ∈ (otherClaims (claiming files directories)).zip
      (otherClaims (claiming files' directories')),
      ShareText toLowerCase claims.1 claims.2 := by
    rintro ⟨claims, hclaims, value, hvalue, -⟩
    have hempty : claims.1 = [] := by
      have hmem := (List.of_mem_zip hclaims).1
      simp only [otherClaims, claiming, withDirectories, withFiles, plainIssue, List.mem_cons,
        List.not_mem_nil, or_false, or_self] at hmem
      exact hmem
    rw [hempty] at hvalue
    exact absurd hvalue List.not_mem_nil
  unfold Overlapping
  simp only [hothers, or_false]
  rfl

theorem SameFileText.directory_prefix_iff (h : SameFileText toLowerCase spelling spelling') :
    directory claimed <+: normalizedPath spelling ↔
      directory claimed <+: normalizedPath spelling' := by
  have hlast := getLast?_directory claimed
  rw [prefix_parentPath_iff hlast, h.2, ← prefix_parentPath_iff hlast]

theorem sameFile_of_sameFileText (h : SameFileText toLowerCase spelling spelling') :
    SameFile localeCompare toLowerCase spelling spelling' := by
  intro issue other before after
  rw [reports_iff, reports_iff]
  have hfiles : ∀ files,
      ShareText toLowerCase ((before ++ spelling :: after).map normalizedPath) files ↔
        ShareText toLowerCase ((before ++ spelling' :: after).map normalizedPath) files := by
    intro files
    rw [shareText_map_iff, shareText_map_iff]
    apply exists_mem_replace
    rw [h.1]
  have hholds : DirectoryHolds other (withFiles issue (before ++ spelling :: after)) ↔
      DirectoryHolds other (withFiles issue (before ++ spelling' :: after)) := by
    apply exists_congr
    intro claimed
    apply and_congr_right
    intro _
    exact exists_mem_replace h.directory_prefix_iff
  unfold Overlapping
  rw [hholds]
  exact or_congr (hfiles _) Iff.rfl

theorem sameDirectory_of_eq (h : directory spelling = directory spelling') :
    SameDirectory localeCompare toLowerCase spelling spelling' := by
  intro issue other before after
  rw [reports_iff, reports_iff]
  have hmeet : DirectoriesMeet (withDirectories issue (before ++ spelling :: after)) other ↔
      DirectoriesMeet (withDirectories issue (before ++ spelling' :: after)) other := by
    apply exists_mem_replace
    rw [h]
  have hholds : DirectoryHolds (withDirectories issue (before ++ spelling :: after)) other ↔
      DirectoryHolds (withDirectories issue (before ++ spelling' :: after)) other := by
    apply exists_mem_replace
    rw [h]
  unfold Overlapping
  rw [hmeet, hholds]
  rfl

/-! ## Spellings that are told apart -/

/-- The text of a spelling is found in the text of the other when a file may be spelled either
way. -/
theorem lowerCase_eq_of_sameFile (h : SameFile localeCompare toLowerCase spelling spelling') :
    toLowerCase (trim (normalizedPath spelling)) =
      toLowerCase (trim (normalizedPath spelling')) := by
  have hsame := h (claiming [] []) (claiming [spelling] []) [] []
  rw [reports_iff, reports_iff] at hsame
  have hfound : Overlapping toLowerCase (claiming [spelling'] []) (claiming [spelling] []) :=
    hsame.mp (Or.inl ⟨_, List.mem_cons_self, _, List.mem_cons_self, rfl⟩)
  rw [overlapping_claiming] at hfound
  rcases hfound with ⟨value, hvalue, value', hvalue', heq⟩ | hmeet | hholds | hholds
  · rw [List.map_cons, List.map_nil, List.mem_singleton] at hvalue hvalue'
    rw [hvalue, hvalue'] at heq
    exact heq.symm
  · obtain ⟨claimed, hclaimed, -⟩ := hmeet
    exact absurd hclaimed List.not_mem_nil
  · obtain ⟨claimed, hclaimed, -⟩ := hholds
    exact absurd hclaimed List.not_mem_nil
  · obtain ⟨claimed, hclaimed, -⟩ := hholds
    exact absurd hclaimed List.not_mem_nil

theorem overlapping_directory_file :
    Overlapping toLowerCase (claiming [] [claimed]) (claiming [file] []) ↔
      directory claimed <+: normalizedPath file := by
  rw [overlapping_claiming]
  constructor
  · rintro (⟨value, hvalue, -⟩ | ⟨_, -, other, hother, -⟩ | ⟨value, hvalue, value', hvalue', hin⟩ |
      ⟨value, hvalue, -⟩)
    · exact absurd hvalue List.not_mem_nil
    · exact absurd hother List.not_mem_nil
    · rwa [List.mem_singleton.mp hvalue, List.mem_singleton.mp hvalue'] at hin
    · exact absurd hvalue List.not_mem_nil
  · intro hin
    exact Or.inr (Or.inr (Or.inl ⟨_, List.mem_cons_self, _, List.mem_cons_self, hin⟩))

theorem overlapping_directory_directory :
    Overlapping toLowerCase (claiming [] [claimed]) (claiming [] [other]) ↔
      directory claimed <+: directory other ∨ directory other <+: directory claimed := by
  rw [overlapping_claiming]
  constructor
  · rintro (⟨value, hvalue, -⟩ | ⟨value, hvalue, value', hvalue', hmeet⟩ | ⟨_, -, value, hvalue, -⟩ |
      ⟨_, -, value, hvalue, -⟩)
    · exact absurd hvalue List.not_mem_nil
    · rwa [List.mem_singleton.mp hvalue, List.mem_singleton.mp hvalue'] at hmeet
    · exact absurd hvalue List.not_mem_nil
    · exact absurd hvalue List.not_mem_nil
  · intro hmeet
    exact Or.inr (Or.inl ⟨_, List.mem_cons_self, _, List.mem_cons_self, hmeet⟩)

theorem SameFile.symm (h : SameFile localeCompare toLowerCase spelling spelling') :
    SameFile localeCompare toLowerCase spelling' spelling :=
  fun issue other before after => (h issue other before after).symm

theorem SameDirectory.symm (h : SameDirectory localeCompare toLowerCase spelling spelling') :
    SameDirectory localeCompare toLowerCase spelling' spelling :=
  fun issue other before after => (h issue other before after).symm

theorem parentPath_starts_of_sameFile
    (h : SameFile localeCompare toLowerCase spelling spelling') :
    parentPath (normalizedPath spelling) <+: parentPath (normalizedPath spelling') := by
  by_cases hnil : parentPath (normalizedPath spelling) = []
  · rw [hnil]
    exact List.nil_prefix
  · have hlast := getLast?_parentPath hnil
    have hcollapsed := (collapsed_normalizedPath spelling).isPrefix (parentPath_starts _)
    have hdirectory := directory_dotSlash hcollapsed hlast
    have hseen : ∀ file, Overlapping toLowerCase (claiming [file] [])
        (claiming [] [js "./" ++ parentPath (normalizedPath spelling)]) ↔
          parentPath (normalizedPath spelling) <+: normalizedPath file := by
      intro file
      constructor
      · intro hfound
        have hin := overlapping_directory_file.mp hfound.symm
        rwa [hdirectory] at hin
      · intro hin
        rw [← hdirectory] at hin
        exact (overlapping_directory_file.mpr hin).symm
    have hsame := h (claiming [] []) (claiming [] [js "./" ++ parentPath (normalizedPath spelling)])
      [] []
    rw [reports_iff, reports_iff] at hsame
    rw [← prefix_parentPath_iff hlast]
    exact (hseen spelling').mp (hsame.mp ((hseen spelling).mpr (parentPath_starts _)))

theorem sameFile_iff : SameFile localeCompare toLowerCase spelling spelling' ↔
    SameFileText toLowerCase spelling spelling' := by
  constructor
  · intro h
    refine ⟨lowerCase_eq_of_sameFile h, ?_⟩
    have hstarts := parentPath_starts_of_sameFile h
    have hstarts' := parentPath_starts_of_sameFile h.symm
    exact hstarts.sublist.antisymm hstarts'.sublist
  · exact sameFile_of_sameFileText

def otherUnit (rest : JsString) : UInt16 :=
  if rest.head? = some 0x61 then 0x62 else 0x61

theorem otherUnit_ne (rest : JsString) : rest.head? ≠ some (otherUnit rest) := by
  unfold otherUnit
  by_cases hhead : rest.head? = some 0x61
  · rw [if_pos hhead, hhead]
    decide
  · rwa [if_neg hhead]

theorem otherUnit_plain (rest : JsString) :
    otherUnit rest ≠ 0x5C ∧ otherUnit rest ≠ 0x2F ∧ isWhiteSpace (otherUnit rest) = false := by
  unfold otherUnit
  split <;> decide

theorem directory_eq_of_starts (h : SameDirectory localeCompare toLowerCase spelling spelling')
    (hstarts : directory spelling <+: directory spelling') :
    directory spelling = directory spelling' := by
  obtain ⟨rest, hrest⟩ := hstarts
  by_cases hnil : rest = []
  · rw [← hrest, hnil, List.append_nil]
  · obtain ⟨hforward, hslash, hblank⟩ := otherUnit_plain rest
    have hpath : normalizedPath (js "./" ++ (directory spelling ++ [otherUnit rest])) =
        directory spelling ++ [otherUnit rest] := by
      apply normalizedPath_dotSlash
      · exact (collapsed_directory spelling).append_singleton hforward fun _ => hslash
      · intro u hu
        rw [List.getLast?_concat] at hu
        obtain rfl := Option.some.inj hu
        exact hblank
    have hsame := h (claiming [] [])
      (claiming [js "./" ++ (directory spelling ++ [otherUnit rest])] []) [] []
    rw [reports_iff, reports_iff] at hsame
    have hfound := hsame.mp (overlapping_directory_file.mpr (by
      rw [hpath]
      exact List.prefix_append _ _))
    have hlonger := overlapping_directory_file.mp hfound
    rw [hpath, ← hrest, List.prefix_append_right_inj] at hlonger
    obtain ⟨after, hafter⟩ := hlonger
    have hhead := congrArg List.head? hafter
    rw [List.head?_append_of_ne_nil _ hnil] at hhead
    exact absurd hhead (otherUnit_ne rest)

theorem sameDirectory_iff : SameDirectory localeCompare toLowerCase spelling spelling' ↔
    directory spelling = directory spelling' := by
  constructor
  · intro h
    have hsame := h (claiming [] []) (claiming [] [spelling]) [] []
    rw [reports_iff, reports_iff] at hsame
    have hfound := hsame.mp (overlapping_directory_directory.mpr (Or.inl List.prefix_rfl))
    rcases overlapping_directory_directory.mp hfound with hstarts | hstarts
    · exact (directory_eq_of_starts h.symm hstarts).symm
    · exact directory_eq_of_starts h hstarts
  · exact sameDirectory_of_eq

theorem coversFile_iff : CoversFile localeCompare toLowerCase claimed file ↔
    directory claimed <+: normalizedPath file := by
  constructor
  · intro h
    have hreports := h (claiming [] [claimed]) (claiming [file] []) List.mem_cons_self
      List.mem_cons_self
    rw [reports_iff] at hreports
    exact overlapping_directory_file.mp hreports
  · intro hin left right hclaimed hfile
    rw [reports_iff]
    exact Or.inr (Or.inr (Or.inl ⟨claimed, hclaimed, file, hfile, hin⟩))

theorem coversDirectory_iff : CoversDirectory localeCompare toLowerCase claimed other ↔
    directory claimed <+: directory other ∨ directory other <+: directory claimed := by
  constructor
  · intro h
    have hreports := h (claiming [] [claimed]) (claiming [] [other]) List.mem_cons_self
      List.mem_cons_self
    rw [reports_iff] at hreports
    exact overlapping_directory_directory.mp hreports
  · intro hmeet left right hclaimed hother
    rw [reports_iff]
    exact Or.inr (Or.inl ⟨claimed, hclaimed, other, hother, hmeet⟩)

end Spellings

/-- Which spellings the analysis takes for the same, and which claims inside a directory it sees. -/
theorem spellings_respected_iff (localeCompare : JsString → JsString → Ordering)
    (toLowerCase : JsString → JsString) :
    (∀ spelling spelling', SameFile localeCompare toLowerCase spelling spelling' ↔
        SameFileText toLowerCase spelling spelling') ∧
      (∀ spelling spelling', SameDirectory localeCompare toLowerCase spelling spelling' ↔
        directory spelling = directory spelling') ∧
      (∀ claimed file, CoversFile localeCompare toLowerCase claimed file ↔
        directory claimed <+: normalizedPath file) ∧
      ∀ claimed other, CoversDirectory localeCompare toLowerCase claimed other ↔
        directory claimed <+: directory other ∨ directory other <+: directory claimed :=
  ⟨fun _ _ => sameFile_iff, fun _ _ => sameDirectory_iff, fun _ _ => coversFile_iff,
    fun _ _ => coversDirectory_iff⟩

example : ¬ SameDirectory byUnits id (js "./app") (js "././app") := by
  rw [sameDirectory_iff]
  decide

/-- A claim of the root of the repository, and a file in it. -/
theorem not_respectsPaths : ¬ RespectsPaths byUnits id := by
  intro h
  have hinside : LiesInside id (js ".") (js "app/x.ts") := by decide
  have hcovers := coversFile_iff.mp (h.filesInside _ _ hinside)
  exact absurd hcovers (by decide)

end DevHarness.ControlPlane
