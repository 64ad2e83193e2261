import DevHarness.Sequence.Checks
import DevHarness.Text.Dates
import DevHarness.Text.Patterns

/-!
# The checks of the release center

The domain trims and bounds what it is given; the two reliability gates check a finished report
again by their own rules.  A timestamp that `toISOString` has written is the number of
milliseconds it stands for, so that only texts from outside are parsed.
-/

namespace DevHarness.ReleaseCenter

open JsText Sequence

inductive ReleaseError
  /-- A `ReleaseCenterValidationError`. -/
  | validation (message : JsString)
  /-- An `Error` of a gate. -/
  | gate (message : JsString)
  deriving DecidableEq

/-! ## Patterns -/

def isIdUnit (u : UInt16) : Bool :=
  isLetterOrDigit u || u = 0x2E || u = 0x5F || u = 0x3A || u = 0x2D

def isLowerLetter (u : UInt16) : Bool :=
  0x61 ≤ u ∧ u ≤ 0x7A

def isDigit (u : UInt16) : Bool :=
  0x30 ≤ u ∧ u ≤ 0x39

def safeId : JsString → Bool
  | [] => false
  | u :: rest =>
    isLetterOrDigit u && rest.all isIdUnit && decide (2 ≤ rest.length ∧ rest.length ≤ 127)

def commitSha (text : JsString) : Bool :=
  decide (text.length = 40) && text.all fun u => isDigit u || decide (0x61 ≤ u ∧ u ≤ 0x66)

/-- `DIGEST`. -/
def digestText (text : JsString) : Bool :=
  decide (text.length = 64) && text.all fun u => isDigit u || decide (0x61 ≤ u ∧ u ≤ 0x66)

/-- A lower-case scheme, a colon and a reference; `EVIDENCE_REF` also lists the schemes
`artifact:sha256`, which are among these. -/
def evidenceRef (text : JsString) : Bool :=
  let scheme := text.takeWhile fun u => u ≠ 0x3A
  match scheme, text.drop scheme.length with
  | first :: rest, _ :: reference =>
    isLowerLetter first && rest.all (fun u => isLowerLetter u || isDigit u || u = 0x2D) &&
      !reference.isEmpty && reference.all isIdUnit
  | _, _ => false

def placeholderWords : List JsString :=
  ["test", "example", "placeholder", "unknown", "tbd", "todo"].map js

def isSeparator (u : UInt16) : Bool :=
  u = 0x2D || u = 0x5F || u = 0x2E

/-- A word of `PLACEHOLDER` stands at the head, and ends there. -/
def beginsPlaceholder (text : JsString) : Bool :=
  placeholderWords.any fun word =>
    match splitWord word text with
    | some (_, []) => true
    | some (_, u :: _) => isSeparator u
    | none => false

/-- `PLACEHOLDER`. -/
def isPlaceholder (text : JsString) : Bool :=
  beginsPlaceholder text ||
    text.tails.any fun rest =>
      match rest with
      | [] => false
      | u :: after => isSeparator u && beginsPlaceholder after

example : isPlaceholder (js "oidc-Test") = true ∧ isPlaceholder (js "latest") = false := by
  decide

/-! ## The checks of the domain -/

def itemLabel (label : JsString) (index : ℕ) : JsString :=
  label ++ js "[" ++ js (toString index) ++ js "]"

/-- Where `ok` fails, a `ReleaseCenterValidationError`. -/
def validate (ok : Bool) (message : JsString) : Except ReleaseError Unit :=
  if ok then .ok () else .error (.validation message)

def required (value label : JsString) (maximum : ℕ) : Except ReleaseError JsString := do
  let text := trim value
  validate (!text.isEmpty && decide (text.length ≤ maximum)) (label ++ js " is required and bounded")
  pure text

def id (value label : JsString) : Except ReleaseError JsString := do
  let text ← required value label 128
  validate (safeId text) (label ++ js " is invalid")
  pure text

def strings (value : List JsString) (label : JsString) : Except ReleaseError (List JsString) := do
  validate (!value.isEmpty && decide (value.length ≤ 100))
    (label ++ js " must be a non-empty bounded list")
  value.zipIdx.mapM fun (item, index) => required item (itemLabel label index) 2000

def evidenceRefs (value : List JsString) (label : JsString) :
    Except ReleaseError (List JsString) := do
  let refs ← strings value label
  validate (refs.all evidenceRef) (label ++ js " contains an invalid evidence reference")
  pure refs

/-- A timestamp from outside; `parse` is `Date.parse`. -/
def iso (parse : JsString → Option ℤ) (value label : JsString) : Except ReleaseError ℤ :=
  match parse value with
  | some date =>
    if js "Z" <:+ value then .ok date
    else .error (.validation (label ++ js " must be an ISO UTC timestamp"))
  | none => .error (.validation (label ++ js " must be an ISO UTC timestamp"))

def runbookPath (path : JsString) : Bool :=
  decide (js "docs/runbooks/" <+: path) && decide (js ".md" <:+ path)

def runbook (value label : JsString) : Except ReleaseError JsString := do
  let path ← required value label 1000
  validate (runbookPath path) (label ++ js " must reference a repository Runbook")
  pure path

/-- A number that is not an integer is `none`. -/
def count (value : Option ℤ) (label : JsString) : Except ReleaseError ℕ :=
  match value with
  | some n => do
    validate (decide (0 ≤ n)) (label ++ js " must be a non-negative integer")
    pure n.toNat
  | none => .error (.validation (label ++ js " must be a non-negative integer"))

/-! ## The checks of the gates -/

namespace Gate

/-- Where `ok` fails, an `Error`. -/
def ensure (ok : Bool) (message : JsString) : Except ReleaseError Unit :=
  if ok then .ok () else .error (.gate message)

def string (value label : JsString) : Except ReleaseError Unit :=
  ensure (!(trim value).isEmpty) (label ++ js " must be a non-empty string")

def strings (value : List JsString) (label : JsString) : Except ReleaseError Unit :=
  ensure (!value.isEmpty && value.all fun item => !(trim item).isEmpty)
    (label ++ js " must be a non-empty string array")

/-- `message` is what a gate says of an id that it refuses. -/
def id (message value label : JsString) (rejectPlaceholder : Bool) : Except ReleaseError Unit := do
  string value label
  ensure (safeId value && !(rejectPlaceholder && isPlaceholder value)) (label ++ message)

/-- `evidenceRefs` of the canary gate. -/
def evidenceRefs (value : List JsString) (label : JsString) : Except ReleaseError Unit := do
  strings value label
  ensure (value.all evidenceRef) (label ++ js " contains an invalid evidence reference")

/-- `evidenceRefs` of the production gate. -/
def versionedRefs (value : List JsString) (label : JsString) : Except ReleaseError Unit :=
  ensure (!value.isEmpty && value.all evidenceRef)
    (label ++ js " must contain versioned evidence references")

end Gate

section Results

variable {value label text : JsString} {message : JsString} {ok : Bool} {u : Unit}
  {values texts : List JsString}

theorem validate_eq_ok : validate ok message = .ok u ↔ ok = true := by
  unfold validate
  by_cases hok : ok = true
  · simp [hok]
  · simp [hok]

theorem ensure_eq_ok : Gate.ensure ok message = .ok u ↔ ok = true := by
  unfold Gate.ensure
  by_cases hok : ok = true
  · simp [hok]
  · simp [hok]

/-- A text that has been trimmed and is not empty. -/
def Trimmed (text : JsString) : Prop :=
  trim text = text ∧ text ≠ []

theorem Trimmed.trim_ne_nil (h : Trimmed text) : trim text ≠ [] := by
  rw [h.1]
  exact h.2

theorem trimmed_of_required {maximum : ℕ} (h : required value label maximum = .ok text) :
    Trimmed text := by
  simp only [required, check_bind_eq_ok, validate_eq_ok, Bool.and_eq_true, Bool.not_eq_true',
    List.isEmpty_eq_false_iff] at h
  obtain ⟨⟨hne, -⟩, htext⟩ := h
  obtain rfl := Except.ok.inj htext
  exact ⟨trim_trim value, hne⟩

theorem safeId_of_id (h : id value label = .ok text) : safeId text = true ∧ Trimmed text := by
  simp only [id, bind_eq_ok, validate_eq_ok] at h
  obtain ⟨_, hrequired, _, hsafe, htext⟩ := h
  obtain rfl := Except.ok.inj htext
  exact ⟨hsafe, trimmed_of_required hrequired⟩

theorem trimmed_of_strings (h : strings values label = .ok texts) :
    texts ≠ [] ∧ ∀ text ∈ texts, Trimmed text := by
  simp only [strings, check_bind_eq_ok, validate_eq_ok, Bool.and_eq_true, Bool.not_eq_true',
    List.isEmpty_eq_false_iff] at h
  obtain ⟨⟨hne, -⟩, htexts⟩ := h
  constructor
  · intro hnil
    have hlength := (mapM_eq_ok.mp htexts).length_eq
    rw [hnil, List.length_zipIdx, List.length_nil] at hlength
    exact hne (List.eq_nil_of_length_eq_zero hlength)
  · intro text htext
    obtain ⟨item, -, hitem⟩ := exists_of_mem_mapM htexts text htext
    exact trimmed_of_required hitem

theorem evidenceRefs_valid (h : evidenceRefs values label = .ok texts) :
    texts ≠ [] ∧ ∀ text ∈ texts, evidenceRef text = true := by
  simp only [evidenceRefs, bind_eq_ok, validate_eq_ok, List.all_eq_true] at h
  obtain ⟨_, hstrings, _, hrefs, htexts⟩ := h
  obtain rfl := Except.ok.inj htexts
  exact ⟨(trimmed_of_strings hstrings).1, hrefs⟩

theorem runbookPath_of_runbook (h : runbook value label = .ok text) :
    runbookPath text = true ∧ Trimmed text := by
  simp only [runbook, bind_eq_ok, validate_eq_ok] at h
  obtain ⟨_, hrequired, _, hpath, htext⟩ := h
  obtain rfl := Except.ok.inj htext
  exact ⟨hpath, trimmed_of_required hrequired⟩

theorem string_eq_ok : Gate.string value label = .ok u ↔ trim value ≠ [] := by
  rw [Gate.string, ensure_eq_ok, Bool.not_eq_true', List.isEmpty_eq_false_iff]

theorem strings_eq_ok : Gate.strings values label = .ok u ↔
    values ≠ [] ∧ ∀ value ∈ values, trim value ≠ [] := by
  rw [Gate.strings, ensure_eq_ok]
  simp only [Bool.and_eq_true, Bool.not_eq_true', List.isEmpty_eq_false_iff, List.all_eq_true]

theorem not_isWhiteSpace_of_letterOrDigit {u : UInt16} (h : isLetterOrDigit u = true) :
    isWhiteSpace u = false := by
  simp only [isLetterOrDigit, decide_eq_true_eq, UInt16.le_iff_toNat_le] at h
  simp only [isWhiteSpace, Bool.or_eq_false_iff, Bool.and_eq_false_iff, decide_eq_false_iff_not,
    UInt16.le_iff_toNat_le, beq_eq_false_iff_ne, ne_eq, ← UInt16.toNat_inj] at h ⊢
  simp only [UInt16.reduceToNat] at h ⊢
  omega

theorem trim_ne_nil_of_head {u : UInt16} {rest : JsString} (h : isLetterOrDigit u = true) :
    trim (u :: rest) ≠ [] := by
  apply Strip.strip_ne_nil_iff.mpr
  exact ⟨u, List.mem_cons_self, not_isWhiteSpace_of_letterOrDigit h⟩

theorem trim_ne_nil_of_safeId (h : safeId text = true) : trim text ≠ [] := by
  cases text with
  | nil => cases h
  | cons u rest =>
      simp only [safeId, Bool.and_eq_true] at h
      exact trim_ne_nil_of_head h.1.1

theorem trim_ne_nil_of_hexadecimal {length : ℕ} (hlength : text.length = length)
    (hpos : 0 < length)
    (h : (text.all fun u => isDigit u || decide (0x61 ≤ u ∧ u ≤ 0x66)) = true) :
    trim text ≠ [] := by
  cases text with
  | nil => exact absurd hlength hpos.ne
  | cons u rest =>
      apply trim_ne_nil_of_head
      have hu := List.all_eq_true.mp h u List.mem_cons_self
      simp only [isDigit, Bool.or_eq_true, decide_eq_true_eq, UInt16.le_iff_toNat_le] at hu
      simp only [isLetterOrDigit, decide_eq_true_eq, UInt16.le_iff_toNat_le]
      simp only [UInt16.reduceToNat] at hu ⊢
      omega

theorem trim_ne_nil_of_commitSha (h : commitSha text = true) : trim text ≠ [] := by
  simp only [commitSha, Bool.and_eq_true, decide_eq_true_eq] at h
  exact trim_ne_nil_of_hexadecimal h.1 (by decide) h.2

theorem trim_ne_nil_of_digest (h : digestText text = true) : trim text ≠ [] := by
  simp only [digestText, Bool.and_eq_true, decide_eq_true_eq] at h
  exact trim_ne_nil_of_hexadecimal h.1 (by decide) h.2

theorem trim_ne_nil_of_evidenceRef (h : evidenceRef text = true) : trim text ≠ [] := by
  unfold evidenceRef at h
  simp only at h
  split at h
  · next first rest _ _ hscheme _ =>
    simp only [Bool.and_eq_true] at h
    have hhead : text.head? = some first := by
      have hstarts := List.takeWhile_prefix (l := text) fun u : UInt16 => decide (u ≠ 0x3A)
      rw [hscheme] at hstarts
      obtain ⟨after, rfl⟩ := hstarts
      rfl
    obtain ⟨after, rfl⟩ := List.head?_eq_some_iff.mp hhead
    apply trim_ne_nil_of_head
    have hlower := h.1.1.1
    simp only [isLowerLetter, decide_eq_true_eq] at hlower
    simp only [isLetterOrDigit, decide_eq_true_eq]
    exact Or.inr (Or.inr hlower)
  · cases h

theorem gateId_eq_ok {reject : Bool} : Gate.id message value label reject = .ok u ↔
    safeId value = true ∧ (reject = true → isPlaceholder value = false) := by
  rw [Gate.id, check_bind_eq_ok, string_eq_ok, ensure_eq_ok]
  simp only [Bool.and_eq_true, Bool.not_eq_true', Bool.and_eq_false_imp]
  constructor
  · exact And.right
  · intro h
    exact ⟨trim_ne_nil_of_safeId h.1, h⟩

theorem gateRefs_eq_ok : Gate.evidenceRefs values label = .ok u ↔
    values ≠ [] ∧ ∀ value ∈ values, evidenceRef value = true := by
  rw [Gate.evidenceRefs, check_bind_eq_ok, strings_eq_ok, ensure_eq_ok, List.all_eq_true]
  constructor
  · rintro ⟨⟨hne, -⟩, hrefs⟩
    exact ⟨hne, hrefs⟩
  · rintro ⟨hne, hrefs⟩
    exact ⟨⟨hne, fun value hvalue => trim_ne_nil_of_evidenceRef (hrefs value hvalue)⟩, hrefs⟩

theorem versionedRefs_eq_ok : Gate.versionedRefs values label = .ok u ↔
    values ≠ [] ∧ ∀ value ∈ values, evidenceRef value = true := by
  rw [Gate.versionedRefs, ensure_eq_ok]
  simp only [Bool.and_eq_true, Bool.not_eq_true', List.isEmpty_eq_false_iff, List.all_eq_true]

end Results

end DevHarness.ReleaseCenter
