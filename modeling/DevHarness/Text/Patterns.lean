import DevHarness.Text.Json

/-!
# Patterns in JavaScript strings

Matching at the head of a text, replacing every match, and what the platform provides
for texts: `JSON.parse` and `toLowerCase`.
-/

namespace JsText

/-- What JavaScript provides: `JSON.parse`, which throws where there is no value, and
`String.prototype.toLowerCase`, which leaves lower-case letters and `_` alone. -/
structure Platform where
  parse : JsString → Option Json
  toLowerCase : JsString → JsString
  toLowerCase_of_lower : ∀ s : JsString,
    (∀ u ∈ s, u = 0x5F ∨ (0x61 ≤ u ∧ u ≤ 0x7A)) → toLowerCase s = s

/-- A unit without its case, for the letters of a pattern with the flag `i`. -/
def foldCase (u : UInt16) : UInt16 :=
  if 0x41 ≤ u ∧ u ≤ 0x5A then u + 0x20 else u

theorem map_foldCase_of_lower {s : JsString}
    (h : ∀ u ∈ s, u = 0x5F ∨ (0x61 ≤ u ∧ u ≤ 0x7A)) : s.map foldCase = s := by
  refine (List.map_congr_left fun u hu => ?_).trans (List.map_id s)
  have hupper : ¬ (0x41 ≤ u ∧ u ≤ 0x5A) := by
    have hu := h u hu
    simp only [UInt16.le_iff_toNat_le, ← UInt16.toNat_inj] at hu ⊢
    simp only [UInt16.reduceToNat] at hu ⊢
    omega
  rw [foldCase, if_neg hupper]
  rfl

def isLetterOrDigit (u : UInt16) : Bool :=
  (0x30 ≤ u ∧ u ≤ 0x39) ∨ (0x41 ≤ u ∧ u ≤ 0x5A) ∨ (0x61 ≤ u ∧ u ≤ 0x7A)

/-- The head of a text that is `word` in some case, and the rest. -/
def splitWord (word s : JsString) : Option (JsString × JsString) :=
  if word.isPrefixOf (s.map foldCase) then some (s.take word.length, s.drop word.length)
  else none

/-- Whether a text has `word` in it, in some case. -/
def hasWord (word : JsString) (s : JsString) : Bool :=
  s.tails.any fun rest => (splitWord word rest).isSome

/-- `replace` with the flag `g`.  A pattern looks at the head of a text and answers what
replaces its match and how long the match is; `skip` units belong to the last match. -/
def replaceAll (pattern : JsString → Option (JsString × ℕ)) : ℕ → JsString → JsString
  | _, [] => []
  | skip + 1, _ :: rest => replaceAll pattern skip rest
  | 0, u :: rest =>
    match pattern (u :: rest) with
    | some (replacement, length) => replacement ++ replaceAll pattern (length - 1) rest
    | none => u :: replaceAll pattern 0 rest

/-- A constant text, replaced as by `split` and `join`. -/
def constant (word replacement : JsString) (s : JsString) : Option (JsString × ℕ) :=
  if word.isPrefixOf s then some (replacement, word.length) else none

end JsText
