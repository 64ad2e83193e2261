import Mathlib.Data.List.Infix
import Mathlib.Data.List.Sort
import DevHarness.Text.Strip

/-!
# JavaScript strings

A JavaScript string is a sequence of 16-bit code units: its `length` counts
units, and concatenation and comparison are on units.  The units need not form
well-formed UTF-16.
-/

namespace JsText

abbrev JsString := List UInt16

instance lawfulBEq_jsString : LawfulBEq JsString := inferInstance

/-- What is asked of all units of a text is asked unit by unit, and not of all 65536. -/
instance (priority := 2000) decidableForallUnits (p : UInt16 → Prop) [DecidablePred p]
    (s : JsString) : Decidable (∀ u ∈ s, p u) :=
  List.decidableBAll p s

def encodeChar (c : Char) : JsString :=
  if c.toNat < 0x10000 then
    [c.toNat.toUInt16]
  else
    [(0xD800 + (c.toNat - 0x10000) / 0x400).toUInt16,
      (0xDC00 + (c.toNat - 0x10000) % 0x400).toUInt16]

def js (s : String) : JsString :=
  s.toList.flatMap encodeChar

/-- White space and line terminators; none of them lies outside the Basic
Multilingual Plane, so a unit is looked at on its own. -/
def isWhiteSpace (u : UInt16) : Bool :=
  (0x9 ≤ u && u ≤ 0xD) || u == 0x20 || u == 0xA0 || u == 0x1680 ||
    (0x2000 ≤ u && u ≤ 0x200A) || u == 0x2028 || u == 0x2029 || u == 0x202F ||
    u == 0x205F || u == 0x3000 || u == 0xFEFF

/-- `String.prototype.trim`. -/
def trim (s : JsString) : JsString :=
  Strip.strip isWhiteSpace s

/-- `Array.prototype.sort` without a comparator: by code units. -/
def sorted (l : List JsString) : List JsString :=
  l.insertionSort fun a b => a ≤ b

def units (s : JsString) : List ℕ :=
  s.map UInt16.toNat

/-- `Array.prototype.join`. -/
def join (separator : JsString) : List JsString → JsString
  | [] => []
  | [s] => s
  | s :: t :: rest => s ++ separator ++ join separator (t :: rest)

/-- `Boolean(value)` of an optional string: neither absent nor empty. -/
def truthy : Option JsString → Bool
  | none => false
  | some s => !s.isEmpty

/-- Two lists that sort to the same list hold the same strings equally often. -/
theorem perm_of_sorted_eq {l l' : List JsString} (h : sorted l = sorted l') : l.Perm l' :=
  ((List.perm_insertionSort _ l).symm.trans (List.Perm.of_eq h)).trans
    (List.perm_insertionSort _ l')

theorem trim_trim (s : JsString) : trim (trim s) = trim s :=
  Strip.strip_strip

theorem exists_of_truthy {value : Option JsString} (h : truthy value = true) :
    ∃ s, value = some s ∧ s ≠ [] := by
  cases value with
  | none => cases h
  | some s =>
      refine ⟨s, rfl, ?_⟩
      intro hs
      subst hs
      cases h

end JsText
