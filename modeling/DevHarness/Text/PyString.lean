import Mathlib.Data.List.Lex
import DevHarness.Text.CodePoints

/-!
# Python strings

A Python string is a sequence of code points, surrogates included: `len` counts code points,
and comparison is on code points.
-/

namespace PyText

open JsText

abbrev PyString := List CodePoint

instance lawfulBEq_pyString : LawfulBEq PyString := inferInstance

def py (s : String) : PyString :=
  s.toList.map Char.toNat

/-- `str.isspace` of one code point. -/
def isSpace (c : CodePoint) : Bool :=
  (0x9 ≤ c && c ≤ 0xD) || (0x1C ≤ c && c ≤ 0x20) || c == 0x85 || c == 0xA0 || c == 0x1680 ||
    (0x2000 ≤ c && c ≤ 0x200A) || c == 0x2028 || c == 0x2029 || c == 0x202F || c == 0x205F ||
    c == 0x3000

/-- `str.strip()`. -/
def strip (s : PyString) : PyString :=
  Strip.strip isSpace s

/-- `sorted` of texts. -/
def sorted (l : List PyString) : List PyString :=
  l.insertionSort fun a b => a ≤ b

theorem pairwise_sorted (l : List PyString) : (sorted l).Pairwise fun a b => ¬ b < a :=
  (List.pairwise_insertionSort (fun a b : PyString => a ≤ b) l).imp not_lt.mpr

/-- `sorted` with a pair of texts as the key; it is stable. -/
def sortedBy {α : Type} (key : α → PyString × PyString) (l : List α) : List α :=
  l.insertionSort fun a b =>
    (key a).1 < (key b).1 ∨ (key a).1 = (key b).1 ∧ (key a).2 ≤ (key b).2

theorem mem_sortedBy {α : Type} {key : α → PyString × PyString} {l : List α} {a : α} :
    a ∈ sortedBy key l ↔ a ∈ l :=
  (List.perm_insertionSort _ l).mem_iff

end PyText
