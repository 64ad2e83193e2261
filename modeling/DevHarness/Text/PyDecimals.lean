import Mathlib.Tactic.IntervalCases
import DevHarness.Text.Decimals
import DevHarness.Text.PyValue

/-!
# Decimal texts in Python

A padded number consists of digits, and `int` reads it back.
-/

namespace PyText

open JsText

/-- A character from `0` to `9`. -/
def IsDigitChar (c : Char) : Prop :=
  0x30 ≤ c.toNat ∧ c.toNat ≤ 0x39

def paddedChars (width n : ℕ) : List Char :=
  List.replicate (width - (Nat.toDigits 10 n).length) '0' ++ Nat.toDigits 10 n

section Digits

variable {width n : ℕ} {c : Char} {cs : List Char} {s : PyString}

theorem padded_eq_map : padded width n = (paddedChars width n).map Char.toNat := by
  rw [padded, paddedChars, py, toList_toString, List.length_map, List.map_append,
    List.map_replicate]
  rfl

theorem isDigitChar_of_mem (hc : c ∈ paddedChars width n) : IsDigitChar c := by
  rcases List.mem_append.mp hc with hc | hc
  · rw [List.eq_of_mem_replicate hc]
    exact ⟨by decide, by decide⟩
  · exact toNat_of_mem_toDigits hc

theorem paddedChars_ne_nil (width n : ℕ) : paddedChars width n ≠ [] := by
  intro hnil
  exact Nat.toDigits_ne_nil (List.append_eq_nil_iff.mp hnil).2

theorem ofDigitChars_paddedChars (width n : ℕ) : Nat.ofDigitChars 10 (paddedChars width n) 0 = n := by
  rw [paddedChars, Nat.ofDigitChars_append, Nat.ofDigitChars_replicate_zero, Nat.mul_zero,
    Nat.ofDigitChars_ten_toDigits]

theorem digitValue_toNat (hc : IsDigitChar c) : digitValue c.toNat = some (c.toNat - 0x30) := by
  obtain ⟨hlow, hhigh⟩ := hc
  generalize c.toNat = u at hlow hhigh
  interval_cases u <;> rfl

theorem not_isSpace_toNat (hc : IsDigitChar c) : isSpace c.toNat = false := by
  obtain ⟨hlow, hhigh⟩ := hc
  generalize c.toNat = u at hlow hhigh
  interval_cases u <;> rfl

theorem readDigits_map (hcs : ∀ c ∈ cs, IsDigitChar c) (value : ℕ) :
    readDigits (cs.map Char.toNat) value true = some (Nat.ofDigitChars 10 cs value) := by
  induction cs generalizing value with
  | nil => rfl
  | cons c cs ih =>
      have hread := digitValue_toNat (hcs c List.mem_cons_self)
      rw [List.map_cons, readDigits, hread, Nat.ofDigitChars_cons, Nat.mul_comm 10 value]
      exact ih (fun d hd => hcs d (List.mem_cons_of_mem _ hd)) _

theorem readDigits_padded (width n : ℕ) : readDigits (padded width n) 0 false = some n := by
  have hvalue := ofDigitChars_paddedChars width n
  have hdigit : ∀ c ∈ paddedChars width n, IsDigitChar c := fun c => isDigitChar_of_mem
  rw [padded_eq_map]
  obtain ⟨c, cs, hcs⟩ := List.exists_cons_of_ne_nil (paddedChars_ne_nil width n)
  rw [hcs] at hdigit hvalue ⊢
  have hread := digitValue_toNat (hdigit c List.mem_cons_self)
  rw [List.map_cons, readDigits, hread]
  simp only
  rw [readDigits_map fun d hd => hdigit d (List.mem_cons_of_mem _ hd), ← hvalue,
    Nat.ofDigitChars_cons]
  rfl

/-- A text without white space is left alone by `strip`. -/
theorem strip_eq_self (h : ∀ c ∈ s, isSpace c = false) : strip s = s := by
  apply Strip.strip_eq_self_iff.mpr
  intro hne
  exact ⟨h _ (List.head_mem hne), h _ (List.getLast_mem hne)⟩

theorem not_isSpace_of_mem_padded {u : CodePoint} (hu : u ∈ padded width n) : isSpace u = false := by
  rw [padded_eq_map] at hu
  obtain ⟨c, hc, rfl⟩ := List.mem_map.mp hu
  exact not_isSpace_toNat (isDigitChar_of_mem hc)

theorem length_padded_le {bound : ℕ} (hwidth : width ≤ bound) (hpos : 0 < bound)
    (hn : n < 10 ^ bound) : (padded width n).length ≤ bound := by
  have hdigits := (Nat.length_toDigits_le_iff (by decide) hpos).mpr hn
  rw [padded_eq_map, List.length_map, paddedChars, List.length_append, List.length_replicate]
  omega

theorem parseInt_padded (hlength : (padded width n).length ≤ 4300) :
    parseInt (padded width n) = some (n : ℤ) := by
  have hcount : ¬ 4300 < ((padded width n).filter fun c => (digitValue c).isSome).length := by
    have hle := List.length_filter_le (fun c => (digitValue c).isSome) (padded width n)
    omega
  have hstrip : strip (padded width n) = padded width n :=
    strip_eq_self fun c => not_isSpace_of_mem_padded
  have hread := readDigits_padded width n
  have hhead : ∀ u ∈ padded width n, u ≠ 0x2D ∧ u ≠ 0x2B := by
    intro u hu
    rw [padded_eq_map] at hu
    obtain ⟨c, hc, rfl⟩ := List.mem_map.mp hu
    have hlow := (isDigitChar_of_mem hc).1
    constructor <;> intro heq <;> rw [heq] at hlow <;> exact absurd hlow (by decide)
  rw [parseInt, if_neg hcount, hstrip]
  split
  · rename_i rest heq
    exact absurd rfl (hhead 0x2D (heq ▸ List.mem_cons_self)).1
  · rename_i rest heq
    exact absurd rfl (hhead 0x2B (heq ▸ List.mem_cons_self)).2
  · rw [hread]
    rfl

end Digits

end PyText
