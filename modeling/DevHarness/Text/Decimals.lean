import DevHarness.Text.JsString

/-!
# Decimal texts

How a natural number prints: in decimal digits, and different numbers differently.
-/

namespace JsText

def isDecimal (u : UInt16) : Prop := 0x30 ≤ u.toNat ∧ u.toNat ≤ 0x39

theorem toList_toString (n : ℕ) : (toString n).toList = Nat.toDigits 10 n := by
  rw [Nat.toString_eq_ofList_toDigits, String.toList_ofList]

variable {n : ℕ} {c : Char}

theorem toNat_of_mem_toDigits (hc : c ∈ Nat.toDigits 10 n) : 0x30 ≤ c.toNat ∧ c.toNat ≤ 0x39 := by
  have hdigit : c.isDigit = true := Nat.isDigit_of_mem_toDigits (by decide) (by decide) hc
  simp only [Char.isDigit, Bool.and_eq_true, decide_eq_true_eq, ge_iff_le] at hdigit
  rw [UInt32.le_iff_toNat_le, UInt32.le_iff_toNat_le] at hdigit
  exact hdigit

theorem toNat_unit (hc : c ∈ Nat.toDigits 10 n) : c.toNat.toUInt16.toNat = c.toNat := by
  have hle := (toNat_of_mem_toDigits hc).2
  change c.toNat % 65536 = c.toNat
  omega

theorem js_toString (n : ℕ) :
    js (toString n) = (Nat.toDigits 10 n).map fun c => c.toNat.toUInt16 := by
  rw [js, toList_toString, List.map_eq_flatMap]
  apply List.flatMap_congr
  intro c hc
  have hle := (toNat_of_mem_toDigits hc).2
  rw [encodeChar, if_pos (by omega)]

theorem isDecimal_of_mem {u : UInt16} (hu : u ∈ js (toString n)) : isDecimal u := by
  rw [js_toString] at hu
  obtain ⟨c, hc, rfl⟩ := List.mem_map.mp hu
  rw [isDecimal, toNat_unit hc]
  exact toNat_of_mem_toDigits hc

theorem js_toString_injective : Function.Injective fun n : ℕ => js (toString n) := by
  intro m n h
  have hread : ∀ k : ℕ, (js (toString k)).map (fun u => Char.ofNat u.toNat) =
      Nat.toDigits 10 k := by
    intro k
    rw [js_toString, List.map_map]
    conv_rhs => rw [← List.map_id (Nat.toDigits 10 k)]
    apply List.map_congr_left
    intro c hc
    rw [Function.comp_apply, toNat_unit hc, Char.ofNat_toNat, id]
  have hdigits : Nat.toDigits 10 m = Nat.toDigits 10 n := by
    rw [← hread m, ← hread n]
    exact congrArg _ h
  calc
    m = Nat.ofDigitChars 10 (Nat.toDigits 10 m) 0 := Nat.ofDigitChars_ten_toDigits.symm
    _ = Nat.ofDigitChars 10 (Nat.toDigits 10 n) 0 := by rw [hdigits]
    _ = n := Nat.ofDigitChars_ten_toDigits

end JsText
