import Mathlib.Data.Set.Basic
import Mathlib.Order.Bounds.Basic
import Mathlib.Order.Interval.Set.Nat

/-!
# Numbered items

Items that are numbered from one on, some of which may be missing: how far they go without a
gap, and where an item stands in a list by increasing numbers.
-/

namespace DevHarness.Sequence

/-- The numbers go from one to `k` without a gap, and no further. -/
def IsLongestPrefix (numbers : Set ℕ) (k : ℕ) : Prop :=
  IsGreatest {n | Set.Icc 1 n ⊆ numbers} k

variable {numbers : Set ℕ}

theorem isLongestPrefix_iff {k : ℕ} :
    IsLongestPrefix numbers k ↔ Set.Icc 1 k ⊆ numbers ∧ k + 1 ∉ numbers := by
  constructor
  · rintro ⟨hcontained, hgreatest⟩
    refine ⟨hcontained, fun hnext => ?_⟩
    have hlonger : k + 1 ≤ k := by
      apply hgreatest
      intro n hn
      by_cases hlast : n = k + 1
      · rw [hlast]
        exact hnext
      · exact hcontained ⟨hn.1, by have := hn.2; omega⟩
    omega
  · rintro ⟨hcontained, hmissing⟩
    refine ⟨hcontained, fun n hn => ?_⟩
    by_contra hlonger
    exact hmissing (hn ⟨by omega, by omega⟩)

theorem IsLongestPrefix.unique {k k' : ℕ} (h : IsLongestPrefix numbers k)
    (h' : IsLongestPrefix numbers k') : k = k' :=
  IsGreatest.unique h h'

section Increasing

variable {α : Type} {number : α → ℕ} {items : List α} {item : α} {k : ℕ}

def numbersOf (number : α → ℕ) (items : List α) : Set ℕ :=
  {n | ∃ item ∈ items, number item = n}

/-- The numbers start at one at the least, and get larger. -/
structure Increasing (number : α → ℕ) (items : List α) : Prop where
  positive : ∀ item ∈ items, 0 < number item
  pairwise : items.Pairwise fun earlier later => number earlier < number later

section

variable (h : Increasing number items)

include h

theorem Increasing.succ_le (i : ℕ) (hi : i < items.length) : i + 1 ≤ number items[i] := by
  induction i with
  | zero => exact h.positive _ (List.getElem_mem hi)
  | succ i ih =>
      have hlt := List.pairwise_iff_getElem.mp h.pairwise i (i + 1) (by omega) hi (by omega)
      have hle := ih (by omega)
      omega

/-- Where the numbers go without a gap, an item stands where its number says. -/
theorem Increasing.index (n i : ℕ) (hi : i < items.length)
    (hcontained : Set.Icc 1 n ⊆ numbersOf number items) (hnumber : number items[i] = n) :
    i + 1 = n := by
  induction n using Nat.strong_induction_on generalizing i with
  | _ n ih =>
      have hle := h.succ_le i hi
      by_contra hne
      obtain ⟨other, hother, hnumber'⟩ := hcontained (show i + 1 ∈ Set.Icc 1 n from
        ⟨by omega, by omega⟩)
      obtain ⟨j, hj, rfl⟩ := List.mem_iff_getElem.mp hother
      have hsame : j + 1 = i + 1 := by
        apply ih (i + 1) (by omega) j hj _ hnumber'
        intro m hm
        exact hcontained ⟨hm.1, by have := hm.2; omega⟩
      obtain rfl : j = i := by omega
      omega

theorem Increasing.take_succ (hitem : item ∈ items)
    (hcontained : Set.Icc 1 k ⊆ numbersOf number items) (hnumber : number item = k + 1) :
    items.take (k + 1) = items.take k ++ [item] := by
  obtain ⟨i, hi, rfl⟩ := List.mem_iff_getElem.mp hitem
  have hindex : i + 1 = k + 1 := by
    apply h.index (k + 1) i hi _ hnumber
    intro n hn
    by_cases hlast : n = k + 1
    · rw [hlast]
      exact ⟨items[i], hitem, hnumber⟩
    · exact hcontained ⟨hn.1, by have := hn.2; omega⟩
  obtain rfl : i = k := by omega
  rw [List.take_add_one, List.getElem?_eq_getElem hi, Option.toList_some]

theorem Increasing.eq_of_number_eq {other : α} (hitem : item ∈ items) (hother : other ∈ items)
    (hsame : number item = number other) : item = other := by
  obtain ⟨i, hi, rfl⟩ := List.mem_iff_getElem.mp hitem
  obtain ⟨j, hj, rfl⟩ := List.mem_iff_getElem.mp hother
  have hpairwise := List.pairwise_iff_getElem.mp h.pairwise
  rcases Nat.lt_trichotomy i j with hlt | heq | hgt
  · have := hpairwise i j hi hj hlt
    omega
  · simp only [heq]
  · have := hpairwise j i hj hi hgt
    omega

end

theorem le_length_of_contained (hcontained : Set.Icc 1 k ⊆ numbersOf number items) :
    k ≤ items.length := by
  have hsubset : List.range' 1 k ⊆ items.map number := by
    intro n hn
    obtain ⟨hlow, hhigh⟩ := List.mem_range'_1.mp hn
    obtain ⟨item, hitem, rfl⟩ := hcontained (show n ∈ Set.Icc 1 k from ⟨hlow, by omega⟩)
    exact List.mem_map_of_mem hitem
  have hle := (List.subperm_of_subset List.nodup_range' hsubset).length_le
  simpa using hle

end Increasing

end DevHarness.Sequence
