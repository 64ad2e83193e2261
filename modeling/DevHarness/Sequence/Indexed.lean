import Mathlib.Data.List.Nodup

/-!
# Items with their positions

What is said of each item of a list together with its position, and the distinct values of a list.
-/

namespace DevHarness.Sequence

variable {α β : Type} {l : List α} {p : α → Prop}

theorem forall_mem_zipIdx : (∀ entry ∈ l.zipIdx, p entry.1) ↔ ∀ item ∈ l, p item := by
  constructor
  · intro h item hitem
    obtain ⟨n, hn⟩ := List.mem_iff_getElem?.mp hitem
    exact h (item, n) (List.mk_mem_zipIdx_iff_getElem?.mpr hn)
  · rintro h ⟨item, n⟩ hentry
    have hn := List.mk_mem_zipIdx_iff_getElem?.mp hentry
    exact h item (List.mem_of_getElem? hn)

/-- The values are distinct when none stands before itself. -/
theorem nodup_map_iff_zipIdx {f : α → β} :
    (l.map f).Nodup ↔ ∀ entry ∈ l.zipIdx, f entry.1 ∉ (l.take entry.2).map f := by
  constructor
  · rintro hnodup ⟨item, n⟩ hentry hearlier
    have hn := List.mk_mem_zipIdx_iff_getElem?.mp hentry
    obtain ⟨hlt, rfl⟩ := List.getElem?_eq_some_iff.mp hn
    rw [List.map_take, List.mem_take_iff_getElem] at hearlier
    obtain ⟨i, hi, hsame⟩ := hearlier
    have hne := List.pairwise_iff_getElem.mp hnodup i n (by omega) (by simpa using hlt) (by omega)
    rw [hsame, List.getElem_map] at hne
    exact hne rfl
  · intro h
    rw [List.Nodup, List.pairwise_iff_getElem]
    intro i j hi hj hlt hsame
    rw [List.length_map] at hi hj
    apply h (l[j], j) (List.mk_mem_zipIdx_iff_getElem?.mpr (List.getElem?_eq_getElem hj))
    rw [List.map_take, List.mem_take_iff_getElem]
    refine ⟨i, ?_, ?_⟩
    · rw [List.length_map]
      omega
    · rw [hsame, List.getElem_map]

theorem find?_reverse_eq_some_iff {p : α → Bool} {item : α} :
    l.reverse.find? p = some item ↔ ∃ before after, l = before ++ item :: after ∧
      p item = true ∧ ∀ later ∈ after, p later = false := by
  rw [List.find?_eq_some_iff_append]
  constructor
  · rintro ⟨hitem, after, before, hsplit, hafter⟩
    refine ⟨before.reverse, after.reverse, ?_, hitem, ?_⟩
    · rw [List.reverse_eq_iff.mp hsplit]
      simp
    · intro later hlater
      simpa using hafter later (List.mem_reverse.mp hlater)
  · rintro ⟨before, after, rfl, hitem, hafter⟩
    refine ⟨hitem, after.reverse, before.reverse, by simp, ?_⟩
    intro later hlater
    rw [hafter later (List.mem_reverse.mp hlater)]
    rfl

section Distinct

variable [BEq α] [LawfulBEq α]

theorem nodup_eraseDups (l : List α) : l.eraseDups.Nodup := by
  induction hlength : l.length using Nat.strongRecOn generalizing l with
  | ind n ih =>
      cases l with
      | nil => exact List.nodup_nil
      | cons head tail =>
          have hshorter : (tail.filter fun item => !item == head).length < n := by
            rw [← hlength, List.length_cons]
            exact Nat.lt_succ_of_le (List.length_filter_le _ _)
          rw [List.eraseDups_cons, List.nodup_cons]
          constructor
          · rw [List.mem_eraseDups, List.mem_filter]
            simp
          · exact ih _ hshorter _ rfl

theorem eraseDups_of_nodup (h : l.Nodup) : l.eraseDups = l := by
  induction l with
  | nil => exact List.eraseDups_nil
  | cons head tail ih =>
      obtain ⟨hhead, htail⟩ := List.nodup_cons.mp h
      have hkeep : (tail.filter fun item => !item == head) = tail := by
        rw [List.filter_eq_self]
        intro item hitem
        have hne : item ≠ head := fun hsame => hhead (hsame ▸ hitem)
        simpa using hne
      rw [List.eraseDups_cons, hkeep, ih htail]

end Distinct

end DevHarness.Sequence
