import Mathlib.Data.List.DropRight

/-!
# Stripping

Removing the units of some kind, such as the white space of a language, from
both ends of a text.
-/

namespace Strip

variable {α : Type} {p : α → Bool} {l : List α}

/-- `l` without the longest prefix and the longest suffix of units in `p`. -/
def strip (p : α → Bool) (l : List α) : List α :=
  (l.dropWhile p).rdropWhile p

theorem strip_eq_nil_iff : strip p l = [] ↔ ∀ x ∈ l, p x = true := by
  unfold strip
  rw [List.rdropWhile_eq_nil_iff]
  constructor
  · intro h x hx
    rw [← List.takeWhile_append_dropWhile (p := p) (l := l), List.mem_append] at hx
    rcases hx with hx | hx
    · exact List.mem_takeWhile_imp hx
    · exact h x hx
  · intro h x hx
    exact h x ((List.dropWhile_suffix p).subset hx)

/-- Some unit outside `p` is what stripping leaves something of. -/
theorem strip_ne_nil_iff : strip p l ≠ [] ↔ ∃ x ∈ l, p x = false := by
  rw [Ne, strip_eq_nil_iff]
  simp

theorem length_strip_le : (strip p l).length ≤ l.length := by
  have hright := (List.rdropWhile_prefix p (l.dropWhile p)).length_le
  have hleft := (List.dropWhile_suffix (l := l) p).length_le
  exact hright.trans hleft

theorem strip_infix : strip p l <:+: l :=
  (List.rdropWhile_prefix p _).isInfix.trans (List.dropWhile_suffix p).isInfix

/-- A text is left alone when neither of its ends is in `p`. -/
theorem strip_eq_self_iff :
    strip p l = l ↔ ∀ h : l ≠ [], p (l.head h) = false ∧ p (l.getLast h) = false := by
  constructor
  · intro hself hne
    have hdrop : l.dropWhile p = l := by
      have hlen := (List.rdropWhile_prefix p (l.dropWhile p)).length_le
      rw [show (l.dropWhile p).rdropWhile p = l from hself] at hlen
      exact (List.dropWhile_suffix p).eq_of_length_le hlen
    have hrdrop : l.rdropWhile p = l := by
      have hboth := hself
      unfold strip at hboth
      rwa [hdrop] at hboth
    have hlast := List.rdropWhile_eq_self_iff.mp hrdrop hne
    have hhead := List.dropWhile_eq_self_iff.mp hdrop (List.length_pos_of_ne_nil hne)
    rw [List.head_eq_getElem]
    exact ⟨by simpa using hhead, by simpa using hlast⟩
  · intro hends
    have hdrop : l.dropWhile p = l := by
      rw [List.dropWhile_eq_self_iff]
      intro hpos
      have hne := List.ne_nil_of_length_pos hpos
      have hhead := (hends hne).1
      rw [List.head_eq_getElem] at hhead
      simp [hhead]
    unfold strip
    rw [hdrop, List.rdropWhile_eq_self_iff]
    intro hne
    simp [(hends hne).2]

/-- What has been stripped is left alone by stripping. -/
theorem strip_strip : strip p (strip p l) = strip p l := by
  rw [strip_eq_self_iff]
  intro hne
  have hlast := List.rdropWhile_last_not p (l.dropWhile p) hne
  refine ⟨?_, by simpa [strip] using hlast⟩
  have hdrop : l.dropWhile p ≠ [] := by
    intro hnil
    apply hne
    simp [strip, hnil]
  have hprefix : strip p l <+: l.dropWhile p := List.rdropWhile_prefix p _
  have hhead : (strip p l).head hne = (l.dropWhile p).head hdrop :=
    hprefix.head hne
  rw [hhead]
  have hnot := List.head_dropWhile_not p hdrop
  simpa using hnot

end Strip
