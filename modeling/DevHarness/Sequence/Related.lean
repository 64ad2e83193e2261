import Mathlib.Data.List.Forall2

/-!
# Related sequences

Two lists whose items are related one by one.
-/

namespace DevHarness.Sequence

section Pairs

variable {α β : Type} {R : α → β → Prop} {as : List α} {bs : List β}

/-- Every item on the left is related to one on the right. -/
theorem exists_right_of_forall₂ (h : List.Forall₂ R as bs) {a : α} (ha : a ∈ as) :
    ∃ b ∈ bs, R a b := by
  induction h with
  | nil => exact absurd ha List.not_mem_nil
  | cons hab _ ih =>
      rcases List.mem_cons.mp ha with rfl | ha
      · exact ⟨_, List.mem_cons_self, hab⟩
      · obtain ⟨b, hb, hR⟩ := ih ha
        exact ⟨b, List.mem_cons_of_mem _ hb, hR⟩

/-- Every item on the right is related to one on the left. -/
theorem exists_left_of_forall₂ (h : List.Forall₂ R as bs) {b : β} (hb : b ∈ bs) :
    ∃ a ∈ as, R a b := by
  obtain ⟨a, ha, hR⟩ := exists_right_of_forall₂ h.flip hb
  exact ⟨a, ha, hR⟩

end Pairs

end DevHarness.Sequence
