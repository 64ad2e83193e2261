import Mathlib.Data.Int.Notation
import Mathlib.Data.List.Basic
import Mathlib.Logic.Relation

/-!
# Relations without cycles

A relation without cycles has an end in every finite list, and stays without cycles when what is
new only leads downwards or to what is old.
-/

namespace DevHarness.Sequence

open Relation

variable {α : Type} {r r' : α → α → Prop}

/-- Nothing leads back to itself. -/
def Acyclic (r : α → α → Prop) : Prop :=
  ∀ a, ¬ TransGen r a a

theorem Acyclic.of_imp (h : Acyclic r) (himp : ∀ a b, r' a b → r a b) : Acyclic r' := by
  intro a hcycle
  exact h a (hcycle.lift id himp)

theorem Acyclic.exists_end (h : Acyclic r) (items : List α) (hne : items ≠ []) :
    ∃ a ∈ items, ∀ b ∈ items, ¬ r a b := by
  classical
  induction hlength : items.length using Nat.strongRecOn generalizing items with
  | ind n ih =>
      obtain ⟨a, rest, rfl⟩ := List.exists_cons_of_ne_nil hne
      -- what the first item leads to
      by_cases hend : ((a :: rest).filter fun b => TransGen r a b) = []
      · refine ⟨a, List.mem_cons_self, ?_⟩
        intro b hb hab
        have hnot := List.filter_eq_nil_iff.mp hend b hb
        exact hnot (decide_eq_true (TransGen.single hab))
      · have hshorter : ((a :: rest).filter fun b => TransGen r a b).length < n := by
          rw [← hlength, List.filter_cons_of_neg (by simpa using h a), List.length_cons]
          exact Nat.lt_succ_of_le (List.length_filter_le _ _)
        obtain ⟨e, he, hmin⟩ := ih _ hshorter _ hend rfl
        obtain ⟨hmem, hreach⟩ := List.mem_filter.mp he
        refine ⟨e, hmem, ?_⟩
        intro b hb heb
        have hpath : TransGen r a b := (of_decide_eq_true hreach).tail heb
        exact hmin b (List.mem_filter.mpr ⟨hb, decide_eq_true hpath⟩) heb

/-- What is old leads only to what is old, as it did; what is new leads there, or downwards. -/
theorem Acyclic.extend (h : Acyclic r) (old : α → Prop) (rank : α → ℤ)
    (hold : ∀ a b, old a → r' a b → old b ∧ r a b)
    (hnew : ∀ a b, ¬ old a → r' a b → old b ∨ rank b < rank a) : Acyclic r' := by
  have hfromOld : ∀ a b, TransGen r' a b → old a → old b ∧ TransGen r a b := by
    intro a b hpath ha
    induction hpath with
    | single hstep => exact ⟨(hold _ _ ha hstep).1, TransGen.single (hold _ _ ha hstep).2⟩
    | tail _ hstep ih => exact ⟨(hold _ _ ih.1 hstep).1, ih.2.tail (hold _ _ ih.1 hstep).2⟩
  have hfromNew : ∀ a b, TransGen r' a b → ¬ old a → old b ∨ rank b < rank a := by
    intro a b hpath ha
    induction hpath with
    | single hstep => exact hnew _ _ ha hstep
    | @tail c d _ hstep ih =>
        by_cases hc : old c
        · exact Or.inl (hold _ _ hc hstep).1
        · rcases ih with ih | ih
          · exact absurd ih hc
          · rcases hnew _ _ hc hstep with hd | hd
            · exact Or.inl hd
            · exact Or.inr (Int.lt_trans hd ih)
  intro a hcycle
  by_cases ha : old a
  · exact h a (hfromOld a a hcycle ha).2
  · rcases hfromNew a a hcycle ha with hback | hback
    · exact ha hback
    · exact Int.lt_irrefl _ hback

theorem acyclic_of_rank (rank : α → ℤ) (h : ∀ a b, r a b → rank b < rank a) : Acyclic r := by
  have hempty : Acyclic fun _ _ : α => False := by
    intro a hcycle
    cases hcycle with
    | single hstep => exact hstep
    | tail _ hstep => exact hstep
  exact hempty.extend (fun _ => False) rank (fun _ _ hold => hold.elim)
    fun a b _ hstep => Or.inr (h a b hstep)

end DevHarness.Sequence
