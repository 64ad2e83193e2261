import Mathlib.Data.List.Nodup
import Mathlib.Order.Lattice

/-!
# Rotations of a sorted list

A round robin goes through a sorted list, from behind the entry that was served last to this entry.
An entry is served on the way to a goal at most once: each one that is served is nearer to the goal
than the one before.
-/

namespace DevHarness.Sequence

/-- The first entry that can be served is the goal or comes before it, if the goal can be
served. -/
theorem exists_of_findSome? {α β : Type} {r : α → α → Prop} {f : α → Option β} {l : List α}
    {goal : α} (hpairwise : l.Pairwise r)
    (hgoal : goal ∈ l) (hserved : (f goal).isSome = true) :
    ∃ x ∈ l, f x = l.findSome? f ∧ (f x).isSome = true ∧ (x = goal ∨ r x goal) := by
  induction l with
  | nil => cases hgoal
  | cons head tail ih =>
      obtain ⟨hhead, htail⟩ := List.pairwise_cons.mp hpairwise
      cases hf : f head with
      | some y =>
          refine ⟨head, List.mem_cons_self, ?_, ?_, ?_⟩
          · rw [List.findSome?_cons, hf]
          · rw [hf]
            rfl
          · rcases List.mem_cons.mp hgoal with rfl | hmem
            · exact Or.inl rfl
            · exact Or.inr (hhead goal hmem)
      | none =>
          have hmem : goal ∈ tail := by
            rcases List.mem_cons.mp hgoal with rfl | hmem
            · rw [hf] at hserved
              cases hserved
            · exact hmem
          obtain ⟨x, hx, hfirst, hsome, hbefore⟩ := ih htail hmem
          refine ⟨x, List.mem_cons_of_mem _ hx, ?_, hsome, hbefore⟩
          rw [List.findSome?_cons, hf]
          exact hfirst

/-! ## The order of a round robin -/

/-- The entries behind `last`, and then the others; the list as it is when `last` is not in it. -/
def rotateAfter {α : Type} [BEq α] [LawfulBEq α] (last : α) (l : List α) : List α :=
  if last ∈ l then l.drop (l.idxOf last + 1) ++ l.take (l.idxOf last + 1) else l

theorem mem_rotateAfter {α : Type} [BEq α] [LawfulBEq α] {last a : α} {l : List α} :
    a ∈ rotateAfter last l ↔ a ∈ l := by
  unfold rotateAfter
  split
  · rw [List.mem_append, or_comm, ← List.mem_append, List.take_append_drop]
  · rfl

section Order

variable {α : Type} [LinearOrder α]

/-- Behind `last`, `a` comes before `b`. -/
def Before (last a b : α) : Prop :=
  (last < a ∧ b ≤ last) ∨ (a < b ∧ (last < a ∨ b ≤ last))

/-- On the way to the goal, `b` comes behind `a`. -/
def Nearer (goal a b : α) : Prop :=
  (goal < a ∧ b < goal) ∨ (a < b ∧ (b < goal ∨ goal < a))

variable {last goal a b c : α} {l : List α}

theorem Nearer.trans (h : Nearer goal a b) (h' : Nearer goal b c) : Nearer goal a c := by
  rcases h with ⟨ha, hb⟩ | ⟨hab, hb | ha⟩
  · rcases h' with ⟨hb', -⟩ | ⟨hbc, hc | hb'⟩
    · exact absurd (hb.trans hb') (lt_irrefl _)
    · exact Or.inl ⟨ha, hc⟩
    · exact absurd (hb.trans hb') (lt_irrefl _)
  · rcases h' with ⟨hb', -⟩ | ⟨hbc, hc | hb'⟩
    · exact absurd (hb.trans hb') (lt_irrefl _)
    · exact Or.inr ⟨hab.trans hbc, Or.inl hc⟩
    · exact absurd (hb.trans hb') (lt_irrefl _)
  · rcases h' with ⟨-, hc⟩ | ⟨hbc, -⟩
    · exact Or.inl ⟨ha, hc⟩
    · exact Or.inr ⟨hab.trans hbc, Or.inr ha⟩

theorem Nearer.ne (h : Nearer goal a b) : a ≠ b := by
  rintro rfl
  rcases h with ⟨ha, hb⟩ | ⟨hab, -⟩
  · exact lt_irrefl _ (ha.trans hb)
  · exact lt_irrefl _ hab

theorem Nearer.ne_goal (h : Nearer goal a b) : b ≠ goal := by
  rintro rfl
  rcases h with ⟨-, hb⟩ | ⟨hab, hb | ha⟩
  · exact lt_irrefl _ hb
  · exact lt_irrefl _ hb
  · exact lt_irrefl _ (ha.trans hab)

/-- What comes between `last` and the goal is nearer to it. -/
theorem Before.nearer (h : Before last a goal) (hne : last ≠ goal) : Nearer goal last a := by
  rcases h with ⟨ha, hgoal⟩ | ⟨hag, ha | hgoal⟩
  · exact Or.inr ⟨ha, Or.inr (lt_of_le_of_ne hgoal hne.symm)⟩
  · exact Or.inr ⟨ha, Or.inl hag⟩
  · exact Or.inl ⟨lt_of_le_of_ne hgoal hne.symm, hag⟩

/-- A list of which each entry is nearer than the ones before has no entry twice. -/
theorem nodup_of_pairwise_nearer (h : l.Pairwise (Nearer goal)) : l.Nodup :=
  h.imp Nearer.ne

/-- The rotation of a sorted list is in the order of the round robin. -/
theorem pairwise_rotateAfter [BEq α] [LawfulBEq α] (hsorted : l.Pairwise (· < ·)) (hlast : last ∈ l) :
    (rotateAfter last l).Pairwise (Before last) := by
  have hlt := List.idxOf_lt_length_of_mem hlast
  have hget := List.getElem_idxOf hlt
  have hdrop : l.drop (l.idxOf last) = last :: l.drop (l.idxOf last + 1) := by
    rw [List.drop_eq_getElem_cons hlt, hget]
  have hsplit : l = l.take (l.idxOf last) ++ last :: l.drop (l.idxOf last + 1) := by
    rw [← hdrop, List.take_append_drop]
  have htake : l.take (l.idxOf last + 1) = l.take (l.idxOf last) ++ [last] := by
    rw [List.take_add_one, List.getElem?_eq_getElem hlt, hget]
    rfl
  rw [hsplit, List.pairwise_append, List.pairwise_cons] at hsorted
  obtain ⟨hfront, ⟨hlater, hback⟩, hcross⟩ := hsorted
  have hearlier : ∀ x ∈ l.take (l.idxOf last), x < last :=
    fun x hx => hcross x hx last List.mem_cons_self
  rw [rotateAfter, if_pos hlast, htake, List.pairwise_append]
  refine ⟨?_, ?_, ?_⟩
  · apply hback.imp_of_mem
    intro x y hx _ hxy
    exact Or.inr ⟨hxy, Or.inl (hlater x hx)⟩
  · rw [List.pairwise_append]
    refine ⟨?_, List.pairwise_singleton _ _, ?_⟩
    · apply hfront.imp_of_mem
      intro x y _ hy hxy
      exact Or.inr ⟨hxy, Or.inr (hearlier y hy).le⟩
    · intro x hx y hy
      obtain rfl := List.mem_singleton.mp hy
      exact Or.inr ⟨hearlier x hx, Or.inr le_rfl⟩
  · intro x hx y hy
    rcases List.mem_append.mp hy with hy | hy
    · exact Or.inl ⟨hlater x hx, (hearlier y hy).le⟩
    · exact Or.inl ⟨hlater x hx, (List.mem_singleton.mp hy).le⟩

end Order

end DevHarness.Sequence
