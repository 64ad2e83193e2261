import Mathlib.Data.List.Basic

/-!
# Objects found in an array

`find` hands out the first object that matches, and what is then written to its fields is
written to the array.
-/

namespace DevHarness.Sequence

variable {α β : Type}

/-- `f` is written to the object that `find` hands out. -/
def updateFirst (p : α → Bool) (f : α → α) : List α → List α
  | [] => []
  | x :: xs => if p x then f x :: xs else x :: updateFirst p f xs

variable {p : α → Bool} {f : α → α} {xs : List α} {x : α}

theorem find?_updateFirst (hfound : xs.find? p = some x) (hkept : p (f x) = true) :
    (updateFirst p f xs).find? p = some (f x) := by
  induction xs with
  | nil => cases hfound
  | cons head tail ih =>
      by_cases hp : p head = true
      · rw [List.find?_cons_of_pos hp] at hfound
        obtain rfl := Option.some.inj hfound
        rw [updateFirst, if_pos hp, List.find?_cons_of_pos hkept]
      · rw [List.find?_cons_of_neg hp] at hfound
        rw [updateFirst, if_neg hp, List.find?_cons_of_neg hp, ih hfound]

theorem exists_updateFirst_split (hfound : xs.find? p = some x) :
    ∃ before after, xs = before ++ x :: after ∧ updateFirst p f xs = before ++ f x :: after := by
  induction xs with
  | nil => cases hfound
  | cons head tail ih =>
      by_cases hp : p head = true
      · rw [List.find?_cons_of_pos hp] at hfound
        obtain rfl := Option.some.inj hfound
        exact ⟨[], tail, rfl, by rw [updateFirst, if_pos hp, List.nil_append]⟩
      · rw [List.find?_cons_of_neg hp] at hfound
        obtain ⟨before, after, rfl, hupdate⟩ := ih hfound
        exact ⟨head :: before, after, rfl, by rw [updateFirst, if_neg hp, hupdate]; rfl⟩

theorem map_updateFirst {g : α → β} (hkept : ∀ x, g (f x) = g x) :
    (updateFirst p f xs).map g = xs.map g := by
  induction xs with
  | nil => rfl
  | cons head tail ih =>
      by_cases hp : p head = true
      · rw [updateFirst, if_pos hp, List.map_cons, List.map_cons, hkept]
      · rw [updateFirst, if_neg hp, List.map_cons, List.map_cons, ih]

theorem of_mem_updateFirst (h : x ∈ updateFirst p f xs) :
    x ∈ xs ∨ ∃ y ∈ xs, p y = true ∧ x = f y := by
  induction xs with
  | nil => cases h
  | cons head tail ih =>
      by_cases hp : p head = true
      · rw [updateFirst, if_pos hp, List.mem_cons] at h
        rcases h with rfl | h
        · exact Or.inr ⟨head, List.mem_cons_self, hp, rfl⟩
        · exact Or.inl (List.mem_cons_of_mem head h)
      · rw [updateFirst, if_neg hp, List.mem_cons] at h
        rcases h with rfl | h
        · exact Or.inl List.mem_cons_self
        · rcases ih h with hold | ⟨y, hy, hpy⟩
          · exact Or.inl (List.mem_cons_of_mem head hold)
          · exact Or.inr ⟨y, List.mem_cons_of_mem head hy, hpy⟩

/-- Where at most one object matches, all that match are written. -/
theorem updateFirst_eq_map (hunique : xs.Pairwise fun x y => ¬ (p x = true ∧ p y = true)) :
    updateFirst p f xs = xs.map fun x => if p x then f x else x := by
  induction xs with
  | nil => rfl
  | cons head tail ih =>
      obtain ⟨hhead, htail⟩ := List.pairwise_cons.mp hunique
      by_cases hp : p head = true
      · have hnone : (tail.map fun x => if p x then f x else x) = tail := by
          apply (List.map_congr_left _).trans (List.map_id' tail)
          intro y hy
          rw [if_neg fun hpy => hhead y hy ⟨hp, hpy⟩]
        rw [updateFirst, if_pos hp, List.map_cons, if_pos hp, hnone]
      · rw [updateFirst, if_neg hp, List.map_cons, if_neg hp, ih htail]

/-- Where a single object matches, it is the one that is found. -/
theorem find?_eq_some_of_unique (hmem : x ∈ xs) (hp : p x = true)
    (hunique : ∀ y ∈ xs, p y = true → y = x) : xs.find? p = some x := by
  cases hfind : xs.find? p with
  | none => exact absurd hp (List.find?_eq_none.mp hfind x hmem)
  | some y =>
      have hy := hunique y (List.mem_of_find?_eq_some hfind) (List.find?_some hfind)
      rw [hy]

end DevHarness.Sequence
