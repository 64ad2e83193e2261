import DevHarness.Text.JsString

/-!
# Texts with separators

A text that is put together around a separator can be taken apart again, when the
separator is not in the pieces.
-/

namespace JsText

section Separator

variable {α : Type} [DecidableEq α] {x : α} {a b k l : List α}

/-- The text before the first separator, and what follows. -/
theorem append_separator_inj_left (ha : x ∉ a) (hb : x ∉ b) (h : a ++ x :: k = b ++ x :: l) :
    a = b ∧ k = l := by
  have hsplit : a :: k.splitOn x = b :: l.splitOn x := by
    rw [← List.splitOn_append_cons_self_of_not_mem ha, h,
      List.splitOn_append_cons_self_of_not_mem hb]
  obtain ⟨hfirst, hrest⟩ := List.cons.inj hsplit
  refine ⟨hfirst, ?_⟩
  have hread : ∀ text : List α, [x].intercalate (text.splitOn x) = text := fun _ =>
    List.intercalate_splitOn x
  rw [← hread k, hrest, hread l]

/-- The text after the last separator, and what comes before. -/
theorem append_separator_inj_right (hk : x ∉ k) (hl : x ∉ l)
    (h : a ++ x :: k = b ++ x :: l) : a = b ∧ k = l := by
  have hreverse : k.reverse ++ x :: a.reverse = l.reverse ++ x :: b.reverse := by
    simpa using congrArg List.reverse h
  obtain ⟨hlast, hbefore⟩ := append_separator_inj_left
    (fun hx => hk (List.mem_reverse.mp hx)) (fun hx => hl (List.mem_reverse.mp hx)) hreverse
  exact ⟨List.reverse_injective hbefore, List.reverse_injective hlast⟩

end Separator

section Join

variable {x : UInt16} {texts texts' : List JsString}

theorem join_eq_intercalate (separator : JsString) (texts : List JsString) :
    join separator texts = separator.intercalate texts := by
  fun_induction join separator texts with
  | case1 => simp
  | case2 s => simp
  | case3 s t rest ih => rw [ih, List.intercalate_cons_cons]

theorem join_eq_nil_iff (hne : ∀ s ∈ texts, s ≠ []) : join [x] texts = [] ↔ texts = [] := by
  cases texts with
  | nil => simp [join]
  | cons s rest =>
      have hs := hne s List.mem_cons_self
      cases rest with
      | nil => simpa [join] using hs
      | cons t rest => simp [join]

theorem join_inj (hfree : ∀ s ∈ texts, x ∉ s ∧ s ≠ [])
    (hfree' : ∀ s ∈ texts', x ∉ s ∧ s ≠ []) (h : join [x] texts = join [x] texts') :
    texts = texts' := by
  have hnil := join_eq_nil_iff (x := x) fun s hs => (hfree s hs).2
  have hnil' := join_eq_nil_iff (x := x) fun s hs => (hfree' s hs).2
  by_cases hempty : texts = []
  · have hjoin : join [x] texts' = [] := h.symm.trans (hnil.mpr hempty)
    rw [hempty, hnil'.mp hjoin]
  · have hempty' : texts' ≠ [] := by
      intro htexts'
      exact hempty (hnil.mp (h.trans (hnil'.mpr htexts')))
    rw [← List.splitOn_intercalate x (fun s hs => (hfree s hs).1) hempty,
      ← join_eq_intercalate, h, join_eq_intercalate,
      List.splitOn_intercalate x (fun s hs => (hfree' s hs).1) hempty']

theorem not_mem_join {u : UInt16} (hx : u ≠ x) (h : ∀ s ∈ texts, u ∉ s) :
    u ∉ join [x] texts := by
  induction texts with
  | nil => exact List.not_mem_nil
  | cons s rest ih =>
      have hs := h s List.mem_cons_self
      have hrest := ih fun t ht => h t (List.mem_cons_of_mem s ht)
      cases rest with
      | nil => exact hs
      | cons t rest =>
          rw [join, List.mem_append, List.mem_append, List.mem_singleton]
          rintro ((hmem | hsame) | hmem)
          · exact hs hmem
          · exact hx hsame
          · exact hrest hmem

end Join

end JsText
