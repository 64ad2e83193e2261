import Mathlib.Data.List.Basic

/-!
# Backtracking matches

The ways in which a pattern matches at the head of a text, the preferred one first.  A repetition is
greedy or lazy, and what follows it decides which of its ways succeeds.
-/

namespace Matching

variable {α β γ : Type}

/-- The ways to match: what is read, and the rest. -/
def Matcher (α β : Type) : Type := List α → List (β × List α)

namespace Matcher

instance : Monad (Matcher α) where
  pure value := fun s => [(value, s)]
  bind first next := fun s => (first s).flatMap fun way => next way.1 way.2

def literal [DecidableEq α] (word : List α) : Matcher α Unit := fun s =>
  if word <+: s then [((), s.drop word.length)] else []

def one (p : α → Bool) : Matcher α α
  | [] => []
  | c :: s => if p c then [(c, s)] else []

def greedy (p : α → Bool) : Matcher α (List α)
  | [] => [([], [])]
  | c :: s => (if p c then (greedy p s).map fun way => (c :: way.1, way.2) else []) ++ [([], c :: s)]

def greedy1 (p : α → Bool) : Matcher α (List α) := fun s =>
  (greedy p s).filter fun way => ¬ way.1.isEmpty

def lazily (p : α → Bool) : Matcher α (List α)
  | [] => [([], [])]
  | c :: s => ([], c :: s) :: if p c then (lazily p s).map fun way => (c :: way.1, way.2) else []

def either (first second : Matcher α β) : Matcher α β := fun s => first s ++ second s

def optional (m : Matcher α β) : Matcher α (Option β) := fun s =>
  (m s).map (fun way => (some way.1, way.2)) ++ [(none, s)]

def before [DecidableEq α] (rests : List (List α)) : Matcher α Unit := fun s =>
  if s ∈ rests then [((), s)] else []

section Ways

variable {m : Matcher α β} {k : β → Matcher α γ} {p : α → Bool} {s rest : List α} {value : β}
  {w : γ} {c : α} {read : List α}

theorem bind_eq : (m >>= k) s = (m s).flatMap fun way => k way.1 way.2 := rfl

theorem bind_bind {δ : Type} {l : γ → Matcher α δ} :
    (m >>= k) >>= l = m >>= fun value => k value >>= l := by
  funext s
  change ((m s).flatMap fun way => k way.1 way.2).flatMap (fun way => l way.1 way.2) = _
  rw [List.flatMap_assoc]
  rfl

theorem bind_eq_nil (hm : m s = []) : (m >>= k) s = [] := by
  rw [bind_eq, hm, List.flatMap_nil]

/-- An optional part that is there, then one that is not. -/
theorem optional_bind {l : Option β → Matcher α γ} :
    (optional m >>= l) s = (m >>= fun value => l (some value)) s ++ l none s := by
  rw [bind_eq, optional, List.flatMap_append, List.flatMap_map, List.flatMap_singleton]
  rfl

theorem mem_bind : (w, rest) ∈ (m >>= k) s ↔
    ∃ value rest', (value, rest') ∈ m s ∧ (w, rest) ∈ k value rest' := by
  rw [bind_eq, List.mem_flatMap, Prod.exists]

theorem mem_pure {value' : β} :
    (value', rest) ∈ (pure value : Matcher α β) s ↔ value' = value ∧ rest = s := by
  change (value', rest) ∈ [(value, s)] ↔ _
  rw [List.mem_singleton, Prod.mk.injEq]

theorem mem_literal [DecidableEq α] {word : List α} {value : Unit} :
    (value, rest) ∈ literal word s ↔ s = word ++ rest := by
  rw [literal]
  by_cases hword : word <+: s
  · obtain ⟨tail, rfl⟩ := hword
    simp [eq_comm]
  · rw [if_neg hword]
    constructor
    · exact nofun
    · rintro rfl
      exact absurd (List.prefix_append word rest) hword

theorem mem_one : (c, rest) ∈ one p s ↔ s = c :: rest ∧ p c = true := by
  cases s with
  | nil => simp [one]
  | cons d s =>
      rw [one]
      by_cases hd : p d = true
      · rw [if_pos hd, List.mem_singleton, Prod.mk.injEq, List.cons.injEq]
        constructor
        · rintro ⟨rfl, rfl⟩
          exact ⟨⟨rfl, rfl⟩, hd⟩
        · rintro ⟨⟨rfl, rfl⟩, -⟩
          exact ⟨rfl, rfl⟩
      · rw [if_neg hd]
        constructor
        · exact nofun
        · rintro ⟨hsame, hc⟩
          rw [(List.cons.inj hsame).1] at hd
          exact absurd hc hd

theorem mem_greedy : (read, rest) ∈ greedy p s ↔ s = read ++ rest ∧ ∀ c ∈ read, p c = true := by
  induction s generalizing read with
  | nil =>
      rw [greedy, List.mem_singleton, Prod.mk.injEq, eq_comm (a := []), List.append_eq_nil_iff]
      constructor
      · rintro ⟨rfl, rfl⟩
        exact ⟨⟨rfl, rfl⟩, nofun⟩
      · rintro ⟨⟨rfl, rfl⟩, -⟩
        exact ⟨rfl, rfl⟩
  | cons c s ih =>
      cases read with
      | nil =>
          rw [greedy]
          have hnone : ([], rest) ∉ if p c then (greedy p s).map fun way => (c :: way.1, way.2) else [] := by
            by_cases hc : p c = true
            · simp [hc]
            · simp [hc]
          rw [List.mem_append, or_iff_right hnone, List.mem_singleton, Prod.mk.injEq,
            List.nil_append, eq_comm (a := rest)]
          simp
      | cons d read =>
          rw [greedy, List.cons_append, List.cons.injEq, List.forall_mem_cons]
          by_cases hc : p c = true
          · simp only [if_pos hc, List.mem_append, List.mem_map, Prod.mk.injEq, List.cons.injEq,
              List.mem_singleton, Prod.exists]
            constructor
            · rintro (⟨read', rest', hmem, ⟨rfl, rfl⟩, rfl⟩ | ⟨hnil, -⟩)
              · obtain ⟨hsplit, hread⟩ := ih.mp hmem
                exact ⟨⟨rfl, hsplit⟩, hc, hread⟩
              · cases hnil
            · rintro ⟨⟨rfl, hsplit⟩, -, hread⟩
              exact Or.inl ⟨read, rest, ih.mpr ⟨hsplit, hread⟩, ⟨rfl, rfl⟩, rfl⟩
          · simp only [if_neg hc, List.nil_append, List.mem_singleton, Prod.mk.injEq]
            constructor
            · exact fun h => absurd h.1 (List.cons_ne_nil d read)
            · rintro ⟨⟨rfl, -⟩, hd, -⟩
              exact absurd hd hc

theorem mem_greedy1 : (read, rest) ∈ greedy1 p s ↔
    s = read ++ rest ∧ read ≠ [] ∧ ∀ c ∈ read, p c = true := by
  rw [greedy1, List.mem_filter, mem_greedy, and_assoc, and_comm (a := ∀ c ∈ read, p c = true)]
  simp

/-- A lazy repetition has the ways of a greedy one, in the other order. -/
theorem lazily_eq_reverse : lazily p s = (greedy p s).reverse := by
  induction s with
  | nil => rfl
  | cons c s ih =>
      rw [lazily, greedy, List.reverse_append]
      by_cases hc : p c = true
      · rw [if_pos hc, if_pos hc, ih, List.map_reverse]
        rfl
      · rw [if_neg hc, if_neg hc]
        rfl

theorem mem_lazily : (read, rest) ∈ lazily p s ↔ s = read ++ rest ∧ ∀ c ∈ read, p c = true := by
  rw [lazily_eq_reverse, List.mem_reverse, mem_greedy]

theorem mem_either {first second : Matcher α β} :
    (value, rest) ∈ either first second s ↔ (value, rest) ∈ first s ∨ (value, rest) ∈ second s :=
  List.mem_append

theorem mem_optional_some : (some value, rest) ∈ optional m s ↔ (value, rest) ∈ m s := by
  simp [optional]

theorem mem_optional_none : (none, rest) ∈ optional m s ↔ rest = s := by
  simp [optional]

theorem mem_before [DecidableEq α] {rests : List (List α)} {value : Unit} :
    (value, rest) ∈ before rests s ↔ rest = s ∧ s ∈ rests := by
  rw [before]
  by_cases hs : s ∈ rests
  · simp [hs]
  · simp [hs]

end Ways

/-! ## The preferred way -/

/-- The way that is preferred. -/
def First (m : Matcher α β) (s : List α) (value : β) (rest : List α) : Prop :=
  (m s).head? = some (value, rest)

section Preferred

variable {m : Matcher α β} {k : β → Matcher α γ} {p : α → Bool} {s rest rest' : List α} {value : β}
  {w : γ} {c : α} {first second : Matcher α β}

theorem First.mem (h : First m s value rest) : (value, rest) ∈ m s :=
  List.mem_of_mem_head? h

theorem first_pure : First (pure value : Matcher α β) s value s := rfl

/-- The preferred way is the preferred one of its first part, when that can be continued. -/
theorem First.bind (hm : First m s value rest) (hk : First (k value) rest w rest') :
    First (m >>= k) s w rest' := by
  obtain ⟨others, hothers⟩ := List.head?_eq_some_iff.mp hm
  obtain ⟨others', hothers'⟩ := List.head?_eq_some_iff.mp hk
  rw [First, bind_eq, hothers, List.flatMap_cons, hothers']
  rfl

theorem first_literal [DecidableEq α] {word : List α} : First (literal word) (word ++ rest) () rest := by
  rw [First, literal, if_pos (List.prefix_append word rest), List.drop_left]
  rfl

theorem first_one (hc : p c = true) : First (one p) (c :: rest) c rest := by
  rw [First, one, if_pos hc]
  rfl

theorem first_greedy (hs : ∀ c ∈ s, p c = true) (hrest : ∀ c ∈ rest.head?, p c = false) :
    First (greedy p) (s ++ rest) s rest := by
  induction s with
  | nil =>
      cases rest with
      | nil => rfl
      | cons c rest =>
          rw [First, List.nil_append, greedy, hrest c rfl]
          rfl
  | cons c s ih =>
      obtain ⟨hc, hs⟩ := List.forall_mem_cons.mp hs
      obtain ⟨others, hothers⟩ := List.head?_eq_some_iff.mp (ih hs)
      rw [First, List.cons_append, greedy, if_pos hc, hothers]
      rfl

theorem first_greedy1 (hne : s ≠ []) (hs : ∀ c ∈ s, p c = true)
    (hrest : ∀ c ∈ rest.head?, p c = false) : First (greedy1 p) (s ++ rest) s rest := by
  obtain ⟨others, hothers⟩ := List.head?_eq_some_iff.mp (first_greedy hs hrest)
  rw [First, greedy1, hothers, List.filter_cons_of_pos]
  · rfl
  · simpa using hne

theorem first_either_left (hfirst : First first s value rest) :
    First (either first second) s value rest := by
  obtain ⟨others, hothers⟩ := List.head?_eq_some_iff.mp hfirst
  rw [First, either, hothers]
  rfl

theorem first_either_right (hfirst : first s = []) (hsecond : First second s value rest) :
    First (either first second) s value rest := by
  rw [First, either, hfirst]
  exact hsecond

theorem First.optional_bind {l : Option β → Matcher α γ}
    (h : First (m >>= fun value => l (some value)) s w rest) : First (optional m >>= l) s w rest := by
  obtain ⟨others, hothers⟩ := List.head?_eq_some_iff.mp h
  rw [First, Matcher.optional_bind, hothers]
  rfl

theorem first_optional_some (hm : First m s value rest) :
    First (optional m) s (some value) rest := by
  obtain ⟨others, hothers⟩ := List.head?_eq_some_iff.mp hm
  rw [First, optional, hothers]
  rfl

theorem first_optional_none (hm : m s = []) : First (optional m) s none s := by
  rw [First, optional, hm]
  rfl

theorem first_before [DecidableEq α] {rests : List (List α)} (hs : s ∈ rests) :
    First (before rests) s () s := by
  rw [First, before, if_pos hs]
  rfl

/-- A lazy repetition stops before the next unit, or reads it. -/
theorem lazily_bind_cons {k : List α → Matcher α γ} (hc : p c = true) :
    (lazily p >>= k) (c :: s) = k [] (c :: s) ++ (lazily p >>= fun a => k (c :: a)) s := by
  rw [bind_eq, lazily, if_pos hc, List.flatMap_cons, List.flatMap_map]
  rfl

/-- A lazy repetition stops where what follows first succeeds. -/
theorem first_lazily_bind {k : List α → Matcher α γ} (hs : ∀ c ∈ s, p c = true)
    (hearlier : ∀ a b, s = a ++ b → b ≠ [] → k a (b ++ rest) = [])
    (hk : First (k s) rest w rest') : First (lazily p >>= k) (s ++ rest) w rest' := by
  induction s generalizing k with
  | nil =>
      have hfirst : First (lazily p) rest [] rest := by
        cases rest with
        | nil => rfl
        | cons c rest => rfl
      exact hfirst.bind hk
  | cons c s ih =>
      obtain ⟨hc, hs⟩ := List.forall_mem_cons.mp hs
      have hnone : k [] (c :: s ++ rest) = [] := hearlier [] (c :: s) rfl (List.cons_ne_nil _ _)
      have hlater : First (lazily p >>= fun a => k (c :: a)) (s ++ rest) w rest' := by
        apply ih hs _ hk
        intro a b hsplit hb
        apply hearlier (c :: a) b _ hb
        rw [hsplit, List.cons_append]
      rw [First, List.cons_append, lazily_bind_cons hc]
      rw [List.cons_append] at hnone
      rw [hnone, List.nil_append]
      exact hlater

/-- A lazy repetition that can stop somewhere stops there or earlier. -/
theorem exists_first_lazily_bind {k : List α → Matcher α γ} (hs : ∀ c ∈ s, p c = true)
    (hk : k s rest ≠ []) : ∃ s' remaining, s' <+: s ∧ s ++ rest = s' ++ remaining ∧
      ∃ w rest', First (k s') remaining w rest' ∧ First (lazily p >>= k) (s ++ rest) w rest' := by
  induction s generalizing k with
  | nil =>
      obtain ⟨way, others, hways⟩ := List.exists_cons_of_ne_nil hk
      have hfirst : First (k []) rest way.1 way.2 := by rw [First, hways]; rfl
      have hnone : First (lazily p) rest [] rest := by
        cases rest with
        | nil => rfl
        | cons c rest => rfl
      exact ⟨[], rest, List.prefix_rfl, rfl, way.1, way.2, hfirst, hnone.bind hfirst⟩
  | cons c s ih =>
      obtain ⟨hc, hs⟩ := List.forall_mem_cons.mp hs
      by_cases hnone : k [] (c :: s ++ rest) = []
      · obtain ⟨s', remaining, hstarts, hsplit, w, rest', hfirst, hways⟩ :=
          ih (k := fun a => k (c :: a)) hs hk
        refine ⟨c :: s', remaining, ?_, ?_, w, rest', hfirst, ?_⟩
        · exact (List.prefix_cons_inj c).mpr hstarts
        · rw [List.cons_append, hsplit, List.cons_append]
        · rw [First, List.cons_append, lazily_bind_cons hc]
          rw [List.cons_append] at hnone
          rw [hnone, List.nil_append]
          exact hways
      · obtain ⟨way, others, hways⟩ := List.exists_cons_of_ne_nil hnone
        refine ⟨[], c :: s ++ rest, List.nil_prefix, rfl, way.1, way.2, ?_, ?_⟩
        · rw [First, hways]
          rfl
        · rw [First, List.cons_append, lazily_bind_cons hc]
          rw [List.cons_append] at hways
          rw [hways]
          rfl

end Preferred

end Matcher
end Matching
