import DevHarness.Text.PyString

/-!
# Lines of Python texts

The output of a command that is read in text mode, and the lines that `str.splitlines` makes of a
text.
-/

namespace PyText

open JsText

/-! ## Text mode -/

/-- A command's output in text mode: every line ending becomes a line feed. -/
def universalNewlines : PyString → PyString
  | 0x0D :: 0x0A :: rest => 0x0A :: universalNewlines rest
  | 0x0D :: rest => 0x0A :: universalNewlines rest
  | c :: rest => c :: universalNewlines rest
  | [] => []

section TextMode

variable {s t : PyString} {c : CodePoint}

theorem universalNewlines_cons_of_ne (hc : c ≠ 0x0D) :
    universalNewlines (c :: s) = c :: universalNewlines s := by
  rw [universalNewlines]
  · intro rest hsame
    exact absurd hsame hc
  · exact hc

theorem universalNewlines_eq_self (h : 0x0D ∉ s) : universalNewlines s = s := by
  induction s with
  | nil => rfl
  | cons c s ih =>
      obtain ⟨hc, hs⟩ := not_or.mp (List.mem_cons.not.mp h)
      rw [universalNewlines_cons_of_ne (Ne.symm hc), ih hs]

end TextMode

/-! ## Lines -/

def isLineBoundary (c : CodePoint) : Bool :=
  (0xA ≤ c && c ≤ 0xD) || (0x1C ≤ c && c ≤ 0x1E) || c == 0x85 || c == 0x2028 || c == 0x2029

def consLine (c : CodePoint) : List PyString → List PyString
  | [] => [[c]]
  | line :: lines => (c :: line) :: lines

/-- `str.splitlines()`. -/
def splitlines : PyString → List PyString
  | [] => []
  | 0x0D :: 0x0A :: rest => [] :: splitlines rest
  | c :: rest => if isLineBoundary c then [] :: splitlines rest else consLine c (splitlines rest)

section Lines

variable {s t line : PyString} {c : CodePoint} {texts : List PyString}

theorem splitlines_cons_of_not_boundary (hc : isLineBoundary c = false) :
    splitlines (c :: s) = consLine c (splitlines s) := by
  rw [splitlines, hc]
  · rfl
  · intro rest hreturn _
    rw [hreturn] at hc
    cases hc

theorem splitlines_append_feed (h : ∀ c ∈ s, isLineBoundary c = false) :
    splitlines (s ++ 0x0A :: t) = s :: splitlines t := by
  induction s with
  | nil =>
      rw [List.nil_append, splitlines]
      · rfl
      · exact nofun
  | cons c s ih =>
      obtain ⟨hc, hs⟩ := List.forall_mem_cons.mp h
      rw [List.cons_append, splitlines_cons_of_not_boundary hc, ih hs]
      rfl

/-- Texts without boundaries, each followed by a line feed. -/
theorem splitlines_flatMap (h : ∀ text ∈ texts, ∀ c ∈ text, isLineBoundary c = false) :
    splitlines (texts.flatMap fun text => text ++ [0x0A]) = texts := by
  induction texts with
  | nil => rfl
  | cons text texts ih =>
      obtain ⟨htext, htexts⟩ := List.forall_mem_cons.mp h
      rw [List.flatMap_cons, List.append_assoc, List.singleton_append,
        splitlines_append_feed htext, ih htexts]

theorem mem_consLine (h : line ∈ consLine c texts) :
    line ∈ texts ∨ ∃ rest, line = c :: rest ∧ (rest = [] ∨ rest ∈ texts) := by
  cases texts with
  | nil => exact Or.inr ⟨[], List.mem_singleton.mp h, Or.inl rfl⟩
  | cons text texts =>
      rcases List.mem_cons.mp h with rfl | h
      · exact Or.inr ⟨text, rfl, Or.inr List.mem_cons_self⟩
      · exact Or.inl (List.mem_cons_of_mem text h)

theorem not_isLineBoundary_of_mem (hline : line ∈ splitlines s) :
    ∀ c ∈ line, isLineBoundary c = false := by
  fun_induction splitlines s generalizing line with
  | case1 => cases hline
  | case2 rest ih =>
      rcases List.mem_cons.mp hline with rfl | hline
      · exact nofun
      · exact ih hline
  | case3 c rest _ hc ih =>
      rcases List.mem_cons.mp hline with rfl | hline
      · exact nofun
      · exact ih hline
  | case4 c rest _ hc ih =>
      rcases mem_consLine hline with hline | ⟨line', hsplit, hrest⟩
      · exact ih hline
      · rw [hsplit]
        refine List.forall_mem_cons.mpr ⟨Bool.eq_false_iff.mpr hc, ?_⟩
        rcases hrest with rfl | hrest
        · exact nofun
        · exact ih hrest

theorem splitlines_of_noBoundary (h : ∀ c ∈ s, isLineBoundary c = false) (hne : s ≠ []) :
    splitlines s = [s] := by
  induction s with
  | nil => exact absurd rfl hne
  | cons c s ih =>
      obtain ⟨hc, hs⟩ := List.forall_mem_cons.mp h
      rw [splitlines_cons_of_not_boundary hc]
      by_cases hnil : s = []
      · rw [hnil]
        rfl
      · rw [ih hs hnil]
        rfl

theorem exists_splitlines_append_feed (s t : PyString) :
    ∃ lines, lines ≠ [] ∧ splitlines (s ++ 0x0A :: t) = lines ++ splitlines t := by
  fun_induction splitlines s with
  | case1 =>
      refine ⟨[[]], List.cons_ne_nil _ _, ?_⟩
      rw [List.nil_append, splitlines]
      · rfl
      · exact nofun
  | case2 rest ih =>
      obtain ⟨lines, -, hlines⟩ := ih
      exact ⟨[] :: lines, List.cons_ne_nil _ _, by
        rw [List.cons_append, List.cons_append, splitlines, hlines, List.cons_append]⟩
  | case3 c rest hreturn hc ih =>
      by_cases hlast : c = 0x0D ∧ rest = []
      · obtain ⟨rfl, rfl⟩ := hlast
        exact ⟨[[]], List.cons_ne_nil _ _, by
          rw [List.cons_append, List.nil_append, splitlines]
          rfl⟩
      · obtain ⟨lines, -, hlines⟩ := ih
        refine ⟨[] :: lines, List.cons_ne_nil _ _, ?_⟩
        rw [List.cons_append, splitlines, if_pos hc, hlines, List.cons_append]
        intro rest' hsame hfeed
        cases rest with
        | nil => exact hlast ⟨hsame, rfl⟩
        | cons d rest =>
            obtain ⟨rfl, -⟩ := List.cons.inj hfeed
            exact hreturn rest hsame rfl
  | case4 c rest hreturn hc ih =>
      obtain ⟨lines, hne, hlines⟩ := ih
      obtain ⟨line, lines, rfl⟩ := List.exists_cons_of_ne_nil hne
      refine ⟨(c :: line) :: lines, List.cons_ne_nil _ _, ?_⟩
      rw [List.cons_append, splitlines_cons_of_not_boundary (Bool.eq_false_iff.mpr hc), hlines]
      rfl

end Lines

end PyText
