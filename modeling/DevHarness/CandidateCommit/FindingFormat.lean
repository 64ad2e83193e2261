import DevHarness.CandidateCommit.Decoration

/-!
# The format of findings

A finding in the format that the prompt asks for, and what the pattern reads of such a text.
-/

namespace DevHarness.CandidateCommit

open JsText PyText Matching Matcher

/-! ## Texts -/

/-- A title, an impact or a recommendation. -/
structure IsField (text : PyString) : Prop where
  ne_nil : text ≠ []
  stripped : strip text = text
  noFeed : 0x0A ∉ text
  noBar : ¬ py " | " <:+: text

instance decidableIsField (text : PyString) : Decidable (IsField text) :=
  decidable_of_iff (text ≠ [] ∧ strip text = text ∧ 0x0A ∉ text ∧ ¬ py " | " <:+: text)
    ⟨fun ⟨h₁, h₂, h₃, h₄⟩ => ⟨h₁, h₂, h₃, h₄⟩, fun h => ⟨h.ne_nil, h.stripped, h.noFeed, h.noBar⟩⟩

namespace ReviewFinding

variable (finding : ReviewFinding) {text label s rest : PyString}

/-- The path has no white space and no colon, the line is no text or in decimal, and the fields are
fields. -/
structure WellFormed : Prop where
  file : ∀ c ∈ finding.file, isFileUnit c = true
  line : ∀ c ∈ finding.line, isDigit c = true
  title : IsField finding.title
  impact : IsField finding.impact
  recommendation : IsField finding.recommendation

def lineText : PyString :=
  if finding.line = [] then [] else py ":" ++ finding.line

def afterImpact : PyString :=
  py " | recommendation: " ++ finding.recommendation

def afterTitle : PyString :=
  py " | impact: " ++ (finding.impact ++ finding.afterImpact)

/-- `[P1] path:line title | impact: ... | recommendation: ...`. -/
def contract : PyString :=
  py "[" ++ (finding.priority.text ++ (py "]" ++ (py " " ++ (finding.file ++ (finding.lineText ++
    (py " " ++ (finding.title ++ finding.afterTitle)))))))

theorem contract_eq : finding.contract =
    py "[" ++ (finding.priority.text ++ (py "]" ++ (py " " ++ (finding.file ++ (finding.lineText ++
      (py " " ++ (finding.title ++ (py " | impact: " ++ (finding.impact ++
        py " | recommendation"))))))))) ++ 0x3A :: 0x20 :: finding.recommendation := by
  simp only [contract, afterTitle, afterImpact, List.append_assoc]
  rfl

end ReviewFinding

def opensWithin (labels : List PyString) (text : PyString) : Bool :=
  text.tails.any fun rest => labels.any fun label => ¬ (opening label rest).isEmpty

namespace ReviewFinding

/-- The pattern reads each field to its end: there is a path, no field has a line boundary, and none
has the start of a group that follows it. -/
structure IsReadable (finding : ReviewFinding) : Prop where
  file : finding.file ≠ []
  noBoundary : ∀ c ∈ finding.title ++ finding.impact ++ finding.recommendation,
    isLineBoundary c = false
  title : opensWithin [impactLabel, recommendationLabel] finding.title = false
  impact : opensWithin [recommendationLabel] finding.impact = false

instance decidableIsReadable (finding : ReviewFinding) : Decidable finding.IsReadable :=
  decidable_of_iff (finding.file ≠ [] ∧
      (∀ c ∈ finding.title ++ finding.impact ++ finding.recommendation, isLineBoundary c = false) ∧
        opensWithin [impactLabel, recommendationLabel] finding.title = false ∧
          opensWithin [recommendationLabel] finding.impact = false)
    ⟨fun ⟨h₁, h₂, h₃, h₄⟩ => ⟨h₁, h₂, h₃, h₄⟩, fun h => ⟨h.file, h.noBoundary, h.title, h.impact⟩⟩

end ReviewFinding

theorem IsField.trimmed (h : IsField text) : Trimmed text :=
  strip_eq_self_iff_trimmed.mp h.stripped

theorem IsField.inline (h : IsField text) : ∀ c ∈ text, isInline c = true := by
  intro c hc
  apply decide_eq_true
  rintro rfl
  exact h.noFeed hc

theorem opensWithin_eq_false {labels : List PyString} :
    opensWithin labels text = false ↔ ∀ before after, text = before ++ after → ∀ label ∈ labels,
      opening label after = [] := by
  rw [opensWithin, List.any_eq_false]
  constructor
  · intro h before after hsplit label hlabel
    have hnone := h after ((List.mem_tails _ _).mpr ⟨before, hsplit.symm⟩)
    simpa using List.any_eq_false.mp (Bool.eq_false_iff.mpr hnone) label hlabel
  · intro h after hafter
    obtain ⟨before, hsplit⟩ := (List.mem_tails _ _).mp hafter
    simpa using h before after hsplit.symm

section Openings

variable {value : Unit}

theorem mem_opening : (value, rest) ∈ opening label s ↔ ∃ blanks blanks' blanks'',
    s = blanks ++ 0x7C :: (blanks' ++ (label ++ (blanks'' ++ rest))) ∧
      (blanks ≠ [] ∧ ∀ c ∈ blanks, isSpace c = true) ∧
        (blanks' ≠ [] ∧ ∀ c ∈ blanks', isSpace c = true) ∧ ∀ c ∈ blanks'', isSpace c = true := by
  rw [opening]
  constructor
  · intro h
    obtain ⟨blanks, s₁, hblanks, h⟩ := mem_bind.mp h
    obtain ⟨_, s₂, hbar, h⟩ := mem_bind.mp h
    obtain ⟨blanks', s₃, hblanks', h⟩ := mem_bind.mp h
    obtain ⟨_, s₄, hlabel, h⟩ := mem_bind.mp h
    obtain ⟨blanks'', s₅, hblanks'', h⟩ := mem_bind.mp h
    obtain ⟨-, rfl⟩ := mem_pure.mp h
    obtain ⟨rfl, hspaces⟩ := mem_greedy1.mp hblanks
    rw [mem_literal] at hbar hlabel
    obtain ⟨rfl, hspaces'⟩ := mem_greedy1.mp hblanks'
    obtain ⟨rfl, hspaces''⟩ := mem_greedy.mp hblanks''
    exact ⟨blanks, blanks', blanks'', by rw [hbar, hlabel]; rfl, hspaces, hspaces', hspaces''⟩
  · rintro ⟨blanks, blanks', blanks'', rfl, hspaces, hspaces', hspaces''⟩
    apply mem_bind.mpr ⟨blanks, _, mem_greedy1.mpr ⟨rfl, hspaces⟩, _⟩
    apply mem_bind.mpr ⟨(), _, mem_literal.mpr rfl, _⟩
    apply mem_bind.mpr ⟨blanks', _, mem_greedy1.mpr ⟨rfl, hspaces'⟩, _⟩
    apply mem_bind.mpr ⟨(), _, mem_literal.mpr rfl, _⟩
    apply mem_bind.mpr ⟨blanks'', _, mem_greedy.mpr ⟨rfl, hspaces''⟩, _⟩
    exact mem_pure.mpr ⟨rfl, rfl⟩

theorem opening_eq_nil_of_head (h : ∀ c ∈ s.head?, isSpace c = false) : opening label s = [] := by
  apply List.eq_nil_iff_forall_not_mem.mpr
  rintro ⟨value, rest⟩ hmem
  obtain ⟨blanks, blanks', blanks'', rfl, ⟨hne, hspaces⟩, -⟩ := mem_opening.mp hmem
  obtain ⟨c, blanks, rfl⟩ := List.exists_cons_of_ne_nil hne
  have hc := h c rfl
  rw [hspaces c List.mem_cons_self] at hc
  cases hc

theorem mem_opening_append (h : (value, rest) ∈ opening label s) (after : PyString) :
    (value, rest ++ after) ∈ opening label (s ++ after) := by
  obtain ⟨blanks, blanks', blanks'', rfl, hblanks⟩ := mem_opening.mp h
  refine mem_opening.mpr ⟨blanks, blanks', blanks'', ?_, hblanks⟩
  simp only [List.append_assoc, List.cons_append]

theorem first_opening {after : PyString} (hlabel : ∀ c ∈ label.head?, isSpace c = false)
    (hne : label ≠ []) (hafter : ∀ c ∈ after.head?, isSpace c = false) :
    First (opening label) (py " | " ++ (label ++ (py " " ++ after))) () after := by
  have hbar : ∀ c ∈ (py "|" ++ (py " " ++ (label ++ (py " " ++ after)))).head?, isSpace c = false := by
    rintro c ⟨rfl⟩
    decide
  have hname : ∀ c ∈ (label ++ (py " " ++ after)).head?, isSpace c = false := by
    rwa [List.head?_append_of_ne_nil _ hne]
  have hspace : ∀ c ∈ py " ", isSpace c = true := by decide
  apply (first_greedy1 (s := py " ") (by decide) hspace hbar).bind
  apply first_literal.bind
  apply (first_greedy1 (s := py " ") (by decide) hspace hname).bind
  apply first_literal.bind
  exact (first_greedy hspace hafter).bind first_pure

theorem prefix_of_not_mem {a b x y : PyString} {c : CodePoint} (h : a ++ c :: b = x ++ y)
    (hc : c ∉ x) : x <+: a := by
  have ha : a <+: x ++ y := by
    rw [← h]
    exact List.prefix_append a _
  rcases List.prefix_or_prefix_of_prefix (List.prefix_append x y) ha with hstarts | ⟨rest, rfl⟩
  · exact hstarts
  · rw [List.append_assoc] at h
    cases rest with
    | nil => rw [List.append_nil]
    | cons d rest =>
        obtain ⟨rfl, -⟩ := List.cons.inj (List.append_cancel_left h)
        exact absurd (List.mem_append_right a List.mem_cons_self) hc

/-- White space at the head of a text is a part of it, when the text ends with none. -/
theorem blanks_prefix {blanks text rest after : PyString} (hblanks : ∀ c ∈ blanks, isSpace c = true)
    (htext : ∀ c ∈ text.getLast?, isSpace c = false) (hne : text ≠ [])
    (h : text ++ rest = blanks ++ after) : blanks <+: text := by
  have htextStarts : text <+: blanks ++ after := by
    rw [← h]
    exact List.prefix_append text rest
  rcases List.prefix_or_prefix_of_prefix (List.prefix_append blanks after) htextStarts with
    hstarts | hstarts
  · exact hstarts
  · have hlast := htext _ (List.getLast?_eq_some_getLast hne)
    rw [hblanks _ (hstarts.subset (List.getLast_mem hne))] at hlast
    cases hlast

theorem opening_append_eq_nil {text after : PyString} (hspace : 0x20 ∉ label)
    (hbar : ∀ c ∈ label.head?, c ≠ 0x7C) (hne : label ≠ [])
    (htext : ∀ c ∈ text.getLast?, isSpace c = false) (htextNe : text ≠ [])
    (hnone : opening label text = []) : opening label (text ++ (py " | " ++ after)) = [] := by
  apply List.eq_nil_iff_forall_not_mem.mpr
  rintro ⟨value, rest⟩ hmem
  obtain ⟨blanks, blanks', blanks'', hsplit, hblanks, hblanks', hblanks''⟩ := mem_opening.mp hmem
  obtain ⟨text₁, rfl⟩ := blanks_prefix hblanks.2 htext htextNe hsplit
  rw [List.append_assoc] at hsplit
  have hsplit₁ := List.append_cancel_left hsplit
  cases text₁ with
  | nil => exact absurd (List.cons.inj hsplit₁).1 (by decide)
  | cons c text₂ =>
      obtain ⟨rfl, hsplit₂⟩ := List.cons.inj hsplit₁
      by_cases hnil : text₂ = []
      · -- The bar is the text's last: its white space is one blank, and the next bar is no label.
        obtain ⟨blank, blanks', rfl⟩ := List.exists_cons_of_ne_nil hblanks'.1
        rw [hnil] at hsplit₂
        obtain ⟨rfl, hsplit₃⟩ := List.cons.inj hsplit₂
        cases blanks' with
        | nil =>
            obtain ⟨d, label, rfl⟩ := List.exists_cons_of_ne_nil hne
            exact hbar d rfl (List.cons.inj hsplit₃).1.symm
        | cons blank blanks' =>
            obtain ⟨rfl, -⟩ := List.cons.inj hsplit₃
            exact absurd (hblanks'.2 _ (List.mem_cons_of_mem _ List.mem_cons_self)) (by decide)
      · have hlast : ∀ c ∈ text₂.getLast?, isSpace c = false := by
          intro c hc
          apply htext c
          rw [List.getLast?_append, List.getLast?_cons, Option.mem_def.mp hc]
          rfl
        obtain ⟨text₃, rfl⟩ := blanks_prefix hblanks'.2 hlast hnil hsplit₂
        have hsplit₃ : blanks' ++ (text₃ ++ (py " | " ++ after)) =
            blanks' ++ (label ++ (blanks'' ++ rest)) := by
          rw [← List.append_assoc]
          exact hsplit₂
        obtain ⟨text₄, rfl⟩ := prefix_of_not_mem (List.append_cancel_left hsplit₃) hspace
        have hread : ((), text₄) ∈ opening label (blanks ++ 0x7C :: (blanks' ++ (label ++ text₄))) :=
          mem_opening.mpr ⟨blanks, blanks', [], rfl, hblanks, hblanks', nofun⟩
        rw [hnone] at hread
        cases hread

end Openings

section Reading

variable {finding : ReviewFinding} {groups : Groups} {read : PyString} {priority : Priority}
  {filePath title : PyString} {lineNo impact : Option PyString} {labels : List PyString}

theorem lineEnd_eq_nil (hs : s ∉ [[], [0x0A]]) : lineEnd s = [] :=
  if_neg hs

theorem recommendationTail_eq_nil (hopening : opening recommendationLabel s = [])
    (hs : s ∉ [[], [0x0A]]) : recommendationTail priority filePath lineNo title impact s = [] := by
  rw [recommendationTail, recommendationGroup, optional_bind, bind_eq_nil (bind_eq_nil hopening),
    bind_eq_nil (lineEnd_eq_nil hs)]
  rfl

theorem findingTail_eq_nil (himpact : opening impactLabel s = [])
    (hrecommendation : opening recommendationLabel s = []) (hs : s ∉ [[], [0x0A]]) :
    findingTail priority filePath lineNo title s = [] := by
  rw [findingTail, impactGroup, optional_bind, bind_eq_nil (bind_eq_nil himpact),
    recommendationTail_eq_nil hrecommendation hs]
  rfl

theorem mem_recommendationTail
    (h : (groups, rest) ∈ recommendationTail priority filePath lineNo title impact s) :
    ∃ recommendation, groups = ⟨priority, filePath, lineNo, title, impact, recommendation⟩ ∧
      rest ∈ [[], [0x0A]] ∧
        ∀ value ∈ recommendation, ((), value ++ rest) ∈ opening recommendationLabel s := by
  obtain ⟨recommendation, s₁, hgroup, h⟩ := mem_bind.mp h
  obtain ⟨_, s₂, hend, h⟩ := mem_bind.mp h
  obtain ⟨rfl, rfl⟩ := mem_pure.mp h
  obtain ⟨rfl, hrest⟩ := mem_before.mp hend
  refine ⟨recommendation, rfl, hrest, ?_⟩
  rintro value ⟨rfl⟩
  obtain ⟨_, s₃, hopening, hread⟩ := mem_bind.mp (mem_optional_some.mp hgroup)
  obtain ⟨rfl, -⟩ := mem_greedy.mp hread
  exact hopening

theorem mem_findingTail (h : (groups, rest) ∈ findingTail priority filePath lineNo title s) :
    ∃ impact s', (groups, rest) ∈ recommendationTail priority filePath lineNo title impact s' ∧
      (∃ before, s = before ++ s') ∧ ∀ value ∈ impact, ∃ before, s = before ++ (value ++ s') := by
  obtain ⟨impact, s', hgroup, h⟩ := mem_bind.mp h
  refine ⟨impact, s', h, ?_⟩
  cases impact with
  | none =>
      rw [mem_optional_none.mp hgroup]
      exact ⟨⟨[], rfl⟩, nofun⟩
  | some value =>
      obtain ⟨_, s₁, hopening, hread⟩ := mem_bind.mp (mem_optional_some.mp hgroup)
      obtain ⟨rfl, -⟩ := mem_lazily.mp hread
      obtain ⟨blanks, blanks', blanks'', hsplit, -⟩ := mem_opening.mp hopening
      have hall : s = blanks ++ 0x7C :: (blanks' ++ (impactLabel ++ blanks'')) ++ (value ++ s') := by
        rw [hsplit]
        simp only [List.append_assoc, List.cons_append]
      refine ⟨⟨blanks ++ 0x7C :: (blanks' ++ (impactLabel ++ blanks'')) ++ value, ?_⟩, ?_⟩
      · rw [hall, List.append_assoc _ value]
      · rintro value ⟨rfl⟩
        exact ⟨_, hall⟩

section

variable (h : ((), read) ∈ opening recommendationLabel s) (hread : ∀ c ∈ read, isInline c = true)

include h hread

theorem recommendationTail_ne_nil :
    recommendationTail priority filePath lineNo title impact s ≠ [] := by
  apply List.ne_nil_of_mem (a := (⟨priority, filePath, lineNo, title, impact, some read⟩, []))
  have hgreedy : (read, []) ∈ greedy isInline read :=
    mem_greedy.mpr ⟨(List.append_nil read).symm, hread⟩
  apply mem_bind.mpr ⟨some read, [], mem_optional_some.mpr (mem_bind.mpr ⟨(), read, h, hgreedy⟩), _⟩
  exact mem_bind.mpr ⟨(), [], mem_before.mpr ⟨rfl, by decide⟩, mem_pure.mpr ⟨rfl, rfl⟩⟩

theorem findingTail_ne_nil_of_recommendation :
    findingTail priority filePath lineNo title s ≠ [] := by
  rw [findingTail, impactGroup, optional_bind]
  exact List.append_ne_nil_of_right_ne_nil _ (recommendationTail_ne_nil h hread)

end

theorem findingTail_ne_nil_of_impact (h : ((), read) ∈ opening impactLabel s)
    (hread : ∀ c ∈ read, isInline c = true) :
    findingTail priority filePath lineNo title s ≠ [] := by
  apply List.ne_nil_of_mem (a := (⟨priority, filePath, lineNo, title, some read, none⟩, []))
  have hlazily : (read, []) ∈ lazily isInline read :=
    mem_lazily.mpr ⟨(List.append_nil read).symm, hread⟩
  apply mem_bind.mpr ⟨some read, [], mem_optional_some.mpr (mem_bind.mpr ⟨(), read, h, hlazily⟩), _⟩
  apply mem_bind.mpr ⟨none, [], mem_optional_none.mpr rfl, _⟩
  exact mem_bind.mpr ⟨(), [], mem_before.mpr ⟨rfl, by decide⟩, mem_pure.mpr ⟨rfl, rfl⟩⟩

/-! ## The format is read -/

theorem first_priorityGroup : First priorityGroup (priority.text ++ rest) priority rest := by
  cases priority with
  | p0 => exact first_either_left (first_literal.bind first_pure)
  | p1 => rfl
  | p2 => rfl
  | p3 => rfl

theorem first_lineGroup (hline : ∀ c ∈ finding.line, isDigit c = true)
    (hrest : ∀ c ∈ rest.head?, c ≠ 0x3A ∧ isDigit c = false) :
    First lineGroup (finding.lineText ++ rest)
      (if finding.line = [] then none else some finding.line) rest := by
  rw [ReviewFinding.lineText]
  by_cases hempty : finding.line = []
  · rw [if_pos hempty, if_pos hempty, List.nil_append]
    apply first_optional_none
    apply bind_eq_nil
    apply if_neg
    rintro ⟨others, rfl⟩
    exact (hrest 0x3A rfl).1 rfl
  · rw [if_neg hempty, if_neg hempty, List.append_assoc]
    apply first_optional_some
    exact first_literal.bind (first_greedy1 hempty hline fun c hc => (hrest c hc).2)

theorem IsField.head (h : IsField text) (rest : PyString) :
    ∀ c ∈ (text ++ rest).head?, isSpace c = false := by
  rw [List.head?_append_of_ne_nil _ h.ne_nil]
  exact h.trimmed.1

theorem first_findingPattern (h : finding.WellFormed) (hfile : finding.file ≠ [])
    (htail : First (lazily isInline >>= findingTail finding.priority finding.file
      (if finding.line = [] then none else some finding.line))
        (finding.title ++ finding.afterTitle) groups rest) :
    First findingPattern finding.contract groups rest := by
  have hspace : ∀ c ∈ py " ", isSpace c = true := by decide
  have htitle := h.title.head finding.afterTitle
  have hblank : ∀ c ∈ (py " " ++ (finding.title ++ finding.afterTitle)).head?,
      c ≠ 0x3A ∧ isDigit c = false := by
    rintro c ⟨rfl⟩
    decide
  have hpath : ∀ c ∈ (finding.file ++ (finding.lineText ++ (py " " ++ (finding.title ++
      finding.afterTitle)))).head?, isSpace c = false := by
    rw [List.head?_append_of_ne_nil _ hfile]
    intro c hc
    have hunit := h.file c (List.mem_of_mem_head? hc)
    simp only [isFileUnit, Bool.and_eq_true, decide_eq_true_eq, Bool.not_eq_true] at hunit
    exact hunit.2
  have hends : ∀ c ∈ (finding.lineText ++ (py " " ++ (finding.title ++ finding.afterTitle))).head?,
      isFileUnit c = false := by
    rw [ReviewFinding.lineText]
    by_cases hempty : finding.line = []
    · rw [if_pos hempty, List.nil_append]
      rintro c ⟨rfl⟩
      decide
    · rw [if_neg hempty]
      rintro c ⟨rfl⟩
      decide
  rw [findingPattern, ReviewFinding.contract]
  apply first_literal.bind
  apply first_priorityGroup.bind
  apply first_literal.bind
  apply (first_greedy1 (s := py " ") (by decide) hspace hpath).bind
  apply (first_greedy1 hfile h.file hends).bind
  apply (first_lineGroup h.line hblank).bind
  exact (first_greedy hspace htitle).bind htail

theorem afterTitle_eq : finding.afterTitle =
    py " | " ++ (impactLabel ++ (py " " ++ (finding.impact ++ finding.afterImpact))) := rfl

theorem afterImpact_eq : finding.afterImpact =
    py " | " ++ (recommendationLabel ++ (py " " ++ finding.recommendation)) := rfl

theorem not_mem_lineEnds (hne : text ≠ []) (after : PyString) :
    text ++ (py " | " ++ after) ∉ [[], [0x0A]] := by
  obtain ⟨c, text, rfl⟩ := List.exists_cons_of_ne_nil hne
  intro hmem
  rcases List.mem_pair.mp hmem with hsame | hsame
  · cases hsame
  · exact List.append_ne_nil_of_right_ne_nil text (List.cons_ne_nil _ _) (List.cons.inj hsame).2

theorem opening_eq_nil_of_field {text before after rest : PyString} (hfield : IsField text)
    (hnone : opensWithin labels text = false) (hlabel : label ∈ labels)
    (hknown : label ∈ [impactLabel, recommendationLabel]) (hsplit : text = before ++ after)
    (hne : after ≠ []) : opening label (after ++ (py " | " ++ rest)) = [] := by
  have hspace : ∀ label ∈ [impactLabel, recommendationLabel], 0x20 ∉ label := by decide
  have hbar : ∀ label ∈ [impactLabel, recommendationLabel], ∀ c ∈ label.head?, c ≠ 0x7C := by decide
  have hnonempty : ∀ label ∈ [impactLabel, recommendationLabel], label ≠ [] := by decide
  have hlast : ∀ c ∈ after.getLast?, isSpace c = false := by
    intro c hc
    apply hfield.trimmed.2 c
    rw [hsplit, List.getLast?_append, Option.mem_def.mp hc, Option.some_or]
    rfl
  exact opening_append_eq_nil (hspace label hknown) (hbar label hknown) (hnonempty label hknown)
    hlast hne (opensWithin_eq_false.mp hnone before after hsplit label hlabel)

theorem first_recommendationTail (h : IsField finding.recommendation) :
    First (recommendationTail priority filePath lineNo title impact) finding.afterImpact
      ⟨priority, filePath, lineNo, title, impact, some finding.recommendation⟩ [] := by
  have hopening : First (opening recommendationLabel)
      (py " | " ++ (recommendationLabel ++ (py " " ++ finding.recommendation))) ()
        finding.recommendation :=
    first_opening (by decide) (by decide) h.trimmed.1
  have hgreedy : First (greedy isInline) finding.recommendation finding.recommendation [] := by
    have hall : First (greedy isInline) (finding.recommendation ++ []) finding.recommendation [] :=
      first_greedy h.inline nofun
    rwa [List.append_nil] at hall
  rw [afterImpact_eq]
  exact First.optional_bind ((hopening.bind hgreedy).bind ((first_before (by decide)).bind first_pure))

theorem first_findingTail (h : finding.WellFormed)
    (htail : First (lazily isInline >>= fun impact =>
      recommendationTail priority filePath lineNo title (some impact))
        (finding.impact ++ finding.afterImpact) groups rest) :
    First (findingTail priority filePath lineNo title) finding.afterTitle groups rest := by
  have hopening : First (opening impactLabel)
      (py " | " ++ (impactLabel ++ (py " " ++ (finding.impact ++ finding.afterImpact)))) ()
        (finding.impact ++ finding.afterImpact) :=
    first_opening (by decide) (by decide) (h.impact.head finding.afterImpact)
  rw [afterTitle_eq, findingTail, impactGroup]
  apply First.optional_bind
  rw [bind_bind]
  exact hopening.bind htail

theorem first_impact (h : finding.WellFormed)
    (himpact : opensWithin [recommendationLabel] finding.impact = false) :
    First (lazily isInline >>= fun impact =>
      recommendationTail priority filePath lineNo title (some impact))
        (finding.impact ++ finding.afterImpact)
          ⟨priority, filePath, lineNo, title, some finding.impact, some finding.recommendation⟩ [] := by
  have hearlier : ∀ before after, finding.impact = before ++ after → after ≠ [] →
      recommendationTail priority filePath lineNo title (some before)
        (after ++ finding.afterImpact) = [] := by
    intro before after hsplit hne
    rw [afterImpact_eq]
    apply recommendationTail_eq_nil _ (not_mem_lineEnds hne _)
    exact opening_eq_nil_of_field h.impact himpact (by simp) (by simp) hsplit hne
  exact first_lazily_bind (k := fun impact =>
    recommendationTail priority filePath lineNo title (some impact)) h.impact.inline hearlier
      (first_recommendationTail h.recommendation)

theorem first_title (h : finding.WellFormed)
    (htitle : opensWithin [impactLabel, recommendationLabel] finding.title = false)
    (htail : First (findingTail priority filePath lineNo finding.title) finding.afterTitle groups
      rest) :
    First (lazily isInline >>= findingTail priority filePath lineNo)
      (finding.title ++ finding.afterTitle) groups rest := by
  apply first_lazily_bind h.title.inline _ htail
  intro before after hsplit hne
  rw [afterTitle_eq]
  apply findingTail_eq_nil _ _ (not_mem_lineEnds hne _)
  · exact opening_eq_nil_of_field h.title htitle (by simp) (by simp) hsplit hne
  · exact opening_eq_nil_of_field h.title htitle (by simp) (by simp) hsplit hne

def groupsOf (finding : ReviewFinding) : Groups where
  priority := finding.priority
  filePath := finding.file
  lineNo := if finding.line = [] then none else some finding.line
  title := finding.title
  impact := some finding.impact
  recommendation := some finding.recommendation

theorem first_contract (h : finding.WellFormed) (hread : finding.IsReadable) :
    First findingPattern finding.contract (groupsOf finding) [] := by
  apply first_findingPattern h hread.file
  apply first_title h hread.title
  exact first_findingTail h (first_impact h hread.impact)

theorem orDefault_of_ne {default text : PyString} (hne : text ≠ []) :
    orDefault default (some text) = strip text := by
  rw [orDefault]
  simp only [if_neg hne]

theorem orDefault_some {default text : PyString} (h : IsField text) :
    orDefault default (some text) = text :=
  (orDefault_of_ne h.ne_nil).trans h.stripped

theorem finding_groupsOf (h : finding.WellFormed) : (groupsOf finding).finding = finding := by
  have hline : (if finding.line = [] then none else some finding.line).getD [] = finding.line := by
    by_cases hempty : finding.line = []
    · rw [if_pos hempty, hempty]
      rfl
    · rw [if_neg hempty]
      rfl
  rw [Groups.finding, groupsOf, orDefault_some h.title, orDefault_some h.impact,
    orDefault_some h.recommendation, hline]

/-! ## What else is read -/

theorem exists_of_opensWithin (h : opensWithin labels text = true) :
    ∃ before after label read, text = before ++ after ∧
      label ∈ labels ∧ ((), read) ∈ opening label after := by
  by_contra hnone
  push Not at hnone
  have hfalse : opensWithin labels text = false := by
    apply opensWithin_eq_false.mpr
    intro before after hsplit label hlabel
    apply List.eq_nil_iff_forall_not_mem.mpr
    rintro ⟨_, read⟩ hmem
    exact hnone before after label read hsplit hlabel hmem
  rw [h] at hfalse
  cases hfalse

theorem suffix_of_mem_opening {value : Unit} (h : (value, rest) ∈ opening label s) :
    rest <:+ s ∧ s ≠ [] := by
  obtain ⟨blanks, blanks', blanks'', rfl, -⟩ := mem_opening.mp h
  constructor
  · refine ⟨blanks ++ 0x7C :: (blanks' ++ (label ++ blanks'')), ?_⟩
    simp only [List.append_assoc, List.cons_append]
  · exact List.append_ne_nil_of_right_ne_nil _ (List.cons_ne_nil _ _)

theorem inline_afterImpact (h : finding.WellFormed) :
    ∀ c ∈ finding.afterImpact, isInline c = true :=
  List.forall_mem_append.mpr ⟨by decide, h.recommendation.inline⟩

theorem inline_afterTitle (h : finding.WellFormed) : ∀ c ∈ finding.afterTitle, isInline c = true :=
  List.forall_mem_append.mpr ⟨by decide,
    List.forall_mem_append.mpr ⟨h.impact.inline, inline_afterImpact h⟩⟩

theorem orDefault_ne {default text part before after : PyString} (hpart : part <+: before)
    (hsplit : text = before ++ after) (hafter : after ≠ []) (hne : part ≠ []) :
    orDefault default (some part) ≠ text := by
  intro hsame
  have hlength := congrArg List.length hsame
  rw [orDefault_of_ne hne] at hlength
  have hstrip : (strip part).length ≤ part.length := Strip.length_strip_le
  have hshort := hpart.length_le
  have hpos := List.length_pos_of_ne_nil hafter
  rw [hsplit, List.length_append] at hlength
  omega

theorem opening_eq_nil_of_start {text : PyString} (h : IsField text) (after : PyString) :
    opening label (text ++ after) = [] :=
  opening_eq_nil_of_head (h.head after)

theorem exists_of_title (h : finding.WellFormed) (hfile : finding.file ≠ [])
    (hopens : opensWithin [impactLabel, recommendationLabel] finding.title = true) :
    ∃ groups rest, First findingPattern finding.contract groups rest ∧
      groups.finding ≠ finding := by
  obtain ⟨before, after, label, read, hsplit, hlabel, hread⟩ := exists_of_opensWithin hopens
  obtain ⟨hends, hne⟩ := suffix_of_mem_opening hread
  have hinline := h.title.inline
  rw [hsplit, List.forall_mem_append] at hinline
  have hreadOn := mem_opening_append hread finding.afterTitle
  have hreadInline : ∀ c ∈ read ++ finding.afterTitle, isInline c = true :=
    List.forall_mem_append.mpr ⟨fun c hc => hinline.2 c (hends.subset hc), inline_afterTitle h⟩
  have hway : findingTail finding.priority finding.file
      (if finding.line = [] then none else some finding.line) before
        (after ++ finding.afterTitle) ≠ [] := by
    rcases List.mem_pair.mp hlabel with rfl | rfl
    · exact findingTail_ne_nil_of_impact hreadOn hreadInline
    · exact findingTail_ne_nil_of_recommendation hreadOn hreadInline
  obtain ⟨part, remaining, hpart, hparts, groups, rest, hfirst, hall⟩ :=
    exists_first_lazily_bind hinline.1 hway
  rw [← List.append_assoc, ← hsplit] at hparts hall
  refine ⟨groups, rest, first_findingPattern h hfile hall, ?_⟩
  have hpartNe : part ≠ [] := by
    rintro rfl
    have hnil : findingTail finding.priority finding.file
        (if finding.line = [] then none else some finding.line) [] remaining = [] := by
      rw [List.nil_append] at hparts
      rw [← hparts]
      apply findingTail_eq_nil (opening_eq_nil_of_start h.title _) (opening_eq_nil_of_start h.title _)
      rw [afterTitle_eq]
      exact not_mem_lineEnds h.title.ne_nil _
    have hmem := hfirst.mem
    rw [hnil] at hmem
    cases hmem
  obtain ⟨impact, s', hmem, -⟩ := mem_findingTail hfirst.mem
  obtain ⟨recommendation, rfl, -⟩ := mem_recommendationTail hmem
  intro hsame
  exact orDefault_ne hpart hsplit hne hpartNe (congrArg ReviewFinding.title hsame)

theorem exists_of_impact (h : finding.WellFormed) (hfile : finding.file ≠ [])
    (htitle : opensWithin [impactLabel, recommendationLabel] finding.title = false)
    (hopens : opensWithin [recommendationLabel] finding.impact = true) :
    ∃ groups rest, First findingPattern finding.contract groups rest ∧
      groups.finding ≠ finding := by
  obtain ⟨before, after, label, read, hsplit, hlabel, hread⟩ := exists_of_opensWithin hopens
  obtain rfl := List.mem_singleton.mp hlabel
  obtain ⟨hends, hne⟩ := suffix_of_mem_opening hread
  have hinline := h.impact.inline
  rw [hsplit, List.forall_mem_append] at hinline
  have hreadInline : ∀ c ∈ read ++ finding.afterImpact, isInline c = true :=
    List.forall_mem_append.mpr ⟨fun c hc => hinline.2 c (hends.subset hc), inline_afterImpact h⟩
  have hway : recommendationTail finding.priority finding.file
      (if finding.line = [] then none else some finding.line) finding.title (some before)
        (after ++ finding.afterImpact) ≠ [] :=
    recommendationTail_ne_nil (mem_opening_append hread finding.afterImpact) hreadInline
  obtain ⟨part, remaining, hpart, hparts, groups, rest, hfirst, hall⟩ :=
    exists_first_lazily_bind (k := fun impact => recommendationTail finding.priority finding.file
      (if finding.line = [] then none else some finding.line) finding.title (some impact))
        hinline.1 hway
  rw [← List.append_assoc, ← hsplit] at hparts hall
  refine ⟨groups, rest, ?_, ?_⟩
  · exact first_findingPattern h hfile (first_title h htitle (first_findingTail h hall))
  have hpartNe : part ≠ [] := by
    rintro rfl
    have hnil : recommendationTail finding.priority finding.file
        (if finding.line = [] then none else some finding.line) finding.title (some []) remaining =
          [] := by
      rw [List.nil_append] at hparts
      rw [← hparts]
      apply recommendationTail_eq_nil (opening_eq_nil_of_start h.impact _)
      rw [afterImpact_eq]
      exact not_mem_lineEnds h.impact.ne_nil _
    have hmem := hfirst.mem
    rw [hnil] at hmem
    cases hmem
  obtain ⟨recommendation, rfl, -⟩ := mem_recommendationTail hfirst.mem
  intro hsame
  exact orDefault_ne hpart hsplit hne hpartNe (congrArg ReviewFinding.impact hsame)

theorem suffix_of_mem_priorityGroup (h : (priority, rest) ∈ priorityGroup s) : rest <:+ s := by
  have hone : ∀ known : Priority,
      (priority, rest) ∈ (literal known.text >>= fun _ => pure known : Matcher CodePoint Priority) s →
        rest <:+ s := by
    intro known hmem
    obtain ⟨_, s', hliteral, hpure⟩ := mem_bind.mp hmem
    obtain ⟨-, rfl⟩ := mem_pure.mp hpure
    rw [mem_literal.mp hliteral]
    exact List.suffix_append _ _
  rcases mem_either.mp h with h | h
  · exact hone _ h
  rcases mem_either.mp h with h | h
  · exact hone _ h
  rcases mem_either.mp h with h | h
  · exact hone _ h
  · exact hone _ h

theorem suffix_of_mem_lineGroup (h : (lineNo, rest) ∈ lineGroup s) : rest <:+ s := by
  cases lineNo with
  | none => rw [mem_optional_none.mp h]
  | some value =>
      obtain ⟨_, s', hliteral, hread⟩ := mem_bind.mp (mem_optional_some.mp h)
      obtain ⟨rfl, -⟩ := mem_greedy1.mp hread
      rw [mem_literal.mp hliteral, ← List.append_assoc]
      exact List.suffix_append _ _

/-- What a match says of the text. -/
structure Reads (s : PyString) (groups : Groups) : Prop where
  head : s.head? = some 0x5B
  file : groups.filePath ≠ []
  title : ∀ c ∈ groups.title, c ∈ s
  impact : ∀ value ∈ groups.impact, ∀ c ∈ value, c ∈ s
  recommendation : ∀ value ∈ groups.recommendation, ∃ before after, s = before ++ (value ++ after) ∧
    after ∈ [[], [0x0A]]

theorem reads_of_mem (h : (groups, rest) ∈ findingPattern s) : Reads s groups := by
  obtain ⟨_, s₁, hbracket, h⟩ := mem_bind.mp h
  obtain ⟨priority, s₂, hpriority, h⟩ := mem_bind.mp h
  obtain ⟨_, s₃, hclose, h⟩ := mem_bind.mp h
  obtain ⟨_, s₄, hblanks, h⟩ := mem_bind.mp h
  obtain ⟨filePath, s₅, hfile, h⟩ := mem_bind.mp h
  obtain ⟨lineNo, s₆, hline, h⟩ := mem_bind.mp h
  obtain ⟨_, s₇, hspaces, h⟩ := mem_bind.mp h
  obtain ⟨title, s₈, htitle, h⟩ := mem_bind.mp h
  obtain ⟨impact, s₉, h, hafter, himpact⟩ := mem_findingTail h
  obtain ⟨recommendation, rfl, hrest, hrecommendation⟩ := mem_recommendationTail h
  have hpart : s₇ <:+ s := by
    calc
      s₇ <:+ s₆ := by
        rw [(mem_greedy.mp hspaces).1]
        exact List.suffix_append _ _
      _ <:+ s₅ := suffix_of_mem_lineGroup hline
      _ <:+ s₄ := by
        rw [(mem_greedy1.mp hfile).1]
        exact List.suffix_append _ _
      _ <:+ s₃ := by
        rw [(mem_greedy1.mp hblanks).1]
        exact List.suffix_append _ _
      _ <:+ s₂ := by
        rw [mem_literal.mp hclose]
        exact List.suffix_append _ _
      _ <:+ s₁ := suffix_of_mem_priorityGroup hpriority
      _ <:+ s := by
        rw [mem_literal.mp hbracket]
        exact List.suffix_append _ _
  obtain ⟨rfl, -⟩ := mem_lazily.mp htitle
  have hends : s₈ <:+ s := (List.suffix_append title s₈).trans hpart
  refine ⟨?_, (mem_greedy1.mp hfile).2.1, ?_, ?_, ?_⟩
  · rw [mem_literal.mp hbracket]
    rfl
  · exact fun c hc => hpart.subset (List.mem_append_left _ hc)
  · intro value hvalue c hc
    obtain ⟨before, hsplit⟩ := himpact value hvalue
    apply hends.subset
    rw [hsplit]
    exact List.mem_append_right _ (List.mem_append_left _ hc)
  · intro value hvalue
    obtain ⟨hreadEnds, -⟩ := suffix_of_mem_opening (hrecommendation value hvalue)
    obtain ⟨before', hafterSplit⟩ := hafter
    have hlast : s₉ <:+ s₈ := ⟨before', hafterSplit.symm⟩
    obtain ⟨before, hsplit⟩ := hreadEnds.trans (hlast.trans hends)
    exact ⟨before, rest, hsplit.symm, hrest⟩

end Reading

end DevHarness.CandidateCommit
