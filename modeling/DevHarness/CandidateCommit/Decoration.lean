import DevHarness.CandidateCommit.Evaluator
import DevHarness.Text.Separated

/-!
# Decorated lines

Block quotes, list markers and wrappers around a text, in any nesting, and what is left of them when
the line is normalised.  The normalisation takes off block quotes first, then one list marker, then
wrappers: in this order it takes off everything.
-/

namespace DevHarness.CandidateCommit

open JsText PyText Matching Matcher

/-! ## Layers -/

inductive Layer
  | quote (blanks : PyString)
  | bullet (mark : CodePoint) (blanks : PyString)
  | numbered (digits : PyString) (close : CodePoint) (blanks : PyString)
  | wrapped (wrapper : PyString)

namespace Layer

def lead : Layer → PyString
  | quote blanks => 0x3E :: blanks
  | bullet mark blanks => mark :: blanks
  | numbered digits close blanks => digits ++ close :: blanks
  | wrapped wrapper => wrapper

def trail : Layer → PyString
  | wrapped wrapper => wrapper
  | _ => []

def put (layer : Layer) (text : PyString) : PyString :=
  layer.lead ++ text ++ layer.trail

def isQuote : Layer → Bool
  | quote _ => true
  | _ => false

def isItem : Layer → Bool
  | bullet _ _ => true
  | numbered _ _ _ => true
  | _ => false

def isWrapper : Layer → Bool
  | wrapped _ => true
  | _ => false

/-- White space within a line. -/
def AreBlanks (blanks : PyString) : Prop :=
  ∀ c ∈ blanks, isSpace c = true ∧ isLineBoundary c = false

/-- The layer is one of Markdown's. -/
def WellFormed : Layer → Prop
  | quote blanks => AreBlanks blanks
  | bullet mark blanks => isBullet mark = true ∧ blanks ≠ [] ∧ AreBlanks blanks
  | numbered digits close blanks =>
    (digits ≠ [] ∧ ∀ c ∈ digits, isDigit c = true) ∧ isClose close = true ∧ blanks ≠ [] ∧
      AreBlanks blanks
  | wrapped wrapper => wrapper ∈ wrappers

end Layer

open Layer

def decorate (layers : List Layer) (text : PyString) : PyString :=
  layers.foldr Layer.put text

def dropItem : List Layer → List Layer
  | [] => []
  | layer :: layers => if layer.isItem then layers else layer :: layers

def innerLayers (layers : List Layer) : List Layer :=
  dropItem (layers.dropWhile Layer.isQuote)

/-- Block quotes come first, then at most one list marker, then wrappers. -/
def InOrder (layers : List Layer) : Prop :=
  ∀ layer ∈ innerLayers layers, layer.isWrapper = true

instance decidableInOrder (layers : List Layer) : Decidable (InOrder layers) :=
  inferInstanceAs (Decidable (∀ layer ∈ innerLayers layers, layer.isWrapper = true))

theorem mem_of_mem_innerLayers {layers : List Layer} {layer : Layer}
    (h : layer ∈ innerLayers layers) : layer ∈ layers := by
  apply (List.dropWhile_suffix Layer.isQuote).subset
  rw [innerLayers] at h
  cases hlayers : layers.dropWhile Layer.isQuote with
  | nil => rwa [hlayers] at h
  | cons first others =>
      rw [hlayers, dropItem] at h
      by_cases hitem : first.isItem = true
      · rw [if_pos hitem] at h
        exact List.mem_cons_of_mem first h
      · rwa [if_neg hitem] at h

/-! ## Code points -/

def isMark (c : CodePoint) : Bool :=
  c ∈ py "`*_"

def isDecor (c : CodePoint) : Bool :=
  isMark c || isSpace c

variable {c : CodePoint} {wrapper : PyString}

theorem mem_of_isMark (hc : isMark c = true) : c ∈ [0x60, 0x2A, 0x5F] := by
  have hmarks : py "`*_" = [0x60, 0x2A, 0x5F] := by decide
  rw [← hmarks]
  exact of_decide_eq_true hc

theorem not_isSpace_of_isMark (hc : isMark c = true) : isSpace c = false := by
  have hall : ∀ c ∈ [0x60, 0x2A, 0x5F], isSpace c = false := by decide
  exact hall c (mem_of_isMark hc)

theorem singleton_mem_wrappers (hc : isMark c = true) : [c] ∈ wrappers := by
  have hall : ∀ c ∈ [0x60, 0x2A, 0x5F], [c] ∈ wrappers := by decide
  exact hall c (mem_of_isMark hc)

theorem isMark_of_mem (hwrapper : wrapper ∈ wrappers) : ∀ c ∈ wrapper, isMark c = true := by
  revert wrapper
  decide

theorem ne_nil_of_mem (hwrapper : wrapper ∈ wrappers) : wrapper ≠ [] := by
  revert wrapper
  decide

theorem reverse_wrapper (hwrapper : wrapper ∈ wrappers) : wrapper.reverse = wrapper := by
  revert wrapper
  decide

theorem not_isSpace_of_isDigit (hc : isDigit c = true) : isSpace c = false := by
  have hall : ∀ c ∈ decimalZeros.flatMap fun first => (List.range 10).map (first + ·),
      isSpace c = false := by decide +kernel
  apply hall
  rw [isDigit, digitValue, Option.isSome_map, List.find?_isSome] at hc
  obtain ⟨first, hfirst, hrange⟩ := hc
  simp only [Bool.and_eq_true, decide_eq_true_eq] at hrange
  refine List.mem_flatMap.mpr ⟨first, hfirst, List.mem_map.mpr ⟨c - first, ?_, ?_⟩⟩
  · rw [List.mem_range]
    exact Nat.sub_lt_left_of_lt_add hrange.1 hrange.2
  · exact Nat.add_sub_cancel' hrange.1

theorem isSpace_of_isLineBoundary (hc : isLineBoundary c = true) : isSpace c = true := by
  simp only [isLineBoundary, Bool.or_eq_true, Bool.and_eq_true, decide_eq_true_eq,
    beq_iff_eq] at hc
  rcases hc with (((⟨hlow, hhigh⟩ | ⟨hlow, hhigh⟩) | rfl) | rfl) | rfl
  · have hstart : 0x9 ≤ c := le_trans (by decide) hlow
    simp [isSpace, hstart, hhigh]
  · have hend : c ≤ 0x20 := le_trans hhigh (by decide)
    simp [isSpace, hlow, hend]
  · rfl
  · rfl
  · rfl

theorem not_isLineBoundary (hc : isSpace c = false) : isLineBoundary c = false := by
  by_contra hboundary
  rw [isSpace_of_isLineBoundary (Bool.not_eq_false _ ▸ hboundary)] at hc
  cases hc

/-! ## The ends of a decorated text -/

/-- Neither end of the text is white space. -/
def Trimmed (s : PyString) : Prop :=
  (∀ c ∈ s.head?, isSpace c = false) ∧ ∀ c ∈ s.getLast?, isSpace c = false

theorem strip_eq_self_iff_trimmed {s : PyString} : strip s = s ↔ Trimmed s := by
  rw [strip, Strip.strip_eq_self_iff]
  by_cases hs : s = []
  · rw [hs]
    simp [Trimmed]
  · simp [Trimmed, hs, List.head?_eq_some_head hs, List.getLast?_eq_some_getLast hs]

theorem exists_of_strip (s : PyString) : ∃ blanks blanks', s = blanks ++ strip s ++ blanks' ∧
    (∀ c ∈ blanks, isSpace c = true) ∧ ∀ c ∈ blanks', isSpace c = true := by
  refine ⟨s.takeWhile isSpace, (s.dropWhile isSpace).rtakeWhile isSpace, ?_, ?_, ?_⟩
  · have hright : strip s ++ (s.dropWhile isSpace).rtakeWhile isSpace = s.dropWhile isSpace := by
      rw [strip, Strip.strip, List.rdropWhile, List.rtakeWhile, ← List.reverse_append,
        List.takeWhile_append_dropWhile, List.reverse_reverse]
    rw [List.append_assoc, hright, List.takeWhile_append_dropWhile]
  · exact fun c hc => List.mem_takeWhile_imp hc
  · exact fun c hc => List.mem_rtakeWhile_imp hc

/-- A text that starts with a bracket and is trimmed, as a finding is. -/
structure Bare (core : PyString) : Prop where
  head : core.head? = some 0x5B
  trimmed : Trimmed core

theorem Bare.ne_nil {core : PyString} (h : Bare core) : core ≠ [] := by
  rintro rfl
  exact nomatch h.head

section Layers

variable {layer : Layer} {layers : List Layer} {core : PyString} {c : CodePoint} {text : PyString}
  {fuel : ℕ} {s rest : PyString} {value : Unit} {candidate wrapper : PyString} {marks : PyString}

section

variable (h : layer.WellFormed)

include h

theorem head_lead : ∃ c rest, layer.lead = c :: rest ∧ isSpace c = false := by
  cases layer with
  | quote blanks => exact ⟨0x3E, blanks, rfl, by decide⟩
  | bullet mark blanks =>
      refine ⟨mark, blanks, rfl, ?_⟩
      have hall : ∀ mark ∈ py "-+*", isSpace mark = false := by decide
      exact hall mark (of_decide_eq_true h.1)
  | numbered digits close blanks =>
      obtain ⟨⟨hne, hdigits⟩, -⟩ := h
      obtain ⟨c, digits, rfl⟩ := List.exists_cons_of_ne_nil hne
      exact ⟨c, digits ++ close :: blanks, rfl, not_isSpace_of_isDigit (hdigits c List.mem_cons_self)⟩
  | wrapped wrapper =>
      obtain ⟨c, rest, hwrapper⟩ := List.exists_cons_of_ne_nil (ne_nil_of_mem h)
      refine ⟨c, rest, hwrapper, not_isSpace_of_isMark (isMark_of_mem h c ?_)⟩
      rw [hwrapper]
      exact List.mem_cons_self

theorem not_isSpace_of_mem_trail (hc : c ∈ layer.trail) : isSpace c = false := by
  cases layer with
  | wrapped wrapper => exact not_isSpace_of_isMark (isMark_of_mem h c hc)
  | quote blanks => cases hc
  | bullet mark blanks => cases hc
  | numbered digits close blanks => cases hc

theorem trimmed_put (hne : text ≠ []) (htext : Trimmed text) : Trimmed (layer.put text) := by
  obtain ⟨c, rest, hlead, hc⟩ := head_lead h
  constructor
  · rw [Layer.put, hlead]
    rintro d ⟨rfl⟩
    exact hc
  · rw [Layer.put, List.getLast?_append]
    cases htrail : layer.trail.getLast? with
    | none =>
        rw [Option.none_or, List.getLast?_append, List.getLast?_eq_some_getLast hne, Option.some_or,
          ← List.getLast?_eq_some_getLast hne]
        exact htext.2
    | some d =>
        rw [Option.some_or]
        rintro d' ⟨rfl⟩
        exact not_isSpace_of_mem_trail h (List.mem_of_getLast? htrail)

theorem put_ne_nil (text : PyString) : layer.put text ≠ [] := by
  obtain ⟨c, rest, hlead, -⟩ := head_lead h
  rw [Layer.put, hlead]
  exact List.cons_ne_nil c _

end

theorem decorate_ne_nil (h : ∀ layer ∈ layers, layer.WellFormed) (hcore : Bare core) :
    decorate layers core ≠ [] := by
  cases layers with
  | nil => exact hcore.ne_nil
  | cons layer layers => exact put_ne_nil (h layer List.mem_cons_self) _

theorem trimmed_decorate (h : ∀ layer ∈ layers, layer.WellFormed) (hcore : Bare core) :
    Trimmed (decorate layers core) := by
  induction layers with
  | nil => exact hcore.trimmed
  | cons layer layers ih =>
      obtain ⟨hlayer, hlayers⟩ := List.forall_mem_cons.mp h
      exact trimmed_put hlayer (decorate_ne_nil hlayers hcore) (ih hlayers)

/-! ## Block quotes -/

theorem lstrip_append {blanks text : PyString} (hblanks : ∀ c ∈ blanks, isSpace c = true)
    (htext : ∀ c ∈ text.head?, isSpace c = false) : lstrip (blanks ++ text) = text := by
  rw [lstrip, List.dropWhile_append_of_pos hblanks]
  cases text with
  | nil => rfl
  | cons c text => rw [List.dropWhile_cons_of_neg]; simpa using htext c rfl

theorem dropQuotesLoop_of_not (h : text.head? ≠ some 0x3E) (fuel : ℕ) :
    dropQuotesLoop fuel text = text := by
  cases fuel with
  | zero => rfl
  | succ fuel =>
      rw [dropQuotesLoop, if_neg]
      rintro ⟨rest, rfl⟩
      exact h rfl

theorem head?_put (h : layer.WellFormed) (hquote : layer.isQuote = false) (text : PyString) :
    (layer.put text).head? ≠ some 0x3E := by
  cases layer with
  | quote blanks => cases hquote
  | bullet mark blanks =>
      rintro ⟨rfl⟩
      exact absurd h.1 (by decide)
  | numbered digits close blanks =>
      obtain ⟨⟨hne, hdigits⟩, -⟩ := h
      obtain ⟨c, digits, rfl⟩ := List.exists_cons_of_ne_nil hne
      rintro ⟨rfl⟩
      exact absurd (hdigits _ List.mem_cons_self) (by decide)
  | wrapped wrapper =>
      obtain ⟨c, rest, hwrapper⟩ := List.exists_cons_of_ne_nil (ne_nil_of_mem h)
      have hc := isMark_of_mem h c (by rw [hwrapper]; exact List.mem_cons_self)
      rw [Layer.put, Layer.lead, hwrapper]
      rintro ⟨rfl⟩
      exact absurd hc (by decide)

section

variable (h : ∀ layer ∈ layers, layer.WellFormed)

include h

theorem dropQuotesLoop_decorate (hcore : Bare core) (hfuel : layers.length ≤ fuel) :
    dropQuotesLoop fuel (decorate layers core) =
      decorate (layers.dropWhile Layer.isQuote) core := by
  induction layers generalizing fuel with
  | nil =>
      apply dropQuotesLoop_of_not
      rw [decorate, List.foldr_nil, hcore.head]
      decide
  | cons layer layers ih =>
      obtain ⟨hlayer, hlayers⟩ := List.forall_mem_cons.mp h
      by_cases hquote : layer.isQuote = true
      · rw [List.dropWhile_cons_of_pos hquote]
        cases layer with
        | quote blanks =>
            obtain ⟨fuel, rfl⟩ := Nat.exists_eq_add_of_lt hfuel
            have hdrop : lstrip (blanks ++ decorate layers core ++ []) = decorate layers core := by
              rw [List.append_nil]
              exact lstrip_append (fun c hc => (hlayer c hc).1) (trimmed_decorate hlayers hcore).1
            change dropQuotesLoop (layers.length + fuel + 1)
              (0x3E :: (blanks ++ decorate layers core ++ [])) = _
            rw [dropQuotesLoop, if_pos ⟨_, rfl⟩, List.drop_one, List.tail_cons, hdrop]
            exact ih hlayers (Nat.le_add_right _ _)
        | bullet mark blanks => cases hquote
        | numbered digits close blanks => cases hquote
        | wrapped wrapper => cases hquote
      · rw [List.dropWhile_cons_of_neg hquote]
        apply dropQuotesLoop_of_not
        exact head?_put hlayer (Bool.not_eq_true _ ▸ hquote) _

theorem length_le_length_decorate (core : PyString) :
    layers.length ≤ (decorate layers core).length := by
  induction layers with
  | nil => exact Nat.zero_le _
  | cons layer layers ih =>
      obtain ⟨hlayer, hlayers⟩ := List.forall_mem_cons.mp h
      obtain ⟨c, rest, hlead, -⟩ := head_lead hlayer
      have hlength := ih hlayers
      rw [decorate, List.foldr_cons, Layer.put, hlead, List.length_append, List.length_append,
        List.length_cons, List.length_cons]
      rw [decorate] at hlength
      omega

theorem dropQuotes_decorate (hcore : Bare core) :
    dropQuotes (decorate layers core) = decorate (layers.dropWhile Layer.isQuote) core :=
  dropQuotesLoop_decorate h hcore (length_le_length_decorate h core)

end

/-! ## List markers -/

theorem mem_bulletMarker :
    (value, rest) ∈ bulletMarker s ↔ ∃ mark, s = mark :: rest ∧ isBullet mark = true := by
  rw [bulletMarker, mem_bind]
  constructor
  · rintro ⟨mark, _, hone, hpure⟩
    obtain ⟨-, rfl⟩ := mem_pure.mp hpure
    exact ⟨mark, mem_one.mp hone⟩
  · rintro ⟨mark, hone⟩
    exact ⟨mark, rest, mem_one.mpr hone, mem_pure.mpr ⟨rfl, rfl⟩⟩

theorem exists_of_mem_numberMarker (h : (value, rest) ∈ numberMarker s) :
    ∃ digit others, s = digit :: others ∧ isDigit digit = true := by
  obtain ⟨digits, rest', hdigits, -⟩ := mem_bind.mp h
  obtain ⟨rfl, hne, hdigits⟩ := mem_greedy1.mp hdigits
  obtain ⟨digit, digits, rfl⟩ := List.exists_cons_of_ne_nil hne
  exact ⟨digit, digits ++ rest', rfl, hdigits digit List.mem_cons_self⟩

theorem exists_of_mem_listMarker (h : (value, rest) ∈ listMarker s) :
    (∃ digit others, s = digit :: others ∧ isDigit digit = true) ∨
      ∃ mark blank others, s = mark :: blank :: others ∧ isBullet mark = true ∧ isSpace blank = true := by
  obtain ⟨_, rest', hmarker, h⟩ := mem_bind.mp h
  obtain ⟨blanks, rest'', hblanks, -⟩ := mem_bind.mp h
  obtain ⟨rfl, hne, hspaces⟩ := mem_greedy1.mp hblanks
  obtain ⟨blank, blanks, rfl⟩ := List.exists_cons_of_ne_nil hne
  rcases mem_either.mp hmarker with hbullet | hnumber
  · obtain ⟨mark, rfl, hmark⟩ := mem_bulletMarker.mp hbullet
    exact Or.inr ⟨mark, blank, blanks ++ rest'', rfl, hmark, hspaces blank List.mem_cons_self⟩
  · exact Or.inl (exists_of_mem_numberMarker hnumber)

theorem suffix_of_mem_listMarker (h : (value, rest) ∈ listMarker s) : rest <:+ s := by
  obtain ⟨_, s₁, hmarker, h⟩ := mem_bind.mp h
  obtain ⟨blanks, s₂, hblanks, h⟩ := mem_bind.mp h
  obtain ⟨-, rfl⟩ := mem_pure.mp h
  have hrest : rest <:+ s₁ := by
    rw [(mem_greedy1.mp hblanks).1]
    exact List.suffix_append _ _
  apply hrest.trans
  rcases mem_either.mp hmarker with hbullet | hnumber
  · obtain ⟨mark, rfl, -⟩ := mem_bulletMarker.mp hbullet
    exact List.suffix_cons _ _
  · obtain ⟨digits, s₃, hdigits, hnumber⟩ := mem_bind.mp hnumber
    obtain ⟨close, s₄, hclose, hpure⟩ := mem_bind.mp hnumber
    obtain ⟨-, rfl⟩ := mem_pure.mp hpure
    rw [(mem_greedy1.mp hdigits).1, (mem_one.mp hclose).1]
    exact (List.suffix_cons _ _).trans (List.suffix_append _ _)

/-- A text is left alone that starts with no digit, and not with a sign before white space. -/
theorem dropListMarker_eq_self {c : CodePoint} {s : PyString} (hdigit : isDigit c = false)
    (hnext : ∀ d ∈ s.head?, isBullet c = true → isSpace d = false) :
    dropListMarker (c :: s) = c :: s := by
  have hnone : listMarker (c :: s) = [] := by
    apply List.eq_nil_iff_forall_not_mem.mpr
    rintro ⟨value, rest⟩ hmem
    rcases exists_of_mem_listMarker hmem with ⟨digit, others, hsplit, htrue⟩ |
      ⟨mark, blank, others, hsplit, hmark, htrue⟩
    · obtain ⟨rfl, -⟩ := List.cons.inj hsplit
      rw [hdigit] at htrue
      cases htrue
    · obtain ⟨rfl, rfl⟩ := List.cons.inj hsplit
      rw [hnext blank rfl hmark] at htrue
      cases htrue
  rw [dropListMarker, hnone]
  rfl

theorem dropListMarker_of_first (h : First listMarker s () rest) : dropListMarker s = rest := by
  rw [dropListMarker, h]

theorem dropListMarker_put (h : layer.WellFormed) (hitem : layer.isItem = true)
    (htext : ∀ c ∈ text.head?, isSpace c = false) : dropListMarker (layer.put text) = text := by
  apply dropListMarker_of_first
  cases layer with
  | bullet mark blanks =>
      obtain ⟨hmark, hne, hblanks⟩ := h
      have hput : (Layer.bullet mark blanks).put text = mark :: (blanks ++ text) :=
        List.append_nil _
      have hbullet : First bulletMarker (mark :: (blanks ++ text)) () (blanks ++ text) :=
        (first_one hmark).bind first_pure
      rw [hput]
      apply (first_either_left hbullet).bind
      exact (first_greedy1 hne (fun c hc => (hblanks c hc).1) htext).bind first_pure
  | numbered digits close blanks =>
      obtain ⟨⟨hdigitsNe, hdigits⟩, hclose, hne, hblanks⟩ := h
      have hput : (Layer.numbered digits close blanks).put text =
          digits ++ close :: (blanks ++ text) := by
        change digits ++ close :: blanks ++ text ++ [] = _
        rw [List.append_nil, List.append_assoc, List.cons_append]
      have hnoBullet : bulletMarker (digits ++ close :: (blanks ++ text)) = [] := by
        apply List.eq_nil_iff_forall_not_mem.mpr
        rintro ⟨value, rest⟩ hmem
        obtain ⟨mark, hsplit, hmark⟩ := mem_bulletMarker.mp hmem
        obtain ⟨digit, digits, rfl⟩ := List.exists_cons_of_ne_nil hdigitsNe
        obtain ⟨rfl, -⟩ := List.cons.inj hsplit
        have hall : ∀ mark ∈ py "-+*", isDigit mark = false := by decide
        have hdigit := hdigits digit List.mem_cons_self
        rw [hall digit (of_decide_eq_true hmark)] at hdigit
        cases hdigit
      have hends : ∀ c ∈ (close :: (blanks ++ text)).head?, isDigit c = false := by
        rintro c ⟨rfl⟩
        have hall : ∀ close ∈ py ".)", isDigit close = false := by decide
        exact hall close (of_decide_eq_true hclose)
      have hnumber : First numberMarker (digits ++ close :: (blanks ++ text)) () (blanks ++ text) :=
        (first_greedy1 hdigitsNe hdigits hends).bind ((first_one hclose).bind first_pure)
      rw [hput]
      apply (first_either_right hnoBullet hnumber).bind
      exact (first_greedy1 hne (fun c hc => (hblanks c hc).1) htext).bind first_pure
  | quote blanks => cases hitem
  | wrapped wrapper => cases hitem

theorem dropListMarker_decorate (h : ∀ layer ∈ layers, layer.WellFormed) (hcore : Bare core)
    (hquote : ∀ layer ∈ layers.head?, layer.isQuote = false) :
    dropListMarker (decorate layers core) = decorate (dropItem layers) core := by
  cases layers with
  | nil =>
      obtain ⟨rest, hrest⟩ : ∃ rest, core = 0x5B :: rest := List.head?_eq_some_iff.mp hcore.head
      rw [dropItem, decorate, List.foldr_nil, hrest]
      exact dropListMarker_eq_self (by decide) fun _ _ hbullet => absurd hbullet (by decide)
  | cons layer layers =>
      obtain ⟨hlayer, hlayers⟩ := List.forall_mem_cons.mp h
      have hinner := (trimmed_decorate hlayers hcore).1
      by_cases hitem : layer.isItem = true
      · rw [dropItem, if_pos hitem]
        exact dropListMarker_put hlayer hitem hinner
      · rw [dropItem, if_neg hitem]
        cases layer with
        | wrapped wrapper =>
            have hmarks := isMark_of_mem hlayer
            obtain ⟨c, rest, rfl⟩ := List.exists_cons_of_ne_nil (ne_nil_of_mem hlayer)
            apply dropListMarker_eq_self
            · have hall : ∀ c ∈ [0x60, 0x2A, 0x5F], isDigit c = false := by decide
              exact hall c (mem_of_isMark (hmarks c List.mem_cons_self))
            · intro d hd _
              cases rest with
              | nil =>
                  have hhead : d ∈ (decorate layers core ++ [c]).head? := hd
                  rw [List.head?_append_of_ne_nil _ (decorate_ne_nil hlayers hcore)] at hhead
                  exact hinner d hhead
              | cons e rest =>
                  obtain ⟨rfl⟩ := hd
                  exact not_isSpace_of_isMark (hmarks _ (List.mem_cons_of_mem _ List.mem_cons_self))
        | quote blanks => cases hquote (Layer.quote blanks) rfl
        | bullet mark blanks => exact absurd rfl hitem
        | numbered digits close blanks => exact absurd rfl hitem

/-! ## Wrappers -/

theorem exists_of_isWrapped (h : isWrapped candidate wrapper = true) :
    ∃ inner, candidate = wrapper ++ inner ++ wrapper ∧ unwrap candidate wrapper = strip inner := by
  rw [isWrapped, Bool.and_eq_true, Bool.and_eq_true, decide_eq_true_eq, decide_eq_true_eq,
    decide_eq_true_eq] at h
  obtain ⟨⟨⟨rest, rfl⟩, hends⟩, hlength⟩ := h
  have hrest : wrapper <:+ rest := by
    apply List.suffix_of_suffix_length_le hends (List.suffix_append wrapper rest)
    rw [List.length_append] at hlength
    omega
  obtain ⟨inner, rfl⟩ := hrest
  refine ⟨inner, (List.append_assoc _ _ _).symm, ?_⟩
  rw [unwrap, List.drop_left, List.rdrop_append_length]

theorem find?_isWrapped
    (h : (wrappers.find? fun wrapper => isWrapped candidate wrapper) = some wrapper) :
    wrapper ∈ wrappers ∧ isWrapped candidate wrapper = true :=
  ⟨List.mem_of_find?_eq_some h, List.find?_some h⟩

theorem prefix_marks {wrapper marks text : PyString} (hwrapper : wrapper ∈ wrappers)
    (htext : text.head? = some 0x5B) (h : wrapper <+: marks ++ text) : wrapper <+: marks := by
  rcases List.prefix_or_prefix_of_prefix h (List.prefix_append marks text) with hstarts | hstarts
  · exact hstarts
  · obtain ⟨rest, rfl⟩ := hstarts
    obtain ⟨others, rfl⟩ := List.head?_eq_some_iff.mp htext
    have hrest : rest <+: 0x5B :: others := (List.prefix_append_right_inj marks).mp h
    cases rest with
    | nil => rw [List.append_nil]
    | cons c rest =>
        obtain ⟨rfl, -⟩ := List.cons_prefix_cons.mp hrest
        have hmark := isMark_of_mem hwrapper 0x5B (List.mem_append_right _ List.mem_cons_self)
        exact absurd hmark (by decide)

theorem trimmed_marks (hmarks : ∀ c ∈ marks, isMark c = true) (hcore : Bare core) :
    Trimmed (marks ++ core ++ marks.reverse) := by
  cases marks with
  | nil =>
      rw [List.nil_append, List.reverse_nil, List.append_nil]
      exact hcore.trimmed
  | cons c marks =>
      have hc := not_isSpace_of_isMark (hmarks c List.mem_cons_self)
      constructor
      · rintro d ⟨rfl⟩
        exact hc
      · rw [List.reverse_cons, ← List.append_assoc, List.getLast?_concat]
        rintro d ⟨rfl⟩
        exact hc

theorem dropWrappersLoop_marks (hmarks : ∀ c ∈ marks, isMark c = true) (hcore : Bare core)
    (hfuel : marks.length ≤ fuel) :
    dropWrappersLoop fuel (marks ++ core ++ marks.reverse) = core := by
  induction fuel generalizing marks with
  | zero =>
      rw [List.eq_nil_of_length_eq_zero (Nat.le_zero.mp hfuel), List.nil_append, List.reverse_nil,
        List.append_nil]
      rfl
  | succ fuel ih =>
      have hhead : (core ++ marks.reverse).head? = some 0x5B := by
        rw [List.head?_append_of_ne_nil _ hcore.ne_nil, hcore.head]
      rw [dropWrappersLoop]
      cases hfind : wrappers.find? fun wrapper => isWrapped (marks ++ core ++ marks.reverse) wrapper with
      | none =>
          cases marks with
          | nil => rw [List.nil_append, List.reverse_nil, List.append_nil]
          | cons c marks =>
              -- The mark itself is a wrapper.
              have hnot := List.find?_eq_none.mp hfind [c]
                (singleton_mem_wrappers (hmarks c List.mem_cons_self))
              refine absurd ?_ hnot
              have hstarts : [c] <+: c :: marks ++ core ++ (c :: marks).reverse := ⟨_, rfl⟩
              have hends : [c] <:+ c :: marks ++ core ++ (c :: marks).reverse := by
                rw [List.reverse_cons, ← List.append_assoc]
                exact List.suffix_append _ _
              have hlength : [c].length * 2 < (c :: marks ++ core ++ (c :: marks).reverse).length := by
                have hpos := List.length_pos_of_ne_nil hcore.ne_nil
                simp only [List.length_append, List.length_reverse, List.length_cons,
                  List.length_nil]
                omega
              rw [isWrapped, decide_eq_true hstarts, decide_eq_true hends, decide_eq_true hlength]
              rfl
      | some wrapper =>
          obtain ⟨hwrapper, hwrapped⟩ := find?_isWrapped hfind
          obtain ⟨inner, hsplit, hunwrap⟩ := exists_of_isWrapped hwrapped
          obtain ⟨marks, rfl⟩ : wrapper <+: marks := by
            apply prefix_marks hwrapper hhead
            rw [← List.append_assoc, hsplit, List.append_assoc]
            exact List.prefix_append _ _
          have hinner : inner = marks ++ core ++ marks.reverse := by
            rw [List.reverse_append, reverse_wrapper hwrapper] at hsplit
            have hsame : wrapper ++ inner ++ wrapper =
                wrapper ++ (marks ++ core ++ marks.reverse) ++ wrapper := by
              rw [← hsplit]
              simp only [List.append_assoc]
            exact List.append_cancel_left (List.append_cancel_right hsame)
          have hrest : ∀ c ∈ marks, isMark c = true := fun c hc => hmarks c (List.mem_append_right _ hc)
          have htrimmed := strip_eq_self_iff_trimmed.mpr (trimmed_marks hrest hcore)
          simp only [hunwrap, hinner, htrimmed]
          apply ih hrest
          have hpos := List.length_pos_of_ne_nil (ne_nil_of_mem hwrapper)
          rw [List.length_append] at hfuel
          omega

def leadOf (layers : List Layer) : PyString :=
  layers.flatMap Layer.lead

def trailOf : List Layer → PyString
  | [] => []
  | layer :: layers => trailOf layers ++ layer.trail

theorem leadOf_cons : leadOf (layer :: layers) = layer.lead ++ leadOf layers :=
  List.flatMap_cons

theorem decorate_eq (layers : List Layer) (text : PyString) :
    decorate layers text = leadOf layers ++ text ++ trailOf layers := by
  induction layers with
  | nil => exact (List.append_nil text).symm
  | cons layer layers ih =>
      rw [decorate, List.foldr_cons, ← decorate, ih, Layer.put, leadOf_cons, trailOf]
      simp only [List.append_assoc]

theorem trailOf_of_wrappers (h : ∀ layer ∈ layers, layer.WellFormed)
    (hwrappers : ∀ layer ∈ layers, layer.isWrapper = true) :
    trailOf layers = (leadOf layers).reverse ∧ ∀ c ∈ leadOf layers, isMark c = true := by
  induction layers with
  | nil => exact ⟨rfl, nofun⟩
  | cons layer layers ih =>
      obtain ⟨hlayer, hlayers⟩ := List.forall_mem_cons.mp h
      obtain ⟨hwrapper, hothers⟩ := List.forall_mem_cons.mp hwrappers
      obtain ⟨htrail, hmarks⟩ := ih hlayers hothers
      cases layer with
      | wrapped wrapper =>
          constructor
          · rw [trailOf, htrail, leadOf_cons, List.reverse_append, Layer.lead,
              reverse_wrapper hlayer]
            rfl
          · intro c hc
            rw [leadOf_cons, List.mem_append] at hc
            rcases hc with hc | hc
            · exact isMark_of_mem hlayer c hc
            · exact hmarks c hc
      | quote blanks => cases hwrapper
      | bullet mark blanks => cases hwrapper
      | numbered digits close blanks => cases hwrapper

theorem decor_of_blanks {blanks : PyString} (hblanks : ∀ c ∈ blanks, isSpace c = true) :
    (∀ c ∈ blanks, isDecor c = true) ∧ blanks.countP isMark = 0 := by
  constructor
  · intro c hc
    rw [isDecor, hblanks c hc, Bool.or_true]
  · apply List.countP_eq_zero.mpr
    intro c hc hmark
    have hspace := not_isSpace_of_isMark hmark
    rw [hblanks c hc] at hspace
    cases hspace

theorem exists_of_dropWrappersLoop (fuel : ℕ) (candidate : PyString) : ∃ before after,
    candidate = before ++ dropWrappersLoop fuel candidate ++ after ∧
      (∀ c ∈ before, isDecor c = true) ∧ (∀ c ∈ after, isDecor c = true) ∧
        before.countP isMark = after.countP isMark := by
  induction fuel generalizing candidate with
  | zero => exact ⟨[], [], (List.append_nil candidate).symm, nofun, nofun, rfl⟩
  | succ fuel ih =>
      rw [dropWrappersLoop]
      cases hfind : wrappers.find? fun wrapper => isWrapped candidate wrapper with
      | none => exact ⟨[], [], (List.append_nil candidate).symm, nofun, nofun, rfl⟩
      | some wrapper =>
          obtain ⟨hwrapper, hwrapped⟩ := find?_isWrapped hfind
          obtain ⟨inner, hsplit, hunwrap⟩ := exists_of_isWrapped hwrapped
          obtain ⟨blanks, blanks', hinner, hblanks, hblanks'⟩ := exists_of_strip inner
          obtain ⟨before, after, hrest, hbefore, hafter, hcount⟩ := ih (unwrap candidate wrapper)
          have hmarks : ∀ c ∈ wrapper, isDecor c = true := fun c hc => by
            rw [isDecor, isMark_of_mem hwrapper c hc]
            rfl
          obtain ⟨hdecor, hnone⟩ := decor_of_blanks hblanks
          obtain ⟨hdecor', hnone'⟩ := decor_of_blanks hblanks'
          refine ⟨wrapper ++ (blanks ++ before), after ++ (blanks' ++ wrapper), ?_, ?_, ?_, ?_⟩
          · simp only [hunwrap] at hrest ⊢
            calc
              candidate = wrapper ++ (blanks ++ strip inner ++ blanks') ++ wrapper := by
                rw [← hinner, hsplit]
              _ = wrapper ++ (blanks ++ (before ++ dropWrappersLoop fuel (strip inner) ++ after) ++
                    blanks') ++ wrapper := by rw [← hrest]
              _ = wrapper ++ (blanks ++ before) ++ dropWrappersLoop fuel (strip inner) ++
                    (after ++ (blanks' ++ wrapper)) := by simp only [List.append_assoc]
          · exact List.forall_mem_append.mpr ⟨hmarks, List.forall_mem_append.mpr ⟨hdecor, hbefore⟩⟩
          · exact List.forall_mem_append.mpr ⟨hafter, List.forall_mem_append.mpr ⟨hdecor', hmarks⟩⟩
          · simp only [List.countP_append, hnone, hnone', hcount]
            omega

/-! ## The normalised line -/

theorem suffix_dropQuotesLoop (fuel : ℕ) (candidate : PyString) :
    dropQuotesLoop fuel candidate <:+ candidate := by
  induction fuel generalizing candidate with
  | zero => exact List.suffix_rfl
  | succ fuel ih =>
      rw [dropQuotesLoop]
      by_cases hquote : py ">" <+: candidate
      · rw [if_pos hquote]
        exact (ih _).trans ((List.dropWhile_suffix _).trans (List.drop_suffix 1 candidate))
      · rw [if_neg hquote]

theorem suffix_dropListMarker (candidate : PyString) : dropListMarker candidate <:+ candidate := by
  rw [dropListMarker]
  cases hhead : (listMarker candidate).head? with
  | none => exact List.suffix_rfl
  | some way => exact suffix_of_mem_listMarker (List.mem_of_mem_head? hhead)

theorem infix_normalizeFindingLine (line : PyString) : normalizeFindingLine line <:+: line := by
  obtain ⟨before, after, hsplit, -⟩ := exists_of_dropWrappersLoop
    (dropListMarker (dropQuotes (strip line))).length (dropListMarker (dropQuotes (strip line)))
  have hwrappers : normalizeFindingLine line <:+: dropListMarker (dropQuotes (strip line)) :=
    ⟨before, after, hsplit.symm⟩
  calc
    normalizeFindingLine line <:+: dropListMarker (dropQuotes (strip line)) := hwrappers
    _ <:+: dropQuotes (strip line) := (suffix_dropListMarker _).isInfix
    _ <:+: strip line := (suffix_dropQuotesLoop _ _).isInfix
    _ <:+: line := Strip.strip_infix

theorem noBoundary_put (h : layer.WellFormed) (htext : ∀ c ∈ text, isLineBoundary c = false) :
    ∀ c ∈ layer.put text, isLineBoundary c = false := by
  rw [Layer.put]
  cases layer with
  | quote blanks =>
      have hlead : ∀ c ∈ 0x3E :: blanks, isLineBoundary c = false :=
        List.forall_mem_cons.mpr ⟨by decide, fun c hc => (h c hc).2⟩
      exact List.forall_mem_append.mpr ⟨List.forall_mem_append.mpr ⟨hlead, htext⟩, nofun⟩
  | bullet mark blanks =>
      have hall : ∀ mark ∈ py "-+*", isLineBoundary mark = false := by decide
      have hlead : ∀ c ∈ mark :: blanks, isLineBoundary c = false :=
        List.forall_mem_cons.mpr ⟨hall mark (of_decide_eq_true h.1), fun c hc => (h.2.2 c hc).2⟩
      exact List.forall_mem_append.mpr ⟨List.forall_mem_append.mpr ⟨hlead, htext⟩, nofun⟩
  | numbered digits close blanks =>
      have hall : ∀ close ∈ py ".)", isLineBoundary close = false := by decide
      have hdigits : ∀ c ∈ digits, isLineBoundary c = false :=
        fun c hc => not_isLineBoundary (not_isSpace_of_isDigit (h.1.2 c hc))
      have hrest : ∀ c ∈ close :: blanks, isLineBoundary c = false :=
        List.forall_mem_cons.mpr
          ⟨hall close (of_decide_eq_true h.2.1), fun c hc => (h.2.2.2 c hc).2⟩
      exact List.forall_mem_append.mpr
        ⟨List.forall_mem_append.mpr ⟨List.forall_mem_append.mpr ⟨hdigits, hrest⟩, htext⟩, nofun⟩
  | wrapped wrapper =>
      have hwrapper : ∀ c ∈ wrapper, isLineBoundary c = false :=
        fun c hc => not_isLineBoundary (not_isSpace_of_isMark (isMark_of_mem h c hc))
      exact List.forall_mem_append.mpr ⟨List.forall_mem_append.mpr ⟨hwrapper, htext⟩, hwrapper⟩

section

variable (h : ∀ layer ∈ layers, layer.WellFormed)

include h

theorem noBoundary_decorate (hcore : ∀ c ∈ core, isLineBoundary c = false) :
    ∀ c ∈ decorate layers core, isLineBoundary c = false := by
  induction layers with
  | nil => exact hcore
  | cons layer layers ih =>
      obtain ⟨hlayer, hlayers⟩ := List.forall_mem_cons.mp h
      exact noBoundary_put hlayer (ih hlayers)

theorem normalizeFindingLine_decorate (hcore : Bare core) :
    normalizeFindingLine (decorate layers core) =
      dropWrappers (decorate (innerLayers layers) core) := by
  have hrest : ∀ layer ∈ layers.dropWhile Layer.isQuote, layer.WellFormed :=
    fun layer hmem => h layer ((List.dropWhile_suffix Layer.isQuote).subset hmem)
  have hquote : ∀ layer ∈ (layers.dropWhile Layer.isQuote).head?, layer.isQuote = false := by
    intro layer hmem
    have hnot := List.head?_dropWhile_not Layer.isQuote layers
    rw [Option.mem_def.mp hmem] at hnot
    exact hnot
  rw [normalizeFindingLine, strip_eq_self_iff_trimmed.mpr (trimmed_decorate h hcore),
    dropQuotes_decorate h hcore, dropListMarker_decorate hrest hcore hquote]
  rfl

theorem normalizeFindingLine_of_inOrder (hcore : Bare core) (horder : InOrder layers) :
    normalizeFindingLine (decorate layers core) = core := by
  have hinner : ∀ layer ∈ innerLayers layers, layer.WellFormed :=
    fun layer hmem => h layer (mem_of_mem_innerLayers hmem)
  obtain ⟨htrail, hmarks⟩ := trailOf_of_wrappers hinner horder
  rw [normalizeFindingLine_decorate h hcore, dropWrappers, decorate_eq, htrail]
  apply dropWrappersLoop_marks hmarks hcore
  rw [List.length_append, List.length_append]
  omega

end

/-- A layer has as many marks before the text as behind it, and more when it is no wrapper and
still consists of marks. -/
theorem countP_trail_le (h : layer.WellFormed) (hdecor : ∀ c ∈ layer.lead, isDecor c = true) :
    layer.trail.countP isMark ≤ layer.lead.countP isMark ∧
      (layer.isWrapper = false → layer.trail.countP isMark < layer.lead.countP isMark) := by
  cases layer with
  | wrapped wrapper => exact ⟨le_rfl, nofun⟩
  | quote blanks => exact absurd (hdecor 0x3E List.mem_cons_self) (by decide)
  | bullet mark blanks =>
      have hall : ∀ mark ∈ py "-+*", isDecor mark = true → isMark mark = true := by decide
      have hmark := hall mark (of_decide_eq_true h.1) (hdecor mark List.mem_cons_self)
      have hpos : 0 < (mark :: blanks).countP isMark :=
        List.countP_pos_iff.mpr ⟨mark, List.mem_cons_self, hmark⟩
      exact ⟨hpos.le, fun _ => hpos⟩
  | numbered digits close blanks =>
      have hall : ∀ close ∈ py ".)", ¬ isDecor close = true := by decide
      exact absurd (hdecor close (List.mem_append_right _ List.mem_cons_self))
        (hall close (of_decide_eq_true h.2.1))

section

variable (h : ∀ layer ∈ layers, layer.WellFormed)

include h

theorem countP_trailOf_lt (hdecor : ∀ c ∈ leadOf layers, isDecor c = true) :
    (trailOf layers).countP isMark ≤ (leadOf layers).countP isMark ∧
      ((∃ layer ∈ layers, layer.isWrapper = false) →
        (trailOf layers).countP isMark < (leadOf layers).countP isMark) := by
  induction layers with
  | nil => exact ⟨le_rfl, nofun⟩
  | cons layer layers ih =>
      obtain ⟨hlayer, hlayers⟩ := List.forall_mem_cons.mp h
      rw [leadOf_cons, List.forall_mem_append] at hdecor
      obtain ⟨hle, hlt⟩ := countP_trail_le hlayer hdecor.1
      obtain ⟨hle', hlt'⟩ := ih hlayers hdecor.2
      rw [trailOf, leadOf_cons, List.countP_append, List.countP_append]
      constructor
      · omega
      · rintro ⟨other, hother, hwrapper⟩
        rcases List.mem_cons.mp hother with rfl | hother
        · have hless := hlt hwrapper
          omega
        · have hless := hlt' ⟨other, hother, hwrapper⟩
          omega

theorem bracket_not_mem_leadOf : 0x5B ∉ leadOf layers := by
  intro hmem
  obtain ⟨layer, hlayer, hlead⟩ := List.mem_flatMap.mp hmem
  have hwell := h layer hlayer
  cases layer with
  | quote blanks =>
      rcases List.mem_cons.mp hlead with hsame | hblank
      · exact absurd hsame (by decide)
      · exact absurd (hwell 0x5B hblank).1 (by decide)
  | bullet mark blanks =>
      rcases List.mem_cons.mp hlead with rfl | hblank
      · exact absurd hwell.1 (by decide)
      · exact absurd (hwell.2.2 0x5B hblank).1 (by decide)
  | numbered digits close blanks =>
      rcases List.mem_append.mp hlead with hdigit | hrest
      · exact absurd (hwell.1.2 0x5B hdigit) (by decide)
      · rcases List.mem_cons.mp hrest with rfl | hblank
        · exact absurd hwell.2.1 (by decide)
        · exact absurd (hwell.2.2.2 0x5B hblank).1 (by decide)
  | wrapped wrapper => exact absurd (isMark_of_mem hwell 0x5B hlead) (by decide)

/-- Layers out of order leave something before the text, or take a part of the text's end. -/
theorem cut_of_not_inOrder (hcore : Bare core) (horder : ¬ InOrder layers)
    (hhead : (normalizeFindingLine (decorate layers core)).head? = some 0x5B) :
    ∃ lost, core = normalizeFindingLine (decorate layers core) ++ lost ∧
      (∀ c ∈ lost, isDecor c = true) ∧ ∃ c ∈ lost, isMark c = true := by
  have hinner : ∀ layer ∈ innerLayers layers, layer.WellFormed :=
    fun layer hmem => h layer (mem_of_mem_innerLayers hmem)
  have hother : ∃ layer ∈ innerLayers layers, layer.isWrapper = false := by
    rw [InOrder] at horder
    push Not at horder
    simpa using horder
  rw [normalizeFindingLine_decorate h hcore] at hhead ⊢
  obtain ⟨before, after, hsplit, hbefore, hafter, hcount⟩ :=
    exists_of_dropWrappersLoop (decorate (innerLayers layers) core).length
      (decorate (innerLayers layers) core)
  rw [← dropWrappers] at hsplit
  obtain ⟨rest, hrest⟩ := List.head?_eq_some_iff.mp hhead
  obtain ⟨others, hothers⟩ := List.head?_eq_some_iff.mp hcore.head
  -- The bracket shows that all that lies before the text is taken off.
  obtain ⟨rfl, hends⟩ : before = leadOf (innerLayers layers) ∧
      rest ++ after = others ++ trailOf (innerLayers layers) := by
    rw [hrest] at hsplit
    rw [decorate_eq, hothers] at hsplit
    refine append_separator_inj_left (x := 0x5B) ?_ (bracket_not_mem_leadOf hinner) ?_
    · exact fun hmem => absurd (hbefore 0x5B hmem) (by decide)
    · simpa only [List.append_assoc, List.cons_append] using hsplit.symm
  have hless := (countP_trailOf_lt hinner hbefore).2 hother
  have hafterEnds : after <:+ rest ++ after := List.suffix_append _ _
  have htrailEnds : trailOf (innerLayers layers) <:+ rest ++ after := by
    rw [hends]
    exact List.suffix_append _ _
  rcases List.suffix_or_suffix_of_suffix hafterEnds htrailEnds with hshort | ⟨lost, rfl⟩
  · have hle := hshort.sublist.countP_le (p := isMark)
    omega
  · refine ⟨lost, ?_, fun c hc => hafter c (List.mem_append_left _ hc), ?_⟩
    · rw [← List.append_assoc] at hends
      rw [hrest, hothers, List.cons_append, List.append_cancel_right hends]
    · rw [List.countP_append] at hcount
      exact List.countP_pos_iff.mp (by omega)

end

end Layers

end DevHarness.CandidateCommit
