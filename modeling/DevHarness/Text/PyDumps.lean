import DevHarness.Text.Decimals
import DevHarness.Text.PyValue

/-!
# JSON in Python

`json.dumps` with sorted keys and without escapes for what lies outside ASCII: one line.
-/

namespace PyText

open JsText

/-- `ESCAPE_DCT`: the second code point of each escape. -/
def jsonEscapes : List (CodePoint × CodePoint) :=
  [(0x22, 0x22), (0x5C, 0x5C), (0x08, 0x62), (0x09, 0x74), (0x0A, 0x6E), (0x0C, 0x66), (0x0D, 0x72)]

def jsonEscaped (c : CodePoint) : PyString :=
  match jsonEscapes.find? fun entry => entry.1 = c with
  | some entry => [0x5C, entry.2]
  | none => if c < 0x20 then py "\\u00" ++ hexPair c else [c]

def jsonQuoted (s : PyString) : PyString :=
  0x22 :: s.flatMap jsonEscaped ++ [0x22]

/-- `floatstr`.  What `repr` prints of a finite number consists of digits, signs, a point and an
exponent. -/
def jsonFloat : FloatValue → PyString → Option PyString
  | .nan, _ => some (py "NaN")
  | .infinity, _ => some (py "Infinity")
  | .negInfinity, _ => some (py "-Infinity")
  | .finite _, text => if text.all (· ∈ py "0123456789.e+-") then some text else none

/-- The text of a key; a key of another type is a `TypeError`. -/
def jsonKey : Value → Option PyString
  | .none => some (py "null")
  | .bool b => some (py (toString b))
  | .int n => some (py (toString n))
  | .float value text => jsonFloat value text
  | .str s => some s
  | _ => none

/-- `sorted(dct.items())`: keys that do not compare are a `TypeError`. -/
def sortEntries (entries : List (Value × PyString)) : Option (List (Value × PyString)) :=
  if entries.Pairwise fun a b => a.1.comparable b.1 = true then
    some (entries.insertionSort fun a b => b.1.less a.1 = false)
  else none

def jsonEntry (entry : Value × PyString) : Option PyString :=
  (jsonKey entry.1).map fun key => jsonQuoted key ++ py ": " ++ entry.2

def bracketed (opening closing : CodePoint) (texts : List PyString) : PyString :=
  opening :: (py ", ").intercalate texts ++ [closing]

mutual

/-- `json.dumps(value, ensure_ascii=False, sort_keys=True)`; `none` is the error of a value that
has no JSON text. -/
def dumps : Value → Option PyString
  | .none => some (py "null")
  | .bool b => some (py (toString b))
  | .int n => some (py (toString n))
  | .float value text => jsonFloat value text
  | .str s => some (jsonQuoted s)
  | .list items => (dumpItems items).map (bracketed 0x5B 0x5D)
  | .dict entries =>
    (((dumpEntries entries).bind sortEntries).bind (List.mapM jsonEntry)).map
      (bracketed 0x7B 0x7D)
  | _ => none

def dumpItems : List Value → Option (List PyString)
  | [] => some []
  | item :: items => (dumps item).bind fun text => (dumpItems items).map (text :: ·)

def dumpEntries : List (Value × Value) → Option (List (Value × PyString))
  | [] => some []
  | (key, value) :: entries =>
    (dumps value).bind fun text => (dumpEntries entries).map ((key, text) :: ·)

end

example : dumps (.dict [(.str (py "b"), .int 12), (.str (py "a"), .list [.str (py "\n")])]) =
    some (py "\x7b\"a\": [\"\\n\"], \"b\": 12\x7d") := by
  decide +kernel

/-! ## No control characters -/

/-- A text on one line: its code points are no control characters. -/
def Printable (s : PyString) : Prop := ∀ c ∈ s, 0x20 ≤ c

instance decidablePrintable (s : PyString) : Decidable (Printable s) :=
  inferInstanceAs (Decidable (∀ c ∈ s, 0x20 ≤ c))

section Printable

variable {s t : PyString} {texts : List PyString} {c : CodePoint}

theorem Printable.append (hs : Printable s) (ht : Printable t) : Printable (s ++ t) := by
  intro c hc
  exact (List.mem_append.mp hc).elim (hs c) (ht c)

theorem Printable.cons (hc : 0x20 ≤ c) (hs : Printable s) : Printable (c :: s) :=
  List.forall_mem_cons.mpr ⟨hc, hs⟩

theorem printable_jsonEscaped (c : CodePoint) : Printable (jsonEscaped c) := by
  unfold jsonEscaped
  split
  · next entry hentry =>
    have hsecond : ∀ entry ∈ jsonEscapes, 0x20 ≤ entry.2 := by decide
    refine Printable.cons (by decide) (Printable.cons ?_ fun _ h => absurd h List.not_mem_nil)
    exact hsecond entry (List.mem_of_find?_eq_some hentry)
  · split
    · refine Printable.append (by decide) fun d hd => ?_
      obtain ⟨n, -, rfl⟩ := List.mem_map.mp hd
      split <;> exact Nat.le_add_right_of_le (by decide)
    · next h => exact List.forall_mem_singleton.mpr (Nat.not_lt.mp h)

theorem printable_jsonQuoted (s : PyString) : Printable (jsonQuoted s) := by
  refine Printable.cons (by decide) (Printable.append ?_ (by decide))
  intro c hc
  obtain ⟨d, -, hd⟩ := List.mem_flatMap.mp hc
  exact printable_jsonEscaped d c hd

theorem printable_int (n : ℤ) : Printable (py (toString n)) := by
  have hdigits : ∀ m : ℕ, Printable (py (toString m)) := by
    intro m c hc
    obtain ⟨d, hd, rfl⟩ := List.mem_map.mp hc
    rw [toList_toString] at hd
    exact Nat.le_trans (by decide) (toNat_of_mem_toDigits hd).1
  cases n with
  | ofNat m => exact hdigits m
  | negSucc m =>
      have htext : py (toString (Int.negSucc m)) = 0x2D :: py (toString (m + 1)) := by
        change ("-" ++ toString (m + 1)).toList.map Char.toNat = _
        rw [String.toList_append]
        rfl
      rw [htext]
      exact Printable.cons (by decide) (hdigits _)

theorem printable_bool (b : Bool) : Printable (py (toString b)) := by
  cases b <;> decide

theorem printable_jsonFloat {value : FloatValue} (h : jsonFloat value s = some t) :
    Printable t := by
  cases value with
  | nan => exact Option.some.inj h ▸ (by decide)
  | infinity => exact Option.some.inj h ▸ (by decide)
  | negInfinity => exact Option.some.inj h ▸ (by decide)
  | finite q =>
      simp only [jsonFloat] at h
      split at h
      · next hall =>
        obtain rfl := Option.some.inj h
        intro c hc
        have hnumber : Printable (py "0123456789.e+-") := by decide
        exact hnumber c (of_decide_eq_true (List.all_eq_true.mp hall c hc))
      · cases h

theorem printable_bracketed {opening closing : CodePoint} (hopening : 0x20 ≤ opening)
    (hclosing : 0x20 ≤ closing) (h : ∀ text ∈ texts, Printable text) :
    Printable (bracketed opening closing texts) := by
  have htexts : Printable ((py ", ").intercalate texts) := by
    induction texts with
    | nil => exact fun _ hc => absurd hc List.not_mem_nil
    | cons text rest ih =>
        have htext := h text List.mem_cons_self
        have hrest := ih fun t ht => h t (List.mem_cons_of_mem _ ht)
        cases rest with
        | nil => simpa using htext
        | cons next rest =>
            rw [List.intercalate_cons_cons]
            exact (htext.append (by decide)).append hrest
  exact (Printable.cons hopening htexts).append (List.forall_mem_singleton.mpr hclosing)

theorem printable_jsonEntry {entry : Value × PyString} (hentry : Printable entry.2)
    (h : jsonEntry entry = some t) : Printable t := by
  obtain ⟨key, -, rfl⟩ := Option.map_eq_some_iff.mp h
  exact ((printable_jsonQuoted key).append (by decide)).append hentry

theorem mem_of_mapM {α β : Type} {f : α → Option β} {as : List α} {bs : List β}
    (h : as.mapM f = some bs) : ∀ b ∈ bs, ∃ a ∈ as, f a = some b := by
  induction as generalizing bs with
  | nil =>
      obtain rfl := Option.some.inj h
      exact fun _ hb => absurd hb List.not_mem_nil
  | cons a as ih =>
      rw [List.mapM_cons] at h
      obtain ⟨b, hb, h⟩ := Option.bind_eq_some_iff.mp h
      obtain ⟨rest, hrest, h⟩ := Option.bind_eq_some_iff.mp h
      obtain rfl := Option.some.inj h
      intro b' hb'
      rcases List.mem_cons.mp hb' with rfl | hmem
      · exact ⟨a, List.mem_cons_self, hb⟩
      · obtain ⟨a', ha', hf⟩ := ih hrest b' hmem
        exact ⟨a', List.mem_cons_of_mem _ ha', hf⟩

mutual

/-- What is printed has no control characters, line ends among them. -/
theorem printable_dumps : ∀ {value : Value} {text : PyString}, dumps value = some text →
    Printable text
  | .none, _, h => Option.some.inj h ▸ (by decide)
  | .bool b, _, h => Option.some.inj h ▸ printable_bool b
  | .int n, _, h => Option.some.inj h ▸ printable_int n
  | .float _ _, _, h => printable_jsonFloat h
  | .str s, _, h => Option.some.inj h ▸ printable_jsonQuoted s
  | .list items, _, h => by
      obtain ⟨texts, htexts, rfl⟩ := Option.map_eq_some_iff.mp h
      exact printable_bracketed (by decide) (by decide) (printable_dumpItems htexts)
  | .dict entries, _, h => by
      obtain ⟨texts, htexts, rfl⟩ := Option.map_eq_some_iff.mp h
      obtain ⟨sorted, hsorted, htexts⟩ := Option.bind_eq_some_iff.mp htexts
      obtain ⟨printed, hprinted, hsorted⟩ := Option.bind_eq_some_iff.mp hsorted
      have hentries := printable_dumpEntries hprinted
      refine printable_bracketed (by decide) (by decide) fun text htext => ?_
      obtain ⟨entry, hentry, hprint⟩ := mem_of_mapM htexts text htext
      refine printable_jsonEntry (hentries entry ?_) hprint
      simp only [sortEntries] at hsorted
      split at hsorted
      · obtain rfl := Option.some.inj hsorted
        exact (List.perm_insertionSort _ printed).mem_iff.mp hentry
      · cases hsorted

theorem printable_dumpItems : ∀ {items : List Value} {texts : List PyString},
    dumpItems items = some texts → ∀ text ∈ texts, Printable text
  | [], _, h => by
      obtain rfl := Option.some.inj h
      exact fun _ htext => absurd htext List.not_mem_nil
  | item :: items, _, h => by
      obtain ⟨text, hitem, h⟩ := Option.bind_eq_some_iff.mp h
      obtain ⟨rest, hrest, rfl⟩ := Option.map_eq_some_iff.mp h
      exact List.forall_mem_cons.mpr ⟨printable_dumps hitem, printable_dumpItems hrest⟩

theorem printable_dumpEntries : ∀ {entries : List (Value × Value)}
    {printed : List (Value × PyString)}, dumpEntries entries = some printed →
    ∀ entry ∈ printed, Printable entry.2
  | [], _, h => by
      obtain rfl := Option.some.inj h
      exact fun _ hentry => absurd hentry List.not_mem_nil
  | (key, value) :: entries, _, h => by
      obtain ⟨text, hvalue, h⟩ := Option.bind_eq_some_iff.mp h
      obtain ⟨rest, hrest, rfl⟩ := Option.map_eq_some_iff.mp h
      exact List.forall_mem_cons.mpr ⟨printable_dumps hvalue, printable_dumpEntries hrest⟩

end

end Printable

end PyText
