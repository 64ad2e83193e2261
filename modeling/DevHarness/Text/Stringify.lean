import DevHarness.Text.CodePoints
import DevHarness.Text.Json

/-!
# Printing JSON

`JSON.stringify`, and the canonical form that sorts the keys of every object.  The text of
a value without numbers determines the value, and the canonical text determines it up to
the order of keys.
-/

namespace JsText

def hexDigit (n : ℕ) : UInt16 :=
  if n < 10 then (0x30 + n).toUInt16 else (0x57 + n).toUInt16

def hex4 (u : UInt16) : JsString :=
  [u.toNat / 4096, u.toNat / 256 % 16, u.toNat / 16 % 16, u.toNat % 16].map hexDigit

def shortEscapes : List (UInt16 × UInt16) :=
  [(0x22, 0x22), (0x5C, 0x5C), (0x08, 0x62), (0x09, 0x74), (0x0A, 0x6E), (0x0C, 0x66),
    (0x0D, 0x72)]

def escapeUnit (u : UInt16) : JsString :=
  match shortEscapes.find? fun entry => entry.1 = u with
  | some entry => [0x5C, entry.2]
  | none =>
    if u < 0x20 ∨ isHighSurrogate u ∨ isLowSurrogate u then 0x5C :: 0x75 :: hex4 u else [u]

/-- The units of a quoted text; a surrogate is escaped unless it belongs to a pair. -/
def escape : JsString → JsString
  | [] => []
  | [u] => escapeUnit u
  | u :: v :: rest =>
    if isHighSurrogate u && isLowSurrogate v then u :: v :: escape rest
    else escapeUnit u ++ escape (v :: rest)

/-- `JSON.stringify` of a text. -/
def quote (s : JsString) : JsString :=
  0x22 :: escape s ++ [0x22]

/-! ## Values -/

/-- `JSON.stringify` of a number: one that is not finite is printed as `null`. -/
def JsNumber.stringify (n : JsNumber) : JsString :=
  if n.toText ∈ ["Infinity", "-Infinity"].map js then js "null" else n.toText

mutual

/-- `JSON.stringify(value)`. -/
def stringify : Json → JsString
  | .null => js "null"
  | .bool b => js (toString b)
  | .number n => n.stringify
  | .string s => quote s
  | .array items => 0x5B :: join (js ",") (stringifyItems items) ++ [0x5D]
  | .object properties => 0x7B :: join (js ",") (stringifyEntries properties) ++ [0x7D]

def stringifyItems : List Json → List JsString
  | [] => []
  | item :: items => stringify item :: stringifyItems items

def stringifyEntries : List (JsString × Json) → List JsString
  | [] => []
  | (name, value) :: properties =>
    (quote name ++ 0x3A :: stringify value) :: stringifyEntries properties

end

def sortByKey {α : Type} (before : JsString → JsString → Bool) (entries : List (JsString × α)) :
    List (JsString × α) :=
  entries.insertionSort fun a b => before a.1 b.1

mutual

/-- `canonicalJson`, where `before` says whether `localeCompare` is at most 0. -/
def canonicalJson (before : JsString → JsString → Bool) : Json → JsString
  | .array items => 0x5B :: join (js ",") (canonicalItems before items) ++ [0x5D]
  | .object properties =>
    0x7B :: join (js ",") ((sortByKey before (canonicalEntries before properties)).map
      fun entry => quote entry.1 ++ 0x3A :: entry.2) ++ [0x7D]
  | value => stringify value

def canonicalItems (before : JsString → JsString → Bool) : List Json → List JsString
  | [] => []
  | item :: items => canonicalJson before item :: canonicalItems before items

def canonicalEntries (before : JsString → JsString → Bool) :
    List (JsString × Json) → List (JsString × JsString)
  | [] => []
  | (name, value) :: properties =>
    (name, canonicalJson before value) :: canonicalEntries before properties

def sortKeys (before : JsString → JsString → Bool) : Json → Json
  | .array items => .array (sortKeysItems before items)
  | .object properties => .object (sortByKey before (sortKeysEntries before properties))
  | value => value

def sortKeysItems (before : JsString → JsString → Bool) : List Json → List Json
  | [] => []
  | item :: items => sortKeys before item :: sortKeysItems before items

def sortKeysEntries (before : JsString → JsString → Bool) :
    List (JsString × Json) → List (JsString × Json)
  | [] => []
  | (name, value) :: properties =>
    (name, sortKeys before value) :: sortKeysEntries before properties

def numberless : Json → Bool
  | .number _ => false
  | .array items => numberlessItems items
  | .object properties => numberlessEntries properties
  | _ => true

def numberlessItems : List Json → Bool
  | [] => true
  | item :: items => numberless item && numberlessItems items

def numberlessEntries : List (JsString × Json) → Bool
  | [] => true
  | (_, value) :: properties => numberless value && numberlessEntries properties

end

/-! ## Reading a quoted text back -/

def hexValue (u : UInt16) : ℕ :=
  if u.toNat < 0x40 then u.toNat - 0x30 else u.toNat - 0x57

def unescape : JsString → Option (JsString × JsString)
  | [] => none
  | u :: rest =>
    if u = 0x22 then some ([], rest)
    else if u = 0x5C then
      match rest with
      | [] => none
      | c :: rest =>
        if c = 0x75 then
          match rest with
          | a :: b :: c :: d :: rest =>
            (unescape rest).map fun (s, rest) =>
              ((hexValue a * 4096 + hexValue b * 256 + hexValue c * 16 + hexValue d).toUInt16 :: s,
                rest)
          | _ => none
        else
          match shortEscapes.find? fun entry => entry.2 = c with
          | some entry => (unescape rest).map fun (s, rest) => (entry.1 :: s, rest)
          | none => none
    else (unescape rest).map fun (s, rest) => (u :: s, rest)

theorem hexValue_hexDigit : ∀ n < 16, hexValue (hexDigit n) = n := by
  decide

theorem hexValue_hex4 (u : UInt16) :
    (hexValue (hexDigit (u.toNat / 4096)) * 4096 +
      hexValue (hexDigit (u.toNat / 256 % 16)) * 256 +
      hexValue (hexDigit (u.toNat / 16 % 16)) * 16 +
      hexValue (hexDigit (u.toNat % 16))).toUInt16 = u := by
  have hbound : u.toNat < 65536 := u.toNat_lt
  rw [hexValue_hexDigit _ (by omega), hexValue_hexDigit _ (by omega),
    hexValue_hexDigit _ (by omega), hexValue_hexDigit _ (by omega)]
  have hsum : u.toNat / 4096 * 4096 + u.toNat / 256 % 16 * 256 + u.toNat / 16 % 16 * 16 +
      u.toNat % 16 = u.toNat := by
    omega
  rw [hsum]
  exact UInt16.ofNat_toNat

theorem unescape_of_raw {u : UInt16} (rest : JsString) (hquote : u ≠ 0x22) (hslash : u ≠ 0x5C) :
    unescape (u :: rest) = (unescape rest).map fun (s, rest) => (u :: s, rest) := by
  rw [unescape.eq_def]
  simp only [hquote, hslash, if_false]

theorem unescape_escapeUnit (u : UInt16) (rest : JsString) :
    unescape (escapeUnit u ++ rest) = (unescape rest).map fun (s, rest) => (u :: s, rest) := by
  unfold escapeUnit
  split
  · next entry hentry =>
    have hmem := List.mem_of_find?_eq_some hentry
    have hunit := List.find?_some hentry
    rw [decide_eq_true_eq] at hunit
    rw [← hunit]
    simp only [shortEscapes, List.mem_cons, List.not_mem_nil, or_false] at hmem
    change unescape (0x5C :: entry.2 :: rest) = _
    rw [unescape.eq_def]
    rcases hmem with rfl | rfl | rfl | rfl | rfl | rfl | rfl <;> rfl
  · next hnone =>
    have hne : ∀ entry ∈ shortEscapes, entry.1 ≠ u := by
      intro entry hentry
      simpa using List.find?_eq_none.mp hnone entry hentry
    split
    · have hread : unescape (0x5C :: 0x75 :: hex4 u ++ rest) =
          (unescape rest).map fun (s, rest) =>
            ((hexValue (hexDigit (u.toNat / 4096)) * 4096 +
              hexValue (hexDigit (u.toNat / 256 % 16)) * 256 +
              hexValue (hexDigit (u.toNat / 16 % 16)) * 16 +
              hexValue (hexDigit (u.toNat % 16))).toUInt16 :: s, rest) := by
        rw [unescape.eq_def]
        rfl
      rw [hread, hexValue_hex4]
    · exact unescape_of_raw rest (hne (0x22, 0x22) (by decide)).symm
        (hne (0x5C, 0x5C) (by decide)).symm

theorem ne_of_isSurrogate {u v : UInt16} (hu : (isHighSurrogate u || isLowSurrogate u) = true)
    (hv : (isHighSurrogate v || isLowSurrogate v) = false) : u ≠ v := by
  rintro rfl
  rw [hu] at hv
  cases hv

theorem unescape_quote (rest : JsString) : unescape (0x22 :: rest) = some ([], rest) := by
  rw [unescape.eq_def]
  rfl

theorem unescape_escape (s rest : JsString) :
    unescape (escape s ++ 0x22 :: rest) = some (s, rest) := by
  induction s using escape.induct with
  | case1 => exact unescape_quote rest
  | case2 u =>
      rw [escape, unescape_escapeUnit, unescape_quote]
      rfl
  | case3 u v tail hpair ih =>
      obtain ⟨hhigh, hlow⟩ := Bool.and_eq_true_iff.mp hpair
      have hu : (isHighSurrogate u || isLowSurrogate u) = true := by simp [hhigh]
      have hv : (isHighSurrogate v || isLowSurrogate v) = true := by simp [hlow]
      rw [escape, if_pos hpair, List.cons_append, List.cons_append,
        unescape_of_raw _ (ne_of_isSurrogate hu (by decide)) (ne_of_isSurrogate hu (by decide)),
        unescape_of_raw _ (ne_of_isSurrogate hv (by decide)) (ne_of_isSurrogate hv (by decide)),
        ih]
      rfl
  | case4 u v tail hpair ih =>
      rw [escape, if_neg hpair, List.append_assoc, unescape_escapeUnit, ih]
      rfl

theorem quote_append_inj {s t rest rest' : JsString}
    (h : quote s ++ rest = quote t ++ rest') : s = t ∧ rest = rest' := by
  simp only [quote, List.cons_append, List.append_assoc, List.cons.injEq, true_and] at h
  have hread := congrArg unescape h
  rw [unescape_escape, unescape_escape] at hread
  exact Prod.mk.inj (Option.some.inj hread)

section Lists

variable {α : Type} {code : α → JsString} {close : UInt16} {as bs : List α}
  {rest rest' : JsString}

theorem join_cons (separator s : JsString) (list : List JsString) :
    join separator (s :: list) = s ++ list.flatMap fun t => separator ++ t := by
  induction list generalizing s with
  | nil => simp [join]
  | cons t list ih =>
      rw [join, ih t, List.flatMap_cons]
      simp only [List.append_assoc]

/-- What is listed after the first item is determined by its text. -/
theorem flatMap_separated_inj (hclose : close ≠ 0x2C)
    (hinj : ∀ a ∈ as, ∀ b ∈ bs, ∀ {r r'}, code a ++ r = code b ++ r' → a = b ∧ r = r')
    (h : ((as.map code).flatMap fun t => js "," ++ t) ++ close :: rest =
      ((bs.map code).flatMap fun t => js "," ++ t) ++ close :: rest') :
    as = bs ∧ rest = rest' := by
  have hcomma : js "," = [0x2C] := by decide
  induction as generalizing bs with
  | nil =>
      cases bs with
      | nil => simpa using h
      | cons b bs =>
          simp only [List.map_nil, List.flatMap_nil, List.nil_append, List.map_cons,
            List.flatMap_cons, hcomma, List.cons_append, List.cons.injEq] at h
          exact absurd h.1 hclose
  | cons a as ih =>
      cases bs with
      | nil =>
          simp only [List.map_nil, List.flatMap_nil, List.nil_append, List.map_cons,
            List.flatMap_cons, hcomma, List.cons_append, List.cons.injEq] at h
          exact absurd h.1.symm hclose
      | cons b bs =>
          simp only [List.map_cons, List.flatMap_cons, List.append_assoc] at h
          have hheads := List.append_cancel_left h
          obtain ⟨rfl, htails⟩ := hinj a List.mem_cons_self b List.mem_cons_self hheads
          obtain ⟨rfl, hrest⟩ := ih
            (fun a' ha' b' hb' => hinj a' (List.mem_cons_of_mem a ha') b'
              (List.mem_cons_of_mem a hb')) htails
          exact ⟨rfl, hrest⟩

/-- A list is determined by its text, when its items are and none of them begins with the
closing bracket. -/
theorem join_append_inj (hclose : close ≠ 0x2C)
    (hbegins : ∀ a ∈ as ++ bs, ∀ r r', code a ++ r ≠ close :: r')
    (hinj : ∀ a ∈ as, ∀ b ∈ bs, ∀ {r r'}, code a ++ r = code b ++ r' → a = b ∧ r = r')
    (h : join (js ",") (as.map code) ++ close :: rest =
      join (js ",") (bs.map code) ++ close :: rest') : as = bs ∧ rest = rest' := by
  cases as with
  | nil =>
      cases bs with
      | nil => simpa [join] using h
      | cons b bs =>
          rw [List.map_cons, join_cons, List.append_assoc] at h
          exact absurd h.symm (hbegins b (by simp) _ _)
  | cons a as =>
      cases bs with
      | nil =>
          rw [List.map_cons, join_cons, List.append_assoc] at h
          exact absurd h (hbegins a (by simp) _ _)
      | cons b bs =>
          rw [List.map_cons, List.map_cons, join_cons, join_cons, List.append_assoc,
            List.append_assoc] at h
          obtain ⟨rfl, htails⟩ := hinj a List.mem_cons_self b List.mem_cons_self h
          obtain ⟨rfl, hrest⟩ := flatMap_separated_inj hclose
            (fun a' ha' b' hb' => hinj a' (List.mem_cons_of_mem a ha') b'
              (List.mem_cons_of_mem a hb')) htails
          exact ⟨rfl, hrest⟩

end Lists

def initial : Json → UInt16
  | .null => 0x6E
  | .bool true => 0x74
  | .bool false => 0x66
  | .number _ => 0x30
  | .string _ => 0x22
  | .array _ => 0x5B
  | .object _ => 0x7B

variable {value : Json} {rest rest' : JsString} {a b : Json}

theorem stringify_begins (hvalue : numberless value = true) :
    ∃ tail, stringify value = initial value :: tail := by
  cases value with
  | null => exact ⟨js "ull", by decide⟩
  | bool b =>
      cases b with
      | true => exact ⟨js "rue", by decide⟩
      | false => exact ⟨js "alse", by decide⟩
  | number n => cases hvalue
  | string s => exact ⟨escape s ++ [0x22], rfl⟩
  | array items => exact ⟨_, by rw [stringify, List.cons_append]; rfl⟩
  | object properties => exact ⟨_, by rw [stringify, List.cons_append]; rfl⟩

theorem stringifyItems_eq (items : List Json) : stringifyItems items = items.map stringify := by
  induction items with
  | nil => rfl
  | cons item items ih => rw [stringifyItems, ih, List.map_cons]

def entryText (entry : JsString × Json) : JsString :=
  quote entry.1 ++ 0x3A :: stringify entry.2

theorem stringifyEntries_eq (properties : List (JsString × Json)) :
    stringifyEntries properties = properties.map entryText := by
  induction properties with
  | nil => rfl
  | cons p properties ih => rw [stringifyEntries, ih, List.map_cons, entryText]

theorem numberlessItems_iff {items : List Json} :
    numberlessItems items = true ↔ ∀ item ∈ items, numberless item = true := by
  induction items with
  | nil => simp [numberlessItems]
  | cons item items ih => simp [numberlessItems, ih]

theorem numberlessEntries_iff {properties : List (JsString × Json)} :
    numberlessEntries properties = true ↔ ∀ p ∈ properties, numberless p.2 = true := by
  induction properties with
  | nil => simp [numberlessEntries]
  | cons p properties ih => simp [numberlessEntries, ih]

theorem initial_ne_bracket (value : Json) : initial value ≠ 0x5D := by
  cases value with
  | bool b => cases b <;> decide
  | _ => simp [initial]

theorem initial_eq_of_stringify (ha : numberless a = true) (hb : numberless b = true)
    (h : stringify a ++ rest = stringify b ++ rest') : initial a = initial b := by
  obtain ⟨tail, htail⟩ := stringify_begins ha
  obtain ⟨tail', htail'⟩ := stringify_begins hb
  rw [htail, htail'] at h
  exact (List.cons.inj h).1

theorem entryText_append_inj {p q : JsString × Json}
    (hinj : ∀ {r r'}, stringify p.2 ++ r = stringify q.2 ++ r' → p.2 = q.2 ∧ r = r')
    (h : entryText p ++ rest = entryText q ++ rest') : p = q ∧ rest = rest' := by
  unfold entryText at h
  rw [List.append_assoc, List.append_assoc] at h
  obtain ⟨hname, hvalues⟩ := quote_append_inj h
  rw [List.cons_append, List.cons_append] at hvalues
  obtain ⟨hvalue, hrest⟩ := hinj (List.cons.inj hvalues).2
  exact ⟨Prod.ext hname hvalue, hrest⟩

/-- Where the texts of two values begin alike, the values are alike and so is the rest. -/
theorem stringify_append_inj (a b : Json) (ha : numberless a = true) (hb : numberless b = true)
    (h : stringify a ++ rest = stringify b ++ rest') : a = b ∧ rest = rest' := by
  have hinitial := initial_eq_of_stringify ha hb h
  induction a using Json.induct generalizing b rest rest' with
  | null =>
      cases b with
      | null => exact ⟨rfl, List.append_cancel_left h⟩
      | bool c => cases c <;> simp [initial] at hinitial
      | _ => simp [initial] at hinitial
  | bool c =>
      cases b with
      | bool d =>
          obtain rfl : c = d := by
            revert hinitial
            cases c <;> cases d <;> decide
          exact ⟨rfl, List.append_cancel_left h⟩
      | _ => cases c <;> simp [initial] at hinitial
  | number n => cases ha
  | string s =>
      cases b with
      | string t =>
          obtain ⟨rfl, hrest⟩ := quote_append_inj h
          exact ⟨rfl, hrest⟩
      | bool c => cases c <;> simp [initial] at hinitial
      | _ => simp [initial] at hinitial
  | array items ih =>
      cases b with
      | array items' =>
          have hitems := numberlessItems_iff.mp ha
          have hitems' := numberlessItems_iff.mp hb
          simp only [stringify, stringifyItems_eq, List.cons_append, List.append_assoc,
            List.nil_append, List.cons.injEq, true_and] at h
          have hbegins : ∀ item ∈ items ++ items', ∀ r r', stringify item ++ r ≠ 0x5D :: r' := by
            intro item hitem r r' heq
            have hitem' : numberless item = true := by
              rcases List.mem_append.mp hitem with hleft | hright
              · exact hitems item hleft
              · exact hitems' item hright
            obtain ⟨tail, htail⟩ := stringify_begins hitem'
            rw [htail, List.cons_append] at heq
            exact initial_ne_bracket item (List.cons.inj heq).1
          obtain ⟨rfl, hrest⟩ := join_append_inj (by decide) hbegins
            (fun item hitem item' hitem' _ _ heads =>
              ih item hitem item' (hitems item hitem) (hitems' item' hitem') heads
                (initial_eq_of_stringify (hitems item hitem) (hitems' item' hitem') heads)) h
          exact ⟨rfl, hrest⟩
      | bool c => cases c <;> simp [initial] at hinitial
      | _ => simp [initial] at hinitial
  | object properties ih =>
      cases b with
      | object properties' =>
          have hvalues := numberlessEntries_iff.mp ha
          have hvalues' := numberlessEntries_iff.mp hb
          simp only [stringify, stringifyEntries_eq, List.cons_append, List.append_assoc,
            List.nil_append, List.cons.injEq, true_and] at h
          have hbegins : ∀ p ∈ properties ++ properties', ∀ r r',
              entryText p ++ r ≠ 0x7D :: r' := by
            intro p _ r r' heq
            simp [entryText, quote] at heq
          obtain ⟨rfl, hrest⟩ := join_append_inj (by decide) hbegins
            (fun p hp q hq _ _ heads => entryText_append_inj (fun values =>
              ih p hp q.2 (hvalues p hp) (hvalues' q hq) values
                (initial_eq_of_stringify (hvalues p hp) (hvalues' q hq) values)) heads) h
          exact ⟨rfl, hrest⟩
      | bool c => cases c <;> simp [initial] at hinitial
      | _ => simp [initial] at hinitial

/-- The text of a value without numbers determines it. -/
theorem stringify_inj (ha : numberless a = true) (hb : numberless b = true)
    (h : stringify a = stringify b) : a = b := by
  have happend : stringify a ++ [] = stringify b ++ [] := by rw [h]
  exact (stringify_append_inj a b ha hb happend).1

/-! ## The canonical text -/

variable {before : JsString → JsString → Bool} {α : Type}

theorem sortKeysItems_eq (items : List Json) :
    sortKeysItems before items = items.map (sortKeys before) := by
  induction items with
  | nil => rfl
  | cons item items ih => rw [sortKeysItems, ih, List.map_cons]

theorem sortKeysEntries_eq (properties : List (JsString × Json)) :
    sortKeysEntries before properties =
      properties.map fun p => (p.1, sortKeys before p.2) := by
  induction properties with
  | nil => rfl
  | cons p properties ih => rw [sortKeysEntries, ih, List.map_cons]

theorem canonicalItems_eq (items : List Json) :
    canonicalItems before items = items.map (canonicalJson before) := by
  induction items with
  | nil => rfl
  | cons item items ih => rw [canonicalItems, ih, List.map_cons]

theorem canonicalEntries_eq (properties : List (JsString × Json)) :
    canonicalEntries before properties =
      properties.map fun p => (p.1, canonicalJson before p.2) := by
  induction properties with
  | nil => rfl
  | cons p properties ih => rw [canonicalEntries, ih, List.map_cons]

theorem sortByKey_map {α β : Type} (f : α → β) (entries : List (JsString × α)) :
    sortByKey before (entries.map fun entry => (entry.1, f entry.2)) =
      (sortByKey before entries).map fun entry => (entry.1, f entry.2) := by
  have hmap := List.map_insertionSort (fun a b : JsString × α => before a.1 b.1 = true)
    (fun a b : JsString × β => before a.1 b.1 = true) (fun entry => (entry.1, f entry.2)) entries
    fun _ _ _ _ => Iff.rfl
  exact hmap.symm

theorem perm_sortByKey (entries : List (JsString × α)) : (sortByKey before entries).Perm entries :=
  List.perm_insertionSort _ entries

/-- The canonical text is the text of the value with its keys sorted. -/
theorem canonicalJson_eq (value : Json) :
    canonicalJson before value = stringify (sortKeys before value) := by
  induction value using Json.induct with
  | array items ih =>
      have hitems : canonicalItems before items = stringifyItems (sortKeysItems before items) := by
        rw [canonicalItems_eq, sortKeysItems_eq, stringifyItems_eq, List.map_map]
        exact List.map_congr_left ih
      rw [canonicalJson, sortKeys, stringify, hitems]
  | object properties ih =>
      have hentries : canonicalEntries before properties =
          (sortKeysEntries before properties).map fun p => (p.1, stringify p.2) := by
        rw [canonicalEntries_eq, sortKeysEntries_eq, List.map_map]
        refine List.map_congr_left fun p hp => ?_
        rw [ih p hp]
        rfl
      rw [canonicalJson, sortKeys, stringify, hentries, sortByKey_map, stringifyEntries_eq,
        List.map_map]
      rfl
  | _ => rfl

theorem numberless_sortKeys (hvalue : numberless value = true) :
    numberless (sortKeys before value) = true := by
  induction value using Json.induct with
  | array items ih =>
      have hitems := numberlessItems_iff.mp hvalue
      rw [sortKeys, sortKeysItems_eq]
      refine numberlessItems_iff.mpr fun sorted hsorted => ?_
      obtain ⟨item, hitem, rfl⟩ := List.mem_map.mp hsorted
      exact ih item hitem (hitems item hitem)
  | object properties ih =>
      have hvalues := numberlessEntries_iff.mp hvalue
      rw [sortKeys, sortKeysEntries_eq]
      refine numberlessEntries_iff.mpr fun sorted hsorted => ?_
      obtain ⟨p, hp, rfl⟩ := List.mem_map.mp ((perm_sortByKey _).mem_iff.mp hsorted)
      exact ih p hp (hvalues p hp)
  | _ => exact hvalue

/-- Values without numbers have one canonical text exactly if they are alike with their
keys sorted. -/
theorem canonicalJson_inj (ha : numberless a = true) (hb : numberless b = true) :
    canonicalJson before a = canonicalJson before b ↔ sortKeys before a = sortKeys before b := by
  rw [canonicalJson_eq, canonicalJson_eq]
  constructor
  · exact stringify_inj (numberless_sortKeys ha) (numberless_sortKeys hb)
  · exact congrArg stringify

/-- Two lists of entries that hold the same entries, under the same keys in the same order. -/
theorem eq_of_perm_of_keys {entries entries' : List (JsString × α)}
    (hperm : entries.Perm entries') (hkeys : entries.map Prod.fst = entries'.map Prod.fst)
    (hnodup : (entries.map Prod.fst).Nodup) : entries = entries' := by
  induction entries generalizing entries' with
  | nil => exact (List.nil_perm.mp hperm).symm
  | cons p entries ih =>
      cases entries' with
      | nil => cases hkeys
      | cons q entries' =>
          obtain ⟨hkey, hkeys⟩ := List.cons.inj hkeys
          rw [List.map_cons, List.nodup_cons] at hnodup
          have hpq : p = q := by
            rcases List.mem_cons.mp (hperm.mem_iff.mp List.mem_cons_self) with heq | hmem
            · exact heq
            · exact absurd (hkeys ▸ List.mem_map_of_mem hmem) hnodup.1
          rw [hpq] at hperm ⊢
          rw [ih hperm.cons_inv hkeys hnodup.2]

/-- Objects with the same keys in the same order are alike with their keys sorted exactly
if their values are. -/
theorem sortKeys_object_inj {fields fields' : List (JsString × Json)}
    (h : sortKeys before (.object fields) = sortKeys before (.object fields'))
    (hkeys : fields.map Prod.fst = fields'.map Prod.fst)
    (hnodup : (fields.map Prod.fst).Nodup) :
    fields.map (fun p => sortKeys before p.2) = fields'.map fun p => sortKeys before p.2 := by
  rw [sortKeys, sortKeys, Json.object.injEq] at h
  have hperm := ((perm_sortByKey _).symm.trans (List.Perm.of_eq h)).trans (perm_sortByKey _)
  rw [sortKeysEntries_eq, sortKeysEntries_eq] at hperm
  have hentries := eq_of_perm_of_keys hperm (by simpa [Function.comp_def] using hkeys)
    (by simpa [Function.comp_def] using hnodup)
  have hvalues := congrArg (List.map Prod.snd) hentries
  simpa [Function.comp_def] using hvalues

end JsText
