import DevHarness.Text.Separated

/-!
# Search parameters

The parameters of a URL, and how they are written: `application/x-www-form-urlencoded`, over
the UTF-8 bytes of names and values.  The written text determines the parameters.
-/

namespace JsText

/-- The parameters in their order; a name may come several times. -/
abbrev SearchParams := List (String × String)

/-- `searchParams.get(name)`: the first of that name. -/
def SearchParams.get (params : SearchParams) (name : String) : Option JsString :=
  (params.find? fun param => param.1 = name).map fun param => js param.2

def isUnescaped (b : UInt8) : Bool :=
  (0x30 ≤ b ∧ b ≤ 0x39) ∨ (0x41 ≤ b ∧ b ≤ 0x5A) ∨ (0x61 ≤ b ∧ b ≤ 0x7A) ∨
    b ∈ [0x2A, 0x2D, 0x2E, 0x5F]

def upperHexDigit (n : ℕ) : UInt16 :=
  if n < 10 then (0x30 + n).toUInt16 else (0x37 + n).toUInt16

def encodeByte (b : UInt8) : JsString :=
  if b = 0x20 then [0x2B]
  else if isUnescaped b then [b.toUInt16]
  else [0x25, upperHexDigit (b.toNat / 16), upperHexDigit (b.toNat % 16)]

def encodeComponent (s : String) : JsString :=
  s.toUTF8.data.toList.flatMap encodeByte

def encodeParam (param : String × String) : JsString :=
  encodeComponent param.1 ++ 0x3D :: encodeComponent param.2

/-- `searchParams.toString()`. -/
def SearchParams.text (params : SearchParams) : JsString :=
  join [0x26] (params.map encodeParam)

example : SearchParams.text [("filter", "review"), ("goalId", "a |b")] =
    js "filter=review&goalId=a+%7Cb" := by
  decide +kernel

section Bytes

variable {b c : UInt8} {rest rest' : JsString}

theorem upperHexDigit_inj {m n : ℕ} (hm : m < 16) (hn : n < 16)
    (h : upperHexDigit m = upperHexDigit n) : m = n := by
  have hall : ∀ m < 16, ∀ n < 16, upperHexDigit m = upperHexDigit n → m = n := by decide
  exact hall m hm n hn h

/-- A byte that stands for itself is not a space, a sign of an escape or a separator. -/
theorem toUInt16_of_isUnescaped (h : isUnescaped b = true) :
    b.toUInt16 ∉ [0x2B, 0x25, 0x26, 0x3D, 0x7C] := by
  intro hmem
  have hescaped : ∀ u ∈ ([0x2B, 0x25, 0x26, 0x3D, 0x7C] : JsString),
      isUnescaped u.toUInt8 = false := by decide
  have hb := hescaped _ hmem
  rw [UInt8.toUInt8_toUInt16, h] at hb
  exact absurd hb (by decide)

/-- How the text of a byte begins says which of the three forms it has. -/
theorem encodeByte_cases (b : UInt8) : (b = 0x20 ∧ encodeByte b = [0x2B]) ∨
    (isUnescaped b = true ∧ encodeByte b = [b.toUInt16]) ∨
    encodeByte b = [0x25, upperHexDigit (b.toNat / 16), upperHexDigit (b.toNat % 16)] := by
  unfold encodeByte
  by_cases hspace : b = 0x20
  · exact .inl ⟨hspace, if_pos hspace⟩
  · by_cases hunescaped : isUnescaped b = true
    · exact .inr (.inl ⟨hunescaped, by rw [if_neg hspace, if_pos hunescaped]⟩)
    · exact .inr (.inr (by rw [if_neg hspace, if_neg hunescaped]))

/-- The separators of parameters and of the fields of a tag are written as escapes. -/
theorem not_mem_encodeByte {u : UInt16} (hu : u ∈ [0x26, 0x3D, 0x7C]) : u ∉ encodeByte b := by
  have hdigit : ∀ n < 16, ∀ v ∈ ([0x26, 0x3D, 0x7C] : JsString), v ≠ upperHexDigit n := by
    decide +kernel
  have hsign : ∀ v ∈ ([0x26, 0x3D, 0x7C] : JsString), v ≠ 0x2B ∧ v ≠ 0x25 := by
    decide +kernel
  have hb : b.toNat < 256 := b.toNat_lt
  rcases encodeByte_cases b with ⟨-, htext⟩ | ⟨hunescaped, htext⟩ | htext <;> rw [htext]
  · simpa using (hsign u hu).1
  · rw [List.mem_singleton]
    rintro rfl
    exact toUInt16_of_isUnescaped hunescaped
      (List.mem_cons_of_mem _ (List.mem_cons_of_mem _ hu))
  · have hhigh := hdigit (b.toNat / 16) (by omega) u hu
    have hlow := hdigit (b.toNat % 16) (by omega) u hu
    simp [(hsign u hu).2, hhigh, hlow]

theorem encodeByte_append_inj (h : encodeByte b ++ rest = encodeByte c ++ rest') :
    b = c ∧ rest = rest' := by
  have hplus : ∀ {b : UInt8}, isUnescaped b = true → b.toUInt16 ≠ 0x2B := by
    intro b hb hsame
    exact toUInt16_of_isUnescaped hb (by rw [hsame]; decide)
  have hpercent : ∀ {b : UInt8}, isUnescaped b = true → b.toUInt16 ≠ 0x25 := by
    intro b hb hsame
    exact toUInt16_of_isUnescaped hb (by rw [hsame]; decide)
  rcases encodeByte_cases b with ⟨hb, htext⟩ | ⟨hb, htext⟩ | htext <;>
    rcases encodeByte_cases c with ⟨hc, htext'⟩ | ⟨hc, htext'⟩ | htext' <;>
    simp only [htext, htext', List.cons_append, List.nil_append, List.cons.injEq] at h
  · exact ⟨hb.trans hc.symm, h.2⟩
  · exact absurd h.1.symm (hplus hc)
  · exact absurd h.1 (by decide)
  · exact absurd h.1 (hplus hb)
  · refine ⟨?_, h.2⟩
    simpa using congrArg UInt16.toUInt8 h.1
  · exact absurd h.1 (hpercent hb)
  · exact absurd h.1 (by decide)
  · exact absurd h.1.symm (hpercent hc)
  · obtain ⟨-, hhigh, hlow, hrest⟩ := h
    have hb : b.toNat < 256 := b.toNat_lt
    have hc : c.toNat < 256 := c.toNat_lt
    have hdiv := upperHexDigit_inj (by omega) (by omega) hhigh
    have hmod := upperHexDigit_inj (by omega) (by omega) hlow
    have hsame : b.toNat = c.toNat := by omega
    exact ⟨UInt8.toNat_inj.mp hsame, hrest⟩

theorem flatMap_encodeByte_injective :
    Function.Injective fun bytes : List UInt8 => bytes.flatMap encodeByte := by
  intro bytes bytes' h
  have hne : ∀ b, encodeByte b ≠ [] := by
    intro b
    rcases encodeByte_cases b with ⟨-, htext⟩ | ⟨-, htext⟩ | htext <;> rw [htext] <;>
      exact List.cons_ne_nil _ _
  induction bytes generalizing bytes' with
  | nil =>
      cases bytes' with
      | nil => rfl
      | cons c bytes' => simp [hne] at h
  | cons b bytes ih =>
      cases bytes' with
      | nil => simp [hne] at h
      | cons c bytes' =>
          simp only [List.flatMap_cons] at h
          obtain ⟨rfl, hrest⟩ := encodeByte_append_inj h
          rw [ih hrest]

end Bytes

/-! ## Reading parameters back -/

theorem encodeComponent_injective : Function.Injective encodeComponent := by
  intro s t h
  have hbytes := flatMap_encodeByte_injective h
  have harray : s.toUTF8 = t.toUTF8 := ByteArray.ext (Array.toList_inj.mp hbytes)
  exact String.toByteArray_inj.mp harray

theorem not_mem_encodeComponent (s : String) :
    ∀ u ∈ [0x26, 0x3D, 0x7C], u ∉ encodeComponent s := by
  intro u hu hmem
  obtain ⟨b, -, hb⟩ := List.mem_flatMap.mp hmem
  exact not_mem_encodeByte hu hb

theorem encodeParam_injective : Function.Injective encodeParam := by
  rintro ⟨name, value⟩ ⟨name', value'⟩ h
  obtain ⟨hname, hvalue⟩ := append_separator_inj_left
    (not_mem_encodeComponent name 0x3D (by decide))
    (not_mem_encodeComponent name' 0x3D (by decide)) h
  exact Prod.ext (encodeComponent_injective hname) (encodeComponent_injective hvalue)

theorem not_mem_encodeParam (param : String × String) :
    0x26 ∉ encodeParam param ∧ 0x7C ∉ encodeParam param := by
  have hname := not_mem_encodeComponent param.1
  have hvalue := not_mem_encodeComponent param.2
  unfold encodeParam
  constructor
  · rw [List.mem_append, List.mem_cons]
    rintro (h | h | h)
    · exact hname 0x26 (by decide) h
    · exact absurd h (by decide)
    · exact hvalue 0x26 (by decide) h
  · rw [List.mem_append, List.mem_cons]
    rintro (h | h | h)
    · exact hname 0x7C (by decide) h
    · exact absurd h (by decide)
    · exact hvalue 0x7C (by decide) h

theorem SearchParams.text_injective : Function.Injective SearchParams.text := by
  intro params params' h
  have hfree : ∀ params : SearchParams, ∀ s ∈ params.map encodeParam, 0x26 ∉ s ∧ s ≠ [] := by
    intro params s hs
    obtain ⟨param, -, rfl⟩ := List.mem_map.mp hs
    exact ⟨(not_mem_encodeParam param).1, by simp [encodeParam]⟩
  exact List.map_injective_iff.mpr encodeParam_injective
    (join_inj (hfree params) (hfree params') h)

theorem SearchParams.bar_not_mem_text (params : SearchParams) : 0x7C ∉ params.text := by
  apply not_mem_join (by decide)
  intro s hs
  obtain ⟨param, -, rfl⟩ := List.mem_map.mp hs
  exact (not_mem_encodeParam param).2

end JsText
