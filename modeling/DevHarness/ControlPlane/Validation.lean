import DevHarness.Sequence.Related
import DevHarness.Text.Json

/-!
# Validation of untrusted values

The checks that the hand-written validators of the control plane are made of.
Each takes the error class of its caller; the messages are theirs.
-/

namespace DevHarness.ControlPlane

open JsText Sequence

/-- A thrown `Error`: the name of its class and its message. -/
structure Thrown where
  name : JsString
  message : JsString
  deriving DecidableEq

/-- What `String` throws for an object that cannot be converted. -/
def typeError : Thrown where
  name := js "TypeError"
  message := js "Cannot convert object to primitive value"

/-- `new Error(message)`. -/
def plainError (message : JsString) : Thrown where
  name := js "Error"
  message := message

/-- Throw unless `ok`. -/
def require (ok : Bool) (error : Thrown) : Except Thrown Unit :=
  if ok then .ok () else .error error

/-- `${name}[${index}]`. -/
def itemName (name : JsString) (index : ℕ) : JsString :=
  name ++ js "[" ++ js (toString index) ++ js "]"

/-- `${name}.${member}`. -/
def memberName (name member : JsString) : JsString :=
  name ++ js "." ++ member

/-- `list.map((item, index) => …)` from the given index on. -/
def mapIndexedFrom {α β : Type} (f : ℕ → α → Except Thrown β) :
    ℕ → List α → Except Thrown (List β)
  | _, [] => .ok []
  | index, a :: as => do
    let b ← f index a
    let bs ← mapIndexedFrom f (index + 1) as
    pure (b :: bs)

/-- `list.map((item, index) => …)`, for a callback that may throw. -/
def mapIndexed {α β : Type} (f : ℕ → α → Except Thrown β) (list : List α) :
    Except Thrown (List β) :=
  mapIndexedFrom f 0 list

/-- `String(value)`. -/
def stringOf (value : Json) : Except Thrown JsString :=
  match value.toText with
  | some text => .ok text
  | none => .error typeError

/-- `allowed.includes(String(value))`. -/
def allows (allowed : List String) (value : Json) : Except Thrown Bool := do
  let text ← stringOf value
  pure (decide (text ∈ allowed.map js))

/-- `value` prints one of `words`. -/
def Prints (words : List String) (value : Json) : Prop :=
  ∃ word ∈ words, value.toText = some (js word)

/-- `value[name]`; what is read has been checked to be there. -/
def fieldOf (value : Json) (name : String) : Json :=
  (value.get (js name)).getD .null

/-- Check for an object with exactly the given properties, naming the one that is
not allowed or missing. -/
def closedObject (error : JsString → Thrown) (value : Json) (name : JsString)
    (keys : List String) : Except Thrown Unit :=
  match value with
  | .object properties =>
    match properties.find? fun p => p.1 ∉ keys.map js with
    | some p => .error (error (memberName name p.1 ++ js " is not allowed"))
    | none =>
      match keys.find? fun key => Json.property properties (js key) = none with
      | some key => .error (error (memberName name (js key) ++ js " is required"))
      | none => .ok ()
  | _ => .error (error (name ++ js " must be an object"))

/-- A non-blank text of at most `maximum` units, trimmed. -/
def boundedText (error : JsString → Thrown) (value : Json) (name : JsString)
    (maximum : ℕ) : Except Thrown JsString :=
  match value with
  | .string s =>
    if trim s = [] ∨ maximum < (trim s).length then
      .error (error (name ++ js " must be non-blank and bounded"))
    else .ok (trim s)
  | _ => .error (error (name ++ js " must be non-blank and bounded"))

/-- The text of a value, trimmed: non-blank, and of at most `maximum` units. -/
def BoundedText (value : Json) (maximum : ℕ) (s : JsString) : Prop :=
  ∃ t, value = .string t ∧ s = trim t ∧ s ≠ [] ∧ s.length ≤ maximum

/-- An object with the given fields and no others. -/
def HasFields (value : Json) (fields : List String) : Prop :=
  ∃ properties, value = .object properties ∧
    (∀ field ∈ fields, Json.property properties (js field) ≠ none) ∧
    ∀ p ∈ properties, p.1 ∈ fields.map js

section Lemmas

variable {α β : Type} {x : Except Thrown α} {f : α → Except Thrown β} {b : β} {error : Thrown}
  {u : Unit} {as : List α} {bs : List β} {value : Json} {words : List String} {name s : JsString}
  {maximum : ℕ}

theorem bind_eq_ok : x >>= f = .ok b ↔ ∃ a, x = .ok a ∧ f a = .ok b := by
  cases x with
  | ok a => simp [bind, Except.bind]
  | error e => simp [bind, Except.bind]

theorem require_eq_ok {ok : Bool} : require ok error = .ok u ↔ ok = true := by
  by_cases hok : ok = true
  · simp [require, hok]
  · simp [require, hok]

theorem ite_error_eq_ok {p : Prop} [Decidable p] {a : α} :
    (if p then .error error else x) = .ok a ↔ ¬ p ∧ x = .ok a := by
  by_cases hp : p
  · simp [hp]
  · simp [hp]

theorem forall₂_of_mapIndexedFrom {f : ℕ → α → Except Thrown β} {index : ℕ}
    (h : mapIndexedFrom f index as = .ok bs) :
    List.Forall₂ (fun a b => ∃ i, f i a = .ok b) as bs := by
  induction as generalizing index bs with
  | nil =>
      have hbs : [] = bs := Except.ok.inj h
      rw [← hbs]
      exact .nil
  | cons a as ih =>
      obtain ⟨b, hb, hrest⟩ := bind_eq_ok.mp h
      obtain ⟨bs', hbs', hlist⟩ := bind_eq_ok.mp hrest
      have hcons : b :: bs' = bs := Except.ok.inj hlist
      rw [← hcons]
      exact .cons ⟨index, hb⟩ (ih hbs')

theorem forall₂_of_mapIndexed {f : ℕ → α → Except Thrown β} (h : mapIndexed f as = .ok bs) :
    List.Forall₂ (fun a b => ∃ i, f i a = .ok b) as bs :=
  forall₂_of_mapIndexedFrom h

theorem exists_of_any {p : α → Bool} (h : x.toOption.any p = true) :
    ∃ a, x = .ok a ∧ p a = true := by
  cases x with
  | ok a => exact ⟨a, rfl, h⟩
  | error e => cases h

theorem stringOf_eq_ok {s : JsString} : stringOf value = .ok s ↔ value.toText = some s := by
  unfold stringOf
  split
  · next text htext => simp [htext]
  · next htext => simp [htext]

theorem prints_iff : Prints words value ↔ allows words value = .ok true := by
  unfold Prints allows
  simp only [bind_eq_ok, stringOf_eq_ok]
  constructor
  · rintro ⟨word, hword, htext⟩
    refine ⟨js word, htext, ?_⟩
    simp only [pure, Except.pure, Except.ok.injEq, decide_eq_true_eq]
    exact List.mem_map.mpr ⟨word, hword, rfl⟩
  · rintro ⟨text, htext, hmem⟩
    simp only [pure, Except.pure, Except.ok.injEq, decide_eq_true_eq] at hmem
    obtain ⟨word, hword, rfl⟩ := List.mem_map.mp hmem
    exact ⟨word, hword, htext⟩

theorem prints_of_allows {allowed : Bool} (hallows : allows words value = .ok allowed)
    (hrequire : require allowed error = .ok u) : Prints words value := by
  rw [require_eq_ok.mp hrequire] at hallows
  exact prints_iff.mpr hallows

theorem boundedText_eq_ok {error : JsString → Thrown} :
    boundedText error value name maximum = .ok s ↔
      ∃ t, value = .string t ∧ s = trim t ∧ trim t ≠ [] ∧ (trim t).length ≤ maximum := by
  cases value with
  | string t =>
      simp only [boundedText, ite_error_eq_ok, not_or, not_lt, Except.ok.injEq,
        Json.string.injEq]
      constructor
      · rintro ⟨⟨hne, hlen⟩, rfl⟩
        exact ⟨t, rfl, rfl, hne, hlen⟩
      · rintro ⟨t', rfl, rfl, hne, hlen⟩
        exact ⟨⟨hne, hlen⟩, rfl⟩
  | null => simp [boundedText]
  | bool b => simp [boundedText]
  | number n => simp [boundedText]
  | array items => simp [boundedText]
  | object properties => simp [boundedText]

theorem boundedText_iff {error : JsString → Thrown} :
    boundedText error value name maximum = .ok s ↔ BoundedText value maximum s := by
  rw [boundedText_eq_ok]
  constructor
  · rintro ⟨t, rfl, rfl, hne, hlen⟩
    exact ⟨t, rfl, rfl, hne, hlen⟩
  · rintro ⟨t, rfl, rfl, hne, hlen⟩
    exact ⟨t, rfl, rfl, hne, hlen⟩

theorem mapIndexed_eq_ok_iff {f : ℕ → α → Except Thrown β} {P : α → β → Prop}
    (h : ∀ index a b, f index a = .ok b ↔ P a b) :
    mapIndexed f as = .ok bs ↔ List.Forall₂ P as bs := by
  constructor
  · intro hmap
    exact (forall₂_of_mapIndexed hmap).imp fun a b ⟨i, hi⟩ => (h i a b).mp hi
  · intro hall
    have hfrom : ∀ index, mapIndexedFrom f index as = .ok bs := by
      induction hall with
      | nil => intro index; rfl
      | @cons a b as bs hab _ ih =>
          intro index
          rw [mapIndexedFrom, (h index a b).mpr hab, ih (index + 1)]
          rfl
    exact hfrom 0

end Lemmas

end DevHarness.ControlPlane
