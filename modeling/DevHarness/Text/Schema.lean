import Mathlib.Data.List.Forall2
import DevHarness.Text.CodePoints
import DevHarness.Text.Json

/-!
# JSON schemas

The part of JSON Schema that closed schemas are written in: texts, truth values,
enumerated texts, lists, and objects without further properties.
-/

namespace JsText

inductive JsonSchema
  | text (minLength : ℕ)
  | boolean
  | oneOf (words : List JsString)
  | list (items : JsonSchema) (maxItems : Option ℕ)
  | closed (required : List JsString) (properties : List (JsString × JsonSchema))

namespace JsonSchema

mutual

def conforms : JsonSchema → Json → Bool
  | .text minLength, .string s => minLength ≤ (codePoints s).length
  | .boolean, .bool _ => true
  | .oneOf words, .string s => s ∈ words
  | .list items maxItems, .array values =>
    maxItems.all (values.length ≤ ·) && values.all fun value => conforms items value
  | .closed required properties, .object values =>
    required.all (fun name => (Json.property values name).isSome) &&
      values.all (fun p => p.1 ∈ properties.map Prod.fst) && conformsEach properties values
  | _, _ => false

def conformsEach : List (JsString × JsonSchema) → List (JsString × Json) → Bool
  | [], _ => true
  | (name, schema) :: properties, values =>
    (match Json.property values name with
      | none => true
      | some value => conforms schema value) && conformsEach properties values

end

variable {s : JsString} {value : Json} {values : List Json} {words : List JsString}
  {items : JsonSchema} {maxItems : Option ℕ} {fields : List (JsString × Json)}
  {properties : List (JsString × JsonSchema)}

theorem conforms_oneOf_iff :
    (oneOf words).conforms value = true ↔ ∃ s ∈ words, value = .string s := by
  cases value with
  | string t => simp [conforms]
  | null => simp [conforms]
  | bool b => simp [conforms]
  | number n => simp [conforms]
  | array items => simp [conforms]
  | object properties => simp [conforms]

theorem conforms_text_of_ne_nil (hs : s ≠ []) : (text 1).conforms (.string s) = true := by
  have hpositive : 1 ≤ (codePoints s).length := by
    match s with
    | [] => exact absurd rfl hs
    | [u] => simp [codePoints]
    | u :: v :: rest =>
      unfold codePoints
      split <;> simp
  simpa [conforms] using hpositive

theorem conforms_text_zero : (text 0).conforms (.string s) = true := by
  simp [conforms]

@[simp] theorem conforms_list : (list items maxItems).conforms (.array values) = true ↔
    (∀ bound, maxItems = some bound → values.length ≤ bound) ∧
      ∀ value ∈ values, items.conforms value = true := by
  cases maxItems with
  | none => simp [conforms]
  | some bound => simp [conforms]

@[simp] theorem conforms_boolean {b : Bool} : boolean.conforms (.bool b) = true := by
  simp [conforms]

theorem conforms_closed {required : List JsString} :
    (closed required properties).conforms (.object fields) =
      (required.all (fun name => (Json.property fields name).isSome) &&
        fields.all (fun p => p.1 ∈ properties.map Prod.fst) &&
        conformsEach properties fields) := by
  rw [conforms]

theorem conformsEach_iff : conformsEach properties fields = true ↔
      ∀ p ∈ properties, ∀ value, Json.property fields p.1 = some value →
        p.2.conforms value = true := by
  induction properties with
  | nil => simp [conformsEach]
  | cons p properties ih =>
      rw [conformsEach, Bool.and_eq_true, ih, List.forall_mem_cons]
      cases Json.property fields p.1 with
      | none => simp
      | some value => simp

def closedOf (properties : List (String × JsonSchema)) : JsonSchema :=
  closed (properties.map fun p => js p.1) (properties.map fun p => (js p.1, p.2))

theorem conforms_of_closedOf {properties : List (String × JsonSchema)} {p : String × JsonSchema}
    (h : (closedOf properties).conforms (.object fields) = true) (hp : p ∈ properties)
    (hvalue : Json.property fields (js p.1) = some value) : p.2.conforms value = true := by
  unfold closedOf at h
  rw [conforms_closed, Bool.and_eq_true] at h
  exact conformsEach_iff.mp h.2 (js p.1, p.2) (List.mem_map.mpr ⟨p, hp, rfl⟩) value hvalue

/-- An object with the declared properties, in their order, conforms value by value. -/
theorem conforms_closedOf {properties : List (String × JsonSchema)}
    (hnodup : (properties.map fun p => js p.1).Nodup)
    (h : List.Forall₂ (fun field p => field.1 = js p.1 ∧ p.2.conforms field.2 = true) fields
      properties) : (closedOf properties).conforms (.object fields) = true := by
  have hproperty : ∀ {fields : List (JsString × Json)} {properties : List (String × JsonSchema)},
      (properties.map fun p => js p.1).Nodup →
      List.Forall₂ (fun field p => field.1 = js p.1 ∧ p.2.conforms field.2 = true) fields
        properties →
      ∀ p ∈ properties, ∃ value, Json.property fields (js p.1) = some value ∧
        p.2.conforms value = true := by
    intro fields properties hnodup h
    induction h with
    | nil => simp
    | @cons field p fields properties hfield _ ih =>
        obtain ⟨hname, hconforms⟩ := hfield
        rw [List.map_cons, List.nodup_cons] at hnodup
        rintro q (_ | ⟨_, hq⟩)
        · refine ⟨field.2, ?_, hconforms⟩
          simp [Json.property, hname]
        · obtain ⟨value, hvalue, hq'⟩ := ih hnodup.2 q hq
          refine ⟨value, ?_, hq'⟩
          have hne : field.1 ≠ js q.1 := by
            rw [hname]
            intro heq
            exact hnodup.1 (heq ▸ List.mem_map.mpr ⟨q, hq, rfl⟩)
          rw [← hvalue]
          simp [Json.property, hne]
  unfold closedOf
  rw [conforms_closed, Bool.and_eq_true, Bool.and_eq_true]
  refine ⟨⟨?_, ?_⟩, ?_⟩
  · rw [List.all_eq_true]
    intro name hname
    obtain ⟨p, hp, rfl⟩ := List.mem_map.mp hname
    obtain ⟨value, hvalue, -⟩ := hproperty hnodup h p hp
    simp [hvalue]
  · rw [List.all_eq_true]
    intro field hfield
    have hright : ∃ p ∈ properties, field.1 = js p.1 ∧ p.2.conforms field.2 = true := by
      clear hproperty hnodup
      induction h with
      | nil => exact absurd hfield List.not_mem_nil
      | cons hab _ ih =>
          rcases List.mem_cons.mp hfield with rfl | hfield
          · exact ⟨_, List.mem_cons_self, hab⟩
          · obtain ⟨p, hp, hR⟩ := ih hfield
            exact ⟨p, List.mem_cons_of_mem _ hp, hR⟩
    obtain ⟨p, hp, hname, -⟩ := hright
    simp only [List.map_map, decide_eq_true_eq, hname]
    exact List.mem_map.mpr ⟨p, hp, rfl⟩
  · rw [conformsEach_iff]
    intro p' hp' value hvalue
    obtain ⟨p, hp, rfl⟩ := List.mem_map.mp hp'
    obtain ⟨found, hfound, hconforms⟩ := hproperty hnodup h p hp
    obtain rfl := Option.some.inj (hfound.symm.trans hvalue)
    exact hconforms

end JsonSchema

end JsText
