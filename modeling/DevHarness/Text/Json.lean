import DevHarness.Text.JsString

/-!
# JSON values

The values that `JSON.parse` produces, read the way JavaScript reads them:
property access, `Array.isArray` and `String(value)`.
-/

namespace JsText

/-- The text of a number begins with a digit or a sign, or is `Infinity`. -/
def beginsNumber : JsString → Bool
  | [] => false
  | u :: _ => (0x30 ≤ u ∧ u ≤ 0x39) ∨ u = 0x2D ∨ u = 0x49

/-- A number.  A safe integer prints in decimal; of any other number only the
text that `String` prints is kept. -/
inductive JsNumber
  | safeInteger (n : ℤ) (bounded : n.natAbs ≤ 9007199254740991)
  | other (text : JsString) (printed : beginsNumber text = true)
  deriving DecidableEq

def JsNumber.toText : JsNumber → JsString
  | .safeInteger n _ => js (toString n)
  | .other text _ => text

/-- A JSON value.  An object lists its properties; where a name is listed twice
the first counts. -/
inductive Json
  | null
  | bool (b : Bool)
  | number (n : JsNumber)
  | string (s : JsString)
  | array (items : List Json)
  | object (properties : List (JsString × Json))

namespace Json

mutual

/-- `String(value)`; `none` is the `TypeError` of an object whose own property
`toString` hides the inherited method. -/
def toText : Json → Option JsString
  | .null => some (js "null")
  | .bool b => some (js (toString b))
  | .number n => some n.toText
  | .string s => some s
  | .array items => (itemTexts items).map (join (js ","))
  | .object properties =>
    if properties.any fun p => p.1 = js "toString" then none
    else some (js "[object Object]")

/-- The texts that `join` puts together; `null` counts as the empty text. -/
def itemTexts : List Json → Option (List JsString)
  | [] => some []
  | .null :: items => (itemTexts items).map ([] :: ·)
  | item :: items =>
    match toText item, itemTexts items with
    | some text, some texts => some (text :: texts)
    | _, _ => none

end

/-! ### Equality -/

mutual

def same : Json → Json → Bool
  | .null, .null => true
  | .bool b, .bool b' => b == b'
  | .number n, .number n' => n = n'
  | .string s, .string s' => s = s'
  | .array items, .array items' => sameItems items items'
  | .object properties, .object properties' => sameProperties properties properties'
  | _, _ => false

def sameItems : List Json → List Json → Bool
  | [], [] => true
  | item :: items, item' :: items' => same item item' && sameItems items items'
  | _, _ => false

def sameProperties : List (JsString × Json) → List (JsString × Json) → Bool
  | [], [] => true
  | (name, value) :: properties, (name', value') :: properties' =>
    name = name' && same value value' && sameProperties properties properties'
  | _, _ => false

end

mutual

theorem same_iff : ∀ a b : Json, same a b = true ↔ a = b
  | .null, b => by cases b <;> simp [same]
  | .bool _, b => by cases b <;> simp [same]
  | .number _, b => by cases b <;> simp [same]
  | .string _, b => by cases b <;> simp [same]
  | .array items, b => by
      cases b with
      | array items' => simp [same, sameItems_iff items items']
      | _ => simp [same]
  | .object properties, b => by
      cases b with
      | object properties' => simp [same, sameProperties_iff properties properties']
      | _ => simp [same]

theorem sameItems_iff : ∀ a b : List Json, sameItems a b = true ↔ a = b
  | [], b => by cases b <;> simp [sameItems]
  | item :: items, b => by
      cases b with
      | nil => simp [sameItems]
      | cons item' items' => simp [sameItems, same_iff item item', sameItems_iff items items']

theorem sameProperties_iff :
    ∀ a b : List (JsString × Json), sameProperties a b = true ↔ a = b
  | [], b => by cases b <;> simp [sameProperties]
  | (name, value) :: properties, b => by
      cases b with
      | nil => simp [sameProperties]
      | cons p' properties' =>
          simp [sameProperties, same_iff value p'.2, sameProperties_iff properties properties',
            Prod.ext_iff]

end

instance : DecidableEq Json := fun a b => decidable_of_iff _ (same_iff a b)

mutual

/-- Induction on values: what holds of every item, or of every property, holds of the
whole. -/
@[elab_as_elim]
theorem induct {P : Json → Prop} (null : P .null) (bool : ∀ b, P (.bool b))
    (number : ∀ n, P (.number n)) (string : ∀ s, P (.string s))
    (array : ∀ items, (∀ item ∈ items, P item) → P (.array items))
    (object : ∀ properties : List (JsString × Json), (∀ p ∈ properties, P p.2) →
      P (.object properties)) : ∀ value, P value
  | .null => null
  | .bool b => bool b
  | .number n => number n
  | .string s => string s
  | .array items => array items (inductItems null bool number string array object items)
  | .object properties =>
      object properties (inductEntries null bool number string array object properties)

theorem inductItems {P : Json → Prop} (null : P .null) (bool : ∀ b, P (.bool b))
    (number : ∀ n, P (.number n)) (string : ∀ s, P (.string s))
    (array : ∀ items, (∀ item ∈ items, P item) → P (.array items))
    (object : ∀ properties : List (JsString × Json), (∀ p ∈ properties, P p.2) →
      P (.object properties)) : ∀ items : List Json, ∀ item ∈ items, P item
  | [], _, hitem => absurd hitem List.not_mem_nil
  | first :: items, item, hitem =>
      (List.mem_cons.mp hitem).elim
        (fun h => h ▸ induct null bool number string array object first)
        (inductItems null bool number string array object items item)

theorem inductEntries {P : Json → Prop} (null : P .null) (bool : ∀ b, P (.bool b))
    (number : ∀ n, P (.number n)) (string : ∀ s, P (.string s))
    (array : ∀ items, (∀ item ∈ items, P item) → P (.array items))
    (object : ∀ properties : List (JsString × Json), (∀ p ∈ properties, P p.2) →
      P (.object properties)) : ∀ properties : List (JsString × Json), ∀ p ∈ properties, P p.2
  | [], _, hp => absurd hp List.not_mem_nil
  | (_, value) :: properties, p, hp =>
      (List.mem_cons.mp hp).elim
        (fun h => h ▸ induct null bool number string array object value)
        (inductEntries null bool number string array object properties p)

end

/-! ### Reading -/

/-- `typeof value === "string"`. -/
def isString : Json → Bool
  | .string _ => true
  | _ => false

/-- `value === word`, for a string. -/
def isWord (word : JsString) : Json → Bool
  | .string s => s = word
  | _ => false

/-- `record[name]` of an object. -/
def property (properties : List (JsString × Json)) (name : JsString) : Option Json :=
  (properties.find? fun p => p.1 = name).map Prod.snd

/-- `value[name]`, where it is there. -/
def get (name : JsString) : Json → Option Json
  | .object properties => property properties name
  | _ => none

def items : Json → List Json
  | .array items => items
  | _ => []

variable {value : Json} {word s : JsString}

@[simp] theorem toText_string : (Json.string s).toText = some s := by
  rw [toText]

@[simp] theorem isWord_string : (Json.string s).isWord word = decide (s = word) := rfl

theorem isWord_iff : value.isWord word = true ↔ value = .string word := by
  cases value with
  | string t => simp [isWord]
  | null => simp [isWord]
  | bool b => simp [isWord]
  | number n => simp [isWord]
  | array items => simp [isWord]
  | object properties => simp [isWord]

theorem isString_iff : value.isString = true ↔ ∃ t, value = .string t := by
  cases value with
  | string t => simp [isString]
  | null => simp [isString]
  | bool b => simp [isString]
  | number n => simp [isString]
  | array items => simp [isString]
  | object properties => simp [isString]

end Json

end JsText
