import Mathlib.Data.Rat.Defs
import Mathlib.Algebra.Order.Ring.Unbundled.Rat
import DevHarness.Text.PyString

/-!
# Python values

The values that a YAML or JSON document is loaded into, and what the language does with a value
of unknown type: `str`, truth, iteration, `int`, and the comparison that `sorted` makes.
-/

namespace PyText

open JsText

/-- The number that a `float` stands for. -/
inductive FloatValue
  | nan
  | negInfinity
  | finite (q : ℚ)
  | infinity

/-- A loaded value.  A document is a tree: two places that share one mutable node are not told
apart from two equal nodes.  An `int` has at most 4300 digits, the most that `str` prints.  A
`float` comes with its text, and a `datetime` with the texts of `str` and of `repr`. -/
inductive Value
  | none
  | bool (b : Bool)
  | int (n : ℤ)
  | float (value : FloatValue) (text : PyString)
  | str (s : PyString)
  | bytes (octets : List ℕ)
  | date (year month day : ℕ)
  | datetime (text source : PyString)
  | list (items : List Value)
  | set (items : List Value)
  | dict (entries : List (Value × Value))

def decimalZeros : List CodePoint :=
  [0x30, 0x660, 0x6F0, 0x7C0, 0x966, 0x9E6, 0xA66, 0xAE6, 0xB66, 0xBE6, 0xC66, 0xCE6, 0xD66, 0xDE6,
    0xE50, 0xED0, 0xF20, 0x1040, 0x1090, 0x17E0, 0x1810, 0x1946, 0x19D0, 0x1A80, 0x1A90, 0x1B50,
    0x1BB0, 0x1C40, 0x1C50, 0xA620, 0xA8D0, 0xA900, 0xA9D0, 0xA9F0, 0xAA50, 0xABF0, 0xFF10,
    0x104A0, 0x10D30, 0x11066, 0x110F0, 0x11136, 0x111D0, 0x112F0, 0x11450, 0x114D0, 0x11650,
    0x116C0, 0x11730, 0x118E0, 0x11950, 0x11C50, 0x11D50, 0x11DA0, 0x11F50, 0x16A60, 0x16AC0,
    0x16B50, 0x1D7CE, 0x1D7D8, 0x1D7E2, 0x1D7EC, 0x1D7F6, 0x1E140, 0x1E2F0, 0x1E4F0, 0x1E950,
    0x1FBF0]

def digitValue (c : CodePoint) : Option ℕ :=
  (decimalZeros.find? fun first => first ≤ c && c < first + 10).map (c - ·)

/-- Digits, with single underscores between them; `afterDigit` says what came before. -/
def readDigits : PyString → ℕ → Bool → Option ℕ
  | [], value, afterDigit => if afterDigit then some value else .none
  | c :: rest, value, afterDigit =>
    match digitValue c with
    | some d => readDigits rest (value * 10 + d) true
    | .none => if c = 0x5F ∧ afterDigit then readDigits rest value false else .none

/-- `int(text)`; `none` is the `ValueError`, which more than 4300 digits raise too. -/
def parseInt (text : PyString) : Option ℤ :=
  if 4300 < (text.filter fun c => (digitValue c).isSome).length then .none
  else
    match strip text with
    | 0x2D :: rest => (readDigits rest 0 false).map fun n => -(n : ℤ)
    | 0x2B :: rest => (readDigits rest 0 false).map fun n => (n : ℤ)
    | rest => (readDigits rest 0 false).map fun n => (n : ℤ)

/-- A number in decimal, padded with zeros to `width`. -/
def padded (width n : ℕ) : PyString :=
  List.replicate (width - (py (toString n)).length) 0x30 ++ py (toString n)

/-! ## Texts -/

def hexPair (c : ℕ) : PyString :=
  [c / 16 % 16, c % 16].map fun d => if d < 10 then 0x30 + d else 0x57 + d

def escaped (quote c : CodePoint) : PyString :=
  if c = 0x5C ∨ c = quote then [0x5C, c]
  else if c = 0x9 then py "\\t"
  else if c = 0xA then py "\\n"
  else if c = 0xD then py "\\r"
  else if c < 0x20 ∨ c = 0x7F then py "\\x" ++ hexPair c
  else [c]

/-- `repr` of a text. -/
def quoted (s : PyString) : PyString :=
  let quote : CodePoint := if 0x27 ∈ s ∧ 0x22 ∉ s then 0x22 else 0x27
  quote :: s.flatMap (escaped quote) ++ [quote]

/-- `repr` of an octet string. -/
def quotedOctets (octets : List ℕ) : PyString :=
  let quote : CodePoint := if 0x27 ∈ octets ∧ 0x22 ∉ octets then 0x22 else 0x27
  py "b" ++ quote ::
    octets.flatMap (fun c => if 0x80 ≤ c then py "\\x" ++ hexPair c else escaped quote c) ++ [quote]

namespace Value

mutual

/-- `repr(value)`. -/
def source : Value → PyString
  | .none => py "None"
  | .bool true => py "True"
  | .bool false => py "False"
  | .int n => py (toString n)
  | .float _ text => text
  | .str s => quoted s
  | .bytes octets => quotedOctets octets
  | .date year month day =>
    py "datetime.date(" ++ py (toString year) ++ py ", " ++ py (toString month) ++ py ", " ++
      py (toString day) ++ py ")"
  | .datetime _ source => source
  | .list items => py "[" ++ sources items ++ py "]"
  | .set [] => py "set()"
  | .set (item :: items) => py "\x7b" ++ sources (item :: items) ++ py "\x7d"
  | .dict entries => py "\x7b" ++ entrySources entries ++ py "\x7d"

def sources : List Value → PyString
  | [] => []
  | [item] => source item
  | item :: items => source item ++ py ", " ++ sources items

def entrySources : List (Value × Value) → PyString
  | [] => []
  | [(key, value)] => source key ++ py ": " ++ source value
  | (key, value) :: entries =>
    source key ++ py ": " ++ source value ++ py ", " ++ entrySources entries

end

/-- `str(value)`. -/
def text : Value → PyString
  | .str s => s
  | .date year month day =>
    padded 4 year ++ py "-" ++ padded 2 month ++ py "-" ++ padded 2 day
  | .datetime text _ => text
  | value => source value

@[simp] theorem text_str (s : PyString) : (Value.str s).text = s := rfl

/-! ## Truth, kinds and look-up -/

/-- `bool(value)`. -/
def truthy : Value → Bool
  | .none => false
  | .bool b => b
  | .int n => n != 0
  | .float (.finite q) _ => q != 0
  | .float _ _ => true
  | .str s => !s.isEmpty
  | .bytes octets => !octets.isEmpty
  | .date _ _ _ => true
  | .datetime _ _ => true
  | .list items => !items.isEmpty
  | .set items => !items.isEmpty
  | .dict entries => !entries.isEmpty

/-- `value or default`. -/
def orElse (value default : Value) : Value :=
  if value.truthy then value else default

/-- `value is None`. -/
def isNone : Value → Bool
  | .none => true
  | _ => false

/-- `value == text`. -/
def isText (value : Value) (s : PyString) : Bool :=
  match value with
  | .str t => decide (t = s)
  | _ => false

/-- The text that a value of type `str` is. -/
def str? : Value → Option PyString
  | .str s => some s
  | _ => Option.none

/-- The items of a value of type `list`. -/
def list? : Value → Option (List Value)
  | .list items => some items
  | _ => Option.none

/-- The entries of a value of type `dict`. -/
def dict? : Value → Option (List (Value × Value))
  | .dict entries => some entries
  | _ => Option.none

/-- The number that a value of type `int`, and not `bool`, is. -/
def int? : Value → Option ℤ
  | .int n => some n
  | _ => Option.none

/-- Whether `hash(value)` is defined. -/
def hashable : Value → Bool
  | .list _ => false
  | .set _ => false
  | .dict _ => false
  | _ => true

/-- What `for item in value` goes through; `none` is the `TypeError`. -/
def iterate : Value → Option (List Value)
  | .str s => some (s.map fun c => .str [c])
  | .bytes octets => some (octets.map fun n => .int n)
  | .list items => some items
  | .set items => some items
  | .dict entries => some (entries.map Prod.fst)
  | _ => Option.none

@[simp] theorem isText_str (s t : PyString) : (Value.str s).isText t = decide (s = t) := rfl

theorem isText_iff {value : Value} {s : PyString} :
    value.isText s = true ↔ value = .str s := by
  cases value <;> simp [isText]

end Value

/-- `entries.get(key)`. -/
def lookup (entries : List (Value × Value)) (key : PyString) : Option Value :=
  (entries.find? fun entry => entry.1.isText key).map Prod.snd

/-- `entries[key] = value`. -/
def setEntry (key : PyString) (value : Value) : List (Value × Value) → List (Value × Value)
  | [] => [(.str key, value)]
  | entry :: entries =>
    if entry.1.isText key then (entry.1, value) :: entries
    else entry :: setEntry key value entries

/-- `entries.pop(key, None)`. -/
def popEntry (key : PyString) (entries : List (Value × Value)) : List (Value × Value) :=
  entries.filter fun entry => !entry.1.isText key

section Entries

variable {entries : List (Value × Value)}

end Entries

namespace Value

/-! ## Conversion and comparison -/

inductive ConversionError
  | typeError
  | valueError
  | overflowError

/-- `int(value)`. -/
def toInt : Value → Except ConversionError ℤ
  | .bool b => .ok (if b then 1 else 0)
  | .int n => .ok n
  | .float (.finite q) _ => .ok (q.num.tdiv q.den)
  | .float .nan _ => .error .valueError
  | .float _ _ => .error .overflowError
  | .str s => (parseInt s).elim (.error .valueError) .ok
  | .bytes octets =>
    if octets.all (· < 0x80) then (parseInt octets).elim (.error .valueError) .ok
    else .error .valueError
  | _ => .error .typeError

def number? : Value → Option FloatValue
  | .bool b => some (.finite (if b then 1 else 0))
  | .int n => some (.finite n)
  | .float value _ => some value
  | _ => Option.none

end Value

/-- `<` of numbers. -/
def FloatValue.less : FloatValue → FloatValue → Bool
  | .nan, _ => false
  | _, .nan => false
  | .finite p, .finite q => decide (p < q)
  | .negInfinity, .negInfinity => false
  | .negInfinity, _ => true
  | .finite _, .infinity => true
  | _, _ => false

namespace Value

/-- Whether two values can be put in order: they are texts, numbers or dates.  Two values
`None` are equal, and are not compared further. -/
def comparable : Value → Value → Bool
  | .str _, .str _ => true
  | .date _ _ _, .date _ _ _ => true
  | .none, .none => true
  | a, b => a.number?.isSome && b.number?.isSome

/-- `a < b` of values that can be put in order. -/
def less : Value → Value → Bool
  | .str s, .str t => decide (s < t)
  | .date y m d, .date y' m' d' =>
    decide (y < y' ∨ y = y' ∧ (m < m' ∨ m = m' ∧ d < d'))
  | a, b =>
    match a.number?, b.number? with
    | some p, some q => p.less q
    | _, _ => false

end Value

end PyText
