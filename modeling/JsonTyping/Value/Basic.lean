import JsonTyping.Entries
import JsonTyping.Matching
import JsonTyping.Number

/-!
# JSON values

A value is null, a truth value, a number, a string, an array, or an object whose entries keep
their order. Equality of values (`==`) ignores that order: two objects are equal when the entries
of one can be matched with those of the other, key by key and value by value. Numbers are equal
only within one form, see `JsonTyping.Number`.

The keys of an object are meant to be distinct. `Value.Distinct` says so of a value and of
everything inside it; values read from text and values built by insertion have the property.
-/

namespace JsonTyping

/-- A JSON value. -/
inductive Value where
  | null
  | bool (b : Bool)
  | number (n : Number)
  | string (s : String)
  | array (items : List Value)
  | object (entries : List (String × Value))

namespace Value

instance : Inhabited Value := ⟨null⟩

/-- What holds of a value if it holds of the items or entries in it holds of all values. -/
theorem induction {P : Value → Prop} (null : P null) (bool : ∀ b, P (bool b))
    (number : ∀ n, P (number n)) (string : ∀ s, P (string s))
    (array : ∀ xs, (∀ x ∈ xs, P x) → P (array xs))
    (object : ∀ es, (∀ e ∈ es, P e.2) → P (object es)) (v : Value) : P v :=
  go v
where
  go : (v : Value) → P v
    | .null => null
    | .bool b => bool b
    | .number n => number n
    | .string s => string s
    | .array xs => array xs (goItems xs)
    | .object es => object es (goEntries es)
  goItems : (xs : List Value) → ∀ x ∈ xs, P x
    | [], _, mem => by cases mem
    | x :: xs, y, mem => by
      cases mem with
      | head => exact go x
      | tail _ mem => exact goItems xs y mem
  goEntries : (es : List (String × Value)) → ∀ e ∈ es, P e.2
    | [], _, mem => by cases mem
    | (_, value) :: es, e, mem => by
      cases mem with
      | head => exact go value
      | tail _ mem => exact goEntries es e mem

/-! ### Equality -/

mutual

/-- Whether two values are equal, the order of object entries aside. -/
def equal : Value → Value → Bool
  | null, null => true
  | bool a, bool b => a == b
  | number m, number n => m == n
  | string s, string t => s == t
  | array xs, array ys => equalItems xs ys
  | object es, object fs => equalEntries es fs
  | _, _ => false

/-- Whether two lists of values are equal item by item. -/
def equalItems : List Value → List Value → Bool
  | [], [] => true
  | x :: xs, y :: ys => equal x y && equalItems xs ys
  | _, _ => false

/-- Whether the entries of one object can be matched with those of another. -/
def equalEntries : List (String × Value) → List (String × Value) → Bool
  | [], fs => fs.isEmpty
  | (key, value) :: es, fs =>
    let isMatch := fun f : String × Value ↦ f.1 == key && equal value f.2
    fs.any isMatch && equalEntries es (fs.eraseP isMatch)

end

instance : BEq Value := ⟨equal⟩

/-- Whether an entry is the one that a given entry is matched with. -/
def isMatch (entry other : String × Value) : Bool := other.1 == entry.1 && equal entry.2 other.2

theorem equalEntries_eq_matchUp (es fs : List (String × Value)) :
    equalEntries es fs = matchUp (es.map isMatch) fs := by
  induction es generalizing fs with
  | nil => rfl
  | cons e es ih =>
    rw [List.map_cons, matchUp, ← ih]
    rfl

/-! ### Distinct keys -/

mutual

/-- No object in the value holds a key twice. -/
def Distinct : Value → Prop
  | array xs => DistinctItems xs
  | object es => (Entries.keys es).Nodup ∧ DistinctEntries es
  | _ => True

/-- No object in the values holds a key twice. -/
def DistinctItems : List Value → Prop
  | [] => True
  | x :: xs => Distinct x ∧ DistinctItems xs

/-- No object in the values of the entries holds a key twice. -/
def DistinctEntries : List (String × Value) → Prop
  | [] => True
  | (_, value) :: es => Distinct value ∧ DistinctEntries es

end

/-! ### Views and construction -/

/-- The integer as a value, if it is a JSON integer. -/
def ofInt? (n : Int) : Option Value := (Integer.ofInt? n).map fun n ↦ number (.integer n)

theorem ofInt?_eq_some_iff {m : Int} {v : Value} :
    ofInt? m = some v ↔ ∃ n : Integer, v = number (.integer n) ∧ n.val = m := by
  simp only [ofInt?, Option.map_eq_some_iff, Integer.ofInt?_eq_some_iff]
  constructor
  · rintro ⟨n, same, rfl⟩
    exact ⟨n, rfl, same⟩
  · rintro ⟨n, rfl, same⟩
    exact ⟨n, same, rfl⟩

/-- An unsigned word as a value. -/
def ofUInt64 (n : UInt64) : Value := number (.integer (.ofUInt64 n))

/-- The text of a string value. -/
def string? : Value → Option String
  | string s => some s
  | _ => none

/-- The number of a number value. -/
def number? : Value → Option Number
  | number n => some n
  | _ => none

/-- The value as an integer of the signed 64-bit range, if it is one. -/
def signed? (v : Value) : Option Int := v.number?.bind Number.signed?

/-- How many characters, items or entries a value has, if it is made of such. -/
def size? : Value → Option Nat
  | string s => some s.length
  | array xs => some xs.length
  | object es => some es.length
  | _ => none

/-- Whether a value is null or has nothing in it. -/
def isEmpty : Value → Bool
  | null => true
  | string s => s.isEmpty
  | array xs => xs.isEmpty
  | object es => es.isEmpty
  | _ => false

end Value

end JsonTyping
