import JsonTyping.Calendar.Timestamp
import JsonTyping.Value.Basic

/-!
# Primitive kinds

The kinds that a value can be classified as. JSON has no dates and times of its own, so the three
calendar kinds classify strings. The kinds overlap: every integer is also a float, every date is
also a string, and everything is of the kind `any`.
-/

namespace JsonTyping

/-- A kind of value. -/
inductive Primitive where
  | any
  | nil
  | bool
  | integer
  | float
  | string
  | date
  | dateTime
  | time
  | array
  | hash
deriving DecidableEq, Repr

namespace Primitive

/-- Every kind. -/
def all : List Primitive :=
  [any, nil, bool, integer, float, string, date, dateTime, time, array, hash]

/-- The name of a kind. -/
def name : Primitive → String
  | any => "any"
  | nil => "nil"
  | bool => "bool"
  | integer => "integer"
  | float => "float"
  | string => "string"
  | date => "date"
  | dateTime => "date_time"
  | time => "time"
  | array => "array"
  | hash => "hash"

/-- The name of a kind after its indefinite article. -/
def withArticle (p : Primitive) : String :=
  match p with
  | any | array | integer => "an " ++ p.name
  | _ => "a " ++ p.name

/-- Whether a value is of a kind. -/
def accepts : Primitive → Value → Bool
  | any, _ => true
  | nil, .null => true
  | bool, .bool _ => true
  | integer, .number (.integer _) => true
  | float, .number _ => true
  | string, .string _ => true
  | date, .string s => (Layout.date.readDate s.toList).isOk
  | dateTime, .string s => (Timestamp.read? s.toList).isSome
  | time, .string s => (Layout.time.readClock s.toList).isOk
  | array, .array _ => true
  | hash, .object _ => true
  | _, _ => false

/-- The kind with exactly the given name. -/
def ofName? (name : String) : Option Primitive := all.find? (·.name == name)

/--
The kind with a name in which case does not matter. Lowering the ASCII letters is enough, since no
other character has a lower case that occurs in the names.
-/
def ofText? (s : String) : Option Primitive := ofName? (s.map Char.toLower)

@[simp]
theorem ofName?_name (p : Primitive) : ofName? p.name = some p := by
  cases p <;> decide

end Primitive

/-- A name that belongs to no kind. -/
structure UnknownPrimitive where
  name : String
deriving DecidableEq, Repr

/-- The wording of the error for an unknown name. -/
def UnknownPrimitive.message (e : UnknownPrimitive) : String :=
  "unknown primitive kind: '" ++ e.name ++ "'"

/-- Reads the name of a kind. -/
def Primitive.read (s : String) : Except UnknownPrimitive Primitive :=
  match Primitive.ofText? s with
  | some p => .ok p
  | none => .error ⟨s⟩

end JsonTyping
