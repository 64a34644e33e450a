import JsonTyping.Conversion

/-!
# Transforms

A transform is a named step that a value takes before it is checked. It yields a value, or no
value at all, or a reason why it refuses. Transforms are equal when their names are, so a name is
a claim of identity; transforms without a name of their own are told apart by a serial number.

The stock transforms come in two families. The coercible family converts loosely typed values. The
family for parameters treats the empty text, which is what an empty form field sends, as null or
as an empty container, and converts everything else in the same way.
-/

namespace JsonTyping

/-- A named step on values. -/
structure Transform where
  name : String
  /-- A value, no value, or the reason for refusing. -/
  apply : Value → Except String (Option Value)

namespace Transform

/-- Transforms are equal by name. -/
instance : BEq Transform := ⟨fun a b ↦ a.name == b.name⟩

/-- A transform that always yields a value. -/
def mapping (name : String) (f : Value → Value) : Transform :=
  ⟨name, fun v ↦ .ok (some (f v))⟩

/-- A transform that is equal to those with the same serial number only. -/
def anonymous (serial : Nat) (apply : Value → Except String (Option Value)) : Transform :=
  ⟨"fn#" ++ toString serial, apply⟩

/-- The text of a transform. -/
def text (t : Transform) : String := "Transform(" ++ diagnostic t.name ++ ")"

/-- The transform that converts, and refuses where the conversion does. -/
def ofConversion (name : String) (convert : Value → Except Refusal Value) : Transform :=
  ⟨name, fun v ↦ ((convert v).map some).mapError Refusal.message⟩

/-- Whether a value is the empty text. -/
def isEmptyText (v : Value) : Bool := v.string? == some ""

/-! ### The coercible family -/

/-- Scalars to text. -/
def toText : Transform := ofConversion "coercible.string" Conversion.string

/-- Numbers and numerals to integers. -/
def toInteger : Transform := ofConversion "coercible.integer" Conversion.integer

/-- Numbers and numerals to doubles. -/
def toFloat : Transform := ofConversion "coercible.float" Conversion.float

/-- Truth words, one and zero to truth values. -/
def toBool : Transform := ofConversion "coercible.bool" Conversion.boolean

/-- The empty text to null. -/
def toNil : Transform := mapping "coercible.nil" fun v ↦ if isEmptyText v then .null else v

/-- Anything to an array. -/
def toArray : Transform := ofConversion "coercible.array" Conversion.array

/-- Null to an empty object. -/
def toHash : Transform := ofConversion "coercible.hash" Conversion.hash

/-- Dates and timestamps to dates. -/
def toDate : Transform := ofConversion "coercible.date" Conversion.date

/-- Timestamps and seconds to timestamps of universal time. -/
def toDateTime : Transform := ofConversion "coercible.date_time" Conversion.timestamp

/-- Times of day to times with seconds. -/
def toTime : Transform := ofConversion "coercible.time" Conversion.time

/-- The empty text to no value. -/
def emptyToUndefined : Transform :=
  ⟨"empty_to_undefined", fun v ↦ .ok (if isEmptyText v then none else some v)⟩

/-! ### The family for parameters -/

/-- The transform that replaces the empty text and converts everything else. -/
def ofParameter (name : String) (blank : Value) (convert : Value → Except Refusal Value) :
    Transform :=
  ofConversion ("params." ++ name) fun v ↦ if isEmptyText v then .ok blank else convert v

/-- The empty text to null. -/
def paramsNil : Transform := ofParameter "nil" .null .ok

/-- Integers, and null for the empty text. -/
def paramsInteger : Transform := ofParameter "integer" .null Conversion.integer

/-- Doubles, and null for the empty text. -/
def paramsFloat : Transform := ofParameter "float" .null Conversion.float

/-- Truth values, and null for the empty text. -/
def paramsBool : Transform := ofParameter "bool" .null Conversion.boolean

/-- Dates, and null for the empty text. -/
def paramsDate : Transform := ofParameter "date" .null Conversion.date

/-- Timestamps, and null for the empty text. -/
def paramsDateTime : Transform := ofParameter "date_time" .null Conversion.timestamp

/-- Times of day, and null for the empty text. -/
def paramsTime : Transform := ofParameter "time" .null Conversion.time

/-- Arrays, with no item for the empty text. -/
def paramsArray : Transform := ofParameter "array" (.array []) Conversion.array

/-- Objects, with no entry for the empty text. -/
def paramsHash : Transform := ofParameter "hash" (.object []) Conversion.hash

end Transform

end JsonTyping
