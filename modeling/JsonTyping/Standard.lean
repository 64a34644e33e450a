import JsonTyping.Ty.Building

/-!
# Standard types

Three families with one type for each primitive kind. The strict types accept only values that are
already of their kind. The coercible types convert loosely typed values first. The types for
parameters do the same for form input, in which the empty text means that a field is blank; a
blank scalar becomes null, which only a type that allows null accepts.
-/

namespace JsonTyping.Standard

/-- The type that accepts the values of a kind as they are. -/
def strict (p : Primitive) : Ty := Ty.strictly p

/-- The transform of the coercible type of a kind; the kind of everything has none. -/
def coercion? : Primitive → Option Transform
  | .any => none
  | .nil => some .toNil
  | .bool => some .toBool
  | .integer => some .toInteger
  | .float => some .toFloat
  | .string => some .toText
  | .date => some .toDate
  | .dateTime => some .toDateTime
  | .time => some .toTime
  | .array => some .toArray
  | .hash => some .toHash

/-- The transform of the parameter type of a kind; text needs none, because parameters are text. -/
def parameterCoercion? : Primitive → Option Transform
  | .any => none
  | .string => none
  | .nil => some .paramsNil
  | .bool => some .paramsBool
  | .integer => some .paramsInteger
  | .float => some .paramsFloat
  | .date => some .paramsDate
  | .dateTime => some .paramsDateTime
  | .time => some .paramsTime
  | .array => some .paramsArray
  | .hash => some .paramsHash

/-- The type that converts loosely typed values to a kind. -/
def coercible? (p : Primitive) : Option Ty := (coercion? p).map (Ty.nominal p).coerce

/-- The type that converts form input to a kind. -/
def parameter? (p : Primitive) : Option Ty := (parameterCoercion? p).map (Ty.nominal p).coerce

end JsonTyping.Standard
