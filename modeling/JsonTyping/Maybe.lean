import JsonTyping.Ty.Building

/-!
# Values that may be absent

A `Maybe` wraps the sum of null and a type and speaks of absence by `none`: undefined input, null
input and null output all mean that there is no value.
-/

namespace JsonTyping

/-- A sum of null and a type, read as an optional value. -/
structure Maybe where
  type : Ty

/-- The type with absence. -/
def Ty.maybe (t : Ty) : Maybe := ⟨t.optional⟩

namespace Maybe

/-- Reads null as absence. -/
def present? : Value → Option Value
  | .null => none
  | v => some v

/-- Checks a value if there is one. -/
def call (m : Maybe) : Option Value → Except TypeError (Option Value)
  | none => .ok none
  | some .null => .ok none
  | some v => (m.type.check v).mapError Failure.error |>.map present?

/-- Checks a value if there is one; a failure is absence too. -/
def call? (m : Maybe) (input : Option Value) : Option Value := (m.call input).toOption.join

/-- Checks a value if there is one and applies a function to what comes out. -/
def map {α : Type} (m : Maybe) (input : Option Value) (f : Value → α) :
    Except TypeError (Option α) :=
  (m.call input).map (Option.map f)

end Maybe

end JsonTyping
