import JsonTyping.Ty.Basic

/-!
# Equality of types

Types are equal when they have the same layers all the way down, whatever their annotations. The
declared keys of a schema may stand in any order; the branches of a sum, the predicates of a rule,
the steps of a coercion and the labels of an enum may not.
-/

namespace JsonTyping

/-- Whether a declared key is the same as another, its type being given as a test. -/
def Field.equals {α : Type} (field : Field (α → Bool)) (other : Field α) : Bool :=
  other.name == field.name && other.required == field.required && field.type other.type

/-- Whether a layer is the same as another, its parts being given as tests. -/
def Kind.equals {α : Type} : Kind (α → Bool) → Kind α → Bool
  | nominal p, nominal q => p == q
  | constrained wrapped rule, constrained other rule' => wrapped other && rule == rule'
  | coerced wrapped steps, coerced other steps' => wrapped other && steps == steps'
  | defaulted wrapped value, defaulted other value' => wrapped other && value == value'
  | lax wrapped, lax other => wrapped other
  | sum left right, sum left' right' => left left' && right right'
  | enum wrapped mapping, enum other mapping' => wrapped other && mapping == mapping'
  | array member, array other => member other
  | schema fields unknownKeys, schema others unknownKeys' =>
    matchUp (fields.map Field.equals) others && unknownKeys == unknownKeys'
  | dictionary key value, dictionary key' value' => key key' && value value'
  | _, _ => false

namespace Ty

/-- Whether a type is the same as another, annotations aside. -/
def equal (t : Ty) : Ty → Bool := t.fold fun k _ other ↦ k.equals other.kind

instance : BEq Ty := ⟨equal⟩

/-- Types are equal when their layers are the same over equal parts. -/
theorem equal_mk (k : Kind Ty) (notes : Annotations) (other : Ty) :
    equal ⟨k, notes⟩ other = (k.map equal).equals other.kind := by
  rw [equal, fold_mk]
  rfl

end Ty

end JsonTyping
