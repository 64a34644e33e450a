import JsonTyping.Ty.Basic

/-!
# Looking into types

A decoration does not change what a type is a type of, so the views below look through decorations
to the *core*, the first layer that decorates nothing. The branches of a sum, the rule and the
labels belong to the outermost layer alone.
-/

namespace JsonTyping

/-- The primitive kind of what a layer yields, given the kinds of its parts. -/
def Kind.primitive : Kind Primitive → Primitive
  | nominal p => p
  | constrained wrapped _ | coerced wrapped _ | defaulted wrapped _ | lax wrapped
  | enum wrapped _ => wrapped
  | sum left right => if left = right then left else .any
  | array _ => .array
  | schema _ _ | dictionary _ _ => .hash

namespace Ty

/-- The primitive kind of what a type yields. -/
def primitive (t : Ty) : Primitive := t.fold fun k _ ↦ k.primitive

theorem primitive_mk (k : Kind Ty) (notes : Annotations) :
    primitive ⟨k, notes⟩ = (k.map primitive).primitive := fold_mk _ k notes

/-- The type inside all decorations. -/
def core : Ty → Ty
  | ⟨.constrained wrapped _, _⟩ => core wrapped
  | ⟨.coerced wrapped _, _⟩ => core wrapped
  | ⟨.defaulted wrapped _, _⟩ => core wrapped
  | ⟨.lax wrapped, _⟩ => core wrapped
  | ⟨.enum wrapped _, _⟩ => core wrapped
  | t => t

/-- The type that the outermost decoration wraps. -/
def wrapped? (t : Ty) : Option Ty := t.kind.wrapped?

/-- The type of the items of an array type. -/
def member? (t : Ty) : Option Ty :=
  match t.core.kind with
  | .array member => some member
  | _ => none

/-- The declared keys of a schema. -/
def fields? (t : Ty) : Option (List (Field Ty)) :=
  match t.core.kind with
  | .schema fields _ => some fields
  | _ => none

/-- The type of the keys of a dictionary. -/
def keyType? (t : Ty) : Option Ty :=
  match t.core.kind with
  | .dictionary key _ => some key
  | _ => none

/-- The type of the values of a dictionary. -/
def valueType? (t : Ty) : Option Ty :=
  match t.core.kind with
  | .dictionary _ value => some value
  | _ => none

/-- The branch of a sum that is tried first. -/
def left? (t : Ty) : Option Ty :=
  match t.kind with
  | .sum left _ => some left
  | _ => none

/-- The branch of a sum that is tried second. -/
def right? (t : Ty) : Option Ty :=
  match t.kind with
  | .sum _ right => some right
  | _ => none

/-- The rule of the outermost layer. -/
def rule? (t : Ty) : Option Rule :=
  match t.kind with
  | .constrained _ rule => some rule
  | _ => none

/-- The labels and raw values of an enum. -/
def mapping? (t : Ty) : Option (List (Value × Value)) :=
  match t.kind with
  | .enum _ mapping => some mapping
  | _ => none

end Ty

end JsonTyping
