import JsonTyping.Ty.Check
import JsonTyping.Ty.Introspection

/-!
# Building types

The operations that make types from types. Those that narrow a type go to the layer they are
about: predicates are put inside decorations, so that a coercion still runs before the rule and a
default is checked against the rule, and a policy for unknown keys is put on the schema.

Operations that can fail say why with a `DefinitionError`.
-/

namespace JsonTyping

/-- The narrowest primitive kind that a value belongs to by its form. -/
def Value.primitive : Value → Primitive
  | .null => .nil
  | .bool _ => .bool
  | .number (.double _) => .float
  | .number (.integer _) => .integer
  | .string _ => .string
  | .array _ => .array
  | .object _ => .hash

/-! ### Enums -/

namespace EnumMapping

/-- The first reason why pairs cannot follow the earlier pairs of a mapping. -/
def conflict? (earlier : EnumMapping) : EnumMapping → Option DefinitionError
  | [] => none
  | (label, raw) :: rest =>
    if earlier.any fun pair ↦ pair.1 == label then some (.duplicateLabel label)
    else
      match earlier.find? fun pair ↦ pair.2 == raw with
      | some (first, _) => some (.sharedRawValue raw first label)
      | none => conflict? (earlier ++ [(label, raw)]) rest

end EnumMapping

namespace Ty

/-- The enum of a mapping over a type; no label and no raw value may occur twice. -/
def ofMapping (t : Ty) (mapping : EnumMapping) : Except DefinitionError Ty :=
  match EnumMapping.conflict? [] mapping with
  | some error => .error error
  | none => .ok (ofKind (.enum t mapping))

/-! ### Decorations -/

/-- Sends the input through a transform first, ahead of any that the type already has. -/
def coerce (t : Ty) (step : Transform) : Ty :=
  match t.kind with
  | .coerced wrapped steps => t.withKind (.coerced wrapped (step :: steps))
  | _ => ofKind (.coerced t [step])

/-- Yields a value for undefined input; the type has to accept the value and must be no enum. -/
def withDefault (t : Ty) (value : Value) : Except DefinitionError Ty :=
  if t.isEnum then .error .defaultAfterEnum
  else
    match t.check value with
    | .ok _ => .ok (ofKind (.defaulted t value))
    | .error failure => .error (.invalidDefault value failure.error)

/--
Narrows a type by predicates on what it yields. Predicates are added to the rule that is there,
or else go inside all decorations; those on an optional type concern the values that are not null;
and a default is checked once more.
-/
def constrain (ps : List Predicate) : Ty → Except DefinitionError Ty
  | ⟨.constrained wrapped rule, notes⟩ => .ok ⟨.constrained wrapped (rule ++ ps), notes⟩
  | ⟨.coerced wrapped steps, notes⟩ => do
    let wrapped ← constrain ps wrapped
    .ok ⟨.coerced wrapped steps, notes⟩
  | ⟨.defaulted wrapped value, notes⟩ => do
    let wrapped ← constrain ps wrapped
    let narrowed ← wrapped.withDefault value
    .ok ⟨narrowed.kind, notes⟩
  | ⟨.lax wrapped, notes⟩ => do
    let wrapped ← constrain ps wrapped
    .ok ⟨.lax wrapped, notes⟩
  | ⟨.enum wrapped mapping, notes⟩ => do
    let wrapped ← constrain ps wrapped
    .ok ⟨.enum wrapped mapping, notes⟩
  | ⟨.sum left right, notes⟩ =>
    if left.isNil then do
      let right ← constrain ps right
      .ok ⟨(optional right).kind, notes⟩
    else
      .ok (ofKind (.constrained ⟨.sum left right, notes⟩ ps))
  | t => .ok (ofKind (.constrained t ps))

/-- Restricts a type to the labels of a mapping, which their raw values stand for. -/
def enumerate (t : Ty) (mapping : EnumMapping) : Except DefinitionError Ty := do
  (← constrain [.includedIn mapping.labels] t).ofMapping mapping

/-- Restricts a type to labels that stand for themselves. -/
def enumeration (t : Ty) (labels : List Value) : Except DefinitionError Ty :=
  t.enumerate (labels.map fun label ↦ (label, label))

/-! ### Lax types -/

/-- Takes the rules and the laxness out of a type, everywhere in it. -/
def strip (t : Ty) : Ty := t.fold fun k notes ↦
  match k with
  | .constrained wrapped _ => wrapped
  | .lax wrapped => wrapped
  | k => ⟨k, notes⟩

/-- The type without rules and without failures. -/
def toLax (t : Ty) : Ty := if t.isLax then t else t.withKind (.lax t.strip)

theorem toLax_of_isLax {t : Ty} (lax : t.isLax = true) : t.toLax = t := if_pos lax

theorem toLax_of_strict {t : Ty} (strict : t.isLax = false) :
    t.toLax = t.withKind (.lax t.strip) := if_neg (Bool.eq_false_iff.1 strict)

theorem isLax_toLax (t : Ty) : t.toLax.isLax = true := by
  cases lax : t.isLax with
  | false => rw [toLax_of_strict lax]; rfl
  | true => rw [toLax_of_isLax lax, lax]

/-! ### Schemas -/

/-- A declared key by its written name, in which a question mark at the end means optional. -/
def fieldOfName (name : String) (type : Ty) : Field Ty :=
  match name.toList.reverse with
  | '?' :: rest => ⟨String.ofList rest.reverse, type, false⟩
  | _ => ⟨name, type, true⟩

/-- Declares a key, in the place of an earlier declaration of the same name if there is one. -/
def declare (field : Field Ty) : List (Field Ty) → List (Field Ty)
  | [] => [field]
  | other :: fields =>
    if other.name = field.name then field :: fields else other :: declare field fields

/-- Declares keys one after the other. -/
def declareAll (fields added : List (Field Ty)) : List (Field Ty) :=
  added.foldl (fun fields field ↦ declare field fields) fields

/-- The schema of declared keys; of several declarations of one name the last counts. -/
def ofFields (fields : List (Field Ty)) (unknownKeys : UnknownKeys) : Ty :=
  ofKind (.schema (declareAll [] fields) unknownKeys)

/-- The schema of types under written names, which drops the keys that it does not declare. -/
def schema (named : List (String × Ty)) : Ty :=
  ofFields (named.map fun (name, type) ↦ fieldOfName name type) .ignore

/-- Changes the layer inside all decorations. -/
def mapCore (change : Kind Ty → Kind Ty) : Ty → Ty
  | ⟨.constrained wrapped rule, notes⟩ => ⟨.constrained (mapCore change wrapped) rule, notes⟩
  | ⟨.coerced wrapped steps, notes⟩ => ⟨.coerced (mapCore change wrapped) steps, notes⟩
  | ⟨.defaulted wrapped value, notes⟩ => ⟨.defaulted (mapCore change wrapped) value, notes⟩
  | ⟨.lax wrapped, notes⟩ => ⟨.lax (mapCore change wrapped), notes⟩
  | ⟨.enum wrapped mapping, notes⟩ => ⟨.enum (mapCore change wrapped) mapping, notes⟩
  | ⟨k, notes⟩ => ⟨change k, notes⟩

/-- Changes the policy for the keys that a schema does not declare; other types stay the same. -/
def withUnknownKeys (t : Ty) (unknownKeys : UnknownKeys) : Ty :=
  t.mapCore fun
    | .schema fields _ => .schema fields unknownKeys
    | k => k

/-- Makes a schema reject the keys that it does not declare. -/
def strict (t : Ty) : Ty := t.withUnknownKeys .reject

/-- Declares the keys of a second schema on top of those of a first. -/
def merge? (t other : Ty) : Option Ty :=
  match t.kind, other.kind with
  | .schema fields unknownKeys, .schema added _ =>
    some (t.withKind (.schema (declareAll fields added) unknownKeys))
  | _, _ => none

/-- The outermost decoration of a type around another type, if there is one. -/
def rewrap? (t inner : Ty) : Option Ty :=
  t.kind.wrapped?.map fun _ ↦ ofKind (t.kind.rewrap inner)

/-! ### Types of single values -/

/-- A primitive kind with a rule. -/
def ruled (p : Primitive) (predicate : Predicate) : Ty :=
  ofKind (.constrained (nominal p) [predicate])

/-- A primitive kind whose test is also recorded as a rule. -/
def strictly (p : Primitive) : Ty := ruled p (.kind p)

/-- The type of the values that equal a value. -/
def ofValue (v : Value) : Ty := ruled v.primitive (.equals v)

/-- The type of a constant, which differs from that of a value in the predicate it records. -/
def ofConstant (v : Value) : Ty := ruled v.primitive (.identical v)

end Ty

end JsonTyping
