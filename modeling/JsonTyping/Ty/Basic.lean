import JsonTyping.Failure
import JsonTyping.Matching
import JsonTyping.Transform

/-!
# Types

A type is a tree. One layer of it is a `Kind`, in which the places of the types below are filled
with anything at all; a `Ty` is a kind over types, together with annotations that no check looks
at.

Most functions on types are folds: they say what to make of one layer whose parts are done, and
`Ty.fold` carries that through the tree. `Ty.fold_mk` is the only equation needed about it, and
`Ty.induction` the matching principle of proof.
-/

namespace JsonTyping

/-- What a schema does with keys that it does not declare. -/
inductive UnknownKeys where
  /-- They are dropped. -/
  | ignore
  /-- Each of them is an error. -/
  | reject
  /-- They are kept as they are. -/
  | preserve
deriving DecidableEq, Repr

/-- A declared key of a schema. -/
structure Field (α : Type) where
  name : String
  type : α
  /-- Whether the key has to be there, or to be filled in. -/
  required : Bool

/-- The same key over another part. -/
def Field.map {α β : Type} (f : α → β) (field : Field α) : Field β :=
  ⟨field.name, f field.type, field.required⟩

/-- One layer of a type over parts `α`. -/
inductive Kind (α : Type) where
  /-- The values of a primitive kind. -/
  | nominal (p : Primitive)
  /-- The wrapped type, with a rule on what it yields. -/
  | constrained (wrapped : α) (rule : Rule)
  /-- The wrapped type, with transforms that the input goes through first, in order. -/
  | coerced (wrapped : α) (steps : List Transform)
  /-- The wrapped type, with a value for undefined input. -/
  | defaulted (wrapped : α) (value : Value)
  /-- The wrapped type without failures. -/
  | lax (wrapped : α)
  /-- The left type where it accepts, the right type elsewhere. -/
  | sum (left right : α)
  /-- The wrapped type on labels; a raw value stands for its label. -/
  | enum (wrapped : α) (mapping : List (Value × Value))
  /-- The arrays of members. -/
  | array (member : α)
  /-- The objects with declared keys. -/
  | schema (fields : List (Field α)) (unknownKeys : UnknownKeys)
  /-- The objects with uniform keys and values. -/
  | dictionary (key value : α)

/-- Annotations of a type, in order. -/
abbrev Annotations := Entries Value

/-- A type: a layer over types, and annotations. -/
structure Ty where
  kind : Kind Ty
  annotations : Annotations

namespace Kind

variable {α β γ : Type}

/-- The layer with its parts replaced. -/
def map (f : α → β) : Kind α → Kind β
  | nominal p => nominal p
  | constrained wrapped rule => constrained (f wrapped) rule
  | coerced wrapped steps => coerced (f wrapped) steps
  | defaulted wrapped value => defaulted (f wrapped) value
  | lax wrapped => lax (f wrapped)
  | sum left right => sum (f left) (f right)
  | enum wrapped mapping => enum (f wrapped) mapping
  | array member => array (f member)
  | schema fields unknownKeys => schema (fields.map (Field.map f)) unknownKeys
  | dictionary key value => dictionary (f key) (f value)

/-- The part that a decoration wraps; the other layers decorate nothing. -/
def wrapped? : Kind α → Option α
  | constrained wrapped _ | coerced wrapped _ | defaulted wrapped _ | lax wrapped
  | enum wrapped _ => some wrapped
  | _ => none

/-- The same decoration around another part; other layers are left alone. -/
def rewrap (k : Kind α) (inner : α) : Kind α :=
  match k with
  | constrained _ rule => constrained inner rule
  | coerced _ steps => coerced inner steps
  | defaulted _ value => defaulted inner value
  | lax _ => lax inner
  | enum _ mapping => enum inner mapping
  | k => k

theorem map_map (f : α → β) (g : β → γ) (k : Kind α) : (k.map f).map g = k.map (g ∘ f) := by
  cases k <;> simp [map, Field.map, Function.comp_def]

end Kind

namespace Ty

/-! ### Induction and folds -/

/-- What holds of a type if it holds of its parts holds of all types. -/
theorem induction {P : Ty → Prop}
    (nominal : ∀ p notes, P ⟨.nominal p, notes⟩)
    (constrained : ∀ wrapped rule notes, P wrapped → P ⟨.constrained wrapped rule, notes⟩)
    (coerced : ∀ wrapped steps notes, P wrapped → P ⟨.coerced wrapped steps, notes⟩)
    (defaulted : ∀ wrapped value notes, P wrapped → P ⟨.defaulted wrapped value, notes⟩)
    (lax : ∀ wrapped notes, P wrapped → P ⟨.lax wrapped, notes⟩)
    (sum : ∀ left right notes, P left → P right → P ⟨.sum left right, notes⟩)
    (enum : ∀ wrapped mapping notes, P wrapped → P ⟨.enum wrapped mapping, notes⟩)
    (array : ∀ member notes, P member → P ⟨.array member, notes⟩)
    (schema : ∀ fields unknownKeys notes, (∀ field ∈ fields, P field.type) →
      P ⟨.schema fields unknownKeys, notes⟩)
    (dictionary : ∀ key value notes, P key → P value → P ⟨.dictionary key value, notes⟩)
    (t : Ty) : P t :=
  go t
where
  go : (t : Ty) → P t
    | ⟨.nominal p, notes⟩ => nominal p notes
    | ⟨.constrained wrapped rule, notes⟩ => constrained wrapped rule notes (go wrapped)
    | ⟨.coerced wrapped steps, notes⟩ => coerced wrapped steps notes (go wrapped)
    | ⟨.defaulted wrapped value, notes⟩ => defaulted wrapped value notes (go wrapped)
    | ⟨.lax wrapped, notes⟩ => lax wrapped notes (go wrapped)
    | ⟨.sum left right, notes⟩ => sum left right notes (go left) (go right)
    | ⟨.enum wrapped mapping, notes⟩ => enum wrapped mapping notes (go wrapped)
    | ⟨.array member, notes⟩ => array member notes (go member)
    | ⟨.schema fields unknownKeys, notes⟩ => schema fields unknownKeys notes (goFields fields)
    | ⟨.dictionary key value, notes⟩ => dictionary key value notes (go key) (go value)
  goFields : (fields : List (Field Ty)) → ∀ field ∈ fields, P field.type
    | [], _, mem => by cases mem
    | ⟨_, type, _⟩ :: fields, field, mem => by
      cases mem with
      | head => exact go type
      | tail _ mem => exact goFields fields field mem

variable {α : Type}

mutual

/-- Works through a type from below: a layer is done when its parts are. -/
def fold (layer : Kind α → Annotations → α) : Ty → α
  | ⟨.nominal p, notes⟩ => layer (.nominal p) notes
  | ⟨.constrained wrapped rule, notes⟩ => layer (.constrained (fold layer wrapped) rule) notes
  | ⟨.coerced wrapped steps, notes⟩ => layer (.coerced (fold layer wrapped) steps) notes
  | ⟨.defaulted wrapped value, notes⟩ => layer (.defaulted (fold layer wrapped) value) notes
  | ⟨.lax wrapped, notes⟩ => layer (.lax (fold layer wrapped)) notes
  | ⟨.sum left right, notes⟩ => layer (.sum (fold layer left) (fold layer right)) notes
  | ⟨.enum wrapped mapping, notes⟩ => layer (.enum (fold layer wrapped) mapping) notes
  | ⟨.array member, notes⟩ => layer (.array (fold layer member)) notes
  | ⟨.schema fields unknownKeys, notes⟩ =>
    layer (.schema (foldFields layer fields) unknownKeys) notes
  | ⟨.dictionary key value, notes⟩ =>
    layer (.dictionary (fold layer key) (fold layer value)) notes

/-- Works through the types of declared keys. -/
def foldFields (layer : Kind α → Annotations → α) : List (Field Ty) → List (Field α)
  | [] => []
  | ⟨name, type, required⟩ :: fields =>
    ⟨name, fold layer type, required⟩ :: foldFields layer fields

end

theorem foldFields_eq_map (layer : Kind α → Annotations → α) (fields : List (Field Ty)) :
    foldFields layer fields = fields.map (Field.map (fold layer)) := by
  induction fields with
  | nil => rfl
  | cons field fields ih => simp [foldFields, Field.map, ih]

/-- A fold does a layer after its parts. -/
theorem fold_mk (layer : Kind α → Annotations → α) (k : Kind Ty) (notes : Annotations) :
    fold layer ⟨k, notes⟩ = layer (k.map (fold layer)) notes := by
  cases k <;> simp [fold, Kind.map, foldFields_eq_map]

/-! ### Simple types -/

/-- A type without annotations. -/
def ofKind (k : Kind Ty) : Ty := ⟨k, []⟩

/-- The type of a primitive kind. -/
def nominal (p : Primitive) : Ty := ofKind (.nominal p)

/-- The left type where it accepts, the right type elsewhere. -/
def sum (left right : Ty) : Ty := ofKind (.sum left right)

/-- Null or the type. -/
def optional (t : Ty) : Ty := sum (nominal .nil) t

/-- The arrays of the type. -/
def array (t : Ty) : Ty := ofKind (.array t)

/-- The objects whose keys and values are of given types. -/
def dictionary (key value : Ty) : Ty := ofKind (.dictionary key value)

/-- The type with another layer on top and the same annotations. -/
def withKind (t : Ty) (k : Kind Ty) : Ty := ⟨k, t.annotations⟩

/-- The type with one annotation more. -/
def annotate (t : Ty) (key : String) (value : Value) : Ty :=
  ⟨t.kind, t.annotations.insert key value⟩

/-- The type without its own annotations; those of its parts stay. -/
def pristine (t : Ty) : Ty := ofKind t.kind

/-- Whether the layer on top is a rule. -/
def isConstrained (t : Ty) : Bool := t.kind matches .constrained ..

/-- Whether the layer on top is a default. -/
def isDefaulted (t : Ty) : Bool := t.kind matches .defaulted ..

/-- Whether the layer on top takes failures away. -/
def isLax (t : Ty) : Bool := t.kind matches .lax _

/-- Whether the layer on top is an enum. -/
def isEnum (t : Ty) : Bool := t.kind matches .enum ..

/-- Whether the layer on top is the primitive kind of null. -/
def isNil (t : Ty) : Bool := t.kind matches .nominal .nil

/-- Whether the type is null or another type. -/
def isOptional (t : Ty) : Bool :=
  match t.kind with
  | .sum left _ => left.isNil
  | _ => false

section Tests

variable {t : Ty}

theorem isDefaulted_iff :
    t.isDefaulted = true ↔ ∃ wrapped value, t.kind = .defaulted wrapped value := by
  obtain ⟨k, notes⟩ := t
  cases k <;> simp [isDefaulted]

theorem isLax_iff : t.isLax = true ↔ ∃ wrapped, t.kind = .lax wrapped := by
  obtain ⟨k, notes⟩ := t
  cases k <;> simp [isLax]

theorem isNil_iff : t.isNil = true ↔ t.kind = .nominal .nil := by
  rw [isNil]
  split <;> simp_all

theorem isOptional_iff :
    t.isOptional = true ↔ ∃ left right, t.kind = .sum left right ∧ left.isNil = true := by
  obtain ⟨k, notes⟩ := t
  cases k <;> simp [isOptional]

end Tests

end Ty

end JsonTyping
