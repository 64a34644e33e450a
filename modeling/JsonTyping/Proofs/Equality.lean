import JsonTyping.Ty.Equality

/-!
# Equality is reflexive

Equality is a test of its own at every level: entries of objects and declared keys of schemas may
stand in any order, both zeros are one number, predicates and transforms go by their names, and
annotations do not count. So the tests are coarser than identity, and what is left of identity is
that everything passes the test with itself. Where order does not matter this rests on
`matchUp_map_self`.
-/

namespace JsonTyping

/-- A double has the place on the number line that it has. -/
instance : ReflBEq Double where
  rfl := Double.beq_iff_position_eq.2 rfl

/-- Numbers of one form are compared in that form. -/
instance : ReflBEq Number where
  rfl {n} := by
    cases n with
    | integer n => exact beq_self_eq_true n.val
    | double d => exact beq_self_eq_true d

/-! ### Values -/

namespace Value

/-- Items are compared one by one, so it is enough that each of them equals itself. -/
theorem equalItems_self {xs : List Value} (self : ∀ x ∈ xs, equal x x = true) :
    equalItems xs xs = true := by
  induction xs with
  | nil => rfl
  | cons x xs ih =>
    rw [equalItems, self x List.mem_cons_self, ih fun y mem ↦ self y (List.mem_cons_of_mem _ mem)]
    rfl

/-- Every entry passes its own test, and `matchUp_map_self` does not ask which one is taken. -/
theorem equalEntries_self {es : List (String × Value)} (self : ∀ e ∈ es, equal e.2 e.2 = true) :
    equalEntries es es = true := by
  rw [equalEntries_eq_matchUp]
  refine matchUp_map_self fun e mem ↦ ?_
  rw [isMatch, self e mem, beq_self_eq_true]
  rfl

/-- Every value equals itself. No number is left out, because there is no double that is not a
number. -/
theorem equal_self (v : Value) : equal v v = true := by
  induction v using Value.induction with
  | null => rfl
  | bool b => exact beq_self_eq_true b
  | number n => exact beq_self_eq_true n
  | string s => exact beq_self_eq_true s
  | array xs ih => exact equalItems_self ih
  | object es ih => exact equalEntries_self ih

instance : ReflBEq Value := ⟨equal_self _⟩

end Value

/-! ### Predicates and transforms -/

/-- Only the name and the arguments of a predicate are compared, and never its test. -/
instance : ReflBEq Predicate where
  rfl {p} := by
    show (p.isCustom == p.isCustom && p.name == p.name && p.args == p.args) = true
    simp only [beq_self_eq_true, Bool.and_self]

/-- Of a transform only the name is compared. -/
instance : ReflBEq Transform where
  rfl {t} := beq_self_eq_true t.name

/-! ### Types -/

namespace Ty

/-- Every type equals itself. The declared keys of a schema are matched up like the entries of an
object. -/
theorem equal_self (t : Ty) : equal t t = true := by
  induction t using Ty.induction with
  | nominal p => exact beq_self_eq_true p
  | constrained _ _ _ ih | coerced _ _ _ ih | defaulted _ _ _ ih | enum _ _ _ ih =>
    rw [equal_mk, Kind.map, Kind.equals, ih, beq_self_eq_true]
    rfl
  | lax _ _ ih | array _ _ ih => exact ih
  | sum _ _ _ left right =>
    rw [equal_mk, Kind.map, Kind.equals, left, right]
    rfl
  | dictionary _ _ _ key value =>
    rw [equal_mk, Kind.map, Kind.equals, key, value]
    rfl
  | schema fields unknownKeys notes ih =>
    rw [equal_mk, Kind.map, Kind.equals, List.map_map, beq_self_eq_true, Bool.and_true]
    refine matchUp_map_self fun field mem ↦ ?_
    show (field.name == field.name && field.required == field.required &&
      equal field.type field.type) = true
    rw [beq_self_eq_true, beq_self_eq_true, ih field mem]
    rfl

instance : ReflBEq Ty := ⟨equal_self _⟩

/-! ### Equality by outermost layers -/

section Layers

variable (t s left left' right right' : Ty) (notes notes' : Annotations)

/-- Rules are equal predicate by predicate, in their order. -/
@[simp]
theorem constrained_beq (rule rule' : Rule) :
    ((⟨.constrained t rule, notes⟩ : Ty) == ⟨.constrained s rule', notes'⟩) =
      (t == s && rule == rule') := equal_mk _ _ _

/-- Transforms are equal name by name, in their order. -/
@[simp]
theorem coerced_beq (steps steps' : List Transform) :
    ((⟨.coerced t steps, notes⟩ : Ty) == ⟨.coerced s steps', notes'⟩) =
      (t == s && steps == steps') := equal_mk _ _ _

/-- Defaults are equal as values. -/
@[simp]
theorem defaulted_beq (value value' : Value) :
    ((⟨.defaulted t value, notes⟩ : Ty) == ⟨.defaulted s value', notes'⟩) =
      (t == s && value == value') := equal_mk _ _ _

@[simp]
theorem lax_beq : ((⟨.lax t, notes⟩ : Ty) == ⟨.lax s, notes'⟩) = (t == s) := equal_mk _ _ _

/-- The order of the branches counts. -/
@[simp]
theorem sum_beq :
    ((⟨.sum left right, notes⟩ : Ty) == ⟨.sum left' right', notes'⟩) =
      (left == left' && right == right') := equal_mk _ _ _

/-- Labels and raw values are equal pair by pair, in their order. -/
@[simp]
theorem enum_beq (mapping mapping' : List (Value × Value)) :
    ((⟨.enum t mapping, notes⟩ : Ty) == ⟨.enum s mapping', notes'⟩) =
      (t == s && mapping == mapping') := equal_mk _ _ _

end Layers

end Ty

end JsonTyping
