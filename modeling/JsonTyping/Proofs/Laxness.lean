import JsonTyping.Proofs.Equality
import JsonTyping.Proofs.Filtering
import JsonTyping.Proofs.Narrowing

/-!
# Lax types

A lax type has no rules and turns every failure into what is left of the input. A run of it
therefore always succeeds, with a value or without one; and since a missing value is an error at the
top, checking a value fails exactly if the lax type filters it (`toLax_outcome`).

The lax version of a type does not depend on the predicates that were put on the type
(`Narrows.strip_beq`), with one exception. A lax type is taken to be stripped and is left as it is,
but predicates can be put on it afterwards, inside of the laxness, and there they stay
(`constrain_toLax_beq_iff`).
-/

namespace JsonTyping.Ty

variable {t u : Ty} {ps : List Predicate}

/-! ### Runs of lax types -/

theorem exists_run_eq_ok_of_isLax (lax : t.isLax = true) (input : Option Value) :
    ∃ output, t.run input = .ok output := by
  obtain ⟨wrapped, eq⟩ := isLax_iff.1 lax
  rw [run_eq_check, eq]
  exact ⟨_, rfl⟩

theorem Filters.check_eq {v : Value} (h : t.Filters v) :
    t.check v = .error ⟨v, .notApplicable v⟩ := by
  rw [check, h.run_eq]

/-- **When lax types fail.** The lax version of a type never fails in a run. It accepts every value
that it does not filter, and a value that it filters fails for want of a value only. -/
theorem toLax_outcome (t : Ty) :
    (∀ input, ∃ output, t.toLax.run input = .ok output) ∧
    ∀ v, (¬t.toLax.Filters v → ∃ output, t.toLax.check v = .ok output) ∧
      (t.toLax.Filters v → t.toLax.check v = .error ⟨v, .notApplicable v⟩) := by
  have succeeds := exists_run_eq_ok_of_isLax t.isLax_toLax
  refine ⟨succeeds, fun v ↦ ⟨fun passed ↦ ?_, Filters.check_eq⟩⟩
  obtain ⟨output, came⟩ := succeeds (some v)
  cases output with
  | none => exact absurd (run_eq_ok_none_iff.1 came) passed
  | some output => exact ⟨output, check_eq_ok_iff.2 came⟩

/-- The empty text is filtered by the lax version too, and checking it fails. -/
theorem toLax_word_refuses_empty :
    word.toLax.run (some (.string "")) = .ok none ∧
    word.toLax.check (.string "") = .error ⟨.string "", .notApplicable (.string "")⟩ :=
  ⟨rfl, rfl⟩

/-! ### Stripping, layer by layer -/

section Layers

variable (t left right : Ty) (notes : Annotations)

@[simp]
theorem strip_nominal (p : Primitive) : strip ⟨.nominal p, notes⟩ = ⟨.nominal p, notes⟩ := rfl

@[simp]
theorem strip_constrained (rule : Rule) : strip ⟨.constrained t rule, notes⟩ = t.strip := rfl

@[simp]
theorem strip_coerced (steps : List Transform) :
    strip ⟨.coerced t steps, notes⟩ = ⟨.coerced t.strip steps, notes⟩ := rfl

@[simp]
theorem strip_defaulted (value : Value) :
    strip ⟨.defaulted t value, notes⟩ = ⟨.defaulted t.strip value, notes⟩ := rfl

@[simp]
theorem strip_lax : strip ⟨.lax t, notes⟩ = t.strip := rfl

@[simp]
theorem strip_sum : strip ⟨.sum left right, notes⟩ = ⟨.sum left.strip right.strip, notes⟩ := rfl

@[simp]
theorem strip_enum (mapping : EnumMapping) :
    strip ⟨.enum t mapping, notes⟩ = ⟨.enum t.strip mapping, notes⟩ := rfl

@[simp]
theorem strip_array : strip ⟨.array t, notes⟩ = ⟨.array t.strip, notes⟩ := rfl

@[simp]
theorem strip_schema (fields : List (Field Ty)) (unknownKeys : UnknownKeys) :
    strip ⟨.schema fields unknownKeys, notes⟩ =
      ⟨.schema (fields.map (Field.map strip)) unknownKeys, notes⟩ := fold_mk _ _ _

@[simp]
theorem strip_dictionary :
    strip ⟨.dictionary left right, notes⟩ = ⟨.dictionary left.strip right.strip, notes⟩ := rfl

end Layers

/-! ### Lax versions of narrowed types -/

theorem exists_eq_of_isNil (isNil : t.isNil = true) : ∃ notes, t = ⟨.nominal .nil, notes⟩ := by
  obtain ⟨k, notes⟩ := t
  have kind : k = .nominal .nil := isNil_iff.1 isNil
  exact ⟨notes, by rw [kind]⟩

/-- Predicates do not change what is left when rules are taken out. -/
theorem Narrows.strip_beq (h : Narrows ps t u) : (u.strip == t.strip) = true := by
  induction h with
  | constrained wrapped rule notes => exact beq_self_eq_true wrapped.strip
  | coerced _ _ _ ih | defaulted _ _ _ _ ih | lax _ _ ih | enum _ _ _ ih => simpa using ih
  | optional notes isNil _ ih =>
    obtain ⟨notes', rfl⟩ := exists_eq_of_isNil isNil
    simp only [strip_sum, sum_beq, ih, Bool.and_true]
    rfl
  | core => exact beq_self_eq_true _

/-- Whether predicates that are put on the type extend a rule that is there. -/
def extendsRule : Ty → Bool
  | ⟨.constrained _ _, _⟩ => true
  | ⟨.coerced wrapped _, _⟩ => extendsRule wrapped
  | ⟨.defaulted wrapped _, _⟩ => extendsRule wrapped
  | ⟨.lax wrapped, _⟩ => extendsRule wrapped
  | ⟨.enum wrapped _, _⟩ => extendsRule wrapped
  | ⟨.sum left right, _⟩ => left.isNil && extendsRule right
  | _ => false

theorem rule_append_beq_self_iff (rule : Rule) : (rule ++ ps == rule) = true ↔ ps = [] := by
  induction rule with
  | nil => cases ps <;> simp
  | cons p rule ih => simpa using ih

/-- Putting predicates on a type changes it, unless there are none to put and a rule that can take
them. -/
theorem Narrows.beq_iff (h : Narrows ps t u) :
    (u == t) = true ↔ ps = [] ∧ t.extendsRule = true := by
  induction h with
  | constrained wrapped rule notes =>
    rw [constrained_beq, beq_self_eq_true, Bool.true_and, rule_append_beq_self_iff]
    exact (and_iff_left rfl).symm
  | coerced _ _ _ ih | defaulted _ _ _ _ ih | lax _ _ ih | enum _ _ _ ih =>
    simpa [extendsRule] using ih
  | optional notes isNil _ ih =>
    obtain ⟨notes', rfl⟩ := exists_eq_of_isNil isNil
    have same : (nominal .nil == (⟨.nominal .nil, notes'⟩ : Ty)) = true := rfl
    rw [sum_beq, same, Bool.true_and, ih, extendsRule, isNil, Bool.true_and]
  | @core t plain notOptional =>
    -- a new rule is around a type that has none in this place
    obtain ⟨k, notes⟩ := t
    have differs : (ofKind (.constrained ⟨k, notes⟩ ps) == (⟨k, notes⟩ : Ty)) = false := by
      cases k with
      | constrained => cases plain
      | nominal | coerced | defaulted | lax | sum | enum | array | schema | dictionary => rfl
    have noRule : extendsRule ⟨k, notes⟩ = false := by
      cases k with
      | nominal | array | schema | dictionary => rfl
      | sum left right =>
        have notNil : left.isNil = false := notOptional
        rw [extendsRule, notNil, Bool.false_and]
      | constrained | coerced | defaulted | lax | enum => cases plain
    simp [differs, noRule]

theorem Narrows.isLax_eq (h : Narrows ps t u) : u.isLax = t.isLax := by
  cases h with
  | constrained | coerced | defaulted | lax | enum | optional => rfl
  | core plain => exact (no_decoration_of_plain plain).2.1.symm

/-- **What lax versions remember of predicates.** The lax versions of a type and of the narrowed
type are equal, except for a type that is lax before it is narrowed: being lax both types are their
own lax versions, and they differ unless there are no predicates and a rule that could take some. -/
theorem constrain_toLax_beq_iff (built : constrain ps t = .ok u) :
    (u.toLax == t.toLax) = true ↔ t.isLax = false ∨ ps = [] ∧ t.extendsRule = true := by
  have narrows := Narrows.of_constrain built
  cases lax : t.isLax with
  | false =>
    have stripped : (u.toLax == t.toLax) = true := by
      rw [toLax_of_strict (narrows.isLax_eq.trans lax), toLax_of_strict lax, withKind, withKind,
        lax_beq]
      exact narrows.strip_beq
    exact iff_of_true stripped (.inl rfl)
  | true =>
    -- nothing is stripped, so the types themselves are compared
    rw [toLax_of_isLax (narrows.isLax_eq.trans lax), toLax_of_isLax lax, narrows.beq_iff]
    exact ⟨.inr, fun h ↦ h.resolve_left Bool.noConfusion⟩

/-- The least length goes inside of the default and the transform, and is gone when both types are
made lax. -/
theorem constrain_toLax_nickname :
    constrain [.filled, .minSize 2] nickname = .ok longNickname ∧
    nickname.isLax = false ∧ (longNickname.toLax == nickname.toLax) = true := by
  have built : constrain [.filled, .minSize 2] nickname = .ok longNickname := rfl
  have strict : nickname.isLax = false := rfl
  exact ⟨built, strict, (constrain_toLax_beq_iff built).2 (.inl strict)⟩

/-- Predicates put on the lax strings stay inside when the type is made lax once more. -/
theorem toLax_keeps_late_rule :
    constrain [.filled] (nominal .string).toLax =
      .ok (ofKind (.lax (ofKind (.constrained (nominal .string) [.filled])))) ∧
    ((ofKind (.lax (ofKind (.constrained (nominal .string) [.filled])))).toLax ==
      (nominal .string).toLax.toLax) = false :=
  ⟨rfl, rfl⟩

end JsonTyping.Ty
