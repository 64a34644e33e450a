import JsonTyping.Proofs.Enforcement

/-!
# Filtered values

A defined input has three outcomes: a value, a failure, or no value at all. The last one has a
single source. A transform yields no value, and neither a default nor the right branch of a sum
comes in before the outcome is out. `Ty.Filters` describes the ways from the input to such a
transform, and `run_eq_ok_none_iff` says that there are no others: in particular nothing that
happens inside a container comes out as no value.

Filtering is neither acceptance nor failure, and that is where a sum departs from the union of its
branches (`sum_accepts_iff`): what the left branch filters never gets to the right branch.
-/

namespace JsonTyping

/-! ### Layers -/

theorem Rule.enforce_ne_ok_none {rule : Rule} {v : Value} : rule.enforce v ≠ .ok none := by
  intro h
  cases (enforce_eq_ok_iff.1 h).1

theorem Outcome.ofMembers_ne_ok_none {assembled : Value} {failures : List MemberFailure} :
    ofMembers assembled failures ≠ .ok none := by
  cases failures <;> simp [ofMembers]

namespace Check

variable {check left right : Check} {rule : Rule} {input : Option Value} {v : Value}

theorem nominal_ne_ok_none {p : Primitive} : nominal p (some v) ≠ .ok none :=
  Rule.enforce_ne_ok_none

/-- A rule passes on a missing value and never makes one. -/
theorem constrained_eq_ok_none_iff :
    check.constrained rule input = .ok none ↔ check input = .ok none := by
  rcases h : check input with failure | - | w
  · simp [constrained_of_error h]
  · simp [constrained_of_ok_none h]
  · simp [constrained_of_ok_some h, Rule.enforce_ne_ok_none]

/-- The value is missing if the transforms yield none, or if the check yields none for theirs. -/
theorem coerced_eq_ok_none_iff {steps : List Transform} :
    check.coerced steps (some v) = .ok none ↔
      Transform.applyAll steps v = .ok none ∨
        ∃ w, Transform.applyAll steps v = .ok (some w) ∧ check (some w) = .ok none := by
  rcases h : Transform.applyAll steps v with failure | - | w <;> simp [coerced, h]

theorem defaulted_ne_ok_none {value : Value} : check.defaulted value input ≠ .ok none := by
  cases input with
  | none => simp [defaulted]
  | some v => rcases h : check (some v) with failure | - | w <;> simp [defaulted, h]

/-- A failure leaves something behind, so a value that laxness misses was missing before. -/
theorem lax_eq_ok_none_iff : check.lax input = .ok none ↔ check input = .ok none := by
  rcases h : check input with failure | output <;> simp [lax, h, Outcome.remainder?]

/-- The right branch of a sum is asked only where the left branch fails. -/
theorem sum_eq_ok_iff {output : Option Value} :
    left.sum right input = .ok output ↔
      left input = .ok output ∨
        (∃ failure, left input = .error failure) ∧ right input = .ok output := by
  rcases h : left input with failure | output
  · rcases h' : right input with failure' | output' <;> simp [sum, h, h']
  · simp [sum, h]

theorem array_ne_ok_none : check.array (some v) ≠ .ok none := by
  cases v with
  | array items => exact Outcome.ofMembers_ne_ok_none
  | null | bool | number | string | object => simp [array, Outcome.notACollection]

theorem schema_ne_ok_none {fields : List (Field Check)} {unknownKeys : UnknownKeys} :
    schema fields unknownKeys (some v) ≠ .ok none := by
  cases v with
  | object entries => exact Outcome.ofMembers_ne_ok_none
  | null | bool | number | string | array => simp [schema, Outcome.notACollection]

theorem dictionary_ne_ok_none : left.dictionary right (some v) ≠ .ok none := by
  cases v with
  | object entries => exact Outcome.ofMembers_ne_ok_none
  | null | bool | number | string | array => simp [dictionary, Outcome.notACollection]

end Check

namespace Ty

/-! ### Types -/

/-- Whether a type filters a value: on the way inward the value, as far as it is converted, comes
to transforms that yield no value for it. The way goes past rules, laxness and enums, and to the
right in a sum only if the left branch fails; it does not go past defaults, which would fill in. -/
inductive Filters : Ty → Value → Prop
  | here {wrapped : Ty} {steps : List Transform} {v : Value} (notes : Annotations) :
      Transform.applyAll steps v = .ok none → Filters ⟨.coerced wrapped steps, notes⟩ v
  | coerced {wrapped : Ty} {steps : List Transform} {v w : Value} (notes : Annotations) :
      Transform.applyAll steps v = .ok (some w) → Filters wrapped w →
        Filters ⟨.coerced wrapped steps, notes⟩ v
  | constrained {wrapped : Ty} {v : Value} (rule : Rule) (notes : Annotations) :
      Filters wrapped v → Filters ⟨.constrained wrapped rule, notes⟩ v
  | lax {wrapped : Ty} {v : Value} (notes : Annotations) :
      Filters wrapped v → Filters ⟨.lax wrapped, notes⟩ v
  | enum {wrapped : Ty} {v : Value} {mapping : EnumMapping} (notes : Annotations) :
      Filters wrapped (mapping.toLabel v) → Filters ⟨.enum wrapped mapping, notes⟩ v
  | left {left : Ty} {v : Value} (right : Ty) (notes : Annotations) :
      Filters left v → Filters ⟨.sum left right, notes⟩ v
  | right {left right : Ty} {v : Value} {failure : Failure} (notes : Annotations) :
      left.run (some v) = .error failure → Filters right v → Filters ⟨.sum left right, notes⟩ v

variable {t : Ty} {v : Value}

theorem Filters.run_eq (h : t.Filters v) : t.run (some v) = .ok none := by
  induction h with
  | here _ dropped =>
    rw [run_coerced, Check.coerced_eq_ok_none_iff]
    exact .inl dropped
  | coerced _ applied _ ih =>
    rw [run_coerced, Check.coerced_eq_ok_none_iff]
    exact .inr ⟨_, applied, ih⟩
  | constrained _ _ _ ih => rwa [run_constrained, Check.constrained_eq_ok_none_iff]
  | lax _ _ ih => rwa [run_lax, Check.lax_eq_ok_none_iff]
  | enum _ _ ih =>
    rw [run_enum]
    exact ih
  | left _ _ _ ih =>
    rw [run_sum, Check.sum_eq_ok_iff]
    exact .inl ih
  | right _ failed _ ih =>
    rw [run_sum, Check.sum_eq_ok_iff]
    exact .inr ⟨⟨_, failed⟩, ih⟩

theorem Filters.of_run (h : t.run (some v) = .ok none) : t.Filters v := by
  -- the value changes on the way inward, by transforms and by labels
  induction t using Ty.induction generalizing v with
  | nominal =>
    rw [run_nominal] at h
    exact absurd h Check.nominal_ne_ok_none
  | constrained wrapped rule notes ih =>
    rw [run_constrained, Check.constrained_eq_ok_none_iff] at h
    exact .constrained rule notes (ih h)
  | coerced wrapped steps notes ih =>
    rw [run_coerced, Check.coerced_eq_ok_none_iff] at h
    rcases h with dropped | ⟨w, applied, h⟩
    · exact .here notes dropped
    · exact .coerced notes applied (ih h)
  | defaulted =>
    rw [run_defaulted] at h
    exact absurd h Check.defaulted_ne_ok_none
  | lax wrapped notes ih =>
    rw [run_lax, Check.lax_eq_ok_none_iff] at h
    exact .lax notes (ih h)
  | sum left right notes ihLeft ihRight =>
    rw [run_sum, Check.sum_eq_ok_iff] at h
    rcases h with h | ⟨⟨failure, failed⟩, h⟩
    · exact .left right notes (ihLeft h)
    · exact .right notes failed (ihRight h)
  | enum wrapped mapping notes ih =>
    rw [run_enum] at h
    exact .enum notes (ih h)
  | array =>
    rw [run_array] at h
    exact absurd h Check.array_ne_ok_none
  | schema =>
    rw [run_schema] at h
    exact absurd h Check.schema_ne_ok_none
  | dictionary =>
    rw [run_dictionary] at h
    exact absurd h Check.dictionary_ne_ok_none

/-- A defined input comes to no value exactly when it is filtered. -/
theorem run_eq_ok_none_iff : t.run (some v) = .ok none ↔ t.Filters v :=
  ⟨Filters.of_run, Filters.run_eq⟩

/-! ### Acceptance -/

theorem Filters.accepts_eq (h : t.Filters v) : t.accepts v = false := by
  rw [accepts, check, h.run_eq]
  rfl

/-- A sum accepts what one of its branches accepts, except that it accepts nothing that its left
branch filters. -/
theorem sum_accepts_eq_or_iff (left right : Ty) (v : Value) :
    (sum left right).accepts v = (left.accepts v || right.accepts v) ↔
      ¬(left.Filters v ∧ right.accepts v = true) := by
  by_cases filtered : left.Filters v
  · have lost : (sum left right).accepts v = false := Filters.accepts_eq (.left right [] filtered)
    rw [lost, filtered.accepts_eq, Bool.false_or, eq_comm, Bool.eq_false_iff]
    exact ⟨fun refused both ↦ refused both.2, fun h accepted ↦ h ⟨filtered, accepted⟩⟩
  · have outcome : (sum left right).run (some v) = left.run.sum right.run (some v) := by
      rw [sum, ofKind, run_sum]
    refine iff_of_true ?_ fun both ↦ filtered both.1
    -- what is not filtered on the left is accepted there or goes on to the right
    rw [accepts, accepts, accepts, check, check, check, outcome, Check.sum]
    rcases came : left.run (some v) with failure | - | output
    · rcases right.run (some v) with failure' | - | output' <;> rfl
    · exact absurd (run_eq_ok_none_iff.1 came) filtered
    · rfl

/-- **Where a sum is the union of its branches.** In whatever order its branches are tried, a sum
accepts exactly what one of them accepts, for the values that neither branch filters while the other
accepts them, and for no others. -/
theorem sum_accepts_iff (left right : Ty) (v : Value) :
    ((sum left right).accepts v = (sum right left).accepts v ∧
      (sum right left).accepts v = (left.accepts v || right.accepts v)) ↔
      ¬(left.Filters v ∧ right.accepts v = true) ∧
        ¬(right.Filters v ∧ left.accepts v = true) := by
  rw [← sum_accepts_eq_or_iff left right, ← sum_accepts_eq_or_iff right left,
    Bool.or_comm (right.accepts v)]
  exact ⟨fun ⟨same, union⟩ ↦ ⟨same.trans union, union⟩, fun ⟨first, second⟩ ↦
    ⟨first.trans second.symm, second⟩⟩

/-- The texts other than the empty one, or all texts: the empty text is filtered on the left, and
the right branch, which accepts it, is not asked. The other order of the branches accepts it. -/
theorem sum_refuses_filtered :
    ((nominal .string).coerce .emptyToUndefined).accepts (.string "") = false ∧
    (nominal .string).accepts (.string "") = true ∧
    (sum ((nominal .string).coerce .emptyToUndefined) (nominal .string)).accepts
      (.string "") = false ∧
    (sum (nominal .string) ((nominal .string).coerce .emptyToUndefined)).accepts
      (.string "") = true :=
  ⟨rfl, rfl, rfl, rfl⟩

end Ty

end JsonTyping
