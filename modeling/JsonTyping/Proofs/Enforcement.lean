import JsonTyping.Ty.Building

/-!
# Enforcing a rule

A rule is a conjunction tested in order. Enforcing it on a value therefore has two outcomes: the
value itself, exactly when every predicate holds of it (`Rule.enforce_eq_ok_iff`), or the failure
that the first broken predicate gives (`Rule.enforce_append_cons`).

A rule commutes with the layers that only prepare the input of a check, so that it may be enforced
inside of them or outside with the same outcome: with transforms (`Check.coerced_constrained`),
with the labels of an enum (`Check.enum_constrained`), and with a default that the rule itself
passes (`Check.defaulted_constrained`). Two rules one after the other are one longer rule
(`Check.constrained_append`).
-/

namespace JsonTyping

/-! ### Rules on values -/

/-- The failure of a value on which a predicate does not hold. -/
def Predicate.failure (p : Predicate) (v : Value) : Failure :=
  ⟨v, .constraint v ⟨p.name, p.args, v⟩⟩

namespace Rule

theorem enforce_of_find?_eq_none {rule : Rule} {v : Value}
    (h : rule.find? (fun p ↦ !p.test v) = none) : rule.enforce v = .ok (some v) := by
  rw [enforce, check, h]

theorem enforce_of_find?_eq_some {rule : Rule} {v : Value} {p : Predicate}
    (h : rule.find? (fun p ↦ !p.test v) = some p) : rule.enforce v = .error (p.failure v) := by
  rw [enforce, check, h]
  rfl

/-- A rule lets a value pass unchanged exactly when all its predicates hold of the value. -/
theorem enforce_eq_ok_iff {rule : Rule} {v : Value} {output : Option Value} :
    rule.enforce v = .ok output ↔ output = some v ∧ ∀ p ∈ rule, p.test v = true := by
  rcases h : rule.find? (fun p ↦ !p.test v) with - | p
  · have holds : ∀ p ∈ rule, p.test v = true := by simpa using h
    rw [enforce_of_find?_eq_none h]
    exact ⟨fun eq ↦ ⟨(Except.ok.inj eq).symm, holds⟩, fun ⟨eq, _⟩ ↦ congrArg _ eq.symm⟩
  · have broken : p.test v = false := by simpa using List.find?_some h
    rw [enforce_of_find?_eq_some h]
    constructor
    · intro eq
      cases eq
    · rintro ⟨-, holds⟩
      rw [holds p (List.mem_of_find?_eq_some h)] at broken
      cases broken

theorem enforce_of_forall {rule : Rule} {v : Value} (h : ∀ p ∈ rule, p.test v = true) :
    rule.enforce v = .ok (some v) :=
  enforce_eq_ok_iff.2 ⟨rfl, h⟩

/-- A rule leaves the value alone, whether the value keeps it or not. -/
theorem remainder?_enforce (rule : Rule) (v : Value) :
    (rule.enforce v).remainder? = some v := by
  rw [enforce]
  split <;> rfl

/-- The first predicate that does not hold is the one reported. -/
theorem enforce_append_cons {before after : Rule} {p : Predicate} {v : Value}
    (holds : ∀ q ∈ before, q.test v = true) (broken : p.test v = false) :
    enforce (before ++ p :: after) v = .error (p.failure v) := by
  refine enforce_of_find?_eq_some ?_
  rw [List.find?_append, List.find?_eq_none.2 fun q hq ↦ by simp [holds q hq]]
  simp [broken]

/-- A longer rule is enforced part by part. -/
theorem enforce_append (rule more : Rule) (v : Value) :
    enforce (rule ++ more) v =
      match rule.enforce v with
      | .ok (some v) => more.enforce v
      | outcome => outcome := by
  rcases h : rule.find? (fun p ↦ !p.test v) with - | p
  · rw [enforce_of_find?_eq_none h, enforce, check, List.find?_append, h]
    rfl
  · rw [enforce_of_find?_eq_some h]
    refine enforce_of_find?_eq_some ?_
    rw [List.find?_append, h]
    rfl

end Rule

/-! ### Rules on checks -/

namespace Check

variable {check : Check} {rule : Rule} {input : Option Value}

theorem constrained_of_ok_some {v : Value} (h : check input = .ok (some v)) :
    check.constrained rule input = rule.enforce v := by
  rw [constrained, h]

theorem constrained_of_ok_none (h : check input = .ok none) :
    check.constrained rule input = .ok none := by
  rw [constrained, h]

theorem constrained_of_error {failure : Failure} (h : check input = .error failure) :
    check.constrained rule input = .error failure := by
  rw [constrained, h]

/-- What gets past a rule came out of the check and keeps the rule. -/
theorem constrained_eq_ok_some_iff {v : Value} :
    check.constrained rule input = .ok (some v) ↔
      check input = .ok (some v) ∧ ∀ p ∈ rule, p.test v = true := by
  rcases h : check input with failure | - | w
  · simp [constrained_of_error h]
  · simp [constrained_of_ok_none h]
  · rw [constrained_of_ok_some h, Rule.enforce_eq_ok_iff]
    constructor
    · rintro ⟨eq, holds⟩
      cases eq
      exact ⟨rfl, holds⟩
    · rintro ⟨eq, holds⟩
      cases eq
      exact ⟨rfl, holds⟩

variable (check rule)

/-- Two rules one after the other are one rule. -/
theorem constrained_append (more : Rule) :
    check.constrained (rule ++ more) = (check.constrained rule).constrained more := by
  funext input
  rcases h : check input with failure | - | v
  · rw [constrained_of_error h, constrained_of_error (constrained_of_error h)]
  · rw [constrained_of_ok_none h, constrained_of_ok_none (constrained_of_ok_none h)]
  · rw [constrained_of_ok_some h, Rule.enforce_append, ← constrained_of_ok_some h]
    rfl

/-- Transforms come before a rule wherever the rule is put. -/
theorem coerced_constrained (steps : List Transform) :
    (check.constrained rule).coerced steps = (check.coerced steps).constrained rule := by
  funext input
  cases input with
  | none => rfl
  | some v =>
    rcases h : Transform.applyAll steps v with failure | - | w <;> simp [coerced, constrained, h]

/-- Labels are looked up before a rule wherever the rule is put. -/
theorem enum_constrained (mapping : EnumMapping) :
    (check.constrained rule).enum mapping = (check.enum mapping).constrained rule := rfl

/-- A default may stand outside of a rule that it keeps. -/
theorem defaulted_constrained {value : Value} (holds : ∀ p ∈ rule, p.test value = true) :
    (check.constrained rule).defaulted value = (check.defaulted value).constrained rule := by
  funext input
  cases input with
  | none => exact (Rule.enforce_of_forall holds).symm
  | some v =>
    rcases h : check (some v) with failure | - | w
    · simp [defaulted, constrained, h]
    · rw [constrained_of_ok_some (v := value) (by simp [defaulted, h]),
        Rule.enforce_of_forall holds]
      simp [defaulted, constrained_of_ok_none h]
    · have eq : check.defaulted value (some v) = .ok (some w) := by simp [defaulted, h]
      rw [constrained_of_ok_some eq]
      -- a rule yields no value for no value, so the default is not put in a second time
      rcases e : rule.enforce w with failure | - | u
      · simp [defaulted, constrained_of_ok_some h, e]
      · cases (Rule.enforce_eq_ok_iff.1 e).1
      · simp [defaulted, constrained_of_ok_some h, e]

end Check

end JsonTyping
