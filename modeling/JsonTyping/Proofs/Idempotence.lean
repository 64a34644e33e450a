import JsonTyping.Proofs.Names
import JsonTyping.Proofs.Settling

/-!
# Checking twice

What a type yields is often not what it was given: keys are reordered, dropped and filled in, and
scalars are converted. For the types that are built of the standard ones by the usual operations one
pass is enough, though: what it yields is left unchanged by a second pass (`check_check`).

Every layer of such a type settles over its parts, defaults aside (`FromStandard.isSettling`), and
so the type settles (`settles_run`). A default settles if the type under it leaves it unchanged.
That is a hypothesis, because a default is accepted by the type under it, but is not converted by
it.
-/

namespace JsonTyping

namespace Ty

variable {t u : Ty}

/-- Whether a type is a primitive kind under rules. -/
def isTest : Ty → Bool
  | ⟨.nominal _, _⟩ => true
  | ⟨.constrained wrapped _, _⟩ => isTest wrapped
  | _ => false

/-- Whether a layer settles over parts that do, defaults aside. -/
def IsSettling (t : Ty) : Prop :=
  match t.kind with
  | .coerced wrapped steps => wrapped.isTest = true ∧ ∃ step, steps = [step] ∧ step.Settles
  | .lax _ => False
  | .sum left _ => left.isTest = true
  | .enum _ mapping => ∀ pair ∈ mapping, pair.1 = pair.2
  | .schema fields _ => (fields.map Field.name).Nodup
  | _ => True

/-- Whether every default in the type comes out of the type under it unchanged. -/
def FixesAllDefaults (t : Ty) : Prop :=
  t.Everywhere fun s ↦
    match s.kind with
    | .defaulted wrapped value => wrapped.check value = .ok value
    | _ => True

theorem tests_run (h : t.isTest = true) : t.run.Tests := by
  induction t using Ty.induction with
  | nominal p =>
    rw [run_nominal]
    exact Check.tests_nominal p
  | constrained wrapped rule _ ih =>
    rw [run_constrained]
    exact (ih h).constrained rule
  | coerced | defaulted | lax | sum | enum | array | schema | dictionary => cases h

/-- A type whose layers settle and whose defaults are fixed settles. -/
theorem settles_run (settling : t.Everywhere IsSettling) (fixed : t.FixesAllDefaults) :
    t.run.Settles := by
  induction t using Ty.induction with
  | nominal p =>
    rw [run_nominal]
    exact (Check.tests_nominal p).settles
  | constrained wrapped rule _ ih =>
    rw [run_constrained]
    exact (ih (settling.single rfl) (fixed.single rfl)).constrained rule
  | coerced wrapped steps _ ih =>
    obtain ⟨test, step, rfl, hStep⟩ := settling.self
    rw [run_coerced]
    exact (tests_run test).coerced hStep
  | defaulted wrapped value _ ih =>
    have unchanged : wrapped.run (some value) = .ok (some value) := check_eq_ok_iff.1 fixed.self
    rw [run_defaulted]
    exact (ih (settling.single rfl) (fixed.single rfl)).defaulted unchanged
  | lax => cases settling.self
  | sum left right _ _ ih =>
    rw [run_sum]
    exact (tests_run settling.self).sum (ih (settling.pair rfl).2 (fixed.pair rfl).2)
  | enum wrapped mapping _ ih =>
    rw [run_enum, Check.enum_of_self settling.self]
    exact ih (settling.single rfl) (fixed.single rfl)
  | array member _ ih =>
    rw [run_array]
    exact (ih (settling.single rfl) (fixed.single rfl)).array
  | schema fields unknownKeys _ ih =>
    rw [run_schema]
    exact Check.settles_schema settling.self
      (fun field mem ↦ ih field mem (settling.field mem) (fixed.field mem)) unknownKeys
  | dictionary key value _ ihKey ihValue =>
    obtain ⟨settlingKey, settlingValue⟩ := settling.pair rfl
    obtain ⟨fixedKey, fixedValue⟩ := fixed.pair rfl
    rw [run_dictionary]
    exact (ihKey settlingKey fixedKey).dictionary (ihValue settlingValue fixedValue)

/-! ### Types built of the standard ones -/

/-- The types that are built of strict types and of the coercible types of settled kinds. -/
inductive FromStandard : Ty → Prop
  | strict (p : Primitive) : FromStandard (Standard.strict p)
  | coercible {p : Primitive} {t : Ty} : p ∈ Standard.settledKinds →
      Standard.coercible? p = some t → FromStandard t
  | constrain {t u : Ty} {ps : List Predicate} : FromStandard t → constrain ps t = .ok u →
      FromStandard u
  | enumeration {t u : Ty} {labels : List Value} : FromStandard t →
      t.enumeration labels = .ok u → FromStandard u
  | withDefault {t u : Ty} {value : Value} : FromStandard t → t.withDefault value = .ok u →
      FromStandard u
  | optional {t : Ty} : FromStandard t → FromStandard t.optional
  | array {t : Ty} : FromStandard t → FromStandard t.array
  | schema {fields : List (Field Ty)} (unknownKeys : UnknownKeys) :
      (∀ field ∈ fields, FromStandard field.type) → FromStandard (ofFields fields unknownKeys)
  | withUnknownKeys {t : Ty} (unknownKeys : UnknownKeys) : FromStandard t →
      FromStandard (t.withUnknownKeys unknownKeys)
  | dictionary {key value : Ty} : FromStandard key → FromStandard value →
      FromStandard (dictionary key value)

theorem Narrows.isTest {ps : List Predicate} (narrows : Narrows ps t u) (h : t.isTest = true) :
    u.isTest = true := by
  cases narrows with
  | constrained => exact h
  | core => exact h
  | coerced | defaulted | lax | enum | optional => cases h

theorem Narrows.isSettling {ps : List Predicate} (narrows : Narrows ps t u)
    (h : t.Everywhere IsSettling) : u.Everywhere IsSettling := by
  induction narrows with
  | constrained wrapped rule notes => exact everywhere_of_single trivial rfl (h.single rfl)
  | coerced steps notes inner ih =>
    obtain ⟨test, single⟩ := h.self
    exact everywhere_of_single ⟨inner.isTest test, single⟩ rfl (ih (h.single rfl))
  | defaulted _ _ _ _ ih => exact everywhere_of_single trivial rfl (ih (h.single rfl))
  | lax => cases h.self
  | enum mapping _ _ ih => exact everywhere_of_single h.self rfl (ih (h.single rfl))
  | optional notes isNil inner ih =>
    have null : (nominal .nil).Everywhere IsSettling := everywhere_nominal trivial
    exact everywhere_of_pair rfl rfl null (ih (h.pair rfl).2)
  | core => exact everywhere_of_single trivial rfl h

theorem isTest_withUnknownKeys (t : Ty) (unknownKeys : UnknownKeys) :
    (t.withUnknownKeys unknownKeys).isTest = t.isTest := by
  induction t using Ty.induction with
  | constrained _ _ _ ih => exact ih
  | nominal | coerced | defaulted | lax | sum | enum | array | schema | dictionary => rfl

theorem isSettling_withUnknownKeys (h : t.Everywhere IsSettling) (unknownKeys : UnknownKeys) :
    (t.withUnknownKeys unknownKeys).Everywhere IsSettling := by
  induction t using Ty.induction with
  | constrained _ _ _ ih | defaulted _ _ _ ih =>
    exact everywhere_of_single trivial rfl (ih (h.single rfl))
  | coerced wrapped steps _ ih =>
    obtain ⟨test, single⟩ := h.self
    have test' : (wrapped.withUnknownKeys unknownKeys).isTest = true := by
      rwa [isTest_withUnknownKeys]
    exact everywhere_of_single ⟨test', single⟩ rfl (ih (h.single rfl))
  | lax => cases h.self
  | enum _ _ _ ih => exact everywhere_of_single h.self rfl (ih (h.single rfl))
  | schema fields policy notes => exact everywhere_schema h.self fun field mem ↦ h.field mem
  | nominal | sum | array | dictionary => exact h

/-- The layers of these types settle. -/
theorem FromStandard.isSettling (standard : t.FromStandard) : t.Everywhere IsSettling := by
  have leaf : ∀ p, (nominal p).Everywhere IsSettling := fun p ↦ everywhere_nominal trivial
  induction standard with
  | strict p => exact everywhere_of_single trivial rfl (leaf p)
  | @coercible p t settled eq =>
    obtain ⟨step, coercion, rfl⟩ := Option.map_eq_some_iff.1 eq
    have single : IsSettling ((nominal p).coerce step) :=
      ⟨rfl, step, rfl, Standard.settles_of_coercion? settled coercion⟩
    exact everywhere_of_single single rfl (leaf p)
  | constrain _ built ih => exact (Narrows.of_constrain built).isSettling ih
  | @enumeration t u labels _ built ih =>
    obtain ⟨-, narrowed, narrows, rfl⟩ := enumerate_eq_ok_iff.1 built
    have self : ∀ pair ∈ labels.map (fun label ↦ (label, label)), pair.1 = pair.2 :=
      List.forall_mem_map.2 fun label _ ↦ rfl
    exact everywhere_of_single self rfl (narrows.isSettling ih)
  | withDefault _ built ih =>
    obtain ⟨-, -, rfl⟩ := withDefault_eq_ok_iff.1 built
    exact everywhere_of_single trivial rfl ih
  | optional _ ih => exact everywhere_of_pair rfl rfl (leaf .nil) ih
  | array _ ih => exact everywhere_of_single trivial rfl ih
  | @schema fields unknownKeys _ ih =>
    refine everywhere_schema (nodup_names_declareAll fields List.nodup_nil) fun field mem ↦ ?_
    exact ih field ((mem_or_mem_of_mem_declareAll mem).resolve_left List.not_mem_nil)
  | withUnknownKeys unknownKeys _ ih => exact isSettling_withUnknownKeys ih unknownKeys
  | dictionary _ _ ihKey ihValue => exact everywhere_of_pair trivial rfl ihKey ihValue

/-- **Checking twice.** What a type of this sort yields is left unchanged when it is checked once
more, as long as every default comes out of the type under it unchanged. -/
theorem check_check (standard : t.FromStandard) (fixed : t.FixesAllDefaults) {v output : Value}
    (came : t.check v = .ok output) : t.check output = .ok output :=
  check_eq_ok_iff.2
    ((settles_run standard.isSettling fixed).settled (some v) output (check_eq_ok_iff.1 came))

/-- The names of roles. -/
def roleName : Ty :=
  ofKind (.constrained (nominal .string)
    [.kind .string, .includedIn [.string "user", .string "admin"]])

/-- The enum of the roles, with a default. -/
def role : Ty :=
  ofKind (.enum (ofKind (.defaulted roleName (.string "user")))
    [(.string "user", .string "user"), (.string "admin", .string "admin")])

/-- A registration: a role, an age that may be given as a numeral, and words; other keys are
kept. -/
def registration : Ty :=
  ofFields
    [⟨"role", role, true⟩,
      ⟨"age", ((nominal .integer).coerce .toInteger).optional, true⟩,
      ⟨"words", ((nominal .string).coerce .toText).array, false⟩]
    .preserve

/-- The first pass fills in the role, converts the age and the words and puts the keys in order; the
second one leaves all that alone. -/
theorem check_check_registration :
    registration.FromStandard ∧ registration.FixesAllDefaults ∧
    registration.check (.object [("words", .array [.ofUInt64 1, .bool true]), ("x", .null),
        ("age", .string "42")]) =
      .ok (.object [("role", .string "user"), ("age", .ofUInt64 42),
        ("words", .array [.string "1", .string "true"]), ("x", .null)]) ∧
    registration.check (.object [("role", .string "user"), ("age", .ofUInt64 42),
        ("words", .array [.string "1", .string "true"]), ("x", .null)]) =
      .ok (.object [("role", .string "user"), ("age", .ofUInt64 42),
        ("words", .array [.string "1", .string "true"]), ("x", .null)]) := by
  have standard : registration.FromStandard := by
    refine .schema .preserve fun field mem ↦ ?_
    rcases List.mem_cons.1 mem with rfl | mem
    · have defaulted : (Standard.strict .string).withDefault (.string "user") =
          .ok (ofKind (.defaulted (Standard.strict .string) (.string "user"))) := rfl
      have built : (ofKind (.defaulted (Standard.strict .string) (.string "user"))).enumeration
          [.string "user", .string "admin"] = .ok role := rfl
      exact .enumeration (.withDefault (.strict .string) defaulted) built
    rcases List.mem_cons.1 mem with rfl | mem
    · exact .optional (.coercible (p := .integer) (by decide) rfl)
    · rw [List.mem_singleton.1 mem]
      exact .array (.coercible (p := .string) (by decide) rfl)
  have fixed : registration.FixesAllDefaults := by
    have leaf : ∀ p, (nominal p).FixesAllDefaults := fun p ↦ everywhere_nominal trivial
    refine everywhere_schema trivial fun field mem ↦ ?_
    rcases List.mem_cons.1 mem with rfl | mem
    · have name : roleName.FixesAllDefaults := everywhere_of_single trivial rfl (leaf .string)
      have accepted : roleName.check (.string "user") = .ok (.string "user") := rfl
      have filled : (ofKind (.defaulted roleName (.string "user"))).FixesAllDefaults :=
        everywhere_of_single accepted rfl name
      exact everywhere_of_single (t := role) trivial rfl filled
    rcases List.mem_cons.1 mem with rfl | mem
    · exact everywhere_of_pair trivial rfl (leaf .nil)
        (everywhere_of_single trivial rfl (leaf .integer))
    · rw [List.mem_singleton.1 mem]
      exact everywhere_of_single trivial rfl (everywhere_of_single trivial rfl (leaf .string))
  have came : registration.check (.object [("words", .array [.ofUInt64 1, .bool true]),
        ("x", .null), ("age", .string "42")]) =
      .ok (.object [("role", .string "user"), ("age", .ofUInt64 42),
        ("words", .array [.string "1", .string "true"]), ("x", .null)]) := rfl
  exact ⟨standard, fixed, came, check_check standard fixed came⟩

/-- A default that is converted when it is given is filled in as a text and becomes an integer in
the second pass. -/
example :
    let settings := ofFields
      [⟨"n", ofKind (.defaulted ((nominal .integer).coerce .toInteger) (.string "5")), true⟩]
      .ignore
    settings.check (.object []) = .ok (.object [("n", .string "5")]) ∧
    settings.check (.object [("n", .string "5")]) = .ok (.object [("n", .ofUInt64 5)]) :=
  ⟨rfl, rfl⟩

end Ty

end JsonTyping
