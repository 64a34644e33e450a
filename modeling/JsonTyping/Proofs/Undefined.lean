import JsonTyping.Proofs.Built
import JsonTyping.Proofs.Laxness

/-!
# Undefined input

Undefined input goes inward through decorations, and into the left branch of a sum, until it comes
to a default or to the end. A rule on the way back out is the one layer that can turn it into a
failure. Narrowing checks the defaults on the spine of a type once more, but a sum ends the spine:
a default of one of its branches is never checked against a rule around the sum.

`acceptsUndefined_iff_keepsUndefined` says that this is all that can go wrong. Under any discipline
in building, undefined input fails for no type if and only if predicates are put on bare types only
where they hold of what undefined input comes to; and it comes to a value in a bare type only if
the spine ends in a sum.
-/

namespace JsonTyping.Ty

/-- Whether undefined input does not fail: it comes to a value, or to no value. -/
def AcceptsUndefined (t : Ty) : Prop := ∃ output, t.checkUndefined = .ok output

/-- Whether predicates hold of the value that undefined input comes to, should the type be bare. -/
def KeepsUndefined (ps : List Predicate) (t : Ty) : Prop :=
  t.Bare → ∀ v, t.checkUndefined = .ok (some v) → ∀ p ∈ ps, p.test v = true

variable {t wrapped : Ty}

theorem checkUndefined_eq_ok_iff {output : Option Value} :
    t.checkUndefined = .ok output ↔ t.run none = .ok output := by
  rw [checkUndefined]
  rcases t.run none with failure | came
  · constructor <;> rintro ⟨⟩
  · constructor
    · rintro ⟨⟩
      rfl
    · rintro ⟨⟩
      rfl

theorem acceptsUndefined_iff : t.AcceptsUndefined ↔ ∃ output, t.run none = .ok output :=
  exists_congr fun _ ↦ checkUndefined_eq_ok_iff

/-! ### Undefined input and layers -/

/-- Types with the same layer on top run in the same way. -/
theorem run_eq_of_kind_eq {s : Ty} (eq : t.kind = s.kind) : t.run = s.run := by
  rw [run_eq_check t, run_eq_check s, eq]

/-- Of the layers that decorate nothing, sums alone do something with undefined input. -/
theorem run_none_of_plain (plain : t.kind.wrapped? = none)
    (noSum : ∀ left right, t.kind ≠ .sum left right) : t.run none = .ok none := by
  rw [run_eq_check]
  cases eq : t.kind with
  | nominal | array | schema | dictionary => rfl
  | sum left right => exact absurd eq (noSum left right)
  | constrained | coerced | defaulted | lax | enum =>
    rw [eq] at plain
    cases plain

/-- Null is tried first, and undefined input is none of its concern. -/
theorem run_none_of_isOptional (optional : t.isOptional = true) : t.run none = .ok none := by
  obtain ⟨left, right, eq, nil⟩ := isOptional_iff.1 optional
  have first : left.run = Check.nominal .nil := by
    rw [run_eq_check, isNil_iff.1 nil]
    rfl
  rw [run_eq_check, eq]
  show Check.sum left.run right.run none = .ok none
  rw [first]
  rfl

theorem acceptsUndefined_of_isLax (lax : t.isLax = true) : t.AcceptsUndefined :=
  acceptsUndefined_iff.2 (exists_run_eq_ok_of_isLax lax none)

theorem acceptsUndefined_of_isDefaulted (filled : t.isDefaulted = true) : t.AcceptsUndefined := by
  obtain ⟨wrapped, value, eq⟩ := isDefaulted_iff.1 filled
  rw [acceptsUndefined_iff, run_eq_check, eq]
  exact ⟨_, rfl⟩

/-- A layer that decorates nothing accepts undefined input, except that a sum needs its left branch
to accept it. -/
theorem acceptsUndefined_of_plain (plain : t.kind.wrapped? = none)
    (sum : ∀ left right, t.kind = .sum left right → left.AcceptsUndefined) :
    t.AcceptsUndefined := by
  by_cases h : ∃ left right, t.kind = .sum left right
  · obtain ⟨left, right, eq⟩ := h
    obtain ⟨output, came⟩ := acceptsUndefined_iff.1 (sum left right eq)
    refine acceptsUndefined_iff.2 ⟨output, ?_⟩
    rw [run_eq_of_kind_eq (s := left.sum right) eq, Ty.sum, ofKind, run_sum]
    simp only [Check.sum, came]
  · exact acceptsUndefined_iff.2
      ⟨none, run_none_of_plain plain fun left right eq ↦ h ⟨left, right, eq⟩⟩

/-- Transforms leave undefined input alone. -/
theorem acceptsUndefined_coerced {steps : List Transform} {notes : Annotations} :
    AcceptsUndefined ⟨.coerced wrapped steps, notes⟩ ↔ wrapped.AcceptsUndefined := by
  rw [acceptsUndefined_iff, acceptsUndefined_iff, run_coerced]
  rfl

/-- Labels leave undefined input alone. -/
theorem acceptsUndefined_enum {mapping : EnumMapping} {notes : Annotations} :
    AcceptsUndefined ⟨.enum wrapped mapping, notes⟩ ↔ wrapped.AcceptsUndefined := by
  rw [acceptsUndefined_iff, acceptsUndefined_iff, run_enum]
  rfl

/-- A policy for unknown keys has nothing to do with undefined input. -/
theorem run_none_withUnknownKeys (t : Ty) (unknownKeys : UnknownKeys) :
    (t.withUnknownKeys unknownKeys).run none = t.run none := by
  induction t using Ty.induction with
  | constrained wrapped rule notes ih =>
    show run ⟨.constrained (wrapped.withUnknownKeys unknownKeys) rule, notes⟩ none = _
    rw [run_constrained, run_constrained, Check.constrained, Check.constrained, ih]
  | coerced wrapped steps notes ih =>
    show run ⟨.coerced (wrapped.withUnknownKeys unknownKeys) steps, notes⟩ none = _
    rw [run_coerced, run_coerced]
    exact ih
  | defaulted wrapped value notes =>
    show run ⟨.defaulted (wrapped.withUnknownKeys unknownKeys) value, notes⟩ none = _
    rw [run_defaulted, run_defaulted]
    rfl
  | lax wrapped notes ih =>
    show run ⟨.lax (wrapped.withUnknownKeys unknownKeys), notes⟩ none = _
    rw [run_lax, run_lax, Check.lax, Check.lax, ih]
  | enum wrapped mapping notes ih =>
    show run ⟨.enum (wrapped.withUnknownKeys unknownKeys) mapping, notes⟩ none = _
    rw [run_enum, run_enum]
    exact ih
  | schema fields _ notes =>
    show run ⟨.schema fields unknownKeys, notes⟩ none = _
    rw [run_schema, run_schema]
    rfl
  | nominal | sum | array | dictionary => rfl

/-- In a bare type undefined input comes to a value only by way of a sum at the end of the spine. -/
theorem Bare.run_none (bare : t.Bare) (noSum : ∀ left right, t.core.kind ≠ .sum left right) :
    t.run none = .ok none := by
  induction t using Ty.induction with
  | constrained wrapped rule notes ih =>
    rw [run_constrained, Check.constrained_of_ok_none (ih (bare.of_wrapped rfl) noSum)]
  | coerced wrapped steps notes ih =>
    rw [run_coerced]
    exact ih (bare.of_wrapped rfl) noSum
  | enum wrapped mapping notes ih =>
    rw [run_enum]
    exact ih (bare.of_wrapped rfl) noSum
  | defaulted => cases (bare _ (mem_spine_self _)).2.2
  | lax => cases (bare _ (mem_spine_self _)).1
  | nominal | sum | array | schema | dictionary => exact run_none_of_plain rfl noSum

/-! ### Narrowing -/

/-- A decoration other than laxness and defaults may be put in front of a bare type. -/
theorem Bare.decorate (bare : wrapped.Bare) (decorates : t.kind.wrapped? = some wrapped)
    (strict : t.isLax = false) (unfilled : t.isDefaulted = false) : t.Bare := by
  intro s mem
  rw [spine_eq_cons decorates strict] at mem
  rcases List.mem_cons.1 mem with rfl | mem
  · refine ⟨strict, ?_, unfilled⟩
    rw [isOptional]
    split
    · rename_i eq
      rw [eq] at decorates
      cases decorates
    · rfl
  · exact bare s mem

/-- A type that decorates nothing is bare unless it is optional. -/
theorem bare_of_plain (plain : t.kind.wrapped? = none) (notOptional : t.isOptional = false) :
    t.Bare := by
  intro s mem
  rw [spine_eq_singleton plain, List.mem_singleton] at mem
  subst mem
  obtain ⟨unfilled, strict, -⟩ := no_decoration_of_plain plain
  exact ⟨strict, notOptional, unfilled⟩

/-- A type that is not bare has undefined input taken care of before it gets to a rule: by a
default, which is there or inside, by laxness, or by null. -/
theorem Narrows.acceptsUndefined_of_not_bare {ps : List Predicate} {u : Ty}
    (narrows : Narrows ps t u) (innermost : t.RuleInnermost) (covered : ¬t.Bare) :
    u.AcceptsUndefined := by
  induction narrows with
  | constrained wrapped rule notes =>
    -- under a rule there is no decoration, so only null can keep the type from being bare
    have plain : wrapped.kind.wrapped? = none := innermost _ (mem_spine_self _) _ _ rfl
    have optional : wrapped.isOptional = true := by
      rcases eq : wrapped.isOptional with - | -
      · exact absurd ((bare_of_plain plain eq).decorate rfl rfl rfl) covered
      · rfl
    refine acceptsUndefined_iff.2 ⟨none, ?_⟩
    rw [run_constrained, Check.constrained_of_ok_none (run_none_of_isOptional optional)]
  | coerced _ _ _ ih =>
    refine acceptsUndefined_coerced.2 (ih ((ruleInnermost_iff.1 innermost).2 _ rfl rfl) ?_)
    exact fun bare ↦ covered (bare.decorate rfl rfl rfl)
  | enum _ _ _ ih =>
    refine acceptsUndefined_enum.2 (ih ((ruleInnermost_iff.1 innermost).2 _ rfl rfl) ?_)
    exact fun bare ↦ covered (bare.decorate rfl rfl rfl)
  | defaulted => exact acceptsUndefined_of_isDefaulted rfl
  | lax => exact acceptsUndefined_of_isLax rfl
  | optional => exact acceptsUndefined_iff.2 ⟨none, run_none_of_isOptional rfl⟩
  | core plain notOptional => exact absurd (bare_of_plain plain notOptional) covered

/-- Narrowing a type that accepts undefined input gives another one, as long as the predicates hold
of what comes out of a bare type. -/
theorem Narrows.acceptsUndefined {ps : List Predicate} {u : Ty} (narrows : Narrows ps t u)
    (innermost : t.RuleInnermost) (accepts : t.AcceptsUndefined) (keeps : t.KeepsUndefined ps) :
    u.AcceptsUndefined := by
  -- in a bare type the predicates are enforced last; in any other they are never reached
  by_cases bare : t.Bare
  · have eq := congrFun (narrows.run_eq bare.unsheltered bare.fixesDefaults) none
    obtain ⟨output, came⟩ := acceptsUndefined_iff.1 accepts
    refine acceptsUndefined_iff.2 ⟨output, ?_⟩
    rw [eq]
    cases output with
    | none => exact Check.constrained_of_ok_none came
    | some v =>
      have holds := keeps bare v (checkUndefined_eq_ok_iff.2 came)
      exact Check.constrained_eq_ok_some_iff.2 ⟨came, holds⟩
  · exact narrows.acceptsUndefined_of_not_bare innermost bare

/-- If a narrowed type accepts undefined input, the predicates hold of what came out before. -/
theorem Narrows.keepsUndefined {ps : List Predicate} {u : Ty} (narrows : Narrows ps t u)
    (accepts : u.AcceptsUndefined) : t.KeepsUndefined ps := by
  intro bare v came
  obtain ⟨output, outcome⟩ := acceptsUndefined_iff.1 accepts
  have eq := congrFun (narrows.run_eq bare.unsheltered bare.fixesDefaults) none
  rw [eq, Check.constrained_of_ok_some (checkUndefined_eq_ok_iff.1 came)] at outcome
  exact (Rule.enforce_eq_ok_iff.1 outcome).2

/-! ### Any sequence of applications -/

/-- One application of a builder keeps undefined input accepted, as long as predicates are put
where they hold of what it comes to. -/
theorem acceptsUndefined_of_build {b : Builder} {types : List Ty} (built : b.build types = some t)
    (innermost : ∀ s ∈ types, s.RuleInnermost) (given : ∀ s ∈ types, s.AcceptsUndefined)
    (keeps : ∀ s ps, types = [s] → b.rule? = some ps → s.KeepsUndefined ps) :
    t.AcceptsUndefined := by
  cases Builder.makes_of_build built with
  | plain plain parts =>
    refine acceptsUndefined_of_plain plain fun left right eq ↦ ?_
    rcases parts left (by rw [eq]; exact List.mem_cons_self) with mem | rfl
    · exact given left mem
    · exact acceptsUndefined_of_plain rfl fun _ _ eq ↦ by cases eq
  | merged _ _ _ _ _ kind =>
    refine acceptsUndefined_of_plain (by rw [kind]; rfl) fun _ _ eq ↦ ?_
    cases kind.symm.trans eq
  | narrowed one rule narrows shape =>
    subst one
    have inner := narrows.acceptsUndefined (innermost _ List.mem_cons_self)
      (given _ List.mem_cons_self) (keeps _ _ rfl rule)
    rcases shape with rfl | ⟨mapping, rfl⟩
    · exact inner
    · exact acceptsUndefined_enum.2 inner
  | @coerced s wrapped steps one eq shape =>
    subst one
    have outer := given s List.mem_cons_self
    have inner : wrapped.AcceptsUndefined := by
      rcases shape with rfl | ⟨rest, eq'⟩
      · exact outer
      · rw [acceptsUndefined_iff,
          run_eq_of_kind_eq (s := ofKind (.coerced wrapped rest)) eq'] at outer
        exact acceptsUndefined_coerced.1 (acceptsUndefined_iff.2 outer)
    rw [acceptsUndefined_iff, run_eq_of_kind_eq (s := ofKind (.coerced wrapped steps)) eq]
    exact acceptsUndefined_iff.1 (acceptsUndefined_coerced.2 inner)
  | defaulted _ _ eq => exact acceptsUndefined_of_isDefaulted (by rw [isDefaulted, eq])
  | lax lax => exact acceptsUndefined_of_isLax lax
  | policy one _ eq =>
    subst one eq
    rw [acceptsUndefined_iff, run_none_withUnknownKeys]
    exact acceptsUndefined_iff.1 (given _ List.mem_cons_self)
  | annotated one eq =>
    subst one
    rw [acceptsUndefined_iff, run_eq_of_kind_eq eq]
    exact acceptsUndefined_iff.1 (given _ List.mem_cons_self)

variable {allowed : Builder → List Ty → Prop}

/-- If predicates are only put on types where they hold of what undefined input comes to, undefined
input fails for no built type. -/
theorem Built.acceptsUndefined (built : t.Built allowed)
    (keeps : ∀ b s u ps, Built allowed s → b.rule? = some ps → allowed b [s] →
      b.build [s] = some u → s.KeepsUndefined ps) : t.AcceptsUndefined := by
  induction built with
  | intro b types given ok built ih =>
    refine acceptsUndefined_of_build built (fun s mem ↦ (given s mem).ruleInnermost) ih ?_
    rintro s ps rfl rule
    exact keeps b s _ ps (given s List.mem_cons_self) rule ok built

/-- **When undefined input never fails.** Under a discipline in building, undefined input fails for
no type exactly if predicates are put on bare types only where they hold of the value that undefined
input comes to there. In a bare type whose spine does not end in a sum it comes to none. -/
theorem acceptsUndefined_iff_keepsUndefined (allowed : Builder → List Ty → Prop) :
    ((∀ t, Built allowed t → ∃ output, t.checkUndefined = .ok output) ↔
      ∀ b t u ps, Built allowed t → b.rule? = some ps → allowed b [t] → b.build [t] = some u →
        t.KeepsUndefined ps) ∧
    ∀ t : Ty, t.Bare → (∀ left right, t.core.kind ≠ .sum left right) →
      t.checkUndefined = .ok none := by
  refine ⟨⟨fun accepts b t u ps built rule ok made ↦ ?_, fun keeps t built ↦ ?_⟩,
    fun t bare noSum ↦ checkUndefined_eq_ok_iff.2 (bare.run_none noSum)⟩
  · have one : ∀ s ∈ [t], Built allowed s := by
      intro s mem
      rw [List.mem_singleton.1 mem]
      exact built
    have outermost : u.AcceptsUndefined := accepts u (.intro b [t] one ok made)
    obtain ⟨inner, narrows, shape⟩ := Builder.narrows_of_rule? rule made
    refine narrows.keepsUndefined ?_
    rcases shape with rfl | ⟨mapping, rfl⟩
    · exact outermost
    · exact acceptsUndefined_enum.1 outermost
  · exact built.acceptsUndefined keeps

/-- The integers, with zero as a default, or the strings. -/
def zeroOrText : Ty :=
  sum (ofKind (.defaulted (nominal .integer) (.ofUInt64 0))) (nominal .string)

/-- Of these, what is above zero. -/
def aboveZero : Ty := ofKind (.constrained zeroOrText [.above (.integer (.ofUInt64 0))])

/-- Building with primitive kinds, sums, defaults and predicates only. -/
def Elementary (b : Builder) (_ : List Ty) : Prop :=
  (b matches .nominal _ | .sum | .withDefault _ | .constrain _) = true

/-- Undefined input comes to zero on the left, and then zero is not above zero. -/
theorem aboveZero_refuses_undefined :
    Built Elementary aboveZero ∧
    aboveZero.checkUndefined = .error (.constraint (.ofUInt64 0)
      ⟨"gt?", [.ofUInt64 0], .ofUInt64 0⟩) := by
  have integer : Built Elementary (nominal .integer) :=
    .intro (.nominal .integer) [] (fun _ mem ↦ by cases mem) rfl rfl
  have string : Built Elementary (nominal .string) :=
    .intro (.nominal .string) [] (fun _ mem ↦ by cases mem) rfl rfl
  have zero : Built Elementary (ofKind (.defaulted (nominal .integer) (.ofUInt64 0))) := by
    refine .intro (.withDefault (.ofUInt64 0)) [nominal .integer] ?_ rfl rfl
    simpa using integer
  have either : Built Elementary zeroOrText := by
    refine .intro .sum [_, _] ?_ rfl rfl
    simpa using ⟨zero, string⟩
  refine ⟨.intro (.constrain [.above (.integer (.ofUInt64 0))]) [zeroOrText] ?_ rfl rfl, rfl⟩
  simpa using either

end JsonTyping.Ty
