import JsonTyping.Proofs.Enforcement
import JsonTyping.Proofs.Spine

/-!
# Narrowing a type by predicates

`Ty.constrain` carries predicates inward, past every decoration, and may refuse on the way because
a default no longer fits. `Ty.Narrows` says as a relation what it does to one layer after the
other, and `constrain_eq_ok_iff` that the two agree; facts about narrowed types are proved by
induction on the relation.

The predicates end up far inside, yet a type that is unsheltered and whose defaults are fixed runs
as if they were enforced last, on what the type yields (`Narrows.run_eq`).
-/

namespace JsonTyping.Ty

/-- A type accepts a default exactly when it is no enum and the value passes its check. -/
theorem withDefault_eq_ok_iff {t u : Ty} {value : Value} :
    t.withDefault value = .ok u ↔
      t.isEnum = false ∧ (∃ output, t.check value = .ok output) ∧
        u = ofKind (.defaulted t value) := by
  rw [withDefault]
  rcases e : t.isEnum with - | -
  · rcases c : t.check value with failure | output
    · simp
    · simp [eq_comm]
  · simp

/-! ### Narrowing as a relation -/

/-- How predicates change a type. They extend the rule that is there, pass all other decorations,
go to the branch of an optional type that is not null, and become a rule around what is left. A
default has to pass the check of the narrowed type. -/
inductive Narrows (ps : List Predicate) : Ty → Ty → Prop
  | constrained (wrapped : Ty) (rule : Rule) (notes : Annotations) :
      Narrows ps ⟨.constrained wrapped rule, notes⟩ ⟨.constrained wrapped (rule ++ ps), notes⟩
  | coerced {wrapped narrowed : Ty} (steps : List Transform) (notes : Annotations) :
      Narrows ps wrapped narrowed →
        Narrows ps ⟨.coerced wrapped steps, notes⟩ ⟨.coerced narrowed steps, notes⟩
  | defaulted {wrapped narrowed : Ty} {value output : Value} (notes : Annotations) :
      Narrows ps wrapped narrowed → narrowed.isEnum = false →
      narrowed.check value = .ok output →
        Narrows ps ⟨.defaulted wrapped value, notes⟩ ⟨.defaulted narrowed value, notes⟩
  | lax {wrapped narrowed : Ty} (notes : Annotations) :
      Narrows ps wrapped narrowed → Narrows ps ⟨.lax wrapped, notes⟩ ⟨.lax narrowed, notes⟩
  | enum {wrapped narrowed : Ty} (mapping : EnumMapping) (notes : Annotations) :
      Narrows ps wrapped narrowed →
        Narrows ps ⟨.enum wrapped mapping, notes⟩ ⟨.enum narrowed mapping, notes⟩
  | optional {left right narrowed : Ty} (notes : Annotations) :
      left.isNil = true → Narrows ps right narrowed →
        Narrows ps ⟨.sum left right, notes⟩ ⟨.sum (nominal .nil) narrowed, notes⟩
  | core {t : Ty} :
      t.kind.wrapped? = none → t.isOptional = false → Narrows ps t (ofKind (.constrained t ps))

/-- The first of two steps that succeed together has succeeded. -/
theorem exists_eq_ok_of_bind {α β ε : Type} {x : Except ε α} {f : α → Except ε β} {b : β}
    (h : (x >>= f) = .ok b) : ∃ a, x = .ok a ∧ f a = .ok b := by
  cases x with
  | error e => cases h
  | ok a => exact ⟨a, rfl, h⟩

theorem toOption_eq_some_iff {α ε : Type} {x : Except ε α} {a : α} :
    x.toOption = some a ↔ x = .ok a := by
  cases x <;> simp [Except.toOption]

theorem Narrows.of_constrain {ps : List Predicate} {t u : Ty} (h : constrain ps t = .ok u) :
    Narrows ps t u := by
  fun_induction constrain ps t generalizing u with
  | case1 wrapped rule notes =>
    cases h
    exact .constrained wrapped rule notes
  | case2 wrapped steps notes ih =>
    obtain ⟨narrowed, built, eq⟩ := exists_eq_ok_of_bind h
    cases eq
    exact .coerced steps notes (ih built)
  | case3 wrapped value notes ih =>
    obtain ⟨narrowed, built, rest⟩ := exists_eq_ok_of_bind h
    obtain ⟨defaulted, accepted, eq⟩ := exists_eq_ok_of_bind rest
    obtain ⟨noEnum, ⟨output, checked⟩, rfl⟩ := withDefault_eq_ok_iff.1 accepted
    cases eq
    exact .defaulted notes (ih built) noEnum checked
  | case4 wrapped notes ih =>
    obtain ⟨narrowed, built, eq⟩ := exists_eq_ok_of_bind h
    cases eq
    exact .lax notes (ih built)
  | case5 wrapped mapping notes ih =>
    obtain ⟨narrowed, built, eq⟩ := exists_eq_ok_of_bind h
    cases eq
    exact .enum mapping notes (ih built)
  | case6 left right notes isNil ih =>
    obtain ⟨narrowed, built, eq⟩ := exists_eq_ok_of_bind h
    cases eq
    exact .optional notes isNil (ih built)
  | case7 left right notes isNil =>
    cases h
    exact .core rfl (by simpa [isOptional] using isNil)
  | case8 t =>
    cases h
    obtain ⟨k, notes⟩ := t
    cases k <;> first | exact .core rfl rfl | simp_all

theorem Narrows.constrain_eq {ps : List Predicate} {t u : Ty} (h : Narrows ps t u) :
    constrain ps t = .ok u := by
  induction h with
  | constrained wrapped rule notes => rfl
  | coerced steps notes _ ih | lax notes _ ih | enum mapping notes _ ih =>
    rw [constrain, ih]
    rfl
  | defaulted notes _ noEnum checked ih =>
    rw [constrain, ih]
    have accepted := withDefault_eq_ok_iff.2 ⟨noEnum, ⟨_, checked⟩, rfl⟩
    simp only [bind, Except.bind, accepted]
    rfl
  | optional notes isNil _ ih =>
    rw [constrain, if_pos isNil, ih]
    rfl
  | @core t plain notOptional =>
    obtain ⟨k, notes⟩ := t
    cases k with
    | constrained | coerced | defaulted | lax | enum => cases plain
    | nominal | array | schema | dictionary => rfl
    | sum left right => rw [constrain, if_neg (by simpa [isOptional] using notOptional)]

/-- The relation is what the operation computes. -/
theorem constrain_eq_ok_iff {ps : List Predicate} {t u : Ty} :
    constrain ps t = .ok u ↔ Narrows ps t u :=
  ⟨Narrows.of_constrain, Narrows.constrain_eq⟩

/-! ### What a narrowed type does -/

/-- An unsheltered type with fixed defaults runs, when narrowed, as if the predicates were enforced
on what it yields. -/
theorem Narrows.run_eq {ps : List Predicate} {t u : Ty} (h : Narrows ps t u)
    (unsheltered : t.Unsheltered) (fixed : t.FixesDefaults) : u.run = t.run.constrained ps := by
  -- the rule is moved out past one decoration after the other
  induction h with
  | constrained wrapped rule notes =>
    rw [run_constrained, run_constrained]
    exact Check.constrained_append _ rule ps
  | coerced steps notes _ ih =>
    have inner := ih (unsheltered.of_wrapped rfl) (fixed.of_wrapped rfl rfl)
    rw [run_coerced, run_coerced, inner]
    exact Check.coerced_constrained _ ps steps
  | @defaulted wrapped narrowed value output notes _ _ checked ih =>
    have inner := ih (unsheltered.of_wrapped rfl) (fixed.of_wrapped rfl rfl)
    -- the value was checked again, and what came out of that check is the value itself
    have holds : ∀ p ∈ ps, p.test value = true := by
      have came := check_eq_ok_iff.1 checked
      rw [inner] at came
      obtain ⟨eq, kept⟩ := Check.constrained_eq_ok_some_iff.1 came
      rw [check_eq_ok_iff.1 fixed.check_eq] at eq
      cases eq
      exact kept
    rw [run_defaulted, run_defaulted, inner]
    exact Check.defaulted_constrained _ ps holds
  | lax notes => cases (unsheltered _ (mem_spine_self _)).1
  | enum mapping notes _ ih =>
    have inner := ih (unsheltered.of_wrapped rfl) (fixed.of_wrapped rfl rfl)
    rw [run_enum, run_enum, inner]
    exact Check.enum_constrained _ ps mapping
  | @optional left right narrowed notes isNil =>
    have notNil : left.isNil = false := (unsheltered _ (mem_spine_self _)).2
    rw [isNil] at notNil
    cases notNil
  | core => exact run_constrained _ _ _

/-- Predicates put on an unsheltered type with fixed defaults are enforced exactly. Failures and
missing values stay as they are. A value comes out if all predicates hold of it, and otherwise the
first predicate that does not is reported on it. -/
theorem constrain_outcome {ps : List Predicate} {t u : Ty} (unsheltered : t.Unsheltered)
    (fixed : t.FixesDefaults) (built : constrain ps t = .ok u) (input : Option Value) :
    (∀ failure, t.run input = .error failure → u.run input = .error failure) ∧
    (t.run input = .ok none → u.run input = .ok none) ∧
    ∀ v, t.run input = .ok (some v) →
      ((∀ p ∈ ps, p.test v = true) → u.run input = .ok (some v)) ∧
      ∀ before p after, ps = before ++ p :: after → (∀ q ∈ before, q.test v = true) →
        p.test v = false → u.run input = .error ⟨v, .constraint v ⟨p.name, p.args, v⟩⟩ := by
  have eq := congrFun ((Narrows.of_constrain built).run_eq unsheltered fixed) input
  refine ⟨fun failure h ↦ ?_, fun h ↦ ?_, fun v h ↦ ⟨fun holds ↦ ?_, ?_⟩⟩
  · rw [eq, Check.constrained_of_error h]
  · rw [eq, Check.constrained_of_ok_none h]
  · rw [eq, Check.constrained_of_ok_some h, Rule.enforce_of_forall holds]
  · rintro before p after rfl holds broken
    rw [eq, Check.constrained_of_ok_some h]
    exact Rule.enforce_append_cons holds broken

/-- A text; the empty one counts as undefined. -/
def word : Ty := (nominal .string).coerce .emptyToUndefined

/-- A text with a least length, which was put inside of the transform. -/
def longWord : Ty :=
  ofKind (.coerced (ofKind (.constrained (nominal .string) [.filled, .minSize 2]))
    [.emptyToUndefined])

/-- A name that is put in where the input is undefined or the empty text. -/
def nickname : Ty := ofKind (.defaulted word (.string "anon"))

/-- The same with a least length, which was put inside of the default and the transform. -/
def longNickname : Ty := ofKind (.defaulted longWord (.string "anon"))

theorem constrain_outcome_nickname :
    nickname.Unsheltered ∧ nickname.FixesDefaults ∧
    constrain [.filled, .minSize 2] nickname = .ok longNickname ∧
    nickname.run (some (.string "x")) = .ok (some (.string "x")) ∧
    longNickname.run (some (.string "x")) =
      .error ⟨.string "x", .constraint (.string "x")
        ⟨"min_size?", [.ofUInt64 2], .string "x"⟩⟩ := by
  have unsheltered : nickname.Unsheltered := by decide
  have fixed : nickname.FixesDefaults := .defaulted _ rfl (Bare.fixesDefaults (by decide))
  have built : constrain [.filled, .minSize 2] nickname = .ok longNickname := rfl
  have came : nickname.run (some (.string "x")) = .ok (some (.string "x")) := rfl
  obtain ⟨-, -, values⟩ := constrain_outcome unsheltered fixed built (some (.string "x"))
  exact ⟨unsheltered, fixed, built, came,
    (values _ came).2 [.filled] (.minSize 2) [] rfl (by decide) (by decide)⟩

end JsonTyping.Ty
