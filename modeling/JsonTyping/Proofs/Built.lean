import JsonTyping.Proofs.Enumeration

/-!
# Built types

Types are made by builders: an operation with its arguments is applied to types made before, and
yields a type or refuses. `Ty.Built allowed` holds of the types that any sequence of applications
reaches, as long as `allowed` lets each of them through; so `Ty.Built` can be asked both what holds
of everything that can be built and what a discipline in building is worth.

A fact about built types is proved by one step, from the parts of an application to its result, and
then by induction on `Ty.Built`. The step taken here is that rules stand innermost: on the spine of
a built type, a rule is never in front of another decoration (`Built.ruleInnermost`).
-/

namespace JsonTyping

/-- An operation that makes a type of types, with its other arguments. -/
inductive Builder where
  | nominal (p : Primitive)
  | sum
  | optional
  | array
  /-- Declared keys by their written names, one for each type. -/
  | schema (names : List String)
  | dictionary
  | constrain (ps : List Predicate)
  | coerce (step : Transform)
  | withDefault (value : Value)
  | enumeration (labels : List Value)
  | enumerate (mapping : EnumMapping)
  | toLax
  | withUnknownKeys (unknownKeys : UnknownKeys)
  | strict
  | merge
  | annotate (key : String) (value : Value)
  | pristine

namespace Builder

/-- What a builder makes of types; nothing if it refuses or if it takes another number of types. -/
def build : Builder → List Ty → Option Ty
  | nominal p, [] => some (.nominal p)
  | sum, [left, right] => some (.sum left right)
  | optional, [t] => some t.optional
  | array, [t] => some t.array
  | schema names, types => some (.schema (names.zip types))
  | dictionary, [key, value] => some (.dictionary key value)
  | constrain ps, [t] => (t.constrain ps).toOption
  | coerce step, [t] => some (t.coerce step)
  | withDefault value, [t] => (t.withDefault value).toOption
  | enumeration labels, [t] => (t.enumeration labels).toOption
  | enumerate mapping, [t] => (t.enumerate mapping).toOption
  | toLax, [t] => some t.toLax
  | withUnknownKeys unknownKeys, [t] => some (t.withUnknownKeys unknownKeys)
  | strict, [t] => some t.strict
  | merge, [t, other] => t.merge? other
  | annotate key value, [t] => some (t.annotate key value)
  | pristine, [t] => some t.pristine
  | _, _ => none

/-- The predicates that a builder puts on its type, if it puts any. -/
def rule? : Builder → Option Rule
  | constrain ps => some ps
  | enumeration labels => some [.includedIn labels]
  | enumerate mapping => some [.includedIn mapping.labels]
  | _ => none

/-- The policy for unknown keys that a builder changes to, if it changes the policy. -/
def policy? : Builder → Option UnknownKeys
  | withUnknownKeys unknownKeys => some unknownKeys
  | strict => some .reject
  | _ => none

end Builder

/-- The types that applications of builders reach, as far as the applications are allowed. -/
inductive Ty.Built (allowed : Builder → List Ty → Prop) : Ty → Prop
  | intro (b : Builder) (types : List Ty) {t : Ty} :
      (∀ s ∈ types, Built allowed s) → allowed b types → b.build types = some t → Built allowed t

namespace Ty

/-! ### Declared keys -/

/-- A key of two lists of declarations together is declared in one of them. -/
theorem eq_or_mem_of_mem_declare {field other : Field Ty} {fields : List (Field Ty)}
    (mem : other ∈ declare field fields) : other = field ∨ other ∈ fields := by
  induction fields with
  | nil => exact .inl (List.mem_singleton.1 mem)
  | cons first fields ih =>
    rw [declare] at mem
    split at mem
    · exact (List.mem_cons.1 mem).imp_right (List.mem_cons_of_mem _)
    · rcases List.mem_cons.1 mem with rfl | mem
      · exact .inr List.mem_cons_self
      · exact (ih mem).imp_right (List.mem_cons_of_mem _)

theorem mem_or_mem_of_mem_declareAll {field : Field Ty} {fields added : List (Field Ty)}
    (mem : field ∈ declareAll fields added) : field ∈ fields ∨ field ∈ added := by
  induction added generalizing fields with
  | nil => exact .inl mem
  | cons first added ih =>
    rcases ih mem with mem | mem
    · rcases eq_or_mem_of_mem_declare mem with rfl | mem
      · exact .inr List.mem_cons_self
      · exact .inl mem
    · exact .inr (List.mem_cons_of_mem _ mem)

theorem type_fieldOfName (name : String) (t : Ty) : (fieldOfName name t).type = t := by
  rw [fieldOfName]
  split <;> rfl

/-- The types of the keys of a schema are those it was given. -/
theorem exists_mem_of_mem_parts_schema {named : List (String × Ty)} {p : Ty}
    (mem : p ∈ (schema named).kind.parts) : ∃ name, (name, p) ∈ named := by
  obtain ⟨field, declared, rfl⟩ := List.mem_map.1 mem
  rcases mem_or_mem_of_mem_declareAll declared with mem | mem
  · cases mem
  · obtain ⟨⟨name, t⟩, given, rfl⟩ := List.mem_map.1 mem
    rw [type_fieldOfName]
    exact ⟨name, given⟩

end Ty

namespace Builder

/-! ### What a builder can do -/

/-- A change of policy never refuses. -/
theorem build_of_policy? {b : Builder} {unknownKeys : UnknownKeys}
    (changes : b.policy? = some unknownKeys) (t : Ty) :
    b.build [t] = some (t.withUnknownKeys unknownKeys) := by
  cases b <;> cases changes <;> rfl

/-- What a builder can make of types, as far as layers go. -/
inductive Makes (b : Builder) (types : List Ty) (t : Ty) : Prop
  /-- A layer that decorates nothing, over the given types and null. -/
  | plain : t.kind.wrapped? = none → (∀ p ∈ t.kind.parts, p ∈ types ∨ p = .nominal .nil) →
      Makes b types t
  /-- A schema over declarations from two schemas. -/
  | merged {s other : Ty} {fields added declared : List (Field Ty)}
      {unknownKeys policy : UnknownKeys} : s ∈ types → other ∈ types →
      s.kind = .schema fields unknownKeys → other.kind = .schema added policy →
      (∀ field ∈ declared, field ∈ fields ∨ field ∈ added) →
      t.kind = .schema declared unknownKeys → Makes b types t
  /-- A narrowed type, which may have an enum on top. -/
  | narrowed {s u : Ty} {ps : List Predicate} : types = [s] → b.rule? = some ps →
      s.Narrows ps u → (t = u ∨ ∃ mapping, t = .ofKind (.enum u mapping)) → Makes b types t
  /-- A transform in front of the type or of the transforms that it has. -/
  | coerced {s wrapped : Ty} {steps : List Transform} : types = [s] →
      t.kind = .coerced wrapped steps → (wrapped = s ∨ ∃ rest, s.kind = .coerced wrapped rest) →
      Makes b types t
  /-- A default that the type accepts. -/
  | defaulted {s : Ty} {value output : Value} : types = [s] → s.check value = .ok output →
      t.kind = .defaulted s value → Makes b types t
  /-- A lax type. -/
  | lax : t.isLax = true → Makes b types t
  /-- The type under another policy for unknown keys. -/
  | policy {s : Ty} {unknownKeys : UnknownKeys} : types = [s] → b.policy? = some unknownKeys →
      t = s.withUnknownKeys unknownKeys → Makes b types t
  /-- The type with other annotations. -/
  | annotated {s : Ty} : types = [s] → t.kind = s.kind → Makes b types t

/-- A builder that puts predicates on a type narrows it, and may put labels on top. -/
theorem narrows_of_rule? {b : Builder} {s t : Ty} {ps : List Predicate}
    (rule : b.rule? = some ps) (built : b.build [s] = some t) :
    ∃ u, s.Narrows ps u ∧ (t = u ∨ ∃ mapping, t = .ofKind (.enum u mapping)) := by
  cases b with
  | constrain =>
    cases rule
    exact ⟨t, .of_constrain (Ty.toOption_eq_some_iff.1 built), .inl rfl⟩
  | enumeration labels =>
    cases rule
    obtain ⟨-, u, narrows, rfl⟩ := Ty.enumerate_eq_ok_iff.1 (Ty.toOption_eq_some_iff.1 built)
    have same : EnumMapping.labels (labels.map fun label ↦ (label, label)) = labels := by
      simp [EnumMapping.labels, Function.comp_def]
    rw [same] at narrows
    exact ⟨u, narrows, .inr ⟨_, rfl⟩⟩
  | enumerate mapping =>
    cases rule
    obtain ⟨-, u, narrows, rfl⟩ := Ty.enumerate_eq_ok_iff.1 (Ty.toOption_eq_some_iff.1 built)
    exact ⟨u, narrows, .inr ⟨_, rfl⟩⟩
  | nominal | sum | optional | array | schema | dictionary | coerce | withDefault | toLax
  | withUnknownKeys | strict | merge | annotate | pristine => cases rule

/-- Whatever a builder makes, it makes in one of these ways. -/
theorem makes_of_build {b : Builder} {types : List Ty} {t : Ty} :
    b.build types = some t → b.Makes types t := by
  -- one case for each builder on as many types as it takes, and one for all other numbers of types
  fun_cases build b types with
  | case1 p =>
    rintro ⟨⟩
    exact .plain rfl fun q mem ↦ by cases mem
  | case2 left right | case6 left right =>
    rintro ⟨⟩
    exact .plain rfl fun p mem ↦ .inl mem
  | case3 s =>
    rintro ⟨⟩
    refine .plain rfl fun p mem ↦ ?_
    rcases List.mem_cons.1 mem with rfl | mem
    · exact .inr rfl
    · exact .inl mem
  | case4 s =>
    rintro ⟨⟩
    exact .plain rfl fun p mem ↦ .inl mem
  | case5 names =>
    rintro ⟨⟩
    refine .plain rfl fun p mem ↦ .inl ?_
    obtain ⟨name, given⟩ := Ty.exists_mem_of_mem_parts_schema mem
    exact (List.of_mem_zip given).2
  | case7 ps s =>
    intro built
    obtain ⟨u, narrows, shape⟩ := narrows_of_rule? (b := .constrain ps) (s := s) rfl built
    exact .narrowed rfl rfl narrows shape
  | case8 step s =>
    rintro ⟨⟩
    obtain ⟨k, notes⟩ := s
    cases k with
    | coerced wrapped steps => exact .coerced rfl rfl (.inr ⟨steps, rfl⟩)
    | nominal | constrained | defaulted | lax | sum | enum | array | schema | dictionary =>
      exact .coerced rfl rfl (.inl rfl)
  | case9 value s =>
    intro h
    obtain ⟨-, ⟨output, checked⟩, rfl⟩ :=
      Ty.withDefault_eq_ok_iff.1 (Ty.toOption_eq_some_iff.1 h)
    exact .defaulted rfl checked rfl
  | case10 labels s =>
    intro built
    obtain ⟨u, narrows, shape⟩ := narrows_of_rule? (b := .enumeration labels) (s := s) rfl built
    exact .narrowed rfl rfl narrows shape
  | case11 mapping s =>
    intro built
    obtain ⟨u, narrows, shape⟩ := narrows_of_rule? (b := .enumerate mapping) (s := s) rfl built
    exact .narrowed rfl rfl narrows shape
  | case12 s =>
    rintro ⟨⟩
    exact .lax s.isLax_toLax
  | case13 unknownKeys s | case14 s =>
    rintro ⟨⟩
    exact .policy rfl rfl rfl
  | case15 s other =>
    unfold Ty.merge?
    split
    · rename_i fields unknownKeys added policy eq eq'
      rintro ⟨⟩
      exact .merged List.mem_cons_self (List.mem_cons_of_mem _ List.mem_cons_self) eq eq'
        (fun field mem ↦ Ty.mem_or_mem_of_mem_declareAll mem) rfl
    · rintro ⟨⟩
  | case16 key value s | case17 s =>
    rintro ⟨⟩
    exact .annotated rfl rfl
  | case18 => rintro ⟨⟩

end Builder

namespace Ty

/-! ### Rules stand innermost -/

/-- Whether the rules on the spine of a type are in front of nothing but the end of the spine. -/
def RuleInnermost (t : Ty) : Prop :=
  ∀ s ∈ t.spine, ∀ wrapped rule, s.kind = .constrained wrapped rule → wrapped.kind.wrapped? = none

variable {t : Ty}

/-- The condition is about the outermost layer and about what it wraps. -/
theorem ruleInnermost_iff :
    t.RuleInnermost ↔
      (∀ wrapped rule, t.kind = .constrained wrapped rule → wrapped.kind.wrapped? = none) ∧
        ∀ wrapped, t.kind.wrapped? = some wrapped → t.isLax = false → wrapped.RuleInnermost := by
  constructor
  · intro h
    exact ⟨h t (mem_spine_self t), fun wrapped decorates strict s mem ↦
      h s (mem_spine_of_wrapped decorates strict mem)⟩
  · rintro ⟨outermost, inner⟩ s mem
    rcases eq : t.kind.wrapped? with - | wrapped
    · rw [spine_eq_singleton eq, List.mem_singleton] at mem
      exact mem ▸ outermost
    · rcases lax : t.isLax with - | -
      · rw [spine_eq_cons eq lax] at mem
        rcases List.mem_cons.1 mem with rfl | mem
        · exact outermost
        · exact inner wrapped eq lax s mem
      · rw [spine_eq_singleton_of_isLax lax, List.mem_singleton] at mem
        exact mem ▸ outermost

theorem ruleInnermost_of_plain (plain : t.kind.wrapped? = none) : t.RuleInnermost := by
  refine ruleInnermost_iff.2 ⟨fun wrapped rule eq ↦ ?_, fun wrapped decorates ↦ ?_⟩
  · rw [eq] at plain
    cases plain
  · rw [plain] at decorates
    cases decorates

theorem ruleInnermost_of_isLax (lax : t.isLax = true) : t.RuleInnermost := by
  refine ruleInnermost_iff.2 ⟨fun wrapped rule eq ↦ ?_, fun wrapped _ strict ↦ ?_⟩
  · rw [isLax, eq] at lax
    cases lax
  · rw [lax] at strict
    cases strict

/-- A decoration that is no rule may be put in front of any type. -/
theorem RuleInnermost.of_wrapped {wrapped : Ty} (h : wrapped.RuleInnermost)
    (decorates : t.kind.wrapped? = some wrapped) (noRule : t.isConstrained = false) :
    t.RuleInnermost := by
  refine ruleInnermost_iff.2 ⟨fun inner rule eq ↦ ?_, fun inner eq _ ↦ ?_⟩
  · rw [isConstrained, eq] at noRule
    cases noRule
  · cases decorates.symm.trans eq
    exact h

/-- Predicates go to the rule that is there or to the end of the spine. -/
theorem Narrows.ruleInnermost {ps : List Predicate} {u : Ty} (h : Narrows ps t u)
    (innermost : t.RuleInnermost) : u.RuleInnermost := by
  induction h with
  | constrained wrapped rule notes =>
    obtain ⟨outermost, inner⟩ := ruleInnermost_iff.1 innermost
    refine ruleInnermost_iff.2 ⟨?_, inner⟩
    rintro _ _ ⟨⟩
    exact outermost wrapped rule rfl
  | coerced _ _ _ ih | defaulted _ _ _ _ ih | enum _ _ _ ih =>
    have inner := ih ((ruleInnermost_iff.1 innermost).2 _ rfl rfl)
    exact inner.of_wrapped rfl rfl
  | lax => exact ruleInnermost_of_isLax rfl
  | optional => exact ruleInnermost_of_plain rfl
  | core plain _ =>
    refine ruleInnermost_iff.2 ⟨?_, ?_⟩
    · rintro _ _ ⟨⟩
      exact plain
    · rintro _ ⟨⟩ _
      exact ruleInnermost_of_plain plain

theorem RuleInnermost.withUnknownKeys (h : t.RuleInnermost) (unknownKeys : UnknownKeys) :
    (t.withUnknownKeys unknownKeys).RuleInnermost := by
  intro s mem wrapped rule eq
  rw [spine_withUnknownKeys] at mem
  obtain ⟨⟨k, notes⟩, old, rfl⟩ := List.mem_map.1 mem
  cases k with
  | constrained inner rule' =>
    cases eq
    show (inner.withUnknownKeys unknownKeys).kind.wrapped? = none
    rw [wrapped?_withUnknownKeys, h _ old inner rule rfl]
    rfl
  | nominal | coerced | defaulted | lax | sum | enum | array | schema | dictionary => cases eq

/-- One application of a builder keeps rules innermost. -/
theorem ruleInnermost_of_build {b : Builder} {types : List Ty} (built : b.build types = some t)
    (given : ∀ s ∈ types, s.RuleInnermost) : t.RuleInnermost := by
  cases Builder.makes_of_build built with
  | plain plain _ => exact ruleInnermost_of_plain plain
  | merged _ _ _ _ _ eq => exact ruleInnermost_of_plain (by rw [eq]; rfl)
  | narrowed one _ narrows shape =>
    subst one
    have inner := narrows.ruleInnermost (given _ List.mem_cons_self)
    rcases shape with rfl | ⟨mapping, rfl⟩
    · exact inner
    · exact inner.of_wrapped rfl rfl
  | @coerced s wrapped steps one eq shape =>
    subst one
    have inner : wrapped.RuleInnermost := by
      have outer := given s List.mem_cons_self
      rcases shape with rfl | ⟨rest, eq'⟩
      · exact outer
      · exact (ruleInnermost_iff.1 outer).2 wrapped (by rw [eq']; rfl) (by rw [isLax, eq'])
    exact inner.of_wrapped (by rw [eq]; rfl) (by rw [isConstrained, eq])
  | defaulted one _ eq =>
    subst one
    exact (given _ List.mem_cons_self).of_wrapped (by rw [eq]; rfl) (by rw [isConstrained, eq])
  | lax lax => exact ruleInnermost_of_isLax lax
  | policy one _ eq =>
    subst one eq
    exact (given _ List.mem_cons_self).withUnknownKeys _
  | annotated one eq =>
    subst one
    have same := ruleInnermost_iff.1 (given _ List.mem_cons_self)
    rw [isLax, ← eq] at same
    exact ruleInnermost_iff.2 same

/-- On the spine of a built type no rule is in front of another decoration. -/
theorem Built.ruleInnermost {allowed : Builder → List Ty → Prop} (built : t.Built allowed) :
    t.RuleInnermost := by
  induction built with
  | intro b types _ _ built ih => exact ruleInnermost_of_build built ih

end Ty

end JsonTyping
