import JsonTyping.Ty.Building

/-!
# The spine of a type

The *spine* of a type is the chain of types that is reached from it through rules, transforms,
defaults and enums. It ends in a type that decorates nothing, or in a lax one: laxness changes what
a rule further in can do, so the spine does not go on through it.

Three conditions on spines are the hypotheses of most facts about rules and defaults.

* `Ty.Unsheltered`: the spine has no lax layer and does not end in an optional type, so that
  predicates put on the type concern everything that it yields.
* `Ty.FixesDefaults`: every default on the spine comes out of the type under it unchanged.
* `Ty.Bare`: the type is unsheltered and the spine has no default at all.

Further out than the spine, `Ty.ExposedIn` is occurrence anywhere in a type but below a lax layer.

Changing the policy for unknown keys keeps the spine layer by layer (`spine_withUnknownKeys`).
-/

namespace JsonTyping

/-- The parts of a layer. -/
def Kind.parts {α : Type} : Kind α → List α
  | nominal _ => []
  | constrained wrapped _ | coerced wrapped _ | defaulted wrapped _ | lax wrapped
  | enum wrapped _ => [wrapped]
  | sum left right => [left, right]
  | array member => [member]
  | schema fields _ => fields.map Field.type
  | dictionary key value => [key, value]

/-- What a decoration wraps is its one part. -/
theorem Kind.parts_of_wrapped? {α : Type} {k : Kind α} {wrapped : α}
    (decorates : k.wrapped? = some wrapped) : k.parts = [wrapped] := by
  cases k with
  | constrained | coerced | defaulted | lax | enum =>
    cases decorates
    rfl
  | nominal | sum | array | schema | dictionary => cases decorates

namespace Ty

/-- The types reached through rules, transforms, defaults and enums, from the outside in. -/
def spine : Ty → List Ty
  | t@⟨.constrained wrapped _, _⟩ => t :: spine wrapped
  | t@⟨.coerced wrapped _, _⟩ => t :: spine wrapped
  | t@⟨.defaulted wrapped _, _⟩ => t :: spine wrapped
  | t@⟨.enum wrapped _, _⟩ => t :: spine wrapped
  | t => [t]

variable {t wrapped : Ty}

/-- A decoration other than laxness stands in front of the spine of what it wraps. -/
theorem spine_eq_cons (decorates : t.kind.wrapped? = some wrapped) (strict : t.isLax = false) :
    t.spine = t :: wrapped.spine := by
  obtain ⟨k, notes⟩ := t
  cases k with
  | constrained | coerced | defaulted | enum =>
    cases decorates
    rfl
  | lax => cases strict
  | nominal | sum | array | schema | dictionary => cases decorates

/-- The spine of a type that decorates nothing is the type. -/
theorem spine_eq_singleton (plain : t.kind.wrapped? = none) : t.spine = [t] := by
  obtain ⟨k, notes⟩ := t
  cases k with
  | nominal | sum | array | schema | dictionary => rfl
  | constrained | coerced | defaulted | lax | enum => cases plain

/-- A type that decorates nothing passes no test for a decoration. -/
theorem no_decoration_of_plain (plain : t.kind.wrapped? = none) :
    t.isDefaulted = false ∧ t.isLax = false ∧ t.isEnum = false := by
  obtain ⟨k, notes⟩ := t
  cases k with
  | nominal | sum | array | schema | dictionary => exact ⟨rfl, rfl, rfl⟩
  | constrained | coerced | defaulted | lax | enum => cases plain

/-- The spine of a lax type is the type. -/
theorem spine_eq_singleton_of_isLax (lax : t.isLax = true) : t.spine = [t] := by
  obtain ⟨k, notes⟩ := t
  cases k with
  | lax => rfl
  | nominal | constrained | coerced | defaulted | sum | enum | array | schema | dictionary =>
    cases lax

theorem mem_spine_self (t : Ty) : t ∈ t.spine := by
  rw [spine.eq_def]
  split <;> exact List.mem_cons_self

theorem mem_spine_of_wrapped {s : Ty} (decorates : t.kind.wrapped? = some wrapped)
    (strict : t.isLax = false) (mem : s ∈ wrapped.spine) : s ∈ t.spine := by
  rw [spine_eq_cons decorates strict]
  exact List.mem_cons_of_mem _ mem

/-! ### Conditions on spines -/

/-- Whether predicates put on the type concern all that it yields: there is no laxness on the spine
and no null beside its end. -/
def Unsheltered (t : Ty) : Prop := ∀ s ∈ t.spine, s.isLax = false ∧ s.isOptional = false

/-- Whether every default on the spine comes out of the type under it unchanged. -/
def FixesDefaults (t : Ty) : Prop :=
  ∀ s ∈ t.spine, ∀ wrapped value, s.kind = .defaulted wrapped value →
    wrapped.check value = .ok value

/-- Whether the type is unsheltered and has no default on its spine. -/
def Bare (t : Ty) : Prop :=
  ∀ s ∈ t.spine, s.isLax = false ∧ s.isOptional = false ∧ s.isDefaulted = false

instance (t : Ty) : Decidable t.Unsheltered := inferInstanceAs (Decidable (∀ s ∈ t.spine, _))

instance (t : Ty) : Decidable t.Bare := inferInstanceAs (Decidable (∀ s ∈ t.spine, _))

theorem Unsheltered.of_wrapped (h : t.Unsheltered) (decorates : t.kind.wrapped? = some wrapped) :
    wrapped.Unsheltered := fun s mem ↦
  h s (mem_spine_of_wrapped decorates (h t (mem_spine_self t)).1 mem)

theorem FixesDefaults.of_wrapped (h : t.FixesDefaults) (decorates : t.kind.wrapped? = some wrapped)
    (strict : t.isLax = false) : wrapped.FixesDefaults := fun s mem ↦
  h s (mem_spine_of_wrapped decorates strict mem)

theorem FixesDefaults.check_eq {value : Value} {notes : Annotations}
    (h : FixesDefaults ⟨.defaulted wrapped value, notes⟩) : wrapped.check value = .ok value :=
  h _ (mem_spine_self _) wrapped value rfl

/-- A fixed default on top of fixed defaults. -/
theorem FixesDefaults.defaulted {value : Value} (notes : Annotations)
    (checked : wrapped.check value = .ok value) (h : wrapped.FixesDefaults) :
    FixesDefaults ⟨.defaulted wrapped value, notes⟩ := by
  intro s mem inner d eq
  rcases List.mem_cons.1 mem with rfl | mem
  · cases eq
    exact checked
  · exact h s mem inner d eq

theorem Bare.unsheltered (h : t.Bare) : t.Unsheltered := fun s mem ↦
  ⟨(h s mem).1, (h s mem).2.1⟩

/-- Where there are no defaults, all of them are fixed. -/
theorem Bare.fixesDefaults (h : t.Bare) : t.FixesDefaults := fun s mem _ _ eq ↦ by
  have noDefault := (h s mem).2.2
  rw [isDefaulted, eq] at noDefault
  cases noDefault

theorem Bare.of_wrapped (h : t.Bare) (decorates : t.kind.wrapped? = some wrapped) :
    wrapped.Bare := fun s mem ↦
  h s (mem_spine_of_wrapped decorates (h t (mem_spine_self t)).1 mem)

/-! ### Parts outside of lax layers -/

/-- Whether a type occurs in another one outside of its lax layers. -/
inductive ExposedIn (s : Ty) : Ty → Prop
  | self : ExposedIn s s
  | part {t p : Ty} : t.isLax = false → p ∈ t.kind.parts → ExposedIn s p → ExposedIn s t

theorem exposedIn_of_mem_spine {s : Ty} (mem : s ∈ t.spine) : s.ExposedIn t := by
  induction t using Ty.induction with
  | constrained wrapped _ _ ih | coerced wrapped _ _ ih | defaulted wrapped _ _ ih
  | enum wrapped _ _ ih =>
    rcases List.mem_cons.1 mem with rfl | mem
    · exact .self
    · exact .part rfl List.mem_cons_self (ih mem)
  | nominal | lax | sum | array | schema | dictionary =>
    rw [List.mem_singleton.1 mem]
    exact .self

/-! ### Spines under a change of policy -/

/-- A change of policy goes past decorations. -/
theorem wrapped?_withUnknownKeys (t : Ty) (unknownKeys : UnknownKeys) :
    (t.withUnknownKeys unknownKeys).kind.wrapped? =
      t.kind.wrapped?.map (withUnknownKeys · unknownKeys) := by
  obtain ⟨k, notes⟩ := t
  cases k <;> rfl

/-- Of two changes of policy the last counts. -/
theorem withUnknownKeys_withUnknownKeys (t : Ty) (first last : UnknownKeys) :
    (t.withUnknownKeys first).withUnknownKeys last = t.withUnknownKeys last := by
  induction t using Ty.induction with
  | constrained _ _ _ ih | coerced _ _ _ ih | defaulted _ _ _ ih | lax _ _ ih | enum _ _ _ ih =>
    simp only [withUnknownKeys, mapCore] at ih ⊢
    rw [ih]
  | nominal | sum | array | schema | dictionary => rfl

/-- Every type is under a policy already; for types other than schemas any policy will do. -/
theorem exists_withUnknownKeys_eq_self (t : Ty) :
    ∃ unknownKeys, t.withUnknownKeys unknownKeys = t := by
  induction t using Ty.induction with
  | constrained _ _ _ ih | coerced _ _ _ ih | defaulted _ _ _ ih | lax _ _ ih | enum _ _ _ ih =>
    obtain ⟨unknownKeys, eq⟩ := ih
    refine ⟨unknownKeys, ?_⟩
    simp only [withUnknownKeys, mapCore] at eq ⊢
    rw [eq]
  | schema _ unknownKeys => exact ⟨unknownKeys, rfl⟩
  | nominal | sum | array | dictionary => exact ⟨.ignore, rfl⟩

/-- A change of policy keeps the spine, each type on it being changed. -/
theorem spine_withUnknownKeys (t : Ty) (unknownKeys : UnknownKeys) :
    (t.withUnknownKeys unknownKeys).spine = t.spine.map (withUnknownKeys · unknownKeys) := by
  induction t using Ty.induction with
  | constrained wrapped _ _ ih | coerced wrapped _ _ ih | defaulted wrapped _ _ ih
  | enum wrapped _ _ ih => exact congrArg (_ :: ·) ih
  | nominal | lax | sum | array | schema | dictionary => rfl

end Ty

end JsonTyping
