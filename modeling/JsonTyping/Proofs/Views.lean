import JsonTyping.Proofs.Enumeration
import JsonTyping.Proofs.Laxness

/-!
# Views of decorated types

What a type is a type of does not change when it is decorated. `Ty.SameViews` says that two types
show the same primitive kind, members, declared keys, types of keys and types of values. A
decoration has the same views as what it wraps (`sameViews_of_wrapped`), because every view looks
through decorations, and that is all that is needed of the views: as far as an operation puts
decorations on a type, or changes what is inside of decorations without a change of views there, it
keeps the views (`SameViews.decorate`).

Two operations reach a layer that decorates nothing. Predicates go into a branch of an optional
type, where they keep the primitive kind of the branch and so that of the sum, and sums show nothing
else. A change of policy goes to a schema, where it leaves the declared keys alone.

Making a type lax takes rules out of its parts too, so that the other views change; the primitive
kind stays.
-/

namespace JsonTyping.Ty

/-- Whether the views through decorations show the same of two types. -/
structure SameViews (t u : Ty) : Prop where
  /-- The primitive kinds of what the types yield are the same. -/
  primitive : u.primitive = t.primitive
  /-- If one of them is an array type, both are, of the same members. -/
  member? : u.member? = t.member?
  /-- If one of them is a schema, both are, with the same declared keys in the same order, each with
  its type and its mark. -/
  fields? : u.fields? = t.fields?
  /-- If one of them is a dictionary, both are, with the same type of keys. -/
  keyType? : u.keyType? = t.keyType?
  /-- If one of them is a dictionary, both are, with the same type of values. -/
  valueType? : u.valueType? = t.valueType?

variable {t u s : Ty}

theorem SameViews.refl (t : Ty) : t.SameViews t := ⟨rfl, rfl, rfl, rfl, rfl⟩

theorem SameViews.symm (h : t.SameViews u) : u.SameViews t where
  primitive := h.primitive.symm
  member? := h.member?.symm
  fields? := h.fields?.symm
  keyType? := h.keyType?.symm
  valueType? := h.valueType?.symm

theorem SameViews.trans (h : t.SameViews u) (h' : u.SameViews s) : t.SameViews s where
  primitive := h'.primitive.trans h.primitive
  member? := h'.member?.trans h.member?
  fields? := h'.fields?.trans h.fields?
  keyType? := h'.keyType?.trans h.keyType?
  valueType? := h'.valueType?.trans h.valueType?

/-! ### Layers -/

/-- Every view looks through a decoration. -/
theorem sameViews_of_wrapped (decorates : u.kind.wrapped? = some t) : t.SameViews u := by
  obtain ⟨k, notes⟩ := u
  cases k with
  | constrained | coerced | defaulted | lax | enum =>
    cases decorates
    exact ⟨primitive_mk _ _, rfl, rfl, rfl, rfl⟩
  | nominal | sum | array | schema | dictionary => cases decorates

/-- No view looks at annotations. -/
theorem sameViews_of_kind_eq (same : u.kind = t.kind) : t.SameViews u := by
  obtain ⟨k, notes⟩ := t
  obtain ⟨_, notes'⟩ := u
  cases same
  have kind : primitive ⟨k, notes'⟩ = primitive ⟨k, notes⟩ := by rw [primitive_mk, primitive_mk]
  cases k <;> exact ⟨kind, rfl, rfl, rfl, rfl⟩

/-- Decorated types have the same views if the types inside have. -/
theorem SameViews.decorate {outer outer' : Ty} (h : t.SameViews u)
    (decorates : outer.kind.wrapped? = some t) (decorates' : outer'.kind.wrapped? = some u) :
    outer.SameViews outer' :=
  (sameViews_of_wrapped decorates).symm.trans (h.trans (sameViews_of_wrapped decorates'))

/-! ### Operations -/

theorem Narrows.sameViews {ps : List Predicate} (h : Narrows ps t u) : t.SameViews u := by
  induction h with
  | constrained wrapped rule notes => exact (SameViews.refl wrapped).decorate rfl rfl
  | coerced _ _ _ ih | defaulted _ _ _ _ ih | lax _ _ ih | enum _ _ _ ih =>
    exact ih.decorate rfl rfl
  | @optional left right narrowed notes isNil _ ih =>
    -- a sum has one view, which depends on both branches
    obtain ⟨notes', rfl⟩ := exists_eq_of_isNil isNil
    refine ⟨?_, rfl, rfl, rfl, rfl⟩
    rw [primitive_mk, primitive_mk]
    show (Kind.sum Primitive.nil narrowed.primitive).primitive =
      (Kind.sum Primitive.nil right.primitive).primitive
    rw [ih.primitive]
  | core => exact sameViews_of_wrapped rfl

theorem sameViews_coerce (t : Ty) (step : Transform) : t.SameViews (t.coerce step) := by
  rw [coerce]
  split
  · rename_i wrapped steps eq
    have decorates : t.kind.wrapped? = some wrapped := by rw [eq]; rfl
    exact (SameViews.refl wrapped).decorate decorates rfl
  · exact sameViews_of_wrapped rfl

theorem sameViews_withUnknownKeys (t : Ty) (unknownKeys : UnknownKeys) :
    t.SameViews (t.withUnknownKeys unknownKeys) := by
  induction t using Ty.induction with
  | constrained _ _ _ ih | coerced _ _ _ ih | defaulted _ _ _ ih | lax _ _ ih | enum _ _ _ ih =>
    exact ih.decorate rfl rfl
  | schema fields policy notes =>
    have kind : primitive ⟨.schema fields unknownKeys, notes⟩ =
        primitive ⟨.schema fields policy, notes⟩ := by
      rw [primitive_mk, primitive_mk]
      rfl
    exact ⟨kind, rfl, rfl, rfl, rfl⟩
  | nominal | sum | array | dictionary => exact .refl _

theorem primitive_strip (t : Ty) : t.strip.primitive = t.primitive := by
  induction t using Ty.induction with
  | nominal | array | dictionary => rfl
  | constrained wrapped rule notes ih =>
    rw [strip_constrained, ih]
    exact (sameViews_of_wrapped rfl).primitive.symm
  | lax wrapped notes ih =>
    rw [strip_lax, ih]
    exact (sameViews_of_wrapped rfl).primitive.symm
  | coerced _ _ _ ih | defaulted _ _ _ ih | enum _ _ _ ih => exact ih
  | sum left right notes ihLeft ihRight =>
    rw [strip_sum, primitive_mk, primitive_mk, Kind.map, Kind.map, ihLeft, ihRight]
  | schema fields unknownKeys notes =>
    rw [strip_schema, primitive_mk, primitive_mk]
    rfl

theorem primitive_toLax (t : Ty) : t.toLax.primitive = t.primitive := by
  cases lax : t.isLax with
  | true => rw [toLax_of_isLax lax]
  | false =>
    calc t.toLax.primitive
        = (t.withKind (.lax t.strip)).primitive := by rw [toLax_of_strict lax]
      _ = t.strip.primitive := (sameViews_of_wrapped rfl).primitive
      _ = t.primitive := t.primitive_strip

/-- **Decorations keep the views.** The views show the same of a type and of what becomes of it by a
transform, by predicates, by a default or by an enum, if it does not refuse these, by a change of
policy and by an annotation. And a lax type has the primitive kind of the type that it was made
of. -/
theorem sameViews_of_decoration (t : Ty) :
    (∀ step, t.SameViews (t.coerce step)) ∧
    (∀ ps u, constrain ps t = .ok u → t.SameViews u) ∧
    (∀ value u, t.withDefault value = .ok u → t.SameViews u) ∧
    (∀ mapping u, t.enumerate mapping = .ok u → t.SameViews u) ∧
    (∀ unknownKeys, t.SameViews (t.withUnknownKeys unknownKeys)) ∧
    (∀ key value, t.SameViews (t.annotate key value)) ∧
    t.toLax.primitive = t.primitive := by
  refine ⟨t.sameViews_coerce, fun ps u built ↦ ?_, fun value u built ↦ ?_, fun mapping u built ↦ ?_,
    t.sameViews_withUnknownKeys, fun key value ↦ sameViews_of_kind_eq rfl, t.primitive_toLax⟩
  · exact (Narrows.of_constrain built).sameViews
  · obtain ⟨-, -, rfl⟩ := withDefault_eq_ok_iff.1 built
    exact sameViews_of_wrapped rfl
  · obtain ⟨-, narrowed, narrows, rfl⟩ := enumerate_eq_ok_iff.1 built
    exact narrows.sameViews.trans (sameViews_of_wrapped rfl)

/-- The lax version of an array type has other members: their rule is gone. -/
example :
    ((strictly .string).array.toLax.member? = some (nominal .string)) ∧
      (strictly .string).array.member? = some (strictly .string) := ⟨rfl, rfl⟩

end JsonTyping.Ty
