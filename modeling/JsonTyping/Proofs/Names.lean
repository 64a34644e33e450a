import JsonTyping.Proofs.Built
import JsonTyping.Proofs.Laxness
import JsonTyping.Proofs.Nodes

/-!
# Names in built types

Declaring a key replaces an earlier declaration of its name, so a schema never declares a name twice
(`nodup_names_declareAll`). No other operation adds declarations to a schema, and so the names in a
built type are distinct everywhere in it (`Built.distinctNames`).

As in other proofs about built types there is one lemma for narrowing, one for a change of policy,
one for stripping, and then the step from the types given to a builder to the type that it makes.
-/

namespace JsonTyping.Ty

/-! ### Declarations -/

/-- A declaration of a new name comes last, and another one takes the place of the old one. -/
theorem names_declare (field : Field Ty) (fields : List (Field Ty)) :
    (declare field fields).map Field.name =
      if field.name ∈ fields.map Field.name then fields.map Field.name
      else fields.map Field.name ++ [field.name] := by
  induction fields with
  | nil => rfl
  | cons first fields ih =>
    by_cases same : first.name = field.name
    · simp [declare, same]
    · rw [declare, if_neg same, List.map_cons, ih]
      have other : field.name ≠ first.name := Ne.symm same
      by_cases mem : field.name ∈ fields.map Field.name
      · simp only [List.map_cons, List.mem_cons, mem, or_true, if_true]
      · simp only [List.map_cons, List.mem_cons, mem, other, or_self, if_false, List.cons_append]

theorem nodup_names_declareAll {fields : List (Field Ty)} (added : List (Field Ty))
    (nodup : (fields.map Field.name).Nodup) :
    ((declareAll fields added).map Field.name).Nodup := by
  induction added generalizing fields with
  | nil => exact nodup
  | cons field added ih =>
    refine ih ?_
    rw [names_declare]
    split
    · exact nodup
    · rename_i new
      exact List.nodup_append.2 ⟨nodup, List.pairwise_singleton _ _, fun a mem b mem' eq ↦
        new (by rwa [← List.mem_singleton.1 mem', ← eq])⟩

variable {t u : Ty}

/-- A layer that is no schema needs distinct names in its parts only. -/
theorem distinctNames_of_parts (plain : t.names = [])
    (parts : ∀ p ∈ t.kind.parts, p.DistinctNames) : t.DistinctNames :=
  everywhere_iff.2 ⟨by rw [plain]; exact List.nodup_nil, parts⟩

/-- A decoration around distinct names. -/
theorem DistinctNames.decorate {wrapped : Ty} (h : wrapped.DistinctNames)
    (decorates : t.kind.wrapped? = some wrapped) : t.DistinctNames := by
  have plain : t.names = [] := by
    obtain ⟨k, notes⟩ := t
    cases k with
    | schema => cases decorates
    | nominal | constrained | coerced | defaulted | lax | sum | enum | array | dictionary => rfl
  exact everywhere_of_single (by rw [plain]; exact List.nodup_nil)
    (Kind.parts_of_wrapped? decorates) h

/-- Annotations do not matter. -/
theorem DistinctNames.of_kind_eq (h : t.DistinctNames) (eq : u.kind = t.kind) :
    u.DistinctNames := by
  obtain ⟨nodup, parts⟩ := everywhere_iff.1 h
  refine everywhere_iff.2 ⟨?_, ?_⟩
  · rw [names, eq]
    exact nodup
  · rw [eq]
    exact parts

/-! ### Operations on one type -/

theorem Narrows.distinctNames {ps : List Predicate} (narrows : Narrows ps t u)
    (h : t.DistinctNames) : u.DistinctNames := by
  induction narrows with
  | constrained wrapped rule notes =>
    have inner : wrapped.DistinctNames := h.single rfl
    exact inner.decorate rfl
  | coerced _ _ _ ih | defaulted _ _ _ _ ih | lax _ _ ih | enum _ _ _ ih =>
    exact DistinctNames.decorate (ih (h.single rfl)) rfl
  | @optional left right narrowed _ _ _ ih =>
    have inner : narrowed.DistinctNames := ih (h.part (List.mem_cons_of_mem _ List.mem_cons_self))
    have null : (nominal .nil).DistinctNames := everywhere_nominal List.nodup_nil
    exact everywhere_of_pair List.nodup_nil rfl null inner
  | core => exact DistinctNames.decorate h rfl

theorem DistinctNames.withUnknownKeys (h : t.DistinctNames) (unknownKeys : UnknownKeys) :
    (t.withUnknownKeys unknownKeys).DistinctNames := by
  induction t using Ty.induction with
  | constrained _ _ _ ih | coerced _ _ _ ih | defaulted _ _ _ ih | lax _ _ ih | enum _ _ _ ih =>
    exact DistinctNames.decorate (ih (h.single rfl)) rfl
  | schema fields policy notes => exact everywhere_schema h.self fun field mem ↦ h.field mem
  | nominal | sum | array | dictionary => exact h

theorem DistinctNames.strip (h : t.DistinctNames) : t.strip.DistinctNames := by
  induction t using Ty.induction with
  | nominal => exact h
  | constrained _ _ _ ih | lax _ _ ih => exact ih (h.single rfl)
  | coerced _ _ _ ih | defaulted _ _ _ ih | enum _ _ _ ih =>
    exact DistinctNames.decorate (ih (h.single rfl)) rfl
  | sum left right _ ihLeft ihRight | dictionary left right _ ihLeft ihRight =>
    obtain ⟨hLeft, hRight⟩ := h.pair rfl
    exact everywhere_of_pair List.nodup_nil rfl (ihLeft hLeft) (ihRight hRight)
  | array member _ ih => exact everywhere_of_single List.nodup_nil rfl (ih (h.single rfl))
  | schema fields policy notes ih =>
    rw [strip_schema]
    refine everywhere_schema ?_ fun field mem ↦ ?_
    · show ((fields.map (Field.map Ty.strip)).map Field.name).Nodup
      rw [List.map_map]
      exact h.self
    · obtain ⟨old, given, rfl⟩ := List.mem_map.1 mem
      exact ih old given (h.field given)

/-! ### Built types -/

/-- What narrowing makes of distinct names, and an enum on top of it. -/
theorem DistinctNames.of_rule? {b : Builder} {ps : List Predicate} (h : t.DistinctNames)
    (rule : b.rule? = some ps) (built : b.build [t] = some u) : u.DistinctNames := by
  obtain ⟨narrowed, narrows, shape⟩ := Builder.narrows_of_rule? rule built
  have inner : narrowed.DistinctNames := narrows.distinctNames h
  rcases shape with rfl | ⟨mapping, rfl⟩
  · exact inner
  · exact inner.decorate rfl

/-- One application of a builder keeps names distinct. -/
theorem distinctNames_of_build {b : Builder} {types : List Ty} :
    b.build types = some t → (∀ s ∈ types, s.DistinctNames) → t.DistinctNames := by
  -- one case for each builder on as many types as it takes, and one for all other numbers of types
  fun_cases Builder.build b types with
  | case1 p =>
    rintro ⟨⟩ given
    exact everywhere_nominal List.nodup_nil
  | case2 left right | case6 left right =>
    rintro ⟨⟩ given
    exact distinctNames_of_parts rfl given
  | case3 s =>
    rintro ⟨⟩ given
    have null : (nominal .nil).DistinctNames := everywhere_nominal List.nodup_nil
    exact distinctNames_of_parts rfl (List.forall_mem_cons.2 ⟨null, given⟩)
  | case4 s =>
    rintro ⟨⟩ given
    exact distinctNames_of_parts rfl given
  | case5 names =>
    rintro ⟨⟩ given
    refine everywhere_schema (nodup_names_declareAll _ List.nodup_nil) fun field mem ↦ ?_
    obtain ⟨name, mem⟩ := exists_mem_of_mem_parts_schema (List.mem_map_of_mem mem)
    exact given _ (List.of_mem_zip mem).2
  | case7 ps s =>
    intro built given
    exact (given s List.mem_cons_self).of_rule? (b := .constrain ps) rfl built
  | case8 step s =>
    rintro ⟨⟩ given
    have whole : s.DistinctNames := given s List.mem_cons_self
    obtain ⟨k, notes⟩ := s
    cases k with
    | coerced wrapped steps =>
      have inner : wrapped.DistinctNames := whole.single rfl
      exact inner.decorate rfl
    | nominal | constrained | defaulted | lax | sum | enum | array | schema | dictionary =>
      exact whole.decorate rfl
  | case9 value s =>
    intro built given
    obtain ⟨-, -, rfl⟩ := withDefault_eq_ok_iff.1 (toOption_eq_some_iff.1 built)
    exact (given s List.mem_cons_self).decorate rfl
  | case10 labels s =>
    intro built given
    exact (given s List.mem_cons_self).of_rule? (b := .enumeration labels) rfl built
  | case11 mapping s =>
    intro built given
    exact (given s List.mem_cons_self).of_rule? (b := .enumerate mapping) rfl built
  | case12 s =>
    rintro ⟨⟩ given
    have whole : s.DistinctNames := given s List.mem_cons_self
    cases lax : s.isLax with
    | false =>
      rw [toLax_of_strict lax]
      exact whole.strip.decorate rfl
    | true => rwa [toLax_of_isLax lax]
  | case13 unknownKeys s | case14 s =>
    rintro ⟨⟩ given
    exact (given s List.mem_cons_self).withUnknownKeys _
  | case15 s other =>
    intro built given
    have first : s.DistinctNames := given s List.mem_cons_self
    have second : other.DistinctNames := given other (List.mem_cons_of_mem _ List.mem_cons_self)
    rw [merge?] at built
    split at built
    · rename_i fields unknownKeys added policy eq eq'
      cases built
      have nodup : (fields.map Field.name).Nodup := by
        have own := first.self
        rwa [names, eq] at own
      refine everywhere_schema (nodup_names_declareAll added nodup) fun field mem ↦ ?_
      rcases mem_or_mem_of_mem_declareAll mem with mem | mem
      · exact first.part (by rw [eq]; exact List.mem_map_of_mem mem)
      · exact second.part (by rw [eq']; exact List.mem_map_of_mem mem)
    · cases built
  | case16 key value s | case17 s =>
    rintro ⟨⟩ given
    exact (given s List.mem_cons_self).of_kind_eq rfl
  | case18 => rintro ⟨⟩

/-- **Names are declared once.** No schema in a built type declares a name twice. -/
theorem Built.distinctNames {allowed : Builder → List Ty → Prop} (built : Built allowed t) :
    t.DistinctNames := by
  induction built with
  | intro b types _ _ built ih => exact distinctNames_of_build built ih

end JsonTyping.Ty
