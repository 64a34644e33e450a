import JsonTyping.Proofs.Containers
import JsonTyping.Proofs.Laxness
import JsonTyping.Proofs.Nodes

/-!
# Lax versions are conservative

Taking rules out of a type can only turn failures into values. Where the type itself succeeds, the
lax version gives the very same outcome, value or no value (`run_toLax_of_ok`).

The relation that is carried through the layers is `Check.Extends`: one check does what another one
does wherever the other one succeeds. Each layer respects it, because a layer that succeeds has only
looked at parts that succeed. A sum is the exception. Its right branch is asked after a *failure* on
the left, so a rule that is taken out on the left lets the left branch take over. That is why the
left branches must be without rules, and then stripping leaves them as they are (`strip_eq_self`).
-/

namespace JsonTyping

namespace Check

/-- Whether a check does what another one does, wherever the other one succeeds. -/
def Extends (wide narrow : Check) : Prop :=
  ∀ input output, narrow input = .ok output → wide input = .ok output

variable {wide narrow wide' narrow' : Check}

/-! ### Layers -/

/-- A rule only takes away. -/
theorem Extends.of_constrained (h : wide.Extends narrow) (rule : Rule) :
    wide.Extends (narrow.constrained rule) := by
  intro input output came
  cases output with
  | none => exact h input none (constrained_eq_ok_none_iff.1 came)
  | some v => exact h input (some v) (constrained_eq_ok_some_iff.1 came).1

/-- Laxness only adds. -/
theorem Extends.lax (h : wide.Extends narrow) : wide.lax.Extends narrow := by
  intro input output came
  rw [Check.lax, h input output came]
  rfl

theorem Extends.coerced (h : wide.Extends narrow) (steps : List Transform) :
    (wide.coerced steps).Extends (narrow.coerced steps) := by
  intro input output came
  cases input with
  | none => exact h none output came
  | some v =>
    rcases applied : Transform.applyAll steps v with failure | - | w
    · simp [Check.coerced, applied] at came
    · simpa [Check.coerced, applied] using came
    · simp only [Check.coerced, applied] at came ⊢
      exact h (some w) output came

theorem Extends.defaulted (h : wide.Extends narrow) (value : Value) :
    (wide.defaulted value).Extends (narrow.defaulted value) := by
  intro input output came
  cases input with
  | none => exact came
  | some v =>
    rcases inner : narrow (some v) with failure | found
    · simp [Check.defaulted, inner] at came
    · -- with the same outcome inside, the default is put in on both sides or on neither
      have same : wide (some v) = narrow (some v) := (h (some v) found inner).trans inner.symm
      simpa only [Check.defaulted, same] using came

theorem Extends.enum (h : wide.Extends narrow) (mapping : EnumMapping) :
    (wide.enum mapping).Extends (narrow.enum mapping) := fun input ↦ h (input.map mapping.toLabel)

/-- The branches on the left are the same, for it matters when they fail. -/
theorem Extends.sum (left : Check) (h : wide.Extends narrow) :
    (left.sum wide).Extends (left.sum narrow) := by
  intro input output came
  rcases sum_eq_ok_iff.1 came with first | ⟨failed, second⟩
  · exact sum_eq_ok_iff.2 (.inl first)
  · exact sum_eq_ok_iff.2 (.inr ⟨failed, h input output second⟩)

/-- The items of an array that succeeds come out of both checks in the same way. -/
theorem Extends.array (h : wide.Extends narrow) : wide.array.Extends narrow.array := by
  intro input output came
  cases input with
  | none => exact came
  | some v =>
    cases v with
    | array items =>
      obtain ⟨noFailure, -⟩ := Outcome.ofMembers_eq_ok_iff.1 came
      have same : items.map (fun item ↦ wide (some item)) =
          items.map fun item ↦ narrow (some item) := by
        refine List.map_congr_left fun item mem ↦ ?_
        obtain ⟨found, eq⟩ := itemFailures_eq_nil_iff.1 noFailure _ (List.mem_map_of_mem mem)
        exact (h (some item) found eq).trans eq.symm
      simp only [Check.array, same]
      exact came
    | null | bool | number | string | object => exact came

/-- The declared keys of an object that succeeds come out of both checks in the same way. -/
theorem Extends.schema {α : Type} {f g : α → Check} {fields : List (Field α)}
    (h : ∀ field ∈ fields, (f field.type).Extends (g field.type)) (unknownKeys : UnknownKeys) :
    (Check.schema (fields.map (Field.map f)) unknownKeys).Extends
      (Check.schema (fields.map (Field.map g)) unknownKeys) := by
  intro input output came
  cases input with
  | none => exact came
  | some v =>
    cases v with
    | object entries =>
      rw [schema_object] at came ⊢
      obtain ⟨noFailure, -⟩ := Outcome.ofMembers_eq_ok_iff.1 came
      have declared := List.filterMap_eq_nil_iff.1 (List.append_eq_nil_iff.1 noFailure).1
      have same : fields.map (fieldOutcome f entries) = fields.map (fieldOutcome g entries) := by
        refine List.map_congr_left fun field mem ↦ ?_
        obtain ⟨found, eq, -⟩ := fieldFailure?_eq_none_iff.1 (declared _ (List.mem_map_of_mem mem))
        rw [fieldOutcome, fieldOutcome, Field.map, Field.map, h field mem _ found eq, ← eq]
        rfl
      rw [same]
      exact came
    | null | bool | number | string | array => exact came

theorem dictionaryEntry_eq_of_extends (h : wide.Extends narrow) (h' : wide'.Extends narrow')
    {entry : String × Value} (silent : (dictionaryEntry narrow narrow' entry).2 = none) :
    dictionaryEntry wide wide' entry = dictionaryEntry narrow narrow' entry := by
  rw [dictionaryEntry, dictionaryEntry, coerceKey, coerceKey]
  rcases dictionaryEntry_snd_eq_none_iff.1 silent with dropped | ⟨key, found, converted, came⟩
  · rw [dropped, h _ none dropped]
  · simp only [converted, h _ _ converted, came, h' _ found came]

/-- The entries of an object that succeeds come out of both checks in the same way. -/
theorem Extends.dictionary (h : wide.Extends narrow) (h' : wide'.Extends narrow') :
    (wide.dictionary wide').Extends (narrow.dictionary narrow') := by
  intro input output came
  cases input with
  | none => exact came
  | some v =>
    cases v with
    | object entries =>
      obtain ⟨noFailure, -⟩ := Outcome.ofMembers_eq_ok_iff.1 came
      have silent := List.filterMap_eq_nil_iff.1 noFailure
      have same : entries.map (dictionaryEntry wide wide') =
          entries.map (dictionaryEntry narrow narrow') :=
        List.map_congr_left fun entry mem ↦
          dictionaryEntry_eq_of_extends h h' (silent _ (List.mem_map_of_mem mem))
      simp only [Check.dictionary, same]
      exact came
    | null | bool | number | string | array => exact came

end Check

namespace Ty

variable {t : Ty}

/-- Whether there are no rules in the left branches of sums. -/
def LeftsUnruled (t : Ty) : Prop :=
  t.Everywhere fun s ↦ ∀ left ∈ s.left?, left.Everywhere fun r ↦ r.isConstrained = false

instance (t : Ty) : Decidable t.LeftsUnruled :=
  inferInstanceAs (Decidable (t.Everywhere fun s ↦ ∀ left ∈ s.left?, left.Everywhere _))

/-- A type without rules and without laxness has nothing to be stripped of. -/
theorem strip_eq_self (strict : t.Everywhere fun s ↦ s.isLax = false)
    (unruled : t.Everywhere fun s ↦ s.isConstrained = false) : t.strip = t := by
  induction t using Ty.induction with
  | nominal => rfl
  | constrained => cases unruled.self
  | lax => cases strict.self
  | coerced _ _ _ ih | defaulted _ _ _ ih | enum _ _ _ ih | array _ _ ih =>
    simp only [strip_coerced, strip_defaulted, strip_enum, strip_array,
      ih (strict.single rfl) (unruled.single rfl)]
  | sum left right _ ihLeft ihRight | dictionary left right _ ihLeft ihRight =>
    obtain ⟨strictLeft, strictRight⟩ := strict.pair rfl
    obtain ⟨unruledLeft, unruledRight⟩ := unruled.pair rfl
    simp only [strip_sum, strip_dictionary, ihLeft strictLeft unruledLeft,
      ihRight strictRight unruledRight]
  | schema fields unknownKeys notes ih =>
    have same : ∀ field ∈ fields, Field.map strip field = id field := fun field mem ↦ by
      rw [Field.map, ih field mem (strict.field mem) (unruled.field mem)]
      rfl
    rw [strip_schema, List.map_congr_left same, List.map_id]

/-- A stripped type does what the type does, wherever the type succeeds. -/
theorem strip_run_extends (strict : t.Everywhere fun s ↦ s.isLax = false)
    (unruled : t.LeftsUnruled) : t.strip.run.Extends t.run := by
  induction t using Ty.induction with
  | nominal => exact fun _ _ came ↦ came
  | constrained wrapped rule _ ih =>
    rw [strip_constrained, run_constrained]
    exact (ih (strict.single rfl) (unruled.single rfl)).of_constrained rule
  | coerced wrapped steps _ ih =>
    rw [strip_coerced, run_coerced, run_coerced]
    exact (ih (strict.single rfl) (unruled.single rfl)).coerced steps
  | defaulted wrapped value _ ih =>
    rw [strip_defaulted, run_defaulted, run_defaulted]
    exact (ih (strict.single rfl) (unruled.single rfl)).defaulted value
  | lax => cases strict.self
  | sum left right _ _ ih =>
    obtain ⟨strictLeft, strictRight⟩ := strict.pair rfl
    -- the left branch must fail where it failed before, and it does because it stays the same
    have kept : left.strip = left := strip_eq_self strictLeft (unruled.self left rfl)
    rw [strip_sum, run_sum, run_sum, kept]
    exact (ih strictRight (unruled.pair rfl).2).sum left.run
  | enum wrapped mapping _ ih =>
    rw [strip_enum, run_enum, run_enum]
    exact (ih (strict.single rfl) (unruled.single rfl)).enum mapping
  | array member _ ih =>
    rw [strip_array, run_array, run_array]
    exact (ih (strict.single rfl) (unruled.single rfl)).array
  | schema fields unknownKeys _ ih =>
    rw [strip_schema, run_schema, run_schema, List.map_map]
    exact Check.Extends.schema (f := run ∘ strip)
      (fun field mem ↦ ih field mem (strict.field mem) (unruled.field mem)) unknownKeys
  | dictionary key value _ ihKey ihValue =>
    obtain ⟨strictKey, strictValue⟩ := strict.pair rfl
    obtain ⟨unruledKey, unruledValue⟩ := unruled.pair rfl
    rw [strip_dictionary, run_dictionary, run_dictionary]
    exact (ihKey strictKey unruledKey).dictionary (ihValue strictValue unruledValue)

/-- **Lax versions are conservative.** If a type has no lax layer and no rule on the left of its
sums, then whatever succeeds, with a value or without one, has the same outcome in the lax
version. -/
theorem run_toLax_of_ok (strict : t.Everywhere fun s ↦ s.isLax = false)
    (unruled : t.LeftsUnruled) {input output : Option Value} (came : t.run input = .ok output) :
    t.toLax.run input = .ok output := by
  rw [toLax_of_strict strict.self, withKind, run_lax]
  exact (strip_run_extends strict unruled).lax input output came

/-- A contact: a nickname, and lines each of which is a number or a text that is not empty. -/
def contact : Ty :=
  ofFields
    [⟨"nickname", longNickname, true⟩,
      ⟨"lines", (sum (nominal .integer)
        (ofKind (.constrained (nominal .string) [.filled]))).array, true⟩]
    .reject

/-- The missing nickname is filled in, and both sorts of lines come through, without the rules as
with them. -/
theorem run_toLax_of_ok_contact :
    (contact.Everywhere fun s ↦ s.isLax = false) ∧ contact.LeftsUnruled ∧
    contact.run (some (.object [("lines", .array [.ofUInt64 5, .string "x"])])) =
      .ok (some (.object
        [("nickname", .string "anon"), ("lines", .array [.ofUInt64 5, .string "x"])])) ∧
    contact.toLax.run (some (.object [("lines", .array [.ofUInt64 5, .string "x"])])) =
      .ok (some (.object
        [("nickname", .string "anon"), ("lines", .array [.ofUInt64 5, .string "x"])])) := by
  have strict : contact.Everywhere fun s ↦ s.isLax = false := by decide
  have unruled : contact.LeftsUnruled := by decide
  have came : contact.run (some (.object [("lines", .array [.ofUInt64 5, .string "x"])])) =
      .ok (some (.object
        [("nickname", .string "anon"), ("lines", .array [.ofUInt64 5, .string "x"])])) := rfl
  exact ⟨strict, unruled, came, run_toLax_of_ok strict unruled came⟩

/-- A rule on the left does matter: without it the left branch takes what went to the right. -/
example :
    let text := ofKind (.coerced (ofKind (.constrained (nominal .string) [.minSize 2])) [.toText])
    (sum text (nominal .integer)).run (some (.ofUInt64 5)) = .ok (some (.ofUInt64 5)) ∧
    (sum text (nominal .integer)).toLax.run (some (.ofUInt64 5)) = .ok (some (.string "5")) :=
  ⟨rfl, rfl⟩

end Ty

end JsonTyping
