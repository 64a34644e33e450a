import JsonTyping.Ty.Check

/-!
# Outcomes of containers

A container assembles what is left of its members, and it fails if there is something to report of a
member. So whether it succeeds or not, what is left of it is what was assembled
(`Outcome.remainder?_ofMembers`); and where it succeeds, all its members have succeeded, which is
what `itemFailures_eq_nil_iff`, `fieldFailure?_eq_none_iff` and `dictionaryEntry_snd_eq_none_iff`
say of the three sorts of containers.

What a schema does depends on an object in two ways only: by the outcome of each declared key and by
the entries under names that are not declared (`schema_object`). The two do not mix in the output
either. As the declared names are distinct, a lookup under one of them finds what is left of its
outcome (`get?_assemble`), and a lookup under any other name finds what was kept.
-/

namespace JsonTyping

namespace Outcome

theorem ofMembers_eq_ok_iff {assembled : Value} {failures : List MemberFailure}
    {output : Option Value} :
    ofMembers assembled failures = .ok output ↔ failures = [] ∧ output = some assembled := by
  cases failures with
  | nil => simp [ofMembers, eq_comm]
  | cons failure failures => simp [ofMembers]

/-- What is left of a container is what was assembled, with failures or without. -/
theorem remainder?_ofMembers (assembled : Value) (failures : List MemberFailure) :
    (ofMembers assembled failures).remainder? = some assembled := by
  cases failures <;> rfl

end Outcome

/-! ### Declared keys as entries -/

namespace Entries

variable {α β : Type} {es : Entries α}

/-- What is made of the values under keys, without the keys of which nothing is made. -/
def mapMaybe (f : α → Option β) (es : Entries α) : Entries β :=
  es.filterMap fun e ↦ (f e.2).map fun value ↦ (e.1, value)

theorem mapMaybe_cons_none {f : α → Option β} {e : String × α} (made : f e.2 = none) :
    mapMaybe f (e :: es) = mapMaybe f es :=
  List.filterMap_cons_none (by rw [made, Option.map_none])

theorem mapMaybe_cons_some {f : α → Option β} {e : String × α} {value : β}
    (made : f e.2 = some value) : mapMaybe f (e :: es) = (e.1, value) :: mapMaybe f es :=
  List.filterMap_cons_some (by rw [made, Option.map_some])

/-- Keys keep their order. -/
theorem keys_mapMaybe_sublist (f : α → Option β) (es : Entries α) :
    (es.mapMaybe f).keys.Sublist es.keys := by
  induction es with
  | nil => exact .slnil
  | cons e es ih =>
    cases made : f e.2 with
    | none =>
      rw [mapMaybe_cons_none made]
      exact ih.cons e.1
    | some value =>
      rw [mapMaybe_cons_some made]
      exact ih.cons_cons e.1

theorem get?_mapMaybe (f : α → Option β) (nodup : es.keys.Nodup) (key : String) :
    (es.mapMaybe f).get? key = (get? key es).bind f := by
  induction es with
  | nil => rfl
  | cons e es ih =>
    obtain ⟨new, rest⟩ := List.nodup_cons.1 nodup
    have later : get? key (mapMaybe f es) = (get? key es).bind f := ih rest
    cases made : f e.2 with
    | none =>
      rw [mapMaybe_cons_none made, later, get?]
      split
      · rename_i same
        have absent : get? key es = none := get?_eq_none_iff.2 (same ▸ new)
        rw [absent, Option.bind_none, Option.bind_some, made]
      · rfl
    | some value =>
      rw [mapMaybe_cons_some made, get?, get?]
      split
      · rw [Option.bind_some, made]
      · exact later

end Entries

/-- Declared keys under their names. -/
def byName {α : Type} (fields : List (Field α)) : Entries (Field α) :=
  fields.map fun field ↦ (field.name, field)

theorem keys_byName {α : Type} (fields : List (Field α)) :
    (byName fields).keys = fields.map Field.name :=
  List.map_map

namespace Check

/-! ### Arrays -/

/-- There is nothing to report exactly if all items succeed. -/
theorem itemFailures_eq_nil_iff {position : Nat} {outcomes : List Outcome} :
    itemFailures position outcomes = [] ↔ ∀ outcome ∈ outcomes, ∃ output, outcome = .ok output := by
  induction outcomes generalizing position with
  | nil => simp [itemFailures]
  | cons outcome outcomes ih =>
    rcases outcome with failure | output
    · simp [itemFailures]
    · simp [itemFailures, ih]

/-! ### Schemas -/

section Schemas

variable {α : Type}

/-- What becomes of a declared key of an object. -/
def fieldOutcome (check : α → Check) (entries : Entries Value) (field : Field α) : Field Outcome :=
  field.map fun part ↦ check part (Entries.get? field.name entries)

/-- The entries under names that are not declared. -/
def undeclared (names : List String) (entries : Entries Value) : Entries Value :=
  entries.filter fun entry ↦ !names.contains entry.1

/-- What a schema makes of the outcomes of declared keys and of entries that are not declared. -/
def assemble (outcomes : List (Field Outcome)) (unknown : Entries Value)
    (unknownKeys : UnknownKeys) : Entries Value :=
  outcomes.filterMap fieldEntry? ++ keptEntries unknown unknownKeys

/-- The outcome of an object of which the outcomes of the declared keys are known. -/
def ofFields (outcomes : List (Field Outcome)) (unknown : Entries Value)
    (unknownKeys : UnknownKeys) : Outcome :=
  .ofMembers (.object (assemble outcomes unknown unknownKeys))
    (outcomes.filterMap fieldFailure? ++ unknownFailures unknown unknownKeys)

theorem unknownEntries_map (check : α → Check) (fields : List (Field α))
    (entries : Entries Value) :
    unknownEntries (fields.map (Field.map check)) entries =
      undeclared (fields.map Field.name) entries := by
  refine List.filter_congr fun entry _ ↦ congrArg not ?_
  rw [Bool.eq_iff_iff]
  simp [Field.map]

theorem names_fieldOutcomes (check : α → Check) (entries : Entries Value)
    (fields : List (Field α)) :
    (fields.map (fieldOutcome check entries)).map Field.name = fields.map Field.name :=
  List.map_map

/-- An object is checked key by key, and then its other entries are looked at. -/
theorem schema_object (check : α → Check) (fields : List (Field α)) (unknownKeys : UnknownKeys)
    (entries : Entries Value) :
    schema (fields.map (Field.map check)) unknownKeys (some (.object entries)) =
      ofFields (fields.map (fieldOutcome check entries))
        (undeclared (fields.map Field.name) entries) unknownKeys := by
  rw [schema, unknownEntries_map, List.map_map]
  rfl

/-- A declared key has nothing to report exactly if its check succeeds, with a value where one is
required. -/
theorem fieldFailure?_eq_none_iff {field : Field Outcome} :
    fieldFailure? field = none ↔
      ∃ output, field.type = .ok output ∧ (field.required = true → output ≠ none) := by
  obtain ⟨name, outcome, required⟩ := field
  rcases outcome with failure | - | v
  · simp [fieldFailure?]
  · cases required <;> simp [fieldFailure?]
  · simp [fieldFailure?]

/-! Lookup in what a schema assembles -/

variable {outcomes : List (Field Outcome)} {names : List String} {key : String}

theorem fieldEntries_eq_mapMaybe (outcomes : List (Field Outcome)) :
    outcomes.filterMap fieldEntry? =
      (byName outcomes).mapMaybe fun field ↦ field.type.remainder? := by
  rw [byName, Entries.mapMaybe, List.filterMap_map]
  rfl

theorem keys_fieldEntries_sublist (outcomes : List (Field Outcome)) :
    (Entries.keys (outcomes.filterMap fieldEntry?)).Sublist (outcomes.map Field.name) := by
  rw [fieldEntries_eq_mapMaybe, ← keys_byName]
  exact Entries.keys_mapMaybe_sublist _ _

theorem get?_fieldEntries_of_not_mem (new : key ∉ outcomes.map Field.name) :
    Entries.get? key (outcomes.filterMap fieldEntry?) = none :=
  Entries.get?_eq_none_iff.2 fun mem ↦ new ((keys_fieldEntries_sublist outcomes).subset mem)

theorem get?_fieldEntries {field : Field Outcome} (nodup : (outcomes.map Field.name).Nodup)
    (mem : field ∈ outcomes) :
    Entries.get? field.name (outcomes.filterMap fieldEntry?) = field.type.remainder? := by
  rw [← keys_byName] at nodup
  have found : (byName outcomes).get? field.name = some field :=
    Entries.get?_of_mem nodup (List.mem_map_of_mem mem)
  rw [fieldEntries_eq_mapMaybe, Entries.get?_mapMaybe _ nodup, found, Option.bind_some]

theorem get?_undeclared_of_mem (entries : Entries Value) (declared : key ∈ names) :
    Entries.get? key (undeclared names entries) = none := by
  refine Entries.get?_eq_none_iff.2 fun mem ↦ ?_
  obtain ⟨entry, found, rfl⟩ := List.mem_map.1 mem
  have new := (List.mem_filter.1 found).2
  simp [declared] at new

theorem get?_undeclared_of_not_mem (entries : Entries Value) (new : key ∉ names) :
    Entries.get? key (undeclared names entries) = entries.get? key :=
  Entries.get?_filter entries fun value ↦ by simpa using new

variable (entries : Entries Value) (unknownKeys : UnknownKeys)

theorem nodup_keys_assemble (declared : outcomes.map Field.name = names) (nodup : names.Nodup)
    {entries : Entries Value} (distinct : entries.keys.Nodup) (unknownKeys : UnknownKeys) :
    (Entries.keys (assemble outcomes (undeclared names entries) unknownKeys)).Nodup := by
  subst declared
  have fields := keys_fieldEntries_sublist outcomes
  -- whatever the policy, what is kept stands under other names than the declared ones
  have kept : (Entries.keys (keptEntries (undeclared (outcomes.map Field.name) entries)
      unknownKeys)).Nodup ∧
      ∀ key ∈ outcomes.map Field.name,
        key ∉ Entries.keys
          (keptEntries (undeclared (outcomes.map Field.name) entries) unknownKeys) := by
    cases unknownKeys with
    | preserve =>
      refine ⟨distinct.sublist (List.filter_sublist.map Prod.fst), fun key mem ↦ ?_⟩
      exact Entries.get?_eq_none_iff.1 (get?_undeclared_of_mem entries mem)
    | ignore | reject => exact ⟨List.nodup_nil, fun key _ ↦ List.not_mem_nil⟩
  rw [assemble, Entries.keys, List.map_append]
  refine List.nodup_append.2 ⟨nodup.sublist fields, kept.1, fun key mem key' mem' eq ↦ ?_⟩
  exact kept.2 key (fields.subset mem) (eq ▸ mem')

/-- Under a declared name stands what is left of its outcome. -/
theorem get?_assemble {field : Field Outcome} (declared : outcomes.map Field.name = names)
    (nodup : names.Nodup) (mem : field ∈ outcomes) :
    Entries.get? field.name (assemble outcomes (undeclared names entries) unknownKeys) =
      field.type.remainder? := by
  subst declared
  have notKept : Entries.get? field.name
      (keptEntries (undeclared (outcomes.map Field.name) entries) unknownKeys) = none := by
    cases unknownKeys with
    | preserve => exact get?_undeclared_of_mem entries (List.mem_map_of_mem mem)
    | ignore | reject => rfl
  rw [assemble, Entries.get?_append, get?_fieldEntries nodup mem, notKept, Option.or_none]

/-- Under other names stands what was kept. -/
theorem get?_assemble_of_not_mem (declared : outcomes.map Field.name = names) (new : key ∉ names)
    (unknown : Entries Value) :
    Entries.get? key (assemble outcomes unknown unknownKeys) =
      Entries.get? key (keptEntries unknown unknownKeys) := by
  subst declared
  rw [assemble, Entries.get?_append, get?_fieldEntries_of_not_mem new, Option.none_or]

end Schemas

/-! ### Dictionaries -/

/-- An entry has nothing to report exactly if its key is left out, or if its key is converted and
its value succeeds. -/
theorem dictionaryEntry_snd_eq_none_iff {keys values : Check} {entry : String × Value} :
    (dictionaryEntry keys values entry).2 = none ↔
      keys (some (.string entry.1)) = .ok none ∨
        ∃ key output, keys (some (.string entry.1)) = .ok (some (.string key)) ∧
          values (some entry.2) = .ok output := by
  rw [dictionaryEntry, coerceKey]
  rcases keys (some (.string entry.1)) with failure | - | key
  · simp
  · simp
  · cases key with
    | string key => rcases values (some entry.2) with failure | output <;> simp
    | null | bool | number | array | object => simp

end Check

end JsonTyping
