import JsonTyping.Proofs.Containers
import JsonTyping.Proofs.Filtering
import JsonTyping.Proofs.Labels
import JsonTyping.Standard

/-!
# Checks that settle

A check *settles* if a second pass over what it yields changes nothing (`Check.Settles`): it yields
a value for every value that it accepts, so that a second pass finds no key missing that was there
in the first, and it yields the same once more.

Every layer settles over parts that settle, with four provisos: a transform has to settle itself and
to stand in front of nothing but tests, the left branch of a sum has to be a test, the labels of an
enum have to stand for themselves, and the names that a schema declares have to be distinct. Laxness
is left out: it yields what is left of failures, and that has not been accepted by anything.

The conversions of loosely typed values settle, because what they have converted they leave alone
(`Standard.settles_of_coercion?`).
-/

namespace JsonTyping

namespace Check

/-- Whether a check yields a value for a value, and yields what it has yielded once more. -/
structure Settles (check : Check) : Prop where
  yields : ∀ v, check (some v) ≠ .ok none
  settled : ∀ input v, check input = .ok (some v) → check (some v) = .ok (some v)

/-- Whether a check yields nothing but the values that it is given. -/
structure Tests (check : Check) : Prop where
  yields : ∀ v, check (some v) ≠ .ok none
  same : ∀ input v, check input = .ok (some v) → input = some v

variable {check left right keys values : Check}

theorem Tests.settles (h : check.Tests) : check.Settles where
  yields := h.yields
  settled input v came := by
    have same : input = some v := h.same input v came
    rwa [same] at came

/-- A second pass over an outcome, value or not, has the same outcome. -/
theorem Settles.again (h : check.Settles) {input output : Option Value}
    (came : check input = .ok output) : check output = .ok output := by
  cases output with
  | some v => exact h.settled input v came
  | none =>
    cases input with
    | none => exact came
    | some v => exact absurd came (h.yields v)

/-! ### Layers without members -/

theorem tests_nominal (p : Primitive) : (nominal p).Tests where
  yields _ := nominal_ne_ok_none
  same input v came := by
    cases input with
    | none => cases came
    | some w => exact (Rule.enforce_eq_ok_iff.1 came).1.symm

theorem Tests.constrained (h : check.Tests) (rule : Rule) : (check.constrained rule).Tests where
  yields v came := h.yields v (constrained_eq_ok_none_iff.1 came)
  same input v came := h.same input v (constrained_eq_ok_some_iff.1 came).1

theorem Settles.constrained (h : check.Settles) (rule : Rule) :
    (check.constrained rule).Settles where
  yields v came := h.yields v (constrained_eq_ok_none_iff.1 came)
  settled input v came := by
    obtain ⟨inner, holds⟩ := constrained_eq_ok_some_iff.1 came
    exact constrained_eq_ok_some_iff.2 ⟨h.settled input v inner, holds⟩

/-- A default that the check leaves unchanged. -/
theorem Settles.defaulted (h : check.Settles) {value : Value}
    (fixed : check (some value) = .ok (some value)) : (check.defaulted value).Settles where
  yields _ := defaulted_ne_ok_none
  settled input v came := by
    -- nothing but undefined input is filled in, because the check yields a value for a value
    have defined : ∀ w, check.defaulted value (some w) = check (some w) := by
      intro w
      rcases inner : check (some w) with failure | - | u
      · simp [Check.defaulted, inner]
      · exact absurd inner (h.yields w)
      · simp [Check.defaulted, inner]
    rw [defined]
    cases input with
    | none =>
      cases came
      exact fixed
    | some w => exact h.settled (some w) v ((defined w).symm.trans came)

/-- A sum with a test on the left: what came out on the right may be accepted on the left the second
time, but then it stays as it is. -/
theorem Tests.sum (hLeft : left.Tests) (hRight : right.Settles) : (left.sum right).Settles where
  yields v came := by
    rcases sum_eq_ok_iff.1 came with first | ⟨-, second⟩
    · exact hLeft.yields v first
    · exact hRight.yields v second
  settled input v came := by
    rcases first : left (some v) with failure | output
    · -- the left branch would have settled on the value, so it came out on the right
      have second : right (some v) = .ok (some v) := by
        rcases sum_eq_ok_iff.1 came with accepted | ⟨-, accepted⟩
        · rw [hLeft.settles.settled input v accepted] at first
          cases first
        · exact hRight.settled input v accepted
      exact sum_eq_ok_iff.2 (.inr ⟨⟨failure, first⟩, second⟩)
    · have same : output = some v := by
        cases output with
        | none => exact absurd first (hLeft.yields v)
        | some w => exact (hLeft.same (some v) w first).symm
      exact sum_eq_ok_iff.2 (.inl (first.trans (congrArg _ same)))

/-- Labels that stand for themselves change nothing. -/
theorem enum_of_self {mapping : EnumMapping} (self : ∀ pair ∈ mapping, pair.1 = pair.2) :
    check.enum mapping = check := by
  have same : mapping.toLabel = id := by
    funext v
    rcases mapping.isLabel_or_new v with ⟨label, mem, eq⟩ | new
    · exact EnumMapping.toLabel_of_label mem eq
    · -- a value that is no label is no raw value either
      have missing : ∀ pair ∈ mapping, (pair.2 == v) = false := fun pair mem ↦
        self pair mem ▸ new pair.1 (List.mem_map_of_mem mem)
      rw [EnumMapping.toLabel_of_new new, EnumMapping.labelFor?_eq_none missing]
      rfl
  funext input
  rw [Check.enum, same, Option.map_id]
  rfl

end Check

/-! ### Transforms -/

/-- Whether a transform yields a value, or refuses, and leaves what it yields unchanged. -/
structure Transform.Settles (step : Transform) : Prop where
  yields : ∀ v, step.apply v ≠ .ok none
  settled : ∀ v w, step.apply v = .ok (some w) → step.apply w = .ok (some w)

theorem Transform.applyAll_singleton_eq_ok_iff {step : Transform} {v : Value}
    {output : Option Value} : applyAll [step] v = .ok output ↔ step.apply v = .ok output := by
  rcases applied : step.apply v with reason | - | w <;> simp [applyAll, applied]

namespace Check

variable {check left right keys values : Check}

/-- A transform that settles, in front of a test. -/
theorem Tests.coerced {step : Transform} (h : check.Tests) (hStep : step.Settles) :
    (check.coerced [step]).Settles where
  yields v came := by
    rcases coerced_eq_ok_none_iff.1 came with dropped | ⟨w, -, dropped⟩
    · exact hStep.yields v (Transform.applyAll_singleton_eq_ok_iff.1 dropped)
    · exact h.yields w dropped
  settled input v came := by
    cases input with
    | none => cases h.same none v came
    | some u =>
      rcases applied : Transform.applyAll [step] u with failure | - | w
      · simp [Check.coerced, applied] at came
      · simp [Check.coerced, applied] at came
      · simp only [Check.coerced, applied] at came
        have same : w = v := Option.some.inj (h.same (some w) v came)
        subst same
        have again : Transform.applyAll [step] w = .ok (some w) :=
          Transform.applyAll_singleton_eq_ok_iff.2
            (hStep.settled u w (Transform.applyAll_singleton_eq_ok_iff.1 applied))
        simp only [Check.coerced, again, came]

/-! ### Containers -/

theorem Settles.array (h : check.Settles) : check.array.Settles where
  yields _ := array_ne_ok_none
  settled input v came := by
    cases input with
    | none => cases came
    | some given =>
      cases given with
      | array items =>
        obtain ⟨noFailure, assembled⟩ := Outcome.ofMembers_eq_ok_iff.1 came
        cases assembled
        have succeeds := itemFailures_eq_nil_iff.1 noFailure
        generalize assembled : List.filterMap Outcome.remainder?
          (items.map fun item ↦ check (some item)) = outputs
        have fixed : (outputs.map fun output ↦ check (some output)) =
            outputs.map fun output ↦ .ok (some output) := by
          refine List.map_congr_left fun output mem ↦ ?_
          rw [← assembled] at mem
          obtain ⟨outcome, member, left⟩ := List.mem_filterMap.1 mem
          obtain ⟨item, -, same⟩ := List.mem_map.1 member
          obtain ⟨found, eq⟩ := succeeds outcome member
          rw [eq, Outcome.remainder?] at left
          exact h.settled (some item) output (by rw [same, eq, left])
        refine Outcome.ofMembers_eq_ok_iff.2 ⟨?_, ?_⟩
        · rw [fixed]
          refine itemFailures_eq_nil_iff.2 fun outcome mem ↦ ?_
          obtain ⟨output, -, rfl⟩ := List.mem_map.1 mem
          exact ⟨some output, rfl⟩
        · rw [fixed, List.filterMap_map]
          exact congrArg (fun items ↦ some (Value.array items)) List.filterMap_some.symm
      | null | bool | number | string | object => cases came

section Schemas

variable {α : Type} {run : α → Check} {field : Field α} {fields : List (Field α)}
  {entries output : Entries Value}

/-- A declared key has the same outcome once more, if what was left of its outcome stands in the
output. -/
theorem Settles.fieldOutcome_eq (h : (run field.type).Settles)
    (silent : fieldFailure? (fieldOutcome run entries field) = none)
    (found : Entries.get? field.name output = (fieldOutcome run entries field).type.remainder?) :
    fieldOutcome run output field = fieldOutcome run entries field := by
  obtain ⟨result, came, -⟩ := fieldFailure?_eq_none_iff.1 silent
  rw [came, Outcome.remainder?] at found
  have first : run field.type (Entries.get? field.name entries) = .ok result := came
  have again : run field.type (Entries.get? field.name output) = .ok result := by
    rw [found]
    exact h.again first
  rw [fieldOutcome, fieldOutcome, Field.map, Field.map, again, first]

/-- All declared keys have the same outcomes once more. -/
theorem map_fieldOutcome_assemble (nodup : (fields.map Field.name).Nodup)
    (h : ∀ field ∈ fields, (run field.type).Settles) (unknownKeys : UnknownKeys)
    (silent : (fields.map (fieldOutcome run entries)).filterMap fieldFailure? = []) :
    fields.map (fieldOutcome run (assemble (fields.map (fieldOutcome run entries))
        (undeclared (fields.map Field.name) entries) unknownKeys)) =
      fields.map (fieldOutcome run entries) := by
  refine List.map_congr_left fun field mem ↦ ?_
  have mem' : fieldOutcome run entries field ∈ fields.map (fieldOutcome run entries) :=
    List.mem_map_of_mem mem
  have found :=
    get?_assemble entries unknownKeys (names_fieldOutcomes run entries fields) nodup mem'
  exact (h field mem).fieldOutcome_eq (List.filterMap_eq_nil_iff.1 silent _ mem') found

/-- What is assembled beside the declared keys was kept. -/
theorem undeclared_assemble {outcomes : List (Field Outcome)} {names : List String}
    (declared : outcomes.map Field.name = names) (entries : Entries Value)
    (unknownKeys : UnknownKeys) :
    undeclared names (assemble outcomes (undeclared names entries) unknownKeys) =
      keptEntries (undeclared names entries) unknownKeys := by
  have dropped : undeclared names (outcomes.filterMap fieldEntry?) = [] := by
    refine List.filter_eq_nil_iff.2 fun entry mem ↦ ?_
    have name := (keys_fieldEntries_sublist outcomes).subset (List.mem_map_of_mem mem)
    rw [declared] at name
    simpa using name
  rw [undeclared] at dropped
  rw [assemble, undeclared, List.filter_append, dropped, List.nil_append]
  refine List.filter_eq_self.2 fun entry mem ↦ ?_
  cases unknownKeys with
  | preserve => exact (List.mem_filter.1 mem).2
  | ignore | reject => cases mem

/-- Entries that are not kept do not matter, unless there are failures for them. -/
theorem ofFields_keptEntries {unknown : Entries Value} {unknownKeys : UnknownKeys}
    (outcomes : List (Field Outcome)) (silent : unknownFailures unknown unknownKeys = []) :
    ofFields outcomes (keptEntries unknown unknownKeys) unknownKeys =
      ofFields outcomes unknown unknownKeys := by
  cases unknownKeys with
  | ignore | preserve => rfl
  | reject =>
    have none : unknown = [] := List.map_eq_nil_iff.1 silent
    rw [none]
    rfl

/-- The declared keys have the outcomes that they had before, and what else is in the output was
kept before and is kept again. -/
theorem settles_schema (nodup : (fields.map Field.name).Nodup)
    (h : ∀ field ∈ fields, (run field.type).Settles) (unknownKeys : UnknownKeys) :
    (schema (fields.map (Field.map run)) unknownKeys).Settles where
  yields _ := schema_ne_ok_none
  settled input v came := by
    cases input with
    | none => cases came
    | some given =>
      cases given with
      | object entries =>
        rw [schema_object] at came
        obtain ⟨noFailure, assembled⟩ := Outcome.ofMembers_eq_ok_iff.1 came
        obtain ⟨declared, unknown⟩ := List.append_eq_nil_iff.1 noFailure
        cases assembled
        have names := names_fieldOutcomes run entries fields
        rw [schema_object, map_fieldOutcome_assemble nodup h unknownKeys declared,
          undeclared_assemble names, ofFields_keptEntries _ unknown]
        exact came
      | null | bool | number | string | array => cases came

end Schemas

/-- An entry of the output comes through unchanged. -/
theorem dictionaryEntry_of_settles (hKeys : keys.Settles) (hValues : values.Settles)
    {given entry : String × Value}
    (came : dictionaryEntry keys values given = (some entry, none)) :
    dictionaryEntry keys values entry = (some entry, none) := by
  rcases dictionaryEntry_snd_eq_none_iff.1 (congrArg Prod.snd came) with
    dropped | ⟨key, output, converted, accepted⟩
  · simp [dictionaryEntry, coerceKey, dropped] at came
  · simp only [dictionaryEntry, coerceKey, converted, accepted] at came
    obtain ⟨value, found, eq⟩ := Option.map_eq_some_iff.1 (congrArg Prod.fst came)
    subst found eq
    have key' := hKeys.settled _ _ converted
    have value' := hValues.settled _ _ accepted
    simp only [dictionaryEntry, coerceKey, key', value', Option.map_some]

/-- Every entry of the output comes through unchanged, and no key is repeated. -/
theorem Settles.dictionary (hKeys : keys.Settles) (hValues : values.Settles) :
    (keys.dictionary values).Settles where
  yields _ := dictionary_ne_ok_none
  settled input v came := by
    cases input with
    | none => cases came
    | some given =>
      cases given with
      | object entries =>
        obtain ⟨noFailure, assembled⟩ := Outcome.ofMembers_eq_ok_iff.1 came
        cases assembled
        generalize outputEq : Entries.ofList ((entries.map (dictionaryEntry keys values)).filterMap
          Prod.fst) = output
        have nodup : output.keys.Nodup := outputEq ▸ Entries.nodup_keys_ofList _
        have fixed : output.map (dictionaryEntry keys values) =
            output.map fun entry ↦ (some entry, none) := by
          refine List.map_congr_left fun entry mem ↦ ?_
          rw [← outputEq] at mem
          obtain ⟨member, mem', found⟩ := List.mem_filterMap.1 (Entries.mem_of_mem_ofList mem)
          have silent := List.filterMap_eq_nil_iff.1 noFailure member mem'
          obtain ⟨given, -, eq⟩ := List.mem_map.1 mem'
          exact dictionaryEntry_of_settles hKeys hValues (eq.trans (Prod.ext found silent))
        have kept : (output.map (dictionaryEntry keys values)).filterMap Prod.fst = output := by
          rw [fixed, List.filterMap_map]
          exact List.filterMap_some
        refine Outcome.ofMembers_eq_ok_iff.2 ⟨?_, ?_⟩
        · simp [fixed]
        · rw [kept, Entries.ofList_eq_self nodup]
      | null | bool | number | string | array => cases came

end Check

/-! ### Conversions -/

namespace Transform

theorem ofConversion_apply_eq_ok_iff {name : String} {convert : Value → Except Refusal Value}
    {v : Value} {output : Option Value} :
    (ofConversion name convert).apply v = .ok output ↔
      ∃ w, convert v = .ok w ∧ output = some w := by
  show ((convert v).map some).mapError Refusal.message = .ok output ↔ _
  rcases convert v with refusal | w
  · constructor
    · intro came
      cases came
    · rintro ⟨w, converted, -⟩
      cases converted
  · constructor
    · intro came
      exact ⟨w, rfl, (Except.ok.inj came).symm⟩
    · rintro ⟨u, converted, rfl⟩
      rw [Except.ok.inj converted]
      rfl

theorem ofConversion_apply_eq_error_iff {name : String} {convert : Value → Except Refusal Value}
    {v : Value} {message : String} :
    (ofConversion name convert).apply v = .error message ↔
      ∃ refusal, convert v = .error refusal ∧ message = refusal.message := by
  show ((convert v).map some).mapError Refusal.message = .error message ↔ _
  rcases convert v with refusal | w
  · constructor
    · intro came
      exact ⟨refusal, rfl, (Except.error.inj came).symm⟩
    · rintro ⟨other, refused, rfl⟩
      rw [Except.error.inj refused]
      rfl
  · constructor
    · intro came
      cases came
    · rintro ⟨refusal, refused, -⟩
      cases refused

/-- A conversion that leaves alone what it has converted. -/
theorem settles_ofConversion {convert : Value → Except Refusal Value} (name : String)
    (h : ∀ v w, convert v = .ok w → convert w = .ok w) : (ofConversion name convert).Settles where
  yields v came := by
    obtain ⟨w, -, eq⟩ := ofConversion_apply_eq_ok_iff.1 came
    cases eq
  settled v w came := by
    obtain ⟨u, converted, eq⟩ := ofConversion_apply_eq_ok_iff.1 came
    cases eq
    exact ofConversion_apply_eq_ok_iff.2 ⟨w, h v w converted, rfl⟩

theorem settles_toNil : toNil.Settles where
  yields _ := by
    rintro ⟨⟩
  settled v w came := by
    have eq : (if isEmptyText v then .null else v) = w := Option.some.inj (Except.ok.inj came)
    -- what comes out is null, or a value that was not the empty text
    have stays : isEmptyText w = false := by
      rw [← eq]
      split
      · rfl
      · rename_i filled
        exact Bool.eq_false_iff.2 filled
    show Except.ok (some (if isEmptyText w then .null else w)) = _
    rw [stays]
    rfl

end Transform

namespace Conversion

variable {v w : Value}

/-! What a conversion yields is of its kind, and such values the conversion leaves alone. -/

theorem exists_of_string_eq_ok (came : string v = .ok w) : ∃ s, w = .string s := by
  cases v with
  | null | bool | number | string =>
    cases came
    exact ⟨_, rfl⟩
  | array | object => cases came

theorem string_string (came : string v = .ok w) : string w = .ok w := by
  obtain ⟨s, rfl⟩ := exists_of_string_eq_ok came
  rfl

theorem exists_of_integer_eq_ok (came : integer v = .ok w) :
    ∃ n : Integer, w = .number (.integer n) := by
  have read : ∀ {n : Int} {u : Value}, Value.ofInt? n = some u → ∃ m, u = .number (.integer m) := by
    intro n u eq
    obtain ⟨m, same, -⟩ := Value.ofInt?_eq_some_iff.1 eq
    exact ⟨m, same⟩
  cases v with
  | number n =>
    cases n with
    | integer n =>
      cases came
      exact ⟨n, rfl⟩
    | double d =>
      rcases whole : integerOfDouble? d with - | u
      · simp [integer, whole] at came
      · simp only [integer, whole, Except.ok.injEq] at came
        rw [← came]
        simp only [integerOfDouble?, Option.bind_eq_bind, Option.bind_eq_some_iff] at whole
        obtain ⟨n, -, small⟩ := whole
        split at small
        · exact read small
        · cases small
  | string s =>
    rcases numeral : IntegerNumeral.read (trim s.toList) with e | n
    · simp [integer, numeral] at came
    · rcases small : Value.ofInt? n with - | u
      · simp [integer, numeral, small] at came
      · simp only [integer, numeral, small, Except.ok.injEq] at came
        rw [← came]
        exact read small
  | null | bool | array | object => cases came

theorem integer_integer (came : integer v = .ok w) : integer w = .ok w := by
  obtain ⟨n, rfl⟩ := exists_of_integer_eq_ok came
  rfl

theorem exists_of_float_eq_ok (came : float v = .ok w) : ∃ d : Double, w = .number (.double d) := by
  cases v with
  | number n =>
    cases came
    exact ⟨_, rfl⟩
  | string s =>
    rcases numeral : FloatNumeral.read (trim s.toList) with e | - | d
    · simp [float, numeral] at came
    · simp [float, numeral] at came
    · simp only [float, numeral, Except.ok.injEq] at came
      exact ⟨d, came.symm⟩
  | null | bool | array | object => cases came

theorem float_float (came : float v = .ok w) : float w = .ok w := by
  obtain ⟨d, rfl⟩ := exists_of_float_eq_ok came
  rfl

theorem exists_of_boolean_eq_ok (came : boolean v = .ok w) : ∃ b, w = .bool b := by
  cases v with
  | bool b => exact ⟨b, (Except.ok.inj came).symm⟩
  | number n =>
    rw [boolean] at came
    split at came
    · exact ⟨true, (Except.ok.inj came).symm⟩
    · split at came
      · exact ⟨false, (Except.ok.inj came).symm⟩
      · cases came
  | string s =>
    rw [boolean] at came
    split at came
    · rename_i b _
      exact ⟨b, (Except.ok.inj came).symm⟩
    · cases came
  | null | array | object => cases came

theorem boolean_boolean (came : boolean v = .ok w) : boolean w = .ok w := by
  obtain ⟨b, rfl⟩ := exists_of_boolean_eq_ok came
  rfl

theorem exists_of_array_eq_ok (came : array v = .ok w) : ∃ xs, w = .array xs := by
  cases v <;> cases came <;> exact ⟨_, rfl⟩

theorem array_array (came : array v = .ok w) : array w = .ok w := by
  obtain ⟨xs, rfl⟩ := exists_of_array_eq_ok came
  rfl

theorem exists_of_hash_eq_ok (came : hash v = .ok w) : ∃ es, w = .object es := by
  cases v with
  | null | object =>
    cases came
    exact ⟨_, rfl⟩
  | bool | number | string | array => cases came

theorem hash_hash (came : hash v = .ok w) : hash w = .ok w := by
  obtain ⟨es, rfl⟩ := exists_of_hash_eq_ok came
  rfl

end Conversion

namespace Standard

/-- The kinds whose conversions leave alone what they have converted. The others are dates and
times, whose conversions put texts into a normal form, and the kind of everything, which has
none. -/
def settledKinds : List Primitive := [.string, .integer, .float, .bool, .nil, .array, .hash]

theorem settles_of_coercion? {p : Primitive} {step : Transform} (mem : p ∈ settledKinds)
    (eq : coercion? p = some step) : step.Settles := by
  cases p with
  | string =>
    cases eq
    exact Transform.settles_ofConversion _ fun _ _ ↦ Conversion.string_string
  | integer =>
    cases eq
    exact Transform.settles_ofConversion _ fun _ _ ↦ Conversion.integer_integer
  | float =>
    cases eq
    exact Transform.settles_ofConversion _ fun _ _ ↦ Conversion.float_float
  | bool =>
    cases eq
    exact Transform.settles_ofConversion _ fun _ _ ↦ Conversion.boolean_boolean
  | nil =>
    cases eq
    exact Transform.settles_toNil
  | array =>
    cases eq
    exact Transform.settles_ofConversion _ fun _ _ ↦ Conversion.array_array
  | hash =>
    cases eq
    exact Transform.settles_ofConversion _ fun _ _ ↦ Conversion.hash_hash
  | any => cases eq
  | date | dateTime | time => exact absurd mem (by decide)

end Standard

end JsonTyping
