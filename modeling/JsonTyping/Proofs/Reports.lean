import JsonTyping.Proofs.Dictionaries
import JsonTyping.Proofs.DistinctKeys

/-!
# Reports of errors

An error is a tree: a sum reports both branches, and a container reports all members that fail, each
under its place. `TypeError.Orderly` says what can be relied on anywhere in such a tree. A container
reports at least one member, and no two under one place: arrays give positions, which increase, and
objects give keys, of which none is repeated. Errors of runs are of this sort (`orderly_of_run`),
and so at least one thing is wrong in them (`TypeError.Orderly.one_le_leafCount`).

That no key is repeated in a report rests on the same being so of the objects that are checked:
those in the input, and those that the type hands inward (`Ty.DistinctKeys`).
-/

namespace JsonTyping

/-! ### Places -/

/-- Whether the places of failing members tell them apart: they are positions that increase, or keys
of which none is repeated. -/
def Located (failures : List MemberFailure) : Prop :=
  (∃ positions : List Nat, failures.map Prod.fst = positions.map Segment.index ∧
      positions.Pairwise (· < ·)) ∨
    ∃ names : List String, failures.map Prod.fst = names.map Segment.key ∧ names.Nodup

section Places

variable {failures : List MemberFailure}

theorem located_of_positions {positions : List Nat}
    (places : (failures.map Prod.fst).Sublist (positions.map Segment.index))
    (increasing : positions.Pairwise (· < ·)) : Located failures := by
  obtain ⟨reported, sublist, eq⟩ := List.sublist_map_iff.1 places
  exact .inl ⟨reported, eq, increasing.sublist sublist⟩

theorem located_of_names {names : List String}
    (places : (failures.map Prod.fst).Sublist (names.map Segment.key)) (nodup : names.Nodup) :
    Located failures := by
  obtain ⟨reported, sublist, eq⟩ := List.sublist_map_iff.1 places
  exact .inr ⟨reported, eq, nodup.sublist sublist⟩

end Places

namespace TypeError

/-! ### Errors inside errors -/

/-- The errors directly inside an error: those of the branches of a sum, or of failing members. -/
def parts : TypeError → List TypeError
  | sum left right => [left, right]
  | aggregate failures => failures.map Prod.snd
  | _ => []

/-- What holds of an error if it holds of the errors directly inside it holds of all errors. -/
theorem induction {P : TypeError → Prop} (step : ∀ e : TypeError, (∀ p ∈ e.parts, P p) → P e)
    (e : TypeError) : P e :=
  go e
where
  go : (e : TypeError) → P e
    | constraint .. | coercion .. | notApplicable _ | notACollection .. | missingKey _
    | unknownKey _ => step _ fun _ mem ↦ by cases mem
    | sum left right => step _ <| List.forall_mem_cons.2
      ⟨go left, List.forall_mem_singleton.2 (go right)⟩
    | aggregate failures => step _ (goMembers failures)
  goMembers : (failures : List (Segment × TypeError)) → ∀ p ∈ failures.map Prod.snd, P p
    | [], _, mem => by cases mem
    | (_, error) :: failures, p, mem => by
      cases mem with
      | head => exact go error
      | tail _ mem => exact goMembers failures p mem

/-- Whether an error occurs in another one, at any depth. -/
inductive OccursIn (s : TypeError) : TypeError → Prop
  | self : OccursIn s s
  | part {e p : TypeError} : p ∈ e.parts → OccursIn s p → OccursIn s e

/-- Whether every report of a container in an error is about at least one member, and tells the
members apart by their places. -/
def Orderly (e : TypeError) : Prop :=
  ∀ failures, (aggregate failures).OccursIn e → failures ≠ [] ∧ Located failures

variable {e left right : TypeError} {failures : List MemberFailure}

/-- An error is orderly if it is so on top and in its parts. -/
theorem orderly_iff :
    e.Orderly ↔ (∀ failures, e = aggregate failures → failures ≠ [] ∧ Located failures) ∧
      ∀ p ∈ e.parts, p.Orderly := by
  constructor
  · intro h
    refine ⟨?_, fun p part failures occurs ↦ h failures (.part part occurs)⟩
    rintro failures rfl
    exact h failures .self
  · rintro ⟨top, inside⟩ failures occurs
    cases occurs with
    | self => exact top failures rfl
    | part mem occurs => exact inside _ mem failures occurs

/-- An error that is no tree is orderly. -/
theorem orderly_of_parts_eq_nil (leaf : e.parts = []) (single : e.isAggregate = false) :
    e.Orderly := by
  refine orderly_iff.2 ⟨?_, ?_⟩
  · rintro failures rfl
    cases single
  · rw [leaf]
    exact fun p mem ↦ absurd mem List.not_mem_nil

theorem orderly_sum (hLeft : left.Orderly) (hRight : right.Orderly) : (sum left right).Orderly := by
  refine orderly_iff.2 ⟨?_, List.forall_mem_cons.2 ⟨hLeft, List.forall_mem_singleton.2 hRight⟩⟩
  rintro failures ⟨⟩

theorem orderly_aggregate (reported : failures ≠ []) (located : Located failures)
    (members : ∀ f ∈ failures, f.2.Orderly) : (aggregate failures).Orderly := by
  refine orderly_iff.2 ⟨?_, List.forall_mem_map.2 members⟩
  rintro _ ⟨⟩
  exact ⟨reported, located⟩

/-- Something is wrong wherever an orderly error is reported. -/
theorem Orderly.one_le_leafCount (h : e.Orderly) : 1 ≤ e.leafCount := by
  induction e using TypeError.induction with
  | step e ih =>
    obtain ⟨top, inside⟩ := orderly_iff.1 h
    have below : ∀ p ∈ e.parts, 1 ≤ p.leafCount := fun p part ↦ ih p part (inside p part)
    cases e with
    | sum left right =>
      have first : 1 ≤ left.leafCount := below left List.mem_cons_self
      rw [leafCount]
      omega
    | aggregate failures =>
      obtain ⟨reported, -⟩ := top failures rfl
      obtain ⟨f, others, rfl⟩ := List.exists_cons_of_ne_nil reported
      have first : 1 ≤ f.2.leafCount := below f.2 List.mem_cons_self
      rw [leafCount, memberLeafCount]
      omega
    | constraint | coercion | notApplicable | notACollection | missingKey | unknownKey =>
      exact Nat.le_refl 1

end TypeError

open TypeError

/-! ### Single errors -/

/-- A transform that refuses is reported by itself. -/
theorem Transform.orderly_of_applyAll {steps : List Transform} {v : Value} {failure : Failure}
    (failed : applyAll steps v = .error failure) : failure.error.Orderly := by
  induction steps generalizing v with
  | nil => cases failed
  | cons step steps ih =>
    rcases next : step.apply v with reason | - | u
    · simp only [applyAll, next, Except.error.injEq] at failed
      rw [← failed]
      exact orderly_of_parts_eq_nil rfl rfl
    · simp [applyAll, next] at failed
    · have rest : applyAll steps u = .error failure := by simpa [applyAll, next] using failed
      exact ih rest

/-- So is a predicate that fails. -/
theorem Rule.orderly_of_enforce {rule : Rule} {v : Value} {failure : Failure}
    (failed : rule.enforce v = .error failure) : failure.error.Orderly := by
  rcases broken : rule.find? (fun p ↦ !p.test v) with - | p
  · rw [enforce_of_find?_eq_none broken] at failed
    cases failed
  · rw [enforce_of_find?_eq_some broken] at failed
    cases failed
    exact orderly_of_parts_eq_nil rfl rfl

/-! ### Layers -/

namespace Check

/-- Whether the errors of a check are orderly, for input without repeated keys. -/
def Reports (check : Check) : Prop :=
  ∀ input failure, (∀ v ∈ input, v.Distinct) → check input = .error failure →
    failure.error.Orderly

variable {check left right : Check}

theorem reports_nominal (p : Primitive) : (nominal p).Reports := by
  rintro (- | v) failure - failed
  · cases failed
  · exact Rule.orderly_of_enforce failed

theorem Reports.constrained (h : check.Reports) (rule : Rule) :
    (check.constrained rule).Reports := by
  intro input failure distinct failed
  rcases inner : check input with failure' | - | v
  · rw [constrained_of_error inner] at failed
    cases failed
    exact h input failure distinct inner
  · rw [constrained_of_ok_none inner] at failed
    cases failed
  · rw [constrained_of_ok_some inner] at failed
    exact Rule.orderly_of_enforce failed

theorem Reports.coerced (h : check.Reports) {steps : List Transform}
    (keep : ∀ step ∈ steps, step.KeepsDistinct) : (check.coerced steps).Reports := by
  rintro (- | v) failure distinct failed
  · exact h none failure distinct failed
  · rcases applied : Transform.applyAll steps v with failure' | - | w
    · have same : failure' = failure := by simpa [Check.coerced, applied] using failed
      exact same ▸ Transform.orderly_of_applyAll applied
    · simp [Check.coerced, applied] at failed
    · have inner : check (some w) = .error failure := by
        simpa [Check.coerced, applied] using failed
      have converted : w.Distinct :=
        Transform.distinct_of_applyAll keep (distinct v rfl) applied
      exact h (some w) failure (by simpa using converted) inner

theorem Reports.defaulted (h : check.Reports) (value : Value) :
    (check.defaulted value).Reports := by
  rintro (- | v) failure distinct failed
  · cases failed
  · rcases inner : check (some v) with failure' | - | w
    · have same : failure' = failure := by simpa [Check.defaulted, inner] using failed
      exact h (some v) failure distinct (same ▸ inner)
    · simp [Check.defaulted, inner] at failed
    · simp [Check.defaulted, inner] at failed

theorem reports_lax : check.lax.Reports := by
  rintro input failure - ⟨⟩

theorem Reports.sum (h : left.Reports) (h' : right.Reports) : (left.sum right).Reports := by
  intro input failure distinct failed
  rcases first : left input with leftFailure | output
  · rcases second : right input with rightFailure | output
    · simp only [Check.sum, first, second, Except.error.injEq] at failed
      rw [← failed]
      exact orderly_sum (h input leftFailure distinct first) (h' input rightFailure distinct second)
    · simp [Check.sum, first, second] at failed
  · simp [Check.sum, first] at failed

theorem Reports.enum (h : check.Reports) {mapping : EnumMapping}
    (labels : ∀ pair ∈ mapping, pair.1.Distinct) : (check.enum mapping).Reports := by
  intro input failure distinct failed
  refine h (input.map mapping.toLabel) failure (fun label mem ↦ ?_) failed
  obtain ⟨v, given, rfl⟩ := Option.map_eq_some_iff.1 mem
  exact EnumMapping.distinct_toLabel labels (distinct v given)

/-! ### Containers -/

theorem orderly_of_ofMembers {assembled : Value} {failures : List MemberFailure}
    {failure : Failure} (failed : Outcome.ofMembers assembled failures = .error failure)
    (located : Located failures) (members : ∀ f ∈ failures, f.2.Orderly) :
    failure.error.Orderly := by
  cases failures with
  | nil => cases failed
  | cons f failures =>
    cases failed
    exact orderly_aggregate (List.cons_ne_nil f failures) located members

/-- The places of failing items are among the positions that are gone through. -/
theorem places_itemFailures (position : Nat) (outcomes : List Outcome) :
    ((itemFailures position outcomes).map Prod.fst).Sublist
      ((List.range' position outcomes.length).map Segment.index) := by
  induction outcomes generalizing position with
  | nil => exact .slnil
  | cons outcome outcomes ih =>
    rw [List.length_cons, List.range'_succ, List.map_cons]
    rcases outcome with failure | output
    · exact (ih (position + 1)).cons_cons (Segment.index position)
    · exact (ih (position + 1)).cons (Segment.index position)

/-- What is reported of items: the error of each that fails, under its own position. -/
theorem mem_itemFailures_iff {position : Nat} {outcomes : List Outcome} {f : MemberFailure} :
    f ∈ itemFailures position outcomes ↔
      ∃ i failure, outcomes[i]? = some (.error failure) ∧
        f = (.index (position + i), failure.error) := by
  induction outcomes generalizing position with
  | nil => simp [itemFailures]
  | cons outcome outcomes ih =>
    -- an item further on is one position further from the one that the rest starts with
    have later : (∃ i failure, outcomes[i]? = some (.error failure) ∧
          f = (.index (position + 1 + i), failure.error)) ↔
        ∃ i failure, (outcome :: outcomes)[i + 1]? = some (.error failure) ∧
          f = (.index (position + (i + 1)), failure.error) := by
      simp only [List.getElem?_cons_succ, Nat.add_assoc, Nat.add_comm 1]
    rcases outcome with first | output
    · rw [itemFailures, List.mem_cons, ih, later]
      constructor
      · rintro (rfl | ⟨i, failure, found, eq⟩)
        · exact ⟨0, first, rfl, rfl⟩
        · exact ⟨i + 1, failure, found, eq⟩
      · rintro ⟨- | i, failure, found, eq⟩
        · cases found
          exact .inl eq
        · exact .inr ⟨i, failure, found, eq⟩
    · rw [itemFailures, ih, later]
      constructor
      · rintro ⟨i, failure, found, eq⟩
        exact ⟨i + 1, failure, found, eq⟩
      · rintro ⟨- | i, failure, found, eq⟩
        · cases found
        · exact ⟨i, failure, found, eq⟩

theorem Reports.array (h : check.Reports) : check.array.Reports := by
  rintro (- | v) failure distinct failed
  · cases failed
  · cases v with
    | array items =>
      have inside : ∀ item ∈ items, item.Distinct := Value.distinctItems_iff.1 (distinct _ rfl)
      refine orderly_of_ofMembers failed
        (located_of_positions (places_itemFailures 0 _) List.pairwise_lt_range') fun f mem ↦ ?_
      obtain ⟨i, failure, found, rfl⟩ := mem_itemFailures_iff.1 mem
      obtain ⟨item, given, ran⟩ := List.mem_map.1 (List.mem_of_getElem? found)
      exact h (some item) failure (by simpa using inside item given) ran
    | null | bool | number | string | object =>
      cases failed
      exact orderly_of_parts_eq_nil rfl rfl

/-- What is reported of some elements of a list, each under its own place, keeps the order of the
list. -/
theorem places_filterMap {α : Type} {report : α → Option MemberFailure} {place : α → Segment}
    {xs : List α} (own : ∀ x ∈ xs, ∀ f, report x = some f → f.1 = place x) :
    ((xs.filterMap report).map Prod.fst).Sublist (xs.map place) := by
  induction xs with
  | nil => exact .slnil
  | cons x xs ih =>
    obtain ⟨first, others⟩ := List.forall_mem_cons.1 own
    rcases reported : report x with - | f
    · rw [List.filterMap_cons_none reported]
      exact (ih others).cons (place x)
    · rw [List.filterMap_cons_some reported, List.map_cons, List.map_cons, first f reported]
      exact (ih others).cons_cons (place x)

/-- What is reported of a declared key: its own error, or that it is missing. -/
theorem of_fieldFailure?_eq_some {field : Field Outcome} {f : MemberFailure}
    (reported : fieldFailure? field = some f) :
    f.1 = .key field.name ∧
      (f.2 = .missingKey field.name ∨
        ∃ failure, field.type = .error failure ∧ f.2 = failure.error) := by
  obtain ⟨name, outcome, required⟩ := field
  rcases outcome with failure | - | v
  · cases reported
    exact ⟨rfl, .inr ⟨failure, rfl, rfl⟩⟩
  · cases required
    · cases reported
    · cases reported
      exact ⟨rfl, .inl rfl⟩
  · cases reported

theorem places_fieldFailures (outcomes : List (Field Outcome)) :
    ((outcomes.filterMap fieldFailure?).map Prod.fst).Sublist
      ((outcomes.map Field.name).map Segment.key) := by
  rw [List.map_map]
  exact places_filterMap fun field _ f reported ↦ (of_fieldFailure?_eq_some reported).1

theorem places_unknownFailures (unknown : Entries Value) (unknownKeys : UnknownKeys) :
    ((unknownFailures unknown unknownKeys).map Prod.fst).Sublist
      (unknown.keys.map Segment.key) := by
  cases unknownKeys with
  | reject =>
    rw [unknownFailures, Entries.keys, List.map_map, List.map_map]
    exact .refl _
  | ignore | preserve => exact List.nil_sublist _

theorem orderly_of_mem_unknownFailures {unknown : Entries Value} {unknownKeys : UnknownKeys}
    {f : MemberFailure} (mem : f ∈ unknownFailures unknown unknownKeys) : f.2.Orderly := by
  cases unknownKeys with
  | reject =>
    obtain ⟨entry, -, rfl⟩ := List.mem_map.1 mem
    exact orderly_of_parts_eq_nil rfl rfl
  | ignore | preserve => cases mem

theorem nodup_names_append_undeclared {names : List String} (nodup : names.Nodup)
    {entries : Entries Value} (distinct : entries.keys.Nodup) :
    (names ++ (undeclared names entries).keys).Nodup := by
  refine List.nodup_append.2
    ⟨nodup, distinct.sublist (List.filter_sublist.map Prod.fst), fun key mem key' mem' eq ↦ ?_⟩
  have absent : key ∉ (undeclared names entries).keys :=
    Entries.get?_eq_none_iff.1 (get?_undeclared_of_mem entries mem)
  exact absent (eq ▸ mem')

theorem reports_schema {α : Type} {run : α → Check} {fields : List (Field α)}
    (nodup : (fields.map Field.name).Nodup) (h : ∀ field ∈ fields, (run field.type).Reports)
    (unknownKeys : UnknownKeys) : (schema (fields.map (Field.map run)) unknownKeys).Reports := by
  rintro (- | v) failure distinct failed
  · cases failed
  · cases v with
    | object entries =>
      obtain ⟨keys, values⟩ : (Entries.keys entries).Nodup ∧ Value.DistinctEntries entries :=
        distinct _ rfl
      rw [schema_object] at failed
      refine orderly_of_ofMembers failed ?_ fun f mem ↦ ?_
      · refine located_of_names ?_ (nodup_names_append_undeclared nodup keys)
        have declared := places_fieldFailures (fields.map (fieldOutcome run entries))
        rw [names_fieldOutcomes] at declared
        rw [List.map_append, List.map_append]
        exact declared.append (places_unknownFailures _ unknownKeys)
      · rcases List.mem_append.1 mem with mem | mem
        · obtain ⟨outcome, listed, reported⟩ := List.mem_filterMap.1 mem
          obtain ⟨field, declared, rfl⟩ := List.mem_map.1 listed
          obtain ⟨-, missing | ⟨failure, ran, eq⟩⟩ := of_fieldFailure?_eq_some reported
          · rw [missing]
            exact orderly_of_parts_eq_nil rfl rfl
          · rw [eq]
            refine h field declared _ failure (fun v found ↦ ?_) ran
            exact Value.distinctEntries_iff.1 values _ (Entries.mem_of_get?_eq_some found)
        · exact orderly_of_mem_unknownFailures mem
    | null | bool | number | string | array =>
      cases failed
      exact orderly_of_parts_eq_nil rfl rfl

/-- What is reported of an entry stands under the key that was given. -/
theorem EntryReport.orderly {keys values : Check} {entry : String × Value} {f : MemberFailure}
    (reported : EntryReport keys values entry f) (hKeys : keys.Reports) (hValues : values.Reports)
    (distinct : entry.2.Distinct) : f.1 = .key entry.1 ∧ f.2.Orderly := by
  rcases reported with (failed | -) | ⟨-, failed⟩
  · exact ⟨rfl, hKeys _ _ (by simp [Value.Distinct]) failed⟩
  · exact ⟨rfl, orderly_of_parts_eq_nil rfl rfl⟩
  · exact ⟨rfl, hValues _ _ (by simpa using distinct) failed⟩

theorem Reports.dictionary {keys values : Check} (hKeys : keys.Reports) (hValues : values.Reports) :
    (keys.dictionary values).Reports := by
  rintro (- | v) failure distinct failed
  · cases failed
  · cases v with
    | object entries =>
      obtain ⟨nodup, inside⟩ : (Entries.keys entries).Nodup ∧ Value.DistinctEntries entries :=
        distinct _ rfl
      have own : ∀ entry ∈ entries, ∀ f, (dictionaryEntry keys values entry).2 = some f →
          f.1 = .key entry.1 ∧ f.2.Orderly := fun entry mem f reported ↦
        (dictionaryEntry_snd_eq_some_iff.1 reported).orderly hKeys hValues
          (Value.distinctEntries_iff.1 inside entry mem)
      refine orderly_of_ofMembers failed ?_ fun f mem ↦ ?_
      · refine located_of_names ?_ nodup
        rw [List.filterMap_map, Entries.keys, List.map_map]
        exact places_filterMap fun entry mem f reported ↦ (own entry mem f reported).1
      · rw [List.filterMap_map] at mem
        obtain ⟨entry, listed, reported⟩ := List.mem_filterMap.1 mem
        exact (own entry listed f reported).2
    | null | bool | number | string | array =>
      cases failed
      exact orderly_of_parts_eq_nil rfl rfl

end Check

/-! ### Types -/

namespace Ty

theorem reports_run {t : Ty} (keys : t.DistinctKeys) : t.run.Reports := by
  induction t using Ty.induction with
  | nominal p =>
    rw [run_nominal]
    exact Check.reports_nominal p
  | constrained wrapped rule _ ih =>
    rw [run_constrained]
    exact (ih (keys.single rfl)).constrained rule
  | coerced wrapped steps _ ih =>
    rw [run_coerced]
    exact (ih (keys.single rfl)).coerced keys.self
  | defaulted wrapped value _ ih =>
    rw [run_defaulted]
    exact (ih (keys.single rfl)).defaulted value
  | lax wrapped =>
    rw [run_lax]
    exact Check.reports_lax
  | sum left right _ ihLeft ihRight =>
    obtain ⟨keysLeft, keysRight⟩ := keys.pair rfl
    rw [run_sum]
    exact (ihLeft keysLeft).sum (ihRight keysRight)
  | enum wrapped mapping _ ih =>
    rw [run_enum]
    exact (ih (keys.single rfl)).enum keys.self
  | array member _ ih =>
    rw [run_array]
    exact (ih (keys.single rfl)).array
  | schema fields unknownKeys _ ih =>
    rw [run_schema]
    exact Check.reports_schema keys.self (fun field mem ↦ ih field mem (keys.field mem)) unknownKeys
  | dictionary key value _ ihKey ihValue =>
    obtain ⟨keysKey, keysValue⟩ := keys.pair rfl
    rw [run_dictionary]
    exact (ihKey keysKey).dictionary (ihValue keysValue)

/-- **Errors are well formed.** If a run fails, then every report of a container anywhere in the
error is about at least one member, and the places of the members are increasing positions or
distinct keys; and at least one thing is wrong. Keys must not be repeated in the input, nor by the
type. -/
theorem orderly_of_run {t : Ty} (keys : t.DistinctKeys) {input : Option Value}
    (distinct : ∀ v ∈ input, v.Distinct) {failure : Failure}
    (failed : t.run input = .error failure) :
    (∀ failures, (TypeError.aggregate failures).OccursIn failure.error →
      failures ≠ [] ∧ Located failures) ∧
    1 ≤ failure.error.leafCount := by
  have orderly : failure.error.Orderly := reports_run keys input failure distinct failed
  exact ⟨orderly, orderly.one_le_leafCount⟩

/-- A basket: tags, of which a single one needs no array, and prices under long names, if there are
any; nothing else. -/
def basket : Ty :=
  ofFields
    [⟨"tags", (nominal .string).array.coerce .toArray, true⟩,
      ⟨"prices", (dictionary (ruled .string (.minSize 2)) (nominal .float)).optional, true⟩]
    .reject

/-- Two tags that are numbers, a short name without a price, a price that is no number, and a key
that is not declared. -/
def spilled : Value :=
  .object [("note", .null), ("tags", .array [.ofUInt64 1, .string "fresh", .ofUInt64 2]),
    ("prices", .object [("x", .null), ("milk", .string "cheap")])]

/-- All that is wrong with the basket is reported: tags under their positions, prices under their
keys and next to the error that they are not null, and the key that is not declared. -/
theorem orderly_of_run_spilled :
    basket.DistinctKeys ∧ (∀ v ∈ some spilled, v.Distinct) ∧
    ∃ failure, basket.run (some spilled) = .error failure ∧ failure.error.Orderly ∧
      failure.error.memberFailures.map Prod.fst = [.key "tags", .key "prices", .key "note"] ∧
      1 ≤ failure.error.leafCount ∧ failure.error.leafCount = 6 := by
  have keys : basket.DistinctKeys := by
    have leaf : ∀ p, (nominal p).DistinctKeys := fun p ↦ everywhere_nominal trivial
    have tags : ((nominal .string).array.coerce .toArray).DistinctKeys := by
      refine everywhere_of_single ?_ rfl (everywhere_of_single trivial rfl (leaf .string))
      have stock : Standard.coercion? .array = some .toArray := rfl
      exact List.forall_mem_singleton.2 (Standard.keepsDistinct_of_stock (.inl stock))
    have names : (ruled .string (.minSize 2)).DistinctKeys :=
      everywhere_of_single trivial rfl (leaf .string)
    have prices :
        (dictionary (ruled .string (.minSize 2)) (nominal .float)).optional.DistinctKeys :=
      everywhere_of_pair trivial rfl (leaf .nil)
        (everywhere_of_pair trivial rfl names (leaf .float))
    refine everywhere_schema (by decide) fun field mem ↦ ?_
    rcases List.mem_cons.1 mem with rfl | mem
    · exact tags
    · exact List.mem_singleton.1 mem ▸ prices
  have distinct : ∀ v ∈ some spilled, v.Distinct := by
    simp [spilled, Value.Distinct, Value.DistinctEntries, Value.DistinctItems, Value.ofUInt64]
  obtain ⟨orderly, counted⟩ := orderly_of_run keys distinct rfl
  exact ⟨keys, distinct, _, rfl, orderly, rfl, counted, rfl⟩

end Ty

end JsonTyping
