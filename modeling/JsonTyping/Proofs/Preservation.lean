import JsonTyping.Proofs.Dictionaries
import JsonTyping.Proofs.Equivalence
import JsonTyping.Proofs.Filtering
import JsonTyping.Proofs.Names

/-!
# Types that leave values alone

Without transforms, defaults and enums, and with schemas that keep the keys they do not declare, a
type only tests. What comes out of it is the input, as far as equality goes: containers are taken
apart and put together again, and the keys of an object may end up in another order. This holds of
the value that a type yields and of the partial value that a failure carries, so a failing member
takes nothing away from the container that it is in (`run_beq_input`).

For each layer it is enough to look at what is left of an outcome, and to forget whether that is a
success (`Check.Keeps`). Arrays and dictionaries go through their members in order. A schema puts
the declared keys first, and so the two objects are compared key by key (`Entries.pairs_of_get?`).
-/

namespace JsonTyping

/-! ### Lists and entries -/

/-- If every element of a list yields something related to it, all that is yielded corresponds to
the list. -/
theorem forall₂_filterMap {α β : Type} {r : β → α → Prop} {f : α → Option β} {xs : List α}
    (h : ∀ x ∈ xs, ∃ y, f x = some y ∧ r y x) : List.Forall₂ r (xs.filterMap f) xs := by
  induction xs with
  | nil => exact .nil
  | cons x xs ih =>
    obtain ⟨y, eq, hyx⟩ := h x List.mem_cons_self
    rw [List.filterMap_cons_some eq]
    exact .cons hyx (ih fun x mem ↦ h x (List.mem_cons_of_mem _ mem))

/-- Entries without repeated keys can be paired if lookups under each key can. -/
theorem Entries.pairs_of_get? {α β : Type} {r : α → β → Prop} {es : Entries α} {fs : Entries β}
    (nodup : es.keys.Nodup) (nodup' : fs.keys.Nodup)
    (h : ∀ key, Option.Rel r (es.get? key) (fs.get? key)) :
    Pairs (fun e f ↦ e.1 = f.1 ∧ r e.2 f.2) es fs := by
  induction es generalizing fs with
  | nil =>
    have empty : fs = [] := by
      refine List.eq_nil_iff_forall_not_mem.2 fun f mem ↦ ?_
      have related := h f.1
      rw [Entries.get?_of_mem nodup' mem] at related
      cases related
    exact .of_forall₂ (empty ▸ .nil)
  | cons e es ih =>
    obtain ⟨new, rest⟩ := List.nodup_cons.1 nodup
    have first := h e.1
    rw [get?, if_pos rfl] at first
    rcases found : fs.get? e.1 with - | value
    · rw [found] at first
      cases first
    rw [found] at first
    cases first with
    | some related =>
      obtain ⟨before, after, rfl⟩ := List.append_of_mem (mem_of_get?_eq_some found)
      have middle : (keys ((e.1, value) :: (before ++ after))).Nodup :=
        ((List.perm_middle.map Prod.fst).nodup_iff).1 nodup'
      obtain ⟨new', rest'⟩ := List.nodup_cons.1 middle
      have others : ∀ key, Option.Rel r (get? key es) (get? key (before ++ after)) := by
        intro key
        by_cases same : e.1 = key
        · rw [← same, get?_eq_none_iff.2 new, get?_eq_none_iff.2 new']
          exact .none
        · have skipped := h key
          rwa [get?_append, get?, get?, if_neg same, if_neg same, ← get?_append] at skipped
      have paired := Pairs.cons (x := e) (y := (e.1, value)) ⟨rfl, related⟩ (ih rest rest' others)
      exact paired.perm_right List.perm_middle.symm

namespace Value

theorem distinctItems_iff {xs : List Value} : DistinctItems xs ↔ ∀ x ∈ xs, x.Distinct := by
  induction xs with
  | nil => simp [DistinctItems]
  | cons x xs ih => simp [DistinctItems, ih]

theorem distinctEntries_iff {es : List (String × Value)} :
    DistinctEntries es ↔ ∀ e ∈ es, e.2.Distinct := by
  induction es with
  | nil => simp [DistinctEntries]
  | cons e es ih => simp [DistinctEntries, ih]

end Value

/-! ### Layers -/

namespace Check

/-- Whether a check passes on undefined input, and leaves an equal value of a value whether it
succeeds or not. -/
structure Keeps (check : Check) : Prop where
  undefined : check none = .ok none
  defined : ∀ v : Value, v.Distinct → ∃ w, (check (some v)).remainder? = some w ∧ (w == v) = true

variable {check left right keys values : Check}

theorem keeps_nominal (p : Primitive) : (nominal p).Keeps where
  undefined := rfl
  defined v _ := ⟨v, Rule.remainder?_enforce [.kind p] v, BEq.rfl⟩

theorem Keeps.constrained (h : check.Keeps) (rule : Rule) : (check.constrained rule).Keeps where
  undefined := constrained_of_ok_none h.undefined
  defined v distinct := by
    obtain ⟨w, left, same⟩ := h.defined v distinct
    refine ⟨w, ?_, same⟩
    rcases inner : check (some v) with failure | - | u
    · rwa [constrained_of_error inner, ← inner]
    · rwa [constrained_of_ok_none inner, ← inner]
    · rw [inner] at left
      cases left
      rw [constrained_of_ok_some inner]
      exact Rule.remainder?_enforce rule w

theorem Keeps.lax (h : check.Keeps) : check.lax.Keeps where
  undefined := by rw [Check.lax, h.undefined]; rfl
  defined v distinct := h.defined v distinct

theorem Keeps.sum (hLeft : left.Keeps) (hRight : right.Keeps) : (left.sum right).Keeps where
  undefined := sum_eq_ok_iff.2 (.inl hLeft.undefined)
  defined v distinct := by
    rcases first : left (some v) with failure | output
    · -- both branches having failed, the partial value is that of the right one
      have same : (left.sum right (some v)).remainder? = (right (some v)).remainder? := by
        rcases second : right (some v) with failure' | output' <;>
          simp only [Check.sum, first, second]
        rfl
      rw [same]
      exact hRight.defined v distinct
    · have same : left.sum right (some v) = left (some v) := by simp only [Check.sum, first]
      rw [same]
      exact hLeft.defined v distinct

theorem Keeps.array (h : check.Keeps) : check.array.Keeps where
  undefined := rfl
  defined v distinct := by
    cases v with
    | array items =>
      refine ⟨_, Outcome.remainder?_ofMembers _ _, Value.array_beq_iff.2 ?_⟩
      rw [List.filterMap_map]
      exact forall₂_filterMap fun item mem ↦
        h.defined item (Value.distinctItems_iff.1 distinct item mem)
    | null | bool | number | string | object => exact ⟨_, rfl, BEq.rfl⟩

/-- The object that is put together has related values under the declared keys, and the same values
under the others. -/
theorem keeps_schema {α : Type} {run : α → Check} {fields : List (Field α)}
    (nodup : (fields.map Field.name).Nodup) (h : ∀ field ∈ fields, (run field.type).Keeps) :
    (schema (fields.map (Field.map run)) .preserve).Keeps where
  undefined := rfl
  defined v distinct := by
    cases v with
    | object entries =>
      obtain ⟨keys, values⟩ := distinct
      rw [schema_object]
      refine ⟨_, Outcome.remainder?_ofMembers _ _, Value.object_beq_iff.2 ?_⟩
      have names := names_fieldOutcomes run entries fields
      refine Entries.pairs_of_get? (r := fun v w ↦ (v == w) = true)
        (nodup_keys_assemble names nodup keys .preserve) keys fun key ↦ ?_
      by_cases declared : key ∈ fields.map Field.name
      · obtain ⟨field, mem, rfl⟩ := List.mem_map.1 declared
        have found := get?_assemble entries .preserve names nodup (List.mem_map_of_mem mem)
        rw [fieldOutcome, Field.map] at found
        rw [found]
        rcases value : Entries.get? field.name entries with - | v
        · rw [(h field mem).undefined]
          exact .none
        · have distinct : v.Distinct :=
            Value.distinctEntries_iff.1 values _ (Entries.mem_of_get?_eq_some value)
          obtain ⟨w, left, same⟩ := (h field mem).defined v distinct
          rw [left]
          exact .some same
      · rw [get?_assemble_of_not_mem .preserve names declared, keptEntries,
          get?_undeclared_of_not_mem entries declared]
        rcases Entries.get? key entries with - | v
        · exact .none
        · exact .some BEq.rfl
    | null | bool | number | string | array => exact ⟨_, rfl, BEq.rfl⟩

/-- An entry keeps its key, for an equal text is the same text. -/
theorem dictionaryEntry_of_keeps (hKeys : keys.Keeps) (hValues : values.Keeps)
    {entry : String × Value} (distinct : entry.2.Distinct) :
    ∃ kept, (dictionaryEntry keys values entry).1 = some kept ∧ Value.EntryEq kept entry := by
  obtain ⟨key, left, same⟩ := hKeys.defined (.string entry.1) trivial
  obtain ⟨value, left', same'⟩ := hValues.defined entry.2 distinct
  rw [Value.string_of_beq same] at left
  rcases converted : keys (some (.string entry.1)) with failure | - | w
  · exact ⟨entry, dictionaryEntry_fst_eq_some_iff.2 (.untouched (.failed converted)), rfl, BEq.rfl⟩
  · rw [converted] at left
    cases left
  · rw [converted] at left
    cases left
    refine ⟨(entry.1, value), dictionaryEntry_fst_eq_some_iff.2 ?_, rfl, same'⟩
    rcases came : values (some entry.2) with failure | output
    · rw [came] at left'
      cases left'
      exact .left converted came
    · rw [came] at left'
      rw [show output = some value from left'] at came
      exact .converted converted came

theorem Keeps.dictionary (hKeys : keys.Keeps) (hValues : values.Keeps) :
    (keys.dictionary values).Keeps where
  undefined := rfl
  defined v distinct := by
    cases v with
    | object entries =>
      obtain ⟨nodup, inside⟩ := distinct
      refine ⟨_, Outcome.remainder?_ofMembers _ _, Value.object_beq_iff.2 ?_⟩
      have paired : List.Forall₂ Value.EntryEq
          ((entries.map (dictionaryEntry keys values)).filterMap Prod.fst) entries := by
        rw [List.filterMap_map]
        exact forall₂_filterMap fun entry mem ↦
          dictionaryEntry_of_keeps hKeys hValues (Value.distinctEntries_iff.1 inside entry mem)
      -- as the keys are the same, none of them is repeated and no entry is lost
      have same : Entries.keys ((entries.map (dictionaryEntry keys values)).filterMap Prod.fst) =
          Entries.keys entries := Value.keys_eq_of_forall₂ paired
      rw [Entries.ofList_eq_self (same ▸ nodup)]
      exact .of_forall₂ paired
    | null | bool | number | string | array => exact ⟨_, rfl, BEq.rfl⟩

end Check

/-! ### Types -/

namespace Ty

variable {t : Ty}

/-- Whether the layer on top only tests: it converts nothing, fills nothing in and drops nothing. -/
def onlyTests (t : Ty) : Bool :=
  match t.kind with
  | .coerced .. | .defaulted .. | .enum .. => false
  | .schema _ unknownKeys => unknownKeys = .preserve
  | _ => true

theorem keeps_run (tests : t.Everywhere fun s ↦ s.onlyTests = true) (names : t.DistinctNames) :
    t.run.Keeps := by
  induction t using Ty.induction with
  | nominal p =>
    rw [run_nominal]
    exact Check.keeps_nominal p
  | constrained wrapped rule _ ih =>
    rw [run_constrained]
    exact (ih (tests.single rfl) (names.single rfl)).constrained rule
  | coerced | defaulted | enum => cases tests.self
  | lax wrapped _ ih =>
    rw [run_lax]
    exact (ih (tests.single rfl) (names.single rfl)).lax
  | sum left right _ ihLeft ihRight =>
    obtain ⟨testsLeft, testsRight⟩ := tests.pair rfl
    obtain ⟨namesLeft, namesRight⟩ := names.pair rfl
    rw [run_sum]
    exact (ihLeft testsLeft namesLeft).sum (ihRight testsRight namesRight)
  | array member _ ih =>
    rw [run_array]
    exact (ih (tests.single rfl) (names.single rfl)).array
  | schema fields unknownKeys _ ih =>
    have preserve : unknownKeys = .preserve := of_decide_eq_true tests.self
    rw [run_schema, preserve]
    exact Check.keeps_schema names.self fun field mem ↦
      ih field mem (tests.field mem) (names.field mem)
  | dictionary key value _ ihKey ihValue =>
    obtain ⟨testsKey, testsValue⟩ := tests.pair rfl
    obtain ⟨namesKey, namesValue⟩ := names.pair rfl
    rw [run_dictionary]
    exact (ihKey testsKey namesKey).dictionary (ihValue testsValue namesValue)

/-- **Types that only test leave values alone.** If such a type succeeds on a value, it yields an
equal value, and if it fails, the partial value of the failure is equal to the value. The names that
are declared have to be distinct, as they are in built types (`Built.distinctNames`). -/
theorem run_beq_input (tests : t.Everywhere fun s ↦ s.onlyTests = true) (names : t.DistinctNames)
    {v : Value} (distinct : v.Distinct) :
    (∀ output, t.run (some v) = .ok output → ∃ w, output = some w ∧ (w == v) = true) ∧
      ∀ failure, t.run (some v) = .error failure → (failure.partialValue == v) = true := by
  obtain ⟨w, left, same⟩ := (keeps_run tests names).defined v distinct
  refine ⟨fun output came ↦ ⟨w, ?_, same⟩, fun failure came ↦ ?_⟩
  · rwa [came] at left
  · rw [came] at left
    cases left
    exact same

/-- A survey: a name, scores that are positive or missing, and marks under long names; other keys
are kept. -/
def survey : Ty :=
  ofFields
    [⟨"name", ruled .string .filled, true⟩,
      ⟨"scores", (ruled .integer (.above (.integer (.ofUInt64 0)))).optional.array, true⟩,
      ⟨"marks", dictionary (ruled .string (.minSize 2)) (nominal .bool), false⟩]
    .preserve

/-- Answers in which a score and the name of a mark are wrong, with a key that is not declared. -/
def answers : Value :=
  .object [("note", .null), ("marks", .object [("a", .bool true), ("bb", .bool false)]),
    ("scores", .array [.ofUInt64 0, .null, .ofUInt64 3]), ("name", .string "x")]

/-- The survey fails on the answers under two keys, and the failure carries the answers in the order
of the survey. -/
theorem run_beq_input_answers :
    (survey.Everywhere fun s ↦ s.onlyTests = true) ∧ survey.DistinctNames ∧ answers.Distinct ∧
    ∃ failure, survey.run (some answers) = .error failure ∧
      failure.error.memberFailures.length = 2 ∧ (failure.partialValue == answers) = true := by
  have tests : survey.Everywhere fun s ↦ s.onlyTests = true := by decide
  have names : survey.DistinctNames := by decide
  have distinct : answers.Distinct := by
    simp [answers, Value.Distinct, Value.DistinctEntries, Value.DistinctItems, Value.ofUInt64]
  obtain ⟨-, failures⟩ := run_beq_input tests names distinct
  exact ⟨tests, names, distinct, _, rfl, rfl, failures _ rfl⟩

end Ty

end JsonTyping
