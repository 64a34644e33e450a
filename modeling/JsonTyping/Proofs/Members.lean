import JsonTyping.Proofs.Reports

/-!
# Outcomes of members

A container runs its members one by one. What it makes of them is described here without reference
to how it goes through them: when it succeeds, what it then yields, and what is otherwise reported
and left, each in which order. There is one description for arrays (`array_outcome`), one for
schemas (`schema_outcome`) and one for dictionaries (`dictionary_outcome`).

All of them treat the output and the reports apart, because the two run at different speeds. A
member that yields no value leaves neither, unless it is required, and a member that fails leaves
both. So positions in a report count the items that were given (`mem_itemFailures_map_iff`), and not
those that are left; and a report on an entry of a dictionary stands under the key that was given,
although the entry is left under the key that came of it.
-/

namespace JsonTyping

/-! ### Lists -/

/-- What is made of some elements of a list, those that are picked, stands in their order. -/
theorem forall₂_filter_filterMap {α β : Type} {R : α → β → Prop} {picks : α → Bool}
    {f : α → Option β} {xs : List α}
    (each : ∀ x ∈ xs, picks x = false ∧ f x = none ∨ picks x = true ∧ ∃ y, f x = some y ∧ R x y) :
    List.Forall₂ R (xs.filter picks) (xs.filterMap f) := by
  induction xs with
  | nil => exact .nil
  | cons x xs ih =>
    obtain ⟨first, others⟩ := List.forall_mem_cons.1 each
    rcases first with ⟨passed, skipped⟩ | ⟨picked, y, eq, related⟩
    · rw [List.filter_cons_of_neg (by simp [passed]), List.filterMap_cons_none skipped]
      exact ih others
    · rw [List.filter_cons_of_pos picked, List.filterMap_cons_some eq]
      exact .cons related (ih others)

/-- What is made of the elements by a relation, where a function computes it, stands in their
order. -/
theorem forall₂_filterMap_of_iff {α β : Type} {R : α → β → Prop} {f : α → Option β}
    [∀ x, Decidable (∃ y, R x y)] (computes : ∀ x y, f x = some y ↔ R x y) (xs : List α) :
    List.Forall₂ R (xs.filter fun x ↦ ∃ y, R x y) (xs.filterMap f) := by
  refine forall₂_filter_filterMap fun x _ ↦ ?_
  rcases eq : f x with - | y
  · refine .inl ⟨decide_eq_false ?_, rfl⟩
    rintro ⟨y, related⟩
    cases eq.symm.trans ((computes x y).2 related)
  · have related : R x y := (computes x y).1 eq
    exact .inr ⟨decide_eq_true ⟨y, related⟩, y, rfl, related⟩

/-! ### Containers -/

namespace Outcome

/-- The value of a member that succeeds with one. -/
def value? : Outcome → Option Value
  | .ok output => output
  | .error _ => none

/-- A member that does not fail leaves the value that it yields. -/
theorem remainder?_eq_value? {outcome : Outcome} (succeeds : ∃ output, outcome = .ok output) :
    outcome.remainder? = outcome.value? := by
  obtain ⟨output, rfl⟩ := succeeds
  rfl

theorem exists_ofMembers_eq_ok_iff {assembled : Value} {failures : List MemberFailure} :
    (∃ output, ofMembers assembled failures = .ok output) ↔ failures = [] := by
  simp only [ofMembers_eq_ok_iff, exists_and_left, exists_eq, and_true]

/-- A container that fails reports the members and leaves what was assembled. -/
theorem eq_of_ofMembers_eq_error {assembled : Value} {failures : List MemberFailure}
    {failure : Failure} (failed : ofMembers assembled failures = .error failure) :
    failure = ⟨assembled, .aggregate failures⟩ := by
  cases failures with
  | nil => cases failed
  | cons f failures => exact (Except.error.inj failed).symm

end Outcome

namespace Check

/-! ### Items -/

/-- The positions in a report increase. -/
theorem exists_positions_itemFailures (outcomes : List Outcome) :
    ∃ positions : List Nat, (itemFailures 0 outcomes).map Prod.fst = positions.map Segment.index ∧
      positions.Pairwise (· < ·) := by
  obtain ⟨positions, sublist, eq⟩ := List.sublist_map_iff.1 (places_itemFailures 0 outcomes)
  have increasing : (List.range' 0 outcomes.length).Pairwise (· < ·) := List.pairwise_lt_range'
  exact ⟨positions, eq, increasing.sublist sublist⟩

section Items

variable (check : Check) (items : List Value)

theorem array_items :
    check.array (some (.array items)) =
      .ofMembers (.array (items.filterMap fun x ↦ (check (some x)).remainder?))
        (itemFailures 0 (items.map fun x ↦ check (some x))) := by
  rw [array, List.filterMap_map]
  rfl

theorem itemFailures_map_eq_nil_iff :
    itemFailures 0 (items.map fun x ↦ check (some x)) = [] ↔
      ∀ x ∈ items, ∃ output, check (some x) = .ok output :=
  itemFailures_eq_nil_iff.trans List.forall_mem_map

theorem mem_itemFailures_map_iff {f : MemberFailure} :
    f ∈ itemFailures 0 (items.map fun x ↦ check (some x)) ↔
      ∃ i x inner, items[i]? = some x ∧ check (some x) = .error inner ∧
        f = (.index i, inner.error) := by
  rw [mem_itemFailures_iff]
  simp only [List.getElem?_map, Option.map_eq_some_iff, Nat.zero_add]
  constructor
  · rintro ⟨i, inner, ⟨x, found, failed⟩, eq⟩
    exact ⟨i, x, inner, found, failed, eq⟩
  · rintro ⟨i, x, inner, found, failed, eq⟩
    exact ⟨i, inner, ⟨x, found, failed⟩, eq⟩

end Items

/-! ### Declared keys -/

section Fields

variable (entries : Entries Value) (field : Field Ty) (fields : List (Field Ty))

/-- What becomes of a declared key, which is offered the value under its name or else undefined. -/
def offer : Outcome := field.type.run (entries.get? field.name)

/-- Whether there is nothing to report of a declared key: its type does not fail, and it yields a
value if one is required. -/
def isSettled : Bool :=
  match offer entries field with
  | .ok output => output.isSome || !field.required
  | .error _ => false

/-- What can be reported of a declared key: the error of its type, or that a required value is
missing. -/
inductive Complaint : MemberFailure → Prop
  | failed {inner : Failure} : offer entries field = .error inner →
      Complaint (.key field.name, inner.error)
  | missing : offer entries field = .ok none → field.required = true →
      Complaint (.key field.name, .missingKey field.name)

theorem isSettled_iff :
    isSettled entries field = true ↔
      ∃ output, offer entries field = .ok output ∧ (field.required = true → output ≠ none) := by
  rw [isSettled]
  rcases offer entries field with inner | - | v <;> simp

/-- A declared key is settled, or there is one thing to report of it. -/
theorem settled_or_complaint :
    (isSettled entries field = true ∧ fieldFailure? (fieldOutcome Ty.run entries field) = none) ∨
      isSettled entries field = false ∧
        ∃ f, fieldFailure? (fieldOutcome Ty.run entries field) = some f ∧
          Complaint entries field f := by
  have ran : (fieldOutcome Ty.run entries field).type = offer entries field := rfl
  have asked : (fieldOutcome Ty.run entries field).required = field.required := rfl
  rw [isSettled, fieldFailure?, ran, asked]
  rcases came : offer entries field with inner | - | v
  · exact .inr ⟨rfl, _, rfl, .failed came⟩
  · cases required : field.required with
    | true => exact .inr ⟨rfl, _, rfl, .missing came required⟩
    | false => exact .inl ⟨rfl, rfl⟩
  · exact .inl ⟨rfl, rfl⟩

/-- The reports of declared keys are about those that are not settled, one after the other. -/
theorem forall₂_complaints :
    List.Forall₂ (Complaint entries) (fields.filter fun field ↦ !isSettled entries field)
      ((fields.map (fieldOutcome Ty.run entries)).filterMap fieldFailure?) := by
  rw [List.filterMap_map]
  refine forall₂_filter_filterMap fun field _ ↦ ?_
  rcases settled_or_complaint entries field with ⟨settled, quiet⟩ | ⟨unsettled, f, reported, own⟩
  · exact .inl ⟨congrArg not settled, quiet⟩
  · exact .inr ⟨congrArg not unsettled, f, reported, own⟩

/-- There is nothing to report of declared keys exactly if all of them are settled. -/
theorem fieldFailures_eq_nil_iff :
    (fields.map (fieldOutcome Ty.run entries)).filterMap fieldFailure? = [] ↔
      ∀ field ∈ fields, isSettled entries field = true := by
  rw [List.filterMap_eq_nil_iff, List.forall_mem_map]
  refine forall₂_congr fun field _ ↦ ?_
  rcases settled_or_complaint entries field with ⟨settled, quiet⟩ | ⟨unsettled, f, reported, -⟩
  · simp [settled, quiet]
  · simp [unsettled, reported]

theorem fieldEntries_map :
    (fields.map (fieldOutcome Ty.run entries)).filterMap fieldEntry? =
      fields.filterMap fun field ↦
        (offer entries field).remainder?.map fun value ↦ (field.name, value) :=
  List.filterMap_map

end Fields

/-! ### Other keys -/

theorem keptEntries_eq (unknown : Entries Value) (unknownKeys : UnknownKeys) :
    keptEntries unknown unknownKeys = if unknownKeys = .preserve then unknown else [] := by
  cases unknownKeys <;> rfl

theorem unknownFailures_eq (unknown : Entries Value) (unknownKeys : UnknownKeys) :
    unknownFailures unknown unknownKeys =
      if unknownKeys = .reject then unknown.map fun entry ↦ (.key entry.1, .unknownKey entry.1)
      else [] := by
  cases unknownKeys <;> rfl

theorem unknownFailures_eq_nil_iff {unknown : Entries Value} {unknownKeys : UnknownKeys} :
    unknownFailures unknown unknownKeys = [] ↔ (unknownKeys = .reject → unknown = []) := by
  cases unknownKeys <;> simp [unknownFailures]

end Check

namespace Ty

theorem accepts_iff {t : Ty} {v : Value} :
    t.accepts v = true ↔ ∃ output, t.run (some v) = .ok (some output) := by
  rw [accepts, check]
  rcases t.run (some v) with failure | - | output <;> simp [Except.isOk, Except.toBool]

/-- **What an array type does.** It succeeds exactly if no item fails, and yields the values of the
items in order, without those that yield none. If it fails, the report is about the items that fail
and about no others, each under its position in the input and with its own error, and the positions
increase; left are the values and the partial values of the items in order. -/
theorem array_outcome (member : Ty) (items : List Value) :
    ((∃ output, member.array.run (some (.array items)) = .ok output) ↔
      ∀ x ∈ items, ∃ output, member.run (some x) = .ok output) ∧
    (∀ output, member.array.run (some (.array items)) = .ok output →
      output = some (.array (items.filterMap fun x ↦ (member.run (some x)).value?))) ∧
    ∀ failure, member.array.run (some (.array items)) = .error failure →
      failure.partialValue = .array (items.filterMap fun x ↦ (member.run (some x)).remainder?) ∧
      ∃ failures, failure.error = .aggregate failures ∧
        (∃ positions : List Nat, failures.map Prod.fst = positions.map Segment.index ∧
          positions.Pairwise (· < ·)) ∧
        ∀ f, f ∈ failures ↔ ∃ i x inner, items[i]? = some x ∧
          member.run (some x) = .error inner ∧ f = (.index i, inner.error) := by
  have ran : member.array.run = member.run.array := run_array member []
  have succeeds := Check.itemFailures_map_eq_nil_iff member.run items
  rw [ran, Check.array_items]
  refine ⟨Outcome.exists_ofMembers_eq_ok_iff.trans succeeds, fun output came ↦ ?_,
    fun failure failed ↦ ?_⟩
  · obtain ⟨none, rfl⟩ := Outcome.ofMembers_eq_ok_iff.1 came
    rw [List.filterMap_congr fun x mem ↦ Outcome.remainder?_eq_value? (succeeds.1 none x mem)]
  · cases Outcome.eq_of_ofMembers_eq_error failed
    exact ⟨rfl, _, rfl, Check.exists_positions_itemFailures _,
      fun f ↦ Check.mem_itemFailures_map_iff member.run items⟩

/-- An item that is left out does not shift the positions of later ones. -/
example : ∃ failure,
    ((nominal .string).coerce .emptyToUndefined).array.run
      (some (.array [.string "", .null, .string "x", .bool true])) = .error failure ∧
    failure.error.memberFailures.map Prod.fst = [.index 1, .index 3] ∧
    failure.partialValue = .array [.null, .string "x", .bool true] :=
  ⟨_, rfl, rfl, rfl⟩

/-- What is said of the outcome of a schema on an object. -/
structure SchemaOutcome (fields : List (Field Ty)) (unknownKeys : UnknownKeys)
    (entries : Entries Value) (outcome : Outcome) : Prop where
  /-- It is a success exactly if no declared key fails, every required key yields a value, and there
  are no other keys where these are rejected. -/
  succeeds_iff : (∃ output, outcome = .ok output) ↔
    (∀ field ∈ fields, ∃ output, field.type.run (entries.get? field.name) = .ok output ∧
      (field.required = true → output ≠ none)) ∧
    (unknownKeys = .reject → Check.undeclared (fields.map Field.name) entries = [])
  /-- The output has the declared keys that yield a value, in the order of declaration, and then the
  other entries where these are preserved. -/
  output_eq : ∀ output, outcome = .ok output →
    output = some (.object
      ((fields.filterMap fun field ↦ (Check.offer entries field).value?.map fun value ↦
          (field.name, value)) ++
        if unknownKeys = .preserve then Check.undeclared (fields.map Field.name) entries else []))
  /-- What is left of a failure is put together in the same way, with the partial values of the keys
  that fail. -/
  left_eq : ∀ failure, outcome = .error failure →
    failure.partialValue = .object
      ((fields.filterMap fun field ↦ (Check.offer entries field).remainder?.map fun value ↦
          (field.name, value)) ++
        if unknownKeys = .preserve then Check.undeclared (fields.map Field.name) entries else [])
  /-- There is one report for each declared key that is not settled, in the order of declaration,
  and then one for each other key where these are rejected, in the order of the input. -/
  reports : ∀ failure, outcome = .error failure →
    ∃ declared : List MemberFailure,
      List.Forall₂ (Check.Complaint entries)
        (fields.filter fun field ↦ !Check.isSettled entries field) declared ∧
      failure.error = .aggregate (declared ++
        if unknownKeys = .reject then
          (Check.undeclared (fields.map Field.name) entries).map fun entry ↦
            (.key entry.1, .unknownKey entry.1)
        else [])

section Schemas

variable (fields : List (Field Ty)) (unknownKeys : UnknownKeys) (notes : Annotations)
  (entries : Entries Value)

/-- The outcome of a schema is as described, key by key. -/
theorem schemaOutcome_run :
    SchemaOutcome fields unknownKeys entries
      (run ⟨.schema fields unknownKeys, notes⟩ (some (.object entries))) := by
  let names := fields.map Field.name
  let declared := (fields.map (Check.fieldOutcome run entries)).filterMap Check.fieldFailure?
  have settled :
      declared ++ Check.unknownFailures (Check.undeclared names entries) unknownKeys = [] ↔
      (∀ field ∈ fields, Check.isSettled entries field = true) ∧
        (unknownKeys = .reject → Check.undeclared names entries = []) := by
    rw [List.append_eq_nil_iff, Check.fieldFailures_eq_nil_iff, Check.unknownFailures_eq_nil_iff]
  rw [run_schema, Check.schema_object, Check.ofFields, Check.assemble, Check.fieldEntries_map,
    Check.keptEntries_eq]
  refine ⟨?_, fun output came ↦ ?_, fun failure failed ↦ ?_, fun failure failed ↦ ?_⟩
  · rw [Outcome.exists_ofMembers_eq_ok_iff, settled]
    simp only [Check.isSettled_iff]
    rfl
  · obtain ⟨none, rfl⟩ := Outcome.ofMembers_eq_ok_iff.1 came
    have yielded : ∀ field ∈ fields, (Check.offer entries field).remainder?.map (field.name, ·) =
        (Check.offer entries field).value?.map (field.name, ·) := fun field mem ↦ by
      have quiet := (settled.1 none).1 field mem
      obtain ⟨output, ran, -⟩ := (Check.isSettled_iff entries field).1 quiet
      rw [Outcome.remainder?_eq_value? ⟨output, ran⟩]
    rw [List.filterMap_congr yielded]
  · cases Outcome.eq_of_ofMembers_eq_error failed
    rfl
  · cases Outcome.eq_of_ofMembers_eq_error failed
    refine ⟨declared, Check.forall₂_complaints entries fields, ?_⟩
    rw [← Check.unknownFailures_eq]

/-- An object is accepted if its declared keys are settled and its other keys are not rejected. -/
theorem accepts_schema_iff :
    accepts ⟨.schema fields unknownKeys, notes⟩ (.object entries) = true ↔
      (∀ field ∈ fields, Check.isSettled entries field = true) ∧
        (unknownKeys = .reject → Check.undeclared (fields.map Field.name) entries = []) := by
  have outcome := schemaOutcome_run fields unknownKeys notes entries
  have settled : (∃ output, run ⟨.schema fields unknownKeys, notes⟩ (some (.object entries)) =
      .ok output) ↔ _ := outcome.succeeds_iff
  rw [accepts_iff]
  simp only [Check.isSettled_iff]
  refine Iff.trans ⟨fun ⟨output, came⟩ ↦ ⟨some output, came⟩, fun ⟨output, came⟩ ↦ ?_⟩ settled
  exact ⟨_, outcome.output_eq output came ▸ came⟩

/-- Under a declared name stands what the key yields, whatever the policy. -/
theorem get?_of_check_schema {out : Entries Value} {field : Field Ty}
    (checked : check ⟨.schema fields unknownKeys, notes⟩ (.object entries) = .ok (.object out))
    (mem : field ∈ fields) :
    out.get? field.name = Entries.get? field.name (fields.filterMap fun field ↦
      (Check.offer entries field).value?.map fun value ↦ (field.name, value)) := by
  have came := check_eq_ok_iff.1 checked
  have eq := (schemaOutcome_run fields unknownKeys notes entries).output_eq _ came
  cases eq
  have other : Entries.get? field.name (if unknownKeys = .preserve then
      Check.undeclared (fields.map Field.name) entries else []) = none := by
    split
    · exact Check.get?_undeclared_of_mem entries (List.mem_map_of_mem mem)
    · rfl
  rw [Entries.get?_append, other, Option.or_none]

/-- **What a schema does.** Under every policy the outcome on an object is as described, key by key.
The policies differ in the keys that are not declared, and in nothing else: what is accepted when
these are dropped is accepted when they are preserved, and it is accepted when they are rejected
exactly if there are none. Outputs under two policies have the same values under declared keys. -/
theorem schema_outcome :
    (∀ unknownKeys, SchemaOutcome fields unknownKeys entries
      (run ⟨.schema fields unknownKeys, notes⟩ (some (.object entries)))) ∧
    accepts ⟨.schema fields .ignore, notes⟩ (.object entries) =
      accepts ⟨.schema fields .preserve, notes⟩ (.object entries) ∧
    (accepts ⟨.schema fields .reject, notes⟩ (.object entries) = true ↔
      accepts ⟨.schema fields .ignore, notes⟩ (.object entries) = true ∧
        Check.undeclared (fields.map Field.name) entries = []) ∧
    ∀ policy policy' out out',
      check ⟨.schema fields policy, notes⟩ (.object entries) = .ok (.object out) →
      check ⟨.schema fields policy', notes⟩ (.object entries) = .ok (.object out') →
      ∀ field ∈ fields, Entries.get? field.name out = Entries.get? field.name out' := by
  refine ⟨fun unknownKeys ↦ schemaOutcome_run fields unknownKeys notes entries, ?_, ?_,
    fun policy policy' out out' checked checked' field mem ↦ ?_⟩
  · rw [Bool.eq_iff_iff, accepts_schema_iff, accepts_schema_iff]
    simp
  · rw [accepts_schema_iff, accepts_schema_iff]
    simp
  · rw [get?_of_check_schema fields policy notes entries checked mem,
      get?_of_check_schema fields policy' notes entries checked' mem]

end Schemas

/-- What is said of the outcome of a dictionary on an object. -/
structure DictionaryOutcome (keys values : Check) (entries : Entries Value) (outcome : Outcome) :
    Prop where
  /-- It is a success exactly if there is nothing to report of any entry. -/
  succeeds_iff : (∃ output, outcome = .ok output) ↔
    ∀ entry ∈ entries, ¬∃ f, Check.EntryReport keys values entry f
  /-- There is one report for each entry of which there is something to report, in the order of the
  input. -/
  reports : ∀ failure, outcome = .error failure →
    ∃ failures, failure.error = .aggregate failures ∧
      List.Forall₂ (Check.EntryReport keys values)
        (entries.filter fun entry ↦ ∃ f, Check.EntryReport keys values entry f) failures
  /-- One entry is written for each entry of which there is something to write, in the order of the
  input. If no two of them are written under one key, these are the output, or what is left. -/
  written_eq : ∃ written : Entries Value,
    List.Forall₂ (Check.EntryWritten keys values)
      (entries.filter fun entry ↦ ∃ pair, Check.EntryWritten keys values entry pair) written ∧
    (written.keys.Nodup →
      (∀ output, outcome = .ok output → output = some (.object written)) ∧
      ∀ failure, outcome = .error failure → failure.partialValue = .object written)

/-- **What a dictionary does.** The outcome on an object is as described, entry by entry, and an
entry whose key comes to no value is passed over, whatever its value. -/
theorem dictionary_outcome (key value : Ty) (entries : Entries Value) :
    DictionaryOutcome key.run value.run entries
      ((dictionary key value).run (some (.object entries))) ∧
    ∀ entry ∈ entries, key.run (some (.string entry.1)) = .ok none →
      (¬∃ f, Check.EntryReport key.run value.run entry f) ∧
        ¬∃ pair, Check.EntryWritten key.run value.run entry pair := by
  refine ⟨?_, fun entry _ ↦ Check.not_report_and_not_written key.run value.run entry⟩
  let members := entries.map (Check.dictionaryEntry key.run value.run)
  have ran : (dictionary key value).run (some (.object entries)) =
      .ofMembers (.object (Entries.ofList (members.filterMap Prod.fst)))
        (members.filterMap Prod.snd) :=
    congrFun (run_dictionary key value []) _
  rw [ran]
  refine ⟨?_, fun failure failed ↦ ?_, members.filterMap Prod.fst, ?_, fun distinct ↦ ?_⟩
  · rw [Outcome.exists_ofMembers_eq_ok_iff, List.filterMap_eq_nil_iff, List.forall_mem_map]
    refine forall₂_congr fun entry _ ↦ ?_
    simp only [← Check.dictionaryEntry_snd_eq_some_iff, Option.eq_none_iff_forall_ne_some,
      not_exists, ne_eq]
  · cases Outcome.eq_of_ofMembers_eq_error failed
    refine ⟨_, rfl, ?_⟩
    rw [List.filterMap_map]
    exact forall₂_filterMap_of_iff (fun _ _ ↦ Check.dictionaryEntry_snd_eq_some_iff) entries
  · rw [List.filterMap_map]
    exact forall₂_filterMap_of_iff (fun _ _ ↦ Check.dictionaryEntry_fst_eq_some_iff) entries
  · -- without repeated keys nothing is replaced when the entries are put in
    rw [Entries.ofList_eq_self distinct]
    constructor
    · intro output came
      exact (Outcome.ofMembers_eq_ok_iff.1 came).2
    · intro failure failed
      rw [Outcome.eq_of_ofMembers_eq_error failed]

/-- Of four entries the first is passed over, the second has a key that is too short, and the third
has a value that is no integer. The last three are left. -/
example : ∃ failure,
    (dictionary ((ruled .string (.minSize 2)).coerce .emptyToUndefined) (nominal .integer)).run
      (some (.object [("", .null), ("x", .ofUInt64 1), ("ab", .null), ("cd", .ofUInt64 2)])) =
        .error failure ∧
    failure.error.memberFailures.map Prod.fst = [.key "x", .key "ab"] ∧
    failure.partialValue = .object [("x", .ofUInt64 1), ("ab", .null), ("cd", .ofUInt64 2)] :=
  ⟨_, rfl, rfl, rfl⟩

end Ty

end JsonTyping
