import JsonTyping.Proofs.Congruence
import JsonTyping.Proofs.Containers
import JsonTyping.Proofs.Filtering

/-!
# Outcomes that are alike

Two outcomes are alike if they are of the same sort and leave equal values (`Outcome.Alike`), and
two checks are alike if their outcomes are, for every input. What the errors say is left aside.

Every layer keeps this over parts that are alike. The inputs of the parts are identical on both
sides, so transforms and labels have to do the same to identical values only. What comes out of the
parts is equal, and a rule has to hold of equal values alike. In containers equality forgets the
order of keys, and so the declared keys of a schema may be paired in any order
(`Check.alike_schema`).
-/

namespace JsonTyping

/-! ### Outcomes -/

/-- Whether two outcomes are of the same sort and leave equal values. -/
inductive Outcome.Alike : Outcome → Outcome → Prop
  | value {v w : Value} : (v == w) = true → Alike (.ok (some v)) (.ok (some w))
  | noValue : Alike (.ok none) (.ok none)
  | failure {f g : Failure} : (f.partialValue == g.partialValue) = true →
      Alike (.error f) (.error g)

namespace Outcome

variable {o o' : Outcome}

theorem Alike.refl (o : Outcome) : o.Alike o := by
  rcases o with failure | - | v
  · exact .failure BEq.rfl
  · exact .noValue
  · exact .value BEq.rfl

/-- What is left of outcomes that are alike is equal, or nothing on both sides. -/
theorem Alike.remainder? (h : o.Alike o') :
    Option.Rel (fun v w ↦ (v == w) = true) o.remainder? o'.remainder? := by
  cases h with
  | value same => exact .some same
  | noValue => exact .none
  | failure same => exact .some same

theorem alike_of (succeeds : (∃ output, o = .ok output) ↔ ∃ output, o' = .ok output)
    (left : Option.Rel (fun v w ↦ (v == w) = true) o.remainder? o'.remainder?) : o.Alike o' := by
  rcases o with failure | output
  · rcases o' with failure' | output'
    · cases left with
      | some same => exact .failure same
    · obtain ⟨output, eq⟩ := succeeds.2 ⟨output', rfl⟩
      cases eq
  · rcases o' with failure' | output'
    · obtain ⟨output, eq⟩ := succeeds.1 ⟨output, rfl⟩
      cases eq
    · cases left with
      | some same => exact .value same
      | none => exact .noValue

/-- Containers are alike if what is assembled is equal and both or none have failures. -/
theorem alike_ofMembers {assembled assembled' : Value} {failures failures' : List MemberFailure}
    (same : (assembled == assembled') = true) (silent : failures = [] ↔ failures' = []) :
    (ofMembers assembled failures).Alike (ofMembers assembled' failures') := by
  cases failures with
  | nil =>
    rw [silent.1 rfl]
    exact .value same
  | cons failure failures =>
    cases failures' with
    | nil => cases silent.2 rfl
    | cons failure' failures' => exact .failure same

end Outcome

/-! ### Rules, transforms and labels -/

/-- Whether two predicates hold of equal values alike. -/
def Predicate.Agrees (p q : Predicate) : Prop :=
  ∀ v w, (v == w) = true → p.test v = q.test w

theorem Rule.enforce_alike {rule rule' : Rule} {v w : Value}
    (agree : List.Forall₂ Predicate.Agrees rule rule') (same : (v == w) = true) :
    (rule.enforce v).Alike (rule'.enforce w) := by
  have holds : (∀ p ∈ rule, p.test v = true) ↔ ∀ q ∈ rule', q.test w = true := by
    induction agree with
    | nil => simp
    | cons first _ ih => rw [List.forall_mem_cons, List.forall_mem_cons, first v w same, ih]
  refine Outcome.alike_of ?_ ?_
  · simp only [enforce_eq_ok_iff, exists_and_right, exists_eq, true_and, holds]
  · rw [remainder?_enforce, remainder?_enforce]
    exact .some same

theorem Transform.applyAll_congr {steps steps' : List Transform}
    (h : List.Forall₂ (fun a b ↦ a.apply = b.apply) steps steps') :
    applyAll steps = applyAll steps' := by
  induction h with
  | nil => rfl
  | cons first _ ih =>
    funext v
    rw [applyAll, applyAll, first, ih]

/-- Mappings with the same labels and equal raw values take values to the same labels. -/
theorem EnumMapping.toLabel_congr {mapping mapping' : EnumMapping}
    (h : List.Forall₂ (fun a b ↦ a.1 = b.1 ∧ (a.2 == b.2) = true) mapping mapping') :
    mapping.toLabel = mapping'.toLabel := by
  funext v
  have known : (mapping.any fun pair ↦ pair.1 == v) = mapping'.any fun pair ↦ pair.1 == v := by
    induction h with
    | nil => rfl
    | cons first _ ih => rw [List.any_cons, List.any_cons, first.1, ih]
  have found : mapping.labelFor? v = mapping'.labelFor? v := by
    rw [labelFor?, labelFor?]
    clear known
    induction h with
    | nil => rfl
    | @cons a b _ _ first _ ih =>
      rw [List.find?_cons, List.find?_cons, BEq.congr_left first.2]
      split
      · exact congrArg some first.1
      · exact ih
  rw [toLabel, toLabel, known, found]

/-! ### Layers -/

namespace Check

/-- Whether two checks have outcomes that are alike for every input. -/
def Alike (check check' : Check) : Prop := ∀ input, Outcome.Alike (check input) (check' input)

variable {check check' left left' right right' : Check}

theorem Alike.constrained {rule rule' : Rule} (h : check.Alike check')
    (agree : List.Forall₂ Predicate.Agrees rule rule') :
    (check.constrained rule).Alike (check'.constrained rule') := by
  intro input
  have inner := h input
  rw [Check.constrained, Check.constrained]
  generalize check input = o at inner ⊢
  generalize check' input = o' at inner ⊢
  cases inner with
  | value same => exact Rule.enforce_alike agree same
  | noValue => exact .noValue
  | failure same => exact .failure same

theorem Alike.coerced {steps steps' : List Transform} (h : check.Alike check')
    (same : Transform.applyAll steps = Transform.applyAll steps') :
    (check.coerced steps).Alike (check'.coerced steps') := by
  intro input
  cases input with
  | none => exact h none
  | some v =>
    rw [Check.coerced, Check.coerced, same]
    rcases Transform.applyAll steps' v with failure | - | w
    · exact .failure BEq.rfl
    · exact .noValue
    · exact h (some w)

theorem Alike.defaulted {value value' : Value} (h : check.Alike check')
    (same : (value == value') = true) :
    (check.defaulted value).Alike (check'.defaulted value') := by
  intro input
  cases input with
  | none => exact .value same
  | some v =>
    have inner := h (some v)
    rw [Check.defaulted, Check.defaulted]
    generalize check (some v) = o at inner ⊢
    generalize check' (some v) = o' at inner ⊢
    cases inner with
    | value found => exact .value found
    | noValue => exact .value same
    | failure found => exact .failure found

theorem Alike.lax (h : check.Alike check') : check.lax.Alike check'.lax := by
  intro input
  have inner := h input
  rw [Check.lax, Check.lax]
  generalize check input = o at inner ⊢
  generalize check' input = o' at inner ⊢
  cases inner with
  | value same | failure same => exact .value same
  | noValue => exact .noValue

theorem Alike.sum (hLeft : left.Alike left') (hRight : right.Alike right') :
    (left.sum right).Alike (left'.sum right') := by
  intro input
  have first := hLeft input
  have second := hRight input
  rw [Check.sum, Check.sum]
  generalize left input = o at first ⊢
  generalize left' input = o' at first ⊢
  generalize right input = p at second ⊢
  generalize right' input = p' at second ⊢
  cases first with
  | value same => exact .value same
  | noValue => exact .noValue
  | failure =>
    cases second with
    | value same => exact .value same
    | noValue => exact .noValue
    | failure same => exact .failure same

theorem Alike.enum {mapping mapping' : EnumMapping} (h : check.Alike check')
    (same : mapping.toLabel = mapping'.toLabel) :
    (check.enum mapping).Alike (check'.enum mapping') := by
  intro input
  rw [Check.enum, Check.enum, same]
  exact h _

theorem itemFailures_eq_nil_congr {outcomes outcomes' : List Outcome}
    (h : List.Forall₂ Outcome.Alike outcomes outcomes') (position : Nat) :
    itemFailures position outcomes = [] ↔ itemFailures position outcomes' = [] := by
  induction h generalizing position with
  | nil => rfl
  | cons first _ ih =>
    cases first with
    | value | noValue => exact ih (position + 1)
    | failure => exact iff_of_false (List.cons_ne_nil _ _) (List.cons_ne_nil _ _)

theorem Alike.array (h : check.Alike check') : check.array.Alike check'.array := by
  intro input
  cases input with
  | none => exact .noValue
  | some v =>
    cases v with
    | array items =>
      have outcomes : List.Forall₂ Outcome.Alike (items.map fun item ↦ check (some item))
          (items.map fun item ↦ check' (some item)) :=
        List.forall₂_map_left_iff.2 (List.forall₂_map_right_iff.2
          (List.forall₂_same.2 fun item _ ↦ h (some item)))
      refine Outcome.alike_ofMembers (Value.array_beq_iff.2 ?_)
        (itemFailures_eq_nil_congr outcomes 0)
      exact List.rel_filterMap (fun _ _ alike ↦ alike.remainder?) outcomes
    | null | bool | number | string | object => exact .failure BEq.rfl

/-! ### Schemas -/

/-- Whether two declared keys have the same name and are alike in what becomes of them. -/
def FieldAlike (field field' : Field Outcome) : Prop :=
  field.name = field'.name ∧ field.required = field'.required ∧ field.type.Alike field'.type

/-- Declared keys that are alike contribute equal entries, or none. -/
theorem rel_fieldEntry :
    Relator.LiftFun FieldAlike (Option.Rel Value.EntryEq) fieldEntry? fieldEntry? := by
  rintro field field' ⟨names, -, outcomes⟩
  have left := outcomes.remainder?
  unfold fieldEntry?
  generalize field.type.remainder? = x at left ⊢
  generalize field'.type.remainder? = y at left ⊢
  cases left with
  | some same => exact .some ⟨names, same⟩
  | none => exact .none

theorem FieldAlike.fieldFailure?_eq_none_iff {field field' : Field Outcome}
    (h : FieldAlike field field') :
    fieldFailure? field = none ↔ fieldFailure? field' = none := by
  obtain ⟨name, outcome, required⟩ := field
  obtain ⟨name', outcome', required'⟩ := field'
  obtain ⟨-, same, outcomes⟩ := h
  cases outcomes with
  | value | failure => simp [fieldFailure?]
  | noValue =>
    cases (same : required = required')
    cases required <;> simp [fieldFailure?]

theorem undeclared_congr {names names' : List String} (h : ∀ {key}, key ∈ names ↔ key ∈ names')
    (entries : Entries Value) : undeclared names entries = undeclared names' entries := by
  refine List.filter_congr fun entry _ ↦ congrArg not ?_
  rw [Bool.eq_iff_iff, List.contains_iff_mem, List.contains_iff_mem, h]

/-- Declared keys that can be paired so that each is alike with its partner. -/
theorem alike_schema {α : Type} {run : α → Check} {fields fields' : List (Field α)}
    (h : Pairs (fun field field' ↦ field.name = field'.name ∧ field.required = field'.required ∧
      (run field.type).Alike (run field'.type)) fields fields') (unknownKeys : UnknownKeys) :
    (schema (fields.map (Field.map run)) unknownKeys).Alike
      (schema (fields'.map (Field.map run)) unknownKeys) := by
  intro input
  cases input with
  | none => exact .noValue
  | some v =>
    cases v with
    | object entries =>
      have outcomes : Pairs FieldAlike (fields.map (fieldOutcome run entries))
          (fields'.map (fieldOutcome run entries)) := by
        refine h.map fun field field' same ↦ ?_
        obtain ⟨names, required, alike⟩ := same
        refine ⟨names, required, ?_⟩
        rw [fieldOutcome, fieldOutcome, names]
        exact alike _
      have names : ∀ {key}, key ∈ fields.map Field.name ↔ key ∈ fields'.map Field.name :=
        h.mem_map_iff fun field field' same ↦ same.1
      have silent := outcomes.forall_iff fun field field' same ↦ same.fieldFailure?_eq_none_iff
      rw [schema_object, schema_object, undeclared_congr names]
      -- what is kept beside the declared keys is the same in both objects
      refine Outcome.alike_ofMembers (Value.object_beq_iff.2 ?_) ?_
      · refine (outcomes.filterMap fun field field' same ↦ rel_fieldEntry same).append ?_
        exact .of_forall₂ (List.forall₂_same.2 fun entry _ ↦ ⟨rfl, BEq.rfl⟩)
      · rw [List.append_eq_nil_iff, List.append_eq_nil_iff, List.filterMap_eq_nil_iff,
          List.filterMap_eq_nil_iff, silent]
    | null | bool | number | string | array => exact .failure BEq.rfl

/-! ### Dictionaries -/

theorem insert_congr {es fs : Entries Value} {e f : String × Value}
    (h : List.Forall₂ Value.EntryEq es fs) (same : Value.EntryEq e f) :
    List.Forall₂ Value.EntryEq (es.insert e.1 e.2) (fs.insert f.1 f.2) := by
  induction h with
  | nil => exact .cons same .nil
  | @cons e' f' es fs first rest ih =>
    obtain ⟨key, value⟩ := e'
    obtain ⟨key', value'⟩ := f'
    have keys : key = key' := first.1
    rw [Entries.insert, Entries.insert, ← keys, ← same.1]
    split
    · exact .cons ⟨rfl, same.2⟩ rest
    · exact .cons ⟨rfl, first.2⟩ (same.1 ▸ ih)

theorem insertAll_congr {es fs added added' : Entries Value}
    (h : List.Forall₂ Value.EntryEq es fs) (h' : List.Forall₂ Value.EntryEq added added') :
    List.Forall₂ Value.EntryEq (es.insertAll added) (fs.insertAll added') := by
  induction h' generalizing es fs with
  | nil => exact h
  | cons first _ ih => exact ih (insert_congr h first)

/-- Whether two members of a dictionary put equal entries, or none, and both or none fail. -/
def MemberAlike (member member' : Option (String × Value) × Option MemberFailure) : Prop :=
  Option.Rel Value.EntryEq member.1 member'.1 ∧ (member.2 = none ↔ member'.2 = none)

theorem coerceKey_alike (h : left.Alike left') (key : String) :
    coerceKey left key = coerceKey left' key ∨
      ∃ error error', coerceKey left key = .error error ∧ coerceKey left' key = .error error' := by
  have outcomes := h (some (.string key))
  rw [coerceKey, coerceKey]
  generalize left (some (.string key)) = o at outcomes ⊢
  generalize left' (some (.string key)) = o' at outcomes ⊢
  cases outcomes with
  | noValue => exact .inl rfl
  | failure => exact .inr ⟨_, _, rfl, rfl⟩
  | value same =>
    cases Value.same_of_equal same with
    | string s => exact .inl rfl
    | null | bool | number | array | object => exact .inr ⟨_, _, rfl, rfl⟩

theorem dictionaryEntry_alike (hLeft : left.Alike left') (hRight : right.Alike right')
    (entry : String × Value) :
    MemberAlike (dictionaryEntry left right entry) (dictionaryEntry left' right' entry) := by
  rw [dictionaryEntry, dictionaryEntry]
  rcases coerceKey_alike hLeft entry.1 with same | ⟨error, error', failed, failed'⟩
  · rw [same]
    rcases coerceKey left' entry.1 with error | - | key
    · exact ⟨.some ⟨rfl, BEq.rfl⟩, Iff.rfl⟩
    · exact ⟨.none, Iff.rfl⟩
    · have outcomes := hRight (some entry.2)
      simp only
      generalize right (some entry.2) = o at outcomes ⊢
      generalize right' (some entry.2) = o' at outcomes ⊢
      cases outcomes with
      | value same => exact ⟨.some ⟨rfl, same⟩, Iff.rfl⟩
      | noValue => exact ⟨.none, Iff.rfl⟩
      | failure same => exact ⟨.some ⟨rfl, same⟩, by simp⟩
  · rw [failed, failed']
    exact ⟨.some ⟨rfl, BEq.rfl⟩, by simp⟩

theorem Alike.dictionary (hLeft : left.Alike left') (hRight : right.Alike right') :
    (left.dictionary right).Alike (left'.dictionary right') := by
  intro input
  cases input with
  | none => exact .noValue
  | some v =>
    cases v with
    | object entries =>
      -- both sides go through the same entries, so their members correspond one by one
      have members : List.Forall₂ MemberAlike (entries.map (dictionaryEntry left right))
          (entries.map (dictionaryEntry left' right')) :=
        List.forall₂_map_left_iff.2 (List.forall₂_map_right_iff.2
          (List.forall₂_same.2 fun entry _ ↦ dictionaryEntry_alike hLeft hRight entry))
      have collected : List.Forall₂ Value.EntryEq
          ((entries.map (dictionaryEntry left right)).filterMap Prod.fst)
          ((entries.map (dictionaryEntry left' right')).filterMap Prod.fst) :=
        List.rel_filterMap (fun _ _ alike ↦ alike.1) members
      refine Outcome.alike_ofMembers
        (Value.object_beq_iff.2 (.of_forall₂ (insertAll_congr .nil collected))) ?_
      rw [List.filterMap_eq_nil_iff, List.filterMap_eq_nil_iff]
      exact (Pairs.of_forall₂ members).forall_iff fun _ _ alike ↦ alike.2
    | null | bool | number | string | array => exact .failure BEq.rfl

end Check

end JsonTyping
