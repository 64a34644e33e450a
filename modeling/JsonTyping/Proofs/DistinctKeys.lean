import JsonTyping.Proofs.Labels
import JsonTyping.Proofs.NormalForms
import JsonTyping.Proofs.Preservation

/-!
# Values without repeated keys

In an object no key is repeated (`Value.Distinct`), and a type hands on no other objects as long as
the functions and labels in it play along. `Ty.DistinctKeys` is the condition: transforms make no
objects in which a key is repeated, labels of enums hold none, and schemas declare no name twice.

Nothing has to be assumed of the stock transforms (`Standard.keepsDistinct_of_stock`). Most of them
yield scalars, and those for containers yield what they were given, or nothing, or an array with
what they were given as its only item.
-/

namespace JsonTyping

/-! ### Conversions -/

namespace Conversion

/-- Whether a conversion yields values without repeated keys for values without repeated keys. -/
def KeepsDistinct (convert : Value → Except Refusal Value) : Prop :=
  ∀ v w, v.Distinct → convert v = .ok w → w.Distinct

variable {v w : Value} {convert : Value → Except Refusal Value}

theorem keepsDistinct_ok : KeepsDistinct .ok := by
  rintro v w distinct ⟨⟩
  exact distinct

/-- A conversion that leaves alone what it has converted, and containers are not among it, yields
scalars. -/
theorem keepsDistinct_of_settled (settled : ∀ {v w}, convert v = .ok w → convert w = .ok w)
    (arrays : ∀ items, convert (.array items) ≠ .ok (.array items))
    (objects : ∀ entries, convert (.object entries) ≠ .ok (.object entries)) :
    KeepsDistinct convert := by
  intro v w _ came
  have alone : convert w = .ok w := settled came
  cases w with
  | array items => exact absurd alone (arrays items)
  | object entries => exact absurd alone (objects entries)
  | null | bool | number | string => trivial

theorem keepsDistinct_string : KeepsDistinct string :=
  keepsDistinct_of_settled string_string nofun nofun

theorem keepsDistinct_integer : KeepsDistinct integer :=
  keepsDistinct_of_settled integer_integer nofun nofun

theorem keepsDistinct_float : KeepsDistinct float :=
  keepsDistinct_of_settled float_float nofun nofun

theorem keepsDistinct_boolean : KeepsDistinct boolean :=
  keepsDistinct_of_settled boolean_boolean nofun nofun

theorem keepsDistinct_date : KeepsDistinct date :=
  keepsDistinct_of_settled date_date nofun nofun

theorem keepsDistinct_time : KeepsDistinct time :=
  keepsDistinct_of_settled time_time nofun nofun

theorem keepsDistinct_timestamp : KeepsDistinct timestamp := by
  intro v w _ came
  obtain ⟨t, rfl⟩ := exists_of_timestamp_eq_ok came
  trivial

theorem keepsDistinct_array : KeepsDistinct array := by
  intro v w distinct came
  cases v with
  | null | array =>
    cases came
    exact distinct
  | bool | number | string | object =>
    cases came
    exact ⟨distinct, trivial⟩

theorem keepsDistinct_hash : KeepsDistinct hash := by
  intro v w distinct came
  cases v with
  | null =>
    cases came
    exact ⟨List.nodup_nil, trivial⟩
  | object =>
    cases came
    exact distinct
  | bool | number | string | array => cases came

end Conversion

/-! ### Transforms -/

/-- Whether a transform yields values without repeated keys for values without repeated keys. -/
def Transform.KeepsDistinct (step : Transform) : Prop :=
  ∀ v w, v.Distinct → step.apply v = .ok (some w) → w.Distinct

namespace Transform

variable {convert : Value → Except Refusal Value} {steps : List Transform} {v w : Value}

theorem keepsDistinct_ofConversion (name : String) (h : Conversion.KeepsDistinct convert) :
    (ofConversion name convert).KeepsDistinct := by
  intro v w distinct came
  obtain ⟨u, converted, same⟩ := ofConversion_apply_eq_ok_iff.1 came
  rw [Option.some.inj same]
  exact h v u distinct converted

theorem keepsDistinct_ofParameter (name : String) {blank : Value} (empty : blank.Distinct)
    (h : Conversion.KeepsDistinct convert) : (ofParameter name blank convert).KeepsDistinct := by
  refine keepsDistinct_ofConversion _ fun v w distinct came ↦ ?_
  split at came
  · cases came
    exact empty
  · exact h v w distinct came

theorem keepsDistinct_toNil : toNil.KeepsDistinct := by
  intro v w distinct came
  have same : (if isEmptyText v then .null else v) = w := Option.some.inj (Except.ok.inj came)
  rw [← same]
  split
  · trivial
  · exact distinct

theorem keepsDistinct_emptyToUndefined : emptyToUndefined.KeepsDistinct := by
  intro v w distinct came
  have same : (if isEmptyText v then none else some v) = some w := Except.ok.inj came
  split at same
  · cases same
  · cases same
    exact distinct

theorem distinct_of_applyAll (keep : ∀ step ∈ steps, step.KeepsDistinct) (distinct : v.Distinct)
    (applied : applyAll steps v = .ok (some w)) : w.Distinct := by
  induction steps generalizing v with
  | nil =>
    have same : v = w := Option.some.inj (Except.ok.inj applied)
    exact same ▸ distinct
  | cons step steps ih =>
    obtain ⟨first, others⟩ := List.forall_mem_cons.1 keep
    rcases next : step.apply v with reason | - | u
    · simp [applyAll, next] at applied
    · simp [applyAll, next] at applied
    · have rest : applyAll steps u = .ok (some w) := by simpa [applyAll, next] using applied
      exact ih others (first v u distinct next) rest

end Transform

namespace Standard

open Conversion Transform

variable {p : Primitive} {step : Transform}

theorem keepsDistinct_of_coercion? (eq : coercion? p = some step) : step.KeepsDistinct := by
  cases p with
  | any => cases eq
  | nil => exact Option.some.inj eq ▸ keepsDistinct_toNil
  | bool => exact Option.some.inj eq ▸ keepsDistinct_ofConversion _ keepsDistinct_boolean
  | integer => exact Option.some.inj eq ▸ keepsDistinct_ofConversion _ keepsDistinct_integer
  | float => exact Option.some.inj eq ▸ keepsDistinct_ofConversion _ keepsDistinct_float
  | string => exact Option.some.inj eq ▸ keepsDistinct_ofConversion _ keepsDistinct_string
  | date => exact Option.some.inj eq ▸ keepsDistinct_ofConversion _ keepsDistinct_date
  | dateTime => exact Option.some.inj eq ▸ keepsDistinct_ofConversion _ keepsDistinct_timestamp
  | time => exact Option.some.inj eq ▸ keepsDistinct_ofConversion _ keepsDistinct_time
  | array => exact Option.some.inj eq ▸ keepsDistinct_ofConversion _ keepsDistinct_array
  | hash => exact Option.some.inj eq ▸ keepsDistinct_ofConversion _ keepsDistinct_hash

theorem keepsDistinct_of_parameterCoercion? (eq : parameterCoercion? p = some step) :
    step.KeepsDistinct := by
  have null : Value.null.Distinct := trivial
  have noEntry : (Value.object []).Distinct := ⟨List.nodup_nil, trivial⟩
  cases p with
  | any | string => cases eq
  | nil => exact Option.some.inj eq ▸ keepsDistinct_ofParameter _ null keepsDistinct_ok
  | bool => exact Option.some.inj eq ▸ keepsDistinct_ofParameter _ null keepsDistinct_boolean
  | integer => exact Option.some.inj eq ▸ keepsDistinct_ofParameter _ null keepsDistinct_integer
  | float => exact Option.some.inj eq ▸ keepsDistinct_ofParameter _ null keepsDistinct_float
  | date => exact Option.some.inj eq ▸ keepsDistinct_ofParameter _ null keepsDistinct_date
  | dateTime => exact Option.some.inj eq ▸ keepsDistinct_ofParameter _ null keepsDistinct_timestamp
  | time => exact Option.some.inj eq ▸ keepsDistinct_ofParameter _ null keepsDistinct_time
  | array => exact Option.some.inj eq ▸ keepsDistinct_ofParameter _ trivial keepsDistinct_array
  | hash => exact Option.some.inj eq ▸ keepsDistinct_ofParameter _ noEntry keepsDistinct_hash

/-- No transform of the library repeats a key. -/
theorem keepsDistinct_of_stock
    (stock : coercion? p = some step ∨ parameterCoercion? p = some step ∨
      step = emptyToUndefined) : step.KeepsDistinct := by
  rcases stock with eq | eq | rfl
  · exact keepsDistinct_of_coercion? eq
  · exact keepsDistinct_of_parameterCoercion? eq
  · exact keepsDistinct_emptyToUndefined

end Standard

/-! ### Types -/

/-- A value that is not in the mapping stays, so it is enough that no label repeats a key. -/
theorem EnumMapping.distinct_toLabel {mapping : EnumMapping} {v : Value}
    (labels : ∀ pair ∈ mapping, pair.1.Distinct) (distinct : v.Distinct) :
    (mapping.toLabel v).Distinct := by
  rcases mapping.toLabel_eq_self_or_mem v with same | mem
  · rwa [same]
  · obtain ⟨pair, listed, eq⟩ := List.mem_map.1 mem
    exact eq ▸ labels pair listed

/-- Whether a type keeps keys apart: its transforms and the labels of its enums repeat no key where
none was repeated before, and its schemas declare no name twice. -/
def Ty.DistinctKeys (t : Ty) : Prop :=
  t.Everywhere fun s ↦
    match s.kind with
    | .coerced _ steps => ∀ step ∈ steps, step.KeepsDistinct
    | .enum _ mapping => ∀ pair ∈ mapping, pair.1.Distinct
    | .schema fields _ => (fields.map Field.name).Nodup
    | _ => True

end JsonTyping
