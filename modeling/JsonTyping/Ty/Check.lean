import JsonTyping.Ty.Basic

/-!
# Checking values

Checking runs a type on an input that may be undefined. The outcome is a value, the undefined
value again, or a failure. What one layer does is said by `Kind.check`, in terms of the checks of
its parts; `Ty.run` is the fold of that.

Containers run their members one by one and collect what comes out. A member that fails leaves its
partial value in the container and its error in the list of failures, so that a failing container
is as complete as an accepted one, and no failure hides another.
-/

namespace JsonTyping

/-- A value, no value, or a failure. -/
abbrev Outcome := Except Failure (Option Value)

/-- What a type does with an input that may be undefined. -/
abbrev Check := Option Value → Outcome

namespace Outcome

/-- The outcome of a value that breaks a rule. -/
def ofViolation (v : Value) (violation : Violation) : Outcome :=
  .error ⟨v, .constraint v violation⟩

/-- The outcome of a value that is no container. -/
def notACollection (v : Value) (expected : Primitive) : Outcome :=
  .error ⟨v, .notACollection v expected⟩

/-- The value that is left of a member: what it yields, or its partial value. -/
def remainder? : Outcome → Option Value
  | .ok output => output
  | .error failure => some failure.partialValue

/-- The outcome of a container: it fails if a member does. -/
def ofMembers (assembled : Value) : List MemberFailure → Outcome
  | [] => .ok (some assembled)
  | failures => .error ⟨assembled, .aggregate failures⟩

end Outcome

/-! ### Rules, transforms and labels -/

/-- Passes on a value that keeps a rule. -/
def Rule.enforce (rule : Rule) (v : Value) : Outcome :=
  match rule.check v with
  | .ok () => .ok (some v)
  | .error violation => .ofViolation v violation

/--
Sends a value through transforms in order. A transform that yields no value ends the chain, and so
does one that refuses; the failure then carries the value that was handed to it.
-/
def Transform.applyAll : List Transform → Value → Outcome
  | [], v => .ok (some v)
  | step :: steps, v =>
    match step.apply v with
    | .ok (some next) => applyAll steps next
    | .ok none => .ok none
    | .error reason => .error ⟨v, .coercion v reason⟩

/-- The pairs of labels and raw values of an enum. -/
abbrev EnumMapping := List (Value × Value)

namespace EnumMapping

/-- The labels, in order. -/
def labels (mapping : EnumMapping) : List Value := mapping.map Prod.fst

/-- The label that a raw value stands for. -/
def labelFor? (mapping : EnumMapping) (raw : Value) : Option Value :=
  (mapping.find? fun pair ↦ pair.2 == raw).map Prod.fst

/-- A label stays, a raw value becomes its label, and anything else stays. -/
def toLabel (mapping : EnumMapping) (v : Value) : Value :=
  if mapping.any fun pair ↦ pair.1 == v then v else (mapping.labelFor? v).getD v

end EnumMapping

/-! ### Layers without members -/

namespace Check

/-- Accepts the values of a primitive kind. -/
def nominal (p : Primitive) : Check
  | none => .ok none
  | some v => Rule.enforce [.kind p] v

/-- Runs a check and enforces a rule on what it yields. -/
def constrained (wrapped : Check) (rule : Rule) : Check := fun input ↦
  match wrapped input with
  | .ok (some v) => rule.enforce v
  | outcome => outcome

/-- Sends a defined input through transforms before a check. -/
def coerced (wrapped : Check) (steps : List Transform) : Check
  | none => wrapped none
  | some v =>
    match Transform.applyAll steps v with
    | .ok (some v) => wrapped (some v)
    | outcome => outcome

/-- Yields a default where the input is undefined or a check yields no value. -/
def defaulted (wrapped : Check) (value : Value) : Check
  | none => .ok (some value)
  | some v =>
    match wrapped (some v) with
    | .ok none => .ok (some value)
    | outcome => outcome

/-- Yields what is left where a check fails. -/
def lax (wrapped : Check) : Check := fun input ↦ .ok (wrapped input).remainder?

/-- Runs a second check where a first one fails. -/
def sum (left right : Check) : Check := fun input ↦
  match left input with
  | .ok output => .ok output
  | .error leftFailure =>
    match right input with
    | .ok output => .ok output
    | .error rightFailure =>
      .error ⟨rightFailure.partialValue, .sum leftFailure.error rightFailure.error⟩

/-- Turns raw values into labels before a check. -/
def enum (wrapped : Check) (mapping : EnumMapping) : Check := fun input ↦
  wrapped (input.map mapping.toLabel)

/-! ### Arrays -/

/-- The failures among outcomes of items, under their positions from a given one on. -/
def itemFailures (position : Nat) : List Outcome → List MemberFailure
  | [] => []
  | .ok _ :: outcomes => itemFailures (position + 1) outcomes
  | .error failure :: outcomes =>
    (.index position, failure.error) :: itemFailures (position + 1) outcomes

/-- Runs a check on every item of an array; items that yield no value are left out. -/
def array (member : Check) : Check
  | none => .ok none
  | some (.array items) =>
    let outcomes := items.map fun item ↦ member (some item)
    .ofMembers (.array (outcomes.filterMap Outcome.remainder?)) (itemFailures 0 outcomes)
  | some v => .notACollection v .array

/-! ### Schemas -/

/-- The entry that a declared key contributes to the output. -/
def fieldEntry? (field : Field Outcome) : Option (String × Value) :=
  field.type.remainder?.map fun value ↦ (field.name, value)

/-- The failure of a declared key: its own, or that it is missing. -/
def fieldFailure? (field : Field Outcome) : Option MemberFailure :=
  match field.type with
  | .error failure => some (.key field.name, failure.error)
  | .ok none => if field.required then some (.key field.name, .missingKey field.name) else none
  | .ok (some _) => none

/-- What a schema keeps of the entries that it does not declare. -/
def keptEntries (unknown : Entries Value) : UnknownKeys → Entries Value
  | .preserve => unknown
  | _ => []

/-- The failures for the entries that a schema does not declare. -/
def unknownFailures (unknown : Entries Value) : UnknownKeys → List MemberFailure
  | .reject => unknown.map fun entry ↦ (.key entry.1, .unknownKey entry.1)
  | _ => []

/-- The entries of an object that a schema does not declare. -/
def unknownEntries (fields : List (Field Check)) (entries : Entries Value) : Entries Value :=
  entries.filter fun entry ↦ !fields.any fun field ↦ field.name == entry.1

/--
Runs the check of every declared key on the value under it, or on the undefined input if the key
is missing.
-/
def schema (fields : List (Field Check)) (unknownKeys : UnknownKeys) : Check
  | none => .ok none
  | some (.object entries) =>
    let outcomes := fields.map fun field ↦
      field.map fun check ↦ check (Entries.get? field.name entries)
    let unknown := unknownEntries fields entries
    .ofMembers (.object (outcomes.filterMap fieldEntry? ++ keptEntries unknown unknownKeys))
      (outcomes.filterMap fieldFailure? ++ unknownFailures unknown unknownKeys)
  | some v => .notACollection v .hash

/-! ### Objects with uniform keys and values -/

/-- Runs the check of keys on a key, which has to stay a string. -/
def coerceKey (keys : Check) (key : String) : Except TypeError (Option String) :=
  match keys (some (.string key)) with
  | .ok (some (.string coerced)) => .ok (some coerced)
  | .ok (some other) => .error (.coercion other "map keys must be strings")
  | .ok none => .ok none
  | .error failure => .error failure.error

/--
What becomes of one entry: the entry of the output, if there is one, and the failure, if there is
one. Where the key fails, the entry is kept as it is; where the key yields no value, the entry is
left out whatever its value.
-/
def dictionaryEntry (keys values : Check) (entry : String × Value) :
    Option (String × Value) × Option MemberFailure :=
  match coerceKey keys entry.1 with
  | .error error => (some entry, some (.key entry.1, error))
  | .ok none => (none, none)
  | .ok (some key) =>
    match values (some entry.2) with
    | .ok output => (output.map fun value ↦ (key, value), none)
    | .error failure => (some (key, failure.partialValue), some (.key entry.1, failure.error))

/-- Runs a check on every key and another on every value of an object. -/
def dictionary (keys values : Check) : Check
  | none => .ok none
  | some (.object entries) =>
    let members := entries.map (dictionaryEntry keys values)
    .ofMembers (.object (Entries.ofList (members.filterMap Prod.fst))) (members.filterMap Prod.snd)
  | some v => .notACollection v .hash

end Check

/-! ### Types -/

/-- What a layer does, given what its parts do. -/
def Kind.check : Kind Check → Check
  | nominal p => .nominal p
  | constrained wrapped rule => .constrained wrapped rule
  | coerced wrapped steps => .coerced wrapped steps
  | defaulted wrapped value => .defaulted wrapped value
  | lax wrapped => .lax wrapped
  | sum left right => .sum left right
  | enum wrapped mapping => .enum wrapped mapping
  | array member => .array member
  | schema fields unknownKeys => .schema fields unknownKeys
  | dictionary key value => .dictionary key value

namespace Ty

/-- Runs a type on an input that may be undefined. -/
def run (t : Ty) : Check := t.fold fun k _ ↦ k.check

/-- Running a type runs its parts. -/
theorem run_mk (k : Kind Ty) (notes : Annotations) : run ⟨k, notes⟩ = (k.map run).check :=
  fold_mk _ k notes

/-- Annotations do not matter to a run. -/
theorem run_eq_check (t : Ty) : t.run = (t.kind.map run).check := by
  obtain ⟨k, notes⟩ := t
  exact run_mk k notes

section Layers

variable (t left right : Ty) (notes : Annotations)

@[simp]
theorem run_nominal (p : Primitive) : run ⟨.nominal p, notes⟩ = .nominal p := run_mk _ _

@[simp]
theorem run_constrained (rule : Rule) : run ⟨.constrained t rule, notes⟩ = t.run.constrained rule :=
  run_mk _ _

@[simp]
theorem run_coerced (steps : List Transform) :
    run ⟨.coerced t steps, notes⟩ = t.run.coerced steps := run_mk _ _

@[simp]
theorem run_defaulted (value : Value) : run ⟨.defaulted t value, notes⟩ = t.run.defaulted value :=
  run_mk _ _

@[simp]
theorem run_lax : run ⟨.lax t, notes⟩ = t.run.lax := run_mk _ _

@[simp]
theorem run_sum : run ⟨.sum left right, notes⟩ = left.run.sum right.run := run_mk _ _

@[simp]
theorem run_enum (mapping : EnumMapping) : run ⟨.enum t mapping, notes⟩ = t.run.enum mapping :=
  run_mk _ _

@[simp]
theorem run_array : run ⟨.array t, notes⟩ = t.run.array := run_mk _ _

@[simp]
theorem run_schema (fields : List (Field Ty)) (unknownKeys : UnknownKeys) :
    run ⟨.schema fields unknownKeys, notes⟩ = .schema (fields.map (Field.map run)) unknownKeys :=
  run_mk _ _

@[simp]
theorem run_dictionary : run ⟨.dictionary left right, notes⟩ = left.run.dictionary right.run :=
  run_mk _ _

end Layers

/-- Checks a value, which has to yield a value. -/
def check (t : Ty) (v : Value) : Except Failure Value :=
  match t.run (some v) with
  | .ok (some output) => .ok output
  | .ok none => .error ⟨v, .notApplicable v⟩
  | .error failure => .error failure

theorem check_eq_ok_iff {t : Ty} {v output : Value} :
    t.check v = .ok output ↔ t.run (some v) = .ok (some output) := by
  rw [check]
  split <;> simp_all

/-- The value that a type makes of a value, if it accepts it. -/
def check? (t : Ty) (v : Value) : Option Value := (t.check v).toOption

/-- The value that a type makes of a value, or what a handler makes of the failure. -/
def checkOr (t : Ty) (v : Value) (handle : Failure → Value) : Value :=
  match t.check v with
  | .ok output => output
  | .error failure => handle failure

/-- What a type makes of undefined input. -/
def checkUndefined (t : Ty) : Except TypeError (Option Value) := (t.run none).mapError Failure.error

/-- Whether a type accepts a value. -/
def accepts (t : Ty) (v : Value) : Bool := (t.check v).isOk

end Ty

/-- Whether a value for a value comes out of a type behind a mapping. -/
def EnumMapping.includes (mapping : EnumMapping) (wrapped : Ty) (v : Value) : Bool :=
  match wrapped.run.enum mapping (some v) with
  | .ok output => output.isSome
  | .error _ => false

/-- An enum accepts the values that it includes. -/
theorem Ty.accepts_enum (wrapped : Ty) (mapping : EnumMapping) (notes : Annotations) (v : Value) :
    accepts ⟨.enum wrapped mapping, notes⟩ v = mapping.includes wrapped v := by
  rw [accepts, check, run_enum, EnumMapping.includes]
  rcases wrapped.run.enum mapping (some v) with failure | - | output <;> rfl

end JsonTyping
