import JsonTyping.Maybe
import JsonTyping.Proofs.Enforcement

/-!
# Absent values

A `Maybe` answers undefined input and null by itself and asks its type about other values only. Its
type would have come to the same. The null branch is run first; it yields no value for undefined
input and null for null, whatever the other branch is, and it refuses everything else
(`Check.nominal_nil_of_ne_null`). So a call is a run of the type in which null and a missing value
are read as absence (`Outcome.asPresence`). The two are not quite alike: undefined input may come to
no value, but a value that comes to none was there and has been filtered, which is an error.

What is left for the other branch are the values that are there. Their outcome is that of the
branch, and an error comes with the refusal of the null branch in front of it (`Ty.call_maybe`).
-/

namespace JsonTyping

/-- What the outcome for an input says about absence. -/
def Outcome.asPresence (input : Option Value) : Outcome → Except TypeError (Option Value)
  | .ok (some .null) => .ok none
  | .ok (some v) => .ok (some v)
  | .ok none =>
    match input with
    | none => .ok none
    | some v => .error (.notApplicable v)
  | .error failure => .error failure.error

theorem Outcome.asPresence_ne_ok_null (input : Option Value) (outcome : Outcome) :
    outcome.asPresence input ≠ .ok (some .null) := by
  rcases outcome with failure | - | w
  · simp [asPresence]
  · cases input <;> simp [asPresence]
  · cases w <;> simp [asPresence]

/-- The null branch refuses every value but null, for its kind. -/
theorem Check.nominal_nil_of_ne_null {v : Value} (ne : v ≠ .null) :
    nominal .nil (some v) = .error ((Predicate.kind .nil).failure v) := by
  have refused : (Predicate.kind .nil).test v = false := by
    cases v with
    | null => exact absurd rfl ne
    | bool | number | string | array | object => rfl
  show Rule.enforce ([] ++ .kind .nil :: []) v = _
  exact Rule.enforce_append_cons (List.forall_mem_nil _) refused

/-- A value that is there is handed to the type. -/
theorem Maybe.call_of_ne_null (m : Maybe) {v : Value} (ne : v ≠ .null) :
    m.call (some v) = (m.type.run (some v)).asPresence (some v) := by
  have asked : m.call (some v) = ((m.type.check v).mapError Failure.error).map present? := by
    cases v with
    | null => exact absurd rfl ne
    | bool | number | string | array | object => rfl
  rw [asked, Ty.check]
  rcases m.type.run (some v) with failure | - | w
  · rfl
  · rfl
  · cases w <;> rfl

namespace Ty

variable (t : Ty)

/-- The answers that are given without the type are those that the type would give. -/
theorem call_maybe_eq_asPresence (input : Option Value) :
    t.maybe.call input = (t.maybe.type.run input).asPresence input := by
  have branches : t.maybe.type.run = (Check.nominal .nil).sum t.run := run_sum _ t []
  rcases input with - | v
  · rw [branches]
    rfl
  · by_cases null : v = .null
    · subst null
      rw [branches]
      rfl
    · exact t.maybe.call_of_ne_null null

/-- A value that is there passes the null branch by, and leaves its refusal in front of an error. -/
theorem run_maybe_of_ne_null {v : Value} (ne : v ≠ .null) :
    t.maybe.type.run (some v) =
      (t.run (some v)).mapError fun failure ↦
        ⟨failure.partialValue, .sum ((Predicate.kind .nil).failure v).error failure.error⟩ := by
  have branches : t.maybe.type.run = (Check.nominal .nil).sum t.run := run_sum _ t []
  rw [branches, Check.sum, Check.nominal_nil_of_ne_null ne]
  rcases t.run (some v) with failure | output <;> rfl

/-- **What a call comes to.** A call is a run of the sum of null and the type, in which null and a
value that is missing for undefined input are read as absence, and a value that is missing for
another input as an error. It never yields null. For a value that is not null it yields what the
type yields, read in the same way, and an error of the type is reported next to the violation of the
null branch. -/
theorem call_maybe :
    (∀ input, t.maybe.call input = (t.maybe.type.run input).asPresence input) ∧
    (∀ input, t.maybe.call input ≠ .ok (some .null)) ∧
    ∀ v, v ≠ .null →
      (∀ output, t.run (some v) = .ok output →
        t.maybe.call (some v) = Outcome.asPresence (some v) (.ok output)) ∧
      ∀ failure, t.run (some v) = .error failure →
        t.maybe.call (some v) =
          .error (.sum (.constraint v ⟨"type?", [.string "nil"], v⟩) failure.error) := by
  refine ⟨t.call_maybe_eq_asPresence, fun input ↦ ?_, fun v ne ↦ ⟨fun output came ↦ ?_,
    fun failure failed ↦ ?_⟩⟩
  · rw [call_maybe_eq_asPresence]
    exact Outcome.asPresence_ne_ok_null input _
  · rw [call_maybe_eq_asPresence, run_maybe_of_ne_null t ne, came]
    rfl
  · rw [call_maybe_eq_asPresence, run_maybe_of_ne_null t ne, failed]
    rfl

/-- A filtered text is an error, where undefined input is none. -/
example :
    ((nominal .string).coerce .emptyToUndefined).maybe.call none = .ok none ∧
    ((nominal .string).coerce .emptyToUndefined).maybe.call (some (.string "")) =
      .error (.notApplicable (.string "")) := ⟨rfl, rfl⟩

end Ty

end JsonTyping
